import Mathlib.Logic.ExistsUnique
import StateWeave.Proofs.Addition

/-! Wrappers around the type in an annotation. The search for markers, the test for class variables
and the search for the stored type walk along them separately. At each wrapper a walk goes on with
the first item or stops, so one relation, `Wraps`, says where all of them arrive, and a zero value
depends on nothing but what stands there. -/

namespace StateWeave

namespace Annot

/-- The outermost wrapper of an annotation, if it has one, and the items in its brackets. -/
def outermost? : Expr → Option (Wrapper × List Expr)
  | .subscript wrapper index _ => (Wrapper.ofExpr? wrapper).map (·, index.items)
  | _ => none

/-- The second expression is left of the first when every wrapper is taken off. -/
inductive Wraps : Expr → Expr → Prop
  | bare {core : Expr} (outer : outermost? core = none) : Wraps core core
  | within {e first core : Expr} {kind : Wrapper} {metadata : List Expr}
      (outer : outermost? e = some (kind, first :: metadata)) (inner : Wraps first core) :
      Wraps e core

/-- Taking wrappers off comes to one with nothing in its brackets. -/
inductive WrapsNothing : Expr → Prop
  | empty {e : Expr} {kind : Wrapper} (outer : outermost? e = some (kind, [])) : WrapsNothing e
  | within {e first : Expr} {kind : Wrapper} {metadata : List Expr}
      (outer : outermost? e = some (kind, first :: metadata)) (inner : WrapsNothing first) :
      WrapsNothing e

section Walks

variable {wrapper index e first core : Expr} {metadata : List Expr} {ctx : Ctx} {kind : Wrapper}
  {fault : Fault}

theorem map_eq_error {α β : Type} {f : α → β} {r : Except Fault α} :
    f <$> r = .error fault ↔ r = .error fault := by
  cases r with
  | ok a => exact ⟨nofun, nofun⟩
  | error other => exact ⟨by rintro ⟨⟩; rfl, by rintro ⟨⟩; rfl⟩

theorem items_of_single (nil : ∀ ctx, index ≠ .sequence .tuple [] ctx)
    (cons : ∀ first metadata ctx, index ≠ .sequence .tuple (first :: metadata) ctx) :
    index.items = [index] := by
  unfold Expr.items
  split
  · rename_i elts ctx
    cases elts with
    | nil => exact absurd rfl (nil ctx)
    | cons first metadata => exact absurd rfl (cons first metadata ctx)
  · rfl

theorem outermost?_of_wrapper (h : Wrapper.ofExpr? wrapper = some kind) :
    outermost? (.subscript wrapper index ctx) = some (kind, index.items) := by
  rw [outermost?, h, Option.map_some]

theorem outermost?_of_isSome (h : (Wrapper.ofExpr? wrapper).isSome = true) :
    ∃ kind, outermost? (.subscript wrapper index ctx) = some (kind, index.items) := by
  obtain ⟨kind, hkind⟩ := Option.isSome_iff_exists.1 h
  exact ⟨kind, outermost?_of_wrapper hkind⟩

theorem outermost?_of_other (h : ¬(Wrapper.ofExpr? wrapper).isSome = true) :
    outermost? (.subscript wrapper index ctx) = none := by
  rw [outermost?, Option.not_isSome_iff_eq_none.1 h, Option.map_none]

theorem outermost?_of_not_subscript (h : ∀ wrapper index ctx, e ≠ .subscript wrapper index ctx) :
    outermost? e = none := by
  unfold outermost?
  split
  · exact absurd rfl (h _ _ _)
  · rfl

/-- Induction from a wrapper to the first of its items. -/
theorem wrapper_induction {motive : Expr → Prop}
    (bare : ∀ e, outermost? e = none → motive e)
    (empty : ∀ e kind, outermost? e = some (kind, []) → motive e)
    (within : ∀ e kind first metadata, outermost? e = some (kind, first :: metadata) →
      motive first → motive e) (e : Expr) : motive e := by
  -- the brackets hold an empty tuple, a tuple with a first item, or a single item
  fun_induction stored e with
  | case1 wrapper ctx ctx' hw =>
    obtain ⟨kind, outer⟩ := outermost?_of_isSome hw
    exact empty _ kind outer
  | case3 wrapper first metadata ctx ctx' hw ih =>
    obtain ⟨kind, outer⟩ := outermost?_of_isSome hw
    exact within _ kind first metadata outer ih
  | case5 wrapper index ctx nil cons hw ih =>
    obtain ⟨kind, outer⟩ := outermost?_of_isSome hw
    rw [items_of_single nil cons] at outer
    exact within _ kind index [] outer ih
  | case2 wrapper ctx ctx' hw | case4 wrapper first metadata ctx ctx' hw
  | case6 wrapper index ctx nil cons hw => exact bare _ (outermost?_of_other hw)
  | case7 e _ _ other => exact bare e (outermost?_of_not_subscript other)

theorem stored_eq (e : Expr) :
    stored e =
      match outermost? e with
      | none => .ok e
      | some (_, []) => .error .emptyWrapper
      | some (_, first :: _) => stored first := by
  fun_cases stored e with
  | case1 wrapper ctx ctx' hw | case3 wrapper first metadata ctx ctx' hw =>
    obtain ⟨kind, outer⟩ := outermost?_of_isSome hw
    rw [outer]
    rfl
  | case5 wrapper index ctx nil cons hw =>
    obtain ⟨kind, outer⟩ := outermost?_of_isSome hw
    rw [outer, items_of_single nil cons]
  | case2 wrapper ctx ctx' hw | case4 wrapper first metadata ctx ctx' hw
  | case6 wrapper index ctx nil cons hw => rw [outermost?_of_other hw]
  | case7 e _ _ other => rw [outermost?_of_not_subscript other]

theorem markers_eq (e : Expr) :
    markers e =
      match outermost? e with
      | none => .ok []
      | some (_, []) => .error .emptyWrapper
      | some (.annotated, first :: metadata) => (· ++ Marker.ofExprs metadata) <$> markers first
      | some (_, first :: _) => markers first := by
  fun_cases markers e with
  | case1 wrapper ctx ctx' hw =>
    obtain ⟨kind, outer⟩ := outermost?_of_isSome hw
    rw [outer]
    rfl
  | case3 wrapper first metadata ctx ctx' hw =>
    rw [outermost?_of_wrapper hw]
    simp [Expr.items]
  | case4 wrapper first metadata ctx ctx' kind other hw =>
    rw [outermost?_of_wrapper hw]
    cases kind with
    | annotated => exact absurd rfl other
    | classVar | final => rfl
  | case6 wrapper index ctx nil cons hw =>
    obtain ⟨kind, outer⟩ := outermost?_of_isSome hw
    rw [outer, items_of_single nil cons]
    -- a single item comes without metadata, so nothing is added to its markers
    cases kind <;> simp [Marker.ofExprs]
  | case2 wrapper ctx ctx' hw | case7 wrapper index ctx nil cons hw =>
    rw [outermost?_of_other hw]
  | case5 wrapper first metadata ctx ctx' hw => rw [outermost?_of_other (by simp [hw])]
  | case8 e _ _ other => rw [outermost?_of_not_subscript other]

theorem isClassVar_eq (e : Expr) :
    isClassVar e =
      match outermost? e with
      | none => .ok (Wrapper.ofExpr? e == some .classVar)
      | some (.classVar, _) => .ok true
      | some (.annotated, []) => .error .emptyWrapper
      | some (.annotated, first :: _) => isClassVar first
      | some (.final, _) => .ok false := by
  fun_cases isClassVar e with
  | case1 wrapper ctx ctx' hw | case4 wrapper first rest ctx ctx' hw
  | case7 wrapper index ctx nil cons hw => rw [outermost?_of_wrapper hw]
  | case2 wrapper ctx ctx' hw | case5 wrapper first rest ctx ctx' hw =>
    rw [outermost?_of_wrapper hw]
    rfl
  | case8 wrapper index ctx nil cons hw =>
    rw [outermost?_of_wrapper hw, items_of_single nil cons]
  -- what is neither of the two is `Final` or no wrapper
  | case3 wrapper ctx ctx' hvar hannot | case6 wrapper first rest ctx ctx' hvar hannot
  | case9 wrapper index ctx nil cons hvar hannot =>
    cases hw : Wrapper.ofExpr? wrapper with
    | none =>
      rw [outermost?_of_other (by simp [hw])]
      rfl
    | some kind =>
      rw [outermost?_of_wrapper hw]
      cases kind with
      | classVar => exact absurd hw hvar
      | annotated => exact absurd hw hannot
      | final => rfl
  | case10 e _ _ other => rw [outermost?_of_not_subscript other]

/-- What stands inside all wrappers is no wrapper itself. -/
theorem Wraps.bare_core (h : Wraps e core) : outermost? core = none := by
  induction h with
  | bare outer => exact outer
  | within _ _ ih => exact ih

/-- Metadata is read without fail, so the first item alone decides whether a wrapper has markers. -/
theorem markers_eq_error_of_within (outer : outermost? e = some (kind, first :: metadata)) :
    markers e = .error fault ↔ markers first = .error fault := by
  rw [markers_eq, outer]
  cases kind with
  | annotated => exact map_eq_error
  | classVar | final => exact Iff.rfl

/-- A walk that fails, if it does, at empty brackets that lie on its way from wrapper to first
item. It may stop anywhere before. -/
structure FailsAlong {α : Type} (walk : Expr → Except Fault α) : Prop where
  bare {e : Expr} {fault : Fault} (outer : outermost? e = none) : walk e ≠ .error fault
  empty {e : Expr} {kind : Wrapper} {fault : Fault} (outer : outermost? e = some (kind, []))
    (h : walk e = .error fault) : fault = .emptyWrapper
  within {e first : Expr} {kind : Wrapper} {metadata : List Expr} {fault : Fault}
    (outer : outermost? e = some (kind, first :: metadata)) (h : walk e = .error fault) :
    walk first = .error fault

theorem FailsAlong.wrapsNothing {α : Type} {walk : Expr → Except Fault α} (hwalk : FailsAlong walk)
    (h : walk e = .error fault) : fault = .emptyWrapper ∧ WrapsNothing e := by
  induction e using wrapper_induction with
  | bare e outer => exact absurd h (hwalk.bare outer)
  | empty e kind outer => exact ⟨hwalk.empty outer h, .empty outer⟩
  | within e kind first metadata outer ih =>
    exact (ih (hwalk.within outer h)).imp_right (.within outer)

theorem stored_eq_ok_iff : stored e = .ok core ↔ Wraps e core := by
  constructor
  · intro h
    induction e using wrapper_induction with
    | bare e outer =>
      rw [stored_eq, outer] at h
      cases h
      exact .bare outer
    | empty e kind outer =>
      rw [stored_eq, outer] at h
      cases h
    | within e kind first metadata outer ih =>
      rw [stored_eq, outer] at h
      exact .within outer (ih h)
  · intro h
    induction h with
    | bare outer => rw [stored_eq, outer]
    | within outer _ ih =>
      rw [stored_eq, outer]
      exact ih

theorem failsAlong_stored : FailsAlong stored where
  bare outer := by simp [stored_eq, outer]
  empty outer h := by
    rw [stored_eq, outer] at h
    cases h
    rfl
  within outer h := by
    rw [stored_eq, outer] at h
    exact h

theorem failsAlong_markers : FailsAlong markers where
  bare outer := by simp [markers_eq, outer]
  empty outer h := by
    rw [markers_eq, outer] at h
    cases h
    rfl
  within outer := (markers_eq_error_of_within outer).1

theorem failsAlong_isClassVar : FailsAlong isClassVar where
  bare outer := by simp [isClassVar_eq, outer]
  empty {_ kind _} outer h := by
    rw [isClassVar_eq, outer] at h
    cases kind <;> cases h
    rfl
  within {_ _ kind _ _} outer h := by
    rw [isClassVar_eq, outer] at h
    cases kind with
    | annotated => exact h
    | classVar | final => cases h

theorem stored_eq_error_iff :
    stored e = .error fault ↔ fault = .emptyWrapper ∧ WrapsNothing e := by
  refine ⟨failsAlong_stored.wrapsNothing, ?_⟩
  rintro ⟨rfl, h⟩
  induction h with
  | empty outer => rw [stored_eq, outer]
  | within outer _ ih =>
    rw [stored_eq, outer]
    exact ih

theorem markers_eq_error_iff :
    markers e = .error fault ↔ fault = .emptyWrapper ∧ WrapsNothing e := by
  refine ⟨failsAlong_markers.wrapsNothing, ?_⟩
  rintro ⟨rfl, h⟩
  induction h with
  | empty outer => rw [markers_eq, outer]
  | within outer _ ih => exact (markers_eq_error_of_within outer).2 ih

theorem Wraps.unique {other : Expr} (h : Wraps e core) (h' : Wraps e other) : other = core := by
  have same := (stored_eq_ok_iff.2 h').symm.trans (stored_eq_ok_iff.2 h)
  cases same
  rfl

theorem exists_wraps {ms : List Marker} (h : markers e = .ok ms) : ∃ core, Wraps e core := by
  cases hs : stored e with
  | ok core => exact ⟨core, stored_eq_ok_iff.1 hs⟩
  | error fault =>
    rw [markers_eq_error_iff.2 (stored_eq_error_iff.1 hs)] at h
    cases h

end Walks

end Annot

section Zeros

open Annot

variable (zeros : ZeroTable) {e core : Expr} {fault : Fault}

theorem ZeroTable.valueFor_of_wraps (h : Wraps e core) :
    zeros.valueFor (some e) = zeros.settle (typeName core) := by
  simp only [valueFor, storedTypeName, stored_eq_ok_iff.2 h]
  rfl

theorem ZeroTable.valueFor_of_stored_error (h : stored e = .error fault) :
    zeros.valueFor (some e) = .error fault := by
  simp only [valueFor, storedTypeName, h]
  rfl

theorem zeroValue_of_wraps (h : Wraps e core) :
    zeroValue zeros (some e) = zeroValue zeros (some core) := by
  have arrives : storedTypeName (some e) = storedTypeName (some core) := by
    simp only [storedTypeName, stored_eq_ok_iff.2 h, stored_eq_ok_iff.2 (.bare h.bare_core)]
  rw [zeroValue, zeroValue, arrives]

end Zeros

namespace Annot

/-- What the table of zero values holds for the type cannot show itself, so no warning can be written
that it is no literal. -/
def Unshown (zeros : ZeroTable) (core : Expr) (why : ShowFault) : Prop :=
  ∃ datum, zeros.lookup (typeName core) = .error datum ∧ datum.shown = .error why

/-- An annotation by a plain name with this in its brackets. -/
def bracketed (name : String) (index : Expr) : Expr :=
  .subscript (.name name .load) index .load

/-- `ClassVar[Annotated[int, never_reload]]` -/
def retainedCount : Expr :=
  bracketed "ClassVar" (bracketed "Annotated"
    (.sequence .tuple [.name "int" .load, .name "never_reload" .load] .load))

/-- `typing.Annotated[Final[int],]` -/
def finalCount : Expr :=
  .subscript (.attribute (.name "typing" .load) "Annotated" .load)
    (.sequence .tuple [bracketed "Final" (.name "int" .load)] .load) .load

/-- `Annotated[Annotated[()], never_reload]` -/
def hollowCount : Expr :=
  bracketed "Annotated"
    (.sequence .tuple [bracketed "Annotated" (.sequence .tuple [] .load), .name "never_reload" .load]
      .load)

/-- A table whose value for whole numbers raises a failure of its own when it is shown. -/
def muteZeros : ZeroTable :=
  ⟨[("int", .object (.error (.raised "ValueError" "mute")))]⟩

/-- `ClassVar[Annotated[()]]` is a class variable all the same, though it has no type. -/
example : isClassVar (bracketed "ClassVar" (bracketed "Annotated" (.sequence .tuple [] .load))) =
    .ok true :=
  rfl

end Annot

end StateWeave
