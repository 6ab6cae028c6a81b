import StateWeave.Proofs.Classes
import StateWeave.Proofs.Unloading
import StateWeave.Proofs.Wrappers

/-! What stops a weave once the module is read. Reading looks for markers below the same wrappers
that the stored type is looked for, so no annotation of a class that has been read stops it. What is
left are orders that can neither be read nor be quoted, zero values that are no literals and cannot
show themselves, and type parameters that are not plain names. -/

namespace StateWeave

open ClassModel (ReadStep bind_eq_ok)

namespace Annot

/-- Whether the markers of an annotation can be read. -/
def Readable (annot : Option Expr) : Prop :=
  ∃ ms, markersOf annot = .ok ms

theorem readable_none : Readable none :=
  ⟨[], rfl⟩

theorem Readable.or {annot annot' : Option Expr} (h : Readable annot) (h' : Readable annot') :
    Readable (annot.or annot') := by
  cases annot with
  | none => exact h'
  | some e => exact h

end Annot

/-- The table holds something for the type of this storage that is no literal and cannot show
itself. -/
def ZeroTable.Unshown (zeros : ZeroTable) (annot : Option Expr) (why : ShowFault) : Prop :=
  ∃ e core, annot = some e ∧ Annot.Wraps e core ∧ Annot.Unshown zeros core why

/-- What keeps storage with this annotation from a zero value. -/
def ZeroTable.fault? (zeros : ZeroTable) (annot : Option Expr) : Option Fault :=
  match zeros.valueFor annot with
  | .ok _ => none
  | .error fault => some fault

theorem ZeroTable.fault?_eq_some {zeros : ZeroTable} {annot : Option Expr} {fault : Fault} :
    zeros.fault? annot = some fault ↔ zeros.valueFor annot = .error fault := by
  unfold fault?
  split <;> simp_all

/-- Nothing but a value that cannot show itself keeps storage from a zero value when its markers can
be read. -/
theorem ZeroTable.fault?_of_readable (zeros : ZeroTable) {annot : Option Expr} {fault : Fault}
    (h : Annot.Readable annot) :
    zeros.fault? annot = some fault ↔ ∃ why, zeros.Unshown annot why ∧ fault = .unshown why := by
  rw [fault?_eq_some]
  cases annot with
  | none =>
    constructor
    · intro hnone
      cases hnone
    · rintro ⟨why, ⟨e, core, he, -⟩, -⟩
      cases he
  | some e =>
    obtain ⟨ms, hms⟩ := h
    obtain ⟨core, hcore⟩ := Annot.exists_wraps hms
    rw [zeros.valueFor_of_wraps hcore, settle_eq_error_iff]
    constructor
    · rintro ⟨datum, why, hlookup, hwhy, rfl⟩
      exact ⟨why, ⟨e, core, rfl, hcore, datum, hlookup, hwhy⟩, rfl⟩
    · rintro ⟨why, ⟨e', other, he, hother, datum, hlookup, hwhy⟩, rfl⟩
      cases he
      rw [hcore.unique hother] at hlookup
      exact ⟨datum, why, hlookup, hwhy, rfl⟩

/-- The first item of which something is said, and what is said of it. -/
def FirstOf {α β : Type} (P : α → β → Prop) (items : List α) (b : β) : Prop :=
  ∃ before a after, items = before ++ a :: after ∧ (∀ x ∈ before, ∀ b', ¬P x b') ∧ P a b

section FirstOf

variable {α β : Type} {P : α → β → Prop} {f : α → Option β} {items : List α}

theorem findSome?_eq_none_of_iff (h : ∀ a ∈ items, ∀ b, f a = some b ↔ P a b) :
    items.findSome? f = none ↔ ∀ a ∈ items, ∀ b, ¬P a b := by
  rw [List.findSome?_eq_none_iff]
  refine forall₂_congr fun a ha => ?_
  simp only [Option.eq_none_iff_forall_ne_some, ne_eq, h a ha]

theorem findSome?_eq_some_of_iff (h : ∀ a ∈ items, ∀ b, f a = some b ↔ P a b) {b : β} :
    items.findSome? f = some b ↔ FirstOf P items b := by
  rw [List.findSome?_eq_some_iff]
  constructor
  · rintro ⟨before, a, after, rfl, ha, hbefore⟩
    refine ⟨before, a, after, rfl, fun x hx b' hb' => ?_, (h a (by simp) b).1 ha⟩
    have hnone := hbefore x hx
    rw [(h x (by simp [hx]) b').2 hb'] at hnone
    cases hnone
  · rintro ⟨before, a, after, rfl, hbefore, ha⟩
    refine ⟨before, a, after, rfl, (h a (by simp) b).2 ha, fun x hx => ?_⟩
    rw [Option.eq_none_iff_forall_ne_some]
    exact fun b' hb' => hbefore x hx b' ((h x (by simp [hx]) b').1 hb')

theorem FirstOf.congr {Q : α → β → Prop} {b : β} (h : ∀ a ∈ items, ∀ b, P a b ↔ Q a b)
    (hfirst : FirstOf P items b) : FirstOf Q items b := by
  obtain ⟨before, a, after, rfl, hbefore, ha⟩ := hfirst
  exact ⟨before, a, after, rfl, fun x hx b' hb' => hbefore x hx b' ((h x (by simp [hx]) b').2 hb'),
    (h a (by simp) b).1 ha⟩

theorem FirstOf.exists_mem {b : β} (h : FirstOf P items b) : ∃ a ∈ items, P a b := by
  obtain ⟨before, a, after, rfl, -, ha⟩ := h
  exact ⟨a, by simp, ha⟩

end FirstOf

theorem ReloadUnit.resetsFor_eq_error (zeros : ZeroTable) (c : ClassModel) (fs : List Field)
    {fault : Fault} :
    resetsFor zeros c fs = .error fault ↔
      fs.findSome? (fun f => zeros.fault? f.annot) = some fault := by
  induction fs with
  | nil => simp [resetsFor]
  | cons f fs ih =>
    rw [List.findSome?_cons, ZeroTable.fault?]
    cases hz : zeros.valueFor f.annot with
    | error fault => simp [resetsFor, hz, bind, Except.bind]
    | ok zero =>
      simp only [← ih]
      cases hr : resetsFor zeros c fs with
      | error fault => simp [resetsFor, hz, hr, bind, Except.bind]
      | ok rest => simp [resetsFor, hz, hr, bind, Except.bind, pure, Except.pure]

namespace ClassModel

variable {c c' : ClassModel}

/-- The annotations of all fields can be read. -/
def FieldsReadable (c : ClassModel) : Prop :=
  ∀ f ∈ c.fields, Annot.Readable f.annot

theorem FieldsReadable.addField (h : c.FieldsReadable) {f : Field} (hf : Annot.Readable f.annot) :
    (c.addField f).FieldsReadable :=
  forall_mem_addField (P := fun g => Annot.Readable g.annot) (fun _ hg => hg.or hf) h hf

theorem FieldsReadable.addProperty (h : c.FieldsReadable) {name : String} {annot : Option Expr}
    (ha : Annot.Readable annot) {markers : List Marker} :
    (c.addProperty name annot markers).FieldsReadable :=
  FieldsReadable.addField (c := { c with properties := c.properties ++ [⟨name, markers, _, _⟩] }) h
    (f := ⟨backingName (mangle c.name name), _, annot, _, _, _⟩) ha

theorem FieldsReadable.addEvent (h : c.FieldsReadable) {name : String} {annot : Option Expr}
    (ha : Annot.Readable annot) {markers : List Marker} :
    (c.addEvent name annot markers).FieldsReadable :=
  FieldsReadable.addField (c := { c with events := c.events ++ [⟨name, markers, _, _⟩] }) h
    (f := ⟨name, _, annot, _, _, _⟩) ha

theorem FieldsReadable.foldl_declareStored {target : Option SingleTarget} {markers : List Marker}
    (ht : Annot.Readable (target.bind (·.annot))) (names : List String) (h : c.FieldsReadable) :
    (names.foldl (declareStored target markers) c).FieldsReadable := by
  induction names generalizing c with
  | nil => exact h
  | cons name names ih =>
    refine ih ?_
    unfold declareStored
    split_ifs
    · exact h.addField ht
    · exact h.addField Annot.readable_none

theorem FieldsReadable.step {index : Nat} {s : Stmt} (h : c.FieldsReadable)
    (hs : ReadStep c index s c') : c'.FieldsReadable := by
  cases hs with
  | function | imports | idle | annotated | dunders => exact h
  | declare _ _ _ hm => exact h.addField (f := ⟨_, _, _, _, _, _⟩) ⟨_, hm⟩
  | stores _ _ hm => exact FieldsReadable.foldl_declareStored ⟨_, hm⟩ _ h
  | property _ _ hm => exact h.addProperty ⟨_, hm⟩
  | event _ _ hm => exact h.addEvent ⟨_, hm⟩

theorem fieldsReadable_kept : Kept FieldsReadable where
  header _ _ _ _ := by simp [FieldsReadable, ofHeader]
  enum _ _ _ _ := by simp [FieldsReadable, ofHeader]
  step := FieldsReadable.step
  nested _ h := h
  finish h f hf := h f (List.mem_filter.1 hf).1

theorem removeGenerated_subset (name : String) (fs : List Field) :
    ∀ f ∈ removeGenerated name fs, f ∈ fs := by
  induction fs with
  | nil => simp [removeGenerated]
  | cons f fs ih =>
    intro g hg
    unfold removeGenerated at hg
    split_ifs at hg
    · exact List.mem_cons_of_mem _ hg
    · exact hg
    · rcases List.mem_cons.1 hg with rfl | hg
      · simp
      · exact List.mem_cons_of_mem _ (ih g hg)

theorem inventory_subset (c : ClassModel) : ∀ f ∈ c.inventory, f ∈ c.fields := by
  unfold inventory
  generalize hfs : c.fields.filter (fun f => f.isStatic && !optedOut f.markers) = fs
  have hsub : ∀ f ∈ fs, f ∈ c.fields := fun f hf => (List.mem_filter.1 (hfs ▸ hf)).1
  clear hfs
  induction c.retainedStorage generalizing fs with
  | nil => exact hsub
  | cons name names ih =>
    exact ih _ fun f hf => hsub f (removeGenerated_subset name fs f hf)

/-- The fault at which weaving stops at a class, if there is one. An order stops it before storage
without a zero value does, and that before a type parameter that is not a plain name. -/
inductive Refused (zeros : ZeroTable) (c : ClassModel) : Fault → Prop
  | order {fault : Fault} (inspected : c.isInspected = true)
      (stops : FirstOf Method.Stops c.methods fault) : Refused zeros c fault
  | zero {fault : Fault} (orders : ∀ m ∈ c.methods, ∀ fault', ¬m.Stops fault')
      (eligible : c.analysis.eligible = true)
      (unshown : FirstOf (fun f fault => ∃ why, zeros.Unshown f.annot why ∧ fault = .unshown why)
        c.inventory fault) : Refused zeros c fault
  | parameters {fault : Fault} (orders : ∀ m ∈ c.methods, ∀ fault', ¬m.Stops fault')
      (eligible : c.analysis.eligible = true)
      (shown : ∀ f ∈ c.inventory, ∀ why, ¬zeros.Unshown f.annot why)
      (unresolved : ∃ p ∈ c.typeParams, p.resolved = false) (qualified : c.qualified = .error fault)
      (named : fault = .unresolvedParameters c.unresolvedParameters c.lexicalPath) :
    Refused zeros c fault

theorem unresolvedParameters_isEmpty (c : ClassModel) :
    c.unresolvedParameters.isEmpty = false ↔ ∃ p ∈ c.typeParams, p.resolved = false := by
  simp [unresolvedParameters]

theorem orderFault?_eq_some {fault : Fault} :
    c.orderFault? = some fault ↔ FirstOf Method.Stops c.methods fault :=
  findSome?_eq_some_of_iff fun _ _ _ => Method.orderFault?_eq_some

theorem orderFault?_eq_none :
    c.orderFault? = none ↔ ∀ m ∈ c.methods, ∀ fault, ¬m.Stops fault :=
  findSome?_eq_none_of_iff fun _ _ _ => Method.orderFault?_eq_some

theorem qualified_eq_error {fault : Fault} :
    c.qualified = .error fault ↔ (∃ p ∈ c.typeParams, p.resolved = false) ∧
      fault = .unresolvedParameters c.unresolvedParameters c.lexicalPath := by
  rw [c.qualified_eq, ← c.unresolvedParameters_isEmpty]
  cases c.unresolvedParameters.isEmpty <;> simp [eq_comm]

/-- Of the table of zero values it matters only what it cannot show. -/
theorem Refused.congr {zeros zeros' : ZeroTable} {fault : Fault}
    (h : c.analysis.eligible = true → ∀ f ∈ c.inventory, ∀ why,
      zeros.Unshown f.annot why ↔ zeros'.Unshown f.annot why)
    (hrefused : c.Refused zeros fault) : c.Refused zeros' fault := by
  cases hrefused with
  | order inspected stops => exact .order inspected stops
  | zero orders eligible unshown =>
    refine .zero orders eligible (unshown.congr fun f hf _ => ?_)
    simp only [h eligible f hf]
  | parameters orders eligible shown unresolved qualified named =>
    exact .parameters orders eligible
      (fun f hf why hwhy => shown f hf why ((h eligible f hf why).2 hwhy))
      unresolved qualified named

/-- What stops the resets of a class whose fields can be read. -/
theorem FieldsReadable.inventory_fault (h : c.FieldsReadable) (zeros : ZeroTable) :
    ∀ f ∈ c.inventory, ∀ fault,
      zeros.fault? f.annot = some fault ↔ ∃ why, zeros.Unshown f.annot why ∧ fault = .unshown why :=
  fun f hf _ => zeros.fault?_of_readable (h f (c.inventory_subset f hf))

end ClassModel

namespace Weave

variable {zeros : ZeroTable} {config : Config} {name runtimeAlias : String} {tree : Block}
  {m : ModuleModel}

theorem refusal?_eq_some_iff {c : ClassModel} {fault : Fault} :
    refusal? zeros runtimeAlias c = some fault ↔ appended zeros runtimeAlias c = .error fault := by
  unfold refusal?
  split <;> simp_all

/-- A class is refused by its orders, or else, when it takes part, by its resets, or else by its type
parameters. -/
theorem appended_eq_error {c : ClassModel} {fault : Fault} :
    appended zeros runtimeAlias c = .error fault ↔
      c.analysisFault? = some fault ∨
      c.analysisFault? = none ∧ c.analysis.eligible = true ∧
        (c.inventory.findSome? (fun f => zeros.fault? f.annot) = some fault ∨
          c.inventory.findSome? (fun f => zeros.fault? f.annot) = none ∧
            c.qualified = .error fault) := by
  rw [appended_eq]
  cases c.analysisFault? with
  | some other => simp
  | none =>
    by_cases he : c.analysis.eligible = true
    · rw [if_pos he]
      cases hr : ReloadUnit.resetsFor zeros c c.inventory with
      | error other =>
        rw [(ReloadUnit.resetsFor_eq_error zeros c c.inventory).1 hr]
        simp [he, bind, Except.bind]
      | ok resets =>
        have hnone : c.inventory.findSome? (fun f => zeros.fault? f.annot) = none := by
          rw [Option.eq_none_iff_forall_ne_some]
          intro other hother
          rw [(ReloadUnit.resetsFor_eq_error zeros c c.inventory).2 hother] at hr
          cases hr
        rw [hnone]
        cases c.qualified <;> simp [he, bind, Except.bind, pure, Except.pure]
    · simp [he]

/-- A class whose fields can be read is refused for these reasons and no others. -/
theorem refusal?_eq_some {c : ClassModel} (h : c.FieldsReadable) (fault : Fault) :
    refusal? zeros runtimeAlias c = some fault ↔ c.Refused zeros fault := by
  have hfields := h.inventory_fault zeros
  have hinspected : c.analysis.eligible = true → c.isInspected = true := fun he =>
    (c.eligible_iff.1 he).1
  rw [refusal?_eq_some_iff, appended_eq_error, ClassModel.analysisFault?]
  constructor
  · rintro (horder | ⟨horders, he, hzero | ⟨hzeros, hqualified⟩⟩)
    · split_ifs at horder with hi
      exact .order hi (ClassModel.orderFault?_eq_some.1 horder)
    · rw [if_pos (hinspected he)] at horders
      exact .zero (ClassModel.orderFault?_eq_none.1 horders) he
        ((findSome?_eq_some_of_iff hfields).1 hzero)
    · rw [if_pos (hinspected he)] at horders
      obtain ⟨hunresolved, hnamed⟩ := ClassModel.qualified_eq_error.1 hqualified
      refine .parameters (ClassModel.orderFault?_eq_none.1 horders) he (fun f hf why hwhy => ?_)
        hunresolved hqualified hnamed
      exact (findSome?_eq_none_of_iff hfields).1 hzeros f hf _ ⟨why, hwhy, rfl⟩
  · rintro (⟨hi, hstops⟩ | ⟨horders, he, hunshown⟩ | ⟨horders, he, hshown, -, hqualified, -⟩)
    · rw [if_pos hi]
      exact .inl (ClassModel.orderFault?_eq_some.2 hstops)
    · rw [if_pos (hinspected he)]
      exact .inr ⟨ClassModel.orderFault?_eq_none.2 horders, he,
        .inl ((findSome?_eq_some_of_iff hfields).2 hunshown)⟩
    · rw [if_pos (hinspected he)]
      refine .inr ⟨ClassModel.orderFault?_eq_none.2 horders, he, .inr ⟨?_, hqualified⟩⟩
      refine (findSome?_eq_none_of_iff hfields).2 fun f hf other => ?_
      rintro ⟨why, hwhy, -⟩
      exact hshown f hf why hwhy

theorem refusal?_eq_none {c : ClassModel} (h : c.FieldsReadable) :
    refusal? zeros runtimeAlias c = none ↔ ∀ fault, ¬c.Refused zeros fault := by
  simp only [Option.eq_none_iff_forall_ne_some, ne_eq, refusal?_eq_some h]

theorem unlessFault_eq_error {α : Type} {fault? : Option Fault} {a : α} {fault : Fault} :
    unlessFault fault? a = .error fault ↔ fault? = some fault := by
  cases fault? <;> simp [unlessFault]

theorem outcome_eq_error (hread : ModuleModel.read name tree = .ok m)
    (hfresh : checkNotWoven config tree m = .ok ()) (fault : Fault) :
    outcome zeros config name tree = .error fault ↔
      m.allClasses.findSome? (refusal? zeros config.runtimeAlias) = some fault := by
  rw [outcome_eq, hread]
  simp only [bind, Except.bind, hfresh]
  exact unlessFault_eq_error

theorem outcome_eq_error_iff (hread : ModuleModel.read name tree = .ok m)
    (hfresh : checkNotWoven config tree m = .ok ()) (fault : Fault) :
    outcome zeros config name tree = .error fault ↔
      FirstOf (ClassModel.Refused zeros) m.allClasses fault := by
  have hfields := ModuleModel.read_kept ClassModel.fieldsReadable_kept hread
  rw [outcome_eq_error hread hfresh,
    findSome?_eq_some_of_iff fun c hc => refusal?_eq_some (hfields c hc)]

/-- Weaving a module that has been read and is not woven yet fails exactly when some class is
refused, and the first such class in declaration order says how. Nothing that is written out is
refused, and no annotation is. When every order can be read or quoted and every zero value is a
literal or can show itself, the refused classes are those that take part and have a type parameter
that is not a plain name, and the fault is that of their qualified name. -/
theorem weave_fails_iff (hread : ModuleModel.read name tree = .ok m)
    (hfresh : checkNotWoven config tree m = .ok ()) :
    ((∃ fault, outcome zeros config name tree = .error fault) ↔
      ∃ c ∈ m.allClasses, ∃ fault, c.Refused zeros fault) ∧
    (∀ fault, outcome zeros config name tree = .error fault ↔
      FirstOf (ClassModel.Refused zeros) m.allClasses fault) ∧
    ((∀ c ∈ m.allClasses, (∀ d ∈ c.methods, ∀ fault, ¬d.Stops fault) ∧
        ∀ f ∈ c.inventory, ∀ why, ¬zeros.Unshown f.annot why) →
      ∀ fault, outcome zeros config name tree = .error fault ↔
        FirstOf (fun c fault => c.analysis.eligible = true ∧
          (∃ p ∈ c.typeParams, p.resolved = false) ∧ c.qualified = .error fault ∧
            fault = .unresolvedParameters c.unresolvedParameters c.lexicalPath)
          m.allClasses fault) := by
  have hfields := ModuleModel.read_kept ClassModel.fieldsReadable_kept hread
  have hrefused : ∀ c ∈ m.allClasses, ∀ fault,
      refusal? zeros config.runtimeAlias c = some fault ↔ c.Refused zeros fault :=
    fun c hc => refusal?_eq_some (hfields c hc)
  refine ⟨?_, outcome_eq_error_iff hread hfresh, fun hquiet fault => ?_⟩
  · simp only [outcome_eq_error hread hfresh, ← Option.isSome_iff_exists,
      List.findSome?_isSome_iff]
    refine exists_congr fun c => and_congr_right fun hc => ?_
    simp only [Option.isSome_iff_exists, hrefused c hc]
  · rw [outcome_eq_error hread hfresh, findSome?_eq_some_of_iff]
    intro c hc other
    rw [hrefused c hc]
    constructor
    · rintro (⟨-, hstops⟩ | ⟨-, -, hunshown⟩ | ⟨-, he, -, hunresolved, hqualified, hnamed⟩)
      · obtain ⟨d, hd, hstop⟩ := hstops.exists_mem
        exact absurd hstop ((hquiet c hc).1 d hd other)
      · obtain ⟨f, hf, why, hwhy, -⟩ := hunshown.exists_mem
        exact absurd hwhy ((hquiet c hc).2 f hf why)
      · exact ⟨he, hunresolved, hqualified, hnamed⟩
    · rintro ⟨he, hunresolved, hqualified, hnamed⟩
      exact .parameters (hquiet c hc).1 he (hquiet c hc).2 hunresolved hqualified hnamed

/-- A class whose only callback has the order `left + 1j`. -/
def clockStoppedAt (left : Int) : Block :=
  [.classDef ⟨"Clock", [], [], [], []⟩
    [.assign [.name "ticks" .store] (.constant (.int 0)),
      .functionDef
        { isAsync := false, name := "stop", params := .ofNames []
          decorators := [.name "staticmethod" .load, .call (.name "on_type_unload" .load) []
            [⟨some "order", .binOp (.constant (.int left)) .add (.constant (.complex "0.0" "1.0"))⟩]]
          returns := none, typeParams := [] }
        [.pass]]]

/-- No float comes near the order: weaving fails although no class has type parameters. -/
theorem weave_fails_without_typeParams :
    ∃ m, ModuleModel.read "clock" (clockStoppedAt Literal.floatBound) = .ok m ∧
      checkNotWoven {} (clockStoppedAt Literal.floatBound) m = .ok () ∧
      (∀ c ∈ m.allClasses, c.typeParams = []) ∧
      ∃ fault, outcome .standard {} "clock" (clockStoppedAt Literal.floatBound) = .error fault := by
  have hfresh : ∀ m, ModuleModel.read "clock" (clockStoppedAt Literal.floatBound) = .ok m →
      checkNotWoven {} (clockStoppedAt Literal.floatBound) m = .ok () := by
    rintro _ ⟨⟩
    refine checkNotWoven_eq_ok.2 ⟨rfl, ?_⟩
    rw [ModuleModel.allClasses_eq]
    decide +kernel
  have hstops : ∀ c : ClassModel, c.orderFault? = some .orderOutOfRange →
      FirstOf Method.Stops c.methods .orderOutOfRange := fun c => ClassModel.orderFault?_eq_some.1
  refine ⟨_, rfl, hfresh _ rfl, ?_, (weave_fails_iff rfl (hfresh _ rfl)).1.2 ?_⟩
  · rw [ModuleModel.allClasses_eq]
    decide +kernel
  · simp only [ModuleModel.allClasses_eq]
    exact ⟨_, .head _, _, .order rfl (hstops _ (by decide +kernel))⟩

end Weave

end StateWeave
