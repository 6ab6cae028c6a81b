import Mathlib.Tactic.SplitIfs
import StateWeave.Proofs.Written

/-! What weaving adds to one class, log apart. The only things that stop it are an order that can
neither be read nor be quoted, storage that no zero value can be found for, and parameters that are
not plain names, in this order. -/

namespace StateWeave

open Logged

/-- What the table says for a type name, log apart. A value that is no literal has to show itself. -/
def ZeroTable.settle (zeros : ZeroTable) (typeName : Option String) : Except Fault Constant :=
  match zeros.lookup typeName with
  | .ok value => .ok value
  | .error datum => do
    let _ ← datum.warningText
    return .null

/-- The zero value for an annotation, log apart. -/
def ZeroTable.valueFor (zeros : ZeroTable) (annot : Option Expr) : Except Fault Constant :=
  storedTypeName annot >>= zeros.settle

theorem ZeroTable.settle_eq_error_iff {zeros : ZeroTable} {typeName : Option String}
    {fault : Fault} : zeros.settle typeName = .error fault ↔
      ∃ datum why, zeros.lookup typeName = .error datum ∧ datum.shown = .error why ∧
        fault = .unshown why := by
  unfold settle Datum.warningText
  cases zeros.lookup typeName with
  | ok value => simp
  | error datum =>
    cases hshown : datum.shown with
    | ok text => simp [Except.mapError, bind, Except.bind, pure, Except.pure, hshown]
    | error why => simp [Except.mapError, bind, Except.bind, hshown, eq_comm]

theorem zeroValue_settles (zeros : ZeroTable) (annot : Option Expr) :
    Settles (zeroValue zeros annot) (zeros.valueFor annot) := by
  refine (settles_lift _).bind fun typeName => ?_
  unfold ZeroTable.settle
  cases zeros.lookup typeName with
  | ok value => exact settles_pure value
  | error datum =>
    exact (settles_lift datum.warningText).bind fun text =>
      Settles.bind (settles_log .warning .synthesizer (notLiteralMessage text typeName))
        fun _ => settles_pure Constant.null

namespace ReloadUnit

/-- Resets of fields, log apart. -/
def resetsFor (zeros : ZeroTable) (c : ClassModel) : List Field → Except Fault (List Instruction)
  | [] => .ok []
  | f :: fs => do
    let zero ← zeros.valueFor f.annot
    return .reset ⟨f.name, .plain c⟩ zero :: (← resetsFor zeros c fs)

theorem resets_settles (zeros : ZeroTable) (c : ClassModel) (fs : List Field) :
    Settles (resets zeros c fs) (resetsFor zeros c fs) := by
  induction fs with
  | nil => exact settles_pure _
  | cons f fs ih =>
    exact (zeroValue_settles zeros f.annot).bind fun zero => ih.bind fun _ => settles_pure _

/-- The load unit for these fields with these resets, if it has anything to do. -/
def loadWith (c : ClassModel) (fields : List Field) (copied : Option ReloadUnit)
    (resets : List Instruction) : Option ReloadUnit :=
  if fields.isEmpty && copied.isNone then none
  else some
    { name := loadName, home := c,
      body := .instructions (resets ++ (copied.map fun u => .call u.ref).toList) }

theorem load?_settles (zeros : ZeroTable) (c : ClassModel) (fields : List Field)
    (copied : Option ReloadUnit) :
    Settles (load? zeros c fields copied)
      (do return loadWith c fields copied (← resetsFor zeros c fields)) := by
  unfold load? loadWith
  by_cases h : (fields.isEmpty && copied.isNone) = true
  · have hnil : fields = [] := by simp at h; exact h.1
    subst hnil
    simp only [h, if_true]
    exact settles_pure none
  · simp only [h]
    exact (resets_settles zeros c fields).bind fun _ => settles_pure _

end ReloadUnit

namespace ClassModel

/-- What stops the analysis of a class. -/
def analysisFault? (c : ClassModel) : Option Fault :=
  if c.isInspected then c.orderFault? else none

/-- What the analysis of a class finds, log apart. -/
def examined (c : ClassModel) : Except Fault Analysis :=
  match c.analysisFault? with
  | some fault => .error fault
  | none => .ok c.analysis

theorem collectCallbacks_settles (c : ClassModel) :
    Settles c.collectCallbacks
      (match c.orderFault? with
        | some fault => .error fault
        | none => .ok c.callbacks) := by
  unfold collectCallbacks
  cases c.orderFault? with
  | none => exact (settles_modify _).bind fun _ => settles_pure c.callbacks
  | some fault => exact (settles_modify _).bind fun _ => settles_fail fault

theorem analyze_settles (c : ClassModel) : Settles c.analyze c.examined := by
  unfold analyze examined analysisFault?
  cases c.isInspected with
  | false => exact settles_pure _
  | true =>
    have collected := c.collectCallbacks_settles
    cases hfault : c.orderFault? with
    | none =>
      rw [hfault] at collected
      exact collected.bind fun _ => settles_pure _
    | some fault =>
      rw [hfault] at collected
      exact collected.bind fun _ => settles_pure _

theorem eligible_iff (c : ClassModel) :
    c.analysis.eligible = true ↔
      c.isInspected = true ∧ (c.inventory ≠ [] ∨ c.callbacks ≠ []) := by
  unfold analysis isInspected
  by_cases he : c.isEnum
  · simp [he, Analysis.eligible]
  · by_cases ho : StateWeave.optedOut c.markers <;> simp [he, ho, Analysis.eligible]

theorem analysis_of_inspected {c : ClassModel} (h : c.isInspected = true) :
    c.analysis = { staticFields := c.inventory, callbacks := c.callbacks } := by
  simp only [isInspected, Bool.and_eq_true, Bool.not_eq_true'] at h
  simp [analysis, h.1, h.2]

end ClassModel

namespace Weave

open ReloadUnit

/-- What weaving adds to a class, log apart. -/
def appended (zeros : ZeroTable) (runtimeAlias : String) (c : ClassModel) : Except Fault Block := do
  let analysis ← c.examined
  if !analysis.eligible then return []
  let resets ← resetsFor zeros c analysis.staticFields
  instrument runtimeAlias c (copy? c) (unload? c analysis.callbacks)
    (loadWith c analysis.staticFields (copy? c) resets)

theorem addition_settles (zeros : ZeroTable) (runtimeAlias : String) (c : ClassModel) :
    Settles (addition zeros runtimeAlias c) (appended zeros runtimeAlias c) := by
  refine c.analyze_settles.bind fun analysis => ?_
  cases analysis.eligible with
  | false => exact settles_pure []
  | true =>
    have h := (load?_settles zeros c analysis.staticFields (copy? c)).bind
      fun load => settles_lift (instrument runtimeAlias c (copy? c) (unload? c analysis.callbacks) load)
    intro records
    have := h records
    simp only [bind_assoc, pure_bind] at this
    exact this

theorem copy?_local {c : ClassModel} {u : ReloadUnit} (h : u ∈ copy? c) : u.home = c ∧ u.Local := by
  simp only [copy?, Option.mem_def, Option.ite_none_left_eq_some, Option.some.injEq] at h
  obtain ⟨-, rfl⟩ := h
  exact ⟨rfl, trivial⟩

theorem unload?_local {c : ClassModel} {callbacks : List UnloadCallback} {u : ReloadUnit}
    (h : u ∈ unload? c callbacks) : u.home = c ∧ u.Local := by
  simp only [unload?, Option.mem_def, Option.ite_none_left_eq_some, Option.some.injEq] at h
  obtain ⟨-, rfl⟩ := h
  refine ⟨rfl, ?_⟩
  intro i hi
  obtain ⟨cb, -, rfl⟩ := List.mem_map.1 hi
  rfl

theorem resetsFor_within {zeros : ZeroTable} {c : ClassModel} {fs : List Field}
    {resets : List Instruction} (h : resetsFor zeros c fs = .ok resets) :
    ∀ i ∈ resets, i.Within c := by
  induction fs generalizing resets with
  | nil =>
    cases h
    simp
  | cons f fs ih =>
    cases hz : zeros.valueFor f.annot with
    | error fault => simp [resetsFor, hz, bind, Except.bind] at h
    | ok zero =>
      cases hr : resetsFor zeros c fs with
      | error fault => simp [resetsFor, hz, hr, bind, Except.bind] at h
      | ok rest =>
        simp only [resetsFor, hz, hr, bind, Except.bind, pure, Except.pure, Except.ok.injEq] at h
        subst h
        exact List.forall_mem_cons.2 ⟨rfl, ih hr⟩

theorem loadWith_local {c : ClassModel} {fields : List Field} {resets : List Instruction}
    {u : ReloadUnit} (hresets : ∀ i ∈ resets, i.Within c)
    (h : u ∈ loadWith c fields (copy? c) resets) : u.home = c ∧ u.Local := by
  simp only [loadWith, Option.mem_def, Option.ite_none_left_eq_some, Option.some.injEq] at h
  obtain ⟨-, rfl⟩ := h
  refine ⟨rfl, ?_⟩
  intro i hi
  rcases List.mem_append.1 hi with hi | hi
  · exact hresets i hi
  · obtain ⟨v, hv, rfl⟩ : ∃ v, v ∈ copy? c ∧ Instruction.call v.ref = i := by simpa using hi
    have hhome := (copy?_local hv).1
    simp only [Instruction.Within, ReloadUnit.ref, hhome]

theorem renderUnits_of_local {c : ClassModel} {us : List ReloadUnit} (runtimeAlias : String)
    (h : ∀ u ∈ us, u.home = c ∧ u.Local) (hne : us ≠ []) :
    renderUnits runtimeAlias us =
      (c.qualified >>= fun _ => .ok (us.map (·.written runtimeAlias))) := by
  have hq := c.qualified_eq
  split_ifs at hq with hres
  · clear hne
    rw [hq]
    induction us with
    | nil => rfl
    | cons u us ih =>
      simp only [List.forall_mem_cons] at h
      obtain ⟨⟨rfl, hu⟩, hus⟩ := h
      have hrest := ih hus
      simp only [bind, Except.bind] at hrest
      simp [renderUnits, qualify_of_local hu hq, render_settled hu, hrest, bind, Except.bind, pure,
        Except.pure]
  · rw [hq]
    cases us with
    | nil => exact absurd rfl hne
    | cons u us =>
      have hu := (h u (by simp)).1
      have hfail := qualify_of_error (u := u) (by rw [hu]; exact hq)
      simp [renderUnits, hfail, bind, Except.bind]

/-- The units of a class that takes part, in the order in which they are written. -/
def unitsWith (c : ClassModel) (resets : List Instruction) : List ReloadUnit :=
  (copy? c).toList ++ (unload? c c.callbacks).toList
    ++ (loadWith c c.inventory (copy? c) resets).toList

/-- The statements that a class that takes part is given. -/
def hookWith (runtimeAlias : String) (c : ClassModel) (resets : List Instruction) : Block :=
  (unitsWith c resets).map (·.written runtimeAlias) ++
    [registration runtimeAlias c (unload? c c.callbacks) (loadWith c c.inventory (copy? c) resets)]

theorem unitsWith_ne_nil {c : ClassModel} (h : c.analysis.eligible = true)
    (resets : List Instruction) : unitsWith c resets ≠ [] := by
  obtain ⟨-, hi | hc⟩ := c.eligible_iff.1 h
  · simp [unitsWith, loadWith, hi]
  · simp [unitsWith, unload?, hc]

/-- A class that takes part is refused before its resets are known, or by its type parameters, or
given its hook; no unit is refused on its own. -/
theorem appended_eq (zeros : ZeroTable) (runtimeAlias : String) (c : ClassModel) :
    appended zeros runtimeAlias c =
      match c.analysisFault? with
      | some fault => .error fault
      | none =>
        if c.analysis.eligible then do
          let resets ← resetsFor zeros c c.inventory
          let _ ← c.qualified
          return hookWith runtimeAlias c resets
        else .ok [] := by
  unfold appended ClassModel.examined
  cases c.analysisFault? with
  | some fault => rfl
  | none =>
    by_cases he : c.analysis.eligible = true
    · have ha := ClassModel.analysis_of_inspected (c.eligible_iff.1 he).1
      simp only [he, if_true, Bool.false_eq_true, Bool.not_true, bind, Except.bind]
      rw [ha]
      cases hr : resetsFor zeros c c.inventory with
      | error fault => rfl
      | ok resets =>
        have hlocal : ∀ u ∈ unitsWith c resets, u.home = c ∧ u.Local := by
          intro u hu
          simp only [unitsWith, List.mem_append, Option.mem_toList] at hu
          rcases hu with (hu | hu) | hu
          · exact copy?_local hu
          · exact unload?_local hu
          · exact loadWith_local (resetsFor_within hr) hu
        have hw := renderUnits_of_local runtimeAlias hlocal (unitsWith_ne_nil he resets)
        simp only [unitsWith] at hw
        simp only [instrument, hw, hookWith, unitsWith, bind, Except.bind, pure, Except.pure]
        cases c.qualified <;> rfl
    · simp [he, bind, Except.bind, pure, Except.pure]

end Weave

end StateWeave
