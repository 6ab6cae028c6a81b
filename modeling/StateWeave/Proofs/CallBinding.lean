import StateWeave.Proofs.Methods

/-! Calls with positional arguments: what each parameter stands for, and which calls fail before the
function runs. Callbacks are called without arguments, and class methods receive their class. A
callback has no parameter to spare, so the call fails exactly if the class has nowhere to go. -/

namespace StateWeave

/-- What a parameter stands for in a call. -/
inductive Bound (α : Type)
  | argument (a : α)
  | default (value : Expr)
  /-- The positional arguments that no other parameter takes. -/
  | rest (arguments : List α)
  | noKeywords
deriving Inhabited

/-- Why the arguments of a call do not fit the parameters. -/
inductive BindingFault
  | tooMany (taken given : Nat)
  | missing (parameters : List String)
  | missingKeywords (parameters : List String)
deriving DecidableEq, Repr, Inhabited

namespace Params

variable {α : Type}

/-- The parameters that take one positional argument each, in order. Defaults belong to the last of
them. -/
def slots (p : Params) : List (String × Option Expr) :=
  let names := (p.posOnly ++ p.positional).map (·.name)
  names.zip (List.replicate (names.length - p.defaults.length) none ++ p.defaults.map some)

/-- The parameters that take keyword arguments only. -/
def keywordSlots (p : Params) : List (String × Option Expr) :=
  p.kwOnly.mapIdx fun i a => (a.name, p.kwDefaults[i]?.join)

/-- Hands out arguments in order; once there are none left, defaults take their place. -/
def fill : List (String × Option Expr) → List α → List (String × Option (Bound α))
  | [], _ => []
  | (name, _) :: slots, a :: args => (name, some (.argument a)) :: fill slots args
  | (name, default) :: slots, [] => (name, default.map .default) :: fill slots []

def unfilled (slots : List (String × Option (Bound α))) : List String :=
  (slots.filter (·.2.isNone)).map (·.1)

def filled (slots : List (String × Option (Bound α))) : List (String × Bound α) :=
  slots.filterMap fun s => s.2.map (s.1, ·)

/-- Binds the arguments of a call without keywords. -/
def bind (p : Params) (args : List α) : Except BindingFault (List (String × Bound α)) :=
  let given := fill p.slots args
  let keyed := fill p.keywordSlots ([] : List α)
  if p.vararg.isNone && p.slots.length < args.length then
    .error (.tooMany p.slots.length args.length)
  else if !(unfilled given).isEmpty then .error (.missing (unfilled given))
  else if !(unfilled keyed).isEmpty then .error (.missingKeywords (unfilled keyed))
  else .ok (filled given
    ++ (p.vararg.map fun a => (a.name, .rest (args.drop p.slots.length))).toList
    ++ filled keyed ++ (p.kwarg.map fun a => (a.name, .noKeywords)).toList)

/-- Whether some parameter takes a positional argument. -/
def TakesPositional (p : Params) : Prop :=
  p.posOnly ≠ [] ∨ p.positional ≠ [] ∨ p.vararg ≠ none

variable {p : Params}

theorem length_slots (p : Params) : p.slots.length = p.posOnly.length + p.positional.length := by
  simp only [slots, List.length_zip, List.length_append, List.length_replicate, List.length_map]
  omega

theorem length_names (p : Params) : p.names.length =
    p.posOnly.length + p.positional.length + p.kwOnly.length + p.vararg.toList.length +
      p.kwarg.toList.length := by
  simp only [names, List.length_map, List.length_append]

theorem takesPositional_iff :
    p.TakesPositional ↔ p.vararg ≠ none ∨ 0 < p.slots.length := by
  simp only [TakesPositional, length_slots, ← List.length_pos_iff]
  constructor
  · rintro (h | h | h)
    · exact .inr (by omega)
    · exact .inr (by omega)
    · exact .inl h
  · rintro (h | h)
    · exact .inr (.inr h)
    · rcases Nat.eq_zero_or_pos p.posOnly.length with hzero | hpos
      · exact .inr (.inl (by omega))
      · exact .inl hpos

/-- Left unfilled are the slots without default that no argument is left for. -/
theorem unfilled_fill (slots : List (String × Option Expr)) (args : List α) :
    unfilled (fill slots args) = ((slots.drop args.length).filter (·.2.isNone)).map (·.1) := by
  induction slots generalizing args with
  | nil => simp [fill, unfilled]
  | cons slot slots ih =>
    obtain ⟨name, default⟩ := slot
    cases args with
    | cons a args =>
      have hrest := ih args
      simp only [unfilled] at hrest
      simp [fill, unfilled, hrest]
    | nil =>
      have hrest := ih []
      simp only [unfilled, List.length_nil, List.drop_zero] at hrest
      cases default with
      | none => simp [fill, unfilled, hrest]
      | some value => simp [fill, unfilled, hrest]

theorem unfilled_fill_isEmpty (slots : List (String × Option Expr)) (args : List α) :
    (unfilled (fill slots args)).isEmpty = true ↔
      ∀ slot ∈ slots.drop args.length, slot.2 ≠ none := by
  rw [unfilled_fill, List.isEmpty_iff, List.map_eq_nil_iff, List.filter_eq_nil_iff]
  refine forall₂_congr fun slot _ => ?_
  rw [Option.isNone_iff_eq_none]

/-- A call can be bound exactly if its arguments are not too many and whatever takes none of them
has a default. -/
theorem exists_bind_iff {args : List α} :
    (∃ bound, p.bind args = .ok bound) ↔
      (p.vararg = none → args.length ≤ p.slots.length) ∧
      (∀ slot ∈ p.slots.drop args.length, slot.2 ≠ none) ∧
      ∀ slot ∈ p.keywordSlots, slot.2 ≠ none := by
  have hmany : (p.vararg.isNone && decide (p.slots.length < args.length)) = true ↔
      ¬(p.vararg = none → args.length ≤ p.slots.length) := by
    simp
  have hgiven := unfilled_fill_isEmpty p.slots args
  have hkeyed := unfilled_fill_isEmpty p.keywordSlots ([] : List α)
  rw [List.length_nil, List.drop_zero] at hkeyed
  simp only [bind]
  rw [← hgiven, ← hkeyed]
  split_ifs with h₁ h₂ h₃
  · exact iff_of_false (fun ⟨_, h⟩ => nomatch h) fun h => hmany.1 h₁ h.1
  · exact iff_of_false (fun ⟨_, h⟩ => nomatch h) fun h => by simp [h.2.1] at h₂
  · exact iff_of_false (fun ⟨_, h⟩ => nomatch h) fun h => by simp [h.2.2] at h₃
  · refine iff_of_true ⟨_, rfl⟩ ⟨?_, by simpa using h₂, by simpa using h₃⟩
    by_contra h
    exact h₁ (hmany.2 h)

/-- A lone argument finds its way into at most one parameter if there is one for it. -/
theorem exists_bind_single_iff (hfew : p.names.length ≤ 1) (a : α) :
    (∃ bound, p.bind [a] = .ok bound) ↔ p.TakesPositional := by
  rw [length_names] at hfew
  rw [exists_bind_iff, takesPositional_iff, List.length_singleton]
  constructor
  · rintro ⟨hmany, -, -⟩
    by_cases hvar : p.vararg = none
    · exact .inr (hmany hvar)
    · exact .inl hvar
  · intro h
    have hslots := p.length_slots
    have hvar : p.vararg ≠ none → p.vararg.toList.length = 1 := by
      cases p.vararg <;> simp
    have hkw : p.kwOnly = [] := List.eq_nil_of_length_eq_zero (by
      rcases h with h | h
      · have := hvar h
        omega
      · omega)
    refine ⟨fun hnone => h.resolve_left (fun hne => hne hnone), ?_, by simp [keywordSlots, hkw]⟩
    rw [List.drop_eq_nil_of_le (by omega)]
    nofun

theorem bind_single_of_not (h : ¬p.TakesPositional) (a : α) :
    p.bind [a] = .error (.tooMany 0 1) := by
  rw [takesPositional_iff, not_or, Classical.not_not, Nat.not_lt, Nat.le_zero] at h
  simp [bind, h.1, h.2]

/-- Without parameters there is nothing to bind. -/
theorem exists_bind_nil (hnone : p.names.length = 0) :
    ∃ bound, p.bind ([] : List α) = .ok bound := by
  rw [length_names] at hnone
  have hslots : p.slots = [] := List.eq_nil_of_length_eq_zero (by rw [length_slots]; omega)
  have hkw : p.kwOnly = [] := List.eq_nil_of_length_eq_zero (by omega)
  rw [exists_bind_iff, hslots]
  simp [keywordSlots, hkw]

end Params

/-- The arguments that reach a function when it is called through its class. -/
def MethodKind.received {α : Type} (kind : MethodKind) (cls : α) (args : List α) : List α :=
  if kind = .cls then cls :: args else args

namespace ClassTree

variable {n : ClassTree} {place : List Nat} {outer enums enums' : List String} {h : ClassHeader}
  {body : Block}

/-- The unit for unloading calls the callbacks one after the other without arguments. Each of them
is a function that the body defines, and it accepts the call exactly if it is no class method or has
a parameter that takes the class; a class method with nothing but a keyword parameter, or with no
parameter at all, is passed one argument too many. -/
theorem callbacks_accept_iff {α : Type} (hr : read place outer enums h body = .ok (n, enums'))
    {callbacks : List UnloadCallback} {records later : List LogRecord}
    (hc : n.cls.collectCallbacks records = (.ok callbacks, later)) (cls : α) :
    n.cls.CallsInTurn callbacks ∧
    ∃ fs : List FunctionHeader, callbacks.map (·.method) = fs.map (·.method) ∧
      fs.Perm ((h.functions enums body).filter (·.method.Qualifies)) ∧
      ∀ f ∈ fs,
        ((∃ bound, f.params.bind (f.kind.received cls []) = .ok bound) ↔
          (f.kind = .cls → f.params.TakesPositional)) ∧
        (f.kind = .cls → ¬f.params.TakesPositional →
          f.params.bind (f.kind.received cls []) = .error (.tooMany 0 1)) := by
  obtain ⟨fs, hmethods, hperm⟩ := collected_functions hr hc
  refine ⟨n.cls.callsInTurn callbacks, fs, hmethods, hperm, ?_⟩
  intro f hf
  have hqualifies : f.method.Qualifies := by
    simpa using (List.mem_filter.1 (hperm.mem_iff.1 hf)).2
  have hfew : f.params.names.length ≤ if f.kind = .cls then 1 else 0 := hqualifies.callable
  by_cases hkind : f.kind = .cls
  · rw [if_pos hkind] at hfew
    rw [MethodKind.received, if_pos hkind, forall_prop_of_true hkind]
    exact ⟨Params.exists_bind_single_iff hfew cls, fun _ h => Params.bind_single_of_not h cls⟩
  · rw [if_neg hkind, Nat.le_zero] at hfew
    rw [MethodKind.received, if_neg hkind]
    exact ⟨iff_of_true (Params.exists_bind_nil hfew) (absurd · hkind), (absurd · hkind)⟩

/-- A callback that has to be told more than its class. -/
def stopForced : FunctionHeader where
  isAsync := false
  name := "stop"
  params := ⟨[], [], none, [⟨"force", none⟩], [none], none, []⟩
  decorators := [.name "classmethod" .load, .name "on_type_unload" .load]
  returns := none
  typeParams := []

/-- It is collected, and every call of it fails. -/
theorem callbacks_accept_iff_pump :
    ∃ n callbacks later,
      read [0] [] [] ⟨"Pump", [], [], [], []⟩ [.functionDef stopForced [.pass]] = .ok (n, []) ∧
      n.cls.collectCallbacks [] = (.ok callbacks, later) ∧
      callbacks.map (·.method) = [stopForced.method] ∧
      stopForced.params.bind (stopForced.kind.received "Pump" []) = .error (.tooMany 0 1) := by
  obtain ⟨n, callbacks, later, hr, hc⟩ : ∃ n callbacks later,
      read [0] [] [] ⟨"Pump", [], [], [], []⟩ [.functionDef stopForced [.pass]] = .ok (n, []) ∧
      n.cls.collectCallbacks [] = (.ok callbacks, later) := ⟨_, _, _, rfl, rfl⟩
  obtain ⟨-, fs, hmethods, hperm, haccept⟩ := callbacks_accept_iff hr hc "Pump"
  obtain rfl : fs = [stopForced] :=
    List.perm_singleton.1 (hperm.trans (.of_eq (List.filter_cons_of_pos (by decide))))
  refine ⟨n, callbacks, later, hr, hc, hmethods, ?_⟩
  exact (haccept stopForced List.mem_cons_self).2 rfl (by simp [Params.TakesPositional, stopForced])

end ClassTree

end StateWeave
