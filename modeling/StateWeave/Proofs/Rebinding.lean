import StateWeave.Proofs.Methods

/-! Callbacks of one name. The unit for unloading calls its callbacks by name, once for each of the
functions that were collected. A call reaches the function that was bound to the name last, so all
is well exactly if no definition of a callback is followed by another one of its name. -/

namespace StateWeave

/-- The names of the attributes that the statements of a function call, in order. -/
def Stmt.calledNames : Stmt → List String
  | .functionDef _ body => body.filterMap fun
    | .expr (.call (.attribute _ name _) _ _) => some name
    | _ => none
  | _ => []

namespace FunctionHeader

/-- The attribute of the class `cls` that a function of its body is stored under. -/
def storedAs (cls : String) (f : FunctionHeader) : String :=
  mangle cls f.name

/-- Some definition of these statements, or of a block that runs with them, is stored under the
attribute of the function. -/
def ReboundBy (cls : String) (b : Block) (f : FunctionHeader) : Prop :=
  ∃ g body, .functionDef g body ∈ Stmt.partsBlock b ∧ g.storedAs cls = f.storedAs cls

/-- The function is defined by a statement of this block, and nothing after it rebinds it. -/
def Stands (cls : String) (b : Block) (f : FunctionHeader) : Prop :=
  ∃ before body after, b = before ++ .functionDef f body :: after ∧ ¬f.ReboundBy cls after

end FunctionHeader

namespace Stmt

variable {cls : String} {b : Block} {f : FunctionHeader}

theorem def_mem_partsBlock (h : f ∈ functions b) : ∃ body, .functionDef f body ∈ partsBlock b := by
  obtain ⟨body, hmem⟩ := mem_functions.1 h
  obtain ⟨before, after, rfl⟩ := List.append_of_mem hmem
  refine ⟨body, ?_⟩
  rw [partsBlock_append]
  exact List.mem_append_right _ List.mem_cons_self

theorem reboundBy_of_mem {g : FunctionHeader} (hg : g ∈ functions b)
    (hsame : g.storedAs cls = f.storedAs cls) : f.ReboundBy cls b := by
  obtain ⟨body, hmem⟩ := def_mem_partsBlock hg
  exact ⟨g, body, hmem, hsame⟩

/-- None of the selected definitions is followed by one that is stored under the same attribute. -/
def AllStand (cls : String) (p : FunctionHeader → Bool) (b : Block) : Prop :=
  ∀ before f body after, b = before ++ .functionDef f body :: after → p f = true →
    ¬f.ReboundBy cls after

variable {p : FunctionHeader → Bool}

theorem AllStand.tail {s : Stmt} (h : AllStand cls p (s :: b)) : AllStand cls p b := by
  intro before f body after hb
  exact h (s :: before) f body after (congrArg (s :: ·) hb)

/-- Functions that are not rebound are stored under attributes of their own. -/
theorem AllStand.nodup (h : AllStand cls p b) :
    (((functions b).filter p).map (·.storedAs cls)).Nodup := by
  induction b with
  | nil => exact List.nodup_nil
  | cons s rest ih =>
    have hrest := ih h.tail
    cases s with
    | functionDef f body =>
      rw [functions_def]
      by_cases hp : p f = true
      · rw [List.filter_cons_of_pos hp, List.map_cons, List.nodup_cons]
        refine ⟨?_, hrest⟩
        intro hmem
        obtain ⟨g, hg, hsame⟩ := List.mem_map.1 hmem
        exact h [] f body rest rfl hp (reboundBy_of_mem (List.mem_filter.1 hg).1 hsame)
      · rw [List.filter_cons_of_neg hp]
        exact hrest
    | _ => exact hrest

theorem AllStand.stands (h : AllStand cls p b) (hf : f ∈ functions b) (hp : p f = true) :
    f.Stands cls b := by
  obtain ⟨body, hmem⟩ := mem_functions.1 hf
  obtain ⟨before, after, rfl⟩ := List.append_of_mem hmem
  exact ⟨before, body, after, rfl, h before f body after rfl hp⟩

/-- If two selected definitions stand one after the other in a block, they are not stored under one
attribute. -/
theorem storedAs_ne_of_nodup {before after : Block} {body : Block}
    (h : (((functions (before ++ .functionDef f body :: after)).filter p).map
      (·.storedAs cls)).Nodup) (hp : p f = true) {g : FunctionHeader} (hg : g ∈ functions after)
    (hpg : p g = true) : g.storedAs cls ≠ f.storedAs cls := by
  rw [functions_append, functions_def, List.filter_append, List.filter_cons_of_pos hp,
    List.map_append, List.map_cons] at h
  intro hsame
  have hlast := (List.nodup_cons.1 (List.nodup_append.1 h).2.1).1
  exact hlast (hsame ▸ List.mem_map_of_mem (List.mem_filter.2 ⟨hg, hpg⟩))

/-- If the attributes differ and each of them belongs to a definition that stands, then there is no
other definition of it, and all stand. -/
theorem AllStand.of_nodup
    (hnodup : (((functions b).filter p).map (·.storedAs cls)).Nodup)
    (hstands : ∀ a ∈ ((functions b).filter p).map (·.storedAs cls),
      ∃ f, p f = true ∧ f.storedAs cls = a ∧ f.Stands cls b) : AllStand cls p b := by
  rintro before f body after rfl hp
  have hf : f ∈ functions (before ++ .functionDef f body :: after) :=
    mem_functions.2 ⟨body, List.mem_append_right _ List.mem_cons_self⟩
  obtain ⟨g, hpg, hsame, before', body', after', hsplit, hg⟩ :=
    hstands _ (List.mem_map_of_mem (List.mem_filter.2 ⟨hf, hp⟩))
  have hmem : ∀ {h : FunctionHeader} {body between last : Block},
      h ∈ functions (between ++ .functionDef h body :: last) := fun {h body _ _} =>
    mem_functions.2 ⟨body, List.mem_append_right _ List.mem_cons_self⟩
  -- the definition that stands comes after, before, or is the given one
  rcases List.append_eq_append_iff.1 hsplit with ⟨between, -, h⟩ | ⟨between, hbefore, h⟩
  · cases between with
    | nil =>
      obtain ⟨⟨⟩, rfl⟩ := List.cons.inj h
      exact hg
    | cons s between =>
      obtain ⟨rfl, rfl⟩ := List.cons.inj h
      exact absurd hsame (storedAs_ne_of_nodup hnodup hp hmem hpg)
  · cases between with
    | nil =>
      obtain ⟨⟨⟩, rfl⟩ := List.cons.inj h
      exact hg
    | cons s between =>
      obtain ⟨rfl, rfl⟩ := List.cons.inj h
      exact absurd (reboundBy_of_mem hmem hsame.symm) hg

/-- Selected definitions are stored under attributes that differ, each of which belongs to one that
stands, exactly if all of them stand. -/
theorem allStand_iff : AllStand cls p b ↔
    (((functions b).filter p).map (·.storedAs cls)).Nodup ∧
    ∀ a ∈ ((functions b).filter p).map (·.storedAs cls),
      ∃ f, p f = true ∧ f.storedAs cls = a ∧ f.Stands cls b := by
  constructor
  · intro h
    refine ⟨h.nodup, ?_⟩
    intro a ha
    obtain ⟨f, hf, rfl⟩ := List.mem_map.1 ha
    obtain ⟨hmem, hp⟩ := List.mem_filter.1 hf
    exact ⟨f, hp, rfl, h.stands hmem hp⟩
  · rintro ⟨hnodup, hstands⟩
    exact .of_nodup hnodup hstands

end Stmt

namespace ClassTree

variable {n : ClassTree} {place : List Nat} {outer enums enums' : List String} {h : ClassHeader}
  {body : Block} {callbacks : List UnloadCallback} {u : ReloadUnit} {runtimeAlias : String}
  {x : Stmt}

theorem calledNames_unload {c : ClassModel} (hu : u ∈ ReloadUnit.unload? c callbacks)
    (hx : (u.qualify >>= (·.render runtimeAlias)) = .ok x) :
    x.calledNames = callbacks.map (·.method.name) := by
  rw [(c.callsInTurn callbacks).rendered u hu runtimeAlias] at hx
  split_ifs at hx
  obtain rfl := Except.ok.inj hx
  rw [Weave.unitFunction, Stmt.calledNames, List.filterMap_map]
  exact congrFun List.filterMap_eq_map' callbacks

/-- The calls of the unit for unloading are as many as there are definitions of callbacks. -/
theorem calledNames_perm (hr : read place outer enums h body = .ok (n, enums'))
    {records later : List LogRecord}
    (hc : n.cls.collectCallbacks records = (.ok callbacks, later))
    (hu : u ∈ ReloadUnit.unload? n.cls callbacks)
    (hx : (u.qualify >>= (·.render runtimeAlias)) = .ok x) :
    x.calledNames.Perm (((Stmt.functions body).filter (·.method.Qualifies)).map (·.name)) := by
  obtain ⟨fs, hmethods, hperm⟩ := collected_functions hr hc
  have hnames : callbacks.map (·.method.name) = fs.map (·.name) := by
    have h := congrArg (List.map Method.name) hmethods
    rw [List.map_map, List.map_map] at h
    exact h
  rw [calledNames_unload hu hx, hnames]
  cases henum : h.isEnum enums with
  | false =>
    rw [ClassHeader.functions, if_neg (by simp [henum])] at hperm
    exact hperm.map _
  | true =>
    -- an enum has no callbacks, so there is no unit
    rw [ClassHeader.functions, if_pos henum, List.filter_nil] at hperm
    rw [hperm.eq_nil, List.map_nil, List.map_eq_nil_iff] at hnames
    rw [(n.cls.callsInTurn callbacks).none_iff.2 hnames] at hu
    cases hu

/-- The unit for unloading makes one call for each definition of a callback in the class body. It
calls each attribute once, and reaches the callback that was collected, exactly if no definition of
a callback is followed by another definition that is stored under the same attribute. -/
theorem unload_calls_once_iff (hr : read place outer enums h body = .ok (n, enums'))
    {records later : List LogRecord}
    (hc : n.cls.collectCallbacks records = (.ok callbacks, later))
    (hu : u ∈ ReloadUnit.unload? n.cls callbacks)
    (hx : (u.qualify >>= (·.render runtimeAlias)) = .ok x) :
    x.calledNames.Perm (((Stmt.functions body).filter (·.method.Qualifies)).map (·.name)) ∧
    (((x.calledNames.map (mangle h.name)).Nodup ∧
        ∀ a ∈ x.calledNames.map (mangle h.name),
          ∃ f : FunctionHeader, f.method.Qualifies ∧ f.storedAs h.name = a ∧ f.Stands h.name body) ↔
      ∀ before f rest after, body = before ++ .functionDef f rest :: after → f.method.Qualifies →
        ¬f.ReboundBy h.name after) := by
  have hperm := calledNames_perm hr hc hu hx
  have hstored := hperm.map (mangle h.name)
  rw [List.map_map] at hstored
  have hall : Stmt.AllStand h.name (·.method.Qualifies) body ↔ _ := Stmt.allStand_iff
  simp only [Stmt.AllStand, decide_eq_true_eq] at hall
  refine ⟨hperm, ?_⟩
  rw [hall, hstored.nodup_iff]
  refine and_congr_right fun _ => forall_congr' fun a => ?_
  rw [hstored.mem_iff]
  rfl

/-- A callback without parameters. -/
def stopPlain : FunctionHeader where
  isAsync := false
  name := "stop"
  params := ⟨[], [], none, [], [], none, []⟩
  decorators := [.name "staticmethod" .load, .name "on_type_unload" .load]
  returns := none
  typeParams := []

def pumpBody : Block :=
  [.functionDef stopPlain [.pass], .functionDef stopPlain [.pass]]

/-- A callback that is defined twice is called twice. -/
theorem unload_calls_once_iff_pump :
    ∃ n callbacks later u x,
      read [0] [] [] ⟨"Pump", [], [], [], []⟩ pumpBody = .ok (n, []) ∧
      n.cls.collectCallbacks [] = (.ok callbacks, later) ∧
      u ∈ ReloadUnit.unload? n.cls callbacks ∧
      (u.qualify >>= (·.render "__typereload__")) = .ok x ∧
      x.calledNames = ["stop", "stop"] ∧
      ¬∀ before f rest after, pumpBody = before ++ .functionDef f rest :: after →
        f.method.Qualifies → ¬f.ReboundBy "Pump" after := by
  obtain ⟨n, callbacks, later, hr, hc, hres⟩ : ∃ n callbacks later,
      read [0] [] [] ⟨"Pump", [], [], [], []⟩ pumpBody = .ok (n, []) ∧
      n.cls.collectCallbacks [] = (.ok callbacks, later) ∧
      n.cls.unresolvedParameters.isEmpty = true := ⟨_, _, _, rfl, rfl, rfl⟩
  have hcalls := n.cls.callsInTurn callbacks
  obtain ⟨fs, hmethods, hfs⟩ := collected_functions hr hc
  have hne : callbacks ≠ [] := by
    rintro rfl
    rw [List.map_eq_nil_iff.1 hmethods.symm] at hfs
    exact absurd hfs.length_eq (by decide)
  obtain ⟨u, hu⟩ := Option.ne_none_iff_exists'.1 (mt hcalls.none_iff.1 hne)
  have hx := hcalls.rendered u hu "__typereload__"
  rw [if_pos hres] at hx
  obtain ⟨hperm, honce⟩ := unload_calls_once_iff hr hc hu hx
  have hnames := List.perm_replicate (n := 2).1 hperm
  refine ⟨n, callbacks, later, u, _, hr, hc, hu, hx, hnames, ?_⟩
  intro hnone
  have hnodup := (honce.2 hnone).1
  rw [hnames] at hnodup
  simp at hnodup

end ClassTree

end StateWeave
