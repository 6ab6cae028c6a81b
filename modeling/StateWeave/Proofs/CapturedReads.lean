import StateWeave.Proofs.Capture

/-! Code that runs with captured names: the body of a handler with the exception, and the guard and
the body of a case with parts of the subject. Rewriting keeps every capture as it is, and takes a
read of the captured name to the class if the class binds the name too. -/

namespace StateWeave

open StateWeave.Expr (usesIn)
open StateWeave.Stmt (partsBlock usesBlock usesBlock_filled)

/-- A handler, or a case of a match. -/
structure Arm where
  /-- The names that it captures. -/
  captures : List String
  guard : List Expr
  body : Block

namespace Arm

def ofHandler (h : Handler) : Arm :=
  ⟨h.name.toList, [], h.body⟩

def ofCase (c : MatchCase) : Arm :=
  ⟨c.pattern.captures, c.guard.toList, c.body⟩

/-- The uses of names in code that runs with the captures. -/
def uses (a : Arm) : List PlacedUse :=
  usesIn .code a.guard ++ usesBlock a.body

/-- The captures, and how names are used beside them. -/
def view (a : Arm) : List String × List Use :=
  (a.captures, a.uses.map (·.use))

/-- What rewriting makes of that. -/
def rendered (s : ClassScope) (a : Arm) : List String × List Use :=
  (a.captures, s.spelledAll a.uses)

end Arm

namespace Stmt

/-- The arms of a statement itself, less those in its blocks. -/
def ownArms : Stmt → List Arm
  | .matchStmt _ cases => cases.map .ofCase
  | .tryStmt _ _ handlers _ _ => handlers.map .ofHandler
  | _ => []

/-- Every arm in the scope that a block runs in. -/
def arms (b : Block) : List Arm :=
  (partsBlock b).flatMap ownArms

theorem ownArms_of_opensBlock {x : Stmt} (h : x.opensBlock = false) : x.ownArms = [] := by
  cases x <;> first | rfl | cases h

theorem view_filledHandler (h : Handler) :
    (Arm.ofHandler (filledHandler h)).view = (Arm.ofHandler h).view := by
  obtain ⟨type, name, body⟩ := h
  unfold Arm.view Arm.uses Arm.ofHandler
  rw [filledHandler, usesBlock_filled]

theorem view_filledCase (c : MatchCase) :
    (Arm.ofCase (filledCase c)).view = (Arm.ofCase c).view := by
  obtain ⟨pattern, guard, body⟩ := c
  unfold Arm.view Arm.uses Arm.ofCase
  rw [filledCase, usesBlock_filled]

theorem views_looksAtNoBlock : LooksAtNoBlock fun x => x.ownArms.map Arm.view where
  filled x := by
    cases x with
    | matchStmt subject cases =>
      rw [filled, filledCases_eq_map, ownArms, ownArms]
      simp only [List.map_map, Function.comp_def, view_filledCase]
    | tryStmt isGroup body handlers orelse finalbody =>
      rw [filled, filledHandlers_eq_map, ownArms, ownArms]
      simp only [List.map_map, Function.comp_def, view_filledHandler]
    | _ => rfl
  pass := rfl

end Stmt

namespace ClassScope

variable {s : ClassScope} {n : String}

theorem uses_rewriteBlock (hs : s.Grounded) (b : Block) :
    (Stmt.usesBlock (s.rewriteBlock b)).map (·.use) = s.spelledAll (Stmt.usesBlock b) := by
  rw [← usesBlock_filled]
  exact uses_rewritten hs b

theorem view_rewriteHandler (hs : s.Grounded) (h : Handler) :
    (Arm.ofHandler (s.rewriteHandler h)).view = (Arm.ofHandler h).rendered s := by
  obtain ⟨type, name, body⟩ := h
  exact congrArg (name.toList, ·) (uses_rewriteBlock hs body)

theorem view_rewriteCase (hs : s.Grounded) (c : MatchCase) :
    (Arm.ofCase (s.rewriteCase c)).view = (Arm.ofCase c).rendered s := by
  obtain ⟨pattern, guard, body⟩ := c
  unfold Arm.view Arm.rendered Arm.uses Arm.ofCase
  rw [rewriteCase, captures_rewritePattern, List.map_append, map_use_usesIn, uses_rewriteBlock hs,
    spelledAll_append, spelledAll_code hs, toList_rewriteOption]

/-- Statement by statement, the arms are those of the source, rewritten. -/
theorem ownArms_rewriteStmt (hs : s.Grounded) (x : Stmt) :
    (s.rewriteStmt x).flatMap (fun y => y.ownArms.map Arm.view) =
      x.ownArms.map (Arm.rendered s) := by
  cases hopens : x.opensBlock with
  | false =>
    rw [Stmt.ownArms_of_opensBlock hopens, List.map_nil, List.flatMap_eq_nil_iff]
    intro y hy
    rw [Stmt.ownArms_of_opensBlock (opensBlock_rewriteStmt hopens y hy), List.map_nil]
  | true =>
    cases x with
    | matchStmt subject cases =>
      rw [rewriteStmt, List.flatMap_singleton, rewriteCases_eq_map, Stmt.ownArms, Stmt.ownArms]
      simp only [List.map_map, Function.comp_def, view_rewriteCase hs]
    | tryStmt isGroup body handlers orelse finalbody =>
      rw [rewriteStmt, List.flatMap_singleton, rewriteHandlers_eq_map, Stmt.ownArms, Stmt.ownArms]
      simp only [List.map_map, Function.comp_def, view_rewriteHandler hs]
    | forLoop | whileLoop | ifStmt | withStmt => rfl
    | _ => cases hopens

/-- The arms of rewritten code capture what those of the code do, and use what its uses become. -/
theorem arms_rewritten (hs : s.Grounded) (b : Block) :
    (Stmt.arms (orPass (filledBlock (s.rewriteBlock b)))).map Arm.view =
      (Stmt.arms b).map (Arm.rendered s) := by
  unfold Stmt.arms
  rw [List.map_flatMap, Stmt.flatMap_partsBlock_orPass Stmt.views_looksAtNoBlock,
    Stmt.flatMap_partsBlock_filled Stmt.views_looksAtNoBlock,
    flatMap_parts_rewriteBlock (ownArms_rewriteStmt hs), List.map_flatMap]

/-- A read of a name is kept as it is where the name is none of the class, and in the signature of a
nested function; everywhere else it is a read of the owner, unless it is dropped. -/
theorem rendered_read {x : PlacedUse} (hx : x.use = .bare ⟨n, .load⟩) :
    s.rendered x =
      if s.takes x.place = false then []
      else if x.place = .signature ∨ s.inScope n = false then [.kept x.use]
      else [.owner] := by
  obtain ⟨use, place⟩ := x
  obtain rfl : use = _ := hx
  have hrenditions : s.renditions (.bare ⟨n, .load⟩) =
      if s.inScope n = false then [.kept (.bare ⟨n, .load⟩)] else [.owner] := by
    cases hscope : s.inScope n <;> simp [renditions, hscope]
  cases place with
  | assigned name =>
    cases hret : s.retains name <;> simp [rendered, takes, hret, hrenditions]
  | code => simp [rendered, takes, hrenditions]
  | _ => simp [rendered, takes]

/-- A name that is read to be stored to the owner has been bound by a nested statement. -/
theorem declared_of_rebound {u : Use} (h : .rebound n ∈ s.renditions u) :
    ∃ names, u = .declared names ∧ n ∈ names := by
  cases u with
  | declared names =>
    simp only [renditions, List.mem_cons, List.mem_flatMap, List.mem_filter, reduceCtorEq,
      List.not_mem_nil, Rendition.rebound.injEq, false_or, or_false] at h
    obtain ⟨m, ⟨hm, -⟩, rfl⟩ := h
    exact ⟨names, rfl, hm⟩
  | bare o | deleted o | sole name | walrus name =>
    rw [renditions] at h
    split_ifs at h <;> simp at h
  | captured name | foreign names => simp [renditions] at h

theorem declared_of_rebound_rendered {x : PlacedUse} (h : .rebound n ∈ s.rendered x) :
    ∃ names, x.use = .declared names ∧ n ∈ names := by
  obtain ⟨-, h⟩ := (exists_rendered x (p := (· = .rebound n))).1 ⟨_, h, rfl⟩
  split_ifs at h
  obtain ⟨_, hr, rfl⟩ := h
  exact declared_of_rebound hr

end ClassScope

/-- The arms of the state statements of a class. -/
def ClassModel.stateArms (c : ClassModel) : List Arm :=
  Stmt.arms (c.initializer.map (·.2))

section Copy

variable {name runtimeAlias : String} {tree : Block} {m : ModuleModel} {c : ClassModel}
  {u v : ReloadUnit} {f : Stmt}

/-- The copy of a class captures what its state statements capture. A read of a captured name stays
a read of the capture exactly if the name is none of the class, or the read stands in the signature
of a nested function; any other is taken to the class. The captured value is not stored there: only
what a nested statement has bound anew is. -/
theorem copy_reads_captured (hread : ModuleModel.read name tree = .ok m)
    (hc : c ∈ m.allClasses) (hu : u ∈ ReloadUnit.copy? c) (hv : u.qualify = .ok v)
    (hf : v.render runtimeAlias = .ok f) :
    ∃ header body, f = .functionDef header body ∧
      (Stmt.arms body).map Arm.view =
        c.stateArms.map (Arm.rendered (c.copyScope runtimeAlias)) ∧
      ∀ a ∈ c.stateArms, ∀ n ∈ a.captures,
        (∀ x ∈ a.uses, x.use = .bare ⟨n, .load⟩ → (c.copyScope runtimeAlias).rendered x =
          if (c.copyScope runtimeAlias).takes x.place = false then []
          else if x.place = .signature ∨ c.inScope n = false then [.kept x.use]
          else [.owner]) ∧
        ∀ x ∈ a.uses, .rebound n ∈ (c.copyScope runtimeAlias).rendered x →
          ∃ names, x.use = .declared names ∧ n ∈ names := by
  have hs := (ModuleModel.read_kept ClassModel.named_kept hread c hc).grounded runtimeAlias
  refine ⟨_, _, ReloadUnit.render_copy hu hv hf, ClassScope.arms_rewritten hs _, ?_⟩
  exact fun a _ n _ => ⟨fun x _ hx => ClassScope.rendered_read hx,
    fun x _ hx => ClassScope.declared_of_rebound_rendered hx⟩

/-- A class that captures an exception under the name of its storage. -/
def probe : Block :=
  [.classDef ⟨"Probe", [], [], [], []⟩
    [.assign [.name "err" .store] (.constant .null),
      .tryStmt false
        [.expr (.call (.name "int" .load) [.constant (.str "x")] [])]
        [⟨some (.name "ValueError" .load), some "err",
          [.assign [.name "last" .store] (.name "err" .load)]⟩] [] []]]

/-- The handler in the copy reads the class twice, for the store and for the name, and never the
exception. -/
theorem copy_reads_captured_probe :
    ∃ m c u v f header body, ModuleModel.read "app" probe = .ok m ∧ c ∈ m.allClasses ∧
      u ∈ ReloadUnit.copy? c ∧ u.qualify = .ok v ∧ v.render "__typereload__" = .ok f ∧
      f = .functionDef header body ∧
      c.stateArms.map Arm.view =
        [(["err"], [.sole "last", .bare ⟨"err", .load⟩])] ∧
      (Stmt.arms body).map Arm.view =
        [(["err"], [.bare ⟨"__typereload__", .load⟩, .bare ⟨"Probe", .load⟩,
          .bare ⟨"Probe", .load⟩])] := by
  have hmem : ∀ m, ModuleModel.read "app" probe = .ok m → ∃ c ∈ m.allClasses,
      c.stateArms.map Arm.view = [(["err"], [.sole "last", .bare ⟨"err", .load⟩])] ∧
      c.stateArms.map (Arm.rendered (c.copyScope "__typereload__")) =
        [(["err"], [.bare ⟨"__typereload__", .load⟩, .bare ⟨"Probe", .load⟩,
          .bare ⟨"Probe", .load⟩])] ∧
      ∃ u ∈ ReloadUnit.copy? c, ∃ v, u.qualify = .ok v ∧
        ∃ f, v.render "__typereload__" = .ok f := by
    rintro _ ⟨⟩
    simp only [ModuleModel.allClasses_eq]
    exact ⟨_, .head _, by decide +kernel, by decide +kernel, _, rfl, _, rfl, _, rfl⟩
  obtain ⟨m, hread⟩ : ∃ m, ModuleModel.read "app" probe = .ok m := ⟨_, rfl⟩
  obtain ⟨c, hc, hsource, hrendered, u, hu, v, hv, f, hf⟩ := hmem m hread
  obtain ⟨header, body, hbody, harms, -⟩ := copy_reads_captured hread hc hu hv hf
  exact ⟨m, c, u, v, f, header, body, hread, hc, hu, hv, hf, hbody, hsource,
    harms.trans hrendered⟩

end Copy

end StateWeave
