import StateWeave.Proofs.Retained
import StateWeave.Proofs.Uses

/-! The local variables of the copy of state statements. What the class body stored to the class the
copy stores through the owner, so most of its names are none of the copy's. The names that nested
statements and captures bind are, though, and nothing keeps them apart from the names by which the
copy reaches the owner and the runtime. -/

namespace StateWeave

namespace Stmt

/-- The local variables of a function with this body, less its parameters. -/
def locals (b : Block) : List String :=
  ((usesBlock b).flatMap (·.use.bound)).filter
    fun n => !((usesBlock b).flatMap (·.use.outer)).contains n

theorem mem_locals {b : Block} {n : String} :
    n ∈ locals b ↔ (∃ u ∈ (usesBlock b).map (·.use), n ∈ u.bound) ∧
      ¬∃ u ∈ (usesBlock b).map (·.use), n ∈ u.outer := by
  simp [locals, List.mem_filter, List.mem_flatMap]

end Stmt

namespace ClassScope

variable {s : ClassScope} {x : PlacedUse} {n : String}

/-- Whether a use stores a retained name as part of something larger, which has to go somewhere. -/
def diverts (s : ClassScope) : Use → Bool
  | .bare o => o.ctx = .store && s.retains o.name
  | .walrus name => s.retains name
  | _ => false

/-- Whether nothing in the copy takes the place of what a use binds. -/
def bindsAsIs (s : ClassScope) (u : Use) (n : String) : Bool :=
  match u with
  | .declared names => names.contains n
  | .captured name => n == name
  | u => u.bound.contains n && !s.inScope n

/-- Whether what stands at a place is in the copy. -/
def takes (s : ClassScope) : Position → Bool
  | .assigned name => !s.retains name
  | .annot | .unassigned => false
  | .code | .signature => true

theorem exists_rendered (x : PlacedUse) {p : Rendition → Prop} :
    (∃ r ∈ s.rendered x, p r) ↔ s.takes x.place = true ∧
      if x.place = .signature then p (.kept x.use) else ∃ r ∈ s.renditions x.use, p r := by
  obtain ⟨u, place⟩ := x
  cases place with
  | assigned name => cases hret : s.retains name <;> simp [rendered, takes, hret]
  | _ => simp [rendered, takes]

/-- Whether a use of the source makes a name a local variable of the copy. -/
def Localizes (s : ClassScope) (x : PlacedUse) (n : String) : Prop :=
  s.takes x.place = true ∧
    if x.place = .signature then n ∈ x.use.bound
    else s.bindsAsIs x.use n = true ∨ s.diverts x.use = true ∧ n = discardName

instance (x : PlacedUse) (n : String) : Decidable (s.Localizes x n) :=
  inferInstanceAs (Decidable (_ ∧ _))

/-- A use of one name binds it as it is unless the name is one of the class. -/
theorem bindsAsIs_iff (name : String) {u : Use} (hbound : ∀ m ∈ u.bound, m = name)
    (hu : s.bindsAsIs u n = (u.bound.contains n && !s.inScope n)) :
    s.bindsAsIs u n = true ↔ s.inScope name = false ∧ n ∈ u.bound := by
  rw [hu, Bool.and_eq_true, List.contains_iff_mem, Bool.not_eq_true', and_comm]
  exact and_congr_left fun hn => by rw [hbound n hn]

/-- The names that the renditions of a use bind. -/
theorem bound_renditions (hs : s.Grounded) (u : Use) :
    (∃ r ∈ s.renditions u, n ∈ (s.spelled r).bound) ↔
      s.bindsAsIs u n = true ∨ s.diverts u = true ∧ n = discardName := by
  cases u with
  | bare o =>
    rw [bindsAsIs_iff o.name (by simp +contextual [Use.bound]) rfl]
    cases hscope : s.inScope o.name with
    | false => simp [renditions, hscope, diverts, hs.retains_of_not_inScope hscope, spelled]
    | true =>
      by_cases hret : o.ctx = .store ∧ s.retains o.name = true
      · simp [renditions, hscope, diverts, hret, spelled, Use.bound]
      · have howner : s.renditions (.bare o) = [.owner] := by simp [renditions, hscope, hret]
        simp [howner, diverts, hret, spelled, Use.bound]
  | deleted o =>
    rw [bindsAsIs_iff o.name (by simp +contextual [Use.bound]) rfl]
    cases hscope : s.inScope o.name with
    | false => simp [renditions, hscope, diverts, hs.retains_of_not_inScope hscope, spelled]
    | true => by_cases hret : s.retains o.name = true <;>
        simp [renditions, hscope, diverts, hret, spelled, Use.bound]
  | sole name =>
    rw [bindsAsIs_iff name (by simp [Use.bound]) rfl]
    cases hscope : s.inScope name <;> simp [renditions, hscope, diverts, spelled, Use.bound]
  | walrus name =>
    rw [bindsAsIs_iff name (by simp [Use.bound]) rfl]
    cases hscope : s.inScope name with
    | false => simp [renditions, hscope, diverts, hs.retains_of_not_inScope hscope, spelled]
    | true => cases hret : s.retains name <;>
        simp [renditions, hscope, diverts, hret, spelled, Use.bound]
  | declared names =>
    -- what is stored to the owner is only read
    have hread : ∀ r ∈ (names.filter s.stores).flatMap fun m => [Rendition.owner, .rebound m],
        (s.spelled r).bound = [] := by
      intro r hr
      obtain ⟨m, -, hr⟩ := List.mem_flatMap.1 hr
      simp only [List.mem_cons, List.not_mem_nil, or_false] at hr
      rcases hr with rfl | rfl <;> rfl
    have hnone : ¬∃ r ∈ (names.filter s.stores).flatMap fun m => [Rendition.owner, .rebound m],
        n ∈ (s.spelled r).bound := by
      rintro ⟨r, hr, hn⟩
      rw [hread r hr] at hn
      cases hn
    rw [renditions, List.exists_mem_cons_iff, or_iff_left hnone]
    simp [spelled, Use.bound, bindsAsIs, diverts]
  | captured name => simp [renditions, bindsAsIs, diverts, spelled, Use.bound]
  | foreign names => simp [renditions, bindsAsIs, diverts, spelled, Use.bound]

/-- The names that a use makes local variables of the copy, -/
theorem bound_rendered (hs : s.Grounded) (x : PlacedUse) :
    (∃ r ∈ s.rendered x, n ∈ (s.spelled r).bound) ↔ s.Localizes x n := by
  rw [exists_rendered, bound_renditions hs]
  rfl

theorem outer_renditions (u : Use) :
    (∃ r ∈ s.renditions u, n ∈ (s.spelled r).outer) ↔ n ∈ u.outer := by
  constructor
  · rintro ⟨r, hr, hn⟩
    cases r with
    | kept v =>
      obtain ⟨rfl, -⟩ := kept_of_mem hr
      exact hn
    | discard isWalrus => cases isWalrus <;> cases hn
    | _ => cases hn
  · intro hn
    cases u with
    | foreign names => exact ⟨_, List.mem_singleton_self _, hn⟩
    | _ => cases hn

/-- and those that it says are not of this scope. -/
theorem outer_rendered (x : PlacedUse) :
    (∃ r ∈ s.rendered x, n ∈ (s.spelled r).outer) ↔
      s.takes x.place = true ∧ n ∈ x.use.outer := by
  rw [exists_rendered, outer_renditions]
  exact and_congr_right fun _ => iff_of_eq (ite_self _)

theorem exists_spelledAll {xs : List PlacedUse} {p : Use → Prop} :
    (∃ u ∈ s.spelledAll xs, p u) ↔ ∃ x ∈ xs, ∃ r ∈ s.rendered x, p (s.spelled r) := by
  simp only [spelledAll, List.mem_map, List.mem_flatMap]
  constructor
  · rintro ⟨_, ⟨r, ⟨x, hx, hr⟩, rfl⟩, hp⟩
    exact ⟨x, hx, r, hr, hp⟩
  · rintro ⟨x, hx, r, hr, hp⟩
    exact ⟨_, ⟨r, ⟨x, hx, hr⟩, rfl⟩, hp⟩

/-- The local variables of rewritten code are what the uses of names in the code make of it. -/
theorem mem_locals_rewritten (hs : s.Grounded) (b : Block) :
    n ∈ Stmt.locals (orPass (filledBlock (s.rewriteBlock b))) ↔
      (∃ x ∈ Stmt.usesBlock b, s.Localizes x n) ∧
        ¬∃ x ∈ Stmt.usesBlock b, s.takes x.place = true ∧ n ∈ x.use.outer := by
  rw [Stmt.mem_locals, uses_rewritten hs, exists_spelledAll, exists_spelledAll]
  simp only [bound_rendered hs, outer_rendered]

end ClassScope

/-- The name by which copied statements begin the way to their class. -/
def ClassModel.ownerHead (c : ClassModel) : String :=
  if c.isGeneric then ReloadUnit.classParameter else c.path.headD c.name

theorem ClassModel.root_ownerExpr (c : ClassModel) : c.ownerExpr.root = c.ownerHead := by
  unfold ownerExpr ownerHead
  split_ifs
  · rfl
  · cases c.path with
    | nil => rfl
    | cons head attrs => exact Expr.root_path head attrs

section Copy

variable {name runtimeAlias : String} {tree : Block} {m : ModuleModel} {c : ClassModel}
  {u v : ReloadUnit} {f : Stmt}

/-- The local variables of the copy of a class are the names that its state statements declare or
capture, those that they bind without their being names of the class, and the throwaway name where
it is needed. The owner and the runtime are reached by names of the module, or by the parameter of a
generic class, exactly if none of those is the same. -/
theorem copy_captures_iff (hread : ModuleModel.read name tree = .ok m)
    (hc : c ∈ m.allClasses) (hu : u ∈ ReloadUnit.copy? c) (hv : u.qualify = .ok v)
    (hf : v.render runtimeAlias = .ok f) :
    ∃ header body, f = .functionDef header body ∧
      (c.copyScope runtimeAlias).owner.root = c.ownerHead ∧
      (∀ n, n ∈ Stmt.locals body ↔
        (∃ x ∈ c.stateUses, (c.copyScope runtimeAlias).Localizes x n) ∧
          ¬∃ x ∈ c.stateUses, (c.copyScope runtimeAlias).takes x.place = true ∧ n ∈ x.use.outer) ∧
      ((runtimeAlias ∉ Stmt.locals body ∧ c.ownerHead ∉ Stmt.locals body) ↔
        ∀ n ∈ [runtimeAlias, c.ownerHead],
          (∃ x ∈ c.stateUses, (c.copyScope runtimeAlias).Localizes x n) →
            ∃ x ∈ c.stateUses, (c.copyScope runtimeAlias).takes x.place = true ∧
              n ∈ x.use.outer) := by
  have hs := (ModuleModel.read_kept ClassModel.named_kept hread c hc).grounded runtimeAlias
  have hlocals : ∀ n, n ∈ Stmt.locals (Weave.copiedBody runtimeAlias c) ↔
      (∃ x ∈ c.stateUses, (c.copyScope runtimeAlias).Localizes x n) ∧
        ¬∃ x ∈ c.stateUses, (c.copyScope runtimeAlias).takes x.place = true ∧ n ∈ x.use.outer :=
    fun n => ClassScope.mem_locals_rewritten hs _
  refine ⟨_, _, ReloadUnit.render_copy hu hv hf, c.root_ownerExpr, hlocals, ?_⟩
  rw [List.forall_mem_cons, List.forall_mem_singleton, hlocals, hlocals, not_and_not_right,
    not_and_not_right]

/-- A class that takes its own name from a module under a condition. -/
def config : Block :=
  [.classDef ⟨"Config", [], [], [], []⟩
    [.assign [.name "limit" .store] (.constant (.int 10)),
      .ifStmt (.name "limit" .load)
        [.imports (.fromModule (some "defaults") (some 0)) [⟨"Config", none⟩]] []]]

/-- In the copy that name is no longer the class. -/
theorem copy_captures_iff_config :
    ∃ m c u v f header body, ModuleModel.read "app" config = .ok m ∧ c ∈ m.allClasses ∧
      u ∈ ReloadUnit.copy? c ∧ u.qualify = .ok v ∧ v.render "__typereload__" = .ok f ∧
      f = .functionDef header body ∧ c.ownerHead = "Config" ∧
      "Config" ∈ Stmt.locals body ∧ "__typereload__" ∉ Stmt.locals body := by
  have hmem : ∀ m, ModuleModel.read "app" config = .ok m → ∃ c ∈ m.allClasses,
      c.ownerHead = "Config" ∧
      (∃ x ∈ c.stateUses, (c.copyScope "__typereload__").Localizes x "Config") ∧
      (¬∃ x ∈ c.stateUses, (c.copyScope "__typereload__").takes x.place = true ∧
        "Config" ∈ x.use.outer) ∧
      (¬∃ x ∈ c.stateUses, (c.copyScope "__typereload__").Localizes x "__typereload__") ∧
      ∃ u ∈ ReloadUnit.copy? c, ∃ v, u.qualify = .ok v ∧
        ∃ f, v.render "__typereload__" = .ok f := by
    rintro _ ⟨⟩
    simp only [ModuleModel.allClasses_eq]
    exact ⟨_, .head _, by decide +kernel, by decide +kernel, by decide +kernel, by decide +kernel,
      _, rfl, _, rfl, _, rfl⟩
  obtain ⟨m, hread⟩ : ∃ m, ModuleModel.read "app" config = .ok m := ⟨_, rfl⟩
  obtain ⟨c, hc, hhead, hlocal, houter, hruntime, u, hu, v, hv, f, hf⟩ := hmem m hread
  obtain ⟨header, body, hbody, -, hlocals, -⟩ := copy_captures_iff hread hc hu hv hf
  exact ⟨m, c, u, v, f, header, body, hread, hc, hu, hv, hf, hbody, hhead,
    (hlocals _).2 ⟨hlocal, houter⟩, fun h => hruntime ((hlocals _).1 h).1⟩

end Copy

end StateWeave
