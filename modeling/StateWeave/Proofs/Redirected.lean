import StateWeave.Proofs.Retained
import StateWeave.Proofs.Uses

/-! Where the names of a class stand in the copy of its state statements. Each that the code of the
class uses is reached through the owner, stored through the runtime, thrown away or dropped. The
annotations of nested functions alone are not looked into: what they name of the class the copy
looks up elsewhere. -/

namespace StateWeave

namespace ClassScope

variable {s : ClassScope}

/-- Whether a rendition is a name of the class that stays as it was written. -/
def leaves (s : ClassScope) : Rendition → Bool
  | .kept u => u.named.any s.inScope
  | _ => false

/-- Where code is rewritten, no name of the class stays, -/
theorem leaves_renditions (u : Use) : ∀ r ∈ s.renditions u, s.leaves r = false := by
  intro r hr
  cases r with
  | kept v =>
    obtain ⟨rfl, hnamed⟩ := kept_of_mem hr
    simpa [leaves] using hnamed
  | _ => rfl

/-- and in the signature of a nested function every name does. -/
theorem leaves_rendered (x : PlacedUse) :
    (∀ r ∈ s.rendered x, s.leaves r = false) ↔
      (x.place = .signature → ∀ n ∈ x.use.named, s.inScope n = false) := by
  obtain ⟨u, place⟩ := x
  cases place with
  | code => exact iff_of_true (leaves_renditions u) nofun
  | assigned name =>
    refine iff_of_true (fun r hr => ?_) nofun
    have hr : r ∈ if s.retains name then [] else s.renditions u := hr
    split_ifs at hr
    · cases hr
    · exact leaves_renditions u r hr
  | annot | unassigned => exact iff_of_true nofun nofun
  | signature => simp [rendered, leaves]

end ClassScope

section Copy

variable {name runtimeAlias : String} {tree : Block} {m : ModuleModel} {c : ClassModel}
  {u v : ReloadUnit} {f : Stmt}

/-- The names in the copy of a class are what the uses of names in its state statements are rendered
as. A name of the class stays as it was written, and is not looked up in the class, exactly where
it stands in the signature of a nested function. -/
theorem copy_redirects_iff (hread : ModuleModel.read name tree = .ok m)
    (hc : c ∈ m.allClasses) (hu : u ∈ ReloadUnit.copy? c) (hv : u.qualify = .ok v)
    (hf : v.render runtimeAlias = .ok f) :
    ∃ header body, f = .functionDef header body ∧
      Stmt.namedBlock body =
        (c.stateUses.flatMap (c.copyScope runtimeAlias).rendered).flatMap
          (fun r => ((c.copyScope runtimeAlias).spelled r).named) ∧
      ((∀ r ∈ c.stateUses.flatMap (c.copyScope runtimeAlias).rendered,
          (c.copyScope runtimeAlias).leaves r = false) ↔
        ∀ x ∈ c.stateUses, x.place = .signature → ∀ n ∈ x.use.named, c.inScope n = false) := by
  have hs := (ModuleModel.read_kept ClassModel.named_kept hread c hc).grounded runtimeAlias
  have hnamed := congrArg (List.flatMap Use.named)
    (ClassScope.uses_rewritten hs (c.initializer.map (·.2)))
  rw [List.flatMap_map, ClassScope.spelledAll, List.flatMap_map] at hnamed
  refine ⟨_, _, ReloadUnit.render_copy hu hv hf, ?_, ?_⟩
  · rw [Stmt.namedBlock_eq]
    exact hnamed
  · calc (∀ r ∈ c.stateUses.flatMap (c.copyScope runtimeAlias).rendered,
          (c.copyScope runtimeAlias).leaves r = false)
        ↔ ∀ x ∈ c.stateUses, ∀ r ∈ (c.copyScope runtimeAlias).rendered x,
            (c.copyScope runtimeAlias).leaves r = false := List.forall_mem_flatMap
      _ ↔ _ := forall₂_congr fun x _ => ClassScope.leaves_rendered x

/-- A nested function whose parameter is annotated with a name of the class. -/
def shelf : Block :=
  [.classDef ⟨"Shelf", [], [], [], []⟩
    [.assign [.name "Size" .store] (.name "int" .load),
      .ifStmt (.name "Size" .load)
        [.functionDef
          ⟨false, "fit", ⟨[], [⟨"item", some (.name "Size" .load)⟩], none, [], [], none, []⟩, [],
            none, []⟩ [.pass]] []]]

/-- The copy looks that name up outside the class. -/
theorem copy_redirects_iff_shelf :
    ∃ m c u v f header body, ModuleModel.read "app" shelf = .ok m ∧ c ∈ m.allClasses ∧
      u ∈ ReloadUnit.copy? c ∧ u.qualify = .ok v ∧ v.render "__typereload__" = .ok f ∧
      f = .functionDef header body ∧
      (Stmt.namedBlock body).filter c.inScope = ["Size", "fit"] ∧
      ¬∀ r ∈ c.stateUses.flatMap (c.copyScope "__typereload__").rendered,
        (c.copyScope "__typereload__").leaves r = false := by
  have hmem : ∀ m, ModuleModel.read "app" shelf = .ok m → ∃ c ∈ m.allClasses,
      ((c.stateUses.flatMap (c.copyScope "__typereload__").rendered).flatMap
        fun r => ((c.copyScope "__typereload__").spelled r).named).filter c.inScope =
          ["Size", "fit"] ∧
      (¬∀ x ∈ c.stateUses, x.place = .signature → ∀ n ∈ x.use.named, c.inScope n = false) ∧
      ∃ u ∈ ReloadUnit.copy? c, ∃ v, u.qualify = .ok v ∧
        ∃ f, v.render "__typereload__" = .ok f := by
    rintro _ ⟨⟩
    simp only [ModuleModel.allClasses_eq]
    exact ⟨_, .head _, by decide +kernel, by decide +kernel, _, rfl, _, rfl, _, rfl⟩
  obtain ⟨m, hread⟩ : ∃ m, ModuleModel.read "app" shelf = .ok m := ⟨_, rfl⟩
  obtain ⟨c, hc, hfound, hsignature, u, hu, v, hv, f, hf⟩ := hmem m hread
  obtain ⟨header, body, hbody, hnamed, hiff⟩ := copy_redirects_iff hread hc hu hv hf
  exact ⟨m, c, u, v, f, header, body, hread, hc, hu, hv, hf, hbody, hnamed ▸ hfound,
    fun h => hsignature (hiff.1 h)⟩

end Copy

end StateWeave
