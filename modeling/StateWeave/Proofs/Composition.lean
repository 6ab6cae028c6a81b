import StateWeave.Proofs.Places

/-! Weaving is compositional. Of what is read in one part of a module only the names of enums reach
the next, so two parts that are woven apart, the first of them without enums, are woven alike when
they stand one behind the other. -/

namespace StateWeave

open ClassModel (bind_eq_ok)

namespace ClassTree

/-- Whoever reads a body without enums knows no more enums afterwards. -/
theorem readBody_enums (b : Block) :
    ∀ {t t' : ClassTree} {enums enums' : List String} {index : Nat},
      readBody t enums index b = .ok (t', enums') →
      (∀ c ∈ preorderForest t'.nested, c.isEnum = false) → enums' = enums := by
  induction b using block_induction with
  | nil =>
    intro t t' enums enums' index hr _
    cases hr
    rfl
  | other s rest hs ih =>
    intro t t' enums enums' index hr noEnum
    rcases readBody_cons_cases hr with ⟨-, c, -, -, hrest⟩ | ⟨h, body, n, later, rfl, -, -⟩
    · exact ih hrest noEnum
    · cases hs
  | cls h body rest ihBody ih =>
    intro t t' enums enums' index hr noEnum
    rcases readBody_cons_cases hr with ⟨hs, -⟩ | ⟨h', body', n, later, he, hn, hrest⟩
    · cases hs
    · cases he
      obtain ⟨-, ns, nested, -⟩ := readBody_lists rest hrest
      have inside : ∀ c ∈ n.preorder, c.isEnum = false := by
        intro c hc
        refine noEnum c ?_
        rw [nested, addNested, List.append_assoc, preorderForest_append]
        exact List.mem_append_right _ (List.mem_append_left _ hc)
      rw [ih hrest noEnum]
      obtain ⟨params, -, ⟨-, -, rfl⟩ | ⟨-, u, hu, rfl⟩⟩ := read_cases hn
      · exact absurd (inside _ List.mem_cons_self) (by simp)
      · exact ihBody hu fun c hc => inside c (List.mem_cons_of_mem _ hc)

theorem read_enums {place : List Nat} {outer enums enums' : List String} {h : ClassHeader}
    {body : Block} {n : ClassTree} (hr : read place outer enums h body = .ok (n, enums'))
    (noEnum : ∀ c ∈ n.preorder, c.isEnum = false) : enums' = enums := by
  obtain ⟨params, -, ⟨-, -, rfl⟩ | ⟨-, u, hu, rfl⟩⟩ := read_cases hr
  · exact absurd (noEnum _ List.mem_cons_self) (by simp)
  · exact readBody_enums body hu fun c hc => noEnum c (List.mem_cons_of_mem _ hc)

end ClassTree

namespace ModuleModel

/-- Without enums in front of it a block is read as if it stood alone, with higher numbers. -/
theorem readClasses_append (b b' : Block) :
    ∀ {enums : List String} {place : Nat} {ts ts' : List ClassTree},
      readClasses enums place b = .ok ts →
      (∀ c ∈ ClassTree.preorderForest ts, c.isEnum = false) →
      readClasses enums (place + ts.length) b' = .ok ts' →
      readClasses enums place (b ++ b') = .ok (ts ++ ts') := by
  induction b with
  | nil =>
    intro enums place ts ts' hr _ hr'
    cases hr
    exact hr'
  | cons s rest ih =>
    intro enums place ts ts' hr noEnum hr'
    rw [List.cons_append]
    cases hs : s.isClass with
    | false =>
      rw [readClasses_other _ _ _ hs] at hr ⊢
      exact ih hr noEnum hr'
    | true =>
      obtain ⟨h, body, rfl⟩ := s.eq_classDef hs
      rw [readClasses_class] at hr ⊢
      obtain ⟨⟨n, enums'⟩, hn, hr⟩ := bind_eq_ok.1 hr
      obtain ⟨us, hus, he⟩ := bind_eq_ok.1 hr
      cases he
      rw [ClassTree.preorderForest, List.forall_mem_append] at noEnum
      obtain rfl := ClassTree.read_enums hn noEnum.1
      rw [List.length_cons, Nat.add_comm us.length, ← Nat.add_assoc] at hr'
      simp only [hn, bind, Except.bind, ih hus noEnum.2 hr', List.cons_append]

/-- A module of two parts has the classes of both, those of the second with other places. -/
theorem read_append {name : String} {b b' : Block} {m m' : ModuleModel}
    (first : read name b = .ok m) (noEnum : ∀ c ∈ m.allClasses, c.isEnum = false)
    (second : read name b' = .ok m') :
    ∃ us, read name (b ++ b') = .ok ⟨name, m.classes ++ us⟩ ∧ Moved m'.classes us := by
  obtain ⟨ts, hts, he⟩ := bind_eq_ok.1 first
  cases he
  obtain ⟨ts', hts', he⟩ := bind_eq_ok.1 second
  cases he
  obtain ⟨us, hus, moved⟩ := readClasses_moved b' (0 + ts.length) hts'
  rw [allClasses_eq] at noEnum
  refine ⟨us, ?_, moved⟩
  simp only [read, readClasses_append b b' hts noEnum hus, bind, Except.bind, pure, Except.pure]

end ModuleModel

namespace Weave

theorem Hook.ofForest_append (added : ClassModel → Block) (ts us : List ClassTree) :
    Hook.ofForest added (ts ++ us) = Hook.ofForest added ts ++ Hook.ofForest added us := by
  induction ts with
  | nil => rfl
  | cons t ts ih => rw [List.cons_append, Hook.ofForest, Hook.ofForest, ih, List.cons_append]

/-- Each block takes the hooks of its own classes. -/
theorem graftBlock_append (added : ClassModel → Block) {ts : List ClassTree} {b : Block}
    (lists : Lists ts b) (hooks : List Hook) (b' : Block) :
    graftBlock (Hook.ofForest added ts ++ hooks) (b ++ b') =
      graftBlock (Hook.ofForest added ts) b ++ graftBlock hooks b' := by
  induction lists with
  | nil => rfl
  | keep hs _ ih =>
    rw [List.cons_append, graftBlock_cons_other _ hs, graftBlock_cons_other _ hs, ih,
      List.cons_append]
  | enum _ _ _ ih => exact congrArg (List.cons _) ih
  | cls _ _ _ _ _ ih => exact congrArg (List.cons _) ih

/-- A block whose classes are given nothing does not grow. -/
theorem Extends.eq_of_idle {added : ClassModel → Block} {ts : List ClassTree} {b b' : Block}
    (grown : Extends added ts b b') (idle : ∀ c ∈ ClassTree.preorderForest ts, added c = []) :
    b' = b := by
  induction grown with
  | nil => rfl
  | keep _ _ ih => rw [ih idle]
  | enum _ _ _ ih => rw [ih fun c hc => idle c (List.mem_cons_of_mem _ hc)]
  | cls _ _ _ _ ihBody ih =>
    simp only [ClassTree.preorderForest, ClassTree.preorder, List.cons_append,
      List.forall_mem_cons, List.forall_mem_append] at idle
    rw [ihBody idle.2.1, ih idle.2.2, idle.1, List.append_nil]

variable {zeros : ZeroTable} {config : Config} {name : String} {b b' : Block} {r r' : WeaveResult}
  {m : ModuleModel}

/-- The import that weaving put into a module. -/
def importOf (config : Config) (r : WeaveResult) : Block :=
  oneIf r.changed (runtimeImport config)

theorem remainder_eq (plain : opening b = []) : remainder b = b := by
  simpa [plain] using opening_append_remainder b

/-- A woven module is its grown statements behind the import, if nothing has to come before that. -/
theorem woven_tree_eq (hread : ModuleModel.read name b = .ok m)
    (hnone : ∀ c ∈ m.allClasses, refusal? zeros config.runtimeAlias c = none)
    (plain : opening b = []) :
    let r := woven config (given zeros config.runtimeAlias) m b
    r.tree = importOf config r ++
      graftBlock (Hook.ofForest (given zeros config.runtimeAlias) m.classes) b := by
  intro r
  have grown := graftBlock_extends (ModuleModel.read_lists hread).2
    fun c hc => (given_harmless hnone c hc).1
  obtain ⟨hooked, unchanged, changed⟩ := woven_cases config (given zeros config.runtimeAlias) m b
  by_cases idle : r.hooked = []
  · have nothing : ∀ c ∈ ClassTree.preorderForest m.classes,
        given zeros config.runtimeAlias c = [] := by
      simpa [hooked, r, m.allClasses_eq] using idle
    rw [grown.eq_of_idle nothing, unchanged idle]
    simp [importOf, oneIf, WeaveResult.changed, idle]
  · rw [changed idle, addRuntimeImport_eq, grown.opening_eq, plain,
      remainder_eq (grown.opening_eq.trans plain)]
    simp [importOf, oneIf, WeaveResult.changed, idle]

theorem opening_append (plain : opening b = []) (plain' : opening b' = []) :
    opening (b ++ b') = [] := by
  cases b with
  | nil => exact plain'
  | cons s rest =>
    simp only [opening] at plain
    split_ifs at plain with doc
    cases future : isFutureImport s with
    | true => simp [future] at plain
    | false => simp [opening, doc, future]

/-- Two blocks that can be woven, with nothing in them that has to come first and without enums in
the first of them, can be woven as one module. It hooks the classes of both and, apart from the import
of the runtime, consists of what the two come to on their own. -/
theorem weave_append (first : outcome zeros config name b = .ok r)
    (second : outcome zeros config name b' = .ok r') (read : ModuleModel.read name b = .ok m)
    (noEnum : ∀ c ∈ m.allClasses, c.isEnum = false) (plain : opening b = [])
    (plain' : opening b' = []) :
    ∃ t t' both, r.tree = importOf config r ++ t ∧ r'.tree = importOf config r' ++ t' ∧
      outcome zeros config name (b ++ b') = .ok both ∧ both.hooked = r.hooked ++ r'.hooked ∧
      both.tree = importOf config both ++ (t ++ t') := by
  obtain ⟨m₁, read₁, fresh₁, none₁, rfl⟩ := outcome_ok first
  obtain ⟨m₂, read₂, fresh₂, none₂, rfl⟩ := outcome_ok second
  obtain rfl := Except.ok.inj (read.symm.trans read₁)
  obtain ⟨us, readBoth, moved⟩ := ModuleModel.read_append read noEnum read₂
  have refusals : ∀ c p, refusal? zeros config.runtimeAlias (c.moved p) =
      refusal? zeros config.runtimeAlias c := fun c p => by
    rw [refusal?, refusal?, appended_moved]
  have gifts : ∀ c p, given zeros config.runtimeAlias (c.moved p) =
      given zeros config.runtimeAlias c := fun c p => by
    rw [given, given, appended_moved]
  have classes : (ModuleModel.mk name (m.classes ++ us)).allClasses =
      m.allClasses ++ ClassTree.preorderForest us := by
    rw [ModuleModel.allClasses_eq, ModuleModel.allClasses_eq, ClassTree.preorderForest_append]
  rw [ModuleModel.allClasses_eq] at none₂
  have noneBoth : ∀ c ∈ (ModuleModel.mk name (m.classes ++ us)).allClasses,
      refusal? zeros config.runtimeAlias c = none := by
    rw [classes, List.forall_mem_append]
    exact ⟨none₁, moved.forall_mem (fun c p => (refusals c p).trans) none₂⟩
  have freshBoth : checkNotWoven config (b ++ b') ⟨name, m.classes ++ us⟩ = .ok () := by
    rw [checkNotWoven_eq_ok] at fresh₁ fresh₂ ⊢
    rw [ModuleModel.allClasses_eq] at fresh₂
    rw [classes, List.any_append, fresh₁.1, fresh₂.1, List.forall_mem_append]
    exact ⟨rfl, fresh₁.2, moved.forall_mem (fun _ _ => id) fresh₂.2⟩
  have hooks := moved.ofForest_eq gifts
  refine ⟨_, _, _, woven_tree_eq read none₁ plain, woven_tree_eq read₂ ?_ plain',
    (outcome_eq_ok readBoth freshBoth).2 ⟨noneBoth, rfl⟩, ?_, ?_⟩
  · rwa [ModuleModel.allClasses_eq]
  · rw [(woven_cases ..).1, (woven_cases ..).1, (woven_cases ..).1, classes, List.filter_append,
      List.map_append, moved.paths_eq fun c p => by rw [gifts], ModuleModel.allClasses_eq m₂]
  · rw [woven_tree_eq readBoth noneBoth (opening_append plain plain'), Hook.ofForest_append,
      graftBlock_append _ (ModuleModel.read_lists read).2, hooks]

/-- A module that can be read, and of which no class was woven before or is refused, is woven. -/
theorem outcome_of_unrefused (read : ModuleModel.read name b = .ok m)
    (new : b.any (importsAlias config.runtimeAlias) = false ∧
      ∀ c ∈ ClassTree.preorderForest m.classes, hasUnits c = false)
    (unrefused : ∀ c ∈ ClassTree.preorderForest m.classes,
      refusal? zeros config.runtimeAlias c = none) :
    ∃ r, outcome zeros config name b = .ok r ∧
      r.hooked = ((ClassTree.preorderForest m.classes).filter (·.analysis.eligible)).map
        (·.lexicalPath) := by
  rw [← ModuleModel.allClasses_eq] at new unrefused ⊢
  exact ⟨_, (outcome_eq_ok read (checkNotWoven_eq_ok.2 new)).2 ⟨unrefused, rfl⟩,
    woven_hooked unrefused⟩

/-- A class whose only storage is declared in the class nested in it. -/
def gauge : Block :=
  [.classDef ⟨"Gauge", [], [], [], []⟩
    [.classDef ⟨"Scale", [], [], [], []⟩
      [.annAssign (.name "limit" .store) (.name "int" .load) (some (.constant (.int 9))) (some 1)]]]

/-- Both classes keep their units when the two modules become one. -/
theorem weave_append_gauge : ∃ both, outcome .standard {} "app" (tally ++ gauge) = .ok both ∧
    both.hooked = ["Tally", "Gauge.Scale"] := by
  obtain ⟨r, first, hooked⟩ : ∃ r, outcome .standard {} "app" tally = .ok r ∧ _ :=
    outcome_of_unrefused rfl ⟨rfl, by decide +kernel⟩ (by decide +kernel)
  obtain ⟨r', second, hooked'⟩ : ∃ r, outcome .standard {} "app" gauge = .ok r ∧ _ :=
    outcome_of_unrefused rfl ⟨rfl, by decide +kernel⟩ (by decide +kernel)
  have noEnum : ∀ m, ModuleModel.read "app" tally = .ok m →
      ∀ c ∈ m.allClasses, c.isEnum = false := by
    rintro _ ⟨⟩
    rw [ModuleModel.allClasses_eq]
    decide +kernel
  obtain ⟨-, -, both, -, -, woven, paths, -⟩ :=
    weave_append first second rfl (noEnum _ rfl) rfl rfl
  refine ⟨both, woven, ?_⟩
  rw [paths, hooked, hooked']
  decide +kernel

end Weave

end StateWeave
