import StateWeave.Proofs.Frame
import StateWeave.Proofs.Refusal

/-! Weaving is done once. A woven module is read again as the same classes with further methods, so
whatever names are used the second time, the units of some class give the module away. -/

namespace StateWeave

open ClassModel (bind_eq_ok)

/-- The functions that a block defines, as methods. -/
def Stmt.methods (b : Block) : List Method :=
  b.filterMap fun
    | .functionDef h _ => some h.method
    | _ => none

theorem Stmt.methods_append (b d : Block) : methods (b ++ d) = methods b ++ methods d :=
  List.filterMap_append

/-- A statement that any class body can take in, without more than a method added. -/
def Stmt.Harmless (s : Stmt) : Prop :=
  s.isClass = false ∧ ∀ (c : ClassModel) (index : Nat), ∃ c', c.readOther index s = .ok c' ∧
    c'.bare = c.bare ∧ c'.methods = c.methods ++ Stmt.methods [s]

theorem Stmt.harmless_functionDef (h : FunctionHeader) (body : Block) :
    (Stmt.functionDef h body).Harmless :=
  ⟨rfl, fun c _ => ⟨c.addFunction h, rfl, rfl, rfl⟩⟩

/-- Storing anything but a declaration can be read wherever it stands. -/
theorem Stmt.harmless_assign {id : String} {ctx : Ctx} {value : Expr}
    (hv : Declaration.ofExpr? value = none) : (Stmt.assign [.name id ctx] value).Harmless := by
  refine ⟨rfl, fun c index => ?_⟩
  have hread : c.readOther index (.assign [.name id ctx] value) =
      c.readStores index (.assign [.name id ctx] value) := by
    simp [ClassModel.readOther, isDocstring, isNoop, ClassModel.readState, singleTarget?, hv]
  rw [hread, ClassModel.readStores_eq]
  split_ifs
  · exact ⟨c, rfl, rfl, by simp [methods]⟩
  · obtain ⟨fs, hfs⟩ := c.afterStores_eq index (.assign [.name id ctx] value) []
    exact ⟨_, rfl, c.bare_afterStores _ _ _, by rw [hfs]; exact (List.append_nil _).symm⟩

namespace Weave

open ReloadUnit

theorem harmless_registrationOf (runtimeAlias : String) (c : ClassModel) :
    (registrationOf runtimeAlias c).Harmless :=
  Stmt.harmless_assign rfl

theorem IsHook.harmless {runtimeAlias : String} {c : ClassModel} {b : Block}
    (h : IsHook runtimeAlias c b) : ∀ s ∈ b, s.Harmless := by
  obtain ⟨copied, unload, load, rfl, -, -⟩ := h
  have hone : ∀ (wanted : Bool) (name : String) (body : Block),
      ∀ s ∈ oneIf wanted (unitFunction runtimeAlias c name body), s.Harmless := by
    intro wanted name body s hs
    cases wanted with
    | false => cases hs
    | true =>
      rw [List.mem_singleton.1 hs]
      exact Stmt.harmless_functionDef _ _
  simp only [List.forall_mem_append, List.forall_mem_singleton]
  exact ⟨⟨⟨hone _ _ _, hone _ _ _⟩, hone _ _ _⟩, harmless_registrationOf runtimeAlias c⟩

theorem isGenerated_unitHeader (c : ClassModel) (runtimeAlias name : String) :
    (c.unitHeader runtimeAlias name).method.isGenerated = true := by
  have hmarked : Marker.carries .generated
      (Marker.ofExprs (c.unitHeader runtimeAlias name).decorators) = true := by
    unfold ClassModel.unitHeader
    cases c.isGeneric <;> rfl
  exact hmarked

/-- A class that takes part is given a unit for unloading or for loading, at least. -/
theorem IsHook.hasUnits_eq {runtimeAlias : String} {c c' : ClassModel} {b : Block}
    (h : IsHook runtimeAlias c b) (he : c.analysis.eligible = true)
    (hmethods : c'.methods = c.methods ++ Stmt.methods b) : hasUnits c' = true := by
  obtain ⟨copied, unload, load, hb, -, -⟩ := h
  have hunit : ∀ name body, name ∈ unitNames → unitFunction runtimeAlias c name body ∈ b →
      hasUnits c' = true := by
    intro name body hname hmem
    refine List.any_eq_true.2 ⟨(c.unitHeader runtimeAlias name).method, ?_, ?_⟩
    · rw [hmethods]
      exact List.mem_append_right _
        (List.mem_filterMap.2 ⟨unitFunction runtimeAlias c name body, hmem, rfl⟩)
    · rw [isGenerated_unitHeader]
      exact List.contains_iff_mem.2 hname
  rcases (c.eligible_iff.1 he).2 with hi | hc
  · have hload : c.hasLoad = true := by simp [ClassModel.hasLoad, hi]
    exact hunit "__typereload_load" load (by decide) (by simp [hb, hload, oneIf])
  · have hunload : c.hasUnload = true := by simp [ClassModel.hasUnload, hc]
    exact hunit "__typereload_unload" unload (by decide) (by simp [hb, hunload, oneIf])

/-- The second list of classes has further methods where classes of the first were given some. -/
inductive Regrown (added : ClassModel → Block) : List ClassTree → List ClassTree → Prop
  | nil : Regrown added [] []
  | enum {c : ClassModel} {ts ts' : List ClassTree} (hc : c.isEnum = true)
    (hts : Regrown added ts ts') : Regrown added (⟨c, []⟩ :: ts) (⟨c, []⟩ :: ts')
  | cls {c c' : ClassModel} {nested nested' ts ts' : List ClassTree}
    (hmethods : c'.methods = c.methods ++ Stmt.methods (added c))
    (hnested : Regrown added nested nested') (hts : Regrown added ts ts') :
    Regrown added (⟨c, nested⟩ :: ts) (⟨c', nested'⟩ :: ts')

end Weave

namespace ClassTree

open Weave

variable {added : ClassModel → Block} {enums enums' outer : List String} {place : List Nat}
  {h : ClassHeader} {body body' : Block}

/-- Harmless statements at the end of a body add their methods and nothing else. -/
theorem readBody_harmless {b : Block} (hb : ∀ s ∈ b, s.Harmless) :
    ∀ (t : ClassTree) (enums : List String) (index : Nat), ∃ t',
      readBody t enums index b = .ok (t', enums) ∧ t'.cls.bare = t.cls.bare ∧
        t'.cls.methods = t.cls.methods ++ Stmt.methods b ∧ t'.nested = t.nested := by
  induction b with
  | nil => exact fun t enums index => ⟨t, rfl, rfl, by simp [Stmt.methods], rfl⟩
  | cons s b ih =>
    intro t enums index
    obtain ⟨⟨hs, hread⟩, hb⟩ := List.forall_mem_cons.1 hb
    obtain ⟨c, hc, hbare, hmethods⟩ := hread t.cls index
    obtain ⟨t', ht', hbare', hmethods', hnested⟩ := ih hb ⟨c, t.nested⟩ enums (index + 1)
    refine ⟨t', ?_, hbare'.trans hbare, ?_, hnested⟩
    · rw [readBody_cons, readStmt_other t enums index hs, hc]
      exact ht'
    · rw [hmethods', hmethods, List.append_assoc, ← Stmt.methods_append]
      rfl

/-- What a class is read as when its body has grown, given what the body alone is read as. -/
theorem read_grown {c : ClassModel} {nested : List ClassTree}
    (hr : read place outer enums h body = .ok (⟨c, nested⟩, enums')) (hc : c.isEnum = false)
    (hadded : ∀ s ∈ added c, s.Harmless)
    (hbody : ∀ params u, readBody (ofHeader place outer h params) enums 0 body = .ok (u, enums') →
      u.nested = nested →
      ∃ u' nested', readBody (ofHeader place outer h params) enums 0 body' = .ok (u', enums') ∧
        u'.cls = u.cls ∧ u'.nested = nested' ∧ Regrown added nested nested') :
    ∃ c' nested', read place outer enums h (body' ++ added c) = .ok (⟨c', nested'⟩, enums') ∧
      c'.name = c.name ∧ c'.methods = c.methods ++ Stmt.methods (added c) ∧
      Regrown added nested nested' := by
  obtain ⟨params, hparams, ⟨-, -, he⟩ | ⟨henum, u, hu, he⟩⟩ := read_cases hr
  · cases he
    cases hc
  · cases he
    obtain ⟨u', nested', hu', hcls, hnested, hgrown⟩ := hbody params u hu rfl
    obtain ⟨w, hw, hbare, hmethods, hwnested⟩ :=
      readBody_harmless hadded u' enums' (0 + body'.length)
    refine ⟨w.cls.dropShadowed, nested', ?_, ?_, ?_, hgrown⟩
    · rw [read, readWith, hparams]
      simp only [bind, Except.bind, if_neg (show ¬h.isEnum enums = true by simp [henum]),
        readBody_append, hu', hw, pure, Except.pure, hwnested, hnested]
    · have hsame : w.cls.bare = u.cls.bare := by rw [hbare, hcls]
      exact ClassModel.name_of_bare hsame
    · rw [hcls] at hmethods
      exact hmethods

/-- The class read from a class statement is the next of those nested in the class around it. -/
theorem nested_of_readBody {t n m u : ClassTree} {ts : List ClassTree} {later : List String}
    {index : Nat} {b : Block} (hr : readBody (t.addNested n) enums index b = .ok (u, later))
    (hu : u.nested = t.nested ++ m :: ts) : m = n ∧ u.nested = (t.addNested n).nested ++ ts := by
  obtain ⟨-, ns, hns, -⟩ := readBody_lists b hr
  have hsplit : t.nested ++ m :: ts = t.nested ++ n :: ns := by
    rw [← hu, hns]
    simp [addNested]
  obtain ⟨rfl, rfl⟩ := List.cons.inj (List.append_cancel_left hsplit)
  exact ⟨rfl, hns⟩

/-- A body that has grown is read as before, but for the classes nested in it. -/
theorem readBody_grown {ts : List ClassTree} {b b' : Block} (hext : Extends added ts b b') :
    ∀ {t w u : ClassTree} {enums later : List String} {index : Nat},
      (∀ c ∈ preorderForest ts, ∀ s ∈ added c, s.Harmless) →
      readBody t enums index b = .ok (u, later) → u.nested = t.nested ++ ts →
      w.cls = t.cls → w.nested.length = t.nested.length →
      ∃ u₂ ts', readBody w enums index b' = .ok (u₂, later) ∧ u₂.cls = u.cls ∧
        u₂.nested = w.nested ++ ts' ∧ Regrown added ts ts' := by
  induction hext with
  | nil =>
    intro t w u enums later index _ hr _ hcls _
    cases hr
    exact ⟨w, [], rfl, hcls, by simp, .nil⟩
  | keep hs _ ih =>
    intro t w u enums later index hadded hr hu hcls hlen
    rcases readBody_cons_cases hr with ⟨-, c, -, hc, hrest⟩ | ⟨h, body, n, later', rfl, -, -⟩
    · obtain ⟨u₂, ts', hu₂, hcls₂, hnested, hgrown⟩ :=
        ih (w := ⟨c, w.nested⟩) hadded hrest hu rfl hlen
      refine ⟨u₂, ts', ?_, hcls₂, hnested, hgrown⟩
      rw [readBody_cons, readStmt_other w enums index hs, hcls, hc]
      exact hu₂
    · cases hs
  | @enum c h body ts b b' hc hname _ ih =>
    intro t w u enums later index hadded hr hu hcls hlen
    rcases readBody_cons_cases hr with ⟨hs, -⟩ | ⟨h', body'', n, later', he, hn, hrest⟩
    · cases hs
    · cases he
      obtain ⟨rfl, hu⟩ := nested_of_readBody hrest hu
      simp only [preorderForest, preorder, List.nil_append, List.cons_append,
        List.forall_mem_cons] at hadded
      obtain ⟨u₂, ts', hu₂, hcls₂, hnested, hgrown⟩ :=
        ih (w := w.addNested ⟨c, []⟩) hadded.2 hrest hu (by simp [addNested, hcls])
          (by simp [addNested, hlen])
      refine ⟨u₂, ⟨c, []⟩ :: ts', ?_, hcls₂, by simpa [addNested] using hnested, .enum hc hgrown⟩
      rw [readBody_cons, readStmt_class, hcls, hlen, hn]
      exact hu₂
  | @cls c h nested ts body body' b b' hc hname _ _ ihbody ih =>
    intro t w u enums later index hadded hr hu hcls hlen
    rcases readBody_cons_cases hr with ⟨hs, -⟩ | ⟨h', body'', n, later', he, hn, hrest⟩
    · cases hs
    · cases he
      obtain ⟨rfl, hu⟩ := nested_of_readBody hrest hu
      simp only [preorderForest, preorder, List.cons_append, List.forall_mem_cons,
        List.forall_mem_append] at hadded
      obtain ⟨c', nested', hn', hname', hmethods, hnestedGrown⟩ := read_grown hn hc hadded.1
        fun _ v hv hvn => by
          obtain ⟨v₂, vs, hv₂, hvcls, hvnested, hvgrown⟩ :=
            ihbody hadded.2.1 hv (by simpa [ofHeader] using hvn) rfl rfl
          exact ⟨v₂, vs, hv₂, hvcls, by simpa [ofHeader] using hvnested, hvgrown⟩
      obtain ⟨u₂, ts', hu₂, hcls₂, hnested, hgrown⟩ :=
        ih (w := w.addNested ⟨c', nested'⟩) hadded.2.2 hrest hu
          (by simp [addNested, hcls, hname']) (by simp [addNested, hlen])
      refine ⟨u₂, ⟨c', nested'⟩ :: ts', ?_, hcls₂, by simpa [addNested] using hnested,
        .cls hmethods hnestedGrown hgrown⟩
      rw [readBody_cons, readStmt_class, hcls, hlen, hn']
      exact hu₂

end ClassTree

namespace ModuleModel

open ClassTree Weave

theorem readClasses_grown {added : ClassModel → Block} {ts : List ClassTree} {b b' : Block}
    (hext : Extends added ts b b') : ∀ {enums : List String} {place : Nat},
      (∀ c ∈ preorderForest ts, ∀ s ∈ added c, s.Harmless) →
      readClasses enums place b = .ok ts →
      ∃ ts', readClasses enums place b' = .ok ts' ∧ Regrown added ts ts' := by
  induction hext with
  | nil =>
    intro enums place _ hr
    exact ⟨[], hr, .nil⟩
  | keep hs _ ih =>
    intro enums place hadded hr
    rw [readClasses_other enums place _ hs] at hr ⊢
    exact ih hadded hr
  | @enum c h body ts b b' hc hname _ ih =>
    intro enums place hadded hr
    simp only [preorderForest, preorder, List.nil_append, List.cons_append,
      List.forall_mem_cons] at hadded
    rw [readClasses_class] at hr ⊢
    obtain ⟨⟨n, later⟩, hn, hr⟩ := bind_eq_ok.1 hr
    obtain ⟨us, hus, he⟩ := bind_eq_ok.1 hr
    cases he
    obtain ⟨ts', hts', hgrown⟩ := ih hadded.2 hus
    refine ⟨⟨c, []⟩ :: ts', ?_, .enum hc hgrown⟩
    rw [hn]
    simp only [bind, Except.bind, hts']
  | @cls c h nested ts body body' b b' hc hname hbody _ _ ih =>
    intro enums place hadded hr
    simp only [preorderForest, preorder, List.cons_append, List.forall_mem_cons,
      List.forall_mem_append] at hadded
    rw [readClasses_class] at hr ⊢
    obtain ⟨⟨n, later⟩, hn, hr⟩ := bind_eq_ok.1 hr
    obtain ⟨us, hus, he⟩ := bind_eq_ok.1 hr
    cases he
    obtain ⟨c', nested', hn', -, hmethods, hnestedGrown⟩ := read_grown hn hc hadded.1
      fun _ v hv hvn => by
        obtain ⟨v₂, vs, hv₂, hvcls, hvnested, hvgrown⟩ :=
          readBody_grown hbody hadded.2.1 hv (by simpa [ClassTree.ofHeader] using hvn) rfl rfl
        exact ⟨v₂, vs, hv₂, hvcls, by simpa [ClassTree.ofHeader] using hvnested, hvgrown⟩
    obtain ⟨ts', hts', hgrown⟩ := ih hadded.2.2 hus
    refine ⟨⟨c', nested'⟩ :: ts', ?_, .cls hmethods hnestedGrown hgrown⟩
    rw [hn']
    simp only [bind, Except.bind, hts']

/-- A statement that is no class statement has no part in the classes of a module. -/
theorem readClasses_insert {x : Stmt} (hx : x.isClass = false) (pre post : Block)
    (hpre : ∀ s ∈ pre, s.isClass = false) (enums : List String) (place : Nat) :
    readClasses enums place (pre ++ x :: post) = readClasses enums place (pre ++ post) := by
  induction pre with
  | nil => exact readClasses_other enums place post hx
  | cons s pre ih =>
    obtain ⟨hs, hpre⟩ := List.forall_mem_cons.1 hpre
    rw [List.cons_append, List.cons_append, readClasses_other enums place _ hs,
      readClasses_other enums place _ hs, ih hpre]

end ModuleModel

namespace Weave

open ClassTree

/-- A class that was given its hook has units when it is read again. -/
theorem Regrown.hasUnits_of_hook {added : ClassModel → Block} {runtimeAlias : String}
    {ts ts' : List ClassTree} (h : Regrown added ts ts') {c : ClassModel}
    (hc : c ∈ preorderForest ts) (he : c.analysis.eligible = true)
    (hhook : IsHook runtimeAlias c (added c)) : ∃ c' ∈ preorderForest ts', hasUnits c' = true := by
  induction h with
  | nil => cases hc
  | @enum d ts ts' henum _ ih =>
    rw [preorderForest, preorder, preorderForest] at hc ⊢
    rcases List.mem_cons.1 hc with rfl | hc
    · rw [isEnum_eq_false_of_eligible he] at henum
      cases henum
    · obtain ⟨c', hc', hunits⟩ := ih hc
      exact ⟨c', List.mem_cons_of_mem _ hc', hunits⟩
  | @cls d d' nested nested' ts ts' hmethods _ _ ihnested ih =>
    rw [preorderForest, preorder, List.cons_append] at hc ⊢
    rcases List.mem_cons.1 hc with rfl | hc
    · exact ⟨d', by simp, hhook.hasUnits_eq he hmethods⟩
    · rcases List.mem_append.1 hc with hc | hc
      · obtain ⟨c', hc', hunits⟩ := ihnested hc
        exact ⟨c', by simp [hc'], hunits⟩
      · obtain ⟨c', hc', hunits⟩ := ih hc
        exact ⟨c', by simp [hc'], hunits⟩

theorem checkNotWoven_of_hasUnits (config : Config) (tree : Block) {m : ModuleModel}
    (h : ∃ c ∈ m.allClasses, hasUnits c = true) : ∃ fault,
      checkNotWoven config tree m = .error fault ∧ fault.kind = "AlreadyTransformedError" := by
  obtain ⟨c, hc, hunits⟩ := h
  unfold checkNotWoven
  split_ifs
  · exact ⟨_, rfl, rfl⟩
  · cases hf : m.allClasses.find? hasUnits with
    | none => exact absurd hunits (by simpa using List.find?_eq_none.1 hf c hc)
    | some d => exact ⟨_, rfl, rfl⟩

variable {zeros : ZeroTable} {config : Config} {name : String} {tree : Block} {r : WeaveResult}

/-- A module with a hook is read as classes of which one has units. -/
theorem read_woven (h : outcome zeros config name tree = .ok r) (hne : r.hooked ≠ [])
    (name' : String) :
    ∃ m', ModuleModel.read name' r.tree = .ok m' ∧ ∃ c ∈ m'.allClasses, hasUnits c = true := by
  obtain ⟨m, hread, -, hnone, rfl⟩ := outcome_ok h
  obtain ⟨rest, htree, hext⟩ := woven_tree hnone hread hne
  have hhooks := given_hooks hnone
  obtain ⟨ts, hts, he⟩ := bind_eq_ok.1 hread
  cases he
  have hharmless : ∀ c ∈ preorderForest ts, ∀ s ∈ given zeros config.runtimeAlias c,
      s.Harmless := by
    intro c hc
    have hc' := hhooks c (by rwa [ModuleModel.allClasses_eq])
    split_ifs at hc'
    · exact hc'.harmless
    · simp [hc']
  obtain ⟨ts', hts', hregrown⟩ := ModuleModel.readClasses_grown hext hharmless hts
  refine ⟨⟨name', ts'⟩, ?_, ?_⟩
  · rw [ModuleModel.read, htree,
      ModuleModel.readClasses_insert rfl _ _ isClass_of_mem_opening, hts']
    rfl
  rw [woven_hooked hnone, ne_eq, List.map_eq_nil_iff] at hne
  obtain ⟨c, hc⟩ := List.exists_mem_of_ne_nil _ hne
  obtain ⟨hc, he⟩ := List.mem_filter.1 hc
  have hhook := hhooks c hc
  rw [if_pos he] at hhook
  rw [ModuleModel.allClasses_eq] at hc ⊢
  exact hregrown.hasUnits_of_hook hc he hhook

/-- A module with a hook is refused as woven by any later weave, whatever the configuration. A module
without one is what it was, and weaving it again comes to the same. -/
theorem weave_single_pass (h : outcome zeros config name tree = .ok r) :
    (r.hooked ≠ [] → ∀ (zeros' : ZeroTable) (config' : Config) (name' : String), ∃ fault,
      outcome zeros' config' name' r.tree = .error fault ∧
        fault.kind = "AlreadyTransformedError") ∧
    (r.hooked = [] → r.tree = tree ∧ outcome zeros config name r.tree = .ok r) := by
  constructor
  · intro hne zeros' config' name'
    obtain ⟨m', hread', hunits⟩ := read_woven h hne name'
    obtain ⟨fault, hfault, hkind⟩ := checkNotWoven_of_hasUnits config' r.tree hunits
    refine ⟨fault, ?_, hkind⟩
    rw [outcome_eq, hread']
    simp only [bind, Except.bind, hfault]
  · intro hnil
    have htree : r.tree = tree := by
      obtain ⟨m, -, -, -, rfl⟩ := outcome_ok h
      exact (woven_cases config _ m tree).2.1 hnil
    exact ⟨htree, by rw [htree, h]⟩

/-- A second weave under another alias finds the units of the first. -/
theorem weave_single_pass_counter :
    ∃ r, outcome .standard {} "app" counter = .ok r ∧ ∃ fault,
      outcome .standard { runtimeAlias := "other" } "app" r.tree = .error fault ∧
        fault.kind = "AlreadyTransformedError" := by
  obtain ⟨r, hok, hhooked⟩ := outcome_counter
  exact ⟨r, hok, (weave_single_pass hok).1 (by simp [hhooked]) _ _ _⟩

end Weave

end StateWeave
