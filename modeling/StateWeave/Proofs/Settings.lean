import StateWeave.Proofs.Frame
import StateWeave.Proofs.Refusal

/-! What a weave takes from the settings it is given, and what from those of the process. Hooked
classes and all names come from the former; the constants of resets come from the table of the
process, and so do the failures to show one that is no literal. Two processes in which a weave comes
to its end weave alike exactly when their tables have the same constants for all that is reset. -/

namespace StateWeave

open ClassModel (bind_eq_ok)

mutual

theorem Hook.ofTree_congr {added added' : ClassModel → Block} :
    ∀ t : ClassTree, (∀ c ∈ t.preorder, added c = added' c) →
      Hook.ofTree added t = Hook.ofTree added' t
  | ⟨c, nested⟩, h => by
    rw [ClassTree.preorder, List.forall_mem_cons] at h
    rw [Hook.ofTree, Hook.ofTree, h.1, Hook.ofForest_congr nested h.2]

theorem Hook.ofForest_congr {added added' : ClassModel → Block} :
    ∀ ts : List ClassTree, (∀ c ∈ ClassTree.preorderForest ts, added c = added' c) →
      Hook.ofForest added ts = Hook.ofForest added' ts
  | [], _ => rfl
  | t :: ts, h => by
    rw [ClassTree.preorderForest, List.forall_mem_append] at h
    rw [Hook.ofForest, Hook.ofForest, Hook.ofTree_congr t h.1, Hook.ofForest_congr ts h.2]

end

namespace ReloadUnit

variable {zeros zeros' : ZeroTable} {c : ClassModel}

/-- Two tables have the same constants for these fields. -/
def SameZeros (zeros zeros' : ZeroTable) (fs : List Field) : Prop :=
  ∀ f ∈ fs, zeros.valueFor f.annot = zeros'.valueFor f.annot

theorem resetsFor_cons_ok {f : Field} {fs : List Field} {resets : List Instruction}
    (h : resetsFor zeros c (f :: fs) = .ok resets) :
    ∃ zero rest, zeros.valueFor f.annot = .ok zero ∧ resetsFor zeros c fs = .ok rest ∧
      resets = .reset ⟨f.name, .plain c⟩ zero :: rest := by
  rw [resetsFor] at h
  obtain ⟨zero, hzero, h⟩ := bind_eq_ok.1 h
  obtain ⟨rest, hrest, h⟩ := bind_eq_ok.1 h
  exact ⟨zero, rest, hzero, hrest, (Except.ok.inj h).symm⟩

theorem length_resetsFor {fs : List Field} : ∀ {resets : List Instruction},
    resetsFor zeros c fs = .ok resets → resets.length = fs.length := by
  induction fs with
  | nil =>
    intro resets h
    obtain rfl := Except.ok.inj h
    rfl
  | cons f fs ih =>
    intro resets h
    obtain ⟨zero, rest, -, hrest, rfl⟩ := resetsFor_cons_ok h
    rw [List.length_cons, List.length_cons, ih hrest]

/-- Resets are written alike exactly when their constants are the same. -/
theorem written_resets_eq_iff (owner : Expr) {fs : List Field} :
    ∀ {resets resets' : List Instruction}, resetsFor zeros c fs = .ok resets →
      resetsFor zeros' c fs = .ok resets' →
      (resets.map (Instruction.written owner) = resets'.map (Instruction.written owner) ↔
        SameZeros zeros zeros' fs) := by
  induction fs with
  | nil =>
    intro resets resets' h h'
    obtain rfl := Except.ok.inj h
    obtain rfl := Except.ok.inj h'
    simp [SameZeros]
  | cons f fs ih =>
    intro resets resets' h h'
    obtain ⟨zero, rest, hzero, hrest, rfl⟩ := resetsFor_cons_ok h
    obtain ⟨zero', rest', hzero', hrest', rfl⟩ := resetsFor_cons_ok h'
    have hhead : Instruction.written owner (.reset ⟨f.name, .plain c⟩ zero) =
        Instruction.written owner (.reset ⟨f.name, .plain c⟩ zero') ↔ zero = zero' := by
      simp [Instruction.written]
    have hzeros : SameZeros zeros zeros' (f :: fs) ↔
        zeros.valueFor f.annot = zeros'.valueFor f.annot ∧ SameZeros zeros zeros' fs :=
      List.forall_mem_cons
    rw [List.map_cons, List.map_cons, List.cons_eq_cons, hhead, ih hrest hrest', hzeros, hzero,
      hzero', Except.ok.injEq]

end ReloadUnit

theorem orPass_eq_iff {b d : Block} (h : b.length = d.length) : orPass b = orPass d ↔ b = d := by
  cases b with
  | nil =>
    obtain rfl := List.length_eq_zero_iff.1 h.symm
    simp
  | cons s b =>
    cases d with
    | nil => cases h
    | cons t d => simp [orPass]

namespace Weave

open ReloadUnit

variable {zeros zeros' : ZeroTable} {config : Config} {name runtimeAlias : String} {tree : Block}
  {m : ModuleModel}

/-- Hooks of one class are the same exactly when their resets are written alike. -/
theorem hookWith_eq_iff {c : ClassModel} {resets resets' : List Instruction}
    (h : resetsFor zeros c c.inventory = .ok resets)
    (h' : resetsFor zeros' c c.inventory = .ok resets') :
    hookWith runtimeAlias c resets = hookWith runtimeAlias c resets' ↔
      SameZeros zeros zeros' c.inventory := by
  have hlength : resets.length = resets'.length := by
    rw [length_resetsFor h, length_resetsFor h']
  have hload : loadBody c resets = loadBody c resets' ↔ SameZeros zeros zeros' c.inventory := by
    unfold loadBody
    rw [orPass_eq_iff (by simp [hlength]), List.map_append, List.map_append,
      List.append_cancel_right_eq, written_resets_eq_iff c.ownerExpr h h']
  rw [hookWith_eq, hookWith_eq]
  cases hl : c.hasLoad with
  | false =>
    have hnil : c.inventory = [] := by simp [ClassModel.hasLoad] at hl; exact hl.1
    simp [oneIf, hnil, SameZeros]
  | true =>
    rw [← hload]
    simp [oneIf, unitFunction]

theorem given_eq_iff {c : ClassModel} (h : refusal? zeros runtimeAlias c = none)
    (h' : refusal? zeros' runtimeAlias c = none) (he : c.analysis.eligible = true) :
    given zeros runtimeAlias c = given zeros' runtimeAlias c ↔
      SameZeros zeros zeros' c.inventory := by
  obtain ⟨resets, hresets, hgiven⟩ := given_of_eligible h he
  obtain ⟨resets', hresets', hgiven'⟩ := given_of_eligible h' he
  rw [hgiven, hgiven', hookWith_eq_iff hresets hresets']

/-- A grown block has as many statements as before. -/
theorem Extends.length_eq {added : ClassModel → Block} {ts : List ClassTree} {b b' : Block}
    (h : Extends added ts b b') : b'.length = b.length := by
  induction h with
  | nil => rfl
  | keep _ _ ih | enum _ _ _ ih | cls _ _ _ _ _ ih =>
    rw [List.length_cons, List.length_cons, ih]

/-- What a block has grown by tells what each of its classes was given. -/
theorem Extends.added_eq {added added' : ClassModel → Block} {ts : List ClassTree} {b b' : Block}
    (h : Extends added ts b b') (h' : Extends added' ts b b')
    (henum : ∀ c ∈ ClassTree.preorderForest ts, c.isEnum = true → added c = added' c) :
    ∀ c ∈ ClassTree.preorderForest ts, added c = added' c := by
  induction h with
  | nil => simp [ClassTree.preorderForest]
  | keep hs _ ih =>
    cases h' with
    | keep _ hb => exact ih hb henum
    | enum | cls => cases hs
  | enum hc _ _ ih =>
    simp only [ClassTree.preorderForest, ClassTree.preorder, List.cons_append, List.nil_append,
      List.forall_mem_cons] at henum ⊢
    cases h' with
    | keep hs => cases hs
    | enum _ _ hb => exact ⟨henum.1 hc, ih hb henum.2⟩
    | cls hc' =>
      rw [hc] at hc'
      cases hc'
  | @cls c header nested ts body body' b b' hc _ hbody _ ihbody ih =>
    simp only [ClassTree.preorderForest, ClassTree.preorder, List.cons_append,
      List.forall_mem_cons, List.forall_mem_append] at henum ⊢
    generalize hgrown : body' ++ added c = grown at h'
    cases h' with
    | keep hs => cases hs
    | enum hc' =>
      rw [hc] at hc'
      cases hc'
    | @cls _ _ _ _ _ body'' _ _ _ _ hbody'' hb =>
      obtain ⟨rfl, hadded⟩ := List.append_inj hgrown
        (by rw [hbody.length_eq, hbody''.length_eq])
      exact ⟨hadded, ihbody hbody'' henum.2.1, ih hb henum.2.2⟩

/-- The tables fail to show the same of what a module resets. -/
def SameFailures (zeros zeros' : ZeroTable) (m : ModuleModel) : Prop :=
  ∀ c ∈ m.allClasses, c.analysis.eligible = true → ∀ f ∈ c.inventory, ∀ why,
    zeros.Unshown f.annot why ↔ zeros'.Unshown f.annot why

/-- Weaving fails alike with tables that fail alike. -/
theorem outcome_error_congr
    (h : ∀ m, ModuleModel.read name tree = .ok m → SameFailures zeros zeros' m) (fault : Fault) :
    outcome zeros config name tree = .error fault ↔
      outcome zeros' config name tree = .error fault := by
  cases hread : ModuleModel.read name tree with
  | error f =>
    rw [outcome_eq, outcome_eq, hread]
    rfl
  | ok m =>
    cases hfresh : checkNotWoven config tree m with
    | error f =>
      rw [outcome_eq, outcome_eq, hread]
      simp only [bind, Except.bind, hfresh]
    | ok =>
      have hsame := h m hread
      rw [outcome_eq_error_iff hread hfresh, outcome_eq_error_iff hread hfresh]
      have hrefused : ∀ c ∈ m.allClasses, ∀ fault, c.Refused zeros fault ↔ c.Refused zeros' fault :=
        fun c hc _ => ⟨.congr (hsame c hc),
          .congr fun he f hf why => (hsame c hc he f hf why).symm⟩
      exact ⟨.congr hrefused, .congr fun c hc fault => (hrefused c hc fault).symm⟩

/-- Two woven modules are the same exactly when the tables have the same constants for all that is
reset. -/
theorem woven_eq_iff (hread : ModuleModel.read name tree = .ok m)
    (h : ∀ c ∈ m.allClasses, refusal? zeros config.runtimeAlias c = none)
    (h' : ∀ c ∈ m.allClasses, refusal? zeros' config.runtimeAlias c = none) :
    woven config (given zeros config.runtimeAlias) m tree =
        woven config (given zeros' config.runtimeAlias) m tree ↔
      ∀ c ∈ m.allClasses, c.analysis.eligible = true → SameZeros zeros zeros' c.inventory := by
  have hhooked : (woven config (given zeros config.runtimeAlias) m tree).hooked =
      (woven config (given zeros' config.runtimeAlias) m tree).hooked := by
    rw [woven_hooked h, woven_hooked h']
  constructor
  · intro heq c hc he
    by_cases hne : (woven config (given zeros config.runtimeAlias) m tree).hooked = []
    · -- nothing is hooked, so this class cannot take part
      rw [woven_hooked h, List.map_eq_nil_iff, List.filter_eq_nil_iff] at hne
      exact absurd he (hne c hc)
    · obtain ⟨rest, htree, hext⟩ := woven_tree h hread hne
      obtain ⟨rest', htree', hext'⟩ := woven_tree h' hread (hhooked ▸ hne)
      obtain rfl : rest = rest' := by
        rw [heq, htree'] at htree
        exact (List.cons.inj (List.append_cancel_left htree)).2.symm
      have hadded := hext.added_eq hext' fun d hd henum => by
        rw [(given_harmless h d hd).1 henum, (given_harmless h' d hd).1 henum]
      exact (given_eq_iff (h c hc) (h' c hc) he).1 (hadded c (m.allClasses_eq ▸ hc))
  · intro hsame
    have hgiven : ∀ c ∈ m.allClasses,
        given zeros config.runtimeAlias c = given zeros' config.runtimeAlias c := by
      intro c hc
      cases he : c.analysis.eligible with
      | true => exact (given_eq_iff (h c hc) (h' c hc) he).2 (hsame c hc he)
      | false =>
        have hnil := given_hooks h c hc
        have hnil' := given_hooks h' c hc
        rw [he] at hnil hnil'
        exact hnil.trans hnil'.symm
    have hhooks : Hook.ofForest (given zeros config.runtimeAlias) m.classes =
        Hook.ofForest (given zeros' config.runtimeAlias) m.classes :=
      Hook.ofForest_congr m.classes fun c hc => hgiven c (m.allClasses_eq ▸ hc)
    have hfilter : (m.allClasses.filter fun c => !(given zeros config.runtimeAlias c).isEmpty) =
        m.allClasses.filter fun c => !(given zeros' config.runtimeAlias c).isEmpty :=
      List.filter_congr fun c hc => by rw [hgiven c hc]
    unfold woven
    rw [hhooks, hfilter]

/-- Weaving in a process. A weave that is given no settings uses those of the process. -/
def inProcess (process : Config) (passed : Option Config) (name : String) (tree : Block) :
    Except Fault WeaveResult :=
  outcome process.zeroValues (passed.getD process) name tree

/-- Two processes weave a module that is read and not woven yet alike exactly when the same class
stops the weave with the same fault in both, or no class stops it in either and the tables have the
same constants for all that is reset. -/
theorem outcome_eq_iff (hread : ModuleModel.read name tree = .ok m)
    (hfresh : checkNotWoven config tree m = .ok ()) :
    outcome zeros config name tree = outcome zeros' config name tree ↔
      (∃ fault, FirstOf (ClassModel.Refused zeros) m.allClasses fault ∧
        FirstOf (ClassModel.Refused zeros') m.allClasses fault) ∨
      ∀ c ∈ m.allClasses, (∀ fault, ¬c.Refused zeros fault ∧ ¬c.Refused zeros' fault) ∧
        (c.analysis.eligible = true → SameZeros zeros zeros' c.inventory) := by
  have hfields := ModuleModel.read_kept ClassModel.fieldsReadable_kept hread
  constructor
  · intro heq
    cases hr : outcome zeros config name tree with
    | error fault =>
      exact .inl ⟨fault, (outcome_eq_error_iff hread hfresh fault).1 hr,
        (outcome_eq_error_iff hread hfresh fault).1 (heq ▸ hr)⟩
    | ok r =>
      obtain ⟨hnone, hwoven⟩ := (outcome_eq_ok hread hfresh).1 hr
      obtain ⟨hnone', hwoven'⟩ := (outcome_eq_ok hread hfresh).1 (heq ▸ hr)
      have hsame := (woven_eq_iff hread hnone hnone').1 (hwoven.trans hwoven'.symm)
      exact .inr fun c hc => ⟨fun fault => ⟨(refusal?_eq_none (hfields c hc)).1 (hnone c hc) fault,
        (refusal?_eq_none (hfields c hc)).1 (hnone' c hc) fault⟩, hsame c hc⟩
  · rintro (⟨fault, h, h'⟩ | h)
    · rw [(outcome_eq_error_iff hread hfresh fault).2 h,
        (outcome_eq_error_iff hread hfresh fault).2 h']
    · have hnone : ∀ c ∈ m.allClasses, refusal? zeros config.runtimeAlias c = none :=
        fun c hc => (refusal?_eq_none (hfields c hc)).2 fun fault => ((h c hc).1 fault).1
      have hnone' : ∀ c ∈ m.allClasses, refusal? zeros' config.runtimeAlias c = none :=
        fun c hc => (refusal?_eq_none (hfields c hc)).2 fun fault => ((h c hc).1 fault).2
      rw [(outcome_eq_ok hread hfresh).2 ⟨hnone, rfl⟩, (outcome_eq_ok hread hfresh).2 ⟨hnone', rfl⟩,
        (woven_eq_iff hread hnone hnone').2 fun c hc => (h c hc).2]

/-- What keeps a module from being read, or shows that it is woven, does so in all processes. -/
theorem outcome_eq_of_unread
    (h : ∀ m, ModuleModel.read name tree = .ok m → checkNotWoven config tree m ≠ .ok ()) :
    outcome zeros config name tree = outcome zeros' config name tree := by
  rw [outcome_eq, outcome_eq]
  cases hread : ModuleModel.read name tree with
  | error fault => rfl
  | ok m =>
    cases hfresh : checkNotWoven config tree m with
    | error fault => simp only [bind, Except.bind, hfresh]
    | ok => exact absurd hfresh (h m hread)

/-- A weave with settings of its own fails with the same fault in all processes, unless their tables
fail to show different ones of the values it resets to, and where it comes to its end it hooks the
same classes. It gives the same result in two processes exactly when it does not get to any class, or
the same class stops it with the same fault, or no class does and the tables have the same constants
for all that it resets: the table of the settings themselves is not looked at, unless the process has
these settings. -/
theorem weave_same_iff (process process' passed : Config) (name : String) (tree : Block) :
    ((∀ m, ModuleModel.read name tree = .ok m →
        SameFailures process.zeroValues process'.zeroValues m) →
      ∀ fault, inProcess process (some passed) name tree = .error fault ↔
        inProcess process' (some passed) name tree = .error fault) ∧
    (∀ r r', inProcess process (some passed) name tree = .ok r →
      inProcess process' (some passed) name tree = .ok r' → r.hooked = r'.hooked) ∧
    (inProcess process (some passed) name tree = inProcess process' (some passed) name tree ↔
      ∀ m, ModuleModel.read name tree = .ok m → checkNotWoven passed tree m = .ok () →
        (∃ fault, FirstOf (ClassModel.Refused process.zeroValues) m.allClasses fault ∧
          FirstOf (ClassModel.Refused process'.zeroValues) m.allClasses fault) ∨
        ∀ c ∈ m.allClasses,
          (∀ fault, ¬c.Refused process.zeroValues fault ∧ ¬c.Refused process'.zeroValues fault) ∧
          (c.analysis.eligible = true →
            SameZeros process.zeroValues process'.zeroValues c.inventory)) ∧
    inProcess passed none name tree = inProcess passed (some passed) name tree := by
  refine ⟨outcome_error_congr, fun r r' hr hr' => ?_, ⟨fun heq m hread hfresh => ?_, fun h => ?_⟩,
    rfl⟩
  · obtain ⟨m, hread, -, hnone, rfl⟩ := outcome_ok hr
    obtain ⟨m', hread', -, hnone', rfl⟩ := outcome_ok hr'
    obtain rfl := Except.ok.inj (hread.symm.trans hread')
    rw [woven_hooked hnone, woven_hooked hnone']
  · exact (outcome_eq_iff hread hfresh).1 heq
  · by_cases hgets : ∃ m, ModuleModel.read name tree = .ok m ∧ checkNotWoven passed tree m = .ok ()
    · obtain ⟨m, hread, hfresh⟩ := hgets
      exact (outcome_eq_iff hread hfresh).2 (h m hread hfresh)
    · exact outcome_eq_of_unread fun m hread hfresh => hgets ⟨m, hread, hfresh⟩

/-- A class with one integer. -/
def tally : Block :=
  [.classDef ⟨"Tally", [], [], [], []⟩
    [.annAssign (.name "total" .store) (.name "int" .load) (some (.constant (.int 3))) (some 1)]]

/-- The settings of a process whose integers are reset to seven. -/
def sevens : Config :=
  { zeroValues := ⟨[("int", .constant (.int 7))]⟩ }

/-- Standard settings do not weave in such a process as they do in a standard one. -/
theorem weave_same_iff_tally :
    inProcess {} (some {}) "app" tally ≠ inProcess sevens (some {}) "app" tally := by
  have hmodule : ∀ m, ModuleModel.read "app" tally = .ok m →
      checkNotWoven {} tally m = .ok () ∧
        (∀ c ∈ m.allClasses, refusal? .standard (Config.runtimeAlias {}) c = none) ∧
        ∃ c ∈ m.allClasses, c.analysis.eligible = true ∧ ∃ f ∈ c.inventory,
          (ZeroTable.standard.valueFor f.annot).toOption = some (.int 0) ∧
            (sevens.zeroValues.valueFor f.annot).toOption = some (.int 7) := by
    rintro _ ⟨⟩
    simp only [checkNotWoven_eq_ok, ModuleModel.allClasses_eq]
    exact ⟨⟨rfl, by decide +kernel⟩, by decide +kernel, by decide +kernel⟩
  obtain ⟨m, hread⟩ : ∃ m, ModuleModel.read "app" tally = .ok m := ⟨_, rfl⟩
  obtain ⟨hfresh, hnone, c, hc, he, f, hf, hzero, hseven⟩ := hmodule m hread
  intro heq
  have hmute : ∀ c ∈ m.allClasses, ∀ fault, ¬c.Refused .standard fault := fun c hc =>
    (refusal?_eq_none (ModuleModel.read_kept ClassModel.fieldsReadable_kept hread c hc)).1 (hnone c hc)
  rcases (weave_same_iff {} sevens {} "app" tally).2.2.1.1 heq m hread hfresh with
    ⟨fault, hstop, -⟩ | hsame
  · obtain ⟨d, hd, hrefused⟩ := hstop.exists_mem
    exact hmute d hd fault hrefused
  · have hconstants : some (Constant.int 0) = some (.int 7) :=
      hzero.symm.trans ((congrArg Except.toOption ((hsame c hc).2 he f hf)).trans hseven)
    exact absurd hconstants (by decide)

end Weave

end StateWeave
