import StateWeave.Proofs.Retained

/-! The dotted path of a class, read where its units stand. Every name in code of a class body is
mangled with the name of that class once it is compiled, and so are the names of the path. Each
class of the chain was bound under the mangling of the class around it, and the outermost class
under none; so the path leads to the class only as far as private names are mangled alike. -/

namespace StateWeave

/-- Whether a name is mangled in class bodies. -/
def isPrivate (name : String) : Bool :=
  opensPrivate name && !closesReserved name && !name.toList.contains '.'

/-- What of the name of a class goes into private names. -/
def stem (cls : String) : List Char :=
  cls.toList.dropWhile (· == '_')

/-- A private name with a stem in front. -/
def prefixed (stem : List Char) (name : String) : String :=
  if stem.isEmpty then name else "_" ++ String.ofList stem ++ name

theorem mangle_eq (cls name : String) :
    mangle cls name = if isPrivate name then prefixed (stem cls) name else name := by
  have hcond : (!opensPrivate name || closesReserved name || name.toList.contains '.') =
      !isPrivate name := by
    unfold isPrivate
    cases opensPrivate name <;> cases closesReserved name <;> simp
  unfold mangle prefixed stem
  rw [hcond]
  cases isPrivate name with
  | false => rfl
  | true =>
    simp only [Bool.not_true, Bool.false_eq_true, if_false, if_true]
    split
    next hnil => rw [hnil]; rfl
    next hne => rw [if_neg (by simpa using hne)]

theorem toList_prefixed (stem : List Char) (name : String) :
    (prefixed stem name).toList =
      (if stem.isEmpty then [] else '_' :: stem) ++ name.toList := by
  unfold prefixed
  split_ifs
  · rfl
  · simp

/-- Different stems give different names. -/
theorem prefixed_inj {st st' : List Char} {name : String} :
    prefixed st name = prefixed st' name ↔ st = st' := by
  refine ⟨fun h => ?_, fun h => by rw [h]⟩
  have h := congrArg String.toList h
  rw [toList_prefixed, toList_prefixed, List.append_left_inj] at h
  cases st <;> cases st' <;> simp_all

/-- A class of a chain, in front of which the class around it stands if there is one. -/
abbrev Enclosed := Option String × String

namespace Enclosed

/-- The stem that private names get where the class is bound. -/
def stem (p : Enclosed) : List Char :=
  p.1.elim [] StateWeave.stem

/-- The name that the class is bound under. -/
def bound (p : Enclosed) : String :=
  p.1.elim p.2 (mangle · p.2)

theorem bound_eq (p : Enclosed) : p.bound = if isPrivate p.2 then prefixed p.stem p.2 else p.2 := by
  obtain ⟨around, name⟩ := p
  cases around with
  | none => exact (ite_self name).symm
  | some cls => exact mangle_eq cls name

/-- Another class gives the name the same form exactly if it is not private or the stems agree. -/
theorem mangle_eq_bound {p : Enclosed} {cls : String} :
    mangle cls p.2 = p.bound ↔ (isPrivate p.2 = true → StateWeave.stem cls = p.stem) := by
  rw [mangle_eq, bound_eq]
  split_ifs with hprivate
  · rw [prefixed_inj]
    exact ⟨fun h _ => h, fun h => h hprivate⟩
  · exact iff_of_true rfl fun h => absurd h hprivate

/-- The classes of a chain that starts in a class, or in none. -/
def chain : Option String → List String → List Enclosed
  | _, [] => []
  | around, name :: names => (around, name) :: chain (some name) names

theorem map_snd_chain (around : Option String) (names : List String) :
    (chain around names).map (·.2) = names := by
  induction names generalizing around with
  | nil => rfl
  | cons name names ih => rw [chain, List.map_cons, ih]

end Enclosed

/-- Class statements of these names stand in a block, each but the first in the body of the one
before. -/
inductive Nests : Block → List String → Prop
  | last {b : Block} {h : ClassHeader} {body : Block} (hmem : .classDef h body ∈ b) :
    Nests b [h.name]
  | inner {b : Block} {h : ClassHeader} {body : Block} {names : List String}
    (hmem : .classDef h body ∈ b) (hinner : Nests body names) : Nests b (h.name :: names)

namespace Nests

variable {b d : Block} {names : List String}

theorem mono (hn : Nests b names) (hsub : ∀ s ∈ b, s ∈ d) : Nests d names := by
  cases hn with
  | last hmem => exact .last (hsub _ hmem)
  | inner hmem hinner => exact .inner (hsub _ hmem) hinner

theorem tail {s : Stmt} (hn : Nests b names) : Nests (s :: b) names :=
  hn.mono fun _ => List.mem_cons_of_mem s

end Nests

theorem ClassModel.path_of_bare {c c' : ClassModel} (h : c'.bare = c.bare) : c'.path = c.path :=
  show c'.bare.path = c.bare.path by rw [h]

namespace ClassTree

variable {t t' n : ClassTree} {enums enums' outer : List String} {place : List Nat} {index : Nat}
  {h : ClassHeader} {body : Block}

/-- Reading a body adds classes that are nested in it, with their chains as paths. -/
def Paths (b : Block) : Prop :=
  ∀ {t t' : ClassTree} {enums enums' : List String} {index : Nat},
    readBody t enums index b = .ok (t', enums') →
      ∀ c ∈ preorderForest t'.nested, c ∈ preorderForest t.nested ∨
        ∃ names, Nests b names ∧ c.path = t.cls.path ++ names

theorem read_paths (hbody : Paths body) (hr : read place outer enums h body = .ok (n, enums')) :
    ∀ c ∈ n.preorder, ∃ names, Nests [.classDef h body] names ∧ c.path = outer ++ names := by
  obtain ⟨params, -, ⟨-, -, rfl⟩ | ⟨-, u, hu, rfl⟩⟩ := read_cases hr
  · intro c hc
    simp only [preorder, preorderForest, List.mem_singleton] at hc
    rw [hc]
    exact ⟨_, .last List.mem_cons_self, rfl⟩
  · have hpath : u.cls.path = outer ++ [h.name] :=
      ClassModel.path_of_bare (readBody_lists body hu).1
    intro c hc
    simp only [preorder, List.mem_cons] at hc
    rcases hc with rfl | hc
    · exact ⟨_, .last List.mem_cons_self, hpath⟩
    · obtain hnone | ⟨names, hnests, hc⟩ := hbody hu c hc
      · simp [ofHeader, preorderForest] at hnone
      · exact ⟨_, .inner List.mem_cons_self hnests, hc.trans (List.append_assoc ..)⟩

theorem readBody_paths (b : Block) : Paths b := by
  induction b using block_induction with
  | nil =>
    intro t t' enums enums' index hr c hc
    cases hr
    exact .inl hc
  | other s rest hs ih =>
    intro t t' enums enums' index hr c hc
    rcases readBody_cons_cases hr with ⟨-, d, hstep, -, hrest⟩ | ⟨h, body, n, later, rfl, -, -⟩
    · refine (ih hrest c hc).imp_right ?_
      rintro ⟨names, hnests, hpath⟩
      exact ⟨names, hnests.tail, hpath.trans
        (congrArg (· ++ names) (ClassModel.path_of_bare hstep.bare_eq))⟩
    · cases hs
  | cls h body rest ihbody ih =>
    intro t t' enums enums' index hr c hc
    rcases readBody_cons_cases hr with ⟨hs, -⟩ | ⟨h', body', n, later, he, hread, hrest⟩
    · cases hs
    · cases he
      obtain hadded | ⟨names, hnests, hpath⟩ := ih hrest c hc
      · rw [addNested, preorderForest_append] at hadded
        refine (List.mem_append.1 hadded).imp_right fun hn => ?_
        rw [preorderForest, preorderForest, List.append_nil] at hn
        obtain ⟨names, hnests, hpath⟩ := read_paths ihbody hread c hn
        exact ⟨names, hnests.mono (by simp), hpath⟩
      · exact .inr ⟨names, hnests.tail, hpath⟩

end ClassTree

namespace ModuleModel

open ClassTree
open ClassModel (bind_eq_ok)

theorem readClasses_paths (b : Block) : ∀ {enums : List String} {place : Nat} {ts : List ClassTree},
    readClasses enums place b = .ok ts → ∀ c ∈ preorderForest ts, Nests b c.path := by
  induction b with
  | nil =>
    intro enums place ts hr
    cases hr
    simp [preorderForest]
  | cons s rest ih =>
    intro enums place ts hr c hc
    cases hs : s.isClass with
    | false => exact (ih (readClasses_other enums place rest hs ▸ hr) c hc).tail
    | true =>
      obtain ⟨h, body, rfl⟩ := s.eq_classDef hs
      rw [readClasses_class] at hr
      obtain ⟨⟨n, later⟩, hn, hr⟩ := bind_eq_ok.1 hr
      obtain ⟨us, hus, he⟩ := bind_eq_ok.1 hr
      cases he
      rcases List.mem_append.1 hc with hc | hc
      · obtain ⟨names, hnests, hpath⟩ := read_paths (readBody_paths body) hn c hc
        exact hpath ▸ hnests.mono (by simp)
      · exact (ih hus c hc).tail

/-- The path of every class is a chain of class statements of the module. -/
theorem read_paths {name : String} {tree : Block} {m : ModuleModel} {c : ClassModel}
    (hread : read name tree = .ok m) (hc : c ∈ m.allClasses) : Nests tree c.path := by
  obtain ⟨ts, hts, he⟩ := bind_eq_ok.1 hread
  cases he
  rw [allClasses_eq] at hc
  exact readClasses_paths tree hts c hc

end ModuleModel

namespace Expr

/-- A dotted expression as code in the body of a class spells it once it is compiled. -/
def compiledIn (cls : String) : Expr → Expr
  | .name id ctx => .name (mangle cls id) ctx
  | .attribute value attr ctx => .attribute (value.compiledIn cls) (mangle cls attr) ctx
  | e => e

theorem compiledIn_path (cls head : String) (attrs : List String) :
    (path head attrs).compiledIn cls = path (mangle cls head) (attrs.map (mangle cls)) := by
  have hfold : ∀ e : Expr,
      (attrs.foldl (fun e a => .attribute e a .load) e).compiledIn cls =
        (attrs.map (mangle cls)).foldl (fun e a => .attribute e a .load) (e.compiledIn cls) := by
    induction attrs with
    | nil => exact fun _ => rfl
    | cons attr attrs ih => exact fun e => ih (.attribute e attr .load)
  exact hfold _

end Expr

/-- A unit names a class that is not generic by its path. -/
theorem ReloadUnit.renderType_plain (u : ReloadUnit) {c : ClassModel} {head : String}
    {attrs : List String} (hplain : c.isGeneric = false) (hpath : c.path = head :: attrs) :
    u.renderType (.plain c) = .ok (.path head attrs) ∧ c.ownerExpr = .path head attrs := by
  rw [renderType, ClassModel.ownerExpr, hplain, hpath]
  exact ⟨rfl, rfl⟩

/-- The name of each class of a chain is bound where its class statement stands. -/
def ClassModel.boundPath (c : ClassModel) : List String :=
  (Enclosed.chain none c.path).map Enclosed.bound

/-- Every unit names a class that is not generic by the chain of class statements that it stands at
the end of. Where units of the class are compiled, that leads to the class exactly if every private
name of the chain gets the stem of that class already where it is bound, and so it does if no name
is private. -/
theorem owner_resolves_iff {name : String} {tree : Block} {m : ModuleModel} {c : ClassModel}
    (u : ReloadUnit) (hread : ModuleModel.read name tree = .ok m) (hc : c ∈ m.allClasses)
    (hplain : c.isGeneric = false) :
    Nests tree c.path ∧ u.renderType (.plain c) = .ok c.ownerExpr ∧
      ((c.ownerExpr.compiledIn c.name).dotted? = some c.boundPath ↔
        ∀ p ∈ Enclosed.chain none c.path, isPrivate p.2 = true → stem c.name = p.stem) ∧
      ((∀ n ∈ c.path, isPrivate n = false) →
        (c.ownerExpr.compiledIn c.name).dotted? = some c.boundPath) := by
  obtain ⟨head, attrs, hpath⟩ : ∃ head attrs, c.path = head :: attrs :=
    List.exists_cons_of_ne_nil (by simp [ClassModel.path])
  obtain ⟨hrender, howner⟩ := u.renderType_plain hplain hpath
  have hcompiled : (c.ownerExpr.compiledIn c.name).dotted? =
      some ((Enclosed.chain none c.path).map fun p => mangle c.name p.2) := by
    have hnames := congrArg (List.map (mangle c.name)) (Enclosed.map_snd_chain none c.path)
    rw [List.map_map] at hnames
    rw [howner, Expr.compiledIn_path, Expr.dotted?_path, ← List.map_cons, ← hpath]
    exact congrArg some hnames.symm
  have hiff : (c.ownerExpr.compiledIn c.name).dotted? = some c.boundPath ↔
      ∀ p ∈ Enclosed.chain none c.path, isPrivate p.2 = true → stem c.name = p.stem := by
    rw [hcompiled, Option.some_inj, ClassModel.boundPath, List.map_inj_left]
    exact forall₂_congr fun p _ => Enclosed.mangle_eq_bound
  refine ⟨ModuleModel.read_paths hread hc, hrender.trans (congrArg _ howner.symm), hiff,
    fun hnone => hiff.2 ?_⟩
  intro p hp hprivate
  have hmem : p.2 ∈ c.path := Enclosed.map_snd_chain none c.path ▸ List.mem_map_of_mem hp
  rw [hnone p.2 hmem] at hprivate
  cases hprivate

/-- A class with a private name in another class. -/
def hidden : Block :=
  [.classDef ⟨"Outer", [], [], [], []⟩
    [.classDef ⟨"__Inner", [], [], [], []⟩ [.assign [.name "x" .store] (.constant (.int 1))]]]

/-- The unit of the inner class looks for it under a name that is bound nowhere. -/
theorem owner_resolves_iff_hidden :
    ∃ m c u, ModuleModel.read "app" hidden = .ok m ∧ c ∈ m.allClasses ∧ c.isGeneric = false ∧
      u ∈ ReloadUnit.copy? c ∧ u.renderType (.plain c) = .ok c.ownerExpr ∧
      c.boundPath = ["Outer", "_Outer__Inner"] ∧
      (c.ownerExpr.compiledIn c.name).dotted? = some ["Outer", "_Inner__Inner"] ∧
      (c.ownerExpr.compiledIn c.name).dotted? ≠ some c.boundPath := by
  have hmem : ∀ m, ModuleModel.read "app" hidden = .ok m → ∃ c ∈ m.allClasses,
      c.isGeneric = false ∧ c.boundPath = ["Outer", "_Outer__Inner"] ∧
      (c.ownerExpr.compiledIn c.name).dotted? = some ["Outer", "_Inner__Inner"] ∧
      (¬∀ p ∈ Enclosed.chain none c.path, isPrivate p.2 = true → stem c.name = p.stem) ∧
      ∃ u, u ∈ ReloadUnit.copy? c := by
    rintro _ ⟨⟩
    simp only [ModuleModel.allClasses_eq]
    exact ⟨_, .tail _ (.head _), rfl, by decide +kernel, by decide +kernel, by decide +kernel, _,
      rfl⟩
  obtain ⟨m, hread⟩ : ∃ m, ModuleModel.read "app" hidden = .ok m := ⟨_, rfl⟩
  obtain ⟨c, hc, hplain, hbound, hcompiled, hstem, u, hu⟩ := hmem m hread
  obtain ⟨-, hrender, hiff, -⟩ := owner_resolves_iff u hread hc hplain
  exact ⟨m, c, u, hread, hc, hplain, hu, hrender, hbound, hcompiled,
    fun h => hstem (hiff.1 h)⟩

end StateWeave
