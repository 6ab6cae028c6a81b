import StateWeave.Proofs.Frame
import StateWeave.Proofs.Positions

/-! Enums. A class is an enum by the names of its bases or of its metaclass, or because it derives
from an enum that was read before it. So the enums of a module are what a chain of such bases leads
to, in the order in which classes are read. -/

namespace StateWeave

namespace ClassHeader

/-- The class has a base, or a metaclass, with a name that enums and their metaclasses have. -/
def IsEnumByName (h : ClassHeader) : Prop :=
  (∃ base ∈ h.bases, ∃ name, base.terminalName = some name ∧
    ("Enum".toList <:+ name.toList ∨ "Flag".toList <:+ name.toList)) ∨
  ∃ k ∈ h.keywords, k.arg = some "metaclass" ∧ ∃ name, k.value.terminalName = some name ∧
    ("EnumMeta".toList <:+ name.toList ∨ "EnumType".toList <:+ name.toList)

theorem isEnum_iff {enums : List String} {h : ClassHeader} :
    h.isEnum enums = true ↔
      h.IsEnumByName ∨ ∃ base ∈ h.bases, ∃ name ∈ enums, base.terminalName = some name := by
  simp only [isEnum, hasEnumBase, hasEnumMeta, namesEnum, namesEnumMeta, IsEnumByName,
    Bool.or_eq_true, List.any_eq_true, Option.any_eq_true, Bool.and_eq_true, beq_iff_eq,
    List.isSuffixOf_iff_suffix, List.contains_iff_mem]
  constructor
  · rintro (⟨base, hbase, name, hname, hends | hmem⟩ | hmeta)
    · exact .inl (.inl ⟨base, hbase, name, hname, hends⟩)
    · exact .inr ⟨base, hbase, name, hmem, hname⟩
    · exact .inl (.inr hmeta)
  · rintro ((⟨base, hbase, name, hname, hends⟩ | hmeta) | ⟨base, hbase, name, hmem, hname⟩)
    · exact .inl ⟨base, hbase, name, hname, .inl hends⟩
    · exact .inr hmeta
    · exact .inl ⟨base, hbase, name, hname, .inr hmem⟩

end ClassHeader

/-- A chain of classes leads from the class with this number to one that is an enum by name: each of
them is named by a base of the one before it in the chain, and is read before it. -/
inductive EnumChain (hs : List ClassHeader) : Nat → Prop
  | named {i : Nat} {h : ClassHeader} (hi : hs[i]? = some h) (hname : h.IsEnumByName) :
    EnumChain hs i
  | derived {i j : Nat} {h g : ClassHeader} (hi : hs[i]? = some h) (hj : hs[j]? = some g)
    (before : j < i) (hbase : ∃ base ∈ h.bases, base.terminalName = some g.name)
    (chain : EnumChain hs j) : EnumChain hs i

namespace EnumChain

variable {hs later : List ClassHeader} {i j : Nat} {h g : ClassHeader} {name : String}

theorem getElem?_before (hj : hs[j]? = some g) : j < hs.length ∧ (hs ++ later)[j]? = some g := by
  have before := (List.getElem?_eq_some_iff.1 hj).1
  exact ⟨before, (List.getElem?_append_left before).trans hj⟩

/-- What is read later does not matter. -/
theorem append_iff (hi : i < hs.length) : EnumChain (hs ++ later) i ↔ EnumChain hs i := by
  constructor
  · intro hchain
    induction hchain with
    | named hget hname =>
      rw [List.getElem?_append_left hi] at hget
      exact .named hget hname
    | derived hget hj before hbase _ ih =>
      have hj' := Nat.lt_trans before hi
      rw [List.getElem?_append_left hi] at hget
      rw [List.getElem?_append_left hj'] at hj
      exact .derived hget hj before hbase (ih hj')
  · intro hchain
    clear hi
    induction hchain with
    | named hget hname => exact .named (getElem?_before hget).2 hname
    | derived hget hj before hbase _ ih =>
      exact .derived (getElem?_before hget).2 (getElem?_before hj).2 before hbase ih

/-- These are the names of the classes that chains lead from. -/
def Known (hs : List ClassHeader) (enums : List String) : Prop :=
  ∀ name, name ∈ enums ↔ ∃ j g, hs[j]? = some g ∧ g.name = name ∧ EnumChain hs j

/-- A class is recognized as an enum if a chain leads from it through the classes before it. -/
theorem isEnum_iff_last {enums : List String} (hknown : Known hs enums) :
    h.isEnum enums = true ↔ EnumChain (hs ++ [h]) hs.length := by
  have hlast : (hs ++ [h])[hs.length]? = some h := List.getElem?_concat_length
  rw [ClassHeader.isEnum_iff]
  constructor
  · rintro (hname | ⟨base, hmem, name, henum, hterm⟩)
    · exact .named hlast hname
    · obtain ⟨j, g, hj, rfl, chain⟩ := (hknown name).1 henum
      obtain ⟨before, hj⟩ := getElem?_before hj
      exact .derived hlast hj before ⟨base, hmem, hterm⟩ ((append_iff before).2 chain)
  · intro chain
    cases chain with
    | named hi hname =>
      cases hlast.symm.trans hi
      exact .inl hname
    | @derived _ j _ g hi hj before hbase chain =>
      cases hlast.symm.trans hi
      obtain ⟨base, hmem, hterm⟩ := hbase
      rw [List.getElem?_append_left before] at hj
      have henum := (hknown g.name).2 ⟨j, g, hj, rfl, (append_iff before).1 chain⟩
      exact .inr ⟨base, hmem, g.name, henum, hterm⟩

/-- The classes that chains lead from are those before, and the last one if it is an enum. -/
theorem exists_chain_concat :
    (∃ j g, (hs ++ [h])[j]? = some g ∧ g.name = name ∧ EnumChain (hs ++ [h]) j) ↔
      (∃ j g, hs[j]? = some g ∧ g.name = name ∧ EnumChain hs j) ∨
        h.name = name ∧ EnumChain (hs ++ [h]) hs.length := by
  have hlast : (hs ++ [h])[hs.length]? = some h := List.getElem?_concat_length
  constructor
  · rintro ⟨j, g, hj, hname, chain⟩
    rcases Nat.lt_or_ge j hs.length with before | hge
    · rw [List.getElem?_append_left before] at hj
      exact .inl ⟨j, g, hj, hname, (append_iff before).1 chain⟩
    · have hlt := (List.getElem?_eq_some_iff.1 hj).1
      obtain rfl : j = hs.length := by
        rw [List.length_append, List.length_singleton] at hlt
        omega
      cases hlast.symm.trans hj
      exact .inr ⟨hname, chain⟩
  · rintro (⟨j, g, hj, hname, chain⟩ | ⟨hname, chain⟩)
    · obtain ⟨before, hj⟩ := getElem?_before hj
      exact ⟨j, g, hj, hname, (append_iff before).2 chain⟩
    · exact ⟨_, h, hlast, hname, chain⟩

/-- Reading a class keeps track of the enums. -/
theorem Known.know {enums : List String} (hknown : Known hs enums) :
    Known (hs ++ [h]) (h.know enums) := by
  intro name
  rw [exists_chain_concat, ← hknown name, ← isEnum_iff_last hknown, ClassHeader.know]
  split_ifs with henum
  · simp [henum, or_comm, eq_comm]
  · simp [henum]

theorem lt_length (chain : EnumChain hs i) : i < hs.length := by
  cases chain with
  | named hi => exact (List.getElem?_eq_some_iff.1 hi).1
  | derived hi => exact (List.getElem?_eq_some_iff.1 hi).1

theorem enumFlags_iff {enums : List String} (hknown : Known hs enums) (i : Nat) :
    (ClassHeader.enumFlags enums later)[i]? = some true ↔
      EnumChain (hs ++ later) (hs.length + i) := by
  induction later generalizing hs enums i with
  | nil =>
    refine iff_of_false nofun fun chain => ?_
    have hlt := chain.lt_length
    rw [List.append_nil] at hlt
    omega
  | cons h later ih =>
    have happ : hs ++ h :: later = hs ++ [h] ++ later := by simp
    rw [happ, ClassHeader.enumFlags]
    cases i with
    | zero =>
      rw [List.getElem?_cons_zero, Option.some.injEq, isEnum_iff_last hknown, Nat.add_zero]
      exact (append_iff (by simp)).symm
    | succ i =>
      rw [List.getElem?_cons_succ, ih hknown.know i]
      simp only [List.length_append, List.length_singleton, Nat.add_assoc, Nat.add_comm 1]

end EnumChain

/-! ### What is left of an enum -/

namespace ClassModel

/-- Nothing is known of the body of the class. -/
structure Unread (c : ClassModel) : Prop where
  fields : c.fields = []
  properties : c.properties = []
  events : c.events = []
  methods : c.methods = []
  initializer : c.initializer = []

end ClassModel

namespace ClassTree

mutual

/-- The tree of a class followed by those of everything nested in it. -/
def subtrees : ClassTree → List ClassTree
  | ⟨cls, nested⟩ => ⟨cls, nested⟩ :: subtreesForest nested

def subtreesForest : List ClassTree → List ClassTree
  | [] => []
  | t :: ts => t.subtrees ++ subtreesForest ts

end

mutual

theorem map_cls_subtrees : ∀ t : ClassTree, t.subtrees.map (·.cls) = t.preorder
  | ⟨cls, nested⟩ => by
    rw [subtrees, preorder, List.map_cons, map_cls_subtreesForest nested]

theorem map_cls_subtreesForest :
    ∀ ts : List ClassTree, (subtreesForest ts).map (·.cls) = preorderForest ts
  | [] => rfl
  | t :: ts => by
    rw [subtreesForest, preorderForest, List.map_append, map_cls_subtrees t,
      map_cls_subtreesForest ts]

end

/-- Enums have no classes nested in them. -/
theorem nested_eq_nil_of_lists {ts : List ClassTree} {b : Block} (h : Lists ts b) :
    ∀ t ∈ subtreesForest ts, t.cls.isEnum = true → t.nested = [] := by
  induction h with
  | nil => simp [subtreesForest]
  | keep _ _ ih => exact ih
  | enum _ _ _ ih =>
    rw [subtreesForest, subtrees, subtreesForest, List.singleton_append, List.forall_mem_cons]
    exact ⟨fun _ => rfl, ih⟩
  | cls hc _ _ _ ihbody ih =>
    rw [subtreesForest, subtrees, List.cons_append, List.forall_mem_cons, List.forall_mem_append]
    exact ⟨fun henum => (by cases hc.symm.trans henum), ihbody, ih⟩

theorem unread_of_read {n : ClassTree} {place : List Nat} {outer enums enums' : List String}
    {h : ClassHeader} {body : Block} (hr : read place outer enums h body = .ok (n, enums'))
    (henum : n.cls.isEnum = true) : n.cls.Unread := by
  obtain ⟨params, -, ⟨-, -, rfl⟩ | ⟨-, u, hu, rfl⟩⟩ := read_cases hr
  · exact ⟨rfl, rfl, rfl, rfl, rfl⟩
  · have hbare := (readBody_lists body hu).1
    cases (ClassModel.isEnum_of_bare hbare).symm.trans henum

end ClassTree

/-- The class statement of the class is the same in both blocks. -/
def Stays (around : List Nat) (index : Nat) (b b' : Block) (c : ClassModel) : Prop :=
  ∃ i place h body, c.place = around ++ (index + i) :: place ∧
    ClassAt b (i :: place) h body ∧ ClassAt b' (i :: place) h body

namespace Stays

variable {around : List Nat} {index : Nat} {b b' body body' : Block} {c : ClassModel}
  {h : ClassHeader}

theorem later (hc : Stays around (index + 1) b b' c) :
    Stays around index (.classDef h body :: b) (.classDef h body' :: b') c := by
  obtain ⟨i, place, g, inner, hplace, hat, hat'⟩ := hc
  have hshift : ∀ {b : Block} {body : Block},
      (Stmt.classDefs b)[i]? = (Stmt.classDefs (.classDef h body :: b))[i + 1]? := rfl
  refine ⟨i + 1, place, g, inner, ?_, hat.of_get hshift, hat'.of_get hshift⟩
  rw [hplace, Nat.add_assoc, Nat.add_comm 1]

theorem nested (hc : Stays (around ++ [index]) 0 body body' c) :
    Stays around index (.classDef h body :: b) (.classDef h body' :: b') c := by
  obtain ⟨i, place, g, inner, hplace, hat, hat'⟩ := hc
  refine ⟨0, i :: place, g, inner, ?_, .inside rfl hat, .inside rfl hat'⟩
  simpa using hplace

theorem of_classDefs_eq {d d' : Block} (hb : Stmt.classDefs b = Stmt.classDefs d)
    (hb' : Stmt.classDefs b' = Stmt.classDefs d') (hc : Stays around index b b' c) :
    Stays around index d d' c := by
  obtain ⟨i, place, g, inner, hplace, hat, hat'⟩ := hc
  exact ⟨i, place, g, inner, hplace, hat.of_classDefs_eq hb, hat'.of_classDefs_eq hb'⟩

end Stays

theorem ReadsAs.stays_self {around : List Nat} {index : Nat} {enums enums' : List String}
    {ts : List ClassTree} {b : Block} (hread : ReadsAs around index enums ts b enums') :
    ∀ c ∈ ClassTree.preorderForest ts, Stays around index b b c := by
  intro c hc
  obtain ⟨h, -, i, place, body, hplace, hat⟩ := hread.exists_stands c hc
  exact ⟨i, place, h, body, hplace, hat, hat⟩

namespace Weave

open ClassTree (preorder preorderForest)

variable {added : ClassModel → Block} {ts : List ClassTree} {b b' : Block}

theorem classDefs_eq_nil {b : Block} (h : ∀ s ∈ b, s.isClass = false) : Stmt.classDefs b = [] := by
  induction b with
  | nil => rfl
  | cons s b ih =>
    obtain ⟨hs, hb⟩ := List.forall_mem_cons.1 h
    rw [Stmt.classDefs_cons_other hs, ih hb]

/-- Growing class bodies leaves the class statements of enums as they are. -/
theorem Extends.stays (hext : Extends added ts b b') {around : List Nat} {index : Nat}
    {enums enums' : List String} (hread : ReadsAs around index enums ts b enums')
    (hadded : ∀ c ∈ preorderForest ts, ∀ s ∈ added c, s.isClass = false) :
    ∀ c ∈ preorderForest ts, c.isEnum = true → Stays around index b b' c := by
  induction hread generalizing b' with
  | nil => simp [preorderForest]
  | keep hs _ ih =>
    cases hext with
    | keep _ hb =>
      intro c hc henum
      exact (ih hb hadded c hc henum).of_classDefs_eq (Stmt.classDefs_cons_other hs _).symm
        (Stmt.classDefs_cons_other hs _).symm
    | enum => cases hs
    | cls => cases hs
  | @enum _ _ _ _ c h body _ _ _ hc hname hplace _ ih =>
    cases hext with
    | keep hs => cases hs
    | enum _ _ hb =>
      simp only [preorderForest, preorder, List.singleton_append, List.forall_mem_cons] at hadded ⊢
      refine ⟨fun _ => ⟨0, [], h, body, hplace, .here rfl, .here rfl⟩, ?_⟩
      intro d hd henum
      exact (ih hb hadded.2 d hd henum).later
    | cls hc' => cases hc.symm.trans hc'
  | @cls _ _ _ _ _ c h nested _ body _ _ hc hname hplace _ _ ihbody ih =>
    cases hext with
    | keep hs => cases hs
    | enum hc' => cases hc.symm.trans hc'
    | @cls _ _ _ _ _ body' _ _ _ _ hbody hb =>
      simp only [preorderForest, preorder, List.cons_append, List.forall_mem_cons,
        List.forall_mem_append] at hadded ⊢
      refine ⟨fun henum => (by cases hc.symm.trans henum), ?_, ?_⟩
      · intro d hd henum
        have hgrown : Stmt.classDefs body' = Stmt.classDefs (body' ++ added c) := by
          rw [Stmt.classDefs_append, classDefs_eq_nil hadded.1, List.append_nil]
        exact ((ihbody hbody hadded.2.1 d hd henum).of_classDefs_eq rfl hgrown).nested
      · intro d hd henum
        exact (ih hb hadded.2.2 d hd henum).later

/-- A woven module has the class statements of enums where they were, and as they were. -/
theorem outcome_stays {zeros : ZeroTable} {config : Config} {name : String} {tree : Block}
    {m : ModuleModel} {r : WeaveResult} (hread : ModuleModel.read name tree = .ok m)
    (hr : outcome zeros config name tree = .ok r) :
    r.hooked = (m.allClasses.filter (·.analysis.eligible)).map (·.lexicalPath) ∧
      ∀ c ∈ m.allClasses, c.isEnum = true → Stays [] 0 tree r.tree c := by
  obtain ⟨m', hread', -, hnone, rfl⟩ := outcome_ok hr
  obtain rfl : m' = m := Except.ok.inj (hread'.symm.trans hread)
  obtain ⟨enums', hreads⟩ := ModuleModel.read_readsAs hread
  refine ⟨woven_hooked hnone, ?_⟩
  rw [m'.allClasses_eq]
  intro c hc henum
  by_cases hempty : (woven config (given zeros config.runtimeAlias) m' tree).hooked = []
  · rw [(woven_cases config _ m' tree).2.1 hempty]
    exact hreads.stays_self c hc
  · obtain ⟨rest, htree, hext⟩ := woven_tree hnone hread hempty
    refine (hext.stays hreads (fun c hc => (given_harmless hnone c hc).2) c hc henum).of_classDefs_eq
      rfl ?_
    rw [htree, Stmt.classDefs_append, Stmt.classDefs_append]
    rfl

end Weave

namespace ModuleModel

/-- Nothing inside the enum takes part in anything: its body is not read, no class stands below it,
and weaving neither hooks it nor touches its class statement. -/
structure Spares (name : String) (tree : Block) (m : ModuleModel) (c : ClassModel) : Prop where
  unread : c.Unread
  alone : ∀ d ∈ m.allClasses, c.place <+: d.place → d = c
  apart : c.analysis.eligible = false
  woven : ∀ zeros config r, Weave.outcome zeros config name tree = .ok r →
    r.hooked = (m.allClasses.filter (·.analysis.eligible)).map (·.lexicalPath) ∧
    ∃ h body, ClassAt tree c.place h body ∧ ClassAt r.tree c.place h body

variable {name : String} {tree : Block} {m : ModuleModel}

theorem spares_enum (hread : read name tree = .ok m) {c : ClassModel} (hc : c ∈ m.allClasses)
    (henum : c.isEnum = true) : m.Spares name tree c where
  unread :=
    read_each (P := fun c => c.isEnum = true → c.Unread) ClassTree.unread_of_read hread c hc henum
  alone := by
    obtain ⟨enums', hreads⟩ := read_readsAs hread
    rw [m.allClasses_eq] at hc ⊢
    exact hreads.eq_of_below_enum c hc henum
  apart := by
    by_contra heligible
    rw [Bool.not_eq_false] at heligible
    cases henum.symm.trans (Weave.isEnum_eq_false_of_eligible heligible)
  woven := by
    intro zeros config r hr
    obtain ⟨hhooked, hstays⟩ := Weave.outcome_stays hread hr
    obtain ⟨i, place, h, body, hplace, hat, hat'⟩ := hstays c hc henum
    rw [List.nil_append, Nat.zero_add] at hplace
    exact ⟨hhooked, h, body, hplace ▸ hat, hplace ▸ hat'⟩

/-- The classes of a module are those of class statements of its tree, in the order in which they
are read, and the enums among them are those from which a chain of bases leads, through classes read
before, to one that is an enum by name. Enums have neither members nor nested classes, and they are
not woven. -/
theorem isEnum_iff_chain (hread : read name tree = .ok m) :
    (∃ hs : List ClassHeader,
      List.Forall₂ (fun c h => c.name = h.name ∧ ∃ body, ClassAt tree c.place h body)
        m.allClasses hs ∧
      ∀ i c, m.allClasses[i]? = some c → (c.isEnum = true ↔ EnumChain hs i)) ∧
    ((ClassTree.subtreesForest m.classes).map (·.cls) = m.allClasses ∧
      ∀ t ∈ ClassTree.subtreesForest m.classes, t.cls.isEnum = true → t.nested = []) ∧
    ∀ c ∈ m.allClasses, c.isEnum = true → m.Spares name tree c := by
  refine ⟨?_, ⟨?_, ?_⟩, fun c hc henum => spares_enum hread hc henum⟩
  · obtain ⟨enums', hreads⟩ := read_readsAs hread
    obtain ⟨hs, hstands, hflags, -⟩ := hreads.headers
    rw [m.allClasses_eq]
    refine ⟨hs, hstands.imp ?_, ?_⟩
    · rintro c h ⟨hname, i, place, body, hplace, hat⟩
      rw [List.nil_append, Nat.zero_add] at hplace
      exact ⟨hname, body, hplace ▸ hat⟩
    · intro i c hi
      have hknown : EnumChain.Known [] [] := by simp [EnumChain.Known]
      have hiff : (ClassHeader.enumFlags [] hs)[i]? = some true ↔ EnumChain ([] ++ hs) (0 + i) :=
        EnumChain.enumFlags_iff hknown i
      rw [← hflags, List.getElem?_map, hi, List.nil_append, Nat.zero_add] at hiff
      rw [← hiff, Option.map_some, Option.some.injEq]
  · rw [ClassTree.map_cls_subtreesForest, m.allClasses_eq]
  · exact ClassTree.nested_eq_nil_of_lists (read_lists hread).2

/-- An enum with a class inside, a class that derives from the enum, and one that does not. -/
def palette : Block :=
  [.classDef ⟨"Color", [.name "Enum" .load], [], [], []⟩
      [.classDef ⟨"Shade", [], [], [], []⟩ [.pass]],
    .classDef ⟨"Tint", [.attribute (.name "app" .load) "Color" .load], [], [], []⟩ [.pass],
    .classDef ⟨"Brush", [.name "Shade" .load], [], [], []⟩
      [.assign [.name "width" .store] (.constant (.int 1))]]

/-- The class inside is not read, and what derives from it is no enum. -/
theorem isEnum_iff_chain_palette :
    ∃ m hs, read "app" palette = .ok m ∧ hs.map (·.name) = ["Color", "Tint", "Brush"] ∧
      m.allClasses.map (·.name) = hs.map (·.name) ∧ EnumChain hs 0 ∧ EnumChain hs 1 ∧
      ¬EnumChain hs 2 := by
  have hall : ∀ m, read "app" palette = .ok m →
      m.allClasses.map (fun c => (c.name, c.isEnum)) =
        [("Color", true), ("Tint", true), ("Brush", false)] := by
    rintro _ ⟨⟩
    rw [allClasses_eq]
    rfl
  obtain ⟨m, hread⟩ : ∃ m, read "app" palette = .ok m := ⟨_, rfl⟩
  have hall := hall m hread
  obtain ⟨⟨hs, hstands, hiff⟩, -⟩ := isEnum_iff_chain hread
  have hchain : ∀ (i : Nat) (flag : String × Bool),
      [("Color", true), ("Tint", true), ("Brush", false)][i]? = some flag →
      (flag.2 = true ↔ EnumChain hs i) := by
    intro i flag hflag
    rw [← hall, List.getElem?_map, Option.map_eq_some_iff] at hflag
    obtain ⟨c, hc, rfl⟩ := hflag
    exact hiff i c hc
  have hnames : m.allClasses.map (·.name) = hs.map (·.name) := by
    rw [← List.forall₂_eq_eq_eq, List.forall₂_map_left_iff, List.forall₂_map_right_iff]
    exact hstands.imp fun _ _ h => h.1
  refine ⟨m, hs, hread, ?_, hnames, (hchain 0 _ rfl).1 rfl, (hchain 1 _ rfl).1 rfl, ?_⟩
  · have h := congrArg (List.map Prod.fst) hall
    rw [List.map_map] at h
    exact hnames.symm.trans h
  · intro chain
    cases (hchain 2 _ rfl).2 chain

end ModuleModel

end StateWeave
