import StateWeave.Proofs.Hooks
import StateWeave.Proofs.Reading

/-! What reading keeps. Induction over blocks needs two cases beside the empty block, since only the
bodies of class statements are read; a property that every step of reading keeps then holds of every
class of a module. -/

namespace StateWeave

theorem Stmt.eq_classDef {s : Stmt} (hs : s.isClass = true) : ∃ h body, s = .classDef h body := by
  cases s with
  | classDef h body => exact ⟨h, body, rfl⟩
  | _ => cases hs

/-- Induction over a block and the bodies of its class statements. -/
theorem block_induction {motive : Block → Prop} (nil : motive [])
    (other : ∀ s rest, s.isClass = false → motive rest → motive (s :: rest))
    (cls : ∀ h body rest, motive body → motive rest → motive (.classDef h body :: rest)) :
    ∀ b, motive b
  | [] => nil
  | s :: rest => by
    have hrest := block_induction nil other cls rest
    cases hs : s.isClass with
    | false => exact other s rest hs hrest
    | true =>
      obtain ⟨h, body, rfl⟩ := s.eq_classDef hs
      exact cls h body rest (block_induction nil other cls body) hrest
termination_by b => sizeOf b

namespace ClassModel

variable {c c' : ClassModel} {index : Nat} {s : Stmt}

/-- What is known of a class before its body is read. -/
def bare (c : ClassModel) : ClassModel where
  place := c.place
  outer := c.outer
  name := c.name
  isEnum := c.isEnum
  typeParams := c.typeParams
  markers := c.markers

theorem addField_eq (c : ClassModel) (f : Field) :
    ∃ fs, c.addField f = { c with fields := fs } := by
  unfold addField
  split
  · split_ifs
    · exact ⟨_, rfl⟩
    · exact ⟨_, rfl⟩
  · exact ⟨_, rfl⟩

/-- What completing a field keeps holds of all fields after one of them is completed, -/
theorem forall_mem_updateFirst {P : Field → Prop} (name : String) (g : Field → Field)
    (hkeeps : ∀ f, P f → P (g f)) {fs : List Field} (h : ∀ f ∈ fs, P f) :
    ∀ f ∈ updateFirst name g fs, P f := by
  induction fs with
  | nil => exact h
  | cons f fs ih =>
    obtain ⟨hf, hfs⟩ := List.forall_mem_cons.1 h
    unfold updateFirst
    split_ifs
    · exact List.forall_mem_cons.2 ⟨hkeeps f hf, hfs⟩
    · exact List.forall_mem_cons.2 ⟨hf, ih hfs⟩

/-- and after one is declared that it holds of. -/
theorem forall_mem_addField {P : Field → Prop} {f : Field}
    (hkeeps : ∀ g, P g → P (mergeInto f.annot f.markers g)) (h : ∀ g ∈ c.fields, P g) (hf : P f) :
    ∀ g ∈ (c.addField f).fields, P g := by
  have happend : ∀ g ∈ c.fields ++ [f], P g :=
    List.forall_mem_append.2 ⟨h, List.forall_mem_singleton.2 hf⟩
  unfold addField
  split
  · split_ifs
    · exact forall_mem_updateFirst f.name _ hkeeps h
    · exact happend
  · exact happend

@[simp] theorem bare_addField (c : ClassModel) (f : Field) : (c.addField f).bare = c.bare := by
  obtain ⟨fs, h⟩ := c.addField_eq f
  rw [h]
  rfl

@[simp] theorem bare_addScope (c : ClassModel) (names : List String) :
    (c.addScope names).bare = c.bare := rfl

@[simp] theorem bare_addStatement (c : ClassModel) (index : Nat) (s : Stmt) :
    (c.addStatement index s).bare = c.bare := rfl

@[simp] theorem bare_declareField (c : ClassModel) (name : String) (annot : Option Expr)
    (markers : List Marker) : (c.declareField name annot markers).bare = c.bare :=
  bare_addField c _

@[simp] theorem bare_addProperty (c : ClassModel) (name : String) (annot : Option Expr)
    (markers : List Marker) : (c.addProperty name annot markers).bare = c.bare :=
  bare_addField _ _

@[simp] theorem bare_addEvent (c : ClassModel) (name : String) (annot : Option Expr)
    (markers : List Marker) : (c.addEvent name annot markers).bare = c.bare :=
  bare_addField _ _

@[simp] theorem bare_dropShadowed (c : ClassModel) : c.dropShadowed.bare = c.bare := rfl

theorem foldl_declareStored_eq (target : Option SingleTarget) (markers : List Marker)
    (names : List String) (c : ClassModel) :
    ∃ fs, names.foldl (declareStored target markers) c = { c with fields := fs } := by
  induction names generalizing c with
  | nil => exact ⟨c.fields, rfl⟩
  | cons name names ih =>
    obtain ⟨fs, hfs⟩ : ∃ fs, declareStored target markers c name = { c with fields := fs } := by
      unfold declareStored
      split_ifs
      · exact c.addField_eq _
      · exact c.addField_eq _
    rw [List.foldl_cons, hfs]
    obtain ⟨fs', hfs'⟩ := ih { c with fields := fs }
    exact ⟨fs', hfs'⟩

/-- A statement that stores adds fields and names, and itself to the initializer. -/
theorem afterStores_eq (c : ClassModel) (index : Nat) (s : Stmt) (markers : List Marker) :
    ∃ fs, c.afterStores index s markers =
      (({ c with fields := fs } : ClassModel).addScope
        (Binding.stores s.bindings ++ Binding.declarations s.bindings)).addStatement index s := by
  obtain ⟨fs, hfs⟩ := foldl_declareStored_eq s.singleTarget? markers (storedNames s) c
  exact ⟨fs, by rw [afterStores, declareAll, hfs]⟩

@[simp] theorem bare_afterStores (c : ClassModel) (index : Nat) (s : Stmt)
    (markers : List Marker) : (c.afterStores index s markers).bare = c.bare := by
  obtain ⟨fs, hfs⟩ := c.afterStores_eq index s markers
  rw [hfs]
  rfl

/-- Reading statements leaves the header of the class alone. -/
theorem ReadStep.bare_eq (h : ReadStep c index s c') : c'.bare = c.bare := by
  cases h with
  | function | imports | idle | annotated | dunders => rfl
  | declare => simp
  | stores => simp
  | property => simp
  | event => simp

theorem name_of_bare (h : c'.bare = c.bare) : c'.name = c.name :=
  show c'.bare.name = c.bare.name by rw [h]

theorem isEnum_of_bare (h : c'.bare = c.bare) : c'.isEnum = c.isEnum :=
  show c'.bare.isEnum = c.bare.isEnum by rw [h]

end ClassModel

open ClassModel (ReadStep bind_eq_ok)

/-- A property of classes that every step of reading keeps. -/
structure Kept (P : ClassModel → Prop) : Prop where
  header : ∀ place outer h params, P (.ofHeader place outer h params)
  enum : ∀ place outer h params, P { ClassModel.ofHeader place outer h params with isEnum := true }
  step : ∀ {c c' : ClassModel} {index : Nat} {s : Stmt}, P c → ReadStep c index s c' → P c'
  nested : ∀ {c : ClassModel} (name : String), P c → P (c.addScope [name])
  finish : ∀ {c : ClassModel}, P c → P c.dropShadowed

namespace ClassTree

variable {t t' n : ClassTree} {enums enums' outer : List String} {place : List Nat} {index : Nat}
  {h : ClassHeader} {body : Block} {P : ClassModel → Prop}

/-- A class that is read is an enum without further parts, or what its body makes of its header. -/
theorem read_cases (hr : read place outer enums h body = .ok (n, enums')) :
    ∃ params, h.typeParameters = .ok params ∧
      ((h.isEnum enums = true ∧ enums' = h.name :: enums ∧
        n = ⟨{ ClassModel.ofHeader place outer h params with isEnum := true }, []⟩) ∨
      (h.isEnum enums = false ∧
        ∃ t, readBody (ofHeader place outer h params) enums 0 body = .ok (t, enums') ∧
          n = ⟨t.cls.dropShadowed, t.nested⟩)) := by
  unfold read readWith at hr
  obtain ⟨params, hparams, hr⟩ := bind_eq_ok.1 hr
  refine ⟨params, hparams, ?_⟩
  split_ifs at hr with he
  · cases hr
    exact .inl ⟨he, rfl, rfl⟩
  · obtain ⟨⟨t, later⟩, ht, hk⟩ := bind_eq_ok.1 hr
    cases hk
    exact .inr ⟨by simpa using he, t, ht, rfl⟩

/-- The first statement of a body, read, and the rest of it. -/
theorem readBody_cons_cases {s : Stmt} {rest : Block}
    (hr : readBody t enums index (s :: rest) = .ok (t', enums')) :
    (s.isClass = false ∧ ∃ c, ReadStep t.cls index s c ∧
      t.cls.readOther index s = .ok c ∧
      readBody ⟨c, t.nested⟩ enums (index + 1) rest = .ok (t', enums')) ∨
    (∃ h body n later, s = .classDef h body ∧
      read (t.cls.place ++ [t.nested.length]) t.cls.path enums h body = .ok (n, later) ∧
      readBody (t.addNested n) later (index + 1) rest = .ok (t', enums')) := by
  rw [readBody_cons] at hr
  obtain ⟨⟨t₁, later⟩, hs, hrest⟩ := bind_eq_ok.1 hr
  cases hc : s.isClass with
  | false =>
    rw [readStmt_other t enums index hc] at hs
    obtain ⟨c, hstep, he⟩ := bind_eq_ok.1 hs
    cases he
    exact .inl ⟨rfl, c, ClassModel.readOther_step hstep, hstep, hrest⟩
  | true =>
    obtain ⟨h, body, rfl⟩ := s.eq_classDef hc
    rw [readStmt_class] at hs
    obtain ⟨⟨n, later'⟩, hn, he⟩ := bind_eq_ok.1 hs
    cases he
    exact .inr ⟨h, body, n, _, rfl, hn, hrest⟩

/-- Reading a body leaves the header alone and appends the classes of its class statements. -/
theorem readBody_lists (b : Block) : ∀ {t t' : ClassTree} {enums enums' : List String} {index : Nat},
    readBody t enums index b = .ok (t', enums') →
      t'.cls.bare = t.cls.bare ∧ ∃ ns, t'.nested = t.nested ++ ns ∧ Lists ns b := by
  induction b using block_induction with
  | nil =>
    intro t t' enums enums' index hr
    cases hr
    exact ⟨rfl, [], by simp, .nil⟩
  | other s rest hs ih =>
    intro t t' enums enums' index hr
    rcases readBody_cons_cases hr with ⟨-, c, hstep, -, hrest⟩ | ⟨h, body, n, later, rfl, -, -⟩
    · obtain ⟨hbare, ns, hns, hl⟩ := ih hrest
      exact ⟨hbare.trans hstep.bare_eq, ns, hns, .keep hs hl⟩
    · cases hs
  | cls h body rest ihbody ih =>
    intro t t' enums enums' index hr
    rcases readBody_cons_cases hr with ⟨hs, -⟩ | ⟨h', body', n, later, he, hn, hrest⟩
    · cases hs
    · cases he
      obtain ⟨hbare, ns, hns, hl⟩ := ih hrest
      refine ⟨hbare, n :: ns, by simpa [addNested] using hns, ?_⟩
      obtain ⟨params, -, ⟨-, -, rfl⟩ | ⟨-, u, hu, rfl⟩⟩ := read_cases hn
      · exact .enum rfl rfl hl
      · obtain ⟨hub, us, hus, hul⟩ := ihbody hu
        have hnested : u.nested = us := by simpa [ofHeader] using hus
        rw [hnested]
        exact .cls (ClassModel.isEnum_of_bare hub) (ClassModel.name_of_bare hub) hul hl

theorem name_read (hr : read place outer enums h body = .ok (n, enums')) : n.cls.name = h.name := by
  obtain ⟨params, -, ⟨-, -, rfl⟩ | ⟨-, u, hu, rfl⟩⟩ := read_cases hr
  · rfl
  · exact ClassModel.name_of_bare (readBody_lists body hu).1

theorem mem_preorder {c : ClassModel} :
    c ∈ n.preorder ↔ c = n.cls ∨ c ∈ preorderForest n.nested := by
  cases n
  exact List.mem_cons

section Each

variable (hP : ∀ {place outer enums h body n enums'},
  read place outer enums h body = .ok (n, enums') → P n.cls)
include hP

/-- What holds of every class when its own statement has been read holds of the nested ones. -/
theorem readBody_each (b : Block) : ∀ {t t' : ClassTree} {enums enums' : List String} {index : Nat},
    readBody t enums index b = .ok (t', enums') → (∀ c ∈ preorderForest t.nested, P c) →
      ∀ c ∈ preorderForest t'.nested, P c := by
  induction b using block_induction with
  | nil =>
    intro t t' enums enums' index hr hn
    cases hr
    exact hn
  | other s rest hs ih =>
    intro t t' enums enums' index hr hn
    rcases readBody_cons_cases hr with ⟨-, c, -, -, hrest⟩ | ⟨h, body, n, later, rfl, -, -⟩
    · exact ih hrest hn
    · cases hs
  | cls h body rest ihbody ih =>
    intro t t' enums enums' index hr hn
    rcases readBody_cons_cases hr with ⟨hs, -⟩ | ⟨h', body', n, later, he, hread, hrest⟩
    · cases hs
    · cases he
      refine ih hrest ?_
      rw [addNested, preorderForest_append]
      intro c hmem
      rcases List.mem_append.1 hmem with hmem | hmem
      · exact hn c hmem
      · rw [preorderForest, preorderForest, List.append_nil, mem_preorder] at hmem
        rcases hmem with rfl | hmem
        · exact hP hread
        · obtain ⟨params, -, ⟨-, -, rfl⟩ | ⟨-, u, hu, rfl⟩⟩ := read_cases hread
          · cases hmem
          · exact ihbody hu (List.forall_mem_nil P) c hmem

theorem read_each (hr : read place outer enums h body = .ok (n, enums')) :
    ∀ c ∈ n.preorder, P c := by
  intro c hc
  rcases mem_preorder.1 hc with rfl | hc
  · exact hP hr
  · obtain ⟨params, -, ⟨-, -, rfl⟩ | ⟨-, u, hu, rfl⟩⟩ := read_cases hr
    · cases hc
    · exact readBody_each hP body hu (List.forall_mem_nil P) c hc

end Each

/-- What every step of reading keeps holds after a body, -/
theorem readBody_kept (hP : Kept P) (b : Block) :
    ∀ {t t' : ClassTree} {enums enums' : List String} {index : Nat},
      readBody t enums index b = .ok (t', enums') → P t.cls → P t'.cls := by
  induction b with
  | nil =>
    intro t t' enums enums' index hr hc
    cases hr
    exact hc
  | cons s rest ih =>
    intro t t' enums enums' index hr hc
    rcases readBody_cons_cases hr with ⟨-, c, hstep, -, hrest⟩ | ⟨h, body, n, later, rfl, -, hrest⟩
    · exact ih hrest (hP.step hc hstep)
    · exact ih hrest (hP.nested _ hc)

/-- and of every class that is read. -/
theorem cls_kept (hP : Kept P) (hr : read place outer enums h body = .ok (n, enums')) :
    P n.cls := by
  obtain ⟨params, -, ⟨-, -, rfl⟩ | ⟨-, u, hu, rfl⟩⟩ := read_cases hr
  · exact hP.enum _ _ _ _
  · exact hP.finish (readBody_kept hP body hu (hP.header _ _ _ _))

theorem read_kept (hP : Kept P) (hr : read place outer enums h body = .ok (n, enums')) :
    ∀ c ∈ n.preorder, P c :=
  read_each (cls_kept hP) hr

end ClassTree

namespace ModuleModel

open ClassTree

theorem readClasses_other (enums : List String) (place : Nat) {s : Stmt} (rest : Block)
    (hs : s.isClass = false) :
    readClasses enums place (s :: rest) = readClasses enums place rest := by
  cases s with
  | classDef h body => cases hs
  | _ => rfl

theorem readClasses_class (enums : List String) (place : Nat) (h : ClassHeader)
    (body rest : Block) :
    readClasses enums place (.classDef h body :: rest) =
      (ClassTree.read [place] [] enums h body >>= fun p =>
        readClasses p.2 (place + 1) rest >>= fun ts => .ok (p.1 :: ts)) := by
  rw [readClasses]
  rfl

theorem readClasses_lists (b : Block) : ∀ {enums : List String} {place : Nat} {ts : List ClassTree},
    readClasses enums place b = .ok ts → Lists ts b := by
  induction b with
  | nil =>
    intro enums place ts hr
    cases hr
    exact .nil
  | cons s rest ih =>
    intro enums place ts hr
    cases hs : s.isClass with
    | false => exact .keep hs (ih (readClasses_other enums place rest hs ▸ hr))
    | true =>
      obtain ⟨h, body, rfl⟩ := s.eq_classDef hs
      rw [readClasses_class] at hr
      obtain ⟨⟨n, later⟩, hn, hr⟩ := bind_eq_ok.1 hr
      obtain ⟨us, hus, he⟩ := bind_eq_ok.1 hr
      cases he
      obtain ⟨params, -, ⟨-, -, rfl⟩ | ⟨-, u, hu, rfl⟩⟩ := read_cases hn
      · exact .enum rfl rfl (ih hus)
      · obtain ⟨hbare, ns, hns, hl⟩ := readBody_lists body hu
        have hnested : u.nested = ns := by simpa [ofHeader] using hns
        rw [hnested]
        exact .cls (ClassModel.isEnum_of_bare hbare) (ClassModel.name_of_bare hbare) hl (ih hus)

theorem readClasses_each {P : ClassModel → Prop} (hP : ∀ {place outer enums h body n enums'},
      ClassTree.read place outer enums h body = .ok (n, enums') → P n.cls) (b : Block) :
    ∀ {enums : List String} {place : Nat} {ts : List ClassTree},
      readClasses enums place b = .ok ts → ∀ c ∈ preorderForest ts, P c := by
  induction b with
  | nil =>
    intro enums place ts hr
    cases hr
    simp [preorderForest]
  | cons s rest ih =>
    intro enums place ts hr
    cases hs : s.isClass with
    | false => exact ih (readClasses_other enums place rest hs ▸ hr)
    | true =>
      obtain ⟨h, body, rfl⟩ := s.eq_classDef hs
      rw [readClasses_class] at hr
      obtain ⟨⟨n, later⟩, hn, hr⟩ := bind_eq_ok.1 hr
      obtain ⟨us, hus, he⟩ := bind_eq_ok.1 hr
      cases he
      intro c hc
      rcases List.mem_append.1 hc with hc | hc
      · exact ClassTree.read_each hP hn c hc
      · exact ih hus c hc

theorem read_lists {name : String} {tree : Block} {m : ModuleModel}
    (hr : read name tree = .ok m) : m.name = name ∧ Lists m.classes tree := by
  obtain ⟨ts, hts, he⟩ := bind_eq_ok.1 hr
  cases he
  exact ⟨rfl, readClasses_lists tree hts⟩

/-- What holds of every class when its own statement has been read holds of all in a module. -/
theorem read_each {P : ClassModel → Prop} (hP : ∀ {place outer enums h body n enums'},
      ClassTree.read place outer enums h body = .ok (n, enums') → P n.cls) {name : String}
    {tree : Block} {m : ModuleModel} (hr : read name tree = .ok m) : ∀ c ∈ m.allClasses, P c := by
  obtain ⟨ts, hts, he⟩ := bind_eq_ok.1 hr
  cases he
  rw [allClasses_eq]
  exact readClasses_each hP tree hts

theorem read_kept {P : ClassModel → Prop} (hP : Kept P) {name : String} {tree : Block}
    {m : ModuleModel} (hr : read name tree = .ok m) : ∀ c ∈ m.allClasses, P c :=
  read_each (cls_kept hP) hr

end ModuleModel

end StateWeave
