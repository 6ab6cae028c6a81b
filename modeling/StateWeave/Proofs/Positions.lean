import Mathlib.Data.List.Forall2
import StateWeave.Proofs.Classes

/-! The order in which class statements are read. A class is read before those nested in it, and
these before the class statements that follow. The names of enums are passed on to all that is read
later, but nothing inside of them is read. -/

namespace StateWeave

open ClassModel (bind_eq_ok)

/-- The class statements of a block, those of nested blocks left out. -/
def Stmt.classDefs (b : Block) : List (ClassHeader × Block) :=
  b.filterMap fun
    | .classDef h body => some (h, body)
    | _ => none

/-- The class statement at a place: its number in the block, below the numbers of the class
statements around it. -/
inductive ClassAt : Block → List Nat → ClassHeader → Block → Prop
  | here {b : Block} {i : Nat} {h : ClassHeader} {body : Block}
    (hi : (Stmt.classDefs b)[i]? = some (h, body)) : ClassAt b [i] h body
  | inside {b : Block} {i : Nat} {h h' : ClassHeader} {body body' : Block} {place : List Nat}
    (hi : (Stmt.classDefs b)[i]? = some (h, body)) (hin : ClassAt body place h' body') :
    ClassAt b (i :: place) h' body'

namespace ClassAt

variable {b b' body : Block} {i j : Nat} {place : List Nat} {h : ClassHeader}

theorem of_get (hget : (Stmt.classDefs b)[i]? = (Stmt.classDefs b')[j]?)
    (hat : ClassAt b (i :: place) h body) : ClassAt b' (j :: place) h body := by
  cases hat with
  | here hi => exact .here (hget ▸ hi)
  | inside hi hin => exact .inside (hget ▸ hi) hin

/-- Statements that are no class statements do not matter. -/
theorem of_classDefs_eq (heq : Stmt.classDefs b = Stmt.classDefs b')
    (hat : ClassAt b place h body) : ClassAt b' place h body := by
  cases hat with
  | here hi => exact .here (heq ▸ hi)
  | inside hi hin => exact .inside (heq ▸ hi) hin

end ClassAt

theorem Stmt.classDefs_append (b d : Block) : classDefs (b ++ d) = classDefs b ++ classDefs d :=
  List.filterMap_append

theorem Stmt.classDefs_cons_other {s : Stmt} (hs : s.isClass = false) (b : Block) :
    classDefs (s :: b) = classDefs b := by
  cases s with
  | classDef h body => cases hs
  | _ => rfl

namespace ClassHeader

/-- The enums known after a class statement. -/
def know (enums : List String) (h : ClassHeader) : List String :=
  if h.isEnum enums then h.name :: enums else enums

/-- Whether each of these classes is an enum, if they are read in this order. -/
def enumFlags (enums : List String) : List ClassHeader → List Bool
  | [] => []
  | h :: hs => h.isEnum enums :: enumFlags (h.know enums) hs

theorem enumFlags_append (enums : List String) (hs later : List ClassHeader) :
    enumFlags enums (hs ++ later) =
      enumFlags enums hs ++ enumFlags (hs.foldl know enums) later := by
  induction hs generalizing enums with
  | nil => rfl
  | cons h hs ih =>
    rw [List.cons_append, enumFlags, ih]
    rfl

end ClassHeader

/-- Reading the class statements of a block, of which the first has this number below the place
`around`, makes these classes of them. -/
inductive ReadsAs : List Nat → Nat → List String → List ClassTree → Block → List String → Prop
  | nil {around : List Nat} {index : Nat} {enums : List String} :
    ReadsAs around index enums [] [] enums
  | keep {around : List Nat} {index : Nat} {enums enums' : List String} {s : Stmt}
    {ts : List ClassTree} {b : Block} (hs : s.isClass = false)
    (hb : ReadsAs around index enums ts b enums') : ReadsAs around index enums ts (s :: b) enums'
  | enum {around : List Nat} {index : Nat} {enums enums' : List String} {c : ClassModel}
    {h : ClassHeader} {body : Block} {ts : List ClassTree} {b : Block}
    (henum : h.isEnum enums = true) (hc : c.isEnum = true) (hname : c.name = h.name)
    (hplace : c.place = around ++ [index])
    (hb : ReadsAs around (index + 1) (h.name :: enums) ts b enums') :
    ReadsAs around index enums (⟨c, []⟩ :: ts) (.classDef h body :: b) enums'
  | cls {around : List Nat} {index : Nat} {enums later enums' : List String} {c : ClassModel}
    {h : ClassHeader} {nested ts : List ClassTree} {body b : Block}
    (henum : h.isEnum enums = false) (hc : c.isEnum = false) (hname : c.name = h.name)
    (hplace : c.place = around ++ [index])
    (hbody : ReadsAs (around ++ [index]) 0 enums nested body later)
    (hb : ReadsAs around (index + 1) later ts b enums') :
    ReadsAs around index enums (⟨c, nested⟩ :: ts) (.classDef h body :: b) enums'

theorem ClassModel.place_of_bare {c c' : ClassModel} (h : c'.bare = c.bare) : c'.place = c.place :=
  show c'.bare.place = c.bare.place by rw [h]

namespace ClassTree

/-- Reading a body appends the classes of its class statements. -/
def AppendsClasses (b : Block) : Prop :=
  ∀ ⦃t t' : ClassTree⦄ ⦃enums enums' : List String⦄ ⦃index : Nat⦄,
    readBody t enums index b = .ok (t', enums') →
    ∃ ns, t'.nested = t.nested ++ ns ∧ ReadsAs t.cls.place t.nested.length enums ns b enums'

theorem AppendsClasses.readsAs_cons {body rest : Block} (hbody : AppendsClasses body)
    {around : List Nat} {index : Nat} {outer enums later enums' : List String} {h : ClassHeader}
    {n : ClassTree} {ts : List ClassTree}
    (hn : read (around ++ [index]) outer enums h body = .ok (n, later))
    (hrest : ReadsAs around (index + 1) later ts rest enums') :
    ReadsAs around index enums (n :: ts) (.classDef h body :: rest) enums' := by
  obtain ⟨params, -, ⟨henum, rfl, rfl⟩ | ⟨henum, u, hu, rfl⟩⟩ := read_cases hn
  · exact .enum henum rfl rfl rfl hrest
  · obtain ⟨us, hus, hinside⟩ := hbody hu
    have hbare := (readBody_lists body hu).1
    have hnested : u.nested = us := by simpa [ofHeader] using hus
    rw [hnested]
    exact .cls henum (ClassModel.isEnum_of_bare hbare) (ClassModel.name_of_bare hbare)
      (ClassModel.place_of_bare hbare) hinside hrest

theorem appendsClasses (b : Block) : AppendsClasses b := by
  induction b using block_induction with
  | nil =>
    intro t t' enums enums' index hr
    cases hr
    exact ⟨[], by simp, .nil⟩
  | other s rest hs ih =>
    intro t t' enums enums' index hr
    rcases readBody_cons_cases hr with ⟨-, c, hstep, -, hrest⟩ | ⟨h, body, n, later, rfl, -, -⟩
    · obtain ⟨ns, hns, hread⟩ := ih hrest
      rw [ClassModel.place_of_bare hstep.bare_eq] at hread
      exact ⟨ns, hns, .keep hs hread⟩
    · cases hs
  | cls h body rest ihbody ih =>
    intro t t' enums enums' index hr
    rcases readBody_cons_cases hr with ⟨hs, -⟩ | ⟨h', body', n, later, he, hn, hrest⟩
    · cases hs
    · cases he
      obtain ⟨ns, hns, hread⟩ := ih hrest
      have hlen : (t.addNested n).nested.length = t.nested.length + 1 := by simp [addNested]
      rw [hlen] at hread
      exact ⟨n :: ns, by simpa [addNested] using hns, ihbody.readsAs_cons hn hread⟩

end ClassTree

namespace ModuleModel

open ClassTree

theorem readClasses_readsAs (b : Block) :
    ∀ {enums : List String} {place : Nat} {ts : List ClassTree},
      readClasses enums place b = .ok ts → ∃ enums', ReadsAs [] place enums ts b enums' := by
  induction b with
  | nil =>
    intro enums place ts hr
    cases hr
    exact ⟨enums, .nil⟩
  | cons s rest ih =>
    intro enums place ts hr
    cases hs : s.isClass with
    | false =>
      obtain ⟨enums', hread⟩ := ih (readClasses_other enums place rest hs ▸ hr)
      exact ⟨enums', .keep hs hread⟩
    | true =>
      obtain ⟨h, body, rfl⟩ := s.eq_classDef hs
      rw [readClasses_class] at hr
      obtain ⟨⟨n, later⟩, hn, hr⟩ := bind_eq_ok.1 hr
      obtain ⟨us, hus, he⟩ := bind_eq_ok.1 hr
      cases he
      obtain ⟨enums', hread⟩ := ih hus
      exact ⟨enums', (appendsClasses body).readsAs_cons hn hread⟩

theorem read_readsAs {name : String} {tree : Block} {m : ModuleModel}
    (hr : read name tree = .ok m) : ∃ enums', ReadsAs [] 0 [] m.classes tree enums' := by
  obtain ⟨ts, hts, he⟩ := bind_eq_ok.1 hr
  cases he
  exact readClasses_readsAs tree hts

end ModuleModel

/-- The class is that of a class statement in the block, if the class statements of the block are
numbered from `index` on below the place `around`. -/
structure StandsIn (around : List Nat) (index : Nat) (b : Block) (c : ClassModel)
    (h : ClassHeader) : Prop where
  name : c.name = h.name
  place : ∃ i place body, c.place = around ++ (index + i) :: place ∧ ClassAt b (i :: place) h body

namespace StandsIn

variable {around : List Nat} {index : Nat} {b body : Block} {c : ClassModel} {h g : ClassHeader}

theorem first (hname : c.name = h.name) (hplace : c.place = around ++ [index]) :
    StandsIn around index (.classDef h body :: b) c h :=
  ⟨hname, 0, [], body, hplace, .here rfl⟩

theorem nested (hc : StandsIn (around ++ [index]) 0 body c h) :
    StandsIn around index (.classDef g body :: b) c h := by
  obtain ⟨hname, i, place, inner, hplace, hat⟩ := hc
  refine ⟨hname, 0, i :: place, inner, ?_, .inside rfl hat⟩
  simpa using hplace

theorem later (hc : StandsIn around (index + 1) b c h) :
    StandsIn around index (.classDef g body :: b) c h := by
  obtain ⟨hname, i, place, inner, hplace, hat⟩ := hc
  have hget : (Stmt.classDefs b)[i]? = (Stmt.classDefs (.classDef g body :: b))[i + 1]? := rfl
  refine ⟨hname, i + 1, place, inner, ?_, hat.of_get hget⟩
  rw [hplace, Nat.add_assoc, Nat.add_comm 1]

theorem other {s : Stmt} (hs : s.isClass = false) (hc : StandsIn around index b c h) :
    StandsIn around index (s :: b) c h := by
  obtain ⟨hname, i, place, inner, hplace, hat⟩ := hc
  exact ⟨hname, i, place, inner, hplace, hat.of_classDefs_eq (Stmt.classDefs_cons_other hs b).symm⟩

end StandsIn

namespace ReadsAs

open ClassTree (preorder preorderForest)

variable {around : List Nat} {index : Nat} {enums enums' : List String} {ts : List ClassTree}
  {b : Block}

/-- Classes are read in declaration order, outer ones first, and their headers in this order decide
which of them are enums. -/
theorem headers (hread : ReadsAs around index enums ts b enums') :
    ∃ hs : List ClassHeader,
      List.Forall₂ (StandsIn around index b) (preorderForest ts) hs ∧
      (preorderForest ts).map (·.isEnum) = ClassHeader.enumFlags enums hs ∧
      enums' = hs.foldl ClassHeader.know enums := by
  induction hread with
  | nil => exact ⟨[], .nil, rfl, rfl⟩
  | keep hs _ ih =>
    obtain ⟨hds, hstands, hflags, hknown⟩ := ih
    exact ⟨hds, hstands.imp fun _ _ hc => hc.other hs, hflags, hknown⟩
  | @enum _ _ enums _ c h _ _ _ henum hc hname hplace _ ih =>
    obtain ⟨hds, hstands, hflags, hknown⟩ := ih
    have hknow : h.know enums = h.name :: enums := if_pos henum
    refine ⟨h :: hds, .cons (.first hname hplace) (hstands.imp fun _ _ hc => hc.later), ?_, ?_⟩
    · rw [ClassHeader.enumFlags, hknow, ← hflags, henum]
      exact congrArg (· :: _) hc
    · rw [List.foldl_cons, hknow, hknown]
  | @cls _ _ enums _ _ c h _ _ _ _ henum hc hname hplace _ _ ihbody ih =>
    obtain ⟨inner, hinside, hflagsInside, rfl⟩ := ihbody
    obtain ⟨hds, hstands, hflags, rfl⟩ := ih
    have hknow : h.know enums = enums := if_neg (by simp [henum])
    refine ⟨h :: (inner ++ hds), .cons (.first hname hplace) ?_, ?_, ?_⟩
    · exact List.rel_append (hinside.imp fun _ _ hc => hc.nested)
        (hstands.imp fun _ _ hc => hc.later)
    · rw [ClassHeader.enumFlags, hknow, ClassHeader.enumFlags_append, ← hflagsInside, ← hflags,
        henum, ← List.map_append]
      exact congrArg (· :: _) hc
    · rw [List.foldl_cons, hknow, List.foldl_append]

theorem exists_stands (hread : ReadsAs around index enums ts b enums') :
    ∀ c ∈ preorderForest ts, ∃ h, StandsIn around index b c h := by
  obtain ⟨hs, hstands, -⟩ := hread.headers
  exact ((List.forall₂_and_left _ _).1 (hstands.imp fun _ h hc => ⟨⟨h, hc⟩, hc⟩)).1

theorem exists_place (hread : ReadsAs around index enums ts b enums') :
    ∀ c ∈ preorderForest ts, ∃ i place, c.place = around ++ (index + i) :: place := by
  intro c hc
  obtain ⟨h, -, i, place, -, hplace, -⟩ := hread.exists_stands c hc
  exact ⟨i, place, hplace⟩

/-- Classes stand below others of one number at most. -/
theorem index_eq_of_below {c d : ClassModel} {i j : Nat} {p q : List Nat}
    (hc : c.place = around ++ i :: p) (hd : d.place = around ++ j :: q)
    (hbelow : c.place <+: d.place) : i = j := by
  rw [hc, hd, List.prefix_append_right_inj, List.cons_prefix_cons] at hbelow
  exact hbelow.1

/-- No class stands below an enum. -/
theorem eq_of_below_enum (hread : ReadsAs around index enums ts b enums') :
    ∀ c ∈ preorderForest ts, c.isEnum = true → ∀ d ∈ preorderForest ts, c.place <+: d.place →
      d = c := by
  induction hread with
  | nil => simp [preorderForest]
  | keep _ _ ih => exact ih
  | enum _ _ _ hplace hb ih =>
    have hlater := hb.exists_place
    simp only [preorderForest, preorder, List.singleton_append, List.mem_cons]
    rintro e (rfl | he) henum d (rfl | hd) hbelow
    · rfl
    · obtain ⟨i, place, hd'⟩ := hlater d hd
      have hindex := index_eq_of_below hplace hd' hbelow
      omega
    · obtain ⟨i, place, he'⟩ := hlater e he
      have hindex := index_eq_of_below he' hplace hbelow
      omega
    · exact ih e he henum d hd hbelow
  | cls _ hc _ hplace hbody hb ihbody ih =>
    have hlater := hb.exists_place
    have hinside := hbody.exists_place
    simp only [List.append_assoc, List.singleton_append] at hinside
    simp only [preorderForest, preorder, List.cons_append, List.mem_cons, List.mem_append]
    rintro e (rfl | he | he) henum d (rfl | hd | hd) hbelow
    · rfl
    -- the class itself is no enum
    · cases hc.symm.trans henum
    · cases hc.symm.trans henum
    · obtain ⟨i, place, he'⟩ := hinside e he
      have hlength := hbelow.length_le
      simp [he', hplace] at hlength
    · exact ihbody e he henum d hd hbelow
    · obtain ⟨i, place, he'⟩ := hinside e he
      obtain ⟨j, place', hd'⟩ := hlater d hd
      have hindex := index_eq_of_below he' hd' hbelow
      omega
    · obtain ⟨i, place, he'⟩ := hlater e he
      have hindex := index_eq_of_below he' hplace hbelow
      omega
    · obtain ⟨i, place, he'⟩ := hlater e he
      obtain ⟨j, place', hd'⟩ := hinside d hd
      have hindex := index_eq_of_below he' hd' hbelow
      omega
    · exact ih e he henum d hd hbelow

end ReadsAs

end StateWeave
