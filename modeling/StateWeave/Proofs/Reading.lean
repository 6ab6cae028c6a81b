import Mathlib.Tactic.SplitIfs
import StateWeave.Weave

/-! Reading class bodies. A statement that is no class statement changes the class it stands in and
nothing else, and a class statement adds one nested class; so the classes of a module are those of
its class statements, and what every step of reading keeps holds of every class. -/

namespace StateWeave

def Stmt.isClass : Stmt → Bool
  | .classDef _ _ => true
  | _ => false

/-- The classes listed are those of the class statements of a block, except that enums have none
inside. -/
inductive Lists : List ClassTree → Block → Prop
  | nil : Lists [] []
  | keep {s : Stmt} {ts : List ClassTree} {b : Block} (hs : s.isClass = false) (hb : Lists ts b) :
    Lists ts (s :: b)
  | enum {c : ClassModel} {h : ClassHeader} {body : Block} {ts : List ClassTree} {b : Block}
    (hc : c.isEnum = true) (hname : c.name = h.name) (hb : Lists ts b) :
    Lists (⟨c, []⟩ :: ts) (.classDef h body :: b)
  | cls {c : ClassModel} {h : ClassHeader} {nested ts : List ClassTree} {body b : Block}
    (hc : c.isEnum = false) (hname : c.name = h.name) (hbody : Lists nested body)
    (hb : Lists ts b) : Lists (⟨c, nested⟩ :: ts) (.classDef h body :: b)

namespace ClassModel

/-- Reads a statement that is no class statement. -/
def readOther (c : ClassModel) (index : Nat) : Stmt → Except Fault ClassModel
  | .functionDef h _ => .ok (c.addFunction h)
  | .imports source names =>
    .ok (c.addScope (Binding.declarations (Stmt.imports source names).bindings))
  | s => if s.isDocstring index || s.isNoop then .ok c else c.readState index s

/-- The names that a statement makes storage of the class. -/
def storedNames (s : Stmt) : List String :=
  (Binding.stores s.bindings).filter (!isDunder ·)

/-- Whether a statement binds dunder names and nothing else. -/
def bindsDunders (s : Stmt) : Bool :=
  (storedNames s).isEmpty && !(Binding.stores s.bindings).isEmpty
    && (Binding.declarations s.bindings).isEmpty

/-- Declares a stored name; the annotation and its markers belong to the target alone. -/
def declareStored (target : Option SingleTarget) (markers : List Marker) (c : ClassModel)
    (name : String) : ClassModel :=
  if target.any (·.name == name) then c.declareField name (target.bind (·.annot)) markers
  else c.declareField name none []

/-- The class once the storage of a statement is declared. -/
def declareAll (c : ClassModel) (s : Stmt) (markers : List Marker) : ClassModel :=
  (storedNames s).foldl (declareStored s.singleTarget? markers) c

def afterStores (c : ClassModel) (index : Nat) (s : Stmt) (markers : List Marker) : ClassModel :=
  ((c.declareAll s markers).addScope
    (Binding.stores s.bindings ++ Binding.declarations s.bindings)).addStatement index s

theorem readStores_eq (c : ClassModel) (index : Nat) (s : Stmt) :
    c.readStores index s =
      if bindsDunders s then .ok c
      else Annot.markersOf (s.singleTarget?.bind (·.annot)) >>= fun markers =>
        .ok (c.afterStores index s markers) := rfl

/-- What reading one statement other than a class statement can do to a class. -/
inductive ReadStep (c : ClassModel) (index : Nat) : Stmt → ClassModel → Prop
  | function (h : FunctionHeader) (body : Block) :
    ReadStep c index (.functionDef h body) (c.addFunction h)
  | imports (source : ImportSource) (names : List Alias) :
    ReadStep c index (.imports source names)
      (c.addScope (Binding.declarations (Stmt.imports source names).bindings))
  | idle {s : Stmt} (hs : s.isDocstring index = true ∨ s.isNoop = true) : ReadStep c index s c
  | annotated {s : Stmt} {name : String} {annot : Option Expr}
    (hs : s.singleTarget? = some ⟨name, annot, none⟩) : ReadStep c index s c
  | declare {s : Stmt} {name : String} {annot : Option Expr} {markers : List Marker}
    (hs : s.singleTarget? = some ⟨name, annot, none⟩) (hname : isDunder name = false)
    (hvar : Annot.isClassVarOf annot = .ok true) (hm : Annot.markersOf annot = .ok markers) :
    ReadStep c index s ((c.declareField name annot markers).addScope [name])
  | dunders {s : Stmt} (hs : bindsDunders s = true) : ReadStep c index s c
  | stores {s : Stmt} {markers : List Marker}
    (hs : ∀ target ∈ s.singleTarget?, ∃ value,
      target.value = some value ∧ Declaration.ofExpr? value = none)
    (hd : bindsDunders s = false)
    (hm : Annot.markersOf (s.singleTarget?.bind (·.annot)) = .ok markers) :
    ReadStep c index s (c.afterStores index s markers)
  | property {s : Stmt} {name : String} {annot : Option Expr} {value : Expr}
    {markers : List Marker} (hs : s.singleTarget? = some ⟨name, annot, some value⟩)
    (hv : Declaration.ofExpr? value = some .property)
    (hm : Annot.markersOf annot = .ok markers) :
    ReadStep c index s ((c.addProperty name annot markers).addStatement index s)
  | event {s : Stmt} {name : String} {annot : Option Expr} {value : Expr}
    {markers : List Marker} (hs : s.singleTarget? = some ⟨name, annot, some value⟩)
    (hv : Declaration.ofExpr? value = some .event)
    (hm : Annot.markersOf annot = .ok markers) :
    ReadStep c index s ((c.addEvent name annot markers).addStatement index s)

theorem bind_eq_ok {ε α β : Type} {x : Except ε α} {f : α → Except ε β} {b : β} :
    x >>= f = .ok b ↔ ∃ a, x = .ok a ∧ f a = .ok b := by
  cases x <;> simp [bind, Except.bind]

theorem readStores_step {c c' : ClassModel} {index : Nat} {s : Stmt}
    (hs : ∀ target ∈ s.singleTarget?, ∃ value,
      target.value = some value ∧ Declaration.ofExpr? value = none)
    (h : c.readStores index s = .ok c') : ReadStep c index s c' := by
  rw [readStores_eq] at h
  split_ifs at h with hd
  · cases h
    exact .dunders hd
  · obtain ⟨markers, hm, he⟩ := bind_eq_ok.1 h
    cases he
    exact .stores hs (by simpa using hd) hm

theorem readDeclared_step {c c' : ClassModel} {index : Nat} {s : Stmt} {name : String}
    {annot : Option Expr} (hs : s.singleTarget? = some ⟨name, annot, none⟩)
    (h : c.readDeclared name annot = .ok c') : ReadStep c index s c' := by
  obtain ⟨isVar, hvar, h⟩ := bind_eq_ok.1 h
  split_ifs at h with hcond
  · simp only [Bool.and_eq_true, Bool.not_eq_true'] at hcond
    obtain ⟨markers, hm, he⟩ := bind_eq_ok.1 h
    cases he
    rw [hcond.1] at hvar
    exact .declare hs hcond.2 hvar hm
  · cases h
    exact .annotated hs

theorem readState_step {c c' : ClassModel} {index : Nat} {s : Stmt}
    (h : c.readState index s = .ok c') : ReadStep c index s c' := by
  unfold readState at h
  split at h
  next hs => exact readStores_step (by simp [hs]) h
  next name annot hs => exact readDeclared_step hs h
  next name annot value hs =>
    split at h
    next hv => exact readStores_step (by simp [hs, hv]) h
    next hv =>
      obtain ⟨markers, hm, he⟩ := bind_eq_ok.1 h
      cases he
      exact .property hs hv hm
    next hv =>
      obtain ⟨markers, hm, he⟩ := bind_eq_ok.1 h
      cases he
      exact .event hs hv hm

theorem readOther_step {c c' : ClassModel} {index : Nat} {s : Stmt}
    (h : c.readOther index s = .ok c') : ReadStep c index s c' := by
  unfold readOther at h
  split at h
  next => cases h; exact .function _ _
  next => cases h; exact .imports _ _
  next =>
    split_ifs at h with hidle
    · cases h
      exact .idle (by simpa using hidle)
    · exact readState_step h

end ClassModel

namespace ClassTree

variable {t t' : ClassTree} {enums enums' : List String} {index : Nat} {s : Stmt} {body : Block}

theorem readStmt_other (t : ClassTree) (enums : List String) (index : Nat)
    (hs : s.isClass = false) :
    readStmt t enums index s =
      (t.cls.readOther index s >>= fun c => .ok (⟨c, t.nested⟩, enums)) := by
  -- trees are recursive, so a tree is its parts only once it is taken apart
  obtain ⟨cls, nested⟩ := t
  cases s with
  | classDef h body => cases hs
  | functionDef h body => rfl
  | imports source names => rfl
  | _ =>
    simp only [readStmt, ClassModel.readOther]
    split <;> rfl

theorem readStmt_class (t : ClassTree) (enums : List String) (index : Nat) (h : ClassHeader)
    (body : Block) :
    readStmt t enums index (.classDef h body) =
      (read (t.cls.place ++ [t.nested.length]) t.cls.path enums h body >>= fun p =>
        .ok (t.addNested p.1, p.2)) := by
  rw [readStmt, read]
  rfl

theorem readBody_cons (t : ClassTree) (enums : List String) (index : Nat) (s : Stmt)
    (rest : Block) :
    readBody t enums index (s :: rest) =
      (readStmt t enums index s >>= fun p => readBody p.1 p.2 (index + 1) rest) := by
  rw [readBody]

theorem readBody_append (t : ClassTree) (enums : List String) (index : Nat) (b d : Block) :
    readBody t enums index (b ++ d) =
      (readBody t enums index b >>= fun p => readBody p.1 p.2 (index + b.length) d) := by
  induction b generalizing t enums index with
  | nil => rfl
  | cons s b ih =>
    rw [List.cons_append, readBody_cons, readBody_cons]
    cases readStmt t enums index s with
    | error fault => rfl
    | ok p =>
      simp only [bind, Except.bind] at ih ⊢
      rw [ih, List.length_cons, Nat.add_assoc, Nat.add_comm 1]

end ClassTree

end StateWeave
