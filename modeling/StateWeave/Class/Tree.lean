import StateWeave.Class.Basic

/-! The classes of a module with their nesting. -/

namespace StateWeave

structure ClassTree where
  cls : ClassModel
  nested : List ClassTree
deriving Inhabited

namespace ClassTree

mutual

/-- The class followed by everything nested in it, in declaration order. -/
def preorder : ClassTree → List ClassModel
  | ⟨cls, nested⟩ => cls :: preorderForest nested

def preorderForest : List ClassTree → List ClassModel
  | [] => []
  | t :: ts => t.preorder ++ preorderForest ts

end

mutual

def count : ClassTree → Nat
  | ⟨_, nested⟩ => countForest nested + 1

def countForest : List ClassTree → Nat
  | [] => 0
  | t :: ts => t.count + countForest ts

end

theorem countForest_append (ts us : List ClassTree) :
    countForest (ts ++ us) = countForest ts + countForest us := by
  induction ts with
  | nil => simp [countForest]
  | cons t ts ih => simp [countForest, ih, Nat.add_assoc]

theorem countForest_reverse (ts : List ClassTree) : countForest ts.reverse = countForest ts := by
  induction ts with
  | nil => rfl
  | cons t ts ih =>
    simp only [List.reverse_cons, countForest_append, countForest, ih]
    omega

/-- One turn of a walk over a stack of trees, of which the last one is on top: it is taken off, and
its nested classes are put on in reverse, so that the first of them is next. -/
def turn? (stack : List ClassTree) : Option (ClassModel × List ClassTree) :=
  stack.getLast?.map fun t => (t.cls, stack.dropLast ++ t.nested.reverse)

theorem turn?_append (stack : List ClassTree) (t : ClassTree) :
    turn? (stack ++ [t]) = some (t.cls, stack ++ t.nested.reverse) := by
  simp [turn?]

theorem countForest_of_turn? {stack rest : List ClassTree} {c : ClassModel}
    (taken : turn? stack = some (c, rest)) : countForest stack = countForest rest + 1 := by
  rcases List.eq_nil_or_concat stack with rfl | ⟨below, ⟨cls, nested⟩, rfl⟩
  · cases taken
  · rw [List.concat_eq_append, turn?_append] at taken
    cases taken
    simp only [List.concat_eq_append, countForest_append, countForest_reverse, countForest, count]
    omega

def walk (stack : List ClassTree) : List ClassModel :=
  match _taken : turn? stack with
  | none => []
  | some (c, rest) => c :: walk rest
termination_by countForest stack
decreasing_by
  have := countForest_of_turn? _taken
  omega

end ClassTree

/-- A module and the classes read from it. -/
structure ModuleModel where
  name : String
  classes : List ClassTree
deriving Inhabited

def ModuleModel.allClasses (m : ModuleModel) : List ClassModel :=
  ClassTree.walk m.classes.reverse

end StateWeave
