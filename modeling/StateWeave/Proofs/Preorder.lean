import Mathlib.Data.List.Basic
import StateWeave.Proofs.Hooks

/-! Walking through classes with a stack of trees. After any number of turns the stack holds, in
reverse, what is left of the preorder, so the walk ends as soon as there was a turn for every class.
The preorder itself is the order of places: each class comes once, before those nested in it, and
these come before the next class beside it. -/

namespace StateWeave

namespace ClassTree

/-- What is visited in this many turns, and the stack after them. -/
def turns : Nat → List ClassTree → List ClassModel × List ClassTree
  | 0, stack => ([], stack)
  | n + 1, stack =>
    match turn? stack with
    | none => ([], stack)
    | some (c, rest) => (c :: (turns n rest).1, (turns n rest).2)

/-- A turn takes the class that is next in preorder, and leaves the preorder of the others. -/
theorem turn?_reverse (forest : List ClassTree) :
    (turn? forest.reverse = none ∧ preorderForest forest = []) ∨
      ∃ c rest, turn? forest.reverse = some (c, rest.reverse) ∧
        preorderForest forest = c :: preorderForest rest := by
  cases forest with
  | nil => exact .inl ⟨rfl, rfl⟩
  | cons t ts =>
    obtain ⟨c, nested⟩ := t
    refine .inr ⟨c, nested ++ ts, ?_, ?_⟩
    · rw [List.reverse_cons, turn?_append, List.reverse_append]
    · simp [preorderForest, preorder, preorderForest_append]

theorem turns_reverse (n : Nat) (forest : List ClassTree) :
    ∃ rest, turns n forest.reverse = ((preorderForest forest).take n, rest.reverse) ∧
      preorderForest rest = (preorderForest forest).drop n := by
  induction n generalizing forest with
  | zero => exact ⟨forest, rfl, rfl⟩
  | succ n ih =>
    rcases turn?_reverse forest with ⟨taken, done⟩ | ⟨c, rest, taken, next⟩
    · exact ⟨forest, by simp [turns, taken, done], by simp [done]⟩
    · obtain ⟨last, went, left⟩ := ih rest
      exact ⟨last, by simp [turns, taken, next, went], by simp [next, left]⟩

theorem preorderForest_eq_nil {forest : List ClassTree} :
    preorderForest forest = [] ↔ forest = [] := by
  cases forest with
  | nil => simp [preorderForest]
  | cons t ts => cases t; simp [preorderForest, preorder]

mutual

/-- The places in a tree with this number: its own, and those of the nested classes below it. -/
def places (i : Nat) : ClassTree → List (List Nat)
  | ⟨_, nested⟩ => [i] :: (placesForest 0 nested).map (i :: ·)

/-- The places in trees that are numbered from here on. -/
def placesForest (i : Nat) : List ClassTree → List (List Nat)
  | [] => []
  | t :: ts => places i t ++ placesForest (i + 1) ts

end

/-- The class at a place: its number among those beside it, below the numbers of the classes around
it. -/
def classAt? : List ClassTree → List Nat → Option ClassModel
  | _, [] => none
  | ts, [i] => ts[i]?.map (·.cls)
  | ts, i :: j :: place => ts[i]?.bind fun t => classAt? t.nested (j :: place)

theorem classAt?_cons (ts : List ClassTree) (i : Nat) {place : List Nat} (h : place ≠ []) :
    classAt? ts (i :: place) = ts[i]?.bind fun t => classAt? t.nested place := by
  cases place with
  | nil => exact absurd rfl h
  | cons j place => rfl

theorem mem_places {i : Nat} {t : ClassTree} {place : List Nat} :
    place ∈ places i t ↔
      place = [i] ∨ ∃ below ∈ placesForest 0 t.nested, place = i :: below := by
  cases t with
  | mk c nested => simp [places, eq_comm]

theorem mem_placesForest {i : Nat} {ts : List ClassTree} {place : List Nat} :
    place ∈ placesForest i ts ↔ ∃ j t, ts[j]? = some t ∧ place ∈ places (i + j) t := by
  induction ts generalizing i with
  | nil => simp [placesForest]
  | cons t ts ih =>
    rw [placesForest, List.mem_append, ih]
    constructor
    · rintro (here | ⟨j, u, found, there⟩)
      · exact ⟨0, t, rfl, here⟩
      · exact ⟨j + 1, u, found, by rwa [Nat.add_right_comm] at there⟩
    · rintro ⟨j, u, found, mem⟩
      cases j with
      | zero =>
        cases found
        exact .inl mem
      | succ j => exact .inr ⟨j, u, found, by rwa [Nat.add_right_comm]⟩

/-- A place among trees that are numbered from `i` on opens with such a number. -/
theorem exists_cons_of_mem_placesForest {i : Nat} {ts : List ClassTree} {place : List Nat}
    (mem : place ∈ placesForest i ts) : ∃ j below, place = j :: below ∧ i ≤ j := by
  obtain ⟨j, t, -, mem⟩ := mem_placesForest.1 mem
  rcases mem_places.1 mem with rfl | ⟨below, -, rfl⟩
  · exact ⟨_, _, rfl, Nat.le_add_right i j⟩
  · exact ⟨_, _, rfl, Nat.le_add_right i j⟩

/-- The places of a forest are those that hold a class. -/
theorem mem_placesForest_iff (ts : List ClassTree) (place : List Nat) :
    place ∈ placesForest 0 ts ↔ (classAt? ts place).isSome := by
  induction place generalizing ts with
  | nil =>
    refine iff_of_false (fun mem => ?_) (by simp [classAt?])
    obtain ⟨_, _, same, -⟩ := exists_cons_of_mem_placesForest mem
    cases same
  | cons i place ih =>
    have opens : i :: place ∈ placesForest 0 ts ↔
        ∃ t, ts[i]? = some t ∧ (place = [] ∨ place ∈ placesForest 0 t.nested) := by
      rw [mem_placesForest]
      constructor
      · rintro ⟨j, t, found, mem⟩
        rcases mem_places.1 mem with same | ⟨below, inside, same⟩
        · cases same
          exact ⟨t, by simpa using found, .inl rfl⟩
        · cases same
          exact ⟨t, by simpa using found, .inr inside⟩
      · rintro ⟨t, found, rfl | inside⟩
        · exact ⟨i, t, found, mem_places.2 (.inl (by rw [Nat.zero_add]))⟩
        · exact ⟨i, t, found, mem_places.2 (.inr ⟨place, inside, by rw [Nat.zero_add]⟩)⟩
    rw [opens]
    by_cases h : place = []
    · subst h
      simp [classAt?, Option.isSome_iff_exists]
    · rw [classAt?_cons ts i h]
      cases ts[i]? with
      | none => simp
      | some t => simp [h, ih]

mutual

/-- Going through the places of a tree is going through its classes in preorder. -/
theorem map_classAt?_places {ts : List ClassTree} {i : Nat} (t : ClassTree)
    (found : ts[i]? = some t) : (places i t).map (classAt? ts) = t.preorder.map some := by
  cases t with
  | mk c nested =>
    have below : (placesForest 0 nested).map (fun place => classAt? ts (i :: place)) =
        (placesForest 0 nested).map (classAt? nested) := by
      refine List.map_congr_left fun place mem => ?_
      obtain ⟨j, rest, rfl, -⟩ := exists_cons_of_mem_placesForest mem
      simp [classAt?_cons, found]
    rw [places, preorder, List.map_cons, List.map_cons, List.map_map]
    congr 1
    · simp [classAt?, found]
    · exact below.trans (map_classAt?_placesForest [] nested)

theorem map_classAt?_placesForest (front ts : List ClassTree) :
    (placesForest front.length ts).map (classAt? (front ++ ts)) =
      (preorderForest ts).map some := by
  cases ts with
  | nil => rfl
  | cons t ts =>
    have later := map_classAt?_placesForest (front ++ [t]) ts
    rw [List.length_append, List.append_assoc] at later
    rw [placesForest, preorderForest, List.map_append, List.map_append,
      map_classAt?_places t (by simp)]
    exact congrArg _ later

end

mutual

/-- Places are gone through in the order of their numbers, shorter ones before those below them. -/
theorem pairwise_places (i : Nat) (t : ClassTree) : (places i t).Pairwise (· < ·) := by
  cases t with
  | mk c nested =>
    rw [places, List.pairwise_cons]
    constructor
    · intro place mem
      obtain ⟨below, inside, rfl⟩ := List.mem_map.1 mem
      obtain ⟨j, rest, rfl, -⟩ := exists_cons_of_mem_placesForest inside
      simp
    · refine List.pairwise_map.2 ((pairwise_placesForest 0 nested).imp fun less => ?_)
      exact List.cons_lt_cons_iff.2 (.inr ⟨rfl, less⟩)

theorem pairwise_placesForest (i : Nat) (ts : List ClassTree) :
    (placesForest i ts).Pairwise (· < ·) := by
  cases ts with
  | nil => exact .nil
  | cons t ts =>
    rw [placesForest, List.pairwise_append]
    refine ⟨pairwise_places i t, pairwise_placesForest (i + 1) ts, fun place here other there => ?_⟩
    obtain ⟨j, rest, rfl, later⟩ := exists_cons_of_mem_placesForest there
    rcases mem_places.1 here with rfl | ⟨below, -, rfl⟩
    · exact List.cons_lt_cons_iff.2 (.inl (by omega))
    · exact List.cons_lt_cons_iff.2 (.inl (by omega))

end

end ClassTree

/-- The walk through the classes of a module ends after one turn for each class. It goes through them
in preorder: place by place, each place that holds a class once, a class before those nested in it,
and these before the next class beside it. -/
theorem ModuleModel.allClasses_by_place (m : ModuleModel) :
    (∀ n, (ClassTree.turns n m.classes.reverse).1 = m.allClasses.take n ∧
      ((ClassTree.turns n m.classes.reverse).2 = [] ↔ m.allClasses.length ≤ n)) ∧
    m.allClasses = ClassTree.preorderForest m.classes ∧
    m.allClasses.map some =
      (ClassTree.placesForest 0 m.classes).map (ClassTree.classAt? m.classes) ∧
    (ClassTree.placesForest 0 m.classes).Pairwise (· < ·) ∧
    ∀ place, place ∈ ClassTree.placesForest 0 m.classes ↔
      (ClassTree.classAt? m.classes place).isSome := by
  rw [allClasses_eq]
  refine ⟨fun n => ?_, rfl, (ClassTree.map_classAt?_placesForest [] m.classes).symm,
    ClassTree.pairwise_placesForest 0 m.classes, ClassTree.mem_placesForest_iff m.classes⟩
  obtain ⟨rest, went, left⟩ := ClassTree.turns_reverse n m.classes
  rw [went]
  refine ⟨rfl, ?_⟩
  rw [List.reverse_eq_nil_iff, ← ClassTree.preorderForest_eq_nil, left, List.drop_eq_nil_iff]

end StateWeave
