import StateWeave.Object.Value

/-! Equality of type arguments: two values are equal when they compare as the same value, unless there
is something in them that equals nothing. -/

namespace StateWeave.Value

mutual

/-- A value as it is compared: a number by its value, a list type by its item. -/
def compared : Value → Value
  | .bool b => .int (if b then 1 else 0)
  | .float s => (Decimal.integer? s).elim (.float s) .int
  | .tuple xs => .tuple (comparedAll xs)
  | .listOf x _ => .listOf (compared x) []
  | .bound x i => .bound (compared x) i
  | v => v

def comparedAll : List Value → List Value
  | [] => []
  | x :: xs => compared x :: comparedAll xs

end

mutual

/-- What is no number in a place for one equals nothing. -/
def equalsItself : Value → Bool
  | .float s => (Decimal.integer? s).isSome || s != "nan"
  | .tuple xs => allEqualThemselves xs
  | .listOf x _ => equalsItself x
  | .bound x _ => equalsItself x
  | _ => true

def allEqualThemselves : List Value → Bool
  | [] => true
  | x :: xs => equalsItself x && allEqualThemselves xs

end

mutual

theorem same_iff (x y : Value) :
    same x y = true ↔ compared x = compared y ∧ equalsItself x = true := by
  cases x with
  | tuple xs =>
    cases y with
    | tuple ys => simpa [same, compared, equalsItself] using sameAll_iff xs ys
    | float s => cases h : Decimal.integer? s <;> simp [same, compared, numeric?, h]
    | _ => simp [same, compared, numeric?]
  | listOf x _ =>
    cases y with
    | listOf y _ => simpa [same, compared, equalsItself] using same_iff x y
    | float s => cases h : Decimal.integer? s <;> simp [same, compared, numeric?, h]
    | _ => simp [same, compared, numeric?]
  | bound x i =>
    cases y with
    | bound y j =>
      have := same_iff x y
      simp [same, compared, equalsItself]
      grind
    | float s => cases h : Decimal.integer? s <;> simp [same, compared, numeric?, h]
    | _ => simp [same, compared, numeric?]
  | float s =>
    cases hs : Decimal.integer? s <;> cases y with
    | float t =>
      cases ht : Decimal.integer? t <;>
        simp [same, compared, numeric?, equalsItself, Numeric.same, hs, ht]
    | _ => simp [same, compared, numeric?, equalsItself, Numeric.same, hs]
  | _ =>
    cases y with
    | float s =>
      cases h : Decimal.integer? s <;>
        simp [same, compared, numeric?, equalsItself, Numeric.same, h]
    | _ => simp [same, compared, numeric?, equalsItself, Numeric.same]

theorem sameAll_iff (xs ys : List Value) :
    sameAll xs ys = true ↔ comparedAll xs = comparedAll ys ∧ allEqualThemselves xs = true := by
  cases xs with
  | nil => cases ys <;> simp [sameAll, comparedAll, allEqualThemselves]
  | cons x xs =>
    cases ys with
    | nil => simp [sameAll, comparedAll]
    | cons y ys =>
      have head := same_iff x y
      have tail := sameAll_iff xs ys
      simp [sameAll, comparedAll, allEqualThemselves]
      grind
end

/-- What equals the same arguments is equal. -/
theorem sameAll_of_sameAll {xs ys zs : List Value} (left : sameAll xs zs = true)
    (right : sameAll ys zs = true) : sameAll xs ys = true := by
  rw [sameAll_iff] at left right ⊢
  exact ⟨left.1.trans right.1.symm, left.2⟩

end StateWeave.Value
