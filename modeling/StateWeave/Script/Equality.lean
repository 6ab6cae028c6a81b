import StateWeave.Script.Calling

/-! Equality of values. What is one object is equal. Otherwise one of the two is asked, and then the
other one if the first has no answer: data answers by its contents, an instance by the code that its
class has for this. -/

namespace StateWeave

/-- What data is compared by. -/
inductive Content
  | whole (n : Int)
  | float (n : Numeric)
  | text (s : String)
  /-- A list that can grow, or an empty one. -/
  | list (id : Option Nat)
  | dict
  | bytes
  | tuple (items : List Value)
  | listOf (item : Value)
  | bound (receiver : Value) (handler : Nat)

namespace Content

def empty? (c : Nat) : Option Content :=
  if c = Builtin.int then some (.whole 0)
  else if c = Builtin.str then some (.text "")
  else if c = Builtin.float then some (.float (.whole 0))
  else if c = Builtin.list then some (.list none)
  else if c = Builtin.dict then some .dict
  else if c = Builtin.bytes then some .bytes
  else none

end Content

namespace Value

def isSameObject : Value → Value → Bool
  | .null, .null => true
  | .list i, .list j => i == j
  | .ref r, .ref s => r == s
  | .subscription s, .subscription t => s == t
  | _, _ => false

end Value

namespace Hierarchy

variable (h : Hierarchy)

def content? : Value → Option Content
  | .bool b => some (.whole (if b then 1 else 0))
  | .int n => some (.whole n)
  | .float s => (Value.float s).numeric?.map .float
  | .text s => some (.text s)
  | .list i => some (.list (some i))
  | .tuple vs => some (.tuple vs)
  | .listOf item _ => some (.listOf item)
  | .bound receiver f => some (.bound receiver f)
  | .ref (.object i) => (h.classAt (h.instanceAt i).cls).order.findSome? Content.empty?
  | .null | .ref _ | .subscription _ => none

def classOf? : Value → Option Nat
  | .bool _ => some Builtin.bool
  | .int _ => some Builtin.int
  | .float _ => some Builtin.float
  | .text _ => some Builtin.str
  | .list _ => some Builtin.list
  | .ref (.object i) => some (h.instanceAt i).cls
  | _ => none

/-- Values of a class are asked before those of its ancestors. -/
def isAskedFirst (v other : Value) : Bool :=
  match h.classOf? v, h.classOf? other with
  | some c, some d => c != d && h.isSubclass c d
  | _, _ => false

/-- What answers for an instance to a name: the attribute of the first class that has it, unless one
of the given classes of the language comes before. -/
def answering? (i : Nat) (attr : String) (natives : List Nat) : Option (Value ⊕ Nat) :=
  (h.classAt (h.instanceAt i).cls).order.findSome? fun c =>
    match h.own? c attr with
    | some v => some (.inl v)
    | none => if natives.contains c then some (.inr c) else none

end Hierarchy

namespace World

variable (run : Runner) (running : Option Value)

/-- A list has room for fewer items. -/
def capacity : Nat := Nat.pow 2 60

def outOfMemory : Failure := .raised "MemoryError" ""

def callMember (i : Nat) (attr : String) (held : Value) (args : List Value) : Run Value := do
  match (← hierarchy).memberOf i attr held with
  | .ok (f, first) => callValue run running f (first ++ args) []
  | .error fault => throw (.attribute fault)

def isTrue (v : Value) : Run Bool := do
  match v with
  | .ref (.object i) =>
    let h ← hierarchy
    match h.answering? i "__bool__" [Builtin.int, Builtin.float] with
    | some (.inr _) => return false
    | some (.inl held) =>
      match ← callMember run running i "__bool__" held [] with
      | .bool b => return b
      | v => throw (.operation (.noTruth (← kindOf v)))
    | none =>
      match h.answering? i "__len__" [Builtin.str, Builtin.list, Builtin.dict, Builtin.bytes] with
      | none => return true
      | some (.inr _) => return false
      | some (.inl held) =>
        let length ← callMember run running i "__len__" held []
        match (← hierarchy).content? length with
        | some (.whole n) =>
          if n < 0 then throw (.raised "ValueError" "__len__() should return >= 0")
          return n != 0
        | _ => throw (.operation (.notInteger (← kindOf length)))
  | v => isTruthy v

section

variable (compare : Value → Value → Run Bool)

/-- Compares two lists item by item from `i` on. They are looked up every time, since comparing may
change them. -/
def sameItems (xs ys : Run (List Value)) : Nat → Nat → Run Bool
  | 0, _ => throw outOfMemory
  | n + 1, i => do
    match (← xs)[i]?, (← ys)[i]? with
    | some x, some y =>
      if ← compare x y then sameItems xs ys n (i + 1)
      else return false
    | _, _ => return (← xs).length == (← ys).length

def itemsUnder (id : Option Nat) : Run (List Value) := do
  return (id.bind ((← get).rest.lists[·]?)).getD []

def sameContent? : Content → Content → Option (Run Bool)
  | .whole m, .whole n => some (return m == n)
  | .float x, .float y => some (return x.same y)
  | .float x, .whole n => some (return x.same (.whole n))
  | .text s, .text t => some (return s == t)
  | .list i, .list j => some do
    if (← itemsUnder i).length == (← itemsUnder j).length then
      sameItems compare (itemsUnder i) (itemsUnder j) capacity 0
    else return false
  | .dict, .dict | .bytes, .bytes => some (return true)
  | .tuple xs, .tuple ys => some (sameItems compare (return xs) (return ys) capacity 0)
  | .listOf x, .listOf y => some (compare x y)
  | .bound x f, .bound y g => some (return f == g && x.isSameObject y)
  | _, _ => none

def answerByContent (v other : Value) : Run (Option Bool) := do
  let h ← hierarchy
  match h.content? v, h.content? other with
  | some c, some d => (sameContent? compare c d).elim (return none) (some <$> ·)
  | _, _ => return none

def answerAbout (v other : Value) : Run (Option Bool) := do
  match v with
  | .ref (.object i) =>
    let h ← hierarchy
    match h.answering? i "__eq__" Builtin.data with
    | some (.inr _) => answerByContent compare v other
    | none | some (.inl (.ref (.member _))) => return none
    | some (.inl held) =>
      match h.memberOf i "__eq__" held with
      | .error _ => return none
      | .ok (f, first) =>
        let answer ← callValue run running f (first ++ [other]) []
        some <$> isTrue run running answer
  | _ => answerByContent compare v other

end

/-- Whether two values are equal, down to this depth of values in values. -/
def equalWithin : Nat → Value → Value → Run Bool
  | 0, _, _ => throw (.raised "RecursionError" "maximum recursion depth exceeded in comparison")
  | n + 1, v, w => do
    if v.isSameObject w then return true
    let ask := answerAbout run running (equalWithin n)
    let isReversed := (← hierarchy).isAskedFirst w v
    match ← if isReversed then ask w v else ask v w with
    | some answer => return answer
    | none => return (← if isReversed then ask v w else ask w v).getD false

def equal (v w : Value) : Run Bool :=
  equalWithin run running Objects.depth v w

end World

end StateWeave
