import StateWeave.Proofs.Conduct
import StateWeave.Script.Run

/-! Looking for a subscription that equals a value. The subscriptions are compared one by one, each when
its turn comes; comparing may run the code of what is compared, which may change what is still to
come. -/

namespace StateWeave

/-- Something that was done, and what came of it. -/
structure Deed (β : Type) (α : Type := Unit) where
  what : β
  before : World
  result : Except Failure α
  after : World

namespace Deed

variable {α β : Type} {act : β → Run Unit} {items : List β} {deeds : List (Deed β)} {w v w' : World}

def Done (act : β → Run α) (d : Deed β α) : Prop :=
  act d.what d.before = (d.result, d.after)

/-- One thing was done after the other, from `w` to `w'`. -/
def Linked : World → List (Deed β α) → World → Prop
  | w, [], w' => w = w'
  | w, d :: deeds, w' => d.before = w ∧ Linked d.after deeds w'

theorem Linked.append {earlier later : List (Deed β α)} (first : Linked w earlier v)
    (second : Linked v later w') : Linked w (earlier ++ later) w' := by
  induction earlier generalizing w with
  | nil =>
    cases first
    exact second
  | cons d earlier ih => exact ⟨first.1, ih first.2⟩

/-- The items were gone through in order, up to and including the first one that failed. -/
def Settle (items : List β) (deeds : List (Deed β)) : Except Failure Unit → Prop
  | .ok () => deeds.map (·.what) = items ∧ ∀ d ∈ deeds, d.result = .ok ()
  | .error e => ∃ earlier last rest,
      deeds = earlier ++ [last] ∧ items = earlier.map (·.what) ++ last.what :: rest ∧
      (∀ d ∈ earlier, d.result = .ok ()) ∧ last.result = .error e

theorem Settle.cons {d : Deed β} {result : Except Failure Unit} (returned : d.result = .ok ())
    (settle : Settle items deeds result) : Settle (d.what :: items) (d :: deeds) result := by
  rcases result with e | ⟨⟩
  · obtain ⟨earlier, last, rest, rfl, rfl, before, failed⟩ := settle
    refine ⟨d :: earlier, last, rest, rfl, rfl, ?_, failed⟩
    exact List.forall_mem_cons.2 ⟨returned, before⟩
  · obtain ⟨rfl, before⟩ := settle
    exact ⟨rfl, List.forall_mem_cons.2 ⟨returned, before⟩⟩

/-- Going through items one by one leaves a record of what was done. -/
theorem exists_forM (act : β → Run Unit) (items : List β) (w : World) :
    ∃ deeds, Linked w deeds (items.forM act w).2 ∧ (∀ d ∈ deeds, d.Done act) ∧
      Settle items deeds (items.forM act w).1 := by
  induction items generalizing w with
  | nil => exact ⟨[], rfl, List.forall_mem_nil _, rfl, List.forall_mem_nil _⟩
  | cons item items ih =>
    rw [List.forM, Act.bind_apply]
    rcases now : act item w with ⟨e | ⟨⟩, v⟩ <;> dsimp only
    · -- the record ends with what failed, whatever was still to come
      exact ⟨[⟨item, w, .error e, v⟩], ⟨rfl, rfl⟩, List.forall_mem_singleton.2 now,
        [], ⟨item, w, .error e, v⟩, items, rfl, rfl, List.forall_mem_nil _, rfl⟩
    · obtain ⟨deeds, linked, done, settle⟩ := ih v
      exact ⟨⟨item, w, .ok (), v⟩ :: deeds, ⟨rfl, linked⟩, List.forall_mem_cons.2 ⟨now, done⟩,
        settle.cons rfl⟩

/-- What every single deed adds up to is what all of them come to in order. -/
theorem Linked.foldl {γ δ ε : Type} {xs : List ε} {record : ε → Deed β α} {view : World → γ}
    {step : γ → δ → γ} (changes : ε → List δ) (linked : Linked w (xs.map record) w')
    (each : ∀ x ∈ xs, view (record x).after = (changes x).foldl step (view (record x).before)) :
    view w' = (xs.flatMap changes).foldl step (view w) := by
  induction xs generalizing w with
  | nil =>
    cases linked
    rfl
  | cons x xs ih =>
    obtain ⟨rfl, linked⟩ := linked
    obtain ⟨first, later⟩ := List.forall_mem_cons.1 each
    rw [ih linked later, first, List.flatMap_cons, List.foldl_append]

end Deed

open Deed (Linked)

namespace Hierarchy

/-- A value that has no contents and no code for comparing: it only equals itself. -/
def ComparesByIdentity (h : Hierarchy) : Value → Prop
  | .ref (.object i) =>
    ∀ held, h.answering? i "__eq__" Builtin.data = some held → ∃ name, held = .inl (.ref (.member name))
  | .null | .ref _ | .subscription _ => True
  | _ => False

end Hierarchy

namespace World

variable (run : Runner) (running : Option Value) (e : Nat)

def subscribed (w : World) : List Value :=
  ((w.rest.events[e]?).getD default).handlers

/-- How far a search came, and why it ended: at a subscription that is equal, behind the last one, at a
comparison that failed, or where no list has room for more. -/
def Ends (start room : Nat) (made : List (Deed Value Bool)) (w' : World) :
    Except Failure (Option Nat) → Prop
  | .ok (some i) => ∃ earlier last, made = earlier ++ [last] ∧ i = start + earlier.length ∧
      (∀ c ∈ earlier, c.result = .ok false) ∧ last.result = .ok true
  | .ok none => (subscribed e w')[start + made.length]? = none ∧ ∀ c ∈ made, c.result = .ok false
  | .error f =>
    (∃ earlier last, made = earlier ++ [last] ∧ (∀ c ∈ earlier, c.result = .ok false) ∧
      last.result = .error f) ∨
    f = outOfMemory ∧ made.length = room ∧ ∀ c ∈ made, c.result = .ok false

/-- How the subscriptions were searched for one that equals `v`, from the place `start` on: which
comparisons were made, each of what was subscribed at the next place by then. -/
structure Search (v : Value) (start room : Nat) (w : World) (made : List (Deed Value Bool))
    (outcome : Except Failure (Option Nat)) (w' : World) : Prop where
  linked : Linked w made w'
  done : ∀ c ∈ made, c.Done fun x => equal run running x v
  turns : ∀ (j : Nat) (c : Deed Value Bool), made[j]? = some c →
    (subscribed e c.before)[start + j]? = some c.what
  ends : Ends e start room made w' outcome

variable {run running e} {v x : Value} {start room n i : Nat} {w w' : World}
  {made : List (Deed Value Bool)} {outcome : Except Failure (Option Nat)}

/-- A comparison that answers no puts the search off to the next place. -/
theorem Ends.cons {c : Deed Value Bool} (other : c.result = .ok false)
    (ends : Ends e (start + 1) room made w' outcome) :
    Ends e start (room + 1) (c :: made) w' outcome := by
  rcases outcome with f | _ | i
  · rcases ends with ⟨earlier, last, rfl, before, failed⟩ | ⟨rfl, rfl, before⟩
    · exact .inl ⟨c :: earlier, last, rfl, List.forall_mem_cons.2 ⟨other, before⟩, failed⟩
    · exact .inr ⟨rfl, rfl, List.forall_mem_cons.2 ⟨other, before⟩⟩
  · obtain ⟨past, before⟩ := ends
    refine ⟨?_, List.forall_mem_cons.2 ⟨other, before⟩⟩
    rw [List.length_cons, ← past]
    congr 1
    omega
  · obtain ⟨earlier, last, rfl, rfl, before, same⟩ := ends
    refine ⟨c :: earlier, last, rfl, ?_, List.forall_mem_cons.2 ⟨other, before⟩, same⟩
    rw [List.length_cons]
    omega

theorem Search.cons {u : World} (turn : (subscribed e w)[start]? = some x)
    (other : equal run running x v w = (.ok false, u))
    (search : Search run running e v (start + 1) room u made outcome w') :
    Search run running e v start (room + 1) w (⟨x, w, .ok false, u⟩ :: made) outcome w' where
  linked := ⟨rfl, search.linked⟩
  done := List.forall_mem_cons.2 ⟨other, search.done⟩
  turns j c found := by
    cases j with
    | zero =>
      cases found
      exact turn
    | succ j =>
      rw [← search.turns j c found]
      congr 1
      omega
  ends := search.ends.cons rfl

/-- A search that ends before it compares anything. -/
theorem Search.nil (ends : Ends e start room [] w outcome) :
    Search run running e v start room w [] outcome w where
  linked := rfl
  done := List.forall_mem_nil _
  turns _ _ found := by cases found
  ends := ends

/-- A comparison that ends the search. -/
theorem Search.last {u : World} {answer : Except Failure Bool}
    (turn : (subscribed e w)[start]? = some x) (compared : equal run running x v w = (answer, u))
    (ends : Ends e start room [⟨x, w, answer, u⟩] u outcome) :
    Search run running e v start room w [⟨x, w, answer, u⟩] outcome u where
  linked := ⟨rfl, rfl⟩
  done := List.forall_mem_singleton.2 compared
  turns j c found := by
    cases j with
    | zero =>
      cases found
      exact turn
    | succ j => cases found
  ends := ends

theorem eventAt_apply (w : World) : eventAt e w = (.ok ((w.rest.events[e]?).getD default), w) := rfl

theorem findHandler_past (past : (subscribed e w)[i]? = none) :
    findHandler run running e v (n + 1) i w = (.ok none, w) := by
  rw [subscribed] at past
  rw [findHandler, Act.bind_apply, eventAt_apply]
  dsimp only
  rw [past]
  rfl

theorem findHandler_turn (turn : (subscribed e w)[i]? = some x) :
    findHandler run running e v (n + 1) i w =
      match equal run running x v w with
      | (.ok true, u) => (.ok (some i), u)
      | (.ok false, u) => findHandler run running e v n (i + 1) u
      | (.error f, u) => (.error f, u) := by
  rw [subscribed] at turn
  rw [findHandler, Act.bind_apply, eventAt_apply]
  dsimp only
  rw [turn]
  dsimp only
  rw [Act.bind_apply]
  rcases equal run running x v w with ⟨_ | _ | _, u⟩ <;> rfl

/-- Every search leaves a record of its comparisons. -/
theorem exists_search (found : findHandler run running e v n i w = (outcome, w')) :
    ∃ made, Search run running e v i n w made outcome w' := by
  induction n generalizing i w with
  | zero =>
    cases found
    exact ⟨[], .nil (.inr ⟨rfl, rfl, List.forall_mem_nil _⟩)⟩
  | succ n ih =>
    cases turn : (subscribed e w)[i]? with
    | none =>
      rw [findHandler_past turn] at found
      cases found
      exact ⟨[], .nil ⟨turn, List.forall_mem_nil _⟩⟩
    | some x =>
      rw [findHandler_turn turn] at found
      rcases compared : equal run running x v w with ⟨f | _ | _, u⟩ <;> rw [compared] at found <;>
        dsimp only at found
      · cases found
        exact ⟨_, .last turn compared (.inl ⟨[], _, rfl, List.forall_mem_nil _, rfl⟩)⟩
      · obtain ⟨made, search⟩ := ih found
        exact ⟨_, search.cons turn compared⟩
      · cases found
        exact ⟨_, .last turn compared ⟨[], _, rfl, rfl, List.forall_mem_nil _, rfl⟩⟩

/-- Comparing `x` with `v` gives this answer, and does nothing else. -/
def Tells (run : Runner) (running : Option Value) (w : World) (v : Value) (answer : Bool)
    (x : Value) : Prop :=
  equal run running x v w = (.ok answer, w)

/-- Where comparing does nothing else, a search goes past what is not equal. -/
theorem findHandler_append {earlier later : List Value}
    (others : ∀ x ∈ earlier, Tells run running w v false x)
    (here : (subscribed e w).drop i = earlier ++ later) :
    findHandler run running e v (earlier.length + n) i w =
      findHandler run running e v n (i + earlier.length) w := by
  induction earlier generalizing i with
  | nil => rw [List.length_nil, Nat.zero_add, Nat.add_zero]
  | cons x earlier ih =>
    obtain ⟨other, others⟩ := List.forall_mem_cons.1 others
    have turn : (subscribed e w)[i]? = some x := by
      rw [← List.head?_drop, here]
      rfl
    have next : (subscribed e w).drop (i + 1) = earlier ++ later := by
      rw [← List.tail_drop, here]
      rfl
    have step : (x :: earlier).length + n = (earlier.length + n) + 1 := by
      rw [List.length_cons]
      omega
    rw [step, findHandler_turn turn, other]
    dsimp only
    rw [ih others next, List.length_cons, Nat.add_assoc, Nat.add_comm 1]

/-- Nothing is found where comparing only tells that nothing is equal. -/
theorem findHandler_eq_none (others : ∀ x ∈ subscribed e w, Tells run running w v false x)
    (room : (subscribed e w).length < n) :
    findHandler run running e v n 0 w = (.ok none, w) := by
  obtain ⟨k, rfl⟩ := Nat.exists_eq_add_of_lt room
  rw [Nat.add_assoc, findHandler_append others (List.append_nil _).symm]
  exact findHandler_past (List.getElem?_eq_none (Nat.le_add_left _ _))

/-- Where comparing only tells what is equal, the first equal subscription is found. -/
theorem findHandler_eq_some {earlier later : List Value}
    (split : subscribed e w = earlier ++ x :: later)
    (others : ∀ y ∈ earlier, Tells run running w v false y) (same : Tells run running w v true x)
    (room : earlier.length < n) :
    findHandler run running e v n 0 w = (.ok (some earlier.length), w) := by
  obtain ⟨k, rfl⟩ := Nat.exists_eq_add_of_lt room
  have turn : (subscribed e w)[0 + earlier.length]? = some x := by
    rw [split, Nat.zero_add, List.getElem?_append_right (Nat.le_refl _), Nat.sub_self]
    rfl
  have here : (subscribed e w).drop 0 = earlier ++ x :: later := split
  rw [Nat.add_assoc, findHandler_append others here, findHandler_turn turn, same, Nat.zero_add]

/-- A value that is compared by identity has no answer about another one. -/
theorem answerAbout_identity {compare : Value → Value → Run Bool}
    (plain : w.rest.hierarchy.ComparesByIdentity v) (other : Value) :
    answerAbout run running compare v other w = (.ok none, w) := by
  have known : hierarchy w = (.ok w.rest.hierarchy, w) := rfl
  cases v with
  | null | subscription => rfl
  | ref r =>
    cases r with
    | object i =>
      rw [answerAbout, Act.bind_apply, known]
      dsimp only
      cases found : w.rest.hierarchy.answering? i "__eq__" Builtin.data with
      | none => rfl
      | some held =>
        obtain ⟨name, rfl⟩ := plain held found
        rfl
    | _ => rfl
  | _ => exact plain.elim

/-- Values without contents and without code for comparing only equal themselves. -/
theorem equal_of_identity (plain : w.rest.hierarchy.ComparesByIdentity v)
    (other : w.rest.hierarchy.ComparesByIdentity x) :
    Tells run running w v (x.isSameObject v) x := by
  have depth : Objects.depth = (Objects.depth - 1) + 1 := rfl
  rw [Tells, equal, depth, equalWithin]
  cases x.isSameObject v with
  | true => rfl
  | false =>
    have known : hierarchy w = (.ok w.rest.hierarchy, w) := rfl
    simp only [Bool.false_eq_true, if_false]
    rw [Act.bind_apply, known]
    dsimp only
    cases w.rest.hierarchy.isAskedFirst v x <;>
      simp only [Bool.false_eq_true, if_false, if_true, Act.bind_apply, answerAbout_identity plain,
        answerAbout_identity other]
    · rfl
    · rfl

end World

end StateWeave
