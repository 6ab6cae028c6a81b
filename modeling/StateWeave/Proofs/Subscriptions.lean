import StateWeave.Proofs.Searching

/-! Subscriptions to events. Firing an event calls the handlers that are subscribed when it starts, one
after the other, until one of them raises. What they do to the subscriptions meanwhile is neither
looked at nor undone: it counts from the next time on. Unsubscribing looks for an equal subscription
twice, and meets at once what the comparisons do to the subscriptions. -/

namespace StateWeave

open Deed (Linked Settle)

/-- A change of the handlers that are subscribed. -/
inductive HandlerChange
  | subscribe (handler : Value)
  | remove (index : Nat)

namespace HandlerChange

def apply (e : EventObject Value) : HandlerChange → EventObject Value
  | .subscribe handler => e.subscribe handler
  | .remove index => e.remove index

/-- What a list of handlers becomes by these changes, one after the other. -/
def applyAll (changes : List HandlerChange) (handlers : List Value) : List Value :=
  changes.foldl (fun handlers c => (c.apply ⟨handlers⟩).handlers) handlers

theorem applyAll_append (earlier later : List HandlerChange) (handlers : List Value) :
    applyAll (earlier ++ later) handlers = applyAll later (applyAll earlier handlers) :=
  List.foldl_append

end HandlerChange

namespace World

open HandlerChange (applyAll)

variable (run : Runner) (running : Option Value) (e : Nat)

/-- What can be done to an event. -/
inductive EventUse
  | subscribe (handler : Value)
  | unsubscribe (handler : Value)
  | fire (args : List Value) (kwargs : List (String × Value))

def EventUse.perform : EventUse → Run Unit
  | .subscribe handler => changeEvent e (·.subscribe handler)
  | .unsubscribe handler => unsubscribeFrom run running e handler
  | .fire args kwargs => discard (callValue run running (.ref (.event e)) args kwargs)

/-- What an event that fires does with each of its handlers. -/
def callSubscribed (args : List Value) (kwargs : List (String × Value)) (handler : Value) :
    Run Unit :=
  discard (callWithin run running (Objects.depth - 1) handler args kwargs)

/-- What unsubscribing comes to, with the comparisons it makes and the place of the subscription it
takes away. The first search decides whether there is anything to take away, the second one what; a
comparison that raises ends it, and so does a second search that finds nothing. -/
inductive Unsubscribes (v : Value) (w : World) :
    List (Deed Value Bool) → Option Nat → Except Failure Unit → World → Prop
  | nothing {made : List (Deed Value Bool)} {w' : World}
      (search : Search run running e v 0 capacity w made (.ok none) w') :
      Unsubscribes v w made none (.ok ()) w'
  | failed {made : List (Deed Value Bool)} {f : Failure} {w' : World}
      (search : Search run running e v 0 capacity w made (.error f) w') :
      Unsubscribes v w made none (.error f) w'
  | removed {made again : List (Deed Value Bool)} {i j : Nat} {u w' : World}
      (search : Search run running e v 0 capacity w made (.ok (some i)) u)
      (second : Search run running e v 0 capacity u again (.ok (some j)) w') :
      Unsubscribes v w (made ++ again) (some j) (.ok ()) (changeEvent e (·.remove j) w').2
  | gone {made again : List (Deed Value Bool)} {i : Nat} {u w' : World}
      (search : Search run running e v 0 capacity w made (.ok (some i)) u)
      (second : Search run running e v 0 capacity u again (.ok none) w') :
      Unsubscribes v w (made ++ again) none
        (.error (.raised "ValueError" "list.remove(x): x not in list")) w'
  | failedAgain {made again : List (Deed Value Bool)} {i : Nat} {f : Failure} {u w' : World}
      (search : Search run running e v 0 capacity w made (.ok (some i)) u)
      (second : Search run running e v 0 capacity u again (.error f) w') :
      Unsubscribes v w (made ++ again) none (.error f) w'

/-- A use of an event, with the calls and the comparisons that came of it and the place of the
subscription that it took away. -/
structure Occasion extends Deed EventUse where
  calls : List (Deed Value) := []
  comparisons : List (Deed Value Bool) := []
  removed : Option Nat := none

/-- What a use of an event comes to. A handler that is subscribed comes last. Where comparing with a
handler only tells what is equal, unsubscribing it takes the earliest equal one away, and does nothing
without one. Firing calls the handlers that are subscribed at its start, each where the one before it
stopped, up to the first that raises, and ends where the last call ended. Arguments that no handler can
be given, because firing has a name for them itself, are refused before anything happens. -/
def Occasion.Lawful (o : Occasion) : Prop :=
  match o.what with
  | .subscribe handler =>
    o.calls = [] ∧ o.comparisons = [] ∧ o.removed = none ∧ o.result = .ok () ∧
      (e < o.before.rest.events.length → subscribed e o.after = subscribed e o.before ++ [handler])
  | .unsubscribe handler =>
    o.calls = [] ∧
      Unsubscribes run running e handler o.before o.comparisons o.removed o.result o.after ∧
      ((subscribed e o.before).length < capacity →
        ((∀ x ∈ subscribed e o.before, Tells run running o.before handler false x) →
          o.result = .ok () ∧ o.after = o.before) ∧
        ∀ earlier x later, subscribed e o.before = earlier ++ x :: later →
          (∀ y ∈ earlier, Tells run running o.before handler false y) →
          Tells run running o.before handler true x →
            o.result = .ok () ∧ subscribed e o.after = earlier ++ later)
  | .fire args kwargs =>
    o.comparisons = [] ∧ o.removed = none ∧
      if kwargs.any (·.1 == "self") then
        o.calls = [] ∧ o.after = o.before ∧
          o.result = .error (.operation (.givenTwice "StaticEvent.fire()" "self"))
      else
        Linked o.before o.calls o.after ∧
          (∀ c ∈ o.calls, c.Done (callSubscribed run running args kwargs)) ∧
          Settle (subscribed e o.before) o.calls o.result

/-- The changes of an event on one occasion, if `called` says what each call changed and `compared`
what each comparison did. -/
def Occasion.changes (called : Deed Value → List HandlerChange)
    (compared : Deed Value Bool → List HandlerChange) (o : Occasion) : List HandlerChange :=
  match o.what with
  | .subscribe handler => [.subscribe handler]
  | .unsubscribe _ => o.comparisons.flatMap compared ++ (o.removed.map .remove).toList
  | .fire _ _ => o.calls.flatMap called

variable {run : Runner} {running : Option Value} {e : Nat} {v : Value} {w w' : World}

theorem changeEvent_apply (f : EventObject Value → EventObject Value) (w : World) :
    changeEvent e f w =
      (.ok (), { w with rest := { w.rest with events := w.rest.events.modify e f } }) := by
  rfl

theorem subscribed_changeEvent (f : EventObject Value → EventObject Value)
    (present : e < w.rest.events.length) :
    subscribed e (changeEvent e f w).2 = (f ⟨subscribed e w⟩).handlers := by
  simp [changeEvent_apply, subscribed, present]

/-- Nobody is subscribed to an event that is not there, and nobody is taken away from it. -/
theorem subscribed_remove (i : Nat) (w : World) :
    subscribed e (changeEvent e (·.remove i) w).2 = (subscribed e w).eraseIdx i := by
  by_cases present : e < w.rest.events.length
  · exact subscribed_changeEvent _ present
  · have absent : w.rest.events[e]? = none := List.getElem?_eq_none (Nat.le_of_not_lt present)
    have same : w.rest.events.modify e (·.remove i) = w.rest.events :=
      List.modify_eq_self (Nat.le_of_not_lt present)
    rw [changeEvent_apply, subscribed, subscribed]
    dsimp only
    rw [same, absent]
    rfl

theorem unsubscribeFrom_apply (v : Value) (w : World) :
    unsubscribeFrom run running e v w =
      match findHandler run running e v capacity 0 w with
      | (.error f, u) => (.error f, u)
      | (.ok none, u) => (.ok (), u)
      | (.ok (some _), u) =>
        match findHandler run running e v capacity 0 u with
        | (.error f, w') => (.error f, w')
        | (.ok none, w') => (.error (.raised "ValueError" "list.remove(x): x not in list"), w')
        | (.ok (some i), w') => changeEvent e (·.remove i) w' := by
  rw [unsubscribeFrom, Act.bind_apply]
  rcases findHandler run running e v capacity 0 w with ⟨f | _ | i, u⟩
  · rfl
  · rfl
  · simp only [Option.isSome_some, if_true]
    rw [Act.bind_apply]
    rcases findHandler run running e v capacity 0 u with ⟨f | _ | i, w'⟩ <;> rfl

/-- Unsubscribing makes these comparisons and takes this away. -/
theorem exists_unsubscribes (run : Runner) (running : Option Value) (e : Nat) (v : Value)
    (w : World) :
    ∃ made removed, Unsubscribes run running e v w made removed
      (unsubscribeFrom run running e v w).1 (unsubscribeFrom run running e v w).2 := by
  rw [unsubscribeFrom_apply]
  rcases found : findHandler run running e v capacity 0 w with ⟨f | _ | i, u⟩
  all_goals obtain ⟨made, search⟩ := exists_search found
  · exact ⟨made, none, .failed search⟩
  · exact ⟨made, none, .nothing search⟩
  · dsimp only
    rcases found : findHandler run running e v capacity 0 u with ⟨f | _ | j, w'⟩
    all_goals obtain ⟨again, second⟩ := exists_search found
    · exact ⟨made ++ again, none, .failedAgain search second⟩
    · exact ⟨made ++ again, none, .gone search second⟩
    · exact ⟨made ++ again, some j, .removed search second⟩

theorem unsubscribeFrom_of_others (others : ∀ x ∈ subscribed e w, Tells run running w v false x)
    (room : (subscribed e w).length < capacity) :
    unsubscribeFrom run running e v w = (.ok (), w) := by
  rw [unsubscribeFrom_apply, findHandler_eq_none others room]

/-- Both searches find the earliest equal subscription, where comparing only tells what is equal. -/
theorem unsubscribeFrom_of_same {earlier later : List Value} {x : Value}
    (split : subscribed e w = earlier ++ x :: later)
    (others : ∀ y ∈ earlier, Tells run running w v false y) (same : Tells run running w v true x)
    (room : earlier.length < capacity) :
    unsubscribeFrom run running e v w = changeEvent e (·.remove earlier.length) w := by
  have found := findHandler_eq_some (n := capacity) split others same room
  rw [unsubscribeFrom_apply, found]
  dsimp only
  rw [found]

theorem discard_apply {α : Type} (x : Run α) (w : World) :
    (discard x : Run Unit) w = ((x w).1.map fun _ => (), (x w).2) :=
  Act.map_apply x w fun _ => ()

theorem fire_apply (args : List Value) (kwargs : List (String × Value)) (w : World) :
    EventUse.perform run running e (.fire args kwargs) w =
      if kwargs.any (·.1 == "self") then
        (.error (.operation (.givenTwice "StaticEvent.fire()" "self")), w)
      else (subscribed e w).forM (callSubscribed run running args kwargs) w := by
  have known : eventAt e w = (.ok ((w.rest.events[e]?).getD default), w) := rfl
  have depth : Objects.depth = (Objects.depth - 1) + 1 := rfl
  rw [EventUse.perform, callValue, depth, callWithin]
  dsimp only
  cases named : kwargs.any (·.1 == "self") with
  | true => rfl
  | false =>
    simp only [Bool.false_eq_true, if_false]
    rw [discard_apply, Act.bind_apply, known]
    dsimp only
    have handlers : ((w.rest.events[e]?).getD default).handlers = subscribed e w := rfl
    have call : (fun h => discard (callWithin run running (Objects.depth - 1) h args kwargs)) =
        callSubscribed run running args kwargs := rfl
    rw [Act.bind_apply, EventObject.fire, handlers, call]
    rcases (subscribed e w).forM (callSubscribed run running args kwargs) w with ⟨_ | ⟨⟩, v⟩ <;> rfl

/-- A use of an event in a world, with what came of it. -/
def EventUse.occasion (run : Runner) (running : Option Value) (e : Nat) (use : EventUse) (w : World)
    (calls : List (Deed Value)) (comparisons : List (Deed Value Bool)) (removed : Option Nat) :
    Occasion where
  what := use
  before := w
  result := (use.perform run running e w).1
  after := (use.perform run running e w).2
  calls := calls
  comparisons := comparisons
  removed := removed

theorem unsubscribe_lawful (v : Value) (w : World) :
    ∃ made removed,
      ((EventUse.unsubscribe v).occasion run running e w [] made removed).Lawful run running e := by
  obtain ⟨made, removed, unsubscribes⟩ := exists_unsubscribes run running e v w
  refine ⟨made, removed, rfl, unsubscribes, fun room => ⟨fun others => ?_, ?_⟩⟩
  · have nothing := unsubscribeFrom_of_others others room
    exact ⟨congrArg Prod.fst nothing, congrArg Prod.snd nothing⟩
  · intro earlier x later split others same
    change subscribed e w = _ at split
    have near : earlier.length < capacity := by
      refine Nat.lt_of_le_of_lt ?_ room
      change earlier.length ≤ (subscribed e w).length
      rw [split, List.length_append]
      exact Nat.le_add_right _ _
    have removal := unsubscribeFrom_of_same split others same near
    refine ⟨congrArg Prod.fst removal, (congrArg (subscribed e ·.2) removal).trans ?_⟩
    rw [subscribed_remove, split, List.eraseIdx_append_of_length_le (Nat.le_refl _), Nat.sub_self]
    rfl

theorem fire_lawful (args : List Value) (kwargs : List (String × Value)) (w : World) :
    ∃ calls,
      ((EventUse.fire args kwargs).occasion run running e w calls [] none).Lawful run running e := by
  cases named : kwargs.any (·.1 == "self") with
  | true =>
    refine ⟨[], rfl, rfl, ?_⟩
    simp [EventUse.occasion, fire_apply, named]
  | false =>
    obtain ⟨calls, linked, done, settle⟩ :=
      Deed.exists_forM (callSubscribed run running args kwargs) (subscribed e w) w
    refine ⟨calls, rfl, rfl, ?_⟩
    simp only [EventUse.occasion, fire_apply, named, Bool.false_eq_true, if_false]
    exact ⟨linked, done, settle⟩

/-- Every use of an event goes by its rules. -/
theorem exists_lawful (run : Runner) (running : Option Value) (e : Nat) (use : EventUse)
    (w : World) :
    ∃ calls made removed,
      (use.occasion run running e w calls made removed).Lawful run running e := by
  cases use with
  | subscribe handler =>
    exact ⟨[], [], none, rfl, rfl, rfl, rfl, fun present => subscribed_changeEvent _ present⟩
  | unsubscribe handler =>
    obtain ⟨made, removed, lawful⟩ := unsubscribe_lawful handler w
    exact ⟨[], made, removed, lawful⟩
  | fire args kwargs =>
    obtain ⟨calls, lawful⟩ := fire_lawful args kwargs w
    exact ⟨calls, [], none, lawful⟩

/-- A history of uses leaves a record of what each of them came to. -/
theorem exists_history (run : Runner) (running : Option Value) (e : Nat) (uses : List EventUse)
    (w : World) : ∃ (occasions : List Occasion) (w' : World),
      occasions.map (·.what) = uses ∧ Linked w (occasions.map (·.toDeed)) w' ∧
      ∀ o ∈ occasions, o.Done (EventUse.perform run running e) ∧ o.Lawful run running e := by
  induction uses generalizing w with
  | nil => exact ⟨[], w, rfl, rfl, List.forall_mem_nil _⟩
  | cons use uses ih =>
    obtain ⟨calls, made, removed, lawful⟩ := exists_lawful run running e use w
    obtain ⟨occasions, w', rfl, linked, each⟩ := ih (use.perform run running e w).2
    exact ⟨use.occasion run running e w calls made removed :: occasions, w', rfl, ⟨rfl, linked⟩,
      List.forall_mem_cons.2 ⟨⟨rfl, lawful⟩, each⟩⟩

/-- What is done one by one changes the subscriptions by all that it changes one by one. -/
theorem Linked.changed {α β : Type} {deeds : List (Deed β α)} (linked : Linked w deeds w')
    (made : Deed β α → List HandlerChange)
    (each : ∀ d ∈ deeds, subscribed e d.after = applyAll (made d) (subscribed e d.before)) :
    subscribed e w' = applyAll (deeds.flatMap made) (subscribed e w) := by
  have linked : Linked w (deeds.map id) w' := by
    rw [List.map_id]
    exact linked
  exact linked.foldl made each

/-- Unsubscribing changes the subscriptions by what the comparisons change, and then by what it takes
away. -/
theorem Unsubscribes.changed {made : List (Deed Value Bool)} {removed : Option Nat}
    {result : Except Failure Unit}
    (unsubscribes : Unsubscribes run running e v w made removed result w')
    (compared : Deed Value Bool → List HandlerChange)
    (each : ∀ c ∈ made, subscribed e c.after = applyAll (compared c) (subscribed e c.before)) :
    subscribed e w' =
      applyAll (made.flatMap compared ++ (removed.map .remove).toList) (subscribed e w) := by
  rw [HandlerChange.applyAll_append]
  cases unsubscribes with
  | nothing search | failed search => exact Linked.changed search.linked compared each
  | gone search second | failedAgain search second =>
    exact Linked.changed (search.linked.append second.linked) compared each
  | removed search second =>
    rw [← Linked.changed (search.linked.append second.linked) compared each]
    exact subscribed_remove _ _

/-- The subscriptions after one use are those before it with all changes made. -/
theorem Occasion.Lawful.changed {o : Occasion} (lawful : o.Lawful run running e)
    (present : e < o.before.rest.events.length)
    (called : Deed Value → List HandlerChange) (compared : Deed Value Bool → List HandlerChange)
    (calls : ∀ c ∈ o.calls, subscribed e c.after = applyAll (called c) (subscribed e c.before))
    (comparisons : ∀ c ∈ o.comparisons,
      subscribed e c.after = applyAll (compared c) (subscribed e c.before)) :
    subscribed e o.after = applyAll (o.changes called compared) (subscribed e o.before) := by
  obtain ⟨⟨use, before, result, after⟩, made, compare, removed⟩ := o
  cases use with
  | subscribe handler => exact lawful.2.2.2.2 present
  | unsubscribe handler => exact lawful.2.1.changed compared comparisons
  | fire args kwargs =>
    dsimp only [Lawful] at lawful
    obtain ⟨-, -, lawful⟩ := lawful
    cases named : kwargs.any (·.1 == "self") with
    | true =>
      rw [if_pos named] at lawful
      obtain ⟨rfl, rfl, -⟩ := lawful
      rfl
    | false =>
      rw [if_neg (by simp [named])] at lawful
      exact Linked.changed lawful.1 called calls

/-- For every history of an event, with any handlers: each use goes by its rules, and in the end the
subscriptions are those of the start with every change made to them in order, those that handlers made
while the event fired or was searched included, whether one of them raised or not. -/
theorem occasions_lawful (run : Runner) (running : Option Value) (e : Nat) (uses : List EventUse)
    (w : World) :
    ∃ (occasions : List Occasion) (w' : World),
      occasions.map (·.what) = uses ∧
      Linked w (occasions.map (·.toDeed)) w' ∧
      (∀ o ∈ occasions, o.Done (EventUse.perform run running e) ∧ o.Lawful run running e) ∧
      ∀ (called : Deed Value → List HandlerChange)
        (compared : Deed Value Bool → List HandlerChange),
        (∀ o ∈ occasions, e < o.before.rest.events.length ∧
          (∀ c ∈ o.calls, subscribed e c.after = applyAll (called c) (subscribed e c.before)) ∧
          ∀ c ∈ o.comparisons,
            subscribed e c.after = applyAll (compared c) (subscribed e c.before)) →
        subscribed e w' = applyAll (occasions.flatMap (·.changes called compared)) (subscribed e w) := by
  obtain ⟨occasions, w', what, linked, each⟩ := exists_history run running e uses w
  refine ⟨occasions, w', what, linked, each, fun called compared described => ?_⟩
  refine linked.foldl (Occasion.changes called compared) fun o mem => ?_
  obtain ⟨present, calls, comparisons⟩ := described o mem
  exact (each o mem).2.changed present called compared calls comparisons

/-- A subscription whose code for comparing raises is in the way of unsubscribing others, although it is
equal to none of them. -/
theorem unsubscribe_raises_comparing :
    let refusing : ClassObject :=
      { Builtin.plain 11 "A" [("__eq__", .ref (.handler 0))] with isBuiltin := false }
    let w : World := { (default : World) with rest := {
      hierarchy := { classes := Builtin.classes ++ [refusing], instances := [{ cls := 11 }] }
      events := [⟨[.ref (.object 0)]⟩]
      handlers := [⟨"eq", [.raise "ValueError" [.text "no"]]⟩, ⟨"h", []⟩] } }
    let handler : Value := .ref (.handler 1)
    (∀ x ∈ subscribed 0 w, (equal (runWithin 1) none x handler w).1 ≠ .ok true) ∧
      ((EventUse.unsubscribe handler).perform (runWithin 1) none 0 w).1 =
        .error (.raised "ValueError" "no") := by
  refine ⟨List.forall_mem_singleton.2 fun same => ?_, rfl⟩
  cases same

-- A handler that is subscribed three times replaces itself by one that raises, which is called in its
-- own turn: two replacements were made by then, and the last subscription was not reached.
example :
    let swap : Value := .ref (.handler 0)
    let stop : Value := .ref (.handler 1)
    let w : World := { (default : World) with rest := {
      events := [⟨[swap, swap, stop, swap]⟩]
      handlers := [
        ⟨"swap", [.unsubscribe (.handle "bell") "swap", .subscribe (.handle "bell") "stop"]⟩,
        ⟨"stop", [.raise "ValueError" []]⟩]
      handles := ⟨[("bell", .ref (.event 0)), ("swap", swap), ("stop", stop)]⟩ } }
    let (result, w') := EventUse.perform (runWithin 2) none 0 (.fire [] []) w
    subscribed 0 w' = [stop, swap, stop, stop] ∧
      w'.rest.trace = ["swap", "swap", "stop"].map (.row [.text ·, .row [], .record []]) ∧
      result.isOk = false :=
  ⟨rfl, rfl, rfl⟩

end World

end StateWeave
