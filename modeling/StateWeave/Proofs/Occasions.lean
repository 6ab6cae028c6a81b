import StateWeave.Proofs.Arguments
import StateWeave.Proofs.Enrolment

/-! What happens to the initializers of a program: they get owners, and generic owners are subscripted
with type arguments. Each occasion brings the registries and the instantiations what it is told to
bring, and nothing else. -/

namespace StateWeave

/-- What happens to the classes and the initializers of a program. -/
inductive Occasion
  /-- An initializer gets a class as its owner; `before` is who owned it. -/
  | named (i c : Nat) (before : Option Value)
  /-- A class of an initializer is subscripted; `kept` is the class there was for the arguments. -/
  | asked (i c : Nat) (args : List Value) (kept : Option Nat) (answer : Except Failure Subscripted)
  | other

namespace Occasion

/-- The initializer that gets its first owner. -/
def first? : Occasion → Option Nat
  | .named i _ none => some i
  | _ => none

/-- The owner that an initializer gets. -/
def owner? (i : Nat) : Occasion → Option Value
  | .named j c _ => if j = i then some (Value.ofClass c) else none
  | _ => none

/-- The instantiation that is kept from now on. -/
def published? : Occasion → Option Instantiation
  | .asked _ c args none (.ok (.cls d)) => some ⟨c, args, d⟩
  | _ => none

/-- The initializer whose units are registered, and the class they are bound to, if they are. -/
def enrolled? : Occasion → Option (Nat × Option Value)
  | .named i _ none => some (i, none)
  | .asked i _ _ none (.ok (.cls d)) => some (i, some (Value.ofClass d))
  | _ => none

/-- The action that is put on a channel of a module. -/
def action? (initializers : List Initializer) (module : String) (ch : ChannelName) (x : Occasion) :
    Option Action := do
  let (i, target) ← x.enrolled?
  let initializer ← initializers[i]?
  if initializer.module = module ∧ (initializer.unit? ch).isSome then some (.unit i ch target)
  else none

variable {x : Occasion} {initializers initializers' : List Initializer}

/-- The actions of an occasion are told by the modules and the units of the initializers. -/
theorem action?_congr
    (same : ∀ (i : Nat) (y : Initializer), initializers[i]? = some y →
      ∃ owner, initializers'[i]? = some { y with owner := owner })
    (present : ∀ i target, x.enrolled? = some (i, target) → i < initializers.length)
    (m : String) (ch : ChannelName) :
    x.action? initializers' m ch = x.action? initializers m ch := by
  rw [action?, action?]
  cases enrolled : x.enrolled? with
  | none => rfl
  | some unit =>
    obtain ⟨i, target⟩ := unit
    have found := List.getElem?_eq_getElem (present i target enrolled)
    obtain ⟨owner, found'⟩ := same _ _ found
    simp only [Option.bind_eq_bind, Option.bind_some, found, found']
    cases ch <;> rfl

/-- The units of an initializer are the actions that an occasion brings. -/
theorem action?_toList {i : Nat} {target : Option Value} {y : Initializer}
    (enrolled : x.enrolled? = some (i, target)) (found : initializers[i]? = some y)
    (m : String) (ch : ChannelName) :
    (x.action? initializers m ch).toList =
      if m = y.module ∧ (y.unit? ch).isSome then [.unit i ch target] else [] := by
  simp only [action?, enrolled, found, Option.bind_eq_bind, Option.bind_some,
    eq_comm (a := m)]
  split <;> rfl

theorem enrolled?_asked {i j c : Nat} {args : List Value} {kept : Option Nat} {target : Option Value}
    {answer : Except Failure Subscripted}
    (enrolled : (asked j c args kept answer).enrolled? = some (i, target)) : j = i := by
  unfold enrolled? at enrolled
  split at enrolled
  case h_1 other => cases other
  case h_2 other =>
    cases other
    cases enrolled
    rfl
  case h_3 => cases enrolled

end Occasion

def Objects.ownerOf (o : Objects) (i : Nat) : Option Value :=
  (o.initializers[i]?).bind (·.owner)

namespace World

open Manner

/-- A class that belongs to a generic initializer is subscripted with concrete arguments. -/
structure Asks (w : World) (i c : Nat) (param : Value) : Prop where
  present : i < w.rest.initializers.length
  installed : w.rest.hierarchy.lookup? c subscriptionName = some (.subscription (.reify c i))
  concrete : (param.arguments.anyM isOpen w).1 = .ok false
  module : ∀ j, moduleOf w.rest.hierarchy c ≠ .ok (.ref (.initializer j))

/-- Whether a class can be subscripted like that, worked out. -/
def canAsk (w : World) (i c : Nat) (param : Value) : Bool :=
  decide (i < w.rest.initializers.length) &&
  (match w.rest.hierarchy.lookup? c subscriptionName with
  | some (.subscription s) => s == .reify c i
  | _ => false) &&
  (match (param.arguments.anyM isOpen w).1 with
  | .ok isOpen => !isOpen
  | .error _ => false) &&
  match moduleOf w.rest.hierarchy c with
  | .ok (.text _) => true
  | _ => false

theorem asks_of_canAsk {w : World} {i c : Nat} {param : Value} (can : canAsk w i c param = true) :
    w.Asks i c param := by
  simp only [canAsk, Bool.and_eq_true, decide_eq_true_eq] at can
  obtain ⟨⟨⟨present, installed⟩, concrete⟩, module⟩ := can
  refine ⟨present, ?_, ?_, fun j held => ?_⟩
  · split at installed
    case h_1 s found => rw [found, eq_of_beq installed]
    case h_2 => cases installed
  · split at concrete
    case h_1 isOpen answer =>
      cases isOpen
      · exact answer
      · cases concrete
    case h_2 => cases concrete
  · rw [held] at module
    cases module

/-- What happens at a time; the load units and the handlers are scripts of the kind `T`. -/
inductive Happens (T : Script → Prop) : World → Occasion → World → Prop
  | named {w : World} {i : Nat} (c : Nat) (present : i < w.rest.initializers.length) :
    Happens T w (.named i c (w.rest.ownerOf i)) (setOwner i (Value.ofClass c) w).2
  | asked {w : World} {i c : Nat} {param : Value} {run : Runner} (running : Option Value)
    (runs : Runner.Discreet T run) (asks : w.Asks i c param) :
    Happens T w
      (.asked i c param.arguments (findInstantiation? w.rest c param.arguments)
        (subscript run running (Value.ofClass c) param w).1)
      (subscript run running (Value.ofClass c) param w).2
  | other {w w' : World} (aside : (discreet T).allows w w') : Happens T w .other w'

/-- Registries are at rest, different instantiations were made for different arguments, and handlers
and load units are scripts of the kind `T`. -/
structure Orderly (T : Script → Prop) (w : World) : Prop where
  registries : w.registries.Orderly
  distinct : w.rest.instantiations.Pairwise fun x y =>
    ¬(x.origin = y.origin ∧ Value.sameAll x.args y.args = true)
  hears : w.rest.Hears T

/-- What one occasion changes. -/
structure Follows (w : World) (x : Occasion) (w' : World) : Prop where
  holds : ∀ m ch, w'.registries.under m ch =
    w.registries.under m ch ++ (x.action? w.rest.initializers m ch).toList
  kept : w'.rest.instantiations = w.rest.instantiations ++ x.published?.toList
  owners : ∀ i, w'.rest.ownerOf i = (x.owner? i).or (w.rest.ownerOf i)
  initializers : ∀ (i : Nat) (y : Initializer), w.rest.initializers[i]? = some y →
    ∃ owner, w'.rest.initializers[i]? = some { y with owner := owner }

variable {T : Script → Prop} {w w' v : World} {x : Occasion}

theorem Aside.ownerOf (aside : Aside w w') (i : Nat) : w'.rest.ownerOf i = w.rest.ownerOf i := by
  obtain ⟨made, grown, unowned⟩ := aside.initializers
  rw [Objects.ownerOf, Objects.ownerOf, grown, List.getElem?_append]
  split
  · rfl
  case isFalse outside =>
    rw [List.getElem?_eq_none (by omega : w.rest.initializers.length ≤ i)]
    cases found : made[i - w.rest.initializers.length]? with
    | none => rfl
    | some y => exact unowned y (List.mem_of_getElem? found)

/-- What keeps out of registrations later on changes nothing about the occasion. -/
theorem Follows.aside (follows : Follows w x v) (orderly : v.registries.Orderly)
    (aside : Aside v w') : w'.registries.Orderly ∧ Follows w x w' := by
  obtain ⟨orderly', same⟩ := orderly.moves aside.registries
  refine ⟨orderly', fun m ch => ?_, ?_, fun i => ?_, fun i y found => ?_⟩
  · rw [same, follows.holds]
  · rw [aside.instantiations, follows.kept]
  · rw [aside.ownerOf, follows.owners]
  · obtain ⟨owner, found'⟩ := follows.initializers i y found
    obtain ⟨made, grown, -⟩ := aside.initializers
    obtain ⟨inRange, -⟩ := List.getElem?_eq_some_iff.1 found'
    exact ⟨owner, by rw [grown, List.getElem?_append_left inRange, found']⟩

/-- Nor does what kept out of registrations before. -/
theorem Follows.later (follows : Follows v x w') (orderly : w.registries.Orderly) (aside : Aside w v)
    (present : ∀ i target, x.enrolled? = some (i, target) → i < w.rest.initializers.length) :
    Follows w x w' := by
  obtain ⟨-, same⟩ := orderly.moves aside.registries
  obtain ⟨made, grown, -⟩ := aside.initializers
  have earlier (i : Nat) (y : Initializer) (found : w.rest.initializers[i]? = some y) :
      v.rest.initializers[i]? = some y := by
    obtain ⟨inRange, -⟩ := List.getElem?_eq_some_iff.1 found
    rw [grown, List.getElem?_append_left inRange, found]
  refine ⟨fun m ch => ?_, ?_, fun i => ?_, fun i y found => ?_⟩
  · rw [follows.holds, same]
    rw [Occasion.action?_congr (fun i y found => ⟨y.owner, earlier i y found⟩) present]
  · rw [follows.kept, aside.instantiations]
  · rw [follows.owners, aside.ownerOf]
  · exact follows.initializers i y (earlier i y found)

theorem Follows.refl (w : World) (uneventful : x.enrolled? = none) (unpublished : x.published? = none)
    (unowned : ∀ i, x.owner? i = none) : Follows w x w := by
  refine ⟨fun m ch => ?_, ?_, fun i => ?_, fun i y found => ⟨y.owner, found⟩⟩
  · simp [Occasion.action?, uneventful]
  · simp [unpublished]
  · simp [unowned]

/-- No initializer goes away. -/
theorem Follows.grows (follows : Follows w x w') :
    w.rest.initializers.length ≤ w'.rest.initializers.length := by
  refine Nat.le_of_not_lt fun fewer => ?_
  obtain ⟨owner, found⟩ := follows.initializers _ _ (List.getElem?_eq_getElem fewer)
  have := (List.getElem?_eq_some_iff.1 found).1
  omega

theorem Orderly.aside (orderly : w.Orderly T) (aside : Aside w w') (hears : w'.rest.Hears T) :
    w'.Orderly T where
  registries := (orderly.registries.moves aside.registries).1
  distinct := aside.instantiations ▸ orderly.distinct
  hears := hears

theorem initializerOf_eq {i : Nat} {y : Initializer} (found : w.rest.initializers[i]? = some y) :
    initializerOf w.rest i = y := by
  rw [initializerOf, found, Option.getD_some]

/-- An initializer gets an owner: the first one brings its units, any other one only takes over. -/
theorem Orderly.owned (orderly : w.Orderly T) {i : Nat} (present : i < w.rest.initializers.length)
    (c : Nat) :
    (w.owned i c).Orderly T ∧ Follows w (.named i c (w.rest.ownerOf i)) (w.owned i c) := by
  have found : w.rest.initializers[i]? = some w.rest.initializers[i] :=
    List.getElem?_eq_getElem present
  generalize w.rest.initializers[i] = y at found
  have owner : w.rest.ownerOf i = y.owner := by rw [Objects.ownerOf, found]; rfl
  obtain ⟨enrolled, units⟩ := orderly.registries.enrol y (.unit i · none)
  have registries : (w.owned i c).registries =
      if y.owner.isNone then w.registries.enrol y (.unit i · none) else w.registries := by
    rw [World.owned, initializerOf_eq found]
  have initializers (j : Nat) : (w.owned i c).rest.initializers[j]? =
      if i = j then some { y with owner := some (Value.ofClass c) } else w.rest.initializers[j]? := by
    show (w.rest.initializers.modify i _)[j]? = _
    rw [List.getElem?_modify]
    by_cases same : i = j
    · subst same
      simp [found]
    · simp [same]
  refine ⟨⟨?_, orderly.distinct, orderly.hears.handlers, ?_⟩, ?_, (List.append_nil _).symm, ?_, ?_⟩
  · rw [registries]
    split
    · exact enrolled
    · exact orderly.registries
  · intro x mem code load
    obtain ⟨j, found'⟩ := List.mem_iff_getElem?.1 mem
    rw [initializers] at found'
    split at found'
    · cases found'
      exact orderly.hears.loads y (List.mem_of_getElem? found) code load
    · exact orderly.hears.loads x (List.mem_of_getElem? found') code load
  · intro m ch
    rw [owner, registries]
    cases y.owner with
    | none =>
      rw [Occasion.action?_toList rfl found]
      exact units m ch
    | some before => simp [Occasion.action?, Occasion.enrolled?]
  · intro j
    rw [Objects.ownerOf, initializers, Occasion.owner?]
    split <;> rfl
  · intro j z found'
    rw [initializers]
    split
    case isTrue same =>
      subst same
      cases found.symm.trans found'
      exact ⟨_, rfl⟩
    · exact ⟨z.owner, found'⟩

/-- An instantiation that is set up is registered and kept. -/
theorem Orderly.published (orderly : w.Orderly T) {i : Nat} (present : i < w.rest.initializers.length)
    {c d : Nat} {args : List Value} (missing : findInstantiation? w.rest c args = none) :
    (published w i ⟨c, args, d⟩).Orderly T ∧
      Follows w (.asked i c args none (.ok (.cls d))) (published w i ⟨c, args, d⟩) := by
  have found : w.rest.initializers[i]? = some w.rest.initializers[i] :=
    List.getElem?_eq_getElem present
  generalize w.rest.initializers[i] = y at found
  obtain ⟨enrolled, units⟩ :=
    orderly.registries.enrol y (.unit i · (some (Value.ofClass d)))
  have registries : (World.published w i ⟨c, args, d⟩).registries =
      w.registries.enrol y (.unit i · (some (Value.ofClass d))) := by
    rw [World.published, initializerOf_eq found]
  refine ⟨⟨?_, ?_, orderly.hears.handlers, orderly.hears.loads⟩, ?_, rfl, fun j => rfl,
    fun j z found' => ⟨z.owner, found'⟩⟩
  · rw [registries]
    exact enrolled
  · refine List.pairwise_append.2 ⟨orderly.distinct, List.pairwise_singleton .., ?_⟩
    rintro x mem y' last ⟨origin, same⟩
    cases List.mem_singleton.1 last
    have other := List.find?_eq_none.1 (Option.map_eq_none_iff.1 missing) x mem
    simp [origin, same] at other
  · intro m ch
    rw [registries, Occasion.action?_toList rfl found]
    exact units m ch

/-- What comes of a subscription: the arguments cannot be looked up, or there is a class for them, or
one is made, which is registered and kept once its load unit went through. -/
theorem Asks.subscript {i c : Nat} {param : Value} (asks : w.Asks i c param) :
    ∃ v, looking.allows w v ∧ ∀ run running,
      subscript run running (Value.ofClass c) param w =
        match changingAmong? w.rest.hierarchy param.arguments,
          findInstantiation? w.rest c param.arguments with
        | some kind, _ => (.error (.operation (.unhashable kind)), v)
        | none, some d => (.ok (.cls d), v)
        | none, none =>
          match prepare run running c i param.arguments v with
          | (.error e, v') => (.error e, v')
          | (.ok d, v') => (.ok (.cls d), published v' i ⟨c, param.arguments, d⟩) := by
  have looked := (keeps_anyM looks_isOpen : looking.Keeps (param.arguments.anyM isOpen)) w
  refine ⟨_, looked, fun run running => ?_⟩
  rw [subscript_apply run running asks.installed asks.concrete, Act.map_apply, instantiate_apply,
    makeInstantiation_apply]
  obtain ⟨passing, lists, seen⟩ := looked
  rw [seen]
  dsimp only
  cases changingAmong? w.rest.hierarchy param.arguments with
  | some kind => rfl
  | none =>
    have kept : findInstantiation? { w.rest with passing, lists } c param.arguments =
        findInstantiation? w.rest c param.arguments := rfl
    rw [kept]
    cases findInstantiation? w.rest c param.arguments with
    | some d => rfl
    | none =>
      dsimp only
      rcases prepare run running c i param.arguments _ with ⟨e | d, v'⟩ <;> rfl

/-- A subscription that fails, or finds a class, leaves everything aside; else it publishes a class. -/
theorem asked_cases {i c : Nat} {param : Value} {run : Runner} {running : Option Value}
    {answer : Except Failure Subscripted} (runs : Runner.Discreet T run) (hears : w.rest.Hears T)
    (asks : w.Asks i c param)
    (asked : subscript run running (Value.ofClass c) param w = (answer, w')) :
    Aside w w' ∧ w'.rest.Hears T ∧
        ((∃ e, answer = .error e) ∨ ∃ d, findInstantiation? w.rest c param.arguments = some d) ∨
      ∃ v d, Aside w v ∧ v.rest.Hears T ∧ findInstantiation? w.rest c param.arguments = none ∧
        answer = .ok (.cls d) ∧ w' = published v i ⟨c, param.arguments, d⟩ := by
  obtain ⟨v, looked, told⟩ := asks.subscript
  obtain ⟨aside, hears'⟩ := discreet_of_looked looked hears
  rw [told] at asked
  cases changes : changingAmong? w.rest.hierarchy param.arguments with
  | some kind =>
    simp only [changes] at asked
    cases asked
    exact .inl ⟨aside, hears', .inl ⟨_, rfl⟩⟩
  | none =>
    cases missing : findInstantiation? w.rest c param.arguments with
    | some d =>
      simp only [changes, missing] at asked
      cases asked
      exact .inl ⟨aside, hears', .inr ⟨d, rfl⟩⟩
    | none =>
      simp only [changes, missing] at asked
      have module : ∀ j, moduleOf v.rest.hierarchy c ≠ .ok (.ref (.initializer j)) := by
        obtain ⟨passing, lists, rfl⟩ := looked
        exact asks.module
      have prepared : Aside v (prepare run running c i param.arguments v).2 ∧
          (prepare run running c i param.arguments v).2.rest.Hears T :=
        discreet_prepare runs module i param.arguments hears'
      rcases made : prepare run running c i param.arguments v with ⟨e | d, v'⟩
      all_goals rw [made] at asked prepared
      · cases asked
        exact .inl ⟨aside.trans prepared.1, prepared.2, .inl ⟨e, rfl⟩⟩
      · cases asked
        exact .inr ⟨v', d, aside.trans prepared.1, prepared.2, rfl, rfl, rfl⟩

theorem discreet_install (isGeneric : Bool) (i c : Nat) :
    (discreet T).Keeps (install isGeneric i c) := by
  unfold install
  split
  · exact discreet_writeTo _ _ _
  · exact keeps_pure _

/-- What an occasion keeps, and what it changes. -/
theorem Happens.follows (happens : Happens T w x w') (orderly : w.Orderly T) :
    w'.Orderly T ∧ Follows w x w' := by
  cases happens with
  | @named i c present =>
    obtain ⟨owned, follows⟩ := orderly.owned present c
    rw [setOwner_apply present]
    obtain ⟨aside, hears⟩ := discreet_install _ i c (w.owned i c) owned.hears
    exact ⟨owned.aside aside hears, (follows.aside owned.registries aside).2⟩
  | @asked i c param run running runs asks =>
    generalize asked : subscript run running (Value.ofClass c) param w = outcome
    obtain ⟨answer, w'⟩ := outcome
    rcases asked_cases runs orderly.hears asks asked with
      ⟨aside, hears, uneventful⟩ | ⟨v, d, aside, hears, missing, rfl, rfl⟩
    · have follows : Follows w (.asked i c param.arguments
          (findInstantiation? w.rest c param.arguments) answer) w := by
        refine .refl w ?_ ?_ fun _ => rfl
        all_goals
          rcases uneventful with ⟨e, rfl⟩ | ⟨d, found⟩
          · cases findInstantiation? w.rest c param.arguments <;> rfl
          · rw [found]
            rfl
      exact ⟨orderly.aside aside hears, (follows.aside orderly.registries aside).2⟩
    · -- The class is published in the world that its load unit left, not in the one it was asked in.
      have kept : findInstantiation? v.rest c param.arguments = none := by
        rw [← missing, findInstantiation?, findInstantiation?, aside.instantiations]
      obtain ⟨_, grown, -⟩ := aside.initializers
      have present : i < v.rest.initializers.length := by
        have := asks.present
        rw [grown, List.length_append]
        omega
      obtain ⟨orderly', follows⟩ := (orderly.aside aside hears).published present kept (d := d)
      rw [missing]
      refine ⟨orderly', follows.later orderly.registries aside ?_⟩
      rintro _ _ ⟨⟩
      exact asks.present
  | other aside =>
    obtain ⟨aside, hears⟩ := aside orderly.hears
    have follows : Follows w .other w := .refl w rfl rfl fun _ => rfl
    exact ⟨orderly.aside aside hears, (follows.aside orderly.registries aside).2⟩

theorem Happens.present (happens : Happens T w x w') {i : Nat} {target : Option Value}
    (enrolled : x.enrolled? = some (i, target)) : i < w.rest.initializers.length := by
  cases happens with
  | @named j c present =>
    cases before : w.rest.ownerOf j with
    | none =>
      rw [before] at enrolled
      cases enrolled
      exact present
    | some owner =>
      rw [before] at enrolled
      cases enrolled
  | @asked j c param run running runs asks =>
    cases Occasion.enrolled?_asked enrolled
    exact asks.present
  | other => cases enrolled

/-- The first owner of an initializer is given to it while it has none. -/
theorem Happens.first?_eq_some (happens : Happens T w x w') (i : Nat) :
    x.first? = some i ↔ w.rest.ownerOf i = none ∧ (x.owner? i).isSome := by
  cases happens with
  | @named j c present =>
    by_cases same : j = i
    · subst same
      cases before : w.rest.ownerOf j <;> simp [Occasion.first?, Occasion.owner?]
    · cases before : w.rest.ownerOf j <;> simp [Occasion.first?, Occasion.owner?, same]
  | asked => simp [Occasion.first?, Occasion.owner?]
  | other => simp [Occasion.first?, Occasion.owner?]

end World
end StateWeave
