import Mathlib.Data.List.Basic
import StateWeave.Proofs.Occasions

/-! Each channel of a module holds one action for every initializer that got an owner, and one for
every instantiation that was kept, in the order in which this came about: no owner that takes over,
no subscription that fails, and none that finds its class, adds to them. -/

namespace StateWeave

/-- What a registered unit belongs to, and the class it is bound to, if it is. -/
def Action.bound? : Action → Option (Nat × Option Nat)
  | .unit i _ none => some (i, none)
  | .unit i _ (some (.ref (.cls c))) => some (i, some c)
  | _ => none

namespace World

open Manner

/-- One thing after the other. -/
inductive Course (T : Script → Prop) (w₀ : World) : List Occasion → World → Prop
  | start : Course T w₀ [] w₀
  | step {occasions : List Occasion} {x : Occasion} {w w' : World}
    (course : Course T w₀ occasions w) (happens : Happens T w x w') :
    Course T w₀ (occasions ++ [x]) w'

variable {T : Script → Prop} {w w' : World} {x : Occasion}

/-- What a course keeps, and what it adds up to. -/
structure Ledger (T : Script → Prop) (w₀ : World) (occasions : List Occasion) (w : World) : Prop where
  orderly : w.Orderly T
  present : ∀ x ∈ occasions, ∀ i target, x.enrolled? = some (i, target) →
    i < w.rest.initializers.length
  holds : ∀ m ch, w.registries.under m ch =
    w₀.registries.under m ch ++ occasions.filterMap (·.action? w.rest.initializers m ch)
  kept : w.rest.instantiations = w₀.rest.instantiations ++ occasions.filterMap (·.published?)
  latest : ∀ i, w.rest.ownerOf i =
    (occasions.filterMap (·.owner? i)).getLast?.or (w₀.rest.ownerOf i)
  once : (occasions.filterMap (·.first?)).Nodup
  first : ∀ i, i ∈ occasions.filterMap (·.first?) ↔
    w₀.rest.ownerOf i = none ∧ (w.rest.ownerOf i).isSome

theorem Ledger.start {w₀ : World} (orderly : w₀.Orderly T) : Ledger T w₀ [] w₀ := by
  refine ⟨orderly, nofun, fun m ch => by simp, by simp, fun i => rfl, List.nodup_nil, fun i => ?_⟩
  cases w₀.rest.ownerOf i <;> simp

theorem Ledger.step {w₀ : World} {occasions : List Occasion} (ledger : Ledger T w₀ occasions w)
    (happens : Happens T w x w') : Ledger T w₀ (occasions ++ [x]) w' := by
  obtain ⟨orderly, follows⟩ := happens.follows ledger.orderly
  have present : ∀ y ∈ occasions ++ [x], ∀ i target, y.enrolled? = some (i, target) →
      i < w.rest.initializers.length := by
    intro y mem i target enrolled
    rcases List.mem_append.1 mem with earlier | last
    · exact ledger.present y earlier i target enrolled
    · cases List.mem_singleton.1 last
      exact happens.present enrolled
  refine ⟨orderly, fun y mem i target enrolled =>
    Nat.lt_of_lt_of_le (present y mem i target enrolled) follows.grows,
    fun m ch => ?_, ?_, fun i => ?_, ?_, fun i => ?_⟩
  · -- Initializers keep their modules and units, so the earlier actions are still what they were.
    have actions : ∀ y ∈ occasions ++ [x],
        y.action? w'.rest.initializers m ch = y.action? w.rest.initializers m ch := fun y mem =>
      Occasion.action?_congr follows.initializers (present y mem) m ch
    rw [follows.holds, ledger.holds, List.append_assoc, List.filterMap_congr actions,
      List.filterMap_append]
    cases action : x.action? w.rest.initializers m ch <;> simp [action]
  · rw [follows.kept, ledger.kept, List.append_assoc, List.filterMap_append]
    cases published : x.published? <;> simp [published]
  · rw [follows.owners, ledger.latest, List.filterMap_append]
    cases owner : x.owner? i <;> simp [owner]
  · rw [List.filterMap_append]
    cases first : x.first? with
    | none => simpa [first] using ledger.once
    | some i =>
      obtain ⟨unowned, -⟩ := (happens.first?_eq_some i).1 first
      have new : i ∉ occasions.filterMap (·.first?) := fun mem => by
        have owned := ((ledger.first i).1 mem).2
        rw [unowned] at owned
        cases owned
      simp only [List.filterMap_cons, first, List.filterMap_nil]
      exact List.nodup_append.2 ⟨ledger.once, by simp, fun a mem b last same =>
        new (List.mem_singleton.1 last ▸ same ▸ mem)⟩
  · have told : i ∈ (occasions ++ [x]).filterMap (·.first?) ↔
        i ∈ occasions.filterMap (·.first?) ∨ x.first? = some i := by
      rw [List.filterMap_append, List.mem_append]
      cases first : x.first? <;> simp [first, eq_comm]
    have latest := ledger.latest i
    rw [told, ledger.first, happens.first?_eq_some, follows.owners]
    rcases before : w.rest.ownerOf i with _ | owner
    · rw [before] at latest
      have unowned := (Option.or_eq_none_iff.1 latest.symm).2
      cases x.owner? i <;> simp [unowned]
    · cases x.owner? i <;> simp

theorem Course.ledger {w₀ : World} {occasions : List Occasion} (course : Course T w₀ occasions w)
    (orderly : w₀.Orderly T) : Ledger T w₀ occasions w := by
  induction course with
  | start => exact .start orderly
  | step _ happens ih => exact ih.step happens

/-! ### What may happen next -/

/-- A registered action runs its unit on the class it is bound to, or on the owner at that time. -/
theorem call_unit (run : Runner) (running : Option Value) {i : Nat} {y : Initializer}
    {ch : ChannelName} {code : UnitCode} {target : Option Value} {v : Value}
    (found : w.rest.initializers[i]? = some y) (unit : y.unit? ch = some code)
    (runsOn : target.or (w.rest.ownerOf i) = some v) :
    World.call run running (.unit i ch target) w = runUnit run running v code w := by
  have read : initializerAt i w = (.ok y, w) := by rw [← initializerOf_eq found]; rfl
  have owner : w.rest.ownerOf i = y.owner := by rw [Objects.ownerOf, found]; rfl
  rw [owner] at runsOn
  rw [World.call, Act.bind_apply, read]
  simp only [unit, runsOn]

/-- The class that was made for equal arguments is found. -/
theorem findInstantiation?_of_mem {c : Nat} {args : List Value} {z : Instantiation}
    (distinct : w.rest.instantiations.Pairwise fun x y =>
      ¬(x.origin = y.origin ∧ Value.sameAll x.args y.args = true))
    (mem : z ∈ w.rest.instantiations) (origin : z.origin = c)
    (same : Value.sameAll z.args args = true) : findInstantiation? w.rest c args = some z.cls := by
  rw [findInstantiation?]
  generalize w.rest.instantiations = kept at distinct mem
  induction kept with
  | nil => cases mem
  | cons y ys ih =>
    obtain ⟨head, tail⟩ := List.pairwise_cons.1 distinct
    rcases List.mem_cons.1 mem with rfl | later
    · simp [origin, same]
    · rw [List.find?_cons]
      split
      case h_1 hit =>
        obtain ⟨origin', same'⟩ : y.origin = c ∧ Value.sameAll y.args args = true := by
          simpa using hit
        exact absurd ⟨origin'.trans origin.symm, Value.sameAll_of_sameAll same' same⟩ (head z later)
      case h_2 => exact ih tail later

/-- Subscripting again gives the class there is, whatever code would set up a new one. -/
theorem Asks.again {i c : Nat} {param : Value} {z : Instantiation} (asks : w.Asks i c param)
    (orderly : w.Orderly T) (mem : z ∈ w.rest.instantiations) (origin : z.origin = c)
    (same : Value.sameAll z.args param.arguments = true)
    (lasting : changingAmong? w.rest.hierarchy param.arguments = none) :
    ∃ w', looking.allows w w' ∧ ∀ run running,
      World.subscript run running (Value.ofClass c) param w = (.ok (.cls z.cls), w') := by
  obtain ⟨v, looked, told⟩ := asks.subscript
  refine ⟨v, looked, fun run running => ?_⟩
  rw [told, lasting, findInstantiation?_of_mem orderly.distinct mem origin same]

/-- Without a class for the arguments the answer is that of making one and setting it up. -/
theorem Asks.attempted {i c : Nat} {param : Value} (asks : w.Asks i c param)
    (missing : findInstantiation? w.rest c param.arguments = none)
    (lasting : changingAmong? w.rest.hierarchy param.arguments = none) :
    ∃ v, looking.allows w v ∧ ∀ run running,
      (World.subscript run running (Value.ofClass c) param w).1 =
        (prepare run running c i param.arguments v).1.map .cls := by
  obtain ⟨v, looked, told⟩ := asks.subscript
  refine ⟨v, looked, fun run running => ?_⟩
  rw [told, missing, lasting]
  dsimp only
  rcases prepare run running c i param.arguments v with ⟨e | d, v'⟩ <;> rfl

/-- A failed attempt leaves the registries and the cache as they were. -/
theorem Asks.failed {i c : Nat} {param : Value} {run : Runner} {running : Option Value} {e : Failure}
    (asks : w.Asks i c param) (orderly : w.Orderly T) (runs : Runner.Discreet T run)
    (failed : World.subscript run running (Value.ofClass c) param w = (.error e, w')) :
    Aside w w' ∧ ∀ m ch, w'.registries.under m ch = w.registries.under m ch := by
  rcases asked_cases runs orderly.hears asks failed with
    ⟨aside, -, -⟩ | ⟨_, _, -, -, -, answer, -⟩
  · exact ⟨aside, (orderly.registries.moves aside.registries).2⟩
  · cases answer

/-- What holds after a course, and what the next thing to happen does. -/
structure Enrolled (T : Script → Prop) (w₀ : World) (occasions : List Occasion) (w : World) :
    Prop where
  ledger : Ledger T w₀ occasions w
  /-- A registered action runs on the class it is bound to, or else on the latest owner. -/
  runs : ∀ run running i y ch code target v, w.rest.initializers[i]? = some y →
    y.unit? ch = some code → target.or (w.rest.ownerOf i) = some v →
    World.call run running (.unit i ch target) w = runUnit run running v code w
  /-- An ordinary class that becomes the owner of a generic initializer can be subscripted. -/
  installs : ∀ i y c, w.rest.initializers[i]? = some y → y.isGeneric →
    w.rest.hierarchy.Ordinary c →
    (setOwner i (Value.ofClass c) w).2.rest.hierarchy.lookup? c subscriptionName =
      some (.subscription (.reify c i))
  /-- Without a class for the arguments one is made and set up. -/
  attempts : ∀ i c param, w.Asks i c param →
    findInstantiation? w.rest c param.arguments = none →
    changingAmong? w.rest.hierarchy param.arguments = none →
    ∃ v, looking.allows w v ∧ ∀ run running,
      (World.subscript run running (Value.ofClass c) param w).1 =
        (prepare run running c i param.arguments v).1.map .cls
  /-- If that fails, all is as it was. -/
  failed : ∀ run running i c param e w', Runner.Discreet T run → w.Asks i c param →
    World.subscript run running (Value.ofClass c) param w = (.error e, w') →
    Aside w w' ∧ ∀ m ch, w'.registries.under m ch = w.registries.under m ch
  /-- Equal arguments give the class there is, and no unit runs. -/
  again : ∀ i c param z, w.Asks i c param → z ∈ w.rest.instantiations → z.origin = c →
    Value.sameAll z.args param.arguments = true →
    changingAmong? w.rest.hierarchy param.arguments = none →
    ∃ w', looking.allows w w' ∧ ∀ run running,
      World.subscript run running (Value.ofClass c) param w = (.ok (.cls z.cls), w')

/-- A world with a generic initializer, and two classes that may own it. -/
def workshop : World :=
  [Step.make (.initializer "init" "app" (some (.mk true [.logClass]))
      (some (.mk true [.logAttribute "cls" "count"])) true),
    .cls "Box" "Box" "app" "Box" [.generic ["T"]] [] false,
    .cls "Crate" "Crate" "app" "Crate" [.generic ["T"]] [("count", .int 5)] false].foldl
    (fun w s => (World.step s w).2) (World.fresh {})

theorem orderly_workshop : workshop.Orderly areQuiet where
  registries := Registries.orderly_empty
  distinct := .nil
  hears := by
    have handlers : workshop.rest.handlers.length = 0 := by decide +kernel
    have loads : (workshop.rest.initializers.all fun x =>
        x.load.all fun code => areQuiet code.steps) = true := by decide +kernel
    refine ⟨fun i => ?_, fun x mem code load => ?_⟩
    · rw [List.length_eq_zero_iff.1 handlers]
      exact (rfl : areQuiet [])
    · simpa [load] using List.all_eq_true.1 loads x mem

/-- The initializer of the workshop gets a class as its owner. -/
def take (c : Nat) (w : World) : World :=
  (setOwner 0 (Value.ofClass c) w).2

/-- A class of the workshop is subscripted. -/
def order (c : Nat) (w : World) : World :=
  (subscript (runWithin depth) none (Value.ofClass c) (Value.ofClass Builtin.int) w).2

/-- The class that cannot be set up otherwise gets what its load unit asks for. -/
def stock (w : World) : World :=
  (exec (runWithin depth) none (.set "Box" "count" (.int 3)) w).2

theorem Course.trans {w₀ : World} {occasions later : List Occasion}
    (course : Course T w₀ occasions w) (further : Course T w later w') :
    Course T w₀ (occasions ++ later) w' := by
  induction further with
  | start => rwa [List.append_nil]
  | step _ happens ih =>
    rw [← List.append_assoc]
    exact ih.step happens

/-- Work that is a course of the first `n` initializers, and that publishes nothing. -/
def unfolding (T : Script → Prop) (n : Nat) : Manner Action Objects where
  allows (w w' : World) := w.Orderly T → n ≤ w.rest.initializers.length →
    n ≤ w'.rest.initializers.length ∧
      ∃ occasions, Course T w occasions w' ∧ occasions.filterMap (·.published?) = []
  refl w _ enough := ⟨enough, [], .start, rfl⟩
  trans {w w' w''} first second orderly enough := by
    obtain ⟨enough', occasions, course, nothing⟩ := first orderly enough
    obtain ⟨enough'', later, further, nothing'⟩ := second (course.ledger orderly).orderly enough'
    refine ⟨enough'', occasions ++ later, course.trans further, ?_⟩
    rw [List.filterMap_append, nothing, nothing', List.append_nil]

theorem unfolding_of_discreet {n : Nat} (discreetly : (discreet T).allows w w') :
    (unfolding T n).allows w w' := by
  intro orderly enough
  obtain ⟨made, grown, -⟩ := (discreetly orderly.hears).1.initializers
  refine ⟨?_, [.other], .step .start (.other discreetly), rfl⟩
  rw [grown, List.length_append]
  omega

theorem unfolding_setOwner {n i : Nat} (present : i < n) (c : Nat) :
    (unfolding T n).Keeps (setOwner i (Value.ofClass c)) := by
  intro w orderly enough
  have happens : Happens T w _ _ := .named c (by omega : i < w.rest.initializers.length)
  exact ⟨Nat.le_trans enough (happens.follows orderly).2.grows, [_], .step .start happens, rfl⟩

/-- A class statement is a course: the initializers of its namespace get the class as their owner. -/
theorem makeClass_course {run : Runner} {running : Option Value} (runs : Runner.Discreet T run)
    (orderly : w.Orderly T) (fail : ClassFault → Failure) {c : ClassObject}
    (present : ∀ e ∈ c.own.entries, ∀ i, e.2 = .ref (.initializer i) →
      i < w.rest.initializers.length) :
    ∃ occasions, Course T w occasions (makeClass run running fail c w).2 ∧
      occasions.filterMap (·.published?) = [] := by
  have unfolds : (unfolding T w.rest.initializers.length).Keeps (makeClass run running fail c) :=
    keeps_makeClass runs fail unfolding_of_discreet fun e mem i held id =>
      unfolding_setOwner (present e mem i held) id
  exact (unfolds w orderly (Nat.le_refl _)).2

end World

end StateWeave
