import Mathlib.Tactic.SplitIfs
import StateWeave.Proofs.Registrations

/-! Any number of parties register actions on the channels of one registry at the same time. Each of
them reads its channel and swaps its action in behind what it read, unless somebody else was quicker;
then it starts over. Whatever the order of these steps, no registration is lost: a channel holds the
actions of the calls that got through, in the order in which they did. Each step is atomic and sees
all that was done before it. -/

namespace StateWeave

variable {A : Type}

/-- Where nobody waits for it to be read, reading a channel leaves it alone. -/
theorem Channel.read_of_alone {c : Channel A} (alone : c.rivals = []) :
    c.read = (c.current.value, c) := by
  cases c
  subst alone
  rfl

namespace Channel

variable (c : Channel A) (seen : Composite A) (a : A)

/-- The channel without those who wait for it to be read. -/
def alone : Channel A :=
  { c with rivals := [] }

/-- What those who wait try to put on the channel when it is read. -/
def turns : List A :=
  c.rivals.filterMap (·.head?)

theorem attempt_alone :
    c.alone.attempt seen a = ((c.attempt seen a).1, (c.attempt seen a).2.alone) := rfl

theorem attempts_alone (as : List A) :
    as.foldl (fun c a => (c.attempt seen a).2) c.alone =
      (as.foldl (fun c a => (c.attempt seen a).2) c).alone := by
  induction as generalizing c with
  | nil => rfl
  | cons a as ih => exact ih (c.attempt seen a).2

theorem read_alone :
    c.read.2.alone =
      c.turns.foldl (fun tried a => (tried.attempt c.current.value a).2) c.alone := by
  rw [attempts_alone]
  rfl

variable {c a}

/-- Whoever has to read again does so after somebody had a turn. -/
theorem waiting_retry_lt (failed : (c.read.2.attempt c.current.value a).1 = false) :
    (c.read.2.attempt c.current.value a).2.waiting < c.waiting := by
  refine waiting_read_lt c fun same => ?_
  rw [attempt, AtomicRef.compareAndSet, same] at failed
  simp [BEq.beq] at failed

end Channel

theorem Registry.setChannel_self (r : Registry A) (ch : ChannelName) :
    r.setChannel (r.channel ch) ch = r := by
  cases ch <;> rfl

theorem Registry.setChannel_setChannel (r : Registry A) (c c' : Channel A) (ch : ChannelName) :
    (r.setChannel c ch).setChannel c' ch = r.setChannel c' ch := by
  cases ch <;> rfl

/-- The registry without those who wait for a channel to be read. -/
def Registry.alone (r : Registry A) : Registry A :=
  { r with unload := r.unload.alone, load := r.load.alone }

theorem Registry.alone_setChannel (r : Registry A) (c : Channel A) (ch : ChannelName) :
    (r.setChannel c ch).alone = r.alone.setChannel c.alone ch := by
  cases ch <;> rfl

/-- Where a call is in its loop. -/
inductive Stage (A : Type)
  | reading
  | swapping (seen : Composite A)
  | returned

/-- A call that registers an action on a channel. -/
structure Call (A : Type) where
  channel : ChannelName
  action : A
  stage : Stage A := .reading

/-- A registry, and the calls that were made on it so far. -/
structure Contest (A : Type) where
  registry : Registry A
  calls : List (Call A) := []

/-- What happens at a contest; calls are known by their numbers. -/
inductive Moment (A : Type)
  | called (channel : ChannelName) (action : A)
  | read (call : Nat)
  | swapped (call : Nat) (channel : ChannelName) (action : A) (done : Bool)
  /-- Somebody takes the actions that a channel holds, to run them. -/
  | invoked (channel : ChannelName) (taken : List A)

namespace Moment

/-- The call that gets through. -/
def through? : Moment A → Option Nat
  | .swapped k _ _ true => some k
  | _ => none

/-- The calls that got through, in the order in which they did. -/
def through (moments : List (Moment A)) : List Nat :=
  moments.filterMap (·.through?)

/-- The action that is put on a channel. -/
def put? (ch : ChannelName) : Moment A → Option A
  | .swapped _ ch' a true => if ch' = ch then some a else none
  | _ => none

end Moment

namespace Contest

/-- A contest for a registry that is new. -/
def opened (module : String) : Contest A :=
  ⟨{ module := module }, []⟩

/-- What a channel holds. -/
def actions (s : Contest A) (ch : ChannelName) : List A :=
  (s.registry.channel ch).actions

/-- One atomic step: of a call, or of somebody who makes a call or takes the actions. -/
inductive Step : Contest A → Moment A → Contest A → Prop
  | call (s : Contest A) (ch : ChannelName) (a : A) :
    Step s (.called ch a) { s with calls := s.calls ++ [⟨ch, a, .reading⟩] }
  | read {s : Contest A} {k : Nat} {x : Call A} (found : s.calls[k]? = some x)
    (stage : x.stage = .reading) :
    Step s (.read k) { s with
      calls := s.calls.set k
        { x with stage := .swapping (s.registry.channel x.channel).current.value } }
  | swap {s : Contest A} {k : Nat} {x : Call A} {seen : Composite A} {done : Bool} {c : Channel A}
    (found : s.calls[k]? = some x) (stage : x.stage = .swapping seen)
    (attempted : (s.registry.channel x.channel).attempt seen x.action = (done, c)) :
    Step s (.swapped k x.channel x.action done)
      { registry := s.registry.setChannel c x.channel
        calls := s.calls.set k { x with stage := if done then .returned else .reading } }
  | invoke {s : Contest A} {ch : ChannelName} {taken : List A} {r : Registry A}
    (took : s.registry.snapshot ch = (taken, r)) :
    Step s (.invoked ch taken) { s with registry := r }

/-- The steps of any interleaving, in their order. -/
inductive Run (s₀ : Contest A) : List (Moment A) → Contest A → Prop
  | start : Run s₀ [] s₀
  | step {moments : List (Moment A)} {m : Moment A} {s s' : Contest A} (run : Run s₀ moments s)
    (step : Step s m s') : Run s₀ (moments ++ [m]) s'

variable {s s' s₀ : Contest A} {m : Moment A} {moments later : List (Moment A)} {module : String}

/-- The calls are the only ones that work on the registry, and what each of them saw in its channel is
there still or was replaced by something newer. -/
structure Sound (s : Contest A) : Prop where
  registry : s.registry.Sound fun _ => True
  alone : ∀ ch, (s.registry.channel ch).rivals = []
  saw : ∀ (k : Nat) (x : Call A) (seen : Composite A), s.calls[k]? = some x →
    x.stage = .swapping seen → (s.registry.channel x.channel).Saw seen

theorem sound_opened : (opened module : Contest A).Sound where
  registry := Registry.sound_new module
  alone := by rintro (_ | _) <;> rfl
  saw k x seen found := by simp [opened] at found

/-- A swap goes through where the call saw the latest value, and then puts its action behind all
others; else it leaves the channel as it is. Nobody is shown an older value again. -/
theorem swap_cases {c c' : Channel A} {seen : Composite A} {a : A} {done : Bool}
    (sound : c.Sound fun _ => True) (saw : c.Saw seen) (attempted : c.attempt seen a = (done, c')) :
    c'.Sound (fun _ => True) ∧ c'.rivals = c.rivals ∧ (∀ seen', c.Saw seen' → c'.Saw seen') ∧
      (done = false → c'.current = c.current) ∧
      c'.actions = c.actions ++ if done then [a] else [] := by
  have stamped := sound.stamped
  obtain ⟨sound', -, rivals, -⟩ := Channel.attempt_keeps sound saw trivial (a := a)
  rcases Channel.attempt_cases saw a with ⟨rfl, succeeds⟩ | ⟨older, fails⟩
  · rw [attempted] at succeeds sound' rivals
    obtain ⟨rfl, rfl⟩ := Prod.mk.inj succeeds
    refine ⟨sound', rivals, ?_, nofun, rfl⟩
    rintro seen' (rfl | older)
    · exact .inr stamped
    · exact .inr (Nat.lt_trans older stamped)
  · rw [attempted] at fails sound' rivals
    obtain ⟨rfl, rfl⟩ := Prod.mk.inj fails
    exact ⟨sound', rivals, fun _ saw => saw, fun _ => rfl, (List.append_nil _).symm⟩

theorem snapshot_of_alone (sound : s.Sound) (ch : ChannelName) :
    s.registry.snapshot ch = (s.actions ch, s.registry) := by
  rw [Registry.snapshot, Channel.read_of_alone (sound.alone ch)]
  exact congrArg _ (s.registry.setChannel_self ch)

/-- A call that was just made is the last one. -/
theorem getElem?_call {calls : List (Call A)} {x y : Call A} {k : Nat}
    (found : (calls ++ [y])[k]? = some x) : calls[k]? = some x ∨ k = calls.length ∧ x = y := by
  rw [List.getElem?_append] at found
  split_ifs at found with inRange
  · exact .inl found
  · obtain ⟨last, rfl⟩ : k - calls.length = 0 ∧ y = x := by
      simpa [List.getElem?_singleton] using found
    exact .inr ⟨by omega, rfl⟩

/-- A call that made a step has changed, the others have not. -/
theorem getElem?_stepped {calls : List (Call A)} {x y : Call A} {k k' : Nat}
    (found : (calls.set k y)[k']? = some x) : k' = k ∧ x = y ∨ k' ≠ k ∧ calls[k']? = some x := by
  rw [List.getElem?_set] at found
  split_ifs at found with same inRange
  · exact .inl ⟨same.symm, (Option.some.inj found).symm⟩
  · exact .inr ⟨Ne.symm same, found⟩

/-- What one step keeps, and what it puts on each channel. -/
theorem Step.keeps (sound : s.Sound) (step : Step s m s') :
    s'.Sound ∧ ∀ ch, s'.actions ch = s.actions ch ++ (m.put? ch).toList := by
  cases step with
  | call ch a =>
    refine ⟨⟨sound.registry, sound.alone, ?_⟩, fun ch' => (List.append_nil _).symm⟩
    intro k x seen found stage
    rcases getElem?_call found with found | ⟨-, rfl⟩
    · exact sound.saw k x seen found stage
    · cases stage
  | @read k x found stage =>
    refine ⟨⟨sound.registry, sound.alone, ?_⟩, fun ch' => (List.append_nil _).symm⟩
    intro k' x' seen found' stage'
    rcases getElem?_stepped found' with ⟨-, rfl⟩ | ⟨-, found'⟩
    · cases stage'
      exact .inl rfl
    · exact sound.saw k' x' seen found' stage'
  | @swap k x seen done c found stage attempted =>
    obtain ⟨channel, rivals, mono, -, put⟩ := swap_cases (sound.registry x.channel)
      (sound.saw k x seen found stage) attempted
    refine ⟨⟨sound.registry.setChannel _ channel, ?_, ?_⟩, ?_⟩
    · intro ch
      rw [Registry.channel_setChannel]
      split_ifs
      · rw [rivals, sound.alone]
      · exact sound.alone ch
    · intro k' x' seen' found' stage'
      have saw : (s.registry.channel x'.channel).Saw seen' := by
        rcases getElem?_stepped found' with ⟨-, rfl⟩ | ⟨-, found'⟩
        · cases done <;> cases stage'
        · exact sound.saw k' x' seen' found' stage'
      rw [Registry.channel_setChannel]
      split_ifs with same
      · exact mono seen' (same ▸ saw)
      · exact saw
    · intro ch
      rw [actions, Registry.channel_setChannel]
      split_ifs with same
      · subst same
        rw [put]
        cases done <;> simp [Moment.put?, actions]
      · cases done <;> simp [Moment.put?, actions, Ne.symm same]
  | @invoke ch taken r took =>
    rw [snapshot_of_alone sound] at took
    obtain ⟨rfl, rfl⟩ := Prod.mk.inj took
    exact ⟨sound, fun ch' => (List.append_nil _).symm⟩

/-- What happened is the work of the calls there are: each of them returned when it got through, which
it did at most once. -/
structure Accounts (moments : List (Moment A)) (s : Contest A) : Prop where
  present : ∀ k ch a done, .swapped k ch a done ∈ moments →
    ∃ stage, s.calls[k]? = some ⟨ch, a, stage⟩
  returned : ∀ (k : Nat) (x : Call A), s.calls[k]? = some x →
    (x.stage = .returned ↔ k ∈ Moment.through moments)
  once : (Moment.through moments).Nodup

theorem Accounts.lt (accounts : Accounts moments s) {k : Nat}
    (through : k ∈ Moment.through moments) : k < s.calls.length := by
  obtain ⟨m, mem, got⟩ := List.mem_filterMap.1 through
  cases m with
  | swapped k' ch a done =>
    cases done with
    | false => cases got
    | true =>
      cases got
      obtain ⟨stage, found⟩ := accounts.present k ch a true mem
      exact (List.getElem?_eq_some_iff.1 found).1
  | _ => cases got

/-- No step takes back a call, or changes what it is about. -/
theorem Step.offers (step : Step s m s') {k : Nat} {x : Call A} (found : s.calls[k]? = some x) :
    ∃ stage, s'.calls[k]? = some { x with stage := stage } := by
  have inRange := (List.getElem?_eq_some_iff.1 found).1
  have stepped {k' : Nat} {x' : Call A} (found' : s.calls[k']? = some x') (stage : Stage A) :
      ∃ stage', (s.calls.set k' { x' with stage := stage })[k]? =
        some { x with stage := stage' } := by
    by_cases same : k' = k
    · subst same
      obtain rfl := Option.some.inj (found.symm.trans found')
      exact ⟨stage, by simp [inRange]⟩
    · exact ⟨x.stage, by rw [List.getElem?_set_ne same, found]⟩
  cases step with
  | call => exact ⟨x.stage, (List.getElem?_append_left inRange).trans found⟩
  | read found' => exact stepped found' _
  | swap found' => exact stepped found' _
  | invoke => exact ⟨x.stage, found⟩

theorem accounts_opened : Accounts [] (opened module : Contest A) :=
  ⟨nofun, fun k x found => by simp [opened] at found, List.nodup_nil⟩

theorem Accounts.step (accounts : Accounts moments s) (step : Step s m s') :
    Accounts (moments ++ [m]) s' := by
  have earlier {k : Nat} {ch : ChannelName} {a : A} {done : Bool}
      (mem : .swapped k ch a done ∈ moments) : ∃ stage, s'.calls[k]? = some ⟨ch, a, stage⟩ := by
    obtain ⟨stage, found⟩ := accounts.present k ch a done mem
    exact step.offers found
  have through : Moment.through (moments ++ [m]) = Moment.through moments ++ m.through?.toList := by
    cases h : m.through? <;> simp [Moment.through, h]
  have offers {k : Nat} {x : Call A} := step.offers (k := k) (x := x)
  cases step with
  | call ch a =>
    refine ⟨fun k ch a done mem => earlier (by simpa using mem), fun k x found => ?_, ?_⟩
    · rw [through]
      rcases getElem?_call found with found | ⟨rfl, rfl⟩
      · simpa [Moment.through?] using accounts.returned k x found
      · have := fun through => Nat.lt_irrefl _ (accounts.lt (k := s.calls.length) through)
        simpa [Moment.through?] using this
    · simpa [through, Moment.through?] using accounts.once
  | @read k x found stage =>
    refine ⟨fun k ch a done mem => earlier (by simpa using mem), fun k' x' found' => ?_, ?_⟩
    · rw [through]
      rcases getElem?_stepped found' with ⟨rfl, rfl⟩ | ⟨-, found'⟩
      · have := accounts.returned k' x found
        simpa [Moment.through?, stage] using this
      · simpa [Moment.through?] using accounts.returned k' x' found'
    · simpa [through, Moment.through?] using accounts.once
  | @swap k x seen done c found stage attempted =>
    have running := accounts.returned k x found
    rw [stage] at running
    have notYet : k ∉ Moment.through moments := by simpa using running
    refine ⟨fun k' ch a done' mem => ?_, fun k' x' found' => ?_, ?_⟩
    · rcases List.mem_append.1 mem with mem | mem
      · exact earlier mem
      · cases List.mem_singleton.1 mem
        exact offers found
    · rw [through]
      rcases getElem?_stepped found' with ⟨rfl, rfl⟩ | ⟨other, found'⟩
      · cases done <;> simp [Moment.through?, notYet]
      · have := accounts.returned k' x' found'
        cases done <;> simpa [Moment.through?, other] using this
    · rw [through]
      cases done with
      | false => simpa [Moment.through?] using accounts.once
      | true =>
        have other : ∀ k' ∈ Moment.through moments, k' ≠ k := fun k' mem same => notYet (same ▸ mem)
        simpa [Moment.through?, List.nodup_append] using ⟨accounts.once, other⟩
  | @invoke ch taken r took =>
    refine ⟨fun k ch a done mem => earlier (by simpa using mem), fun k x found => ?_, ?_⟩
    · simpa [through, Moment.through?] using accounts.returned k x found
    · simpa [through, Moment.through?] using accounts.once

/-- A swap that fails leaves both channels as they are. -/
theorem Step.failed (sound : s.Sound) {k : Nat} {ch : ChannelName} {a : A}
    (step : Step s (.swapped k ch a false) s') (ch' : ChannelName) :
    (s'.registry.channel ch').current = (s.registry.channel ch').current := by
  cases step with
  | swap found stage attempted =>
    obtain ⟨-, -, -, same, -⟩ := swap_cases (sound.registry _) (sound.saw _ _ _ found stage) attempted
    rw [Registry.channel_setChannel]
    split_ifs with here
    · rw [same rfl, here]
    · rfl

theorem Run.sound (run : Run s₀ moments s) (sound : s₀.Sound) : s.Sound := by
  induction run with
  | start => exact sound
  | step _ step ih => exact (step.keeps ih).1

/-- A run puts on each channel what its calls got through with. -/
theorem Run.actions_eq (run : Run s₀ moments s) (sound : s₀.Sound) (ch : ChannelName) :
    s.actions ch = s₀.actions ch ++ moments.filterMap (·.put? ch) := by
  induction run with
  | start => simp
  | @step moments m s s' run step ih =>
    rw [(step.keeps (run.sound sound)).2, ih, List.filterMap_append, List.append_assoc]
    cases h : m.put? ch <;> simp [h]

theorem Run.accounts (run : Run (opened module) moments s) : Accounts moments s := by
  induction run with
  | start => exact accounts_opened
  | step _ step ih => exact ih.step step

/-- What somebody took from a channel stays in front of all that comes to be on it. -/
theorem Run.taken (run : Run s₀ moments s) (sound : s₀.Sound) {ch : ChannelName} {taken : List A}
    (invoked : .invoked ch taken ∈ moments) : taken <+: s.actions ch := by
  induction run with
  | start => cases invoked
  | @step moments m s s' run step ih =>
    have sound' := run.sound sound
    rw [(step.keeps sound').2]
    rcases List.mem_append.1 invoked with earlier | last
    · exact (ih earlier).trans (List.prefix_append ..)
    · cases List.mem_singleton.1 last
      cases step with
      | invoke took =>
        rw [snapshot_of_alone sound'] at took
        cases took
        exact List.prefix_append ..

/-- What holds after these moments, wherever else the calls got. -/
structure Kept (moments : List (Moment A)) (s : Contest A) : Prop where
  holds : ∀ ch, s.actions ch = moments.filterMap (·.put? ch)
  accounts : Accounts moments s
  failed : ∀ k ch a s', Step s (.swapped k ch a false) s' →
    ∀ ch', (s'.registry.channel ch').current = (s.registry.channel ch').current
  grows : ∀ later s', Run s later s' → ∀ ch, s.actions ch <+: s'.actions ch
  taken : ∀ ch taken, .invoked ch taken ∈ moments → taken <+: s.actions ch

/-- Whatever the order of the steps of all calls, each channel holds the actions of exactly the calls
that got through on it, each once and in the order in which they did; a swap that fails changes
nothing, and what a channel holds only ever grows at its end. -/
theorem no_registration_lost (run : Run (opened module) moments s) : Kept moments s where
  holds ch := by
    rw [run.actions_eq sound_opened]
    cases ch <;> rfl
  accounts := run.accounts
  failed _ _ _ _ step := step.failed (run.sound sound_opened)
  grows later s' further ch := by
    rw [further.actions_eq (run.sound sound_opened)]
    exact List.prefix_append ..
  taken _ _ := run.taken sound_opened

/-- Two calls read the empty channel; the one that is slower to swap has to read again, after somebody
took the action of the other. -/
theorem no_registration_lost_rivals : ∃ s : Contest Nat,
    let moments : List (Moment Nat) := [.called .load 1, .called .load 2, .read 0, .read 1,
      .swapped 1 .load 2 true, .swapped 0 .load 1 false, .invoked .load [2], .read 0,
      .swapped 0 .load 1 true]
    Run (opened "app") moments s ∧ Kept moments s ∧ s.actions .load = [2, 1] := by
  have first : Run (opened "app") [.called .load 1] _ := .step .start (.call _ _ _)
  have second := first.step (.call _ .load 2)
  have read := second.step (.read (k := 0) rfl rfl)
  have read' := read.step (.read (k := 1) rfl rfl)
  have swapped := read'.step (.swap (k := 1) rfl rfl rfl)
  have failed := swapped.step (.swap (k := 0) rfl rfl rfl)
  have taken : Run _ _ _ := failed.step (@Step.invoke _ _ .load _ _ rfl)
  have again := taken.step (.read (k := 0) rfl rfl)
  have run := again.step (.swap (k := 0) rfl rfl rfl)
  exact ⟨_, run, no_registration_lost run, rfl⟩

/-! ### The loop of a registration -/

/-- Some order of steps leads from the one to the other. -/
def Reaches (s s' : Contest A) : Prop :=
  ∃ moments, Run s moments s'

theorem Reaches.refl (s : Contest A) : Reaches s s :=
  ⟨[], .start⟩

theorem Reaches.trans {s'' : Contest A} (first : Reaches s s') (second : Reaches s' s'') :
    Reaches s s'' := by
  obtain ⟨moments, run⟩ := second
  induction run with
  | start => exact first
  | step _ step ih =>
    obtain ⟨earlier, run⟩ := ih
    exact ⟨_, run.step step⟩

theorem Step.reaches (step : Step s m s') : Reaches s s' :=
  ⟨_, .step .start step⟩

section Channel

variable (r : Registry A) (c : Channel A) (ch : ChannelName) (seen : Composite A)
  (before after : List (Call A))

theorem reaches_read (a : A) :
    Reaches ⟨r.setChannel c ch, before ++ ⟨ch, a, .reading⟩ :: after⟩
      ⟨r.setChannel c ch, before ++ ⟨ch, a, .swapping c.current.value⟩ :: after⟩ := by
  have step := Step.read (s := ⟨r.setChannel c ch, before ++ ⟨ch, a, .reading⟩ :: after⟩)
    (k := before.length) (x := ⟨ch, a, .reading⟩) (by simp) rfl
  simp only [Registry.channel_setChannel, if_true, List.set_append_right _ _ (Nat.le_refl _),
    Nat.sub_self, List.set_cons_zero] at step
  exact step.reaches

theorem reaches_swap (a : A) :
    Reaches ⟨r.setChannel c ch, before ++ ⟨ch, a, .swapping seen⟩ :: after⟩
      ⟨r.setChannel (c.attempt seen a).2 ch,
        before ++ ⟨ch, a, if (c.attempt seen a).1 then .returned else .reading⟩ :: after⟩ := by
  have attempted : ((r.setChannel c ch).channel ch).attempt seen a =
      ((c.attempt seen a).1, (c.attempt seen a).2) := by
    rw [Registry.channel_setChannel, if_pos rfl]
  have step := Step.swap (s := ⟨r.setChannel c ch, before ++ ⟨ch, a, .swapping seen⟩ :: after⟩)
    (k := before.length) (x := ⟨ch, a, .swapping seen⟩) (by simp) rfl attempted
  simp only [Registry.setChannel_setChannel, List.set_append_right _ _ (Nat.le_refl _), Nat.sub_self,
    List.set_cons_zero] at step
  exact step.reaches

/-- More calls are made, and all of them read. -/
theorem reaches_seen (as : List A) :
    Reaches ⟨r.setChannel c ch, before⟩
      ⟨r.setChannel c ch, before ++ as.map (⟨ch, ·, .swapping c.current.value⟩)⟩ := by
  induction as generalizing before with
  | nil => simpa using Reaches.refl _
  | cons a as ih =>
    have called := (Step.call ⟨r.setChannel c ch, before⟩ ch a).reaches
    have read := reaches_read r c ch before [] a
    have rest := ih (before ++ [⟨ch, a, .swapping c.current.value⟩])
    rw [List.append_assoc] at rest
    exact (called.trans read).trans rest

/-- One after the other they swap. -/
theorem reaches_tried (as : List A) :
    ∃ others, Reaches ⟨r.setChannel c ch, before ++ as.map (⟨ch, ·, .swapping seen⟩)⟩
      ⟨r.setChannel (as.foldl (fun c a => (c.attempt seen a).2) c) ch, before ++ others⟩ := by
  induction as generalizing c before with
  | nil => exact ⟨[], .refl _⟩
  | cons a as ih =>
    have swapped := reaches_swap r c ch seen before (as.map (⟨ch, ·, .swapping seen⟩)) a
    generalize (if (c.attempt seen a).1 then Stage.returned else .reading) = stage at swapped
    obtain ⟨others, rest⟩ := ih (c.attempt seen a).2 (before ++ [⟨ch, a, stage⟩])
    rw [List.append_assoc, List.append_assoc] at rest
    exact ⟨⟨ch, a, stage⟩ :: others, swapped.trans rest⟩

theorem reaches_registerWithin (n : Nat) (a : A) (enough : c.waiting < n) :
    ∃ others, Reaches ⟨r.setChannel c.alone ch, ⟨ch, a, .reading⟩ :: after⟩
      ⟨r.setChannel (Channel.registerWithin n c a).alone ch, ⟨ch, a, .returned⟩ :: others⟩ := by
  induction n generalizing c after with
  | zero => omega
  | succ n ih =>
    have read := reaches_read r c.alone ch [] after a
    have rivals := reaches_seen r c.alone ch (⟨ch, a, .swapping c.current.value⟩ :: after) c.turns
    obtain ⟨others, tried⟩ := reaches_tried r c.alone ch c.current.value
      (⟨ch, a, .swapping c.current.value⟩ :: after) c.turns
    rw [← Channel.read_alone] at tried
    have swapped := reaches_swap r c.read.2.alone ch c.current.value [] (after ++ others) a
    have round := ((read.trans rivals).trans tried).trans swapped
    rw [Channel.attempt_alone] at round
    rw [Channel.registerWithin_succ]
    split_ifs at round ⊢ with done
    · exact ⟨_, round⟩
    · obtain ⟨others', rest⟩ := ih (c.read.2.attempt c.current.value a).2 (after ++ others)
        (Nat.lt_of_lt_of_le (Channel.waiting_retry_lt (by simpa using done))
          (Nat.le_of_lt_succ enough))
      exact ⟨others', round.trans rest⟩

end Channel

/-- Those who wait for a channel to be read are calls like any other: what a registration does, with
their turns in between, is a run of its own call and theirs. -/
theorem reaches_register (r : Registry A) (ch : ChannelName) (a : A) :
    ∃ others, Reaches ⟨r.alone, [⟨ch, a, .reading⟩]⟩
      ⟨(r.register ch a).alone, ⟨ch, a, .returned⟩ :: others⟩ := by
  have reached := reaches_registerWithin r.alone (r.channel ch) ch [] _ a (Nat.lt_succ_self _)
  rw [← Registry.alone_setChannel, ← Registry.alone_setChannel, Registry.setChannel_self] at reached
  exact reached

end Contest
end StateWeave
