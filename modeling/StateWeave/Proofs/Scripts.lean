import StateWeave.Proofs.Conduct
import StateWeave.Script.Run

/-! Scripts that only register actions, ask for registries, run channels, log and fail are within
the rules of a reload cycle, and so is a world whose collector is such a script. -/

namespace StateWeave

mutual

/-- Steps that do nothing to a site but registering actions, asking for registries, running their
channels, logging and failing. -/
def Step.isTame : Step → Bool
  | .log _ | .registry _ | .invoke _ _ | .count _ _ => true
  | .register _ _ body => areTame body
  | .raise kind _ => !Failure.stopRequests.contains kind
  | _ => false

def areTame : List Step → Bool
  | [] => true
  | s :: ss => s.isTame && areTame ss

end

def Action.isTame : Action → Bool
  | .script body => areTame body
  | .unit _ _ _ => false

/-- The collector is tame as well. -/
def Objects.isTame (o : Objects) : Bool :=
  areTame o.barrier

/-- The rules of a world of tame scripts. -/
def tameRules : Rules Action Objects Failure where
  allows a := a.isTame = true
  holds o := o.isTame = true
  raises e := e.isReported = true

theorem areTame_eq_all (steps : Script) : areTame steps = steps.all Step.isTame := by
  induction steps with
  | nil => rfl
  | cons s ss ih => rw [areTame, List.all_cons, ih]

namespace Failure

theorem isReported_of_kind {e : Failure} (h : e.kind ∉ stopRequests) : e.isReported = true := by
  simpa [isReported] using h

theorem isReported_raised {kind : String} (h : kind ∉ stopRequests) (text : String) :
    (raised kind text).isReported = true :=
  isReported_of_kind h

theorem isReported_operation (fault : OperationFault) : (operation fault).isReported = true :=
  isReported_of_kind (by decide : "TypeError" ∉ stopRequests)

theorem isReported_speech (why : SpeechFault) : (speech why).isReported = true := by
  cases why <;> rfl

theorem isReported_refusal (text : String) : (refusal text).isReported = true :=
  isReported_of_kind (by decide : "TypeError" ∉ stopRequests)

section

variable {kind : String} (reported : kind ∉ stopRequests)
include reported

theorem isReported_worded (text? : Option String) : (worded kind text?).isReported = true := by
  cases text? <;> exact isReported_of_kind reported

theorem systemKind_reported (number : Plain) : systemKind kind number ∉ stopRequests := by
  have numbered : ∀ entry ∈ numberedKinds, entry.2 ∉ stopRequests := by decide
  unfold systemKind
  split
  · next n _ =>
    cases found : numberedKinds.find? (·.1 == n) with
    | none => exact reported
    | some entry => exact numbered entry (List.mem_of_find?_eq_some found)
  · exact reported

theorem systemFailure_reported (args : List Plain) :
    (systemFailure kind args).isReported = true := by
  unfold systemFailure
  split
  · next number reason places =>
    have other := systemKind_reported reported number
    dsimp only
    split
    · exact isReported_refusal _
    · split
      · split
        · exact isReported_worded other _
        · exact isReported_raised (by decide) _
      · exact isReported_worded other _
    · exact isReported_worded other _
  · exact isReported_worded reported _

theorem locatedFailure_reported (message : Plain) (place : List Plain) :
    (locatedFailure kind message place).isReported = true := by
  unfold locatedFailure
  split
  · split
    · exact isReported_refusal _
    · split
      · exact isReported_refusal _
      · exact isReported_worded reported _
  · exact isReported_refusal _

theorem syntaxFailure_reported (args : List Plain) :
    (syntaxFailure kind args).isReported = true := by
  unfold syntaxFailure
  split
  · exact isReported_raised reported _
  · split
    · exact locatedFailure_reported reported _ _
    · exact isReported_operation _
  · exact isReported_worded reported _

omit reported in
theorem groupFailure_reported (args : List Plain) : (groupFailure args).isReported = true := by
  unfold groupFailure
  split
  · split
    · exact isReported_refusal _
    · exact isReported_refusal _
    · split
      · exact isReported_raised (by decide) _
      · exact isReported_raised (by decide) _
      · exact isReported_refusal _
  · exact isReported_refusal _

theorem brokenText_reported (lead text : String) (start stop : Int) (reason : String) :
    (brokenText kind lead text start stop reason).isReported = true := by
  unfold brokenText
  split
  · split
    · exact isReported_raised reported _
    · exact isReported_of_kind reported
  · exact isReported_raised reported _

omit reported in
theorem textArgument_bind {number : Nat} {v : Plain} {f : String → Except Failure Failure}
    (goesOn : ∀ text, (made (f text)).isReported = true) :
    (made (textArgument number v >>= f)).isReported = true := by
  cases asked : textArgument number v with
  | ok text => exact goesOn text
  | error e =>
    unfold textArgument at asked
    split at asked
    · cases asked
    · obtain rfl := Except.error.inj asked
      exact isReported_refusal _

omit reported in
theorem countArgument_bind {v : Plain} {f : Int → Except Failure Failure}
    (goesOn : ∀ n, (made (f n)).isReported = true) :
    (made (countArgument v >>= f)).isReported = true := by
  cases asked : countArgument v with
  | ok n => exact goesOn n
  | error e =>
    unfold countArgument at asked
    split at asked
    · split at asked
      · cases asked
      · obtain rfl := Except.error.inj asked
        exact isReported_raised (by decide) _
    · obtain rfl := Except.error.inj asked
      exact isReported_refusal _

theorem codecFailure_reported (count : Nat) (args : List Plain) :
    (made (codecFailure kind count args)).isReported = true := by
  unfold codecFailure
  split
  · exact textArgument_bind fun text => countArgument_bind fun start =>
      countArgument_bind fun stop => textArgument_bind fun reason =>
        brokenText_reported reported _ _ _ _ _
  · exact textArgument_bind fun encoding => textArgument_bind fun text =>
      countArgument_bind fun start => countArgument_bind fun stop =>
        textArgument_bind fun reason => brokenText_reported reported _ _ _ _ _
  · exact textArgument_bind fun _ => countArgument_bind fun _ => countArgument_bind fun _ =>
      textArgument_bind fun _ => isReported_refusal _
  · exact isReported_refusal _

/-- Whatever it is raised with, a kind that is no request to stop gives a failure that is reported.
-/
theorem ofArguments_reported (args : List Plain) : (ofArguments kind args).isReported = true := by
  have renamed : (if kind = "EnvironmentError" || kind = "IOError" then "OSError" else kind) ∉
      stopRequests := by
    split
    · decide
    · exact reported
  unfold ofArguments
  dsimp only
  generalize (if kind = "EnvironmentError" || kind = "IOError" then "OSError" else kind) = kind at *
  split
  · exact systemFailure_reported renamed args
  · split
    · exact syntaxFailure_reported renamed args
    · split
      · exact groupFailure_reported args
      · split
        · exact codecFailure_reported renamed _ _
        · exact isReported_worded renamed _
        · exact isReported_worded renamed _

end

end Failure

namespace World

open Rules

variable {α β : Type} {run : Runner} {running : Option Value}

/-- Work on anything but the collector. -/
theorem behaves_objects {f : Objects → Objects} (barrier : ∀ o, (f o).barrier = o.barrier) :
    tameRules.Behaves (objects f) := by
  refine behaves_modify (fun _ => rfl) (fun _ => rfl) fun w fit => ?_
  show (f w.rest).isTame = true
  rw [Objects.isTame, barrier]
  exact fit.holds

theorem behaves_trace (s : Shown) : tameRules.Behaves (trace s) :=
  behaves_objects fun _ => rfl

theorem behaves_fail {e : Failure} (reported : e.isReported = true) :
    tameRules.Behaves (throw e : Run α) :=
  behaves_throw reported

/-! Registries -/

theorem behaves_channelNamed (label : String) : tameRules.Behaves (channelNamed label) := by
  unfold channelNamed
  split
  · exact behaves_pure _
  · exact behaves_fail (Failure.isReported_of_kind (by decide : "ValueError" ∉ _))

theorem behaves_describeRegistry (id : Nat) : tameRules.Behaves (describeRegistry id) :=
  (behaves_describe id).bind fun _ => behaves_pure _

theorem behaves_register (module label : String) {body : Script} (tame : areTame body = true) :
    tameRules.Behaves (do
      let id ← registryFor module
      addAction id (← channelNamed label) (.script body) : Run Unit) := by
  intro w fit
  refine (behaves_registryFor module w fit).bind fun id asked => ?_
  have fit' := (behaves_registryFor module w fit).fit fit
  obtain ⟨-, -, present⟩ := Registries.registryFor_keeps fit.sound module
  obtain rfl : (w.registries.registryFor module).1 = id := Except.ok.inj asked
  unfold channelNamed
  split
  · exact behavesAt_register present _ tame fit'
  · exact behaves_fail (Failure.isReported_of_kind (by decide : "ValueError" ∉ _)) _ fit'

theorem behaves_invoke {call : Action → Run Unit}
    (calls : ∀ a, a.isTame = true → tameRules.Behaves (call a)) (id : Nat) (ch : ChannelName) :
    tameRules.Behaves (Site.invoke call id ch) := by
  intro w fit
  refine (behaves_snapshot id ch w fit).bind fun actions taken => ?_
  obtain rfl : w.registries.actions id ch = actions := Except.ok.inj taken
  have fit' := (behaves_snapshot id ch w fit).fit fit
  exact behaves_forM (fun a held => calls a ((fit.sound.get id ch).held a held)) _ fit'

/-! Scripts -/

theorem behaves_call {run : Runner}
    (runs : ∀ running steps, areTame steps = true → tameRules.Behaves (run running steps))
    {a : Action} (tame : a.isTame = true) : tameRules.Behaves (call run running a) := by
  cases a with
  | script body => exact runs running body tame
  | unit => cases tame

theorem behaves_done {x : Run Unit} (behaves : tameRules.Behaves x) :
    tameRules.Behaves (done x) :=
  behaves.bind fun _ => behaves_pure _

theorem behaves_exec {run : Runner}
    (runs : ∀ running steps, areTame steps = true → tameRules.Behaves (run running steps))
    {s : Step} (tame : s.isTame = true) : tameRules.Behaves (exec run running s) := by
  cases s with
  | log text => exact behaves_done (behaves_trace _)
  | raise kind args =>
    have reported : kind ∉ Failure.stopRequests := by simpa [Step.isTame] using tame
    exact behaves_fail (Failure.ofArguments_reported reported args)
  | registry module =>
    exact (behaves_registryFor module).bind fun id =>
      (behaves_describeRegistry id).bind fun _ => behaves_pure _
  | register module channel body => exact behaves_done (behaves_register module channel tame)
  | invoke module channel =>
    refine behaves_done ((behaves_registryFor module).bind fun id => ?_)
    exact (behaves_channelNamed channel).bind fun ch =>
      behaves_invoke (fun a tame => behaves_call runs tame) id ch
  | count module channel =>
    refine Behaves.bind ((behaves_registryFor module).bind fun id => ?_) fun _ => behaves_pure _
    exact (behaves_channelNamed channel).bind fun ch =>
      (behaves_snapshot id ch).bind fun _ => behaves_pure _
  | _ => cases tame

/-- A tame script stays within the rules, however deep it may go. -/
theorem behaves_runWithin (n : Nat) (running : Option Value) (steps : Script)
    (tame : areTame steps = true) : tameRules.Behaves (runWithin n running steps) := by
  induction n generalizing running steps with
  | zero => exact behaves_fail (by decide)
  | succ n ih =>
    rw [areTame_eq_all, List.all_eq_true] at tame
    exact behaves_forM fun s mem => (behaves_exec ih (tame s mem)).map _

/-- A world of tame scripts has nothing but them run in a reload cycle. -/
theorem host_contained (n : Nat) (running : Option Value) :
    (host (runWithin n) running).Contained tameRules where
  call a tame := behaves_call (behaves_runWithin n) tame
  collect := by
    refine (behaves_trace _).bind fun _ => .get_bind fun w fit => ?_
    have tame : areTame w.rest.barrier = true := fit.holds
    exact behaves_runWithin n running _ tame w fit
  tell sink e message tame :=
    (behaves_trace _).bind fun _ => behaves_call (behaves_runWithin n) tame
  describe e := by
    cases e with
    | unspeakable kind why =>
      exact behaves_fail (Failure.isReported_speech why)
    | _ => exact behaves_pure _
  reports e reported := reported

end World

end StateWeave
