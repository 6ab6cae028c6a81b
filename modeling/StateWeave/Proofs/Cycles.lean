import StateWeave.Proofs.Conduct

/-! A reload cycle as a sequence of events. The phases go through the registries as planned, or up
to the first work that fails; a failure is put into words and told to the sink, and the orchestrator
ends up idle. -/

namespace StateWeave

variable {A σ E α : Type}

/-- Work that a cycle has done for it. -/
inductive Work (A : Type)
  | call (a : A)
  | collect

/-- What a cycle does, one thing after the other. -/
inductive CycleEvent (A E : Type)
  /-- The registries to work on were found, or could not be found. -/
  | found (registries : List Nat)
  | unfound (e : E)
  | entered (phase : Phase)
  /-- The actions of a channel were taken, since the turn of its registry had come. -/
  | took (registry : Nat) (ch : ChannelName) (actions : List A)
  /-- The settings were asked whether to collect garbage. -/
  | consulted (collects : Bool)
  | did (work : Work A)
  | failed (work : Work A) (e : E)
  /-- A failure was put into words, or that failed in turn. -/
  | worded (e : E) (text : String)
  | unworded (e e' : E)
  /-- The sink was told about a failure in this phase of the orchestrator. -/
  | told (sink : Option A) (phase : Phase) (e : E) (message : String) (answer : Except E Unit)
  | noted (record : LogRecord)

namespace CycleEvent

def entered? : CycleEvent A E → Option Phase
  | .entered phase => some phase
  | _ => none

def isTold : CycleEvent A E → Bool
  | .told .. => true
  | _ => false

def isFailed : CycleEvent A E → Bool
  | .failed _ _ => true
  | _ => false

/-- Whether work was done, successful or not. -/
def isWork : CycleEvent A E → Bool
  | .did _ | .failed _ _ => true
  | _ => false

/-- What happens while all goes well. -/
def isPlanned : CycleEvent A E → Bool
  | .entered _ | .took _ _ _ | .consulted _ | .did _ => true
  | _ => false

/-- The phase after some events. -/
def phaseAfter (phase : Phase) (events : List (CycleEvent A E)) : Phase :=
  events.foldl (fun phase event => event.entered?.getD phase) phase

end CycleEvent

open CycleEvent

variable {rules : Rules A σ E} {id : Nat} {w v w' : Site A σ} {made made' : List (Registration A)}
  {event : CycleEvent A E} {events events' : List (CycleEvent A E)}

namespace Host

variable (h : Host A σ E)

def work : Work A → Act A σ E Unit
  | .call a => h.call a
  | .collect => h.collect

/-- Hands a failure to the sink; without one it goes to the log. -/
def tellSink (sink : Option A) (e : E) (message : String) : Act A σ E Unit :=
  match sink with
  | none => Site.note [⟨.error, .orchestrator, message⟩]
  | some sink => h.tell sink e message

/-- What an event is in terms of the site. -/
def Does (id : Nat) : CycleEvent A E → Site A σ → Site A σ → Prop
  | .found registries, w, w' =>
    h.registriesOf (w.orchestrator id).scope w = (.ok registries, w')
  | .unfound e, w, w' => h.registriesOf (w.orchestrator id).scope w = (.error e, w')
  | .entered phase, w, w' => (Site.enter id phase : Act A σ E Unit) w = (.ok (), w')
  | .took i ch actions, w, w' =>
    (Site.onRegistries (·.snapshot i ch) : Act A σ E (List A)) w = (.ok actions, w')
  | .consulted collects, w, w' => w.config.collectGarbage = collects ∧ w' = w
  | .did work, w, w' => h.work work w = (.ok (), w')
  | .failed work e, w, w' => h.work work w = (.error e, w')
  | .worded e text, w, w' => h.describe e w = (.ok text, w')
  | .unworded e e', w, w' => h.describe e w = (.error e', w')
  | .told sink phase e message answer, w, w' =>
    (w.orchestrator id).sink = sink ∧ (w.orchestrator id).phase = phase ∧
      h.tellSink sink e message w = (answer, w')
  | .noted record, w, w' => (Site.note [record] : Act A σ E Unit) w = (.ok (), w')

/-- One event within the rules: only entering a phase changes an orchestrator. -/
structure Step (rules : Rules A σ E) (id : Nat) (event : CycleEvent A E) (made : List (Registration A))
    (w w' : Site A σ) : Prop where
  does : h.Does id event w w'
  moves : w.Moves rules made w'
  orchestrators : w'.orchestrators =
    event.entered?.elim w.orchestrators fun phase => w.orchestrators.modify id ({ · with phase })

/-- The events that lead from one site to another, and what was registered on the way. -/
inductive Trace (rules : Rules A σ E) (id : Nat) :
    List (CycleEvent A E) → List (Registration A) → Site A σ → Site A σ → Prop
  | nil (w : Site A σ) : Trace rules id [] [] w w
  | cons {event : CycleEvent A E} {events : List (CycleEvent A E)} {made made' : List (Registration A)}
      {w v w' : Site A σ} (step : h.Step rules id event made w v)
      (trace : Trace rules id events made' v w') :
      Trace rules id (event :: events) (made ++ made') w w'

variable {h}

namespace Trace

theorem single (step : h.Step rules id event made w w') :
    h.Trace rules id [event] made w w' := by
  simpa using Trace.cons step (.nil w')

theorem append (first : h.Trace rules id events made w v)
    (second : h.Trace rules id events' made' v w') :
    h.Trace rules id (events ++ events') (made ++ made') w w' := by
  induction first with
  | nil => exact second
  | cons step _ ih => simpa using Trace.cons step (ih second)

theorem head (trace : h.Trace rules id (event :: events) made w w') :
    ∃ v, h.Does id event w v := by
  cases trace with
  | cons step _ => exact ⟨_, step.does⟩

/-- Every event of a trace happened at some site. -/
theorem of_mem (trace : h.Trace rules id events made w w') (mem : event ∈ events) :
    ∃ v v', h.Does id event v v' := by
  induction trace with
  | nil => cases mem
  | cons step _ ih =>
    rcases List.mem_cons.1 mem with rfl | mem
    · exact ⟨_, _, step.does⟩
    · exact ih mem

/-- Along a trace the rules are kept and nothing that is registered gets lost. -/
theorem keeps (trace : h.Trace rules id events made w w') (fit : w.Fit rules) :
    w'.Fit rules ∧ w.registries.Grows made w'.registries := by
  induction trace with
  | nil => exact ⟨fit, .refl _⟩
  | cons step _ ih =>
    obtain ⟨fit', grows⟩ := step.moves.keeps fit
    obtain ⟨fit'', grows'⟩ := ih fit'
    exact ⟨fit'', grows.trans grows'⟩

/-- Along a trace the orchestrator changes its phase as the events tell, and nothing else. -/
theorem orchestrator (trace : h.Trace rules id events made w w')
    (present : id < w.orchestrators.length) :
    w'.orchestrators.length = w.orchestrators.length ∧ w'.orchestrator id =
      { w.orchestrator id with phase := phaseAfter (w.orchestrator id).phase events } := by
  induction trace with
  | nil => exact ⟨rfl, rfl⟩
  | @cons event _ _ _ w v _ step _ ih =>
    have settled : v.orchestrators.length = w.orchestrators.length ∧ v.orchestrator id =
        { w.orchestrator id with
          phase := event.entered?.getD (w.orchestrator id).phase } := by
      rw [Site.orchestrator, step.orchestrators]
      cases event.entered? with
      | none => exact ⟨rfl, rfl⟩
      | some phase => simp [Site.orchestrator, present]
    obtain ⟨length, same⟩ := ih (settled.1 ▸ present)
    exact ⟨length.trans settled.1, by rw [same, settled.2]; rfl⟩

/-- What behaves is a single event. -/
theorem of_behaves (event : CycleEvent A E) {x : Act A σ E α} (behaves : rules.BehavesAt w x)
    (does : h.Does id event w (x w).2) (stays : event.entered? = none) :
    ∃ made, h.Trace rules id [event] made w (x w).2 := by
  obtain ⟨made, moves, orchestrators, -⟩ := behaves
  exact ⟨made, .single ⟨does, moves, by rw [orchestrators, stays]; rfl⟩⟩

theorem of_enter (fit : w.Fit rules) (phase : Phase) :
    h.Trace rules id [.entered phase] [] w ((Site.enter id phase : Act A σ E Unit) w).2 :=
  .single ⟨rfl, .aside rfl fit.holds, rfl⟩

theorem of_note (fit : w.Fit rules) (record : LogRecord) :
    h.Trace rules id [.noted record] [] w ((Site.note [record] : Act A σ E Unit) w).2 :=
  .single ⟨rfl, .aside rfl fit.holds, rfl⟩

end Trace

/-! ### Work up to the first failure -/

/-- All events of a text in `F`, or those up to the first work that fails. -/
def Cut (h : Host A σ E) (F : List (CycleEvent A E) → Prop) (events : List (CycleEvent A E)) :
    Except E Unit → Prop
  | .ok () => F events
  | .error e => h.isReported e ∧ ∃ before work after,
    F (before ++ .did work :: after) ∧ events = before ++ [.failed work e]

/-- From every site within the rules, `x` does a text in `F`, or cuts one short by a failure. -/
structure Performs (h : Host A σ E) (rules : Rules A σ E) (id : Nat) (x : Act A σ E Unit)
    (F : List (CycleEvent A E) → Prop) : Prop where
  possible : ∃ events, F events
  runs : ∀ w, w.Fit rules → ∃ events made, h.Trace rules id events made w (x w).2 ∧
    h.Cut F events (x w).1

variable {x y : Act A σ E Unit} {F G K : List (CycleEvent A E) → Prop}

theorem performs_pure (done : F []) : h.Performs rules id (pure ()) F :=
  ⟨⟨_, done⟩, fun w _ => ⟨[], [], .nil w, done⟩⟩

theorem performs_enter (phase : Phase) :
    h.Performs rules id (Site.enter id phase) (· = [.entered phase]) :=
  ⟨⟨_, rfl⟩, fun _ fit => ⟨_, _, .of_enter fit phase, rfl⟩⟩

theorem performs_work (contained : h.Contained rules) (work : Work A)
    (behaves : rules.Behaves (h.work work)) :
    h.Performs rules id (h.work work) (· = [.did work]) := by
  refine ⟨⟨_, rfl⟩, fun w fit => ?_⟩
  have raises := (behaves w fit).choose_spec.2.2
  cases outcome : (h.work work w).1 with
  | ok _ =>
    obtain ⟨made, trace⟩ := Trace.of_behaves (.did work) (behaves w fit) (Prod.ext outcome rfl) rfl
    exact ⟨_, made, trace, rfl⟩
  | error e =>
    obtain ⟨made, trace⟩ :=
      Trace.of_behaves (.failed work e) (behaves w fit) (Prod.ext outcome rfl) rfl
    exact ⟨_, made, trace, contained.reports e (raises e outcome), [], work, [], rfl, rfl⟩

theorem Performs.mono (performs : h.Performs rules id x F) (implies : ∀ events, F events → K events) :
    h.Performs rules id x K := by
  refine ⟨performs.possible.imp implies, fun w fit => ?_⟩
  obtain ⟨events, made, trace, cut⟩ := performs.runs w fit
  refine ⟨events, made, trace, ?_⟩
  generalize (x w).1 = result at *
  obtain e | _ := result
  · obtain ⟨reported, before, work, after, text, rfl⟩ := cut
    exact ⟨reported, before, work, after, implies _ text, rfl⟩
  · exact implies _ cut

/-- A text in `F` and then one in `G`. -/
def Followed (F G : List (CycleEvent A E) → Prop) (events : List (CycleEvent A E)) : Prop :=
  ∃ xs ys, F xs ∧ G ys ∧ events = xs ++ ys

/-- One part after the other. -/
theorem Performs.bind (first : h.Performs rules id x F) (second : h.Performs rules id y G) :
    h.Performs rules id (x >>= fun _ => y) (Followed F G) := by
  obtain ⟨ys, other⟩ := second.possible
  refine ⟨first.possible.imp' (· ++ ys) fun xs text => ⟨xs, ys, text, other, rfl⟩, fun w fit => ?_⟩
  obtain ⟨events, made, trace, cut⟩ := first.runs w fit
  rw [Act.bind_apply]
  generalize x w = outcome at *
  obtain ⟨e | _, v⟩ := outcome
  · -- The second part does not run any more; every text of it would do for the rest.
    obtain ⟨reported, before, work, after, text, rfl⟩ := cut
    exact ⟨_, made, trace, reported, before, work, after ++ ys, ⟨_, ys, text, other, by simp⟩, rfl⟩
  · obtain ⟨events', made', trace', cut'⟩ := second.runs v (trace.keeps fit).1
    refine ⟨events ++ events', made ++ made', trace.append trace', ?_⟩
    generalize (y v).1 = result at *
    obtain e | _ := result
    · obtain ⟨reported, before, work, after, text, rfl⟩ := cut'
      exact ⟨reported, events ++ before, work, after, ⟨events, _, cut, text, by simp⟩, by simp⟩
    · exact ⟨events, events', cut, cut', rfl⟩

/-- Something that cannot fail comes first. -/
theorem Cut.cons (cut : h.Cut F events result) (joined : ∀ ys, F ys → K (event :: ys)) :
    h.Cut K (event :: events) result := by
  obtain e | _ := result
  · obtain ⟨reported, before, work, after, text, rfl⟩ := cut
    exact ⟨reported, event :: before, work, after, joined _ text, rfl⟩
  · exact joined _ cut

/-! ### The phases -/

/-- Running these actions in their order. -/
def calls (actions : List A) : List (CycleEvent A E) :=
  actions.map fun a => .did (.call a)

theorem performs_calls (contained : h.Contained rules) (actions : List A)
    (allowed : ∀ a ∈ actions, rules.allows a) :
    h.Performs rules id (actions.forM h.call) (· = calls actions) := by
  induction actions with
  | nil => exact performs_pure rfl
  | cons a actions ih =>
    have behaves := contained.call a (allowed a List.mem_cons_self)
    refine ((performs_work contained (.call a) behaves).bind
      (ih fun b mem => allowed b (.tail _ mem))).mono ?_
    rintro _ ⟨_, _, rfl, rfl, rfl⟩
    rfl

/-- The turns of registries: each time the actions of a channel are taken and run. -/
def turns (ch : ChannelName) (taken : List (Nat × List A)) : List (CycleEvent A E) :=
  taken.flatMap fun (i, actions) => .took i ch actions :: calls actions

theorem performs_invoke (contained : h.Contained rules) (i : Nat) (ch : ChannelName) :
    h.Performs rules id (Site.invoke h.call i ch) fun events =>
      ∃ actions, events = turns ch [(i, actions)] := by
  refine ⟨⟨_, [], rfl⟩, fun w fit => ?_⟩
  obtain ⟨fit', -⟩ := (Site.Moves.keeps ⟨.snapshot i ch (.stay _), nofun, fit.holds⟩ fit :
    Site.Fit rules { w with registries := (w.registries.snapshot i ch).2 } ∧ _)
  obtain ⟨events, made, trace, cut⟩ :=
    (performs_calls contained (w.registries.actions i ch) (fit.sound.get i ch).held).runs _ fit'
  refine ⟨.took i ch (w.registries.actions i ch) :: events, [] ++ made, .cons ⟨rfl, ?_, rfl⟩ trace,
    cut.cons ?_⟩
  · exact ⟨.snapshot i ch (.stay _), nofun, fit.holds⟩
  · rintro _ rfl
    exact ⟨_, (List.append_nil _).symm⟩

/-- The turns of all registries, in their order. -/
def AllTurns (ch : ChannelName) (registries : List Nat) (events : List (CycleEvent A E)) : Prop :=
  ∃ taken, taken.map (·.1) = registries ∧ events = turns ch taken

theorem performs_turns (contained : h.Contained rules) (ch : ChannelName)
    (registries : List Nat) :
    h.Performs rules id (registries.forM (Site.invoke h.call · ch)) (AllTurns ch registries) := by
  induction registries with
  | nil => exact performs_pure ⟨[], rfl, rfl⟩
  | cons i registries ih =>
    refine ((performs_invoke contained i ch).bind ih).mono ?_
    rintro _ ⟨_, _, ⟨actions, rfl⟩, ⟨taken, rfl, rfl⟩, rfl⟩
    exact ⟨(i, actions) :: taken, rfl, by simp [turns]⟩

/-- One collection of garbage, if the settings ask for it. -/
def collection (collects : Bool) : List (CycleEvent A E) :=
  .consulted collects :: if collects then [.did .collect] else []

theorem performs_barrier (contained : h.Contained rules) :
    h.Performs rules id h.barrier fun events => ∃ collects, events = collection collects := by
  refine ⟨⟨_, false, rfl⟩, fun w fit => ?_⟩
  have consulted (collects : Bool) (asked : w.config.collectGarbage = collects) :
      h.Step rules id (.consulted collects) [] w w := ⟨⟨asked, rfl⟩, .stay fit, rfl⟩
  cases asked : w.config.collectGarbage with
  | false =>
    have skips : h.barrier w = (.ok (), w) := by
      rw [barrier, Act.get_bind_apply, asked]
      rfl
    rw [skips]
    exact ⟨_, _, .single (consulted false asked), false, rfl⟩
  | true =>
    have collects : h.barrier w = h.work .collect w := by
      rw [barrier, Act.get_bind_apply, asked]
      rfl
    obtain ⟨events, made, trace, cut⟩ :=
      (performs_work contained .collect contained.collect).runs w fit
    rw [collects]
    exact ⟨_, _, .cons (consulted true asked) trace, cut.cons fun _ done => ⟨true, done ▸ rfl⟩⟩

/-- All that the phases do for these registries: every one unloads, then garbage is collected, then
every one loads. -/
def plan (unloads : List (Nat × List A)) (collects : Bool) (loads : List (Nat × List A)) :
    List (CycleEvent A E) :=
  .entered .unloading :: turns .unload unloads ++
    .entered .barrierWait :: collection collects ++
    .entered .loading :: turns .load loads

/-- The phases went through. -/
def Completes (registries : List Nat) (events : List (CycleEvent A E)) : Prop :=
  ∃ unloads collects loads, unloads.map (·.1) = registries ∧ loads.map (·.1) = registries ∧
    events = plan unloads collects loads

/-- The phases ended early: the last work that they did failed. -/
def EndsEarly (registries : List Nat) (e : E) (events : List (CycleEvent A E)) : Prop :=
  ∃ before work after, Completes registries (before ++ .did work :: after) ∧
    events = before ++ [.failed work e]

theorem performs_phases (contained : h.Contained rules) (registries : List Nat) :
    h.Performs rules id (h.phases id registries) (Completes registries) := by
  have turns (ch : ChannelName) : h.Performs rules id
      (registries.forM (Site.invoke h.call · ch)) (AllTurns ch registries) :=
    performs_turns contained ch registries
  have loading := (performs_enter .loading).bind (turns .load)
  have waiting := (performs_enter .barrierWait).bind ((performs_barrier contained).bind loading)
  have all := (performs_enter .unloading).bind ((turns .unload).bind waiting)
  refine all.mono ?_
  rintro _ ⟨_, _, rfl, ⟨_, _, ⟨unloads, ofUnloads, rfl⟩, ⟨_, _, rfl, ⟨_, _, ⟨collects, rfl⟩,
    ⟨_, _, rfl, ⟨loads, ofLoads, rfl⟩, rfl⟩, rfl⟩, rfl⟩, rfl⟩, rfl⟩
  exact ⟨unloads, collects, loads, ofUnloads, ofLoads, by simp [plan]⟩

/-! ### Failures -/

/-- The message about a failure in a phase. -/
def failureMessage (phase : Phase) (text : String) : String :=
  "Reload failed while " ++ phase.label ++ ": " ++ text

/-- The record of a sink that failed over a message. -/
def sinkFailure (message : String) : LogRecord :=
  ⟨.error, .orchestrator, "Diagnostic sink failed while reporting: " ++ message⟩

/-- How a failure is reported, and how that ends. The sink is told once, and a failure of the sink
goes to the log. If there are no words for the failure, the sink is not told. -/
inductive Reports (phase : Phase) (sink : Option A) (e : E) :
    List (CycleEvent A E) → Except E Unit → Prop
  | told (text : String) : Reports phase sink e
      [.worded e text, .told sink phase e (failureMessage phase text) (.ok ())] (.ok ())
  | sinkFailed (text : String) (e' : E) : Reports phase sink e
      [.worded e text, .told sink phase e (failureMessage phase text) (.error e'),
        .noted (sinkFailure (failureMessage phase text))] (.ok ())
  | unworded (e' : E) : Reports phase sink e [.unworded e e'] (.error e')

theorem report_apply (e : E) (w : Site A σ) :
    h.report id e w =
      match h.describe e w with
      | (.error e', v) => (.error e', v)
      | (.ok text, v) =>
        match h.tellSink (v.orchestrator id).sink e
            (failureMessage (w.orchestrator id).phase text) v with
        | (.ok (), u) => (.ok (), u)
        | (.error e', u) =>
          if h.isReported e' then (Site.note [sinkFailure
            (failureMessage (w.orchestrator id).phase text)] : Act A σ E Unit) u
          else (.error e', u) := by
  rw [report, Act.get_bind_apply, Act.bind_apply]
  rcases h.describe e w with ⟨e' | text, v⟩
  · rfl
  · have message : "Reload failed while " ++ (w.orchestrator id).phase.label ++ ": " ++ text =
        failureMessage (w.orchestrator id).phase text := rfl
    dsimp only
    rw [Act.get_bind_apply, message]
    generalize failureMessage (w.orchestrator id).phase text = message
    cases (v.orchestrator id).sink with
    | none => rfl
    | some sink =>
      simp only [Act.tryCatch_apply, tellSink]
      rcases h.tell sink e message v with ⟨e' | _, u⟩
      · cases reported : h.isReported e'
        · simp [reported, Act.throw_apply]
        · simp [reported, sinkFailure]
      · rfl

theorem behaves_tellSink (contained : h.Contained rules) {sink : Option A}
    (allowed : ∀ a, sink = some a → rules.allows a) (e : E) (message : String) :
    rules.Behaves (h.tellSink sink e message) := by
  cases sink with
  | none => exact Rules.behaves_modify (fun _ => rfl) (fun _ => rfl) fun _ fit => fit.holds
  | some sink => exact contained.tell sink e message (allowed sink rfl)

theorem report_runs (contained : h.Contained rules) (fit : w.Fit rules)
    (allowed : ∀ a, (w.orchestrator id).sink = some a → rules.allows a) (e : E) :
    ∃ events made, h.Trace rules id events made w (h.report id e w).2 ∧
      Reports (w.orchestrator id).phase (w.orchestrator id).sink e events (h.report id e w).1 := by
  rw [report_apply]
  obtain ⟨made, moves, orchestrators, -⟩ := contained.describe e w fit
  cases described : h.describe e w with
  | mk result v =>
  rw [described] at moves orchestrators
  have same := Site.orchestrator_congr orchestrators id
  cases result with
  | error e' =>
    exact ⟨[.unworded e e'], made, .single ⟨described, moves, orchestrators⟩, .unworded e'⟩
  | ok text =>
    have worded : h.Trace rules id [.worded e text] made w v :=
      .single ⟨described, moves, orchestrators⟩
    dsimp only
    rw [same]
    generalize message_eq : failureMessage (w.orchestrator id).phase text = message
    obtain ⟨made', moves', orchestrators', failing⟩ :=
      behaves_tellSink contained allowed e message v (worded.keeps fit).1
    cases answered : h.tellSink (w.orchestrator id).sink e message v with
    | mk answer u =>
    rw [answered] at moves' orchestrators' failing
    have told : h.Trace rules id
        [.told (w.orchestrator id).sink (w.orchestrator id).phase e message answer] made' v u :=
      .single ⟨⟨by rw [same], by rw [same], answered⟩, moves', orchestrators'⟩
    have both := worded.append told
    cases answer with
    | ok _ => exact ⟨_, _, both, message_eq ▸ .told text⟩
    | error e' =>
      dsimp only
      rw [if_pos (contained.reports e' (failing e' rfl))]
      exact ⟨_, _, both.append (.of_note (both.keeps fit).1 _), message_eq ▸ .sinkFailed text e'⟩

/-! ### A cycle -/

/-- The record of a cycle that went through. -/
def reloaded (count : Nat) : LogRecord :=
  ⟨.info, .orchestrator, "Reloaded static state of " ++ toString count ++ " module(s)"⟩

/-- Going back to idle is the last thing that happens, and does not change how the work ended. -/
theorem settled_apply (x : Act A σ E α) (w : Site A σ) :
    settled id x w = ((x w).1, ((Site.enter id .idle : Act A σ E Unit) (x w).2).2) := by
  simp only [settled, Act.bind_apply, Act.tryCatch_apply, Act.map_apply]
  rcases x w with ⟨_ | _, _⟩ <;> rfl

theorem attempt_apply (registries : List Nat) (w : Site A σ) :
    h.attempt id registries w =
      match h.phases id registries w with
      | (.ok (), v) => (.ok true, v)
      | (.error e, v) =>
        if h.isReported e then ((h.report id e v).1.map fun _ => false, (h.report id e v).2)
        else (.error e, v) := by
  rw [attempt, Act.tryCatch_apply, Act.bind_apply]
  rcases h.phases id registries w with ⟨e | _, v⟩
  · cases reported : h.isReported e
    · simp [reported, Act.throw_apply]
    · simp only [reported, Act.bind_apply, if_true]
      rcases h.report id e v with ⟨_ | _, _⟩ <;> rfl
  · rfl

theorem cycle_apply (w : Site A σ) :
    h.cycle id w =
      match h.registriesOf (w.orchestrator id).scope w with
      | (.error e, v) => (.error e, v)
      | (.ok registries, v) =>
        let (result, u) := h.attempt id registries v
        let idle := ((Site.enter id .idle : Act A σ E Unit) u).2
        match result with
        | .ok true => (.ok true, ((Site.note [reloaded registries.length] : Act A σ E Unit) idle).2)
        | result => (result, idle) := by
  rw [cycle, Act.get_bind_apply, Act.bind_apply]
  rcases h.registriesOf (w.orchestrator id).scope w with ⟨e | registries, v⟩
  · rfl
  · simp only [Act.bind_apply, settled_apply]
    rcases h.attempt id registries v with ⟨e | _ | _, u⟩ <;> rfl

/-- What a cycle does and how it ends, for an orchestrator with this sink. -/
inductive Course (sink : Option A) : List (CycleEvent A E) → Except E Bool → Prop
  | unfound (e : E) : Course sink [.unfound e] (.error e)
  | through {registries : List Nat} {events : List (CycleEvent A E)}
      (completes : Completes registries events) :
      Course sink (.found registries ::
        (events ++ [.entered .idle, .noted (reloaded registries.length)])) (.ok true)
  | cut {registries : List Nat} {events report : List (CycleEvent A E)} {e : E}
      {result : Except E Unit} (endsEarly : EndsEarly registries e events)
      (reports : Reports (phaseAfter .idle events) sink e report result) :
      Course sink (.found registries :: (events ++ report ++ [.entered .idle]))
        (result.map fun _ => false)

/-- The orchestrator is idle, and it and all else is within the rules. -/
structure Ready (rules : Rules A σ E) (id : Nat) (w : Site A σ) : Prop where
  fit : w.Fit rules
  present : id < w.orchestrators.length
  idle : (w.orchestrator id).phase = .idle
  sink : ∀ a, (w.orchestrator id).sink = some a → rules.allows a
  scope : ∀ before names, (w.orchestrator id).scope = .modules before names → rules.allows before

theorem behaves_registriesOf (contained : h.Contained rules) {scope : Scope A}
    (allowed : ∀ before names, scope = .modules before names → rules.allows before) :
    rules.Behaves (h.registriesOf scope) := by
  cases scope with
  | all => exact .get_bind fun w fit => Rules.behaves_pure _ w fit
  | modules before names =>
    exact (contained.call before (allowed before names rfl)).bind fun _ =>
      Rules.behaves_mapM fun name _ => Rules.behaves_registryFor name

theorem cycle_runs (contained : h.Contained rules) (ready : Ready rules id w) :
    ∃ events made, h.Trace rules id events made w (h.cycle id w).2 ∧
      Course (w.orchestrator id).sink events (h.cycle id w).1 := by
  rw [cycle_apply]
  obtain ⟨made, moves, orchestrators, -⟩ := behaves_registriesOf contained ready.scope w ready.fit
  cases found : h.registriesOf (w.orchestrator id).scope w with
  | mk result v =>
  rw [found] at moves orchestrators
  cases result with
  | error e =>
    exact ⟨[.unfound e], made, .single ⟨found, moves, orchestrators⟩, .unfound e⟩
  | ok registries =>
    have start : h.Trace rules id [.found registries] made w v :=
      .single ⟨found, moves, orchestrators⟩
    have same := Site.orchestrator_congr orchestrators id
    obtain ⟨events, made', trace, cut⟩ :=
      (performs_phases contained registries).runs v (start.keeps ready.fit).1
    have before := start.append trace
    have fit' := (before.keeps ready.fit).1
    simp only [attempt_apply]
    generalize h.phases id registries v = outcome at *
    obtain ⟨e | _, v'⟩ := outcome
    · obtain ⟨reported, endsEarly⟩ := cut
      have orchestrator := (trace.orchestrator (orchestrators ▸ ready.present)).2
      rw [same, ready.idle] at orchestrator
      have sink : ∀ a, (v'.orchestrator id).sink = some a → rules.allows a := by
        rw [orchestrator]
        exact ready.sink
      obtain ⟨report, made'', trace', reports⟩ := report_runs contained fit' sink e
      rw [orchestrator] at reports
      have all := before.append trace'
      have idle := all.append (.of_enter (all.keeps ready.fit).1 .idle)
      have course := Course.cut endsEarly reports
      simp only [reported, if_true]
      generalize h.report id e v' = answer at *
      obtain ⟨e' | _, u⟩ := answer
      all_goals exact ⟨_, _, idle, by simpa [Except.map] using course⟩
    · have idle := before.append (.of_enter fit' .idle)
      exact ⟨_, _, idle.append (.of_note (idle.keeps ready.fit).1 _), by
        simpa using Course.through cut⟩

end Host

end StateWeave
