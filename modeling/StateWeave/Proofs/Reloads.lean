import StateWeave.Proofs.Cycles
import StateWeave.Proofs.Scripts

/-! What one orchestrator does over any number of reload cycles. -/

namespace StateWeave

open CycleEvent

variable {A σ E : Type} {h : Host A σ E} {rules : Rules A σ E} {id : Nat} {w : Site A σ}
  {registries : List Nat} {events : List (CycleEvent A E)} {sink : Option A} {e : E}

namespace Host

/-! ### What a course comes to -/

theorem entered_turns (ch : ChannelName) (taken : List (Nat × List A)) :
    (turns ch taken : List (CycleEvent A E)).filterMap entered? = [] := by
  simp only [turns, calls, List.filterMap_eq_nil_iff, List.mem_flatMap, List.mem_cons, List.mem_map]
  rintro _ ⟨_, _, rfl | ⟨_, _, rfl⟩⟩ <;> rfl

theorem planned_turns (ch : ChannelName) (taken : List (Nat × List A)) :
    ∀ event ∈ (turns ch taken : List (CycleEvent A E)), event.isPlanned = true := by
  simp only [turns, calls, List.mem_flatMap, List.mem_cons, List.mem_map]
  rintro _ ⟨_, _, rfl | ⟨_, _, rfl⟩⟩ <;> rfl

theorem Completes.entered (completes : Completes registries events) :
    events.filterMap entered? = [.unloading, .barrierWait, .loading] := by
  obtain ⟨unloads, collects, loads, -, -, rfl⟩ := completes
  cases collects <;> simp [plan, collection, entered?, entered_turns, List.filterMap_cons]

theorem Completes.planned (completes : Completes registries events) :
    ∀ event ∈ events, event.isPlanned = true := by
  obtain ⟨unloads, collects, loads, -, -, rfl⟩ := completes
  have unloading := planned_turns (E := E) .unload unloads
  have loading := planned_turns (E := E) .load loads
  intro event mem
  simp only [plan, List.mem_append, List.mem_cons, List.cons_append] at mem
  rcases mem with rfl | (mem | rfl | mem) | rfl | mem
  · rfl
  · exact unloading event mem
  · rfl
  · rcases List.mem_cons.1 mem with rfl | mem
    · rfl
    · cases collects with
      | false => cases mem
      | true => exact List.mem_singleton.1 mem ▸ rfl
  · rfl
  · exact loading event mem

/-- What ends early enters some of the phases in their order. -/
theorem EndsEarly.entered (endsEarly : EndsEarly registries e events) :
    events.filterMap entered? <+: [.unloading, .barrierWait, .loading] := by
  obtain ⟨before, work, after, completes, rfl⟩ := endsEarly
  have all := completes.entered
  rw [List.filterMap_append] at all ⊢
  simp only [List.filterMap_cons, entered?, List.filterMap_nil, List.append_nil] at all ⊢
  exact ⟨_, all⟩

/-- The failure is the last thing in what ends early; up to there all went as planned. -/
theorem EndsEarly.planned (endsEarly : EndsEarly registries e events) :
    ∃ before work, events = before ++ [.failed work e] ∧
      ∀ event ∈ before, event.isPlanned = true := by
  obtain ⟨before, work, after, completes, rfl⟩ := endsEarly
  exact ⟨before, work, rfl, fun event mem => completes.planned event (List.mem_append_left _ mem)⟩

theorem told_of_planned (planned : ∀ event ∈ events, event.isPlanned = true) :
    events.countP isTold = 0 := by
  rw [List.countP_eq_zero]
  intro event mem
  have := planned event mem
  cases event <;> simp_all [isPlanned, isTold]

/-- How often the sink has to be told. -/
def reportsDue : Except E Bool → Nat
  | .ok false => 1
  | _ => 0

/-- The states entered are some of the phases in their order and then idle. -/
theorem Course.entered {result : Except E Bool} (course : Course sink events result) :
    (∃ e, events = [.unfound e]) ∨ ∃ phases, phases <+: [.unloading, .barrierWait, .loading] ∧
      events.filterMap entered? = phases ++ [.idle] := by
  cases course with
  | unfound e => exact .inl ⟨e, rfl⟩
  | through completes =>
    refine .inr ⟨_, List.prefix_refl _, ?_⟩
    simp [List.filterMap_cons, entered?, completes.entered]
  | cut endsEarly reports =>
    refine .inr ⟨_, endsEarly.entered, ?_⟩
    cases reports <;> simp [List.filterMap_cons, entered?]

/-- The sink is told exactly once if the answer is that the cycle failed, and not at all if not. -/
theorem Course.told {result : Except E Bool} (course : Course sink events result) :
    events.countP isTold = reportsDue result := by
  cases course with
  | unfound e => rfl
  | through completes => simp [isTold, told_of_planned completes.planned, reportsDue]
  | cut endsEarly reports =>
    obtain ⟨before, work, rfl, planned⟩ := endsEarly.planned
    cases reports <;>
      simp [List.countP_cons, isTold, told_of_planned planned, reportsDue, Except.map]

/-- Once work failed, no other work is done. -/
def StopsAtFailure (events : List (CycleEvent A E)) : Prop :=
  events.Pairwise fun event event' => event.isFailed = true → event'.isWork = false

theorem StopsAtFailure.after {later : List (CycleEvent A E)} (stops : StopsAtFailure later)
    (none : ∀ event ∈ events, event.isFailed = false) : StopsAtFailure (events ++ later) := by
  induction events with
  | nil => exact stops
  | cons event events ih =>
    obtain ⟨first, others⟩ := List.forall_mem_cons.1 none
    exact List.pairwise_cons.2 ⟨fun _ _ failed => by simp_all, ih others⟩

theorem stopsAtFailure_of_none (none : ∀ event ∈ events, event.isFailed = false) :
    StopsAtFailure events := by
  have := StopsAtFailure.after List.Pairwise.nil none
  rwa [List.append_nil] at this

theorem isFailed_of_planned {event : CycleEvent A E} (planned : event.isPlanned = true) :
    event.isFailed = false := by
  cases event <;> simp_all [isPlanned, isFailed]

theorem Course.stops {result : Except E Bool} (course : Course sink events result) :
    StopsAtFailure events := by
  cases course with
  | unfound e => exact List.pairwise_singleton _ _
  | @through registries events completes =>
    refine stopsAtFailure_of_none ?_
    have none : ∀ event ∈ events, event.isFailed = false := fun event mem =>
      isFailed_of_planned (completes.planned event mem)
    simpa [isFailed, or_imp, forall_and] using none
  | @cut registries _ report e _ endsEarly reports =>
    obtain ⟨before, work, rfl, planned⟩ := endsEarly.planned
    have none : ∀ event ∈ .found registries :: before, event.isFailed = false :=
      List.forall_mem_cons.2 ⟨rfl, fun event mem => isFailed_of_planned (planned event mem)⟩
    have reported : ∀ event ∈ report ++ [.entered .idle],
        event.isFailed = false ∧ event.isWork = false := by
      cases reports <;> simp [isFailed, isWork]
    have rest : StopsAtFailure (.failed work e :: (report ++ [.entered .idle])) :=
      List.pairwise_cons.2 ⟨fun event mem _ => (reported event mem).2,
        stopsAtFailure_of_none fun event mem => (reported event mem).1⟩
    simpa using rest.after none

/-- A failure that escapes is that of finding the registries, or of putting a failure into words. -/
theorem Course.escapes {result : Except E Bool} (course : Course sink events result) {e : E}
    (failed : result = .error e) : events = [.unfound e] ∨ ∃ e', .unworded e' e ∈ events := by
  cases course with
  | unfound e =>
    cases failed
    exact .inl rfl
  | through completes => cases failed
  | @cut _ _ _ e' _ endsEarly reports =>
    cases reports with
    | told | sinkFailed => cases failed
    | unworded e =>
      cases failed
      exact .inr ⟨e', by simp⟩

theorem Course.idle {result : Except E Bool} (course : Course sink events result) :
    phaseAfter .idle events = .idle := by
  cases course with
  | unfound e => rfl
  | through completes => simp [phaseAfter, entered?]
  | cut endsEarly reports => simp [phaseAfter, entered?]

/-- A cycle over all registries works on those in use when it starts. -/
theorem Course.found {made : List (Registration A)} {w' : Site A σ} {result : Except E Bool}
    (course : Course sink events result) (trace : h.Trace rules id events made w w')
    (all : (w.orchestrator id).scope = .all) : events.head? = some (.found w.registries.all) := by
  have finds : h.registriesOf (w.orchestrator id).scope w = (.ok w.registries.all, w) := by
    rw [all]
    rfl
  cases course with
  | unfound e =>
    obtain ⟨v, does⟩ := trace.head
    cases finds.symm.trans does
  | through completes =>
    obtain ⟨v, does⟩ := trace.head
    cases finds.symm.trans does
    rfl
  | cut endsEarly reports =>
    obtain ⟨v, does⟩ := trace.head
    cases finds.symm.trans does
    rfl

/-- If there are words for all failures, a cycle that finds its registries has an answer. -/
theorem Course.answers {made : List (Registration A)} {w' : Site A σ} {result : Except E Bool}
    (course : Course sink events result) (trace : h.Trace rules id events made w w')
    (finds : ∀ e, events ≠ [.unfound e])
    (words : ∀ e v, ∃ text, (h.describe e v).1 = .ok text) : ∃ done, result = .ok done := by
  cases result with
  | ok done => exact ⟨done, rfl⟩
  | error e =>
    rcases course.escapes rfl with unfound | ⟨e', unworded⟩
    · exact absurd unfound (finds e)
    · obtain ⟨v, v', does⟩ := trace.of_mem unworded
      obtain ⟨text, worded⟩ := words e' v
      rw [does] at worded
      cases worded

/-! ### Cycle after cycle -/

/-- A cycle of the orchestrator that starts here does these events, and `made` is registered on the
way. -/
structure Ran (h : Host A σ E) (rules : Rules A σ E) (id : Nat) (w : Site A σ)
    (events : List (CycleEvent A E)) (made : List (Registration A)) : Prop where
  trace : h.Trace rules id events made w (h.cycle id w).2
  course : Course (w.orchestrator id).sink events (h.cycle id w).1
  /-- All registries are those in use at the start. -/
  found : (w.orchestrator id).scope = .all → events.head? = some (.found w.registries.all)
  stops : StopsAtFailure events
  entered : (∃ e, events = [.unfound e]) ∨ ∃ phases, phases <+: [.unloading, .barrierWait, .loading] ∧
    events.filterMap entered? = phases ++ [.idle]
  told : events.countP isTold = reportsDue (h.cycle id w).1
  escapes : ∀ e, (h.cycle id w).1 = .error e →
    events = [.unfound e] ∨ ∃ e', .unworded e' e ∈ events
  answers : (∀ e, events ≠ [.unfound e]) → (∀ e v, ∃ text, (h.describe e v).1 = .ok text) →
    ∃ done, (h.cycle id w).1 = .ok done
  kept : w.registries.Grows made (h.cycle id w).2.registries
  registered : ∀ r ∈ made, r.action ∈ (h.cycle id w).2.registries.actions r.registry r.channel
  idle : ((h.cycle id w).2.orchestrator id).phase = .idle

/-- The site after this many cycles, however they ended. -/
def after (h : Host A σ E) (id : Nat) : Nat → Site A σ → Site A σ
  | 0, w => w
  | n + 1, w => h.after id n (h.cycle id w).2

theorem ran (contained : h.Contained rules) (ready : Ready rules id w) :
    Ready rules id (h.cycle id w).2 ∧ ∃ events made, h.Ran rules id w events made := by
  obtain ⟨events, made, trace, course⟩ := cycle_runs contained ready
  obtain ⟨fit, kept⟩ := trace.keeps ready.fit
  obtain ⟨length, orchestrator⟩ := trace.orchestrator ready.present
  rw [ready.idle, course.idle] at orchestrator
  refine ⟨⟨fit, length ▸ ready.present, ?_, ?_, ?_⟩, events, made, trace, course,
    course.found trace, course.stops, course.entered, course.told, fun e => course.escapes,
    course.answers trace, kept, fun _ => kept.mem, ?_⟩
  · rw [orchestrator]
  · rw [orchestrator]
    exact ready.sink
  · rw [orchestrator]
    exact ready.scope
  · rw [orchestrator]

/-- Raises a failure of a codec about the place before the beginning of a text, which cannot be put
into words. -/
def encodingError : StateWeave.Step :=
  .raise "UnicodeEncodeError" [.text "ascii", .text "a", .int (-1), .int 0, .text "bad"]

/-- A world with an action that raises such a failure. -/
def unspeakable : World :=
  let asked := (({} : Registries Action).registryFor "m").2
  let unloading := asked.register 0 .unload (.script [encodingError])
  { World.fresh {} with
    registries := unloading.register 0 .load (.script [.log "load"])
    orchestrators := [{ sink := some (.script []) }] }

theorem ready_unspeakable : Ready tameRules 0 unspeakable := by
  have empty : ({} : Registries Action).Sound tameRules.allows := ⟨nofun, nofun⟩
  have asked := (Registries.registryFor_keeps empty "m").1
  have unloading := (Registries.register_keeps asked (by decide : 0 < 1) .unload
    (rfl : Action.isTame (.script [encodingError]) = true)).1
  have loading := (Registries.register_keeps unloading (by decide : 0 < 1) .load
    (rfl : Action.isTame (.script [.log "load"]) = true)).1
  have tame : unspeakable.rest.isTame = true := by decide +kernel
  exact ⟨⟨loading, tame⟩, Nat.zero_lt_one, rfl, by rintro _ ⟨⟩; rfl, nofun⟩

/-- The host of cycles that a script starts at the top level. -/
def topHost : Host Action Objects Failure :=
  World.host (World.runWithin World.depth) none

/-- What kept the words for a failure from coming about. -/
def wordless? : Except Failure Bool → Option SpeechFault
  | .error (.speech why) => some why
  | _ => none

theorem eq_error_of_wordless? {result : Except Failure Bool} {why : SpeechFault}
    (wordless : wordless? result = some why) : result = .error (.speech why) := by
  unfold wordless? at wordless
  split at wordless
  · rw [Option.some.inj wordless]
  · cases wordless

end Host

end StateWeave
