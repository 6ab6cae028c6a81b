import StateWeave.Proofs.Registrations
import StateWeave.Reload.Cycle

/-! What the code that a reload cycle calls may do: register actions, ask for registries, read
channels, work on the rest of the program, and fail. It leaves the orchestrators alone. -/

namespace StateWeave

variable {A σ E α β : Type}

namespace Act

variable (x : Act A σ E α) (w : Site A σ)

/-- Work goes on where the work before it stopped, unless that failed. -/
theorem bind_apply (f : α → Act A σ E β) :
    (x >>= f) w =
      match x w with
      | (.ok a, v) => f a v
      | (.error e, v) => (.error e, v) := by
  simp only [bind, ExceptT.bind, ExceptT.mk, StateT.bind]
  rcases x w with ⟨_ | _, _⟩ <;> rfl

theorem tryCatch_apply (f : E → Act A σ E α) :
    (tryCatch x f) w =
      match x w with
      | (.ok a, v) => (.ok a, v)
      | (.error e, v) => f e v := by
  simp only [tryCatch, tryCatchThe, MonadExceptOf.tryCatch, ExceptT.tryCatch, ExceptT.mk, bind,
    StateT.bind]
  rcases x w with ⟨_ | _, _⟩ <;> rfl

theorem map_apply (f : α → β) : (f <$> x) w = ((x w).1.map f, (x w).2) := by
  simp only [Functor.map, ExceptT.map, ExceptT.mk, bind, StateT.bind]
  rcases x w with ⟨_ | _, _⟩ <;> rfl

theorem throw_apply (e : E) : (throw e : Act A σ E α) w = (.error e, w) := rfl

theorem get_bind_apply (f : Site A σ → Act A σ E β) : (get >>= f) w = f w w := rfl

end Act

/-- The actions that may be registered, what is to hold of the rest of the program, and the failures
that may be raised. -/
structure Rules (A σ E : Type) where
  allows : A → Prop
  holds : σ → Prop
  raises : E → Prop

variable {rules : Rules A σ E} {w v w' : Site A σ} {made made' : List (Registration A)}

theorem Site.orchestrator_congr (same : v.orchestrators = w.orchestrators) (id : Nat) :
    v.orchestrator id = w.orchestrator id := by
  rw [orchestrator, same, ← orchestrator]

/-- The site is within the rules. -/
structure Site.Fit (rules : Rules A σ E) (w : Site A σ) : Prop where
  sound : w.registries.Sound rules.allows
  holds : rules.holds w.rest

/-- What happened to the registries from `w` to `w'`, and that it was within the rules. -/
structure Site.Moves (rules : Rules A σ E) (made : List (Registration A)) (w w' : Site A σ) :
    Prop where
  registries : w.registries.Moves made w'.registries
  allowed : ∀ r ∈ made, rules.allows r.action
  holds : rules.holds w'.rest

namespace Site.Moves

theorem keeps (moves : w.Moves rules made w') (fit : w.Fit rules) :
    w'.Fit rules ∧ w.registries.Grows made w'.registries := by
  obtain ⟨sound, grows⟩ := moves.registries.keeps fit.sound moves.allowed
  exact ⟨⟨sound, moves.holds⟩, grows⟩

theorem trans (first : w.Moves rules made v) (second : v.Moves rules made' w') :
    w.Moves rules (made ++ made') w' where
  registries := first.registries.trans second.registries
  allowed r mem := (List.mem_append.1 mem).elim (first.allowed r) (second.allowed r)
  holds := second.holds

/-- Work that leaves the registries alone. -/
theorem aside (same : w'.registries = w.registries) (holds : rules.holds w'.rest) :
    w.Moves rules [] w' :=
  ⟨same ▸ .stay _, nofun, holds⟩

theorem stay (fit : w.Fit rules) : w.Moves rules [] w :=
  aside rfl fit.holds

end Site.Moves

namespace Rules

/-- What `x` does from here on is within the rules. -/
def BehavesAt (rules : Rules A σ E) (w : Site A σ) (x : Act A σ E α) : Prop :=
  ∃ made, w.Moves rules made (x w).2 ∧ (x w).2.orchestrators = w.orchestrators ∧
    ∀ e, (x w).1 = .error e → rules.raises e

/-- What `x` does is within the rules wherever it starts. -/
def Behaves (rules : Rules A σ E) (x : Act A σ E α) : Prop :=
  ∀ w, w.Fit rules → rules.BehavesAt w x

variable {x : Act A σ E α} {f : α → Act A σ E β}

theorem BehavesAt.bind (first : rules.BehavesAt w x)
    (next : ∀ a, (x w).1 = .ok a → rules.BehavesAt (x w).2 (f a)) :
    rules.BehavesAt w (x >>= f) := by
  obtain ⟨made, moves, orchestrators, reported⟩ := first
  rw [BehavesAt, Act.bind_apply]
  generalize x w = outcome at *
  obtain ⟨e | a, v⟩ := outcome
  · exact ⟨made, moves, orchestrators, by rintro _ ⟨⟩; exact reported e rfl⟩
  · obtain ⟨made', moves', orchestrators', reported'⟩ := next a rfl
    exact ⟨made ++ made', moves.trans moves', orchestrators'.trans orchestrators, reported'⟩

theorem BehavesAt.fit (behaves : rules.BehavesAt w x) (fit : w.Fit rules) :
    (x w).2.Fit rules :=
  have ⟨_, moves, _⟩ := behaves
  (moves.keeps fit).1

theorem Behaves.bind (first : rules.Behaves x) (next : ∀ a, rules.Behaves (f a)) :
    rules.Behaves (x >>= f) := fun w fit =>
  (first w fit).bind fun a _ => next a _ ((first w fit).fit fit)

theorem behaves_pure (a : α) : rules.Behaves (pure a : Act A σ E α) := fun _ fit =>
  ⟨[], .stay fit, rfl, nofun⟩

theorem behaves_throw {e : E} (raises : rules.raises e) :
    rules.Behaves (throw e : Act A σ E α) := fun _ fit =>
  ⟨[], .stay fit, rfl, by rintro _ ⟨⟩; exact raises⟩

/-- Reading the site changes nothing; what comes of it may depend on what was read. -/
theorem Behaves.get_bind {f : Site A σ → Act A σ E β}
    (next : ∀ w, w.Fit rules → rules.BehavesAt w (f w)) :
    rules.Behaves (get >>= f) := fun w fit =>
  next w fit

/-- Work on the rest of the program, on the settings or on the log. -/
theorem behaves_modify {f : Site A σ → Site A σ} (registries : ∀ w, (f w).registries = w.registries)
    (orchestrators : ∀ w, (f w).orchestrators = w.orchestrators)
    (holds : ∀ w, w.Fit rules → rules.holds (f w).rest) :
    rules.Behaves (modify f : Act A σ E Unit) := fun w fit =>
  ⟨[], .aside (registries w) (holds w fit), orchestrators w, nofun⟩

theorem Behaves.map (behaves : rules.Behaves x) (f : α → β) : rules.Behaves (f <$> x) := by
  intro w fit
  obtain ⟨made, moves, orchestrators, raises⟩ := behaves w fit
  rw [BehavesAt, Act.map_apply]
  generalize x w = outcome at *
  obtain ⟨e | a, v⟩ := outcome
  · exact ⟨made, moves, orchestrators, by rintro _ ⟨⟩; exact raises e rfl⟩
  · exact ⟨made, moves, orchestrators, nofun⟩

theorem behaves_forM {xs : List β} {f : β → Act A σ E Unit}
    (each : ∀ b ∈ xs, rules.Behaves (f b)) : rules.Behaves (xs.forM f) := by
  induction xs with
  | nil => exact behaves_pure _
  | cons b xs ih =>
    exact (each b List.mem_cons_self).bind fun _ => ih fun b' mem => each b' (.tail _ mem)

theorem behaves_mapM {xs : List β} {f : β → Act A σ E α} (each : ∀ b ∈ xs, rules.Behaves (f b)) :
    rules.Behaves (xs.mapM f) := by
  induction xs with
  | nil => exact behaves_pure _
  | cons b xs ih =>
    rw [List.mapM_cons]
    exact (each b List.mem_cons_self).bind fun _ =>
      (ih fun b' mem => each b' (.tail _ mem)).bind fun _ => behaves_pure _

/-! Registries -/

theorem behaves_registryFor (module : String) :
    rules.Behaves (Site.onRegistries (·.registryFor module)) := fun _ fit =>
  ⟨[], ⟨.registryFor module (.stay _), nofun, fit.holds⟩, rfl, nofun⟩

theorem behaves_snapshot (id : Nat) (ch : ChannelName) :
    rules.Behaves (Site.onRegistries (·.snapshot id ch)) := fun _ fit =>
  ⟨[], ⟨.snapshot id ch (.stay _), nofun, fit.holds⟩, rfl, nofun⟩

theorem behaves_describe (id : Nat) :
    rules.Behaves (Site.onRegistries (·.describe id)) := fun w fit => by
  refine ⟨[], ⟨?_, nofun, fit.holds⟩, rfl, nofun⟩
  show w.registries.Moves [] (w.registries.describe id).2
  rw [Registries.describe_snd]
  exact .snapshot id .unload (.snapshot id .load (.stay _))

/-- Registering an allowed action on a registry that was made. -/
theorem behavesAt_register {id : Nat} (present : id < w.registries.made.length) (ch : ChannelName)
    {a : A} (allowed : rules.allows a) (fit : w.Fit rules) :
    rules.BehavesAt w (Site.onRegistries fun rs => ((), rs.register id ch a)) :=
  ⟨[⟨id, ch, a⟩], ⟨.register ch a present (.stay _), by simpa using allowed, fit.holds⟩, rfl, nofun⟩

end Rules

/-- All code that a cycle of the host calls is within the rules, and their failures are reported. -/
structure Host.Contained (h : Host A σ E) (rules : Rules A σ E) : Prop where
  call : ∀ a, rules.allows a → rules.Behaves (h.call a)
  collect : rules.Behaves h.collect
  tell : ∀ sink e message, rules.allows sink → rules.Behaves (h.tell sink e message)
  describe : ∀ e, rules.Behaves (h.describe e)
  reports : ∀ e, rules.raises e → h.isReported e

end StateWeave
