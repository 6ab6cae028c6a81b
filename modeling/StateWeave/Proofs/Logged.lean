import StateWeave.Weave

/-! Results of computations that write a log. None of them looks at the log, so each has a result
that does not depend on what was logged before. -/

namespace StateWeave

namespace Logged

variable {α β : Type}

/-- The result is `r`, whatever was logged before. -/
def Settles (x : Logged α) (r : Except Fault α) : Prop :=
  ∀ records, (x records).1 = r

theorem Settles.run_fst {x : Logged α} {r : Except Fault α} (h : Settles x r) : x.run.1 = r :=
  h []

theorem settles_pure (a : α) : Settles (pure a) (.ok a) := fun _ => rfl

theorem settles_fail (fault : Fault) : Settles (fail fault : Logged α) (.error fault) := fun _ => rfl

theorem settles_lift (r : Except Fault α) : Settles (lift r) r := by
  intro records
  cases r <;> rfl

theorem settles_log (level : LogLevel) (source : LogSource) (message : String) :
    Settles (log level source message) (.ok ()) := fun _ => rfl

theorem settles_modify (f : List LogRecord → List LogRecord) :
    Settles (modify f : Logged Unit) (.ok ()) := fun _ => rfl

/-- A computation goes on with the records of the one before it, unless that one stopped. -/
theorem bind_apply (x : Logged α) (f : α → Logged β) (records : List LogRecord) :
    (x >>= f) records =
      match x records with
      | (.ok a, later) => f a later
      | (.error fault, later) => (.error fault, later) := by
  simp only [bind, ExceptT.bind, ExceptT.mk, StateT.bind]
  rcases x records with ⟨_ | _, _⟩ <;> rfl

theorem Settles.bind {x : Logged α} {r : Except Fault α} {f : α → Logged β}
    {g : α → Except Fault β} (hx : Settles x r) (hf : ∀ a, Settles (f a) (g a)) :
    Settles (x >>= f) (r >>= g) := by
  intro records
  have h := hx records
  rw [bind_apply]
  generalize x records = outcome at h ⊢
  obtain ⟨result, later⟩ := outcome
  subst h
  cases result with
  | ok a => exact hf a later
  | error fault => rfl

end Logged

end StateWeave
