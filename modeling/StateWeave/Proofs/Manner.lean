import StateWeave.Proofs.Conduct

/-! Manners of working. Whatever is put together from work that is done in one manner is done in that
manner, whether it comes to its end or fails. -/

namespace StateWeave

/-- A manner of working: the changes of a site that it allows, one after the other. -/
structure Manner (A σ : Type) where
  allows : Site A σ → Site A σ → Prop
  refl : ∀ w, allows w w
  trans : ∀ {w w' w'' : Site A σ}, allows w w' → allows w' w'' → allows w w''

namespace Manner

variable {A σ E α β : Type} {m : Manner A σ} {x : Act A σ E α} {f : α → Act A σ E β}

/-- Whatever comes of it, the work is done in this manner. -/
def Keeps (m : Manner A σ) (x : Act A σ E α) : Prop :=
  ∀ w, m.allows w (x w).2

@[grind ←]
theorem keeps_pure (a : α) : m.Keeps (pure a : Act A σ E α) := m.refl

@[grind ←]
theorem keeps_throw (e : E) : m.Keeps (throw e : Act A σ E α) := m.refl

@[grind ←]
theorem keeps_read : m.Keeps (get : Act A σ E (Site A σ)) := m.refl

/-- An answer that is worked out without the site. -/
theorem keeps_known (result : Except E α) : m.Keeps (ExceptT.mk (pure result) : Act A σ E α) :=
  m.refl

@[grind ←]
theorem Keeps.bind (first : m.Keeps x) (next : ∀ a, m.Keeps (f a)) : m.Keeps (x >>= f) := by
  intro w
  have done := first w
  rw [Act.bind_apply]
  generalize x w = outcome at *
  obtain ⟨_ | a, v⟩ := outcome
  · exact done
  · exact m.trans done (next a v)

@[grind ←]
theorem Keeps.andThen {x : Act A σ E PUnit} {f : PUnit → Act A σ E β} (first : m.Keeps x)
    (next : m.Keeps (f ⟨⟩)) : m.Keeps (x >>= f) :=
  first.bind fun _ => next

@[grind ←]
theorem Keeps.map (keeps : m.Keeps x) (f : α → β) : m.Keeps (f <$> x) := by
  intro w
  rw [Act.map_apply]
  exact keeps w

@[grind ←]
theorem Keeps.discard (keeps : m.Keeps x) : m.Keeps (discard x : Act A σ E PUnit) := fun w =>
  (keeps.map fun _ => PUnit.unit) w

theorem Keeps.get_bind {f : Site A σ → Act A σ E β} (next : ∀ w, m.Keeps (f w)) :
    m.Keeps (get >>= f) :=
  fun w => next w w

theorem keeps_get (f : Site A σ → α) : m.Keeps (do return f (← get) : Act A σ E α) :=
  .get_bind fun _ => keeps_pure _

@[grind ←]
theorem Keeps.tryCatch {f : E → Act A σ E α} (keeps : m.Keeps x) (handled : ∀ e, m.Keeps (f e)) :
    m.Keeps (tryCatch x f) := by
  intro w
  have done := keeps w
  rw [Act.tryCatch_apply]
  generalize x w = outcome at *
  obtain ⟨e | a, v⟩ := outcome
  · exact m.trans done (handled e v)
  · exact done

@[grind ←]
theorem keeps_forM {xs : List β} {f : β → Act A σ E Unit} (each : ∀ b ∈ xs, m.Keeps (f b)) :
    m.Keeps (xs.forM f) := by
  induction xs with
  | nil => exact keeps_pure _
  | cons b xs ih =>
    exact (each b List.mem_cons_self).bind fun _ => ih fun b' mem => each b' (.tail _ mem)

@[grind ←]
theorem keeps_mapM {xs : List β} {f : β → Act A σ E α} (each : ∀ b, m.Keeps (f b)) :
    m.Keeps (xs.mapM f) := by
  induction xs with
  | nil => exact keeps_pure _
  | cons b xs ih =>
    rw [List.mapM_cons]
    exact (each b).bind fun _ => ih.bind fun _ => keeps_pure _

theorem keeps_anyM {xs : List β} {f : β → Act A σ E Bool} (each : ∀ b, m.Keeps (f b)) :
    m.Keeps (xs.anyM f) := by
  induction xs with
  | nil => exact keeps_pure _
  | cons b xs ih =>
    refine (each b).bind fun found => ?_
    cases found
    · exact ih
    · exact keeps_pure _

@[grind ←]
theorem keeps_foldlM {xs : List β} {f : α → β → Act A σ E α} (each : ∀ a b, m.Keeps (f a b))
    (a : α) : m.Keeps (xs.foldlM f a) := by
  induction xs generalizing a with
  | nil => exact keeps_pure _
  | cons b xs ih => exact (each a b).bind fun a => ih a

@[grind ←]
theorem keeps_foldrM {xs : List β} {f : β → α → Act A σ E α} (each : ∀ b a, m.Keeps (f b a))
    (a : α) : m.Keeps (xs.foldrM f a) := by
  induction xs with
  | nil => exact keeps_pure _
  | cons b xs ih =>
    rw [List.foldrM_cons]
    exact ih.bind fun a => each b a

@[grind ←]
theorem keeps_filterMapM {xs : List β} {f : β → Act A σ E (Option α)}
    (each : ∀ b, m.Keeps (f b)) : m.Keeps (xs.filterMapM f) := by
  induction xs with
  | nil => exact keeps_pure _
  | cons b xs ih =>
    rw [List.filterMapM_cons]
    refine (each b).bind fun found => ?_
    cases found
    · exact ih
    · exact ih.bind fun _ => keeps_pure _

@[grind ←]
theorem keeps_forIn {xs : List β} {f : β → α → Act A σ E (ForInStep α)}
    (each : ∀ b a, m.Keeps (f b a)) (a : α) : m.Keeps (forIn xs a f) := by
  induction xs generalizing a with
  | nil => exact keeps_pure _
  | cons b xs ih =>
    rw [List.forIn_cons]
    refine (each b a).bind fun step => ?_
    cases step
    · exact keeps_pure _
    · exact ih _

@[grind ←]
theorem keeps_optionForM {x : Option β} {f : β → Act A σ E Unit} (each : ∀ b, m.Keeps (f b)) :
    m.Keeps (x.forM f) := by
  cases x
  · exact keeps_pure _
  · exact each _

@[grind ←]
theorem keeps_optionMapM {x : Option β} {f : β → Act A σ E α} (each : ∀ b, m.Keeps (f b)) :
    m.Keeps (x.mapM f) := by
  cases x
  · exact keeps_pure _
  · exact (each _).map _

/-- One manner may be stricter than another. -/
theorem Keeps.mono {m' : Manner A σ} (keeps : m.Keeps x)
    (allows : ∀ {w w'}, m.allows w w' → m'.allows w w') : m'.Keeps x := fun w =>
  allows (keeps w)

end Manner

end StateWeave
