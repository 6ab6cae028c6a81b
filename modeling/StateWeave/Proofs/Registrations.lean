import StateWeave.Dispatch.Registry

/-! Registrations last. Whatever is done with the registries short of forgetting them, every channel
keeps the actions it holds, in their order, and new ones come behind them. -/

namespace StateWeave

variable {A : Type} {P : A → Prop}

namespace Channel

variable {c : Channel A} {seen : Composite A} {a : A}

/-- Stamps are given out in order, and every action that the channel holds or that waits to be put on
it satisfies `P`. -/
structure Sound (P : A → Prop) (c : Channel A) : Prop where
  stamped : c.current.value.stamp < c.fresh
  held : ∀ a ∈ c.actions, P a
  awaited : ∀ rival ∈ c.rivals, ∀ a ∈ rival, P a

theorem sound_empty : ({} : Channel A).Sound P :=
  ⟨Nat.zero_lt_one, nofun, nofun⟩

/-- What somebody saw in the channel is there still, or was replaced by something newer. -/
def Saw (c : Channel A) (seen : Composite A) : Prop :=
  c.current.value = seen ∨ seen.stamp < c.current.value.stamp

/-- An attempt goes through if what was seen is there still, and changes nothing else if not. -/
theorem attempt_cases (saw : c.Saw seen) (a : A) :
    (c.current.value = seen ∧ c.attempt seen a =
      (true, { c with current := ⟨⟨c.fresh, c.actions ++ [a]⟩⟩, fresh := c.fresh + 1 })) ∨
    (seen.stamp < c.current.value.stamp ∧
      c.attempt seen a = (false, { c with fresh := c.fresh + 1 })) := by
  rcases saw with rfl | older
  · left
    simp [attempt, AtomicRef.compareAndSet, BEq.beq, actions]
  · right
    have changed : c.current.value.stamp ≠ seen.stamp := by omega
    simp [attempt, AtomicRef.compareAndSet, BEq.beq, changed, older]

/-- What an attempt leaves: a sound channel with at most this action more. -/
theorem attempt_keeps (sound : c.Sound P) (saw : c.Saw seen) (allowed : P a) :
    (c.attempt seen a).2.Sound P ∧ (c.attempt seen a).2.Saw seen ∧
      (c.attempt seen a).2.rivals = c.rivals ∧ c.actions <+: (c.attempt seen a).2.actions := by
  have stamped := sound.stamped
  rcases attempt_cases saw a with ⟨rfl, done⟩ | ⟨older, failed⟩
  · rw [done]
    refine ⟨⟨by simp, ?_, sound.awaited⟩, .inr stamped, rfl, List.prefix_append ..⟩
    intro b held
    rcases List.mem_append.1 held with earlier | new
    · exact sound.held b earlier
    · exact List.mem_singleton.1 new ▸ allowed
  · rw [failed]
    exact ⟨⟨by simp; omega, sound.held, sound.awaited⟩, .inr older, rfl, List.prefix_refl _⟩

theorem attempts_keep (as : List A) (allowed : ∀ a ∈ as, P a) (sound : c.Sound P)
    (saw : c.Saw seen) :
    let c' := as.foldl (fun c a => (c.attempt seen a).2) c
    c'.Sound P ∧ c'.Saw seen ∧ c'.rivals = c.rivals ∧ c.actions <+: c'.actions := by
  induction as generalizing c with
  | nil => exact ⟨sound, saw, rfl, List.prefix_refl _⟩
  | cons a as ih =>
    obtain ⟨sound', saw', rivals, kept⟩ := attempt_keeps sound saw (allowed a (by simp))
    obtain ⟨sound'', saw'', rivals', kept'⟩ := ih (fun b hb => allowed b (by simp [hb])) sound' saw'
    exact ⟨sound'', saw'', rivals'.trans rivals, kept.trans kept'⟩

theorem read_keeps (sound : c.Sound P) :
    c.read.2.Sound P ∧ c.read.2.Saw c.current.value ∧ c.actions <+: c.read.2.actions := by
  have tries : ∀ a ∈ c.rivals.filterMap (·.head?), P a := by
    intro a ha
    obtain ⟨rival, mem, head⟩ := List.mem_filterMap.1 ha
    exact sound.awaited rival mem a (List.mem_of_mem_head? head)
  obtain ⟨tried, saw, -, kept⟩ := attempts_keep _ tries sound (.inl rfl)
  refine ⟨⟨tried.stamped, tried.held, ?_⟩, saw, kept⟩
  intro rival mem a ha
  obtain ⟨whole, mem', rfl⟩ := List.mem_map.1 mem
  exact sound.awaited whole mem' a (List.mem_of_mem_tail ha)

/-- A turn takes one action from every rival that has one left. -/
theorem waiting_tails (rivals : List (List A)) :
    (rivals.map (·.tail)).flatten.length + (rivals.filterMap (·.head?)).length =
      rivals.flatten.length := by
  induction rivals with
  | nil => rfl
  | cons rival rivals ih =>
    cases rival with
    | nil => exact ih
    | cons a rest => simp at ih ⊢; omega

/-- If what was read is not there any more, a rival had its turn. -/
theorem waiting_read_lt (c : Channel A) (changed : c.read.2.current.value ≠ c.current.value) :
    c.read.2.waiting < c.waiting := by
  have tails := waiting_tails c.rivals
  have tried : c.rivals.filterMap (·.head?) ≠ [] := by
    intro none
    exact changed (by simp [read, none])
  have := List.length_pos_iff.2 tried
  simp only [waiting, read]
  omega

theorem registerWithin_succ (n : Nat) (c : Channel A) (a : A) :
    registerWithin (n + 1) c a =
      if (c.read.2.attempt c.current.value a).1 then (c.read.2.attempt c.current.value a).2
      else registerWithin n (c.read.2.attempt c.current.value a).2 a := rfl

theorem registerWithin_keeps (n : Nat) (sound : c.Sound P) (allowed : P a) :
    (registerWithin n c a).Sound P ∧ c.actions <+: (registerWithin n c a).actions := by
  induction n generalizing c with
  | zero => exact ⟨sound, List.prefix_refl _⟩
  | succ n ih =>
    obtain ⟨sound', saw, kept⟩ := read_keeps sound
    obtain ⟨sound'', -, -, kept'⟩ := attempt_keeps sound' saw allowed
    rw [registerWithin_succ]
    split
    · exact ⟨sound'', kept.trans kept'⟩
    · exact ⟨(ih sound'').1, (kept.trans kept').trans (ih sound'').2⟩

/-- With more attempts than turns of the rivals the action is put behind all others. -/
theorem registerWithin_actions (n : Nat) (sound : c.Sound P) (allowed : P a)
    (enough : c.waiting < n) :
    ∃ between, (registerWithin n c a).actions = c.actions ++ between ++ [a] := by
  induction n generalizing c with
  | zero => omega
  | succ n ih =>
    obtain ⟨sound', saw, between, kept⟩ := read_keeps sound
    obtain ⟨sound'', -, rivals, between', kept'⟩ := attempt_keeps sound' saw allowed
    rw [registerWithin_succ]
    rcases attempt_cases saw a with ⟨-, done⟩ | ⟨older, failed⟩
    · refine ⟨between, ?_⟩
      simp only [done, if_true, kept]
      rfl
    · have fewer : (c.read.2.attempt c.current.value a).2.waiting < n := by
        have := waiting_read_lt c (by rintro same; rw [same] at older; omega)
        rw [waiting, rivals]
        exact Nat.lt_of_lt_of_le this (by omega)
      obtain ⟨later, actions⟩ := ih sound'' fewer
      refine ⟨between ++ between' ++ later, ?_⟩
      rw [failed] at actions kept' ⊢
      simp only [Bool.false_eq_true, if_false, actions, ← kept', ← kept, List.append_assoc]

theorem register_keeps (sound : c.Sound P) (allowed : P a) : (c.register a).Sound P :=
  (registerWithin_keeps _ sound allowed).1

/-- A registration comes last; what rivals registered meanwhile comes before it. -/
theorem register_actions (sound : c.Sound P) (allowed : P a) :
    ∃ between, (c.register a).actions = c.actions ++ between ++ [a] :=
  registerWithin_actions _ sound allowed (Nat.lt_succ_self _)

end Channel

/-! ### Registries -/

namespace Registry

variable {r : Registry A}

/-- Both channels are sound. -/
def Sound (P : A → Prop) (r : Registry A) : Prop :=
  ∀ ch, (r.channel ch).Sound P

theorem sound_new (module : String) : ({ module := module } : Registry A).Sound P := by
  rintro (_ | _) <;> exact Channel.sound_empty

theorem channel_setChannel (r : Registry A) (c : Channel A) (ch ch' : ChannelName) :
    (r.setChannel c ch).channel ch' = if ch' = ch then c else r.channel ch' := by
  cases ch <;> cases ch' <;> rfl

theorem Sound.setChannel (sound : r.Sound P) {c : Channel A} (ch : ChannelName)
    (channel : c.Sound P) : (r.setChannel c ch).Sound P := by
  intro ch'
  rw [channel_setChannel]
  split
  · exact channel
  · exact sound ch'

end Registry

/-- An action put on a channel of a registry. -/
structure Registration (A : Type) where
  registry : Nat
  channel : ChannelName
  action : A

/-- The actions put on one channel, in their order. -/
def Registration.on (made : List (Registration A)) (id : Nat) (ch : ChannelName) : List A :=
  (made.filter fun r => r.registry = id ∧ r.channel = ch).map (·.action)

theorem Registration.on_append (made made' : List (Registration A)) (id : Nat) (ch : ChannelName) :
    on (made ++ made') id ch = on made id ch ++ on made' id ch := by
  simp [on]

namespace Registries

variable {rs rs' rs'' : Registries A} {made made' : List (Registration A)}

/-- What a channel of a registry holds. -/
def actions (rs : Registries A) (id : Nat) (ch : ChannelName) : List A :=
  ((rs.get id).channel ch).actions

/-- All channels are sound, and modules are given registries that were made. -/
structure Sound (P : A → Prop) (rs : Registries A) : Prop where
  registries : ∀ r ∈ rs.made, r.Sound P
  made : ∀ id ∈ rs.all, id < rs.made.length

theorem Sound.get (sound : rs.Sound P) (id : Nat) : (rs.get id).Sound P := by
  rw [Registries.get]
  cases found : rs.made[id]? with
  | none => exact Registry.sound_new _
  | some r => exact sound.registries r (List.mem_of_getElem? found)

theorem get_set (rs : Registries A) (id id' : Nat) (r : Registry A) :
    (rs.set id r).get id' = if id' = id ∧ id < rs.made.length then r else rs.get id' := by
  simp only [Registries.get, Registries.set, List.getElem?_set]
  by_cases same : id' = id
  · subst same
    by_cases present : id' < rs.made.length <;> simp [present]
  · simp [same, Ne.symm same]

theorem Sound.set (sound : rs.Sound P) (id : Nat) {r : Registry A} (registry : r.Sound P) :
    (rs.set id r).Sound P where
  registries r' mem := (List.mem_or_eq_of_mem_set mem).elim (sound.registries r') (· ▸ registry)
  made id' mem := by simpa [Registries.set] using sound.made id' mem

/-- From `rs` to `rs'` no channel lost an action and no module its registry; what was put on a
channel meanwhile came behind what it held, in this order. -/
structure Grows (made : List (Registration A)) (rs rs' : Registries A) : Prop where
  actions : ∀ id ch, ∃ later, rs'.actions id ch = rs.actions id ch ++ later ∧
    (Registration.on made id ch).Sublist later
  inUse : rs.inUse.entries <+: rs'.inUse.entries

theorem Grows.refl (rs : Registries A) : Grows [] rs rs :=
  ⟨fun _ _ => ⟨[], by simp, .slnil⟩, List.prefix_refl _⟩

theorem Grows.trans (first : Grows made rs rs') (second : Grows made' rs' rs'') :
    Grows (made ++ made') rs rs'' := by
  refine ⟨fun id ch => ?_, first.inUse.trans second.inUse⟩
  obtain ⟨later, actions, sub⟩ := first.actions id ch
  obtain ⟨later', actions', sub'⟩ := second.actions id ch
  refine ⟨later ++ later', by rw [actions', actions, List.append_assoc], ?_⟩
  rw [Registration.on_append]
  exact sub.append sub'

/-- Whatever was registered is on its channel. -/
theorem Grows.mem (grows : Grows made rs rs') {r : Registration A} (registered : r ∈ made) :
    r.action ∈ rs'.actions r.registry r.channel := by
  obtain ⟨later, actions, sub⟩ := grows.actions r.registry r.channel
  rw [actions]
  refine List.mem_append_right _ (sub.subset ?_)
  exact List.mem_map.2 ⟨r, List.mem_filter.2 ⟨registered, by simp⟩, rfl⟩

/-- Replacing a channel by one that holds more puts that much on it, and nothing on the others. -/
theorem grows_setChannel (id : Nat) (ch : ChannelName) {c : Channel A} {later : List A}
    (more : c.actions = rs.actions id ch ++ later)
    (placed : ∀ r ∈ made, r.registry = id ∧ r.channel = ch)
    (sub : (made.map (·.action)).Sublist later) (present : made = [] ∨ id < rs.made.length) :
    Grows made rs (rs.set id ((rs.get id).setChannel c ch)) := by
  refine ⟨fun id' ch' => ?_, List.prefix_refl _⟩
  have elsewhere (other : ¬(id' = id ∧ ch' = ch)) : Registration.on made id' ch' = [] := by
    simp only [Registration.on, List.map_eq_nil_iff, List.filter_eq_nil_iff, decide_eq_true_eq]
    rintro r mem ⟨rfl, rfl⟩
    exact other ⟨(placed r mem).1, (placed r mem).2⟩
  by_cases here : id' = id ∧ ch' = ch
  · obtain ⟨rfl, rfl⟩ := here
    have all : Registration.on made id' ch' = made.map (·.action) := by
      rw [Registration.on, List.filter_eq_self.2 (by simpa using placed)]
    by_cases inRange : id' < rs.made.length
    · refine ⟨later, ?_, all ▸ sub⟩
      simp [actions, get_set, inRange, Registry.channel_setChannel, more]
    · obtain rfl := present.resolve_right inRange
      exact ⟨[], by simp [actions, get_set, inRange], .slnil⟩
  · refine ⟨[], ?_, elsewhere here ▸ .slnil⟩
    simp only [actions, get_set, List.append_nil]
    split
    case isFalse => rfl
    case isTrue same =>
      rw [Registry.channel_setChannel, if_neg fun ch => here ⟨same.1, ch⟩, same.1]

theorem snapshot_keeps (sound : rs.Sound P) (id : Nat) (ch : ChannelName) :
    (rs.snapshot id ch).2.Sound P ∧ Grows [] rs (rs.snapshot id ch).2 := by
  obtain ⟨channel, -, later, more⟩ := Channel.read_keeps (sound.get id ch)
  exact ⟨sound.set id ((sound.get id).setChannel ch channel),
    grows_setChannel id ch more.symm nofun (List.nil_sublist _) (.inl rfl)⟩

theorem register_keeps (sound : rs.Sound P) {id : Nat} (present : id < rs.made.length)
    (ch : ChannelName) {a : A} (allowed : P a) :
    (rs.register id ch a).Sound P ∧ Grows [⟨id, ch, a⟩] rs (rs.register id ch a) := by
  have channel := Channel.register_keeps (sound.get id ch) allowed
  obtain ⟨between, more⟩ := Channel.register_actions (sound.get id ch) allowed
  refine ⟨sound.set id ((sound.get id).setChannel ch channel),
    grows_setChannel id ch (more.trans (List.append_assoc ..)) ?_ ?_ (.inr present)⟩
  · intro r mem
    obtain rfl := List.mem_singleton.1 mem
    exact ⟨rfl, rfl⟩
  · exact List.sublist_append_right between [a]

/-- A module that has a registry keeps it; for any other a registry is put behind the others. -/
theorem registryFor_cases (rs : Registries A) (module : String) :
    (∃ id ∈ rs.all, rs.registryFor module = (id, rs)) ∨
      rs.registryFor module = (rs.made.length,
        ⟨rs.made ++ [{ module := module }], ⟨rs.inUse.entries ++ [(module, rs.made.length)]⟩⟩) := by
  simp only [registryFor, Table.get?, Table.insert, Table.contains]
  cases found : rs.inUse.entries.find? (·.1 == module) with
  | some entry =>
    left
    exact ⟨entry.2, List.mem_map.2 ⟨entry, List.mem_of_find?_eq_some found, rfl⟩, rfl⟩
  | none =>
    right
    have absent : rs.inUse.entries.any (·.1 == module) = false := by
      simpa using List.find?_eq_none.1 found
    simp [absent]

theorem registryFor_keeps (sound : rs.Sound P) (module : String) :
    (rs.registryFor module).2.Sound P ∧ Grows [] rs (rs.registryFor module).2 ∧
      (rs.registryFor module).1 < (rs.registryFor module).2.made.length := by
  rcases registryFor_cases rs module with ⟨id, used, same⟩ | new
  · rw [same]
    exact ⟨sound, .refl rs, sound.made id used⟩
  · rw [new]
    refine ⟨⟨?_, ?_⟩, ⟨fun id ch => ⟨[], ?_, .slnil⟩, List.prefix_append ..⟩, by simp⟩
    · intro r mem
      rcases List.mem_append.1 mem with earlier | last
      · exact sound.registries r earlier
      · exact List.mem_singleton.1 last ▸ Registry.sound_new module
    · intro id used
      simp only [all, Table.values, List.map_append, List.mem_append, List.map_cons, List.map_nil,
        List.mem_singleton, List.length_append, List.length_singleton] at used ⊢
      rcases used with earlier | rfl
      · have := sound.made id earlier
        omega
      · omega
    · -- The new registry is as empty as one that was not made yet.
      rw [List.append_nil, actions, actions, get, get]
      rcases Nat.lt_trichotomy id rs.made.length with earlier | rfl | later
      · rw [List.getElem?_append_left earlier]
      · cases ch <;> simp <;> rfl
      · rw [List.getElem?_eq_none (by simp; omega), List.getElem?_eq_none (by omega)]

theorem snapshot_snd (rs : Registries A) (id : Nat) (ch : ChannelName) :
    (rs.snapshot id ch).2 = rs.set id ((rs.get id).snapshot ch).2 := rfl

/-- To show a registry both of its channels are read. -/
theorem describe_snd (rs : Registries A) (id : Nat) :
    (rs.describe id).2 = ((rs.snapshot id .unload).2.snapshot id .load).2 := by
  have described : (rs.describe id).2 =
      rs.set id (((rs.get id).snapshot .unload).2.snapshot .load).2 := rfl
  rw [described, snapshot_snd, snapshot_snd, get_set]
  by_cases present : id < rs.made.length
  · simp [present, set]
  · simp [present, set, List.set_eq_of_length_le (Nat.le_of_not_lt present)]

/-- From `rs` to `rs'` by registering actions, asking for the registries of modules, and reading
channels; `made` is what was registered, in order. -/
inductive Moves : List (Registration A) → Registries A → Registries A → Prop
  | stay (rs : Registries A) : Moves [] rs rs
  | register {made : List (Registration A)} {rs rs' : Registries A} {id : Nat} (ch : ChannelName)
      (a : A) (present : id < rs.made.length) (later : Moves made (rs.register id ch a) rs') :
      Moves (⟨id, ch, a⟩ :: made) rs rs'
  | registryFor {made : List (Registration A)} {rs rs' : Registries A} (module : String)
      (later : Moves made (rs.registryFor module).2 rs') : Moves made rs rs'
  | snapshot {made : List (Registration A)} {rs rs' : Registries A} (id : Nat) (ch : ChannelName)
      (later : Moves made (rs.snapshot id ch).2 rs') : Moves made rs rs'

theorem Moves.trans (first : Moves made rs rs') (second : Moves made' rs' rs'') :
    Moves (made ++ made') rs rs'' := by
  induction first with
  | stay => exact second
  | register ch a present _ ih => exact .register ch a present (ih second)
  | registryFor module _ ih => exact .registryFor module (ih second)
  | snapshot id ch _ ih => exact .snapshot id ch (ih second)

/-- Nothing that is registered on the way gets lost. -/
theorem Moves.keeps (moves : Moves made rs rs') (sound : rs.Sound P)
    (allowed : ∀ r ∈ made, P r.action) : rs'.Sound P ∧ Grows made rs rs' := by
  induction moves with
  | stay => exact ⟨sound, .refl _⟩
  | register ch a present _ ih =>
    obtain ⟨sound', grows⟩ := register_keeps sound present ch (allowed _ List.mem_cons_self)
    obtain ⟨sound'', grows'⟩ := ih sound' fun r mem => allowed r (List.mem_cons_of_mem _ mem)
    exact ⟨sound'', grows.trans grows'⟩
  | registryFor module _ ih =>
    obtain ⟨sound', grows, -⟩ := registryFor_keeps sound module
    obtain ⟨sound'', grows'⟩ := ih sound' allowed
    exact ⟨sound'', grows.trans grows'⟩
  | snapshot id ch _ ih =>
    obtain ⟨sound', grows⟩ := snapshot_keeps sound id ch
    obtain ⟨sound'', grows'⟩ := ih sound' allowed
    exact ⟨sound'', grows.trans grows'⟩

end Registries

end StateWeave
