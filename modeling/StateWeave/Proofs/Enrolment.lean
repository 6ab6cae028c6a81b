import StateWeave.Proofs.Contention
import StateWeave.Proofs.Bystanders

/-! How the units of an initializer come into the registry of their module: behind what is there, when
its first owner is named, and for every instantiation once its load unit went through. -/

namespace StateWeave

variable {A : Type}

theorem Channel.register_of_alone {c : Channel A} (alone : c.rivals = []) (a : A) :
    (c.register a).actions = c.actions ++ [a] ∧ (c.register a).rivals = [] := by
  have current : c.current.compareAndSet c.current.value ⟨c.fresh, c.current.value.actions ++ [a]⟩ =
      (true, ⟨⟨c.fresh, c.current.value.actions ++ [a]⟩⟩) := by
    simp [AtomicRef.compareAndSet, BEq.beq]
  rw [register, registerWithin_succ, read_of_alone alone]
  simp only [attempt, current, if_true]
  exact ⟨rfl, alone⟩

namespace Registries

variable {rs rs' : Registries A}

/-- What the registry of a module holds on a channel, if it has one. -/
def under (rs : Registries A) (module : String) (ch : ChannelName) : List A :=
  (rs.inUse.get? module).elim [] (rs.actions · ch)

/-- Nobody else is at work on the channels, and every module has a registry of its own. -/
structure Orderly (rs : Registries A) : Prop where
  sound : rs.Sound fun _ => True
  alone : ∀ id ch, ((rs.get id).channel ch).rivals = []
  apart : ∀ {m m' id}, rs.inUse.get? m = some id → rs.inUse.get? m' = some id → m = m'

theorem orderly_empty : ({} : Registries A).Orderly where
  sound := ⟨nofun, nofun⟩
  alone id ch := by cases ch <;> rfl
  apart := nofun

theorem Orderly.present (orderly : rs.Orderly) {m : String} {id : Nat}
    (used : rs.inUse.get? m = some id) : id < rs.made.length := by
  obtain ⟨entry, found, rfl⟩ := Option.map_eq_some_iff.1 used
  exact orderly.sound.made _ (List.mem_map.2 ⟨entry, List.mem_of_find?_eq_some found, rfl⟩)

/-- A registry that is made on first use is empty. -/
theorem get_new (rs : Registries A) (table : Table String Nat) (m : String) (id : Nat) :
    (⟨rs.made ++ [{ module := m }], table⟩ : Registries A).get id =
      if id = rs.made.length then { module := m } else rs.get id := by
  rw [get, get]
  rcases Nat.lt_trichotomy id rs.made.length with earlier | rfl | later
  · rw [List.getElem?_append_left earlier, if_neg (by omega)]
  · simp
  · rw [List.getElem?_eq_none (by simp; omega), List.getElem?_eq_none (by omega),
      if_neg (by omega)]

/-- Asking for a registry shows nothing to be registered that was not. -/
theorem Orderly.registryFor (orderly : rs.Orderly) (m : String) :
    (rs.registryFor m).2.Orderly ∧ (∀ m' ch, (rs.registryFor m).2.under m' ch = rs.under m' ch) ∧
      (rs.registryFor m).2.inUse.get? m = some (rs.registryFor m).1 := by
  obtain ⟨sound, -, -⟩ := registryFor_keeps orderly.sound m
  revert sound
  cases used : rs.inUse.get? m with
  | some id =>
    simp only [Registries.registryFor, used]
    exact fun _ => ⟨orderly, fun _ _ => trivial, trivial⟩
  | none =>
    simp only [Registries.registryFor, used]
    refine fun sound => ⟨⟨sound, fun id ch => ?_, fun {m₁ m₂ id} => ?_⟩, fun m' ch => ?_, ?_⟩
    · rw [get_new]
      split
      · cases ch <;> rfl
      · exact orderly.alone id ch
    · simp only [Table.get?_insert_of_absent used]
      intro used₁ used₂
      split at used₁ <;> split at used₂
      · simp_all
      · have := orderly.present used₂
        cases used₁
        omega
      · have := orderly.present used₁
        cases used₂
        omega
      · exact orderly.apart used₁ used₂
    · simp only [under, Table.get?_insert_of_absent used]
      split
      case isTrue same =>
        subst same
        cases ch <;> simp [used, actions, get_new] <;> rfl
      case isFalse =>
        cases used' : rs.inUse.get? m' with
        | none => rfl
        | some id =>
          have := orderly.present used'
          simp only [Option.elim, actions]
          rw [get_new, if_neg (by omega)]
    · rw [Table.get?_insert_of_absent used, if_pos rfl]

/-- Reading a channel changes nothing. -/
theorem Orderly.snapshot (orderly : rs.Orderly) (id : Nat) (ch : ChannelName) :
    (rs.snapshot id ch).2 = rs := by
  have same : ((rs.get id).snapshot ch).2 = rs.get id := by
    rw [Registry.snapshot, Channel.read_of_alone (orderly.alone id ch)]
    exact (rs.get id).setChannel_self ch
  show rs.set id ((rs.get id).snapshot ch).2 = rs
  rw [same, set, get]
  cases found : rs.made[id]? with
  | none => rw [List.set_eq_of_length_le (List.getElem?_eq_none_iff.1 found)]
  | some r =>
    obtain ⟨inRange, rfl⟩ := List.getElem?_eq_some_iff.1 found
    simp

/-- A registration comes behind what its channel holds, and nowhere else. -/
theorem Orderly.register (orderly : rs.Orderly) {m : String} {id : Nat}
    (used : rs.inUse.get? m = some id) (ch : ChannelName) (a : A) :
    (rs.register id ch a).Orderly ∧ ∀ m' ch', (rs.register id ch a).under m' ch' =
      rs.under m' ch' ++ if m' = m ∧ ch' = ch then [a] else [] := by
  have present := orderly.present used
  obtain ⟨actions, alone⟩ := Channel.register_of_alone (orderly.alone id ch) a
  have held (id' : Nat) (ch' : ChannelName) : ((rs.register id ch a).get id').channel ch' =
      if id' = id ∧ ch' = ch then ((rs.get id).channel ch).register a
      else (rs.get id').channel ch' := by
    rw [Registries.register, get_set]
    by_cases same : id' = id
    · subst same
      simp [present, Registry.register, Registry.channel_setChannel]
    · simp [same]
  refine ⟨⟨(register_keeps orderly.sound present ch trivial).1, fun id' ch' => ?_, orderly.apart⟩,
    fun m' ch' => ?_⟩
  · rw [held]
    split
    · exact alone
    · exact orderly.alone id' ch'
  · have kept : (rs.register id ch a).inUse = rs.inUse := rfl
    simp only [under, kept]
    cases used' : rs.inUse.get? m' with
    | none =>
      have other : m' ≠ m := fun same => by simp [same, used] at used'
      simp [other]
    | some id' =>
      have same : id' = id ↔ m' = m :=
        ⟨fun same => orderly.apart used' (same ▸ used), fun same => by simp_all⟩
      simp only [Option.elim, Registries.actions, held, same]
      split
      case isTrue here =>
        obtain ⟨here, rfl⟩ := here
        rw [actions, same.2 here]
      case isFalse => simp

theorem Orderly.moves (moves : Moves [] rs rs') (orderly : rs.Orderly) :
    rs'.Orderly ∧ ∀ m ch, rs'.under m ch = rs.under m ch := by
  generalize none : ([] : List (Registration A)) = made at moves
  induction moves with
  | stay => exact ⟨orderly, fun _ _ => rfl⟩
  | register => cases none
  | registryFor m _ ih =>
    obtain ⟨orderly', same, -⟩ := orderly.registryFor m
    obtain ⟨orderly'', same'⟩ := ih orderly' none
    exact ⟨orderly'', fun m' ch => (same' m' ch).trans (same m' ch)⟩
  | snapshot id ch _ ih =>
    rw [orderly.snapshot] at ih
    exact ih orderly none

end Registries

/-- Adds the units of an initializer to the registry of its module. -/
def Registries.enrol (rs : Registries Action) (x : Initializer) (unit : ChannelName → Action) :
    Registries Action :=
  ChannelName.all.foldl
    (fun rs' ch => if (x.unit? ch).isSome then
      rs'.register (rs.registryFor x.module).1 ch (unit ch) else rs')
    (rs.registryFor x.module).2

/-- The units come behind what the channels of their module hold, and nowhere else. -/
theorem Registries.Orderly.enrol {rs : Registries Action} (orderly : rs.Orderly) (x : Initializer)
    (unit : ChannelName → Action) :
    (rs.enrol x unit).Orderly ∧ ∀ m ch, (rs.enrol x unit).under m ch =
      rs.under m ch ++ if m = x.module ∧ (x.unit? ch).isSome then [unit ch] else [] := by
  obtain ⟨asked, same, used⟩ := orderly.registryFor x.module
  have step {rs' : Registries Action} (orderly' : rs'.Orderly)
      (used' : rs'.inUse.get? x.module = some (rs.registryFor x.module).1) (ch : ChannelName) :
      let after := if (x.unit? ch).isSome then rs'.register (rs.registryFor x.module).1 ch (unit ch)
        else rs'
      after.Orderly ∧ after.inUse.get? x.module = some (rs.registryFor x.module).1 ∧
        ∀ m ch', after.under m ch' = rs'.under m ch' ++
          if m = x.module ∧ ch' = ch ∧ (x.unit? ch).isSome then [unit ch] else [] := by
    by_cases has : (x.unit? ch).isSome
    · obtain ⟨orderly'', more⟩ := orderly'.register used' ch (unit ch)
      simpa [has] using ⟨orderly'', used', more⟩
    · simpa [has] using ⟨orderly', used'⟩
  obtain ⟨unloading, used', more⟩ := step asked used .unload
  obtain ⟨loading, -, more'⟩ := step unloading used' .load
  refine ⟨loading, fun m ch => ?_⟩
  refine (more' m ch).trans ?_
  rw [more m ch, same m ch, List.append_assoc]
  cases ch <;> simp

/-- A value that a class holds as reading gives it: some values are bound anew, in an object with this
number. -/
def Value.readAs (next : Nat) : Value → Value
  | .subscription _ => .ref (.passing next)
  | .ref (.member name) =>
    if Builtin.boundMembers.contains name then .ref (.passing next) else .ref (.member name)
  | v => v

theorem Value.readAs_cases (v : Value) (next : Nat) :
    v.readAs next = .ref (.passing next) ∨ v.readAs next = v := by
  unfold readAs
  split
  · exact .inl rfl
  · split_ifs
    · exact .inl rfl
    · exact .inr rfl
  · exact .inr rfl

/-- What a class answers under a name, if `next` is the number of the next object that is made in
passing. -/
def Hierarchy.answer (h : Hierarchy) (next c : Nat) (attr : String) : Except AttributeFault Value :=
  match h.fact? c attr with
  | some told => told
  | none =>
    if Hierarchy.passingFacts.contains attr
        || (h.lookup? c attr).isNone && Builtin.typeMembers.contains attr then
      .ok (.ref (.passing next))
    else (h.get c attr).map (·.readAs next)

/-- A class that scripts made. -/
structure Hierarchy.Ordinary (h : Hierarchy) (c : Nat) : Prop where
  present : c < h.classes.length
  own : (h.classAt c).isBuiltin = false
  order : (h.classAt c).order.head? = some c

namespace World

def initializerOf (o : Objects) (i : Nat) : Initializer :=
  (o.initializers[i]?).getD default

theorem registerUnits_apply (i : Nat) (target : Option Value) (w : World) :
    registerUnits i target w =
      requireName ((target.or (initializerOf w.rest i).owner).getD .null)
        { w with registries := w.registries.enrol (initializerOf w.rest i) (.unit i · target) } := by
  have read : initializerAt i w = (.ok (initializerOf w.rest i), w) := rfl
  rw [registerUnits, Act.bind_apply, read]
  generalize initializerOf w.rest i = x
  simp only [Registries.enrol, ChannelName.all, List.foldl]
  by_cases unload : (x.unit? .unload).isSome <;> by_cases load : (x.unit? .load).isSome
  · simp [unload, load]
    rfl
  · simp [unload, load]
    rfl
  · simp [unload, load]
    rfl
  · simp [unload, load]
    rfl

theorem requireName_class (c : Nat) (w : World) : requireName (Value.ofClass c) w = (.ok (), w) := by
  rfl

variable (run : Runner) (running : Option Value)

/-- Runs the load unit of an initializer on a class, if it has one. -/
def loadOn (i c : Nat) : Run Unit := do
  match (← initializerAt i).load with
  | some code => runUnit run running (Value.ofClass c) code
  | none => return

/-- The class for these arguments with its own state, but neither registered nor kept. -/
def prepare (origin i : Nat) (args : List Value) : Run Nat := do
  let shown ← describeArguments args
  let c ← classOf origin
  let id ← makeClass run running .cls {
    name := c.name ++ shown, qualname := c.qualname ++ shown, bases := [origin], order := []
    own := ⟨[("__origin__", Value.ofClass origin), ("__args__", .tuple args),
      ("__reified__", .bool true),
      ("__module__", ← attributeOf (Value.ofClass origin) "__module__")]⟩ }
  loadOn run running i id
  return id

theorem makeInstantiation_eq (origin i : Nat) (args : List Value) :
    makeInstantiation run running origin i args = (do
      let id ← prepare run running origin i args
      registerUnits i (some (Value.ofClass id))
      objects fun o => { o with instantiations := o.instantiations ++ [⟨origin, args, id⟩] }
      return id) := by
  unfold makeInstantiation prepare setUp loadOn
  simp only [bind_assoc]
  refine bind_congr fun shown => bind_congr fun c => bind_congr fun m => ?_
  refine bind_congr fun id => bind_congr fun x => ?_
  cases x.load with
  | none => rfl
  | some code => simp only [given?, Value.ofClass, bind_assoc, pure_bind]

open Manner

variable {T : Script → Prop} {w w' v : World} {run : Runner} {running : Option Value}

theorem read_apply (f : Hierarchy → Except AttributeFault Value) (w : World) :
    read f w = ((f w.rest.hierarchy).mapError .attribute, w) := by
  have known : hierarchy w = (.ok w.rest.hierarchy, w) := rfl
  rw [read, Act.bind_apply, known]
  dsimp only
  cases f w.rest.hierarchy <;> rfl

theorem classAttribute_apply (c : Nat) (attr : String) (w : World) :
    (classAttribute c attr w).1 =
      (w.rest.hierarchy.answer w.rest.passing c attr).mapError .attribute := by
  have known : hierarchy w = (.ok w.rest.hierarchy, w) := rfl
  rw [classAttribute, Act.bind_apply, known, Hierarchy.answer]
  dsimp only
  rcases fact : w.rest.hierarchy.fact? c attr with _ | (fault | told)
  · rcases looked : w.rest.hierarchy.lookup? c attr with _ | held
    · have missing : w.rest.hierarchy.get c attr =
          .error (.missingOnClass (w.rest.hierarchy.classAt c).name attr) := by
        rw [Hierarchy.get, Hierarchy.getWithin, looked]
      simp only [Option.isNone_none, Bool.true_and, missing]
      split_ifs <;> rfl
    · simp only [Option.isNone_some, Bool.false_and, Bool.or_false]
      split_ifs
      · rfl
      · rw [Act.bind_apply, read_apply]
        rcases w.rest.hierarchy.get c attr with fault | a
        · rfl
        · cases a with
          | ref r =>
            cases r with
            | member name =>
              simp only [Except.mapError, Except.map, Value.readAs]
              split_ifs <;> rfl
            | _ => rfl
          | _ => rfl
  · cases w.rest.hierarchy.lookup? c attr <;> rfl
  · cases w.rest.hierarchy.lookup? c attr <;> rfl

/-- What a class answers for an attribute is made anew, or its hierarchy knows it. -/
theorem classAttribute_ok {c : Nat} {attr : String} {a : Value}
    (answered : (classAttribute c attr w).1 = .ok a) :
    (∃ n, a = .ref (.passing n)) ∨
      (w.rest.hierarchy.fact? c attr).getD (w.rest.hierarchy.get c attr) = .ok a := by
  have told : w.rest.hierarchy.answer w.rest.passing c attr = .ok a := by
    rw [classAttribute_apply] at answered
    cases given : w.rest.hierarchy.answer w.rest.passing c attr with
    | error fault =>
      rw [given] at answered
      cases answered
    | ok v =>
      rw [given] at answered
      cases answered
      rfl
  unfold Hierarchy.answer at told
  split at told
  · rename_i fact
    exact .inr (by rw [fact]; exact told)
  · rename_i fact
    split at told
    · exact .inl ⟨w.rest.passing, (Except.ok.inj told).symm⟩
    · rw [fact, Option.getD_none]
      cases got : w.rest.hierarchy.get c attr with
      | error fault =>
        rw [got] at told
        cases told
      | ok v =>
        rw [got] at told
        cases told
        exact (v.readAs_cases w.rest.passing).imp (⟨_, ·⟩) fun same => congrArg _ same.symm

theorem discreet_loadOn (runs : Runner.Discreet T run) (i c : Nat) :
    (discreet T).Keeps (loadOn run running i c) := by
  intro w hears
  have read : initializerAt i w = (.ok (initializerOf w.rest i), w) := rfl
  rw [loadOn, Act.bind_apply, read]
  dsimp only
  cases load : (initializerOf w.rest i).load with
  | none => exact (discreet T).refl w hears
  | some code =>
    have known : T code.steps := by
      rw [initializerOf] at load
      cases found : w.rest.initializers[i]? with
      | none =>
        rw [found] at load
        cases load
      | some x =>
        rw [found] at load
        exact hears.loads x (List.mem_of_getElem? found) code load
    exact discreet_runUnit runs _ known w hears

/-- The module of a class as it is passed on to its instantiations. -/
def moduleOf (h : Hierarchy) (c : Nat) : Except AttributeFault Value :=
  (h.fact? c "__module__").getD (h.get c "__module__")

/-- Making a class for type arguments, and setting it up, keeps out of registrations. -/
theorem discreet_prepare (runs : Runner.Discreet T run) {c : Nat}
    (module : ∀ j, moduleOf w.rest.hierarchy c ≠ .ok (.ref (.initializer j)))
    (i : Nat) (args : List Value) :
    (discreet T).allows w (prepare run running c i args w).2 := by
  have described := looks_describeArguments args w
  rw [prepare, Act.bind_apply]
  generalize describeArguments args w = outcome at *
  obtain ⟨_ | shown, v⟩ := outcome
  · exact discreet_of_looked described
  · refine (discreet T).trans (discreet_of_looked described) ?_
    obtain ⟨passing, lists, rfl⟩ := described
    dsimp only
    generalize wv : ({ w with rest := { w.rest with passing, lists } } : World) = v
    have same : v.rest.hierarchy = w.rest.hierarchy := wv ▸ rfl
    have read : classOf c v = (.ok (v.rest.hierarchy.classAt c), v) := rfl
    rw [Act.bind_apply, read]
    dsimp only
    rw [Act.bind_apply]
    have looked := looks_attributeOf (Value.ofClass c) "__module__" v
    rcases answer : attributeOf (Value.ofClass c) "__module__" v with ⟨_ | m, v'⟩
    · rw [answer] at looked
      exact discreet_of_looked looked
    · rw [answer] at looked
      refine (discreet T).trans (discreet_of_looked looked) ?_
      have plain : ∀ j, m ≠ .ref (.initializer j) := by
        rintro j rfl
        rcases classAttribute_ok (congrArg Prod.fst answer) with ⟨n, made⟩ | held
        · cases made
        · exact module j (same ▸ held)
      refine Keeps.bind (discreet_makeClass runs _ ?_) (fun id => ?_) v'
      · simpa [Value.ofClass] using plain
      · exact (discreet_loadOn runs i id).bind fun _ => keeps_pure id

/-- The world in which an instantiation that is set up is registered and kept. -/
def published (w : World) (i : Nat) (x : Instantiation) : World :=
  { w with
    registries := w.registries.enrol (initializerOf w.rest i) (.unit i · (some (Value.ofClass x.cls)))
    rest := { w.rest with instantiations := w.rest.instantiations ++ [x] } }

section Attempts

variable (run running) (c i : Nat)

theorem makeInstantiation_apply (args : List Value) (w : World) :
    makeInstantiation run running c i args w =
      match prepare run running c i args w with
      | (.error e, v) => (.error e, v)
      | (.ok id, v) => (.ok id, published v i ⟨c, args, id⟩) := by
  rw [makeInstantiation_eq, Act.bind_apply]
  rcases prepare run running c i args w with ⟨e | id, v⟩
  · rfl
  · dsimp only
    rw [Act.bind_apply, registerUnits_apply]
    rfl

end Attempts

/-- The world in which an initializer belongs to a class; its first owner brings the registration. -/
def owned (w : World) (i c : Nat) : World :=
  let x := initializerOf w.rest i
  { w with
    registries := if x.owner.isNone then w.registries.enrol x (.unit i · none) else w.registries
    rest := { w.rest with
      initializers := w.rest.initializers.modify i ({ · with owner := some (Value.ofClass c) }) } }

/-- A generic owner can be subscripted from now on. -/
def install (isGeneric : Bool) (i c : Nat) : Run Unit :=
  if isGeneric then
    writeTo (Value.ofClass c) subscriptionName (.subscription (.reify c i))
  else pure ()

theorem setOwner_apply {i : Nat} (present : i < w.rest.initializers.length) (c : Nat) :
    setOwner i (Value.ofClass c) w =
      install (initializerOf w.rest i).isGeneric i c (w.owned i c) := by
  let v : World := { w with rest := { w.rest with
    initializers := w.rest.initializers.modify i ({ · with owner := some (Value.ofClass c) }) } }
  have read : initializerAt i w = (.ok (initializerOf w.rest i), w) := rfl
  have writes : objects (fun o => { o with
      initializers := o.initializers.modify i ({ · with owner := given? (Value.ofClass c) }) }) w =
      (.ok (), v) := rfl
  have owning : initializerOf v.rest i =
      { initializerOf w.rest i with owner := some (Value.ofClass c) } := by
    simp [initializerOf, v, present]
  have registers : registerUnits i none v = (.ok (), { v with
      registries := v.registries.enrol (initializerOf w.rest i) (.unit i · none) }) := by
    rw [registerUnits_apply, owning]
    rfl
  rw [setOwner, Act.bind_apply, read]
  dsimp only
  rw [Act.bind_apply, writes]
  dsimp only
  cases owner : (initializerOf w.rest i).owner with
  | none =>
    rw [if_pos Option.isNone_none]
    rw [Act.bind_apply, registers]
    simp only [owned, owner, Option.isNone_none, if_true]
    cases (initializerOf w.rest i).isGeneric <;> rfl
  | some o =>
    simp only [Option.isNone_some, Bool.false_eq_true, if_false]
    rw [Act.bind_apply, requireName_class]
    simp only [owned, owner, Option.isNone_some, Bool.false_eq_true, if_false]
    cases (initializerOf w.rest i).isGeneric <;> rfl

/-- A class gets an attribute of its own under every name that stands for no fact. -/
theorem writeTo_class {c : Nat} {attr : String} {a : Value}
    (own : (w.rest.hierarchy.classAt c).isBuiltin = false)
    (noFact : w.rest.hierarchy.setFact? c attr a w.rest.kindOf = none) :
    writeTo (Value.ofClass c) attr a w = (.ok (), { w with rest := { w.rest with
      hierarchy := w.rest.hierarchy.modifyClass c fun x =>
        { x with own := x.own.insert attr a } } }) := by
  have known : hierarchy w = (.ok w.rest.hierarchy, w) := rfl
  unfold writeTo Value.ofClass
  rw [Act.get_bind_apply]
  simp only [own, Bool.false_eq_true, if_false]
  rw [noFact]
  dsimp only
  rw [onHierarchy, Act.bind_apply, known]
  dsimp only
  rw [Hierarchy.set, own]
  rfl

/-- Whatever is stored for subscriptions on a class is what subscripts it. -/
theorem install_installs {c : Nat} (ordinary : w.rest.hierarchy.Ordinary c) (i : Nat) :
    (install true i c w).2.rest.hierarchy.lookup? c subscriptionName =
      some (.subscription (.reify c i)) := by
  obtain ⟨present, own, order⟩ := ordinary
  let stored : Value := .subscription (.reify c i)
  let h := w.rest.hierarchy.modifyClass c fun x =>
    { x with own := x.own.insert subscriptionName stored }
  have writes : install true i c w = (.ok (), { w with rest := { w.rest with hierarchy := h } }) :=
    writeTo_class own rfl
  have changed : h.classAt c = { w.rest.hierarchy.classAt c with
      own := (w.rest.hierarchy.classAt c).own.insert subscriptionName stored } := by
    simp [h, Hierarchy.classAt, Hierarchy.modifyClass, present]
  rw [writes]
  show h.firstOwn? (h.classAt c).order subscriptionName = some stored
  obtain ⟨rest, ordered⟩ := List.head?_eq_some_iff.1 order
  have stored' : h.own? c subscriptionName = some stored := by
    rw [Hierarchy.own?, changed]
    exact Table.get?_insert_self _ _ _
  rw [changed, ordered, Hierarchy.firstOwn?, List.findSome?_cons, stored']

section Subscripts

variable (run running) {c i : Nat} {param : Value}

theorem instantiate_apply (args : List Value) (w : World) :
    instantiate run running c i args w =
      match changingAmong? w.rest.hierarchy args, findInstantiation? w.rest c args with
      | some kind, _ => (.error (.operation (.unhashable kind)), w)
      | none, some d => (.ok d, w)
      | none, none => makeInstantiation run running c i args w := by
  have known : hierarchy w = (.ok w.rest.hierarchy, w) := rfl
  rw [instantiate, Act.bind_apply, known]
  dsimp only
  cases changingAmong? w.rest.hierarchy args with
  | some kind => rfl
  | none =>
    dsimp only
    rw [Act.get_bind_apply]
    cases findInstantiation? w.rest c args <;> rfl

theorem subscript_class (c : Nat) (param : Value) (w : World) :
    subscript run running (Value.ofClass c) param w =
      let x := w.rest.hierarchy.classAt c
      let fault := Failure.operation (.classNotSubscriptable x.name)
      subscriptWithin run running c param fault fault (x.order.length + 1) x.order w := by
  have read : classOf c w = (.ok (w.rest.hierarchy.classAt c), w) := rfl
  unfold subscript Value.ofClass
  dsimp only
  rw [Act.bind_apply, read]

theorem subscriptWithin_reify {absent unset : Failure} {n : Nat} {classes : List Nat}
    (own : w.rest.hierarchy.firstOwn? classes subscriptionName = some (.subscription (.reify c i)))
    (concrete : (param.arguments.anyM isOpen w).1 = .ok false) :
    subscriptWithin run running c param absent unset (n + 1) classes w =
      (Subscripted.cls <$> instantiate run running c i param.arguments)
        (param.arguments.anyM isOpen w).2 := by
  have known : hierarchy w = (.ok w.rest.hierarchy, w) := rfl
  have closed : param.arguments.anyM isOpen w =
      (.ok false, (param.arguments.anyM isOpen w).2) :=
    Prod.ext concrete rfl
  unfold subscriptWithin
  dsimp only
  rw [Act.bind_apply, known]
  dsimp only
  rw [own]
  dsimp only
  rw [Act.bind_apply, closed]
  simp

/-- A generic class that is subscripted with concrete arguments gives an instantiation. -/
theorem subscript_apply
    (installed : w.rest.hierarchy.lookup? c subscriptionName = some (.subscription (.reify c i)))
    (concrete : (param.arguments.anyM isOpen w).1 = .ok false) :
    subscript run running (Value.ofClass c) param w =
      (Subscripted.cls <$> instantiate run running c i param.arguments)
        (param.arguments.anyM isOpen w).2 :=
  (subscript_class run running c param w).trans
    (subscriptWithin_reify run running installed concrete)

end Subscripts

end World
end StateWeave
