import StateWeave.Proofs.Manner
import StateWeave.Proofs.Scripts
import StateWeave.Proofs.Tables

/-! Code that leaves registrations to others: reading attributes makes nothing but passing objects and
lists, and making a class, or writing an attribute, registers nothing, owns nothing and keeps no
instantiation, provided that the handlers it calls do not either. -/

namespace StateWeave

namespace World

open Manner

variable {α : Type}

/-! ### Looking -/

/-- Only passing objects and lists are made. -/
def looking : Manner Action Objects where
  allows w w' := ∃ passing lists, w' = { w with rest := { w.rest with passing, lists } }
  refl w := ⟨_, _, rfl⟩
  trans := by
    rintro w _ _ ⟨passing, lists, rfl⟩ ⟨passing', lists', rfl⟩
    exact ⟨passing', lists', rfl⟩

theorem looks_hierarchy : looking.Keeps hierarchy :=
  keeps_get _

theorem looks_read (f : Hierarchy → Except AttributeFault Value) : looking.Keeps (read f) := by
  refine looks_hierarchy.bind fun h => ?_
  split
  · exact keeps_pure _
  · exact keeps_throw _

theorem looks_newPassing : looking.Keeps newPassing := fun _ => ⟨_, _, rfl⟩

theorem looks_passing : looking.Keeps (Value.ref <$> newPassing) :=
  looks_newPassing.map _

theorem looks_newList (items : List Value) : looking.Keeps (newList items) := fun _ => ⟨_, _, rfl⟩

theorem looks_kindOf (v : Value) : looking.Keeps (kindOf v) :=
  keeps_get _

theorem looks_describe (v : Value) : looking.Keeps (describe v) :=
  keeps_get _

theorem looks_classAttribute (c : Nat) (attr : String) : looking.Keeps (classAttribute c attr) := by
  refine looks_hierarchy.bind fun h => ?_
  split
  · exact keeps_pure _
  · exact keeps_throw _
  · split
    · exact looks_passing
    · exact keeps_throw _
  · split
    · exact looks_passing
    · refine (looks_read _).bind fun v => ?_
      split
      · exact looks_passing
      · split
        · exact looks_passing
        · exact keeps_pure _
      · exact keeps_pure _

theorem looks_instanceAttribute (i : Nat) (attr : String) :
    looking.Keeps (instanceAttribute i attr) := by
  refine looks_hierarchy.bind fun h => ?_
  dsimp only
  split
  · split
    · exact keeps_pure _
    · split
      · exact keeps_pure _
      · exact keeps_throw _
    · split
      · exact keeps_pure _
      · exact keeps_throw _
    · exact keeps_throw _
  · exact keeps_pure _
  · exact looks_passing
  · split
    · exact keeps_pure _
    · exact looks_passing
  · exact looks_read _

theorem looks_field? (r : Ref) (attr : String) : looking.Keeps (field? r attr) := by
  have passing : looking.Keeps (do return some (.ref (← newPassing)) : Run (Option Value)) :=
    looks_newPassing.bind fun _ => keeps_pure _
  refine .get_bind fun w => ?_
  dsimp only
  split
  case h_7 => exact (keeps_get _).bind fun _ => (looks_newList _).bind fun _ => keeps_pure _
  case h_11 | h_12 | h_13 => exact (keeps_get _).bind fun _ => keeps_pure _
  case h_14 | h_15 =>
    refine (keeps_get _).bind fun _ => ?_
    split
    · exact passing
    · exact keeps_pure _
  case h_4 | h_5 | h_6 | h_8 | h_9 | h_10 | h_16 | h_17 | h_18 | h_19 | h_20 | h_21 => exact passing
  all_goals exact keeps_pure _

theorem looks_listTypeAttribute (item : Value) (typeVars : List Value) (attr : String) :
    looking.Keeps (listTypeAttribute item typeVars attr) := by
  unfold listTypeAttribute
  split
  case h_8 =>
    split
    · exact keeps_throw _
    · exact looks_classAttribute _ _
  all_goals exact keeps_pure _

theorem looks_attributeOf (v : Value) (attr : String) : looking.Keeps (attributeOf v attr) := by
  have missing : looking.Keeps (do throw (.missing (← kindOf v) attr) : Run Value) :=
    (looks_kindOf v).bind fun _ => keeps_throw _
  unfold attributeOf
  split
  · exact looks_classAttribute _ _
  · exact looks_instanceAttribute _ _
  · exact looks_listTypeAttribute _ _ _
  · split
    · exact keeps_pure _
    · exact keeps_pure _
    · exact keeps_throw _
  · refine (keeps_get _).bind fun extra => ?_
    split
    · exact keeps_pure _
    · refine (looks_field? _ _).bind fun field => ?_
      split
      · exact keeps_pure _
      · exact missing
  · split
    · exact (looks_kindOf _).bind fun _ => keeps_pure _
    · exact missing

theorem looks_attribute? (v : Value) (attr : String) : looking.Keeps (attribute? v attr) := by
  refine .tryCatch ((looks_attributeOf v attr).map _) fun e => ?_
  split
  · exact keeps_pure _
  · exact keeps_throw _

theorem looks_isTruthy (v : Value) : looking.Keeps (isTruthy v) := by
  refine .get_bind fun w => ?_
  dsimp only
  split
  case h_8 => exact (keeps_get _).bind fun _ => keeps_pure _
  all_goals exact keeps_pure _

theorem looks_isOpen (v : Value) : looking.Keeps (isOpen v) := by
  unfold isOpen
  split
  · exact keeps_pure _
  · refine (looks_kindOf _).bind fun kind => ?_
    split
    · exact keeps_pure _
    · refine (looks_attribute? _ _).bind fun typeVars => ?_
      split
      · exact looks_isTruthy _
      · exact keeps_pure _

theorem looks_describeArgument (v : Value) : looking.Keeps (describeArgument v) := by
  refine (looks_attribute? v _).bind fun name => ?_
  split
  · exact keeps_pure _
  · exact (looks_describe v).bind fun _ => keeps_pure _

theorem looks_describeArguments (args : List Value) : looking.Keeps (describeArguments args) := by
  refine (keeps_mapM looks_describeArgument).bind fun names =>
    Keeps.bind (keeps_mapM ?_) fun _ => keeps_pure _
  rintro ⟨name, index⟩
  dsimp only
  split
  · exact keeps_pure _
  · exact (looks_kindOf _).bind fun _ => keeps_throw _

end World

/-! ### Keeping out of registrations -/

def UnitCode.steps : UnitCode → Script
  | .mk _ steps => steps

/-- Handlers and load units are scripts of the kind `T`. -/
structure Objects.Hears (T : Script → Prop) (o : Objects) : Prop where
  handlers : ∀ i : Nat, T ((o.handlers[i]?).getD default).action
  loads : ∀ x ∈ o.initializers, ∀ code, x.load = some code → T code.steps

namespace World

open Manner

/-- From `w` to `w'` nothing was registered, no initializer got an owner, and no instantiation was
kept or forgotten. -/
structure Aside (w w' : World) : Prop where
  registries : w.registries.Moves [] w'.registries
  instantiations : w'.rest.instantiations = w.rest.instantiations
  initializers : ∃ made, w'.rest.initializers = w.rest.initializers ++ made ∧
    ∀ x ∈ made, x.owner = none

variable {α : Type} {T : Script → Prop} {w w' w'' : World}

theorem Aside.refl (w : World) : Aside w w where
  registries := .stay _
  instantiations := rfl
  initializers := ⟨[], by simp⟩

theorem Aside.trans (first : Aside w w') (second : Aside w' w'') : Aside w w'' where
  registries := first.registries.trans second.registries
  instantiations := second.instantiations.trans first.instantiations
  initializers := by
    obtain ⟨made, grown, unowned⟩ := first.initializers
    obtain ⟨made', grown', unowned'⟩ := second.initializers
    refine ⟨made ++ made', by rw [grown', grown, List.append_assoc], fun x mem => ?_⟩
    exact (List.mem_append.1 mem).elim (unowned x) (unowned' x)

/-- Work that keeps out of registrations, and so does all code that is added. -/
def discreet (T : Script → Prop) : Manner Action Objects where
  allows w w' := w.rest.Hears T → Aside w w' ∧ w'.rest.Hears T
  refl w hears := ⟨.refl w, hears⟩
  trans first second hears :=
    have ⟨aside, hears'⟩ := first hears
    have ⟨aside', hears''⟩ := second hears'
    ⟨aside.trans aside', hears''⟩

theorem discreet_of_looked (looked : looking.allows w w') :
    (discreet T).allows w w' := by
  obtain ⟨passing, lists, rfl⟩ := looked
  exact fun hears => ⟨⟨.stay _, rfl, [], by simp⟩, hears.handlers, hears.loads⟩

theorem discreet_of_looks {x : Run α} (looks : looking.Keeps x) : (discreet T).Keeps x :=
  looks.mono discreet_of_looked

/-- Work on anything but handlers, initializers and instantiations. -/
theorem discreet_objects {f : Objects → Objects} (same : ∀ o, (f o).handlers = o.handlers ∧
    (f o).initializers = o.initializers ∧ (f o).instantiations = o.instantiations) :
    (discreet T).Keeps (objects f) := by
  intro w hears
  obtain ⟨handlers, initializers, instantiations⟩ := same w.rest
  refine ⟨⟨.stay _, instantiations, [], initializers.trans (List.append_nil _).symm, nofun⟩, ?_, ?_⟩
  · exact handlers ▸ hears.handlers
  · exact initializers ▸ hears.loads

theorem discreet_setHierarchy (h : Hierarchy) : (discreet T).Keeps (setHierarchy h) :=
  discreet_objects fun _ => ⟨rfl, rfl, rfl⟩

theorem discreet_onHierarchy (f : Hierarchy → Except AttributeFault Hierarchy) :
    (discreet T).Keeps (onHierarchy f) := by
  refine (keeps_get _).bind fun h => ?_
  split
  · exact discreet_setHierarchy _
  · exact keeps_throw _

theorem discreet_trace (s : Shown) : (discreet T).Keeps (trace s) :=
  discreet_objects fun _ => ⟨rfl, rfl, rfl⟩

theorem discreet_modifyExtras (r : Ref) (f : Table String Value → Table String Value) :
    (discreet T).Keeps (modifyExtras r f) :=
  discreet_objects fun _ => ⟨rfl, rfl, rfl⟩

theorem discreet_ofWrite (result : Except Hierarchy.WriteFault Hierarchy) :
    (discreet T).Keeps (ofWrite result) := by
  unfold ofWrite
  split
  · exact discreet_setHierarchy _
  · exact keeps_throw _
  · exact keeps_throw _

theorem discreet_writeTo (target : Value) (attr : String) (v : Value) :
    (discreet T).Keeps (writeTo target attr v) := by
  refine .get_bind fun w => ?_
  dsimp only
  split
  · split
    · exact discreet_onHierarchy _
    · split
      · exact discreet_ofWrite _
      · exact discreet_onHierarchy _
  · split
    · exact discreet_onHierarchy _
    · exact keeps_throw _
    · split
      · exact keeps_throw _
      · exact discreet_onHierarchy _
    · exact discreet_onHierarchy _
  · split
    · exact discreet_setHierarchy _
    · exact discreet_modifyExtras _ _
  · exact discreet_modifyExtras _ _
  · exact (keeps_get _).bind fun _ => keeps_throw _

/-! ### Values as they look, and values that are told their names -/

theorem discreet_nameOf (r : Ref) : (discreet T).Keeps (nameOf r) := by
  refine .get_bind fun w => ?_
  dsimp only
  split
  · exact keeps_pure _
  · refine .bind (discreet_objects ?_) fun _ => keeps_pure _
    exact fun _ => ⟨rfl, rfl, rfl⟩

theorem discreet_showTo (n : Nat) (v : Value) : (discreet T).Keeps (showTo n v) := by
  induction n generalizing v with
  | zero => exact keeps_throw _
  | succ n ih =>
    unfold showTo
    split
    case h_6 => exact .get_bind fun w => (keeps_mapM ih).bind fun _ => keeps_pure _
    case h_7 => exact (keeps_mapM ih).bind fun _ => keeps_pure _
    case h_8 item _ =>
      split
      · exact (discreet_nameOf _).bind fun _ => keeps_pure _
      · exact (discreet_nameOf _).bind fun _ => keeps_pure _
      · exact (ih item).bind fun _ => keeps_pure _
    case h_9 r => exact (discreet_nameOf r).bind fun _ => keeps_pure _
    case h_10 | h_11 =>
      exact (discreet_of_looks looks_newPassing).bind fun r =>
        (discreet_nameOf r).bind fun _ => keeps_pure _
    all_goals exact keeps_pure _

theorem discreet_shown (v : Value) : (discreet T).Keeps (shown v) :=
  discreet_showTo _ v

theorem discreet_nameProperty (p : Nat) (owner : Value) (attr : String) :
    (discreet T).Keeps (nameProperty p owner attr) :=
  (discreet_onHierarchy _).bind fun _ => (keeps_get _).bind fun _ => discreet_writeTo _ _ _

theorem discreet_storeVariables (id : Nat) : (discreet T).Keeps (storeVariables id) := by
  refine (keeps_get _).bind fun c => ?_
  dsimp only
  split
  · exact (keeps_throw _).bind fun _ => discreet_onHierarchy _
  · exact discreet_onHierarchy _

/-- The objects in a namespace, slots apart, are those that the class statement wrote. -/
theorem mem_settledNamespace {id : Nat} {r : Ref} {c : ClassObject} {layout : Layout}
    {e : String × Value} (plain : ∀ d name, r ≠ .slot d name)
    (mem : e ∈ (settledNamespace id c layout).entries) (object : e.2 = .ref r) :
    ∃ e' ∈ c.own.entries, e'.2 = .ref r := by
  have slots (names : List String) (t : Table String Value) {e : String × Value}
      (held : e.2 = .ref r)
      (mem : e ∈ (names.foldl (fun t name => t.insert name (.ref (.slot id name))) t).entries) :
      e ∈ t.entries := by
    induction names generalizing t with
    | nil => exact mem
    | cons name names ih =>
      rcases Table.mem_insert (ih _ mem) with earlier | slot
      · exact earlier
      · exact absurd (Value.ref.inj (held.symm.trans slot)) (plain id name)
  have nothing (t : Table String Value) (attr : String) {e : String × Value}
      (held : e.2 = .ref r) (mem : e ∈ (t.insert attr .null).entries) :
      e ∈ t.entries := by
    rcases Table.mem_insert mem with earlier | null
    · exact earlier
    · cases held.symm.trans null
  obtain ⟨⟨attr, v⟩, settled, same⟩ := List.mem_map.1 mem
  have held : v = .ref r := by
    dsimp only at same
    split at same
    · rw [← same] at object
      dsimp only at object
      split at object
      · cases object
      · exact object
    · rw [← same] at object
      exact object
  have documented : (attr, v) ∈ (layout.slots.foldl
      (fun t name => t.insert name (.ref (.slot id name))) (c.own.erase "__qualname__")).entries := by
    split at settled
    · have := nothing _ _ held settled
      split at this
      · exact this
      · exact nothing _ _ held this
    · split at settled
      · exact settled
      · exact nothing _ _ held settled
  exact ⟨_, (List.mem_filter.1 (slots _ _ held documented)).1, held⟩

/-! ### Code of the program -/

/-- Scripts of the kind `T` keep out of registrations. -/
def Runner.Discreet (T : Script → Prop) (run : Runner) : Prop :=
  ∀ running steps, T steps → (discreet T).Keeps (run running steps)

section Runs

variable {run : Runner} {running : Option Value} (runs : Runner.Discreet T run)
include runs

theorem discreet_callHandler (args : List Value) (kwargs : List (String × Value)) (i : Nat) :
    (discreet T).Keeps (callHandler run running args kwargs i) := by
  intro w hears
  refine Keeps.bind (keeps_mapM discreet_shown) (fun _ => ?_) w hears
  refine Keeps.bind (keeps_mapM fun (k, v) => ?_) fun _ => ?_
  · exact (discreet_shown v).bind fun _ => keeps_pure _
  · exact (discreet_trace _).bind fun _ => runs running _ (hears.handlers i)

theorem discreet_runUnit (target : Value) {code : UnitCode} (known : T code.steps) :
    (discreet T).Keeps (runUnit run running target code) := by
  cases code with
  | mk isClassUnit steps => cases isClassUnit <;> exact runs _ steps known

theorem discreet_tellAncestors (id : Nat) : (discreet T).Keeps (tellAncestors run running id) := by
  refine (keeps_get _).bind fun h => ?_
  dsimp only
  split
  · exact keeps_pure _
  · split
    · exact discreet_callHandler runs _ _ _
    · exact discreet_callHandler runs _ _ _
    · exact discreet_storeVariables _

omit runs in
theorem looks_layoutFor (id : Nat) (c : ClassObject) : looking.Keeps (layoutFor id c) := by
  refine looks_hierarchy.bind fun h => ?_
  split
  · exact keeps_pure _
  · exact keeps_pure _
  · refine Keeps.bind (.get_bind fun w => ?_) fun _ => keeps_pure _
    dsimp only
    split <;> exact keeps_pure _

omit runs in
theorem looks_fullNameFor (c : ClassObject) : looking.Keeps (fullNameFor c) := by
  unfold fullNameFor
  split
  · exact keeps_pure _
  · exact keeps_pure _
  · exact (looks_kindOf _).bind fun _ => keeps_pure _

omit runs in
theorem looks_orderFor (bases : List Nat) : looking.Keeps (orderFor bases) := by
  refine looks_hierarchy.bind fun h => ?_
  split <;> exact keeps_pure _

/-- Apart from the owners that the initializers of its namespace get, a class statement is as discreet
as the code that hears of it. -/
theorem keeps_makeClass {m : Manner Action Objects} (fail : ClassFault → Failure) {c : ClassObject}
    (within : ∀ {w w'}, (discreet T).allows w w' → m.allows w w')
    (owning : ∀ e ∈ c.own.entries, ∀ i, e.2 = .ref (.initializer i) →
      ∀ id, m.Keeps (setOwner i (Value.ofClass id))) :
    m.Keeps (makeClass run running fail c) := by
  have looks {α : Type} {x : Run α} (looks : looking.Keeps x) : m.Keeps x :=
    (discreet_of_looks looks).mono within
  have naming (id : Nat) (c' : ClassObject) (layout : Layout) (same : c'.own = c.own) :
      m.Keeps ((settledNamespace id c' layout).entries.forM fun e =>
        nameValue (Value.ofClass id) e.1 e.2) := by
    refine keeps_forM ?_
    rintro ⟨attr, v⟩ mem
    dsimp only
    unfold nameValue
    split
    · exact (discreet_nameProperty _ _ _).mono within
    · obtain ⟨e, written, initializer⟩ := mem_settledNamespace (fun _ _ h => by cases h) mem rfl
      exact owning e (same ▸ written) _ initializer id
    · exact keeps_pure _
  -- From here on every step but the naming is discreet.
  refine (keeps_get _).bind fun h => ?_
  dsimp only
  generalize (if c.bases.isEmpty then [Builtin.object] else c.bases) = bases
  split
  case' isTrue => refine ((discreet_trace _).mono within).bind fun _ => ?_
  all_goals
    refine (looks (looks_layoutFor _ _)).bind fun _ => (keeps_known _).bind fun layout => ?_
    refine (looks (looks_fullNameFor _)).bind fun _ => (keeps_known _).bind fun name => ?_
    refine (looks (looks_orderFor _)).bind fun _ => (keeps_known _).bind fun order => ?_
    refine ((discreet_setHierarchy _).mono within).bind fun _ => (naming _ _ _ rfl).bind fun _ => ?_
    exact ((discreet_tellAncestors runs _).mono within).bind fun _ => keeps_pure _

theorem discreet_makeClass (fail : ClassFault → Failure) {c : ClassObject}
    (plain : ∀ e ∈ c.own.entries, ∀ i, e.2 ≠ .ref (.initializer i)) :
    (discreet T).Keeps (makeClass run running fail c) :=
  keeps_makeClass runs fail id fun e mem i held => absurd held (plain e mem i)

end Runs

end World

/-! ### Quiet scripts -/

/-- Terms that make nothing. -/
def Term.isPlain : Term → Bool
  | .null | .bool _ | .int _ | .float _ | .text _ | .handle _ => true
  | _ => false

/-- Steps that log, fail, and write values that there are to attributes. -/
def Step.isQuiet : Step → Bool
  | .log _ | .logClass | .logAttribute _ _ | .raise _ _ => true
  | .set _ _ t | .assignStatic _ _ t => t.isPlain
  | _ => false

def areQuiet (steps : Script) : Prop :=
  steps.all Step.isQuiet = true

instance : DecidablePred areQuiet := fun steps =>
  inferInstanceAs (Decidable (steps.all Step.isQuiet = true))

namespace World

open Manner

variable {T : Script → Prop} {running : Option Value}

theorem looks_resolve (handle : String) : looking.Keeps (resolve running handle) := by
  unfold resolve
  split
  · exact keeps_pure _
  · refine .get_bind fun w => ?_
    split
    · exact keeps_pure _
    · exact keeps_throw _

theorem looks_eval {t : Term} (plain : t.isPlain = true) : looking.Keeps (eval running t) := by
  cases t with
  | handle id => exact looks_resolve id
  | null | bool | int | float | text => exact keeps_pure _
  | _ => cases plain

theorem discreet_assignStatic (target : Value) (attr : String) (v : Value) :
    (discreet T).Keeps (assignStatic target attr v) := by
  unfold assignStatic
  split
  · refine (keeps_get _).bind fun h => ?_
    split
    · exact discreet_writeTo _ _ _
    · exact keeps_throw _
  · exact (discreet_of_looks (looks_attributeOf _ _)).map _ |>.bind fun _ => discreet_writeTo _ _ _

theorem discreet_exec {run : Runner} {s : Step} (quiet : s.isQuiet = true) :
    (discreet T).Keeps (exec run running s) := by
  cases s with
  | log text => exact (discreet_trace _).bind fun _ => keeps_pure _
  | logClass =>
    refine Keeps.bind ((discreet_of_looks (looks_resolve _)).bind fun c => ?_)
      fun _ => keeps_pure _
    refine (discreet_of_looks (looks_attributeOf _ _)).bind fun name => ?_
    split
    · exact discreet_trace _
    · exact (keeps_get _).bind fun _ => discreet_trace _
  | logAttribute on attr =>
    refine Keeps.bind ((discreet_of_looks (looks_resolve _)).bind fun c => ?_)
      fun _ => keeps_pure _
    exact (discreet_of_looks (looks_attributeOf _ _)).bind fun v =>
      (discreet_shown v).bind fun _ => discreet_trace _
  | raise kind args => exact keeps_throw _
  | set on attr t =>
    refine Keeps.bind ((discreet_of_looks (looks_resolve _)).bind fun target => ?_)
      fun _ => keeps_pure _
    exact (discreet_of_looks (looks_eval quiet)).bind fun v => discreet_writeTo _ _ _
  | assignStatic on attr t =>
    refine Keeps.bind ((discreet_of_looks (looks_resolve _)).bind fun target => ?_)
      fun _ => keeps_pure _
    exact (discreet_of_looks (looks_eval quiet)).bind fun v => discreet_assignStatic _ _ _
  | _ => cases quiet

/-- Quiet scripts keep out of registrations, however deep they may go. -/
theorem discreet_runWithin (n : Nat) : Runner.Discreet areQuiet (runWithin n) := by
  intro running steps quiet
  cases n with
  | zero => exact keeps_throw _
  | succ n =>
    rw [areQuiet, List.all_eq_true] at quiet
    exact keeps_forM fun s mem => (discreet_exec (quiet s mem)).map _

end World

end StateWeave
