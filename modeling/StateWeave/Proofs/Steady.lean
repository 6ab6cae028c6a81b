import StateWeave.Import.Attribute
import StateWeave.Import.Collection
import StateWeave.Proofs.Manner
import StateWeave.Proofs.Tables

/-! What stays as it is while modules run, whatever they do and however they end: the files, the hook,
the frames around the running one, and all that was numbered, specialized, logged or registered. No
module that did not run before is left running. The lemmas are tagged for `grind`, which gets from
the parts of an operation to the whole. -/

namespace StateWeave

namespace Imports

open Manner

/-- The module is loaded and has not come to its end. -/
def Runs (i : Imports) (name : String) : Prop :=
  ∃ m, i.loaded.get? name = some m ∧ m.isRunning = true

/-- What running code keeps of a session. Of the frame it runs in it may change all but the kind. -/
structure Kept (i i' : Imports) : Prop where
  files : i'.files = i.files
  hook : i'.hook = i.hook
  around : i'.frames.tail = i.frames.tail
  kinds : i'.frames.map (·.isClass) = i.frames.map (·.isClass)
  running : ∀ name, i'.Runs name → i.Runs name
  made : i.made ≤ i'.made
  specializations : i.specializations <:+ i'.specializations

/-- What running code keeps of everything. -/
structure Steady (w w' : Site RegisteredUnit Imports) : Prop where
  session : w.rest.Kept w'.rest
  orchestrators : w'.orchestrators = w.orchestrators
  log : w.log <+: w'.log
  registries : w.registries.Sound (fun _ => True) →
    ∃ made, w.registries.Moves made w'.registries

variable {i i' i'' : Imports} {w w' w'' : Site RegisteredUnit Imports}

theorem Kept.refl (i : Imports) : Kept i i :=
  ⟨rfl, rfl, rfl, rfl, fun _ => id, Nat.le_refl _, List.suffix_refl _⟩

theorem Kept.trans (first : Kept i i') (second : Kept i' i'') : Kept i i'' where
  files := second.files.trans first.files
  hook := second.hook.trans first.hook
  around := second.around.trans first.around
  kinds := second.kinds.trans first.kinds
  running name runs := first.running name (second.running name runs)
  made := Nat.le_trans first.made second.made
  specializations := first.specializations.trans second.specializations

theorem Steady.refl (w : Site RegisteredUnit Imports) : Steady w w :=
  ⟨.refl _, rfl, List.prefix_refl _, fun _ => ⟨[], .stay _⟩⟩

theorem Steady.trans (first : Steady w w') (second : Steady w' w'') : Steady w w'' where
  session := first.session.trans second.session
  orchestrators := second.orchestrators.trans first.orchestrators
  log := first.log.trans second.log
  registries sound := by
    obtain ⟨made, moves⟩ := first.registries sound
    obtain ⟨made', moves'⟩ := second.registries (moves.keeps sound fun _ _ => trivial).1
    exact ⟨made ++ made', moves.trans moves'⟩

def steadily : Manner RegisteredUnit Imports := ⟨Steady, .refl, .trans⟩

/-! ### Changes of the session -/

theorem Kept.steady (kept : Kept w.rest i) : Steady w { w with rest := i } :=
  ⟨kept, rfl, List.prefix_refl _, fun _ => ⟨[], .stay _⟩⟩

theorem change_apply (f : Imports → Imports) (w : Site RegisteredUnit Imports) :
    change f w = (.ok (), { w with rest := f w.rest }) :=
  rfl

theorem steady_change {f : Imports → Imports} (kept : ∀ i, Kept i (f i)) :
    steadily.Keeps (change f) := fun w =>
  (kept w.rest).steady

theorem runs_insert {name other : String} {m : LoadedModule} :
    Runs { i with loaded := i.loaded.insert name m } other ↔
      if name = other then m.isRunning = true else i.Runs other := by
  split
  · next same => simp [Runs, ← same, Table.get?_insert_self]
  · next differ => simp [Runs, Table.get?_insert_of_ne _ differ]

theorem runs_erase {name other : String} :
    Runs { i with loaded := i.loaded.erase name } other ↔ name ≠ other ∧ i.Runs other := by
  by_cases same : name = other
  · simp [Runs, same, Table.get?_erase_self]
  · simp [Runs, same, Table.get?_erase_of_ne]

/-- A module takes its place, or another one's. -/
theorem kept_insert {name : String} {m : LoadedModule}
    (before : m.isRunning = true → i.Runs name) :
    Kept i { i with loaded := i.loaded.insert name m } := by
  refine { Kept.refl i with running := fun other runs => ?_ }
  rw [runs_insert] at runs
  split at runs
  · next same => exact same ▸ before runs
  · exact runs

theorem isLoaded_apply (name : String) (w : Site RegisteredUnit Imports) :
    isLoaded name w = (.ok (w.rest.loaded.contains name), w) :=
  rfl

theorem moduleAt_apply (name : String) (w : Site RegisteredUnit Imports) :
    moduleAt name w = (.ok ((w.rest.loaded.get? name).getD default), w) :=
  rfl

@[grind ←]
theorem steady_isLoaded (name : String) : steadily.Keeps (isLoaded name) := by
  grind [isLoaded]

@[grind ←]
theorem steady_moduleAt (name : String) : steadily.Keeps (moduleAt name) := by
  grind [moduleAt]

@[grind ←]
theorem steady_setModule {name : String} {m : LoadedModule} (idle : m.isRunning = false) :
    steadily.Keeps (setModule name m) :=
  steady_change fun _ => kept_insert fun runs => absurd runs (by simp [idle])

theorem modifyModule_apply (name : String) (f : LoadedModule → LoadedModule)
    (w : Site RegisteredUnit Imports) :
    modifyModule name f w = (.ok (), match w.rest.loaded.get? name with
      | some m => { w with rest := { w.rest with loaded := w.rest.loaded.insert name (f m) } }
      | none => w) := by
  rw [modifyModule, isLoaded, moduleAt]
  simp only [bind_assoc, pure_bind, Act.get_bind_apply]
  rw [Table.contains_eq]
  cases found : w.rest.loaded.get? name with
  | none => rfl
  | some m =>
    rw [Option.isSome_some, if_pos rfl, Act.get_bind_apply, found]
    rfl

@[grind ←]
theorem steady_modifyModule {name : String} {f : LoadedModule → LoadedModule}
    (same : ∀ m, (f m).isRunning = true → m.isRunning = true) :
    steadily.Keeps (modifyModule name f) := by
  intro w
  rw [modifyModule_apply]
  cases found : w.rest.loaded.get? name with
  | none => exact .refl w
  | some m => exact (kept_insert fun runs => ⟨m, found, same m runs⟩).steady

@[grind ←]
theorem steady_forget (name : String) : steadily.Keeps (forget name) :=
  steady_change fun i => { Kept.refl i with running := fun _ runs => (runs_erase.1 runs).2 }

@[grind ←]
theorem steady_setName (module name : String) (x : Thing) :
    steadily.Keeps (setName module name x) :=
  steady_modifyModule fun _ => id

@[grind ←]
theorem steady_unsetName (module name : String) : steadily.Keeps (unsetName module name) :=
  steady_modifyModule fun _ => id

@[grind ←]
theorem steady_modifyFrame {f : Frame → Frame} (kind : ∀ x, (f x).isClass = x.isClass) :
    steadily.Keeps (modifyFrame f) := by
  refine steady_change fun i => { Kept.refl i with around := ?_, kinds := ?_ }
  · cases i.frames <;> rfl
  · cases i.frames with
    | nil => rfl
    | cons x xs => exact congrArg (· :: xs.map (·.isClass)) (kind x)

@[grind ←]
theorem steady_newSerial : steadily.Keeps newSerial := by
  intro w
  exact Kept.steady { Kept.refl w.rest with made := Nat.le_succ _ }

@[grind ←]
theorem steady_note (records : List LogRecord) :
    steadily.Keeps (Site.note records : Importing Unit) := fun _ =>
  ⟨.refl _, rfl, List.prefix_append .., fun _ => ⟨[], .stay _⟩⟩

@[grind ←]
theorem steady_update (serial : Nat) (x : Thing) : steadily.Keeps (update serial x) :=
  steady_change fun i => { Kept.refl i with }

@[grind ←]
theorem steady_setField (serial : Nat) (name : String) (x : Option Thing) :
    steadily.Keeps (setField serial name x) :=
  steady_change fun i => { Kept.refl i with }

/-- Entering units on channels of a registry only moves the registries. -/
theorem forIn_register (registry : Nat) (channels : List ChannelName)
    (w : Site RegisteredUnit Imports) :
    ∃ registries, (forIn channels PUnit.unit fun channel _ => do
        Site.onRegistries fun rs => ((), rs.register registry channel .mk)
        return .yield PUnit.unit : Importing PUnit) w = (.ok ⟨⟩, { w with registries }) ∧
      (registry < w.registries.made.length → ∃ made, w.registries.Moves made registries) := by
  induction channels generalizing w with
  | nil => exact ⟨_, rfl, fun _ => ⟨[], .stay _⟩⟩
  | cons channel channels ih =>
    obtain ⟨registries, known, moves⟩ :=
      ih { w with registries := w.registries.register registry channel .mk }
    refine ⟨registries, ?_, fun present => ?_⟩
    · rw [List.forIn_cons, Act.bind_apply]
      exact known
    · obtain ⟨made, moves⟩ :=
        moves (by simpa [Registries.register, Registries.set] using present)
      exact ⟨_, .register channel .mk present moves⟩

@[grind ←]
theorem steady_register (x : Thing) : steadily.Keeps (register x) := by
  unfold register
  split
  · next module channels isGeneric =>
    intro w
    obtain ⟨registries, known, moves⟩ :=
      forIn_register (w.registries.registryFor module).1 channels
        { w with registries := (w.registries.registryFor module).2 }
    have asked : Site.onRegistries (·.registryFor module) w =
        ((.ok (w.registries.registryFor module).1,
          { w with registries := (w.registries.registryFor module).2 }) :
            Except ImportFault Nat × Site RegisteredUnit Imports) := rfl
    rw [Act.bind_apply, asked]
    dsimp only
    rw [Act.bind_apply, known]
    refine ⟨.refl _, rfl, List.prefix_refl _, fun sound => ?_⟩
    obtain ⟨made, moves⟩ := moves (Registries.registryFor_keeps sound module).2.2
    exact ⟨made, .registryFor module moves⟩
  · exact keeps_pure _

theorem attempt_apply {α : Type} (x : Importing α) (w : Site RegisteredUnit Imports) :
    attempt x w = (.ok (x w).1, (x w).2) := by
  rw [attempt, Act.tryCatch_apply, Act.map_apply]
  rcases x w with ⟨e | a, v⟩ <;> rfl

@[grind ←]
theorem steady_attempt {α : Type} {x : Importing α} (steady : steadily.Keeps x) :
    steadily.Keeps (attempt x) := by
  intro w
  rw [attempt_apply]
  exact steady w

@[grind ←]
theorem steady_ofExcept {α : Type} (result : Except ImportFault α) :
    steadily.Keeps (ofExcept result) := by
  unfold ofExcept
  grind

@[grind ←]
theorem steady_weave (name : String) (tree : Block) : steadily.Keeps (weave name tree) := by
  grind [weave]

/-- A frame of its own is put upon the others and taken away again. -/
theorem withFrame_apply {α : Type} (frame : Frame) (x : Importing α)
    (w : Site RegisteredUnit Imports) :
    let done := x { w with rest := { w.rest with frames := frame :: w.rest.frames } }
    withFrame frame x w =
      (done.1.map fun a => (a, done.2.rest.frames.headD frame),
        { done.2 with rest := { done.2.rest with frames := done.2.rest.frames.tail } }) := by
  rw [withFrame, Act.bind_apply, change_apply]
  dsimp only
  rw [Act.bind_apply, attempt_apply]
  generalize x _ = done
  obtain ⟨e | a, v⟩ := done <;> rfl

@[grind ←]
theorem steady_withFrame {α : Type} {frame : Frame} {x : Importing α}
    (steady : steadily.Keeps x) : steadily.Keeps (withFrame frame x) := by
  intro w
  rw [withFrame_apply]
  have inside := steady { w with rest := { w.rest with frames := frame :: w.rest.frames } }
  have frames := inside.session.around
  refine ⟨{ inside.session with around := ?_, kinds := ?_ }, inside.orchestrators, inside.log,
    inside.registries⟩
  · exact congrArg List.tail frames
  · exact congrArg (List.map (·.isClass)) frames

@[grind ←]
theorem steady_share (x : Thing) : steadily.Keeps (share x) := by
  refine steady_newSerial.bind fun serial => .bind ?_ fun _ => keeps_pure _
  exact steady_change fun i => { Kept.refl i with }

@[grind ←]
theorem steady_settle (x : Thing) : steadily.Keeps (settle x) := by
  unfold settle
  grind

@[grind ←]
theorem steady_contents (x : Thing) : steadily.Keeps (contents x) := by
  unfold contents
  grind

@[grind ←]
theorem steady_view (x : Thing) : steadily.Keeps (view x) := by
  grind [view]

@[grind ←]
theorem steady_itemsOf (x : Thing) : steadily.Keeps (itemsOf x) := by
  grind [itemsOf]

@[grind ←]
theorem steady_makeClass (name : String) (names : List (String × Thing)) (bases : List Thing) :
    steadily.Keeps (makeClass name names bases) := by
  grind [makeClass]

@[grind ←]
theorem steady_classMember? (cls : Thing) (name : String) :
    steadily.Keeps (classMember? cls name) := by
  grind [classMember?]

end Imports

namespace Place

open Imports

variable (p : Place)

@[grind ←]
theorem steady_frame : steadily.Keeps frame := by
  grind [frame]

@[grind ←]
theorem steady_isGlobal (name : String) : steadily.Keeps (p.isGlobal name) := by
  grind [isGlobal]

@[grind ←]
theorem steady_isLocal (name : String) : steadily.Keeps (p.isLocal name) := by
  grind [isLocal]

@[grind ←]
theorem steady_global? (name : String) : steadily.Keeps (p.global? name) := by
  grind [global?]

@[grind ←]
theorem steady_lookup (id : String) : steadily.Keeps (p.lookup id) := by
  unfold lookup
  grind

@[grind ←]
theorem steady_bind (id : String) (x : Thing) : steadily.Keeps (p.bind id x) := by
  grind [Place.bind]

@[grind ←]
theorem steady_unbind (id : String) : steadily.Keeps (p.unbind id) := by
  grind [unbind]

@[grind ←]
theorem steady_visible : steadily.Keeps p.visible := by
  grind [visible]

end Place

/-- The code that is called, and the modules that are loaded, are steady. -/
structure Interpreter.Steady (r : Interpreter) : Prop where
  call : ∀ code args kwargs, Imports.steadily.Keeps (r.call code args kwargs)
  load : ∀ name, Imports.steadily.Keeps (r.load name)

attribute [grind ←] Interpreter.Steady.call Interpreter.Steady.load

namespace Imports

open Manner

section Members

variable {r : Interpreter} (steady : r.Steady)
include steady

@[grind ←]
theorem steady_askModule (m : LoadedModule) (name : String) :
    steadily.Keeps (askModule r m name) := by
  unfold askModule
  grind

@[grind ←]
theorem steady_member? (module name : String) : steadily.Keeps (member? r module name) := by
  grind [member?]

omit steady in
@[grind ←]
theorem steady_noMember (module name : String) : steadily.Keeps (noMember module name) := by
  grind [noMember]

@[grind ←]
theorem steady_member (module name : String) : steadily.Keeps (member r module name) := by
  grind [member]

omit steady in
@[grind ←]
theorem steady_absolute (module : String) (levels : Nat) (name : Option String) :
    steadily.Keeps (absolute module levels name) := by
  grind [absolute, packageOf]

omit steady in
@[grind ←]
theorem steady_classAttribute (cls : Thing) (attr : String) :
    steadily.Keeps (classAttribute cls attr) := by
  unfold classAttribute
  grind

@[grind ←]
theorem steady_objectAttribute (serial : Nat) (cls : Thing) (attr : String) :
    steadily.Keeps (objectAttribute r serial cls attr) := by
  grind [objectAttribute]

@[grind ←]
theorem steady_attributeOf (x : Thing) (attr : String) :
    steadily.Keeps (attributeOf r x attr) := by
  unfold attributeOf
  grind

@[grind ←]
theorem steady_attribute? (x : Thing) (attr : String) :
    steadily.Keeps (attribute? r x attr) := by
  unfold attribute?
  grind

omit steady in
@[grind ←]
theorem steady_setAttribute (x : Thing) (attr : String) (y : Thing) :
    steadily.Keeps (setAttribute x attr y) := by
  unfold setAttribute
  grind

omit steady in
@[grind ←]
theorem steady_removeAttribute (x : Thing) (attr : String) :
    steadily.Keeps (removeAttribute x attr) := by
  unfold removeAttribute
  grind

@[grind ←]
theorem steady_holds (x : Thing) : steadily.Keeps (holds r x) := by
  refine (steady_contents x).bind fun x => ?_
  split <;> grind

end Members

@[grind ←]
theorem steady_found (entries : List (Thing × Thing)) (key : Thing) :
    steadily.Keeps (found entries key) := by
  grind [found]

@[grind ←]
theorem steady_callList (serial : Nat) (items : List Thing) (method : String) (args : List Thing) :
    steadily.Keeps (callList serial items method args) := by
  unfold callList
  grind

@[grind ←]
theorem steady_callSet (serial : Nat) (items : List Thing) (method : String) (args : List Thing) :
    steadily.Keeps (callSet serial items method args) := by
  unfold callSet
  grind

@[grind ←]
theorem steady_callDict (serial : Nat) (entries : List (Thing × Thing)) (method : String)
    (args : List Thing) (kwargs : List (String × Thing)) :
    steadily.Keeps (callDict serial entries method args kwargs) := by
  unfold callDict
  dsimp only
  split <;> grind

@[grind ←]
theorem steady_callShared (serial : Nat) (method : String) (args : List Thing)
    (kwargs : List (String × Thing)) : steadily.Keeps (callShared serial method args kwargs) := by
  unfold callShared
  grind

@[grind ←]
theorem steady_storeItem (serial : Nat) (index x : Thing) :
    steadily.Keeps (storeItem serial index x) := by
  unfold storeItem
  grind

@[grind ←]
theorem steady_removeItem (serial : Nat) (index : Thing) :
    steadily.Keeps (removeItem serial index) := by
  unfold removeItem
  grind

end Imports

end StateWeave
