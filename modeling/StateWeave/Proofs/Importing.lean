import StateWeave.Import.Loading
import StateWeave.Proofs.Executing
import StateWeave.Proofs.Reloads

/-! Importing modules. One import is steady, however deep it goes and however it ends; a module that
fails is gone again. So no request of a session leaves a module running or a frame open, and nothing
that was registered gets lost. -/

namespace StateWeave.Imports

open Manner

variable {r : Interpreter} {w v : Site RegisteredUnit Imports}

/-! ### One module -/

theorem steady_treeOf (name : String) (file : SourceModule) :
    steadily.Keeps (treeOf name file) := by
  unfold treeOf
  grind

theorem steady_runModule (steady : r.Steady) (name : String) (tree : Block) :
    steadily.Keeps (runModule r name tree) :=
  (steady_execBlock steady _ tree).discard

/-- A module that takes its place, runs, and in the end does not run any more. -/
theorem Steady.placed {name : String} {m : LoadedModule} {loaded : Table String LoadedModule}
    (inside : Steady { w with rest := { w.rest with loaded := w.rest.loaded.insert name m } } v)
    (ended : ∀ other, Runs { v.rest with loaded } other → name ≠ other ∧ v.rest.Runs other) :
    Steady w { v with rest := { v.rest with loaded } } := by
  refine ⟨{ inside.session with running := fun other runs => ?_ }, inside.orchestrators, inside.log,
    inside.registries⟩
  obtain ⟨differ, runs⟩ := ended other runs
  have := inside.session.running other runs
  rwa [runs_insert, if_neg differ] at this

/-- Finding a module is steady, although it runs on the way. -/
theorem steady_find (steady : r.Steady) (name : String) : steadily.Keeps (find r name) := by
  refine .get_bind fun w => ?_
  dsimp only
  split
  · next file found =>
    refine (steady_treeOf name file).bind fun tree u => ?_
    have inside := steady_runModule steady name tree { u with rest := { u.rest with
      loaded := u.rest.loaded.insert name (emptyModule name file.isPackage true) } }
    rw [Act.bind_apply, setModule, change_apply]
    dsimp only
    rw [Act.bind_apply, attempt_apply]
    generalize runModule r name tree _ = done at inside ⊢
    obtain ⟨e | _, v⟩ := done
    · exact Steady.placed inside fun other => runs_erase.1
    · dsimp only
      rw [modifyModule_apply]
      cases loaded : v.rest.loaded.get? name with
      | none =>
        refine Steady.placed inside fun other runs => ⟨?_, runs⟩
        rintro rfl
        obtain ⟨m, still, -⟩ := runs
        cases loaded.symm.trans still
      | some m =>
        refine Steady.placed inside fun other runs => ?_
        rw [runs_insert] at runs
        split at runs
        · cases runs
        · next differ => exact ⟨differ, runs⟩
  · split
    · exact steady_setModule rfl
    · split
      · exact steady_setModule rfl
      · exact keeps_throw _

theorem rest_treeOf (name : String) (file : SourceModule) (w : Site RegisteredUnit Imports) :
    (treeOf name file w).2.rest = w.rest := by
  have noted (records : List LogRecord) (u : Site RegisteredUnit Imports) :
      ((Site.note records : Importing Unit) u) = (.ok (), { u with log := u.log ++ records }) := rfl
  rw [treeOf, Act.get_bind_apply]
  split
  · rw [Act.bind_apply, weave, Act.get_bind_apply]
    dsimp only
    rw [Act.bind_apply, noted]
    dsimp only
    cases (Weave.module w.config.zeroValues w.config name file.tree).run.1 <;> rfl
  · rfl

/-- A module that fails is gone again, and so is one that cannot be found or woven. -/
theorem find_fails {name : String} {e : ImportFault} (absent : w.rest.loaded.get? name = none)
    (fails : (find r name w).1 = .error e) : (find r name w).2.rest.loaded.get? name = none := by
  generalize done : find r name w = outcome at fails ⊢
  rw [find, Act.get_bind_apply] at done
  cases found : w.rest.files.get? name with
  | some file =>
    have before := rest_treeOf name file w
    rw [found] at done
    dsimp only at done
    rw [Act.bind_apply] at done
    generalize treeOf name file w = woven at before done
    obtain ⟨e' | tree, u⟩ := woven
    · exact done ▸ before ▸ absent
    · dsimp only at done
      rw [Act.bind_apply, setModule, change_apply] at done
      dsimp only at done
      rw [Act.bind_apply, attempt_apply] at done
      generalize runModule r name tree _ = ran at done
      obtain ⟨e' | _, v⟩ := ran
      · rw [← done]
        exact Table.get?_erase_self _ name
      · dsimp only at done
        rw [modifyModule_apply] at done
        rw [← done] at fails
        cases fails
  | none =>
    rw [found] at done
    dsimp only at done
    split_ifs at done
    · rw [← done] at fails
      cases fails
    · rw [← done] at fails
      cases fails
    · rw [← done]
      exact absent

/-! ### Packages and calls -/

theorem steady_importReversed (steady : r.Steady) (names : List String) :
    steadily.Keeps (importReversed r names) := by
  induction names with
  | nil => exact keeps_pure _
  | cons last around ih =>
    have found (name : String) := steady_find steady name
    unfold importReversed
    grind

/-- Binding a module that was found never fails, so a failure comes from finding it. -/
theorem find_setName_fails {name package last : String} {x : Thing} {e : ImportFault}
    (absent : w.rest.loaded.get? name = none)
    (fails : ((find r name >>= fun _ => setName package last x) w).1 = .error e) :
    ((find r name >>= fun _ => setName package last x) w).2.rest.loaded.get? name = none := by
  have gone := fun e => find_fails (r := r) (e := e) absent
  rw [Act.bind_apply] at fails ⊢
  generalize find r name w = found at fails gone ⊢
  obtain ⟨e' | _, v⟩ := found
  · exact gone e' rfl
  · dsimp only at fails
    rw [setName, modifyModule_apply] at fails
    cases fails

/-- An import fails because the one of the package around failed; else the module is not there. -/
theorem importReversed_fails {last : String} {around : List String} {e : ImportFault}
    (fails : (importReversed r (last :: around) w).1 = .error e) :
    (importReversed r around w).1 = .error e ∨
      (importReversed r (last :: around) w).2.rest.loaded.get?
        (Dotted.join (last :: around).reverse) = none := by
  generalize done : importReversed r (last :: around) w = outcome at fails ⊢
  unfold importReversed at done
  dsimp only at done
  rw [Act.bind_apply, isLoaded_apply] at done
  dsimp only at done
  split_ifs at done with here alone
  · rw [← done] at fails
    cases fails
  · rw [← done] at fails ⊢
    exact .inr (find_fails (by simpa [Table.contains_eq] using here) fails)
  · rw [Act.bind_apply] at done
    generalize importReversed r around w = before at done ⊢
    obtain ⟨e' | _, u⟩ := before
    · rw [← done] at fails
      exact .inl fails
    · dsimp only at done
      rw [Act.bind_apply, isLoaded_apply] at done
      dsimp only at done
      split_ifs at done with here'
      · rw [← done] at fails
        cases fails
      · rw [Act.bind_apply, moduleAt_apply] at done
        dsimp only at done
        have absent : u.rest.loaded.get? (Dotted.join (last :: around).reverse) = none := by
          simpa [Table.contains_eq] using here'
        split_ifs at done
        · rw [← done]
          exact .inr absent
        · rw [← done] at fails ⊢
          exact .inr (find_setName_fails absent fails)

theorem steady_callCode (steady : r.Steady) (code : Code) (args : List Thing)
    (kwargs : List (String × Thing)) : steadily.Keeps (callCode r code args kwargs) := by
  have runs (p : Place) := steady_execBlock steady p code.body
  unfold callCode
  grind

/-- Calls and imports are steady, however deep they are nested. -/
theorem steady_interpreterWithin (n : Nat) : (interpreterWithin n).Steady := by
  induction n with
  | zero => exact ⟨fun _ _ _ => keeps_throw _, fun _ => keeps_throw _⟩
  | succ n ih =>
    exact ⟨steady_callCode ih, fun name => steady_importReversed ih (Dotted.components name).reverse⟩

theorem steady_onRegistries {α : Type}
    {f : Registries RegisteredUnit → α × Registries RegisteredUnit}
    (moves : ∀ rs : Registries RegisteredUnit, ∃ made, rs.Moves made (f rs).2) :
    steadily.Keeps (Site.onRegistries f : Importing α) := fun w =>
  ⟨.refl _, rfl, List.prefix_refl _, fun _ => moves w.registries⟩

theorem steady_registryFor (name : String) :
    steadily.Keeps (Site.onRegistries (·.registryFor name) : Importing Nat) :=
  steady_onRegistries fun _ => ⟨[], .registryFor name (.stay _)⟩

theorem steady_snapshot (id : Nat) (ch : ChannelName) :
    steadily.Keeps (Site.onRegistries (·.snapshot id ch) : Importing (List RegisteredUnit)) :=
  steady_onRegistries fun _ => ⟨[], .snapshot id ch (.stay _)⟩

theorem steady_outcome (name : String) : steadily.Keeps (outcome name) := by
  have asks (module attr : String) :=
    steady_member? (steady_interpreterWithin depthLimit) module attr
  refine (steady_registryFor name).bind fun id => (steady_snapshot id .unload).bind fun unload => ?_
  refine (steady_snapshot id .load).bind fun load => .get_bind fun w => ?_
  unfold interpreter
  grind

theorem steady_importModule (name : String) : steadily.Keeps (importModule name) := by
  have imports := (steady_interpreterWithin depthLimit).load name
  have shows := steady_outcome name
  unfold importModule interpreter
  grind

theorem steady_compile (name : String) : steadily.Keeps (compile name) := by
  have runs (tree : Block) := steady_runModule (steady_interpreterWithin depthLimit) name tree
  have shows := steady_outcome name
  have placed : steadily.Keeps (setModule name (emptyModule name false false)) := steady_setModule rfl
  unfold compile interpreter
  grind

/-! ### Sessions -/

/-- What a session can be asked to do. -/
inductive Request
  | install (hook : ImportHook)
  | uninstall
  | load (name : String)
  | compile (name : String)
  | reload

def Request.perform : Request → Importing Unit
  | .install hook => Imports.install hook
  | .uninstall => setHook none
  | .load name => discard (importModule name)
  | .compile name => discard (Imports.compile name)
  | .reload => discard Imports.reload

/-- The session after these requests, whether they failed or not. -/
def after (requests : List Request) (w : Site RegisteredUnit Imports) :
    Site RegisteredUnit Imports :=
  requests.foldl (fun w request => (request.perform w).2) w

/-- Nothing runs, and the next reload can start. -/
structure AtRest (w : Site RegisteredUnit Imports) : Prop where
  frames : w.rest.frames = []
  running : ∀ name, ¬ w.rest.Runs name
  sound : w.registries.Sound fun _ => True
  present : 0 < w.orchestrators.length
  idle : (w.orchestrator Site.mainOrchestrator).phase = .idle

/-- What no request takes away from a session. -/
structure Lasts (w w' : Site RegisteredUnit Imports) : Prop where
  files : w'.rest.files = w.rest.files
  made : w.rest.made ≤ w'.rest.made
  specializations : w.rest.specializations <:+ w'.rest.specializations
  units : ∃ made, w.registries.Grows made w'.registries

theorem Lasts.refl (w : Site RegisteredUnit Imports) : Lasts w w :=
  ⟨rfl, Nat.le_refl _, List.suffix_refl _, [], .refl _⟩

theorem Lasts.trans {w w' w'' : Site RegisteredUnit Imports} (first : Lasts w w')
    (second : Lasts w' w'') : Lasts w w'' where
  files := second.files.trans first.files
  made := Nat.le_trans first.made second.made
  specializations := first.specializations.trans second.specializations
  units := by
    obtain ⟨made, grows⟩ := first.units
    obtain ⟨made', grows'⟩ := second.units
    exact ⟨made ++ made', grows.trans grows'⟩

theorem Steady.atRest {w w' : Site RegisteredUnit Imports} (steady : Steady w w')
    (atRest : AtRest w) : AtRest w' ∧ Lasts w w' := by
  obtain ⟨made, moves⟩ := steady.registries atRest.sound
  obtain ⟨sound, grows⟩ := moves.keeps atRest.sound fun _ _ => trivial
  have session := steady.session
  refine ⟨⟨?_, fun name runs => atRest.running name (session.running name runs), sound, ?_, ?_⟩,
    session.files, session.made, session.specializations, made, grows⟩
  · have kinds := session.kinds
    rwa [atRest.frames, List.map_nil, List.map_eq_nil_iff] at kinds
  · exact steady.orchestrators ▸ atRest.present
  · rw [Site.orchestrator_congr steady.orchestrators]
    exact atRest.idle

/-- A reload runs what is registered, and touches nothing of the session. -/
theorem reload_atRest (atRest : AtRest w) :
    AtRest (Imports.reload w).2 ∧ Lasts w (Imports.reload w).2 := by
  let rules : Rules RegisteredUnit Imports ImportFault :=
    { allows := fun _ => True, holds := (· = w.rest), raises := fun _ => True }
  have contained : host.Contained rules :=
    { call := fun _ _ => Rules.behaves_pure _
      collect := Rules.behaves_pure _
      tell := fun _ _ _ _ => Rules.behaves_pure _
      describe := fun _ => Rules.behaves_pure _
      reports := fun _ _ => rfl }
  have ready : Host.Ready rules Site.mainOrchestrator w :=
    ⟨⟨atRest.sound, rfl⟩, atRest.present, atRest.idle, fun _ _ => trivial, fun _ _ _ => trivial⟩
  obtain ⟨ready', _, made, ran⟩ := Host.ran contained ready
  have same : (Imports.reload w).2.rest = w.rest := ready'.fit.holds
  refine ⟨⟨same ▸ atRest.frames, same ▸ atRest.running, ready'.fit.sound, ready'.present,
    ready'.idle⟩, congrArg Imports.files same, ?_, ?_, made, ran.kept⟩
  · exact Nat.le_of_eq (congrArg Imports.made same).symm
  · exact same ▸ List.suffix_refl _

/-- One request leaves nothing running, and takes nothing away. -/
theorem Request.perform_atRest (request : Request) (atRest : AtRest w) :
    AtRest (request.perform w).2 ∧ Lasts w (request.perform w).2 := by
  have asBefore := Lasts.refl w
  cases request with
  | install hook | uninstall =>
    exact ⟨⟨atRest.frames, atRest.running, atRest.sound, atRest.present, atRest.idle⟩,
      asBefore.files, asBefore.made, asBefore.specializations, asBefore.units⟩
  | load name => exact ((steady_importModule name).discard w).atRest atRest
  | compile name => exact ((steady_compile name).discard w).atRest atRest
  | reload =>
    have same : (Request.reload.perform w).2 = (Imports.reload w).2 :=
      congrArg Prod.snd (Act.map_apply Imports.reload w fun _ => ())
    rw [same]
    exact reload_atRest atRest

/-- However long a session is, and whatever failed in it: nothing is left running, the files are
those it started with, and all units that were registered are still there. -/
theorem after_atRest (requests : List Request) (atRest : AtRest w) :
    AtRest (after requests w) ∧ Lasts w (after requests w) := by
  induction requests generalizing w with
  | nil => exact ⟨atRest, .refl w⟩
  | cons request requests ih =>
    obtain ⟨atRest', lasts⟩ := request.perform_atRest atRest
    obtain ⟨atRest'', lasts'⟩ := ih atRest'
    exact ⟨atRest'', lasts.trans lasts'⟩

theorem atRest_fresh (config : Config) (files : List (String × SourceModule)) :
    AtRest (fresh config files) := by
  refine ⟨rfl, ?_, ⟨nofun, nofun⟩, Nat.zero_lt_one, rfl⟩
  rintro name ⟨m, found, runs⟩
  obtain ⟨_, -, entry⟩ := List.mem_map.1 (Table.mem_of_get? found)
  rw [← (Prod.mk.inj entry).2] at runs
  cases runs

theorem after_fresh (config : Config) (files : List (String × SourceModule))
    (requests : List Request) :
    AtRest (after requests (fresh config files)) ∧
      (after requests (fresh config files)).rest.files = ⟨files⟩ :=
  have ⟨atRest, lasts⟩ := after_atRest requests (atRest_fresh config files)
  ⟨atRest, lasts.files⟩

end StateWeave.Imports
