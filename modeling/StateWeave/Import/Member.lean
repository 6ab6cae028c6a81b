import StateWeave.Import.Scope

/-! Members of modules. Of modules without a file only a few members are known; any other member is
taken to be there. -/

namespace StateWeave.Imports

/-- What a framework module hands out to whoever takes over all its names. -/
def exports? : String → Option (List String)
  | "typereload" =>
    some ["never_reload", "on_type_unload", "static_property", "static_event", "StaticEvent",
      "assign_static", "WeaveResult", "weave_module", "transform_source", "compile_source",
      "install_import_hook", "uninstall_import_hook", "ReloadOrchestrator", "ReloadState",
      "reload_dirty_types", "set_diagnostic_sink", "get_orchestrator", "DispatchRegistry",
      "registry_for", "all_registries", "ReloadConfig", "set_reload_config",
      "get_reload_config", "update_reload_config", "reset_reload_config", "WeaveError",
      "GenericContextError", "AlreadyTransformedError"]
  | "typereload.runtime" =>
    some ["TypeInitializer", "generated", "never_reload", "on_type_unload", "static_event",
      "static_property", "store_static"]
  | _ => none

/-- A member of a module without a file. What woven classes need is in the runtime module only. -/
def foreignMember? (module name : String) : Option Thing :=
  let path := module ++ "." ++ name
  if framework.contains path || Standard.submodules.contains path then some (.module path)
  else match module, name with
    | "typereload", _ =>
      if isDunder name || ((exports? module).getD []).contains name then some (.foreign path)
      else none
    | "builtins", _ => if Standard.isBound name then some (.builtin name) else none
    | _, "TypeInitializer" | _, "generated" =>
      if module = "typereload.runtime" then some (.foreign path) else none
    | _, _ => some (Thing.ofForeign path)

def askModule (r : Interpreter) (m : LoadedModule) (name : String) : Importing (Option Thing) := do
  match m.names.get? "__getattr__" with
  | some (.function code) =>
    try some <$> r.call code [.text name] []
    catch e => if e.kinds.contains "AttributeError" then pure none else throw e
  | _ => return none

def member? (r : Interpreter) (module name : String) : Importing (Option Thing) := do
  let i := (← get).rest
  match i.loaded.get? module with
  | none => return some .unknown
  | some m =>
    match m.names.get? name with
    | some x => return some x
    | none =>
      if i.isForeign module then return foreignMember? module name
      else if m.mayBind name || Standard.moduleAttributes.contains name ||
          (m.isPackage && name = "__path__") then
        return some .unknown
      else askModule r m name

/-- A module has no member of this name. One that is still running may get it later, and so may one
whose part of this name is still running. -/
def noMember (module name : String) : Importing ImportFault := do
  let text := "module '" ++ module ++ "' has no attribute '" ++ name ++ "'"
  let later := " (most likely due to a circular import)"
  if (← moduleAt module).isRunning then
    return .ofKind "AttributeError" ("partially initialized " ++ text ++ later)
  else if (← moduleAt (module ++ "." ++ name)).isRunning then
    return .ofKind "AttributeError"
      ("cannot access submodule '" ++ name ++ "' of module '" ++ module ++ "'" ++ later)
  else return .ofKind "AttributeError" text

def member (r : Interpreter) (module name : String) : Importing Thing := do
  match ← member? r module name with
  | some x => return x
  | none => throw (← noMember module name)

def packageOf (module : String) : Importing (List String) := do
  let parts := Dotted.components module
  return if (← moduleAt module).isPackage then parts else parts.dropLast

def absolute (module : String) (levels : Nat) (name : Option String) : Importing String := do
  let package ← packageOf module
  if package.isEmpty then
    throw (.ofKind "ImportError" "attempted relative import with no known parent package")
  if package.length < levels then
    throw (.ofKind "ImportError" "attempted relative import beyond top-level package")
  return Dotted.join (package.take (package.length + 1 - levels) ++ name.toList)

end StateWeave.Imports
