import StateWeave.Class.Binding
import StateWeave.Import.Pausing
import StateWeave.Import.Request
import StateWeave.Import.Target

/-! Running the statements of a module. -/

namespace StateWeave

/-- How a statement ends: the next one follows, or a loop or a function is left. -/
inductive Flow
  | next
  | breakLoop
  | continueLoop
  | ret (x : Thing)

namespace Imports

variable (r : Interpreter)

/-- Runs a loop over items until it is left. It ends with `breakLoop` if it was broken off. -/
def forEach (step : Thing → Importing Flow) : List Thing → Importing Flow
  | [] => return .next
  | x :: xs => do
    match ← step x with
    | .breakLoop => return .breakLoop
    | .ret y => return .ret y
    | _ => forEach step xs

/-- Runs a loop as long as its test holds, and once if it is not known whether it does. -/
def repeatWhile (test : Importing Thing) (body : Importing Flow) : Nat → Importing Flow
  | 0 => return .next
  | n + 1 => do
    let x ← test
    let isKnown := (← contents x).isPlain
    if !(← holds r x) then return .next
    match ← body with
    | .breakLoop => return .breakLoop
    | .ret y => return .ret y
    | _ => if isKnown then repeatWhile test body n else return .next

def afterLoop (orelse : Importing Flow) : Flow → Importing Flow
  | .next => orelse
  | .ret x => return .ret x
  | _ => return .next

/-- Runs what has to be run in any case; only if it comes to its end, the result stands. -/
def endingWith (last : Importing Flow) (x : Importing Flow) : Importing Flow := do
  let result ← attempt x
  match ← last with
  | .next => ofExcept result
  | flow => return flow

def raised (x : Thing) : ImportFault :=
  match x with
  | .failure kinds text => .raised kinds text
  | .constant _ | .module _ | .function _ =>
    .ofKind "TypeError" "exceptions must derive from BaseException"
  | _ => match x.kinds with
    | [] => .ofKind "Exception" ""
    | kinds => .raised kinds ""

def failedAssertion (message : List Thing) : ImportFault :=
  .ofKind "AssertionError" (Thing.failureText "AssertionError" message)

/-- Hands a function or a class to its decorators, the last one first. Whatever a decorator does
that nothing is known of, it gives back what it got. -/
def decorate (p : Place) (decorators : List Thing) (x : Thing) : Importing Thing :=
  decorators.foldrM (fun f x => do
    match ← callThing r p f [x] [] with
    | .unknown => return x
    | y => return y) x

def evalAnnotations (p : Place) (h : FunctionHeader) : Importing Unit := do
  if (← moduleAt p.module).hasLazyAnnotations then return
  let ps := h.params
  let args := ps.posOnly ++ ps.positional ++ ps.vararg.toList ++ ps.kwOnly ++ ps.kwarg.toList
  discard (evalOptions r p (args.map (·.annot)))
  discard (evalOption r p h.returns)

def defineFunction (p : Place) (h : FunctionHeader) (body : Block) : Importing Unit := do
  let decorators ← evalAll r p h.decorators
  let defaults ← evalParams r p h.params
  evalAnnotations r p h
  let code := {
    name := p.path ++ h.name, params := h.params, body
    isAsync := h.isAsync || Stmt.anyYields body, defaults, module := p.module, cls := p.cls, enclosing := ← p.visible }
  p.bind h.name (← decorate r p decorators (.function code))

/-- Tells what a class holds the name that it is held under: registrations take effect. -/
def tellNames (cls : Thing) (names : List (String × Thing)) : Importing Unit :=
  names.forM fun (name, x) => do
    register x
    match x with
    | .object _ kind => match ← classMember? kind "__set_name__" with
      | some (.function code) => discard (r.call code [x, cls, .text name] [])
      | _ => return
    | _ => return

def tellBases (cls : Thing) (bases : List Thing) (keywords : List (String × Thing)) :
    Importing Unit := do
  match Thing.firstMember? (← get).rest.fields "__init_subclass__" bases with
  | some (.function code) | some (.classMethod (.function code)) =>
    discard (r.call code [cls] keywords)
  | _ => return

/-- Makes the class whose body has left these names, and hands it to its decorators. What comes from
another class of classes than the plain one is not known. -/
def defineClass (p : Place) (h : ClassHeader) (runBody : Place → Importing Flow) :
    Importing Unit := do
  let decorators ← evalAll r p h.decorators
  let (bases, _) := spread (← evalArguments r p h.bases)
  let (keywords, _) := spreadNamed (← evalKeywords r p h.keywords)
  let module := (← p.global? "__name__").getD .unknown
  let inside := {
    p with path := p.path ++ h.name ++ ".", isTop := false, cls := some h.name, inner := []
           isInner := false, enclosing := ← p.visible }
  let names := ⟨[("__module__", module), ("__qualname__", .text (p.path ++ h.name))]⟩
  let (_, left) ← withFrame { isClass := true, names } (runBody inside)
  let isPlain := !keywords.any (·.1 == "metaclass")
  let cls ← makeClass h.name left.names.entries (if isPlain then bases else bases ++ [.unknown])
  tellNames r cls left.names.entries
  tellBases r cls bases (keywords.filter (·.1 != "metaclass"))
  p.bind h.name (← decorate r p decorators cls)

def withName (p : Place) (name : Option String) (x : Thing) (body : Importing Flow) :
    Importing Flow := do
  match name with
  | none => body
  | some name =>
    p.bind name x
    endingWith (do
      p.bind name .null
      p.unbind name
      return .next) body

def enterContext (x : Thing) : Importing Thing := do
  match x with
  | .object _ kind => match ← classMember? kind "__enter__" with
    | some (.function code) => r.call code [x] []
    | _ => return .unknown
  | _ => return .unknown

def leaveContext (x : Thing) (failure : Option ImportFault) : Importing Bool := do
  match x with
  | .suppression caught =>
    return (failure.map fun e => Thing.catches e.kinds (.tuple caught)).getD false
  | .object _ kind => match ← classMember? kind "__exit__" with
    | some (.function code) =>
      let args := match failure with
        | none => [.null, .null, .null]
        | some e => [.unknown, .failure e.kinds (e.message?.getD ""), .unknown]
      holds r (← r.call code (x :: args) [])
    | _ => return false
  | _ => return false

def withContexts (p : Place) (body : Importing Flow) : List WithItem → Importing Flow
  | [] => body
  | ⟨context, target⟩ :: items => do
    let x ← eval r p context
    let entered ← enterContext r x
    let inside : Importing Flow := do
      target.forM fun t => store r p entered t
      withContexts p body items
    match ← attempt inside with
    | .ok flow =>
      discard (leaveContext r x none)
      return flow
    | .error e => if ← leaveContext r x (some e) then return .next else throw e

def enterCase (p : Place) (captures : Captures) (guard : Option Expr) : Importing Bool := do
  captures.forM fun (name, x) => p.bind name x
  match guard with
  | none => return true
  | some e => do holds r (← eval r p e)

/-- `x op= y` reads the target before the other side. -/
def augment (p : Place) (target : Expr) (op : BinOp) (value : Expr) : Importing Unit := do
  let x ← eval r p target
  let y ← eval r p value
  let result ← match op, x, ← contents x with
    | .add, .shared serial, .sequence .list _ => do
      discard (callShared serial "extend" [y] [])
      pure x
    | .bitOr, .shared serial, .dict _ | .bitOr, .shared serial, .sequence .set _ => do
      discard (callShared serial "update" [y] [])
      pure x
    | op, x, _ => binary op true x y
  store r p result target

/-- Annotations are evaluated in modules and classes, after the value is stored. -/
def evalAnnot (p : Place) (annot : Expr) : Importing Unit := do
  let isEvaluated := p.isTop || (← Place.frame).isClass
  if isEvaluated && !(← moduleAt p.module).hasLazyAnnotations then discard (eval r p annot)

/-- How often a loop is run that could go on for ever. -/
def loopLimit : Nat := 1000

mutual

def exec (p : Place) : Stmt → Importing Flow
  | .functionDef h body => do
    defineFunction r p h body
    return .next
  | .classDef h body => do
    defineClass r p h fun p => execBlock p body
    return .next
  | .ret value => do
    return .ret (← match value with
      | none => pure Thing.null
      | some e => eval r p e)
  | .delete targets => do
    removeAll r p targets
    return .next
  | .assign targets value => do
    let x ← eval r p value
    targets.forM fun t => store r p x t
    return .next
  | .augAssign target op value => do
    augment r p target op value
    return .next
  | .annAssign target annot value _ => do
    match value with
    | some e => do store r p (← eval r p e) target
    | none => pure ()
    evalAnnot r p annot
    return .next
  | .forLoop _ target iter body orelse => do
    let items ← itemsOf (← eval r p iter)
    let flow ← forEach (fun x => do
      store r p x target
      execBlock p body) items
    afterLoop (execBlock p orelse) flow
  | .whileLoop test body orelse => do
    let flow ← repeatWhile r (eval r p test) (execBlock p body) loopLimit
    afterLoop (execBlock p orelse) flow
  | .ifStmt test body orelse => do
    if ← holds r (← eval r p test) then execBlock p body else execBlock p orelse
  | .withStmt _ items body => withContexts r p (execBlock p body) items
  | .matchStmt subject cases => do
    let x ← eval r p subject
    execCases p x cases
  | .raise exc cause => do
    match exc, p.handled with
    | none, some e => throw e
    | none, none => throw (.ofKind "RuntimeError" "No active exception to reraise")
    | some e, _ =>
      let x ← eval r p e
      discard (evalOption r p cause)
      throw (raised x)
  | .tryStmt _ body handlers orelse finalbody =>
    endingWith (execBlock p finalbody) do
      match ← attempt (execBlock p body) with
      | .ok .next => execBlock p orelse
      | .ok flow => return flow
      | .error e => execHandlers p e handlers
  | .assert test msg => do
    if ← holds r (← eval r p test) then return .next
    match msg with
    | none => throw (failedAssertion [])
    | some e => throw (failedAssertion [← view (← eval r p e)])
  | .imports source names => do
    importStmt r p source names
    return .next
  | .scope .global names => do
    if !p.isTop then
      modifyFrame fun f => { f with globals := f.globals ++ names.map p.key }
    return .next
  | .scope .nonlocal names => do
    modifyFrame fun f => { f with outer := f.outer ++ names.map p.key }
    return .next
  | .expr value => do
    discard (eval r p value)
    return .next
  | .jump .pass => return .next
  | .jump .breakLoop => return .breakLoop
  | .jump .continueLoop => return .continueLoop

def execBlock (p : Place) : List Stmt → Importing Flow
  | [] => return .next
  | s :: ss => do
    match ← exec p s with
    | .next => execBlock p ss
    | flow => return flow

def execHandlers (p : Place) (e : ImportFault) : List Handler → Importing Flow
  | [] => throw e
  | ⟨type, name, body⟩ :: hs => do
    let isCaught ← match type with
      | none => pure true
      | some t => (Thing.catches e.kinds ·) <$> eval r p t
    if isCaught then
      withName p name (.failure e.kinds (e.message?.getD "")) do
        execBlock { p with handled := some e } body
    else execHandlers p e hs

def execCases (p : Place) (x : Thing) : List MatchCase → Importing Flow
  | [] => return .next
  | ⟨pattern, guard, body⟩ :: cs => do
    let isTaken ← match ← matched r p x pattern with
      | none => pure false
      | some captures => enterCase r p captures guard
    if isTaken then execBlock p body else execCases p x cs

end

end Imports

end StateWeave
