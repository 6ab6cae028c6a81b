import StateWeave.Import.Execution
import StateWeave.Proofs.Evaluating

/-! Running statements is steady, if the code of functions and the modules that are loaded are. -/

namespace StateWeave.Imports

open Manner

attribute [grind ←] steady_eval steady_evalOption steady_evalAll steady_evalOptions
  steady_evalParams steady_evalArguments steady_evalKeywords

variable {r : Interpreter}

/-! ### Targets and patterns -/

@[grind ←]
theorem steady_unpacked (x : Thing) (targets : List Expr) :
    steadily.Keeps (unpacked x targets) := by
  unfold unpacked unpacked.refuse
  grind

mutual

/-- What is stored for a target is put in place, part by part. -/
@[grind ←]
theorem steady_store (steady : r.Steady) (p : Place) (x : Thing) (target : Expr) :
    steadily.Keeps (store r p x target) := by
  cases target with
  | sequence kind elts ctx =>
    exact (steady_unpacked x elts).bind fun xs => steady_storeAll steady p xs elts
  | starred value ctx => exact steady_store steady p x value
  | name id ctx => exact p.steady_bind id x
  | «attribute» value attr ctx =>
    exact (steady_eval steady p value).bind fun owner => steady_setAttribute owner _ x
  | subscript value index ctx =>
    refine (steady_eval steady p value).bind fun table => ?_
    refine (steady_eval steady p index).bind fun index => ?_
    split <;> grind
  | _ => exact keeps_pure _

theorem steady_storeAll (steady : r.Steady) (p : Place) (xs : List Thing) (es : List Expr) :
    steadily.Keeps (storeAll r p xs es) := by
  cases es with
  | nil => exact keeps_pure _
  | cons e es =>
    exact (steady_store steady p _ e).bind fun _ => steady_storeAll steady p xs.tail es

end

mutual

@[grind ←]
theorem steady_remove (steady : r.Steady) (p : Place) (target : Expr) :
    steadily.Keeps (remove r p target) := by
  cases target with
  | sequence kind elts ctx => exact steady_removeAll steady p elts
  | name id ctx => exact p.steady_unbind id
  | «attribute» value attr ctx =>
    exact (steady_eval steady p value).bind fun owner => steady_removeAttribute owner _
  | subscript value index ctx =>
    refine (steady_eval steady p value).bind fun table => ?_
    refine (steady_eval steady p index).bind fun index => ?_
    split <;> grind
  | _ => exact keeps_pure _

@[grind ←]
theorem steady_removeAll (steady : r.Steady) (p : Place) (es : List Expr) :
    steadily.Keeps (removeAll r p es) := by
  cases es with
  | nil => exact keeps_pure _
  | cons e es => exact (steady_remove steady p e).bind fun _ => steady_removeAll steady p es

end

mutual

@[grind ←]
theorem steady_matched (steady : r.Steady) (p : Place) (x : Thing) (pattern : Pattern) :
    steadily.Keeps (matched r p x pattern) := by
  cases pattern with
  | value e =>
    unfold matched
    grind
  | singleton c => exact keeps_pure _
  | sequence patterns =>
    refine (steady_contents x).bind fun x => ?_
    split
    · exact (keeps_mapM steady_settle).bind fun items => steady_matchedAll steady p items patterns
    · exact keeps_pure _
  | mapping keys patterns rest =>
    refine (steady_evalAll steady p keys).bind fun keys => (steady_contents x).bind fun x => ?_
    split
    · exact keeps_pure _
    · exact (steady_matchedAll steady p _ patterns).bind fun _ =>
        (steady_settle _).bind fun _ => keeps_pure _
  | classPattern cls patterns attrs named =>
    refine (steady_eval steady p cls).bind fun cls => (steady_view x).bind fun x' => ?_
    split
    · exact keeps_pure _
    · refine .bind (keeps_mapM (steady_attribute? steady x)) fun found => ?_
      split
      · exact keeps_pure _
      · refine (steady_matchedAll steady p [x] patterns).bind fun inner => ?_
        refine (steady_matchedAll steady p _ named).bind fun byName => ?_
        split <;> exact keeps_pure _
  | star name => exact keeps_pure _
  | capture pattern name =>
    cases pattern with
    | none => exact keeps_pure _
    | some pattern => exact (steady_matched steady p x pattern).bind fun _ => keeps_pure _
  | alternatives patterns => exact steady_matchedFirst steady p x patterns

theorem steady_matchedAll (steady : r.Steady) (p : Place) (items : List Thing)
    (patterns : List Pattern) : steadily.Keeps (matchedAll r p items patterns) := by
  cases patterns with
  | nil => exact keeps_pure _
  | cons pattern patterns =>
    refine (steady_matched steady p _ pattern).bind fun found => ?_
    split
    · exact keeps_pure _
    · exact (steady_matchedAll steady p items.tail patterns).bind fun _ => keeps_pure _

theorem steady_matchedFirst (steady : r.Steady) (p : Place) (x : Thing)
    (patterns : List Pattern) : steadily.Keeps (matchedFirst r p x patterns) := by
  cases patterns with
  | nil => exact keeps_pure _
  | cons pattern patterns =>
    refine (steady_matched steady p x pattern).bind fun found => ?_
    split
    · exact keeps_pure _
    · exact steady_matchedFirst steady p x patterns

end

section Requests

variable (steady : r.Steady) (p : Place)
include steady

@[grind ←]
theorem steady_taken (module name : String) : steadily.Keeps (taken r module name) := by
  grind [taken]

@[grind ←]
theorem steady_importWhole (a : Alias) : steadily.Keeps (importWhole r p a) := by
  refine (steady.load _).bind fun _ => (steady.load _).bind fun _ => ?_
  split
  · exact p.steady_bind _ _
  · refine .bind (keeps_foldlM (fun x name => ?_) _) fun x => p.steady_bind _ x
    split
    · exact steady_taken steady _ name
    · exact steady_attributeOf steady x name

@[grind ←]
theorem steady_loadBelow (package : String) (names : List String) :
    steadily.Keeps (loadBelow r package names) := by
  unfold loadBelow
  grind

omit steady in
@[grind ←]
theorem steady_publicNames (module : String) : steadily.Keeps (publicNames module) := by
  unfold publicNames
  grind

@[grind ←]
theorem steady_importAll (module : String) : steadily.Keeps (importAll r p module) := by
  refine (steady_moduleAt module).bind fun m => (steady_publicNames module).bind fun names => ?_
  dsimp only
  split
  · refine (steady_moduleAt module).bind fun m => .bind (keeps_forIn (fun e _ => ?_) _) ?_
    · grind
    · exact fun _ => steady_modifyModule fun _ => id
  · grind

@[grind ←]
theorem steady_importFrom (module : String) (names : List Alias) :
    steadily.Keeps (importFrom r p module names) := by
  unfold importFrom
  grind

@[grind ←]
theorem steady_importStmt (source : ImportSource) (names : List Alias) :
    steadily.Keeps (importStmt r p source names) := by
  unfold importStmt
  split
  · exact keeps_forM fun a _ => steady_importWhole steady p a
  · grind

end Requests

/-! ### Statements -/

theorem steady_forEach {step : Thing → Importing Flow} (each : ∀ x, steadily.Keeps (step x))
    (items : List Thing) : steadily.Keeps (forEach step items) := by
  induction items with
  | nil => exact keeps_pure _
  | cons x items ih =>
    refine (each x).bind fun flow => ?_
    split
    · exact keeps_pure _
    · exact keeps_pure _
    · exact ih

theorem steady_repeatWhile (steady : r.Steady) {test : Importing Thing} {body : Importing Flow}
    (tests : steadily.Keeps test) (runs : steadily.Keeps body) (n : Nat) :
    steadily.Keeps (repeatWhile r test body n) := by
  induction n with
  | zero => exact keeps_pure _
  | succ n ih =>
    refine tests.bind fun x => (steady_contents x).bind fun _ =>
      (steady_holds steady x).bind fun holds => ?_
    split
    · exact keeps_pure _
    · refine runs.bind fun flow => ?_
      grind

theorem steady_afterLoop {orelse : Importing Flow} (runs : steadily.Keeps orelse) (flow : Flow) :
    steadily.Keeps (afterLoop orelse flow) := by
  unfold afterLoop
  grind

theorem steady_endingWith {last x : Importing Flow} (ends : steadily.Keeps last)
    (runs : steadily.Keeps x) : steadily.Keeps (endingWith last x) := by
  unfold endingWith
  grind

section Statements

variable (steady : r.Steady) (p : Place)
include steady

@[grind ←]
theorem steady_decorate (decorators : List Thing) (x : Thing) :
    steadily.Keeps (decorate r p decorators x) := by
  unfold decorate
  grind

@[grind ←]
theorem steady_evalAnnotations (h : FunctionHeader) :
    steadily.Keeps (evalAnnotations r p h) := by
  unfold evalAnnotations
  grind

theorem steady_defineFunction (h : FunctionHeader) (body : Block) :
    steadily.Keeps (defineFunction r p h body) := by
  unfold defineFunction
  grind

@[grind ←]
theorem steady_tellNames (cls : Thing) (names : List (String × Thing)) :
    steadily.Keeps (tellNames r cls names) := by
  refine keeps_forM fun (name, x) _ => (steady_register x).bind fun _ => ?_
  split
  · refine (steady_classMember? _ _).bind fun told => ?_
    grind
  · exact keeps_pure _

@[grind ←]
theorem steady_tellBases (cls : Thing) (bases : List Thing) (keywords : List (String × Thing)) :
    steadily.Keeps (tellBases r cls bases keywords) := by
  unfold tellBases
  grind

theorem steady_defineClass (h : ClassHeader) {runBody : Place → Importing Flow}
    (runs : ∀ p, steadily.Keeps (runBody p)) : steadily.Keeps (defineClass r p h runBody) := by
  refine (steady_evalAll steady p _).bind fun decorators => ?_
  refine (steady_evalArguments steady p _).bind fun bases => ?_
  refine (steady_evalKeywords steady p _).bind fun keywords => ?_
  refine (p.steady_global? _).bind fun module => p.steady_visible.bind fun enclosing => ?_
  refine (steady_withFrame (runs _)).bind fun left => (steady_makeClass _ _ _).bind fun cls => ?_
  refine (steady_tellNames steady cls _).bind fun _ => (steady_tellBases steady cls _ _).bind ?_
  exact fun _ => (steady_decorate steady p _ cls).bind fun x => p.steady_bind _ x

omit steady in
theorem steady_withName (name : Option String) (x : Thing) {body : Importing Flow}
    (runs : steadily.Keeps body) : steadily.Keeps (withName p name x body) := by
  unfold withName
  grind [steady_endingWith]

@[grind ←]
theorem steady_enterContext (x : Thing) : steadily.Keeps (enterContext r x) := by
  unfold enterContext
  grind

@[grind ←]
theorem steady_leaveContext (x : Thing) (failure : Option ImportFault) :
    steadily.Keeps (leaveContext r x failure) := by
  unfold leaveContext
  grind

theorem steady_withContexts {body : Importing Flow} (runs : steadily.Keeps body)
    (items : List WithItem) : steadily.Keeps (withContexts r p body items) := by
  induction items with
  | nil => exact runs
  | cons item items ih =>
    unfold withContexts
    grind

@[grind ←]
theorem steady_enterCase (captures : Captures) (guard : Option Expr) :
    steadily.Keeps (enterCase r p captures guard) := by
  unfold enterCase
  grind

theorem steady_augment (target : Expr) (op : BinOp) (value : Expr) :
    steadily.Keeps (augment r p target op value) := by
  unfold augment
  grind

theorem steady_evalAnnot (annot : Expr) : steadily.Keeps (evalAnnot r p annot) := by
  unfold evalAnnot
  grind

end Statements

mutual

/-- One statement is steady, whichever it is. -/
theorem steady_exec (steady : r.Steady) (p : Place) (s : Stmt) : steadily.Keeps (exec r p s) := by
  cases s with
  | functionDef h body =>
    exact (steady_defineFunction steady p h body).bind fun _ => keeps_pure _
  | classDef h body =>
    refine .bind (steady_defineClass steady p h fun p => ?_) fun _ => keeps_pure _
    exact steady_execBlock steady p body
  | ret value =>
    unfold exec
    grind
  | delete targets => exact (steady_removeAll steady p targets).bind fun _ => keeps_pure _
  | assign targets value =>
    refine (steady_eval steady p value).bind fun x => .bind ?_ fun _ => keeps_pure _
    exact keeps_forM fun t _ => steady_store steady p x t
  | augAssign target op value =>
    exact (steady_augment steady p target op value).bind fun _ => keeps_pure _
  | annAssign target annot value simple =>
    have rest := steady_evalAnnot steady p annot
    unfold exec
    grind
  | forLoop isAsync target iter body orelse =>
    refine (steady_eval steady p iter).bind fun x => (steady_itemsOf x).bind fun items => ?_
    refine .bind (steady_forEach (fun x => ?_) items) fun flow => steady_afterLoop ?_ flow
    · exact (steady_store steady p x target).bind fun _ => steady_execBlock steady p body
    · exact steady_execBlock steady p orelse
  | whileLoop test body orelse =>
    refine .bind (steady_repeatWhile steady (steady_eval steady p test) ?_ _) fun flow => ?_
    · exact steady_execBlock steady p body
    · exact steady_afterLoop (steady_execBlock steady p orelse) flow
  | ifStmt test body orelse =>
    refine (steady_eval steady p test).bind fun x => (steady_holds steady x).bind fun isTrue => ?_
    split
    · exact steady_execBlock steady p body
    · exact steady_execBlock steady p orelse
  | withStmt isAsync items body =>
    exact steady_withContexts steady p (steady_execBlock steady p body) items
  | matchStmt subject cases =>
    exact (steady_eval steady p subject).bind fun x => steady_execCases steady p x cases
  | raise exc cause =>
    unfold exec
    grind
  | tryStmt isStar body handlers orelse finalbody =>
    refine steady_endingWith (steady_execBlock steady p finalbody) ?_
    refine (steady_attempt (steady_execBlock steady p body)).bind fun result => ?_
    split
    · exact steady_execBlock steady p orelse
    · exact keeps_pure _
    · exact steady_execHandlers steady p _ handlers
  | assert test msg =>
    unfold exec
    grind
  | imports source names =>
    exact (steady_importStmt steady p source names).bind fun _ => keeps_pure _
  | scope kind names =>
    unfold exec
    grind
  | expr value => exact (steady_eval steady p value).discard.bind fun _ => keeps_pure _
  | jump kind => cases kind <;> exact keeps_pure _

theorem steady_execBlock (steady : r.Steady) (p : Place) (body : Block) :
    steadily.Keeps (execBlock r p body) := by
  cases body with
  | nil => exact keeps_pure _
  | cons s ss =>
    refine (steady_exec steady p s).bind fun flow => ?_
    split
    · exact steady_execBlock steady p ss
    · exact keeps_pure _

theorem steady_execHandlers (steady : r.Steady) (p : Place) (e : ImportFault)
    (hs : List Handler) : steadily.Keeps (execHandlers r p e hs) := by
  match hs with
  | [] => exact keeps_throw _
  | ⟨type, name, body⟩ :: hs =>
    have handled := steady_execBlock steady { p with handled := some e } body
    have others := steady_execHandlers steady p e hs
    unfold execHandlers
    grind [steady_withName]

theorem steady_execCases (steady : r.Steady) (p : Place) (x : Thing) (cs : List MatchCase) :
    steadily.Keeps (execCases r p x cs) := by
  match cs with
  | [] => exact keeps_pure _
  | ⟨pattern, guard, body⟩ :: cs =>
    have taken := steady_execBlock steady p body
    have others := steady_execCases steady p x cs
    unfold execCases
    grind

end

end StateWeave.Imports
