import StateWeave.Import.Evaluation
import StateWeave.Proofs.Steady

/-! Evaluating expressions is steady, whatever they are and whatever they call, if the code of functions
and the modules that are loaded are. -/

namespace StateWeave.Imports

open Manner

variable {r : Interpreter}

/-! ### Operations -/

@[grind ←]
theorem steady_textOf (c : Constant) : steadily.Keeps (textOf c) := by
  grind [textOf]

@[grind ←]
theorem steady_numberOf (s : String) : steadily.Keeps (numberOf s) := by
  grind [numberOf]

@[grind ←]
theorem steady_collect (kind : CollectionKind) (args : List Thing) :
    steadily.Keeps (collect kind args) := by
  unfold collect
  grind

@[grind ←]
theorem steady_unpacking (x : Thing) : steadily.Keeps (unpacking x) := by
  unfold unpacking
  grind

@[grind ←]
theorem steady_binary (op : BinOp) (isStored : Bool) (x y : Thing) :
    steadily.Keeps (binary op isStored x y) := by
  grind [binary]

@[grind ←]
theorem steady_comparison? (op : CmpOp) (x y : Thing) :
    steadily.Keeps (comparison? op x y) := by
  unfold comparison?
  grind

@[grind ←]
theorem steady_callTable (module method : String) (args : List Thing)
    (kwargs : List (String × Thing)) : steadily.Keeps (callTable module method args kwargs) := by
  unfold callTable
  split
  case h_1 =>
    refine Manner.Keeps.bind (keeps_mapM steady_contents) fun given => ?_
    split <;> grind
  all_goals grind

@[grind ←]
theorem steady_callText (s method : String) (args : List Thing) :
    steadily.Keeps (callText s method args) := by
  unfold callText
  grind

/-- The settings of the program are not of the session. -/
theorem steady_configure (f : Config → Config) :
    steadily.Keeps (modify fun w => { w with config := f w.config } : Importing Unit) := fun _ =>
  ⟨.refl _, rfl, List.prefix_refl _, fun _ => ⟨[], .stay _⟩⟩

section Calls

variable (steady : r.Steady) (p : Place)
include steady

@[grind ←]
theorem steady_instantiate (serial : Nat) (name : String) (names : List (String × Thing))
    (bases : List Thing) (index : Thing) :
    steadily.Keeps (instantiate r serial name names bases index) := by
  unfold instantiate
  refine (steady_classMember? _ _).bind fun getter => ?_
  split
  · exact steady.call _ _ _
  · exact keeps_pure _
  · split
    · exact keeps_pure _
    · refine .get_bind fun w => ?_
      split
      · exact keeps_pure _
      · refine (steady_makeClass _ _ _).bind fun made => ?_
        refine (steady_register _).bind fun _ => .bind ?_ fun _ => keeps_pure _
        exact steady_change fun i => { Kept.refl i with specializations := List.suffix_cons .. }

@[grind ←]
theorem steady_subscript (x index : Thing) : steadily.Keeps (subscript r x index) := by
  refine (steady_contents x).bind fun x => ?_
  split <;> grind

@[grind ←]
theorem steady_importNamed (name : String) (package : Option String) :
    steadily.Keeps (importNamed r name package) := by
  unfold importNamed
  grind

@[grind ←]
theorem steady_lengthOf (x : Thing) : steadily.Keeps (lengthOf r x) := by
  unfold lengthOf lengthOf.refuse
  grind

@[grind ←]
theorem steady_callPlain (name : String) (args : List Thing) (kwargs : List (String × Thing)) :
    steadily.Keeps (callPlain r name args kwargs) := by
  unfold callPlain
  grind

@[grind ←]
theorem steady_callBuiltin (name : String) (args : List Thing) (kwargs : List (String × Thing)) :
    steadily.Keeps (callBuiltin r p name args kwargs) := by
  unfold callBuiltin
  grind

@[grind ←]
theorem steady_showing (x : Thing) : steadily.Keeps (showing r x) := by
  unfold showing
  split
  · refine (steady_classMember? _ _).bind fun shows => ?_
    split
    · refine (steady_attempt (steady.call _ _ _)).bind fun result => ?_
      split <;> exact keeps_pure _
    · exact keeps_pure _
  · exact keeps_pure _

omit steady in
mutual

/-- A table of zero values shows what it holds item by item. -/
@[grind ←]
theorem steady_datumOf (steady : r.Steady) (x : Thing) : steadily.Keeps (datumOf r x) := by
  unfold datumOf
  split
  · exact keeps_pure _
  · exact (steady_datumsOf steady _).bind fun _ => keeps_pure _
  · exact (steady_datumsOf steady _).bind fun _ => keeps_pure _
  · exact (steady_showing steady _).bind fun _ => keeps_pure _

theorem steady_datumsOf (steady : r.Steady) (xs : List Thing) :
    steadily.Keeps (datumsOf r xs) := by
  cases xs with
  | nil => exact keeps_pure _
  | cons x xs =>
    exact (steady_datumOf steady x).bind fun _ =>
      (steady_datumsOf steady xs).bind fun _ => keeps_pure _

end

@[grind ←]
theorem steady_withSetting (s : Settings) (kwarg : String × Thing) :
    steadily.Keeps (withSetting r s kwarg) := by
  unfold withSetting
  split
  case h_4 =>
    refine (steady_view _).bind fun held => ?_
    split
    · refine .bind (keeps_filterMapM ?_) fun _ => keeps_pure _
      rintro ⟨key, x⟩
      grind
    · exact keeps_pure _
  all_goals grind

@[grind ←]
theorem steady_updateConfig (args : List Thing) (kwargs : List (String × Thing)) :
    steadily.Keeps (updateConfig r args kwargs) := by
  unfold updateConfig
  dsimp only
  split
  · refine (keeps_foldlM (steady_withSetting steady) _).bind fun changes => ?_
    exact (steady_configure (·.update changes)).bind fun _ => keeps_pure _
  all_goals exact keeps_throw _

@[grind ←]
theorem steady_callForeign (path : String) (args : List Thing) (kwargs : List (String × Thing)) :
    steadily.Keeps (callForeign r path args kwargs) := by
  unfold callForeign
  split
  case h_4 | h_5 => exact (steady_configure fun _ => {}).bind fun _ => keeps_pure _
  all_goals grind

@[grind ←]
theorem steady_makeInstance (cls : Thing) (args : List Thing) (kwargs : List (String × Thing)) :
    steadily.Keeps (makeInstance r cls args kwargs) := by
  unfold makeInstance
  grind

@[grind ←]
theorem steady_callThing (f : Thing) (args : List Thing) (kwargs : List (String × Thing)) :
    steadily.Keeps (callThing r p f args kwargs) := by
  unfold callThing
  grind

end Calls

/-! ### Expressions -/

@[grind ←]
theorem steady_formatted (conversion : Int) (x : Thing) :
    steadily.Keeps (formatted conversion x) := by
  unfold formatted
  grind

@[grind ←]
theorem steady_row (kind : CollectionKind) (parts : List (Thing × Bool)) :
    steadily.Keeps (row kind parts) :=
  steady_settle _

@[grind ←]
theorem steady_table (keys : List (Option Thing)) (values : List Thing) :
    steadily.Keeps (table keys values) := by
  unfold table
  grind

theorem steady_gather {f : Thing → Importing (List Thing)} (each : ∀ x, steadily.Keeps (f x))
    (items : List Thing) : steadily.Keeps (gather items f) :=
  (keeps_mapM each).bind fun _ => keeps_pure _

mutual

/-- An expression is evaluated in steps that are steady. -/
theorem steady_eval (steady : r.Steady) (p : Place) (e : Expr) : steadily.Keeps (eval r p e) := by
  cases e with
  | constant c => exact keeps_pure _
  | name id ctx => exact p.steady_lookup id
  | «attribute» value attr ctx =>
    exact (steady_eval steady p value).bind fun x => steady_attributeOf steady x _
  | subscript value index ctx =>
    exact (steady_eval steady p value).bind fun x =>
      (steady_eval steady p index).bind fun i => steady_subscript steady x i
  | starred value ctx => exact steady_eval steady p value
  | sequence kind elts ctx => exact (steady_evalParts steady p elts).bind fun _ => steady_row _ _
  | set elts => exact (steady_evalParts steady p elts).bind fun _ => steady_row _ _
  | dict keys values =>
    exact (steady_evalKeys steady p keys).bind fun _ =>
      (steady_evalAll steady p values).bind fun _ => steady_table _ _
  | boolOp op values => exact steady_evalChain steady p _ values
  | binOp left op right =>
    exact (steady_eval steady p left).bind fun x =>
      (steady_eval steady p right).bind fun y => steady_binary op false x y
  | unaryOp op operand =>
    refine (steady_eval steady p operand).bind fun x => ?_
    grind
  | compare left ops comparators =>
    exact (steady_eval steady p left).bind fun x => steady_evalComparisons steady p x ops comparators
  | call func args keywords =>
    refine (steady_eval steady p func).bind fun f => ?_
    refine (steady_evalArguments steady p args).bind fun positional => ?_
    refine (steady_evalKeywords steady p keywords).bind fun named => ?_
    dsimp only
    split
    · exact keeps_throw _
    · exact steady_callThing steady p f _ _
  | ifExp test body orelse =>
    refine (steady_eval steady p test).bind fun x => (steady_holds steady x).bind fun isTrue => ?_
    split
    · exact steady_eval steady p body
    · exact steady_eval steady p orelse
  | walrus target value =>
    exact (steady_eval steady p value).bind fun x =>
      (p.steady_bind target x).bind fun _ => keeps_pure _
  | lambda params body =>
    exact (steady_evalParams steady p params).bind fun _ =>
      p.steady_visible.bind fun _ => keeps_pure _
  | comprehension kind element first rest =>
    unfold eval
    split
    · exact (steady_evalIterable steady p first).discard.bind fun _ => keeps_pure _
    · refine .bind (steady_evalGenerator steady p first fun p => ?_) fun items => steady_collect _ _
      refine steady_evalGenerators steady (fun p => ?_) p rest
      exact (steady_eval steady p element).bind fun _ => keeps_pure _
  | dictComprehension key value first rest =>
    refine .bind (steady_evalGenerator steady p first fun p => ?_) fun items => steady_share _
    refine steady_evalGenerators steady (fun p => ?_) p rest
    exact (steady_eval steady p key).bind fun _ =>
      (steady_eval steady p value).bind fun _ => keeps_pure _
  | await value => exact steady_eval steady p value
  | yield value =>
    exact (steady_evalOption steady p value).discard.bind fun _ => keeps_pure _
  | yieldFrom value => exact (steady_eval steady p value).discard.bind fun _ => keeps_pure _
  | joinedStr values => exact (steady_evalAll steady p values).bind fun _ => keeps_pure _
  | formatted value conversion spec =>
    unfold eval
    refine (steady_eval steady p value).bind fun x => ?_
    cases spec with
    | none => exact steady_formatted _ x
    | some e => exact (steady_eval steady p e).discard.bind fun _ => keeps_pure _
  | slice lower upper step =>
    exact (steady_evalBound steady p lower).bind fun _ =>
      (steady_evalBound steady p upper).bind fun _ =>
        (steady_evalBound steady p step).bind fun _ => keeps_pure _

theorem steady_evalOption (steady : r.Steady) (p : Place) (e : Option Expr) :
    steadily.Keeps (evalOption r p e) := by
  cases e with
  | none => exact keeps_pure _
  | some e => exact steady_eval steady p e

theorem steady_evalBound (steady : r.Steady) (p : Place) (e : Option Expr) :
    steadily.Keeps (evalBound r p e) := by
  cases e with
  | none => exact keeps_pure _
  | some e => exact steady_eval steady p e

theorem steady_evalAll (steady : r.Steady) (p : Place) (es : List Expr) :
    steadily.Keeps (evalAll r p es) := by
  cases es with
  | nil => exact keeps_pure _
  | cons e es =>
    exact (steady_eval steady p e).bind fun _ =>
      (steady_evalAll steady p es).bind fun _ => keeps_pure _

theorem steady_evalOptions (steady : r.Steady) (p : Place) (es : List (Option Expr)) :
    steadily.Keeps (evalOptions r p es) := by
  cases es with
  | nil => exact keeps_pure _
  | cons e es =>
    exact (steady_evalOption steady p e).bind fun _ =>
      (steady_evalOptions steady p es).bind fun _ => keeps_pure _

theorem steady_evalKeys (steady : r.Steady) (p : Place) (es : List (Option Expr)) :
    steadily.Keeps (evalKeys r p es) := by
  match es with
  | [] => exact keeps_pure _
  | none :: es => exact (steady_evalKeys steady p es).bind fun _ => keeps_pure _
  | some e :: es =>
    exact (steady_eval steady p e).bind fun _ =>
      (steady_evalKeys steady p es).bind fun _ => keeps_pure _

theorem steady_evalParts (steady : r.Steady) (p : Place) (es : List Expr) :
    steadily.Keeps (evalParts r p es) := by
  cases es with
  | nil => exact keeps_pure _
  | cons e es =>
    have first := steady_eval steady p e
    have others := steady_evalParts steady p es
    cases e with
    | starred value ctx =>
      exact first.bind fun x => (steady_unpacking x).bind fun _ =>
        others.bind fun _ => keeps_pure _
    | _ => exact first.bind fun _ => (others.bind fun _ => keeps_pure _)

theorem steady_evalArguments (steady : r.Steady) (p : Place) (es : List Expr) :
    steadily.Keeps (evalArguments r p es) := by
  cases es with
  | nil => exact keeps_pure _
  | cons e es =>
    have first := steady_eval steady p e
    have others := steady_evalArguments steady p es
    cases e with
    | comprehension kind element generator rest =>
      cases kind with
      | generator =>
        refine .bind ?_ fun items => others.bind fun _ => keeps_pure _
        refine steady_evalGenerator steady p generator fun p => ?_
        refine steady_evalGenerators steady (fun p => ?_) p rest
        exact (steady_eval steady p element).bind fun _ => keeps_pure _
      | _ => exact first.bind fun _ => (others.bind fun _ => keeps_pure _)
    | starred value ctx =>
      exact first.bind fun x => (steady_unpacking x).bind fun _ =>
        others.bind fun _ => keeps_pure _
    | _ => exact first.bind fun _ => (others.bind fun _ => keeps_pure _)

theorem steady_evalKeywords (steady : r.Steady) (p : Place) (ks : List Keyword) :
    steadily.Keeps (evalKeywords r p ks) := by
  match ks with
  | [] => exact keeps_pure _
  | ⟨arg, value⟩ :: ks =>
    have rest := steady_evalKeywords steady p ks
    refine (steady_eval steady p value).bind fun x => ?_
    grind

theorem steady_evalComparisons (steady : r.Steady) (p : Place) (x : Thing) (ops : List CmpOp)
    (es : List Expr) : steadily.Keeps (evalComparisons r p x ops es) := by
  match es with
  | [] => exact keeps_pure _
  | e :: es =>
    unfold evalComparisons
    refine (steady_eval steady p e).bind fun y => ?_
    split
    · exact keeps_pure _
    · refine (steady_comparison? _ x y).bind fun found => ?_
      split
      · exact keeps_pure _
      · split
        · exact keeps_pure _
        · exact steady_evalComparisons steady p y _ es

theorem steady_evalChain (steady : r.Steady) (p : Place) (isAnd : Bool) (es : List Expr) :
    steadily.Keeps (evalChain r p isAnd es) := by
  match es with
  | [] => exact keeps_pure _
  | [e] => exact steady_eval steady p e
  | e :: e' :: es =>
    refine (steady_eval steady p e).bind fun x => (steady_holds steady x).bind fun isTrue => ?_
    split
    · exact steady_evalChain steady p isAnd (e' :: es)
    · exact keeps_pure _

theorem steady_evalTests (steady : r.Steady) (p : Place) (es : List Expr) :
    steadily.Keeps (evalTests r p es) := by
  cases es with
  | nil => exact keeps_pure _
  | cons e es =>
    refine (steady_eval steady p e).bind fun x => (steady_holds steady x).bind fun isTrue => ?_
    split
    · exact steady_evalTests steady p es
    · exact keeps_pure _

theorem steady_evalParams (steady : r.Steady) (p : Place) (ps : Params) :
    steadily.Keeps (evalParams r p ps) := by
  obtain ⟨posOnly, positional, vararg, kwOnly, kwDefaults, kwarg, defaults⟩ := ps
  exact (steady_evalAll steady p defaults).bind fun _ =>
    (steady_evalKeys steady p kwDefaults).bind fun _ => keeps_pure _

theorem steady_evalIterable (steady : r.Steady) (p : Place) (g : Generator) :
    steadily.Keeps (evalIterable r p g) := by
  obtain ⟨target, iter, ifs, isAsync⟩ := g
  exact steady_eval steady p iter

/-- The generator runs what is inside for some items, and does nothing else to the session. -/
theorem steady_evalGenerator (steady : r.Steady) (p : Place) (g : Generator)
    {inner : Place → Importing (List Thing)} (inside : ∀ p, steadily.Keeps (inner p)) :
    steadily.Keeps (evalGenerator r p inner g) := by
  obtain ⟨target, iter, ifs, isAsync⟩ := g
  refine (steady_eval steady p iter).bind fun x => (steady_itemsOf x).bind fun items => ?_
  refine steady_gather (fun x => ?_) items
  refine (steady_contents x).bind fun x => (steady_evalTests steady _ ifs).bind fun passes => ?_
  split
  · exact inside _
  · exact keeps_pure _

theorem steady_evalGenerators (steady : r.Steady) {inner : Place → Importing (List Thing)}
    (inside : ∀ p, steadily.Keeps (inner p)) (p : Place) (gs : List Generator) :
    steadily.Keeps (evalGenerators r inner p gs) := by
  cases gs with
  | nil => exact inside p
  | cons g gs =>
    exact steady_evalGenerator steady p g fun p => steady_evalGenerators steady inside p gs

end

end StateWeave.Imports
