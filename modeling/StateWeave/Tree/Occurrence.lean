import StateWeave.Tree.Expr

/-! The names an expression uses in the scope that evaluates it, in evaluation order. Bodies of
lambdas and all of a comprehension but its first iterable run in scopes of their own and are left
out; the defaults of a lambda belong to the enclosing scope. -/

namespace StateWeave

/-- A name as it stands in a scope: read, written or deleted. -/
structure Occurrence where
  name : String
  ctx : Ctx
deriving DecidableEq, Repr, Inhabited

namespace Expr

mutual

def occurrences : Expr → List Occurrence
  | .constant _ => []
  | .name id ctx => [⟨id, ctx⟩]
  | .attribute value _ _ => value.occurrences
  | .subscript value index _ => value.occurrences ++ index.occurrences
  | .starred value _ => value.occurrences
  | .sequence _ elts _ => occurrencesList elts
  | .set elts => occurrencesList elts
  | .dict keys values => occurrencesOptions keys ++ occurrencesList values
  | .boolOp _ values => occurrencesList values
  | .binOp left _ right => left.occurrences ++ right.occurrences
  | .unaryOp _ operand => operand.occurrences
  | .compare left _ comparators => left.occurrences ++ occurrencesList comparators
  | .call func args keywords =>
    func.occurrences ++ occurrencesList args ++ occurrencesKeywords keywords
  | .ifExp test body orelse => test.occurrences ++ body.occurrences ++ orelse.occurrences
  | .walrus target value => ⟨target, .store⟩ :: value.occurrences
  | .lambda params _ => occurrencesParams params
  | .comprehension _ _ first _ => occurrencesGenerator first
  | .dictComprehension _ _ first _ => occurrencesGenerator first
  | .await value => value.occurrences
  | .yield value => occurrencesOption value
  | .yieldFrom value => value.occurrences
  | .joinedStr values => occurrencesList values
  | .formatted value _ spec => value.occurrences ++ occurrencesOption spec
  | .slice lower upper step =>
    occurrencesOption lower ++ occurrencesOption upper ++ occurrencesOption step

def occurrencesOption : Option Expr → List Occurrence
  | none => []
  | some e => e.occurrences

def occurrencesList : List Expr → List Occurrence
  | [] => []
  | e :: es => e.occurrences ++ occurrencesList es

def occurrencesOptions : List (Option Expr) → List Occurrence
  | [] => []
  | e :: es => occurrencesOption e ++ occurrencesOptions es

def occurrencesKeywords : List Keyword → List Occurrence
  | [] => []
  | k :: ks => occurrencesKeyword k ++ occurrencesKeywords ks

def occurrencesKeyword : Keyword → List Occurrence
  | ⟨_, value⟩ => value.occurrences

def occurrencesParams : Params → List Occurrence
  | ⟨_, _, _, _, kwDefaults, _, defaults⟩ =>
    occurrencesList defaults ++ occurrencesOptions kwDefaults

def occurrencesGenerator : Generator → List Occurrence
  | ⟨_, iter, _, _⟩ => iter.occurrences

end

end Expr

end StateWeave
