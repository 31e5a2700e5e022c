import Enclose.Script.Parser.Basic

/-!
Literals that turn out to be patterns, and what may be assigned to.
-/

namespace Enclose.Script.Parser

inductive CoverKind where
  | assignment
  | assignmentElement
  | binding
  deriving Repr, DecidableEq, Inhabited

def CoverKind.element : CoverKind → CoverKind
  | assignment | assignmentElement => assignmentElement
  | binding => binding

def isSimpleTarget (strict : Bool) : Expr → Bool
  | .ident name => !(strict && (name == "eval" || name == "arguments"))
  | .paren inner => isSimpleTarget strict inner
  | .member _ _ | .invalid => true
  | _ => false

def checkTarget (start : Nat) (e : Expr) : Parse Unit := do
  unless isSimpleTarget (← inContext (·.strict)) e do complain start .notVariableOrProperty

def isTargetForm : Expr → Bool
  | .ident _ | .member _ _ | .paren _ | .optionalMember _ _ _ | .optionalCall _ _ _ => true
  | _ => false

def plainTarget : Expr → Pattern
  | .ident name => .ident name
  | e => .expr e

def checkTrailingComma (start : Nat) : Parse Unit := do
  match (← getState).trailingCommas.find? (·.1 == start) with
  | some (_, comma) => complain comma .commaAfterRest
  | none => return ()

def holesAtEnd (elements : List Element) : Nat :=
  (elements.reverse.takeWhile fun e => match e with | .hole => true | _ => false).length

mutual

def coverPart (kind : CoverKind) (start : Nat) : Expr → Parse Pattern
  | .invalid => return .invalid
  | .ident name => do
    if kind == .assignmentElement then
      unless isSimpleTarget (← inContext (·.strict)) (.ident name) do complain start .notAssignable
    return .ident name
  | .array elements => return .array (← coverElements kind start (holesAtEnd elements) elements)
  | .object properties => return .object (← coverProperties kind start properties)
  | .assign .assign (.expr target) value => return .defaulted (← coverPart kind start target) value
  | .assign .assign (.ident name) value => do
    if kind == .assignmentElement then
      unless isSimpleTarget (← inContext (·.strict)) (.ident name) do complain start .notAssignable
    return .defaulted (.ident name) value
  | .assign .assign target value => return .defaulted target value
  | .paren inner => do
    if kind == .assignmentElement then
      unless isSimpleTarget (← inContext (·.strict)) inner do complain start .notAssignable
      return .expr (.paren inner)
    else
      complain start .notPattern
      return .invalid
  | e => do
    if kind == .assignmentElement then
      match e with
      | .member _ _ | .call _ _ | .new _ _ | .newBare _ | .null | .bool _ | .number _ | .bigint _
      | .string _ | .regex _ _ | .function _ | .class _ | .template _ _ =>
        unless isSimpleTarget (← inContext (·.strict)) e do complain start .notAssignable
        return .expr e
      | _ =>
        complain start .notPattern
        return .invalid
    else
      complain start .notPattern
      return .invalid

/-- Read the elements of an array literal again. A rest element may only be the last one, and holes
at the end are dropped. -/
def coverElements (kind : CoverKind) (arrayStart holes : Nat) : List Element → Parse (List Pattern)
  | [] => return []
  | [.spread start valuePlace value] => do
    if let .assign _ _ _ := value then complain start .restWithInitializer
    checkTrailingComma arrayStart
    return [.rest (← coverPart kind.element valuePlace value)]
  | .spread start _ _ :: others => do
    complain start .restNotLast
    coverElements kind arrayStart holes others
  | .item start value :: others => do
    let first ← coverPart kind.element start value
    return first :: (← coverElements kind arrayStart holes others)
  | .hole :: others => do
    if others.length < holes then return []
    else return .hole :: (← coverElements kind arrayStart holes others)

def coverProperties (kind : CoverKind) (objectStart : Nat) : List Property → Parse (List Pattern)
  | [] => return []
  | .shorthand _ name :: others => do
    return .shorthand name none :: (← coverProperties kind objectStart others)
  | .keyed _ key valuePlace value :: others => do
    let value ← coverPart kind.element valuePlace value
    return .keyed key value :: (← coverProperties kind objectStart others)
  | .defaulted _ name value :: others => do
    return .shorthand name (some value) :: (← coverProperties kind objectStart others)
  | .spread start valuePlace value :: others => do
    unless others.isEmpty do complain start .restNotLast
    checkTrailingComma objectStart
    let inner ←
      match kind.element, value with
      | .binding, .ident name => pure (Pattern.ident name)
      | .binding, _ => do
        complain start .restNeedsIdent
        pure .invalid
      | _, value => coverPart kind.element valuePlace value
    if let .defaulted _ _ := inner then complain start .restWithInitializer
    return .rest inner :: (← coverProperties kind objectStart others)
  | .getter start _ _ :: _ => failAt start .notPattern
  | .setter start _ _ :: _ => failAt start .notPattern
  | .method start _ _ :: _ => failAt start .notPattern

end

def coverTarget (start : Nat) (e : Expr) : Parse Pattern := do
  match e with
  | .invalid => return .invalid
  | .array _ | .object _ => coverPart .assignment start e
  | e =>
    checkTarget start e
    return plainTarget e

/-- Complain, in a module, about names that strict code may not bind. The places are those of the
expressions that the patterns were read from. -/
def checkStrictNames (names : List (Nat × String)) : Parse Unit := do
  for (start, name) in names do
    if name == "eval" || name == "arguments" then complainStrict start .evalOrArguments

mutual

def coverNames (start : Nat) : Expr → List (Nat × String)
  | .ident name => [(start, name)]
  | .array elements => coverElementNames elements
  | .object properties => coverPropertyNames properties
  | .assign .assign (.ident name) _ => [(start, name)]
  | .assign .assign (.expr target) _ => coverNames start target
  | _ => []

def coverElementNames : List Element → List (Nat × String)
  | [] => []
  | .hole :: others => coverElementNames others
  | .item start value :: others => coverNames start value ++ coverElementNames others
  | .spread _ valuePlace value :: others =>
    coverNames valuePlace value ++ coverElementNames others

def coverPropertyNames : List Property → List (Nat × String)
  | [] => []
  | .shorthand start name :: others => (start, name) :: coverPropertyNames others
  | .defaulted start name _ :: others => (start, name) :: coverPropertyNames others
  | .keyed _ _ valuePlace value :: others =>
    coverNames valuePlace value ++ coverPropertyNames others
  | .spread _ valuePlace value :: others =>
    coverNames valuePlace value ++ coverPropertyNames others
  | _ :: others => coverPropertyNames others

end

def coverParams (items : List Element) (trailingComma : Option Nat) : Parse (List Pattern) := do
  let params ← go items
  if ← inContext (·.strict) then checkStrictNames (coverElementNames items)
  return params
where
  go : List Element → Parse (List Pattern)
    | [] => return []
    | [.spread start valuePlace value] => do
      if let .assign _ _ _ := value then complain start .restWithInitializer
      if let some comma := trailingComma then complain comma .commaAfterRest
      return [.rest (← coverPart .binding valuePlace value)]
    | .spread _ valuePlace _ :: others => do
      complain valuePlace .restNotLast
      go others
    | .item start value :: others => do
      let first ← coverPart .binding start value
      return first :: (← go others)
    | .hole :: others => go others

end Enclose.Script.Parser
