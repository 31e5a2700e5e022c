import Enclose.Script.Parser.Basic

/-!
The productions of the language that refer to each other, as parameters of each of them, and the
names that all of them use.
-/

namespace Enclose.Script.Parser

structure Grammar where
  assignment : Parse Expr
  unary : Parse Expr
  operators : Nat → Expr → Nat → Parse Expr
  member : Parse Expr
  binding : Parse Pattern
  /-- A statement, or a declaration where those are allowed. -/
  statement : Bool → Parse Stmt

def withIn (value : Bool) (p : Parse α) : Parse α :=
  withContext (fun c => { c with includeIn := value }) p

def expression (g : Grammar) : Parse Expr := do
  let first ← g.assignment
  if ← at? .comma then
    iterate (fun exprs => do
      if ← eat .comma then return .inl ((← g.assignment) :: exprs)
      else return .inr (.sequence exprs.reverse)) [first]
  else return first

def complainedWords : List String := ["yield", "let", "static"] ++ strictReserved

def identifier (yieldAllowed awaitAllowed : Bool) : Parse String := do
  match ← demand with
  | .word name =>
    advance
    let start ← previousPlace
    if name == "enum" then complain start (.strictIdent name)
    else if complainedWords.contains name then complainStrict start (.strictIdent name)
    if name == "await" then
      if ← inContext fun c => c.inAsync || c.isModule then failAt start .awaitIdent
      else if awaitAllowed then return name
      else failAt start .expectedIdent
    else if name == "yield" then
      if yieldAllowed then return name else failAt start .expectedIdent
    else if alwaysReserved.contains name && name != "enum" then failAt start .expectedIdent
    else
      if name == "arguments" && (← inContext (·.inField)) then complain start .argumentsInField
      return name
  | _ => fail .expectedIdent

def boundIdentifier : Parse String := do
  let start ← place
  let name ← identifier true true
  let c := (← getState).context
  if (c.inAsync && name == "await") || (c.inGenerator && name == "yield") then
    complain start .expectedIdent
  if name == "eval" || name == "arguments" then complainStrict start .evalOrArguments
  return name

def plainName : Parse String := do
  match ← demand with
  | .word name =>
    advance
    return name
  | _ => fail .expectedIdent

def privateIdentifier : Parse String := do
  let start ← place
  advance
  let hashStop ← previousStop
  if (← place) != hashStop then failAt start .spaceAfterHash
  plainName

def propertyKey (g : Grammar) : Parse PropertyKey := do
  match ← demand with
  | .string lit => advance; return .string lit
  | .number raw => advance; return .number raw
  | .bigint raw => advance; return .bigint raw
  | .word name => advance; return .ident name
  | .openBracket =>
    advance
    let key ← withIn true g.assignment
    expect .closeBracket
    return .computed key
  | _ => unexpected "identifier, string literal, numeric literal or [ for the computed key"

end Enclose.Script.Parser
