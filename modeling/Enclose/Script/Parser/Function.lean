import Enclose.Script.Parser.Grammar

/-!
Parameters and bodies of functions.
-/

namespace Enclose.Script.Parser

def isUseStrict : Stmt → Bool
  | .expr (.string lit) => lit.raw == "'use strict'" || lit.raw == "\"use strict\""
  | _ => false

def isDirective : Stmt → Bool
  | .expr (.string _) => true
  | _ => false

structure BlockState where
  statements : List Stmt := []
  onlyDirectives : Bool := true
  useStrict : Option Nat := none

/-- The statements between braces, and the place of the directive that makes code strict if
they start with it. It has its effect only as the first statement, and only where `directives`
says so. -/
def block (g : Grammar) (directives : Bool) : Parse (List Stmt × Option Nat) := do
  expect .openBrace
  withContext (fun c => { c with topLevel := false }) do
    iterate (fun (s : BlockState) => do
      if ← atEnd then
        complain (← complaintPlace) (.expected "'\x7d'" "<eof>")
        return .inr (s.statements.reverse, s.useStrict)
      else if ← eat .closeBrace then return .inr (s.statements.reverse, s.useStrict)
      else
        let start ← place
        let statement ← g.statement true
        if directives && s.statements.isEmpty && isUseStrict statement then beStrict
        let useStrict :=
          if s.useStrict.isNone && s.onlyDirectives && isUseStrict statement then some start
          else s.useStrict
        return .inl
          ⟨statement :: s.statements, s.onlyDirectives && isDirective statement, useStrict⟩) {}

def plainBlock (g : Grammar) : Parse (List Stmt) := return (← block g false).1

def inBody (isAsync isGenerator isArrow : Bool) (p : Parse α) : Parse α :=
  withContext (fun c => { c with
    inAsync := isAsync, inGenerator := isGenerator, inFunction := true
    breakAllowed := false, continueAllowed := false
    inProperFunction := c.inProperFunction || !isArrow }) (withFreshLabels p)

/-- The statements of the body of a function. A function whose parameters are not all plain names
may not declare its body strict. -/
def functionBlock (g : Grammar) (directives : Bool) (params : List Pattern) :
    Parse (List Stmt) := do
  let (body, useStrict) ← block g directives
  if let some start := useStrict then
    unless params.all (fun p => match p with | .ident _ => true | _ => false) do
      complain start .strictDirective
  return body

def arrowBody (g : Grammar) (isAsync : Bool) (params : List Pattern) : Parse Expr :=
  inBody isAsync false true do
    if ← at? .openBrace then return .arrowBlock isAsync params (← functionBlock g false params)
    else return .arrow isAsync params (← g.assignment)

/-- A parameter after `...`. It may have no default, which is read all the same if `defaultRead`
says so. -/
def restParam (g : Grammar) (defaultRead : Bool) : Parse Pattern := do
  let start ← place
  let inner ← g.binding
  if ← eatIf defaultRead (.assign .assign) then
    let value ← g.assignment
    complain start .restWithInitializer
    return .rest (.defaulted inner value)
  else return .rest inner

structure ParamsState where
  params : List (Nat × Pattern) := []
  rest : Option Nat := none

def formalParams (g : Grammar) (defaultRead : Bool) : Parse (List (Nat × Pattern)) :=
  iterate (fun (s : ParamsState) => do
    if (← atEnd) || (← at? .closeParen) then return .inr s.params.reverse
    else
      if let some rest := s.rest then complain rest .restParamNotLast
      let start ← place
      let isRest ← eat .ellipsis
      let param ←
        if isRest then restParam g defaultRead
        else do
          let inner ← g.binding
          if ← eat (.assign .assign) then
            pure (Pattern.defaulted inner (← withIn true g.assignment))
          else pure inner
      unless ← at? .closeParen do
        expect .comma
        if isRest && (← at? .closeParen) then complain (← previousPlace) .commaAfterRest
      return .inl ⟨(start, param) :: s.params, if isRest then some start else s.rest⟩) {}

abbrev ParamsCheck := List (Nat × Pattern) → Parse Unit

def anyParams : ParamsCheck := fun _ => return ()

def getterParams (start : Nat) : ParamsCheck := fun params => do
  unless params.isEmpty do complain start .getterParams

def setterParams (start : Nat) : ParamsCheck := fun params => do
  if params.length != 1 then complain start .setterParams
  if let (first, .rest _) :: _ := params then complain first .restInSetter

def paramsAndBody (g : Grammar) (isAsync isGenerator : Bool) (check : ParamsCheck) :
    Parse (List Pattern × List Stmt) :=
  withContext (fun c => { c with
    inAsync := isAsync, inGenerator := isGenerator, inParams := true, inFunction := false }) do
    expect .openParen
    let params ← formalParams g true
    check params
    expect .closeParen
    let params := params.map Prod.snd
    let body ← inBody isAsync isGenerator false (functionBlock g true params)
    return (params, body)

def method (g : Grammar) (isAsync isGenerator : Bool) (check : ParamsCheck) : Parse Function :=
  withContext (fun c => { c with superAllowed := true, inField := false }) do
    let (params, body) ← paramsAndBody g isAsync isGenerator check
    return .mk none isAsync isGenerator params body

def functionAfterWord (g : Grammar) (isAsync isExpr nameRequired : Bool) : Parse Function := do
  let isGenerator ← eat (.binary .multiply)
  let nameContext (c : Context) : Context :=
    if isExpr then { c with inAsync := isAsync, inGenerator := isGenerator } else c
  let name ← withContext nameContext do
    if nameRequired || (← atIdent) then pure (some (← boundIdentifier)) else pure none
  withContext (fun c => { c with superAllowed := false, inField := false }) do
    let (params, body) ← paramsAndBody g isAsync isGenerator anyParams
    return .mk name isAsync isGenerator params body

def functionFromWord (g : Grammar) (isAsync isExpr nameRequired : Bool) : Parse Function := do
  if isAsync then advance
  advance
  functionAfterWord g isAsync isExpr nameRequired

def atAsyncFunction : Parse Bool := do
  if ← atWord "async" then return (← aheadToken?) == some (.word "function") && !(← newlineAhead)
  else return false

end Enclose.Script.Parser
