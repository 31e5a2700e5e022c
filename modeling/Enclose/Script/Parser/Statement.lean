import Enclose.Script.Parser.Binding
import Enclose.Script.Parser.Expression

/-!
Statements and declarations.
-/

namespace Enclose.Script.Parser

def fullExpression (g : Grammar) : Parse Expr := withIn true (expression g)

def parenthesized (g : Grammar) : Parse Expr := do
  expect .openParen
  let e ← fullExpression g
  expect .closeParen
  return e

def loopBody (g : Grammar) : Parse Stmt :=
  withContext (fun c => { c with breakAllowed := true, continueAllowed := true })
    (g.statement false)

def skipStatement (g : Grammar) : Parse Unit := do
  ignoring (expression g)
  iterate (fun _ => do
    if ← eatStatementEnd then return .inr ()
    else
      passOver
      match ← current with
      | .failed _ _ _ _ => return .inr ()
      | _ => return .inl ()) ()

def endDeclaration (g : Grammar) : Parse Unit := do
  unless ← eatStatementEnd do
    complain (← complaintPlace) .expectedSemicolon
    skipStatement g

def atInOrOf : Parse Bool := do
  match ← token? with
  | some (.word "in") | some (.word "of") => return true
  | _ => return false

/-- A variable of a declaration and its initial value. A pattern needs one, and so does a constant
in strict code, except in the head of a loop over values. -/
def declarator (g : Grammar) (kind : VarKind) (inHead : Bool) : Parse Pattern := do
  let start ← place
  let name ← bindingTarget g
  if inHead && (← atInOrOf) then return name
  else if ← eat (.assign .assign) then return .defaulted name (← g.assignment)
  else
    if kind == .const && (← inContext (·.strict)) then complain start .constNeedsInit
    else
      match name with
      | .ident _ => pure ()
      | _ => complain start .patternNeedsInit
    return name

/-- The variables of a declaration, each with its place. A comma may not be the last of it;
`wordStop` is where its word stops. -/
def declarators (g : Grammar) (kind : VarKind) (inHead : Bool) (wordStop : Option Nat) :
    Parse (List (Nat × Pattern)) :=
  iterate (fun (s : List (Nat × Pattern)) => do
    if (← atEnd) || (← at? .semicolon) then
      let start ←
        match wordStop, s with
        | some stop, [] => pure stop
        | _, _ => previousPlace
      complain start .trailingComma
      return .inr s.reverse
    else
      let start ← place
      let d ← withContext
        (fun c => { c with includeIn := c.includeIn || kind != .var || !inHead })
        (declarator g kind inHead)
      let s := (start, d) :: s
      if ← eat .comma then return .inl s else return .inr s.reverse) []

def varKind? : Parse (Option VarKind) := do
  match ← token? with
  | some (.word "var") => return some .var
  | some (.word "let") => return some .«let»
  | some (.word "const") => return some .const
  | _ => return none

def atLetDeclaration : Parse Bool := do
  if ← atWord "let" then
    match ← aheadToken? with
    | some .openBrace | some .openBracket => return true
    | some (.word name) =>
      return name == "let" || name == "yield" || name == "await" || !keywords.contains name
    | _ => return false
  else return false

def varStatement (g : Grammar) (kind : VarKind) : Parse Stmt := do
  advance
  let ds ← declarators g kind false (some (← previousStop))
  endDeclaration g
  return .var kind (ds.map Prod.snd)

def atUsingDeclaration : Parse Bool := do
  if ← atWord "using" then
    if ← newlineAhead then return false
    else
      match ← aheadToken? with
      | some (.word name) => return !(← getState).context.reserves name
      | _ => return false
  else return false

def usingStatement (g : Grammar) (start : Nat) : Parse Stmt := do
  advance
  let ds ← declarators g .var false none
  complain start .usingNotEnabled
  for (_, d) in ds do
    match d with
    | .ident _ => complain start .usingNeedsInit
    | .defaulted (.ident _) _ => pure ()
    | .defaulted _ _ => complain start .usingNeedsIdent
    | _ =>
      complain start .usingNeedsIdent
      complain start .usingNeedsInit
  endDeclaration g
  return .var .var (ds.map Prod.snd)

def forTestAndUpdate (g : Grammar) : Parse (Option Expr × Option Expr) := do
  let test ←
    if ← eat .semicolon then pure none
    else do
      let test ← fullExpression g
      expect .semicolon
      pure (some test)
  let update ← if ← at? .closeParen then pure none else pure (some (← fullExpression g))
  return (test, update)

inductive ForKind where
  | loop (init : ForHead) (test update : Option Expr)
  | overKeys (head : ForHead) (object : Expr)
  | overValues (head : ForHead) (object : Expr)

def forEachHead (g : Grammar) (head : ForHead) : Parse ForKind := do
  let isOf ← atWord "of"
  advance
  if isOf then return .overValues head (← withIn true g.assignment)
  else return .overKeys head (← fullExpression g)

/-- Complain about the declaration in the head of a loop over keys or values: it has one variable,
and no initial value unless it goes over keys in code that is not strict. -/
def checkForDeclarators (ds : List (Nat × Pattern)) : Parse Unit := do
  match ds with
  | [(start, .defaulted _ _)] =>
    let strict ← inContext (·.strict)
    if strict || (← atWord "of") then complain start .initInForHead
  | _ => for (start, _) in ds.drop 1 do complain start .tooManyInForHead

def forHead (g : Grammar) : Parse ForKind := do
  let declares ← do
    match ← varKind? with
    | some .«let» => atLetDeclaration
    | some _ => pure true
    | none => pure false
  if declares then
    let kind := (← varKind?).getD .var
    advance
    let ds ← declarators g kind true (some (← previousStop))
    let head := ForHead.var kind (ds.map Prod.snd)
    if ← atInOrOf then
      checkForDeclarators ds
      forEachHead g head
    else
      expect .semicolon
      let (test, update) ← forTestAndUpdate g
      return .loop head test update
  else if ← eat .semicolon then
    let (test, update) ← forTestAndUpdate g
    return .loop .nothing test update
  else
    let start ← place
    let init ← withIn false (expression g)
    if ← atInOrOf then forEachHead g (.pattern (← coverTarget start init))
    else
      expect .semicolon
      let (test, update) ← forTestAndUpdate g
      return .loop (.pattern (.expr init)) test update

def forStatement (g : Grammar) : Parse Stmt := do
  advance
  let awaitPlace ← place
  let isAwait ← eatWord "await"
  expect .openParen
  let kind ←
    withContext (fun c => { c with forHead := true, forAwaitHead := isAwait }) (forHead g)
  expect .closeParen
  let body ← loopBody g
  match kind with
  | .overValues head object => return .forOf isAwait head object body
  | .loop init test update =>
    if isAwait then failAt awaitPlace .forAwaitNotOf
    return .for init test update body
  | .overKeys head object =>
    if isAwait then failAt awaitPlace .forAwaitNotOf
    return .forIn head object body

def ifStatement (g : Grammar) : Parse Stmt := do
  advance
  let test ← parenthesized g
  let consequent ← g.statement false
  if ← eatWord "else" then return .ifElse test consequent (some (← g.statement false))
  else return .ifElse test consequent none

def jumpStatement (isBreak : Bool) : Parse Stmt := do
  let start ← place
  advance
  let label ←
    if ← eatStatementEnd then pure none
    else do
      let c := (← getState).context
      let name ← identifier (!c.inGenerator) (!c.inAsync)
      expectStatementEnd
      pure (some name)
  let s ← getState
  let unknown := label.any fun name => !s.labels.contains name
  if isBreak then
    if unknown then complain start .breakToUnknown
    else if !s.context.breakAllowed then complain start .breakOutside
    return .break label
  else
    if !s.context.continueAllowed then complain start .continueOutside
    else if unknown then complain start .continueToUnknown
    return .continue label

def returnStatement (g : Grammar) : Parse Stmt := do
  let start ← place
  andAlways
    (do
      advance
      let value ← if ← atStatementEnd then pure none else pure (some (← fullExpression g))
      expectStatementEnd
      return Stmt.return value)
    (do unless ← inContext (·.inFunction) do complain start .returnOutside)

structure SwitchState where
  cases : List SwitchCase := []
  hasDefault : Bool := false

def clauseBody (g : Grammar) : Parse (List Stmt) :=
  iterate (fun (body : List Stmt) => do
    match ← current with
    | .ended => return .inr body.reverse
    | .token l =>
      if [.word "case", .word "default", .closeBrace].contains l.token then
        return .inr body.reverse
      else return .inl ((← g.statement true) :: body)
    | _ => return .inl ((← g.statement true) :: body)) []

def switchStatement (g : Grammar) : Parse Stmt := do
  advance
  let discriminant ← parenthesized g
  expect .openBrace
  let cases ← withContext (fun c => { c with breakAllowed := true }) do
    iterate (fun (s : SwitchState) => do
      if ← eatWord "case" then
        let test ← fullExpression g
        expect .colon
        return .inl { s with cases := .mk (some test) (← clauseBody g) :: s.cases }
      else if ← eatWord "default" then
        if s.hasDefault then fail .multipleDefaults
        expect .colon
        return .inl ⟨.mk none (← clauseBody g) :: s.cases, true⟩
      else return .inr s.cases.reverse) {}
  expect .closeBrace
  return .switch discriminant cases

def throwStatement (g : Grammar) : Parse Stmt := do
  advance
  if ← afterNewline then fail .lineBreakInThrow
  let value ← fullExpression g
  expectStatementEnd
  return .throw value

def catchClause (g : Grammar) : Parse (Pattern × Option Stmt) := do
  if ← eatWord "catch" then
    let param ←
      if ← eat .openParen then
        let param ← bindingTarget g
        expect .closeParen
        pure param
      else pure .hole
    return (param, some (.block (← plainBlock g)))
  else return (.hole, none)

def finallyClause (g : Grammar) : Parse (Option Stmt) := do
  if ← eatWord "finally" then return some (.block (← plainBlock g)) else return none

def tryStatement (g : Grammar) : Parse Stmt := do
  advance
  let body ← plainBlock g
  let handlerPlace ← place
  let (param, handler) ← catchClause g
  let finalizer ← finallyClause g
  if handler.isNone && finalizer.isNone then complain handlerPlace .expectedSemicolon
  return .try body param handler finalizer

def strayClauses (g : Grammar) : Parse Stmt := do
  complain (← complaintPlace) .expectedSemicolon
  ignoring (catchClause g)
  ignoring (finallyClause g)
  return .expr .invalid

def withStatement (g : Grammar) : Parse Stmt := do
  complainStrict (← complaintPlace) .withInStrict
  advance
  let object ← parenthesized g
  let body ← withContext (fun c => { c with inFunction := true }) (g.statement false)
  return .with object body

def whileStatement (g : Grammar) : Parse Stmt := do
  advance
  let test ← parenthesized g
  return .while test (← loopBody g)

def doStatement (g : Grammar) : Parse Stmt := do
  advance
  let body ← loopBody g
  expectWord "while"
  let test ← parenthesized g
  let _ ← eatStatementEnd
  return .doWhile body test

def labelledStatement (g : Grammar) (start : Nat) (label : String) : Parse Stmt := do
  let labels := (← getState).labels
  edit fun s => { s with labels := label :: labels }
  let body ← withContext (fun c => { c with breakAllowed := true }) do
    if ← atWord "function" then
      let functionPlace ← place
      let f ← functionFromWord g false false true
      if ← inContext (·.strict) then complain functionPlace .labelledFunction
      if f matches .mk _ _ true _ _ then complain functionPlace .labelledGenerator
      return .function f
    else g.statement false
  for other in labels do
    if other == label then complain start (.duplicateLabel label)
  edit fun s => { s with labels := labels }
  return .labelled label body

def expressionStatement (g : Grammar) : Parse Stmt := do
  let start ← place
  let e ← fullExpression g
  if let .ident name := e then
    if ← eat .colon then return ← labelledStatement g start name
  if ← eatStatementEnd then return .expr e
  else
    demandToken
    if let some (.binary _) := ← token? then
      complain (← complaintPlace) .expectedSemicolon
      return .expr (← g.operators 0 e start)
    else fail .expectedSemicolonAfterExpr

def importStatement (g : Grammar) : Parse Stmt := do
  if ← atWord "import" then
    match ← aheadToken? with
    | some .openParen | some .dot =>
      let e ← expression g
      let _ ← eatStatementEnd
      return .expr e
    | _ => fail .notInModule
  else fail .notInModule

def checkDeclaration (allowed : Bool) : Parse Unit := do
  unless allowed do complain (← complaintPlace) .declarationNotAllowed

/-- An expression that starts with `await` at a place, as a statement of its own, after that word.
It goes on with operators only, and its semicolon may be left out. -/
def awaitStatement (g : Grammar) (start : Nat) : Parse Stmt := do
  let e ← awaitOperand g start
  let e ← withIn true (g.operators 0 e start)
  let _ ← eatStatementEnd
  return .expr e

def statementAtToken (g : Grammar) (includeDecl : Bool) : Parse Stmt := do
  match ← demand with
  | .openBrace => return .block (← plainBlock g)
  | .semicolon =>
    advance
    return .empty
  | .word word =>
    match word with
    | "break" => jumpStatement true
    | "continue" => jumpStatement false
    | "debugger" =>
      advance
      expectStatementEnd
      return .debugger
    | "do" => doStatement g
    | "for" => forStatement g
    | "function" =>
      checkDeclaration includeDecl
      return .function (← functionFromWord g false false true)
    | "class" =>
      checkDeclaration includeDecl
      return .class (← classFromWord g (leftSide g) true)
    | "if" => ifStatement g
    | "return" => returnStatement g
    | "switch" => switchStatement g
    | "throw" => throwStatement g
    | "catch" | "finally" => strayClauses g
    | "try" => tryStatement g
    | "with" => withStatement g
    | "while" => whileStatement g
    | "var" => varStatement g .var
    | "const" => if includeDecl then varStatement g .const else expressionStatement g
    | "let" =>
      if includeDecl then
        if ← atLetDeclaration then return ← varStatement g .«let»
      expressionStatement g
    | "using" =>
      if includeDecl then
        if ← atUsingDeclaration then return ← usingStatement g (← place)
      expressionStatement g
    | "async" =>
      if ← atAsyncFunction then return .function (← functionFromWord g true false true)
      else expressionStatement g
    | "await" =>
      if includeDecl then
        if (← aheadToken?) == some (.word "using") then
          let start ← place
          advance
          if ← atUsingDeclaration then return ← usingStatement g start
          return ← awaitStatement g start
      expressionStatement g
    | _ => expressionStatement g
  | _ => expressionStatement g

def statementOrDecl (g : Grammar) (includeDecl : Bool) : Parse Stmt := do
  match ← token? with
  | some (.word "import") | some (.word "export") => importStatement g
  | _ => statementAtToken g includeDecl

end Enclose.Script.Parser
