import Enclose.Script.Parser.Statement

/-!
Import and export declarations, and the other items of modules and scripts.
-/

namespace Enclose.Script.Parser

def moduleName : Parse ModuleName := do
  demandToken
  match ← token? with
  | some (.string lit) =>
    advance
    return .string lit
  | some (.word name) =>
    advance
    return .ident name
  | _ => unexpected "identifier or string"

def moduleSource : Parse StringLit := do
  match ← demand with
  | .string lit =>
    advance
    return lit
  | _ => unexpected "a string literal"

def fromClause : Parse StringLit := do
  expectWord "from"
  let source ← moduleSource
  demandToken
  expectStatementEnd
  return source

def importedBinding : Parse String :=
  withContext (fun c => { c with inAsync := false, inGenerator := false }) boundIdentifier

/-- An item of the list of an import. A name in it that is a string, or that is reserved, needs a
name to be bound to. -/
def importSpecifier : Parse ImportSpecifier := do
  let start ← place
  match ← moduleName with
  | .ident name =>
    if ← eatWord "as" then return .named (some (.ident name)) (← boundIdentifier)
    else if (← getState).context.reserves name then failAt start .reservedImport
    else return .named none name
  | .string lit =>
    if ← eatWord "as" then return .named (some (.string lit)) (← boundIdentifier)
    else failAt start (.importNameIsString lit.value)

def braced (item : Parse α) : Parse (List α) :=
  iterate (fun (items : List α) => do
    if (← atEnd) || (← at? .closeBrace) then
      expect .closeBrace
      return .inr items.reverse
    else
      let items := (← item) :: items
      unless ← at? .closeBrace do expect .comma
      return .inl items) []

def importPhase? : String → Option ImportPhase
  | "source" => some .source
  | "defer" => some .defer
  | _ => none

inductive ImportStart where
  | phase (p : ImportPhase)
  | binding (p : ImportPhase) (name : String)

def atSecondBinding : Parse Bool := do
  if !(← atIdent) then return false
  else if ← atWord "from" then return (← aheadToken?) == some (.word "from")
  else return true

def importStart : Parse ImportStart := do
  let name ← importedBinding
  match importPhase? name with
  | none => return .binding .evaluation name
  | some p =>
    if (← at? (.binary .multiply)) || (← at? .openBrace) then return .phase p
    else if ← atSecondBinding then return .binding p (← importedBinding)
    else return .binding .evaluation name

/-- What an import takes: everything under one name, or the items of a list. An early phase takes no
list, and the phase of the source text takes neither. -/
def importList (phase : ImportPhase) : Parse (List ImportSpecifier) := do
  if ← eatIf (phase != .source) (.binary .multiply) then
    expectWord "as"
    return [.namespace (← importedBinding)]
  else if ← eatIf (phase == .evaluation) .openBrace then braced importSpecifier
  else return []

def importDeclaration : Parse ModuleItem := do
  advance
  match ← demand with
  | .string lit =>
    advance
    expectStatementEnd
    return .import .evaluation [] lit
  | _ =>
    let start ← if ← atIdent then importStart else pure (.phase .evaluation)
    match start with
    | .binding p name =>
      unless ← atWord "from" do expect .comma
      let others ← importList p
      return .import p (.default name :: others) (← fromClause)
    | .phase p => return .import p (← importList p) (← fromClause)

def exportSpecifier : Parse (Nat × ExportSpecifier) := do
  let start ← place
  let original ← moduleName
  if ← eatWord "as" then return (start, .named original (some (← moduleName)))
  else return (start, .named original none)

def checkLocalExport (start : Nat) : ExportSpecifier → Parse Unit
  | .named (.ident name) _ => do
    if name == "package" || alwaysReserved.contains name then complain start (.exportNeedsFrom name)
  | .named (.string _) _ => complain start .exportNameIsString
  | .namespace _ => return ()

def exportList : Parse ModuleItem := do
  expect .openBrace
  let specifiers ← braced exportSpecifier
  if ← atWord "from" then
    return .exportNamed (specifiers.map Prod.snd) (some (← fromClause))
  else
    for (start, s) in specifiers do checkLocalExport start s
    let _ ← eatStatementEnd
    return .exportNamed (specifiers.map Prod.snd) none

def exportStar : Parse ModuleItem := do
  if ← eatWord "as" then
    let name ← moduleName
    return .exportNamed [.namespace name] (some (← fromClause))
  else return .exportAll (← fromClause)

def exportDefault (g : Grammar) : Parse ModuleItem := do
  if ← atWord "class" then return .exportClass (← classFromWord g (leftSide g) false)
  else if ← atAsyncFunction then return .exportFunction (← functionFromWord g true true false)
  else if ← atWord "function" then return .exportFunction (← functionFromWord g false true false)
  else
    let value ← withIn true g.assignment
    expectStatementEnd
    return .exportDefault value

def exportDeclaration (g : Grammar) : Parse ModuleItem := do
  advance
  match ← demand with
  | .binary .multiply =>
    advance
    exportStar
  | .word "default" =>
    advance
    exportDefault g
  | .word "class" => return .exportDecl (.class (← classFromWord g (leftSide g) true))
  | .word "function" => return .exportDecl (.function (← functionFromWord g false false true))
  | .word "var" => return .exportDecl (← varStatement g .var)
  | .word "const" => return .exportDecl (← varStatement g .const)
  | .word "let" =>
    if ← atLetDeclaration then return .exportDecl (← varStatement g .«let») else exportList
  | _ =>
    if ← atAsyncFunction then return .exportDecl (.function (← functionFromWord g true false true))
    else exportList

/-- A statement at the top level. One that starts with `await` goes on with operators only. -/
def topStatement (g : Grammar) : Parse Stmt := do
  if ← atWord "await" then
    let start ← place
    unless ← inContext (·.isModule) do complain start .awaitInScript
    let declares ← do
      if (← aheadToken?) == some (.word "using") then
        advance
        atUsingDeclaration
      else
        advance
        pure false
    if declares then usingStatement g start else awaitStatement g start
  else g.statement true

def atImportCall : Parse Bool := do
  if ← atWord "import" then
    match ← aheadToken? with
    | some .openParen | some .dot => return true
    | _ => return false
  else return false

def moduleItem (g : Grammar) : Parse ModuleItem := do
  if ← atImportCall then return .stmt (← importStatement g)
  else if ← atWord "import" then importDeclaration
  else if ← atWord "export" then exportDeclaration g
  else return .stmt (← topStatement g)

def scriptItem (g : Grammar) : Parse Stmt := do
  if (← atWord "import") || (← atWord "export") then importStatement g else topStatement g

/-- All items of a text. `'use strict'` as the first of them makes the text strict. -/
def items (item : Parse α) (isStrict : α → Bool) : Parse (List α) :=
  iterate (fun (s : List α) => do
    if ← atEnd then return .inr s.reverse
    else
      let a ← item
      if s.isEmpty && isStrict a then beStrict
      return .inl (a :: s)) []

end Enclose.Script.Parser
