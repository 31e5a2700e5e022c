import Enclose.Bundle.Template

/-!
The call that encloses a module, and the path that receives its exports.
-/

namespace Enclose.Bundle

open Script

def unbindableWords : List String :=
  alwaysReserved ++ strictReserved ++
    ["let", "static", "yield", "await", "eval", "arguments"]

def isPlainPath (parts : List String) : Bool :=
  parts.all (isWord ·.toList) &&
    parts.head?.all fun first => !unbindableWords.contains first

def nameParts (globalName : String) : List String :=
  if globalName.isEmpty then [] else (Identifier.pathParts globalName.toList).map String.ofList

def returnExports (l : Lowered) : List Stmt :=
  whereExports l (.return (some (.ident exportsName)))

def enclosedBody (l : Lowered) : List Stmt := prologue l ++ markerStmt :: returnExports l

def callOf (body : List Stmt) : Expr := .callWith (.paren (.arrowBlock false [] body)) []

def orNewObject (target : Expr) : Expr := .binary .logicalOr target (.object [])

def assignRest (value : Expr) (target : Expr) : List String → List Stmt
  | [] => [.expr (.assignTo target value)]
  | part :: rest =>
    .expr (.assignTo target (orNewObject target)) :: assignRest value (.dot target part) rest

def assignPath (value : Expr) : List String → List Stmt
  | [] => [.expr value]
  | [name] => [.declareVar name value]
  | name :: part :: rest =>
    .declareVar name (orNewObject (.ident name)) :: assignRest value (.dot (.ident name) part) rest

def tableProblem? : List Export → Option Cause
  | [] => none
  | e :: others =>
    (e.getter.problem? (if others.isEmpty then "\x7d" else ",")).or (tableProblem? others)

def brokenGetter? (l : Lowered) : Option Failure :=
  (tableProblem? l.exports).map fun cause =>
    .internal ("generated code failed to parse: " ++ cause.message)

def withGetters (l : Lowered) (stmts : List Stmt) : Except Failure (List Stmt) :=
  match brokenGetter? l with
  | some failure => .error failure
  | none => .ok stmts

def wrapper (path : List String) (l : Lowered) : Except Failure (List ModuleItem) :=
  if isPlainPath path then do
    return (← withGetters l (assignPath (callOf (enclosedBody l)) path)).map .stmt
  else Template.read path l

def enclose (globalName : String) (l : Lowered) : Except Failure (List ModuleItem) := do
  fillLast (l.imports ++ l.body) (← wrapper (nameParts globalName) l)

def assignExports (l : Lowered) : List Stmt :=
  whereExports l (.expr (.assignTo (.dot (.ident "module") "exports") (.ident exportsName)))

def commonModule (l : Lowered) : Except Failure (List ModuleItem) := do
  let stmts ← withGetters l (prologue l ++ assignExports l ++ [markerStmt])
  return (← fillMarker (l.imports ++ l.body) stmts).map .stmt

end Enclose.Bundle
