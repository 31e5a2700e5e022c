import Enclose.Failure
import Enclose.Script.Tree

/-!
The place of the statements of a module in the code that is put around them.

The code is made with a marker in that place. The marker is looked for in the function that the code
calls, and the statements of the module take its place.
-/

namespace Enclose.Bundle

open Script

def marker : String := "__BODY__"

def markerStmt : Stmt := .expr (.ident marker)

def unexpectedShape (part : String) : Failure :=
  .internal ("unexpected " ++ part ++ " template shape")

def fillMarker (body : List Stmt) : List Stmt → Except Failure (List Stmt)
  | [] => .error (unexpectedShape "body marker")
  | s :: rest =>
    match s with
    | .expr (.ident name) =>
      if name == marker then .ok (body ++ rest) else do return s :: (← fillMarker body rest)
    | _ => do return s :: (← fillMarker body rest)

def fillCall (body : List Stmt) : Expr → Except Failure Expr
  | .call (.paren (.arrowBlock isAsync params stmts)) args => do
    return .call (.paren (.arrowBlock isAsync params (← fillMarker body stmts))) args
  | _ => .error (unexpectedShape "iife wrapper")

def fillItem (body : List Stmt) : ModuleItem → Except Failure ModuleItem
  | .stmt (.var kind (.defaulted pattern value :: declarators)) => do
    return .stmt (.var kind (.defaulted pattern (← fillCall body value) :: declarators))
  | .stmt (.expr (.assign op target value)) => do
    return .stmt (.expr (.assign op target (← fillCall body value)))
  | .stmt (.expr value) => do return .stmt (.expr (← fillCall body value))
  | _ => .error (unexpectedShape "iife wrapper")

/-- Put statements into the function whose result the last item takes. -/
def fillLast (body : List Stmt) : List ModuleItem → Except Failure (List ModuleItem)
  | [] => .error (unexpectedShape "iife wrapper")
  | [item] => do return [← fillItem body item]
  | item :: rest => do return item :: (← fillLast body rest)

end Enclose.Bundle
