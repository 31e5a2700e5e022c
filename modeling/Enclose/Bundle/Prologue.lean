import Enclose.Bundle.Lowered

/-!
What stands before the statements of a module: the helpers that it needs, the object that holds its
exports, and the getters of that object.
-/

namespace Enclose.Bundle

open Script

def plainParams (names : List String) : List Pattern := names.map .ident

def definePropertyHelper : Stmt :=
  .declareVar "__defProp" (.dot (.ident "Object") "defineProperty")

def defineGetter (key getter : Expr) : Stmt :=
  .call (.ident "__defProp")
    [.ident "target", key,
      .objectOf [(.ident "get", getter), (.ident "enumerable", .bool true)]]

def exportHelper : Stmt :=
  .declareVar "__export" <| .arrowBlock false (plainParams ["target", "all"])
    [ .forIn (.var .var [.ident "name"]) (.ident "all")
        (defineGetter (.ident "name") (.member (.ident "all") (.computed (.ident "name")))) ]

/-- Declares the helper that copies the exports of a module, apart from the default export and from
those that are there. -/
def reExportHelper : Stmt :=
  let hasOwnProperty := Expr.dot (.dot (.ident "Object") "prototype") "hasOwnProperty"
  .declareVar "__reExport" <| .arrowBlock false (plainParams ["target", "mod"])
    [ .forIn (.var .const [.ident "key"]) (.ident "mod") <|
        .ifElse
          (.binary .logicalAnd (.binary .strictNotEqual (.ident "key") (.text "default"))
            (.unary .not (.callWith (.dot hasOwnProperty "call") [.ident "target", .ident "key"])))
          (defineGetter (.ident "key")
            (.arrow false [] (.member (.ident "mod") (.computed (.ident "key")))))
          none,
      .return (some (.ident "target")) ]

def importDefaultHelper : Stmt :=
  .declareVar importDefaultName <| .arrow false (plainParams ["mod"]) <|
    .conditional (.binary .logicalAnd (.ident "mod") (.dot (.ident "mod") "__esModule"))
      (.dot (.ident "mod") "default") (.ident "mod")

def helpers (l : Lowered) : List Stmt :=
  (if l.hasExports then [definePropertyHelper] else []) ++
    (if l.exports.isEmpty then [] else [exportHelper]) ++
    (if l.reExports then [reExportHelper] else []) ++
    if l.importDefault then [importDefaultHelper] else []

def getterTable (exports : List Export) : Expr :=
  .objectOf (exports.map fun e => (.string (.ofText e.name), .arrow false [] e.getter.expr))

def exportsObject (l : Lowered) : List Stmt :=
  if l.hasExports then
    .declareVar exportsName (.object []) ::
      .call (.ident "__defProp")
        [.ident exportsName, .text "__esModule", .objectOf [(.ident "value", .bool true)]] ::
      if l.exports.isEmpty then []
      else [.call (.ident "__export") [.ident exportsName, getterTable l.exports]]
  else []

def prologue (l : Lowered) : List Stmt := helpers l ++ exportsObject l

def whereExports (l : Lowered) (s : Stmt) : List Stmt := if l.hasExports then [s] else []

end Enclose.Bundle
