import Enclose.Script.Tree
import Enclose.Text.Json

/-!
Short ways to write the trees of generated code.
-/

namespace Enclose.Script

def StringLit.ofText (text : String) : StringLit := ⟨text, Text.json text⟩

def ModuleName.key : ModuleName → PropertyKey
  | ident name => .ident name
  | string lit => .string (.ofText lit.value)

namespace Expr

def text (value : String) : Expr := .string (.ofText value)

def dot (object : Expr) (name : String) : Expr := .member object (.ident name)

def callWith (callee : Expr) (args : List Expr) : Expr := .call callee (args.map (.item 0))

def objectOf (properties : List (PropertyKey × Expr)) : Expr :=
  .object (properties.map fun (key, value) => .keyed 0 key 0 value)

def assignTo (target value : Expr) : Expr :=
  .assign .assign (match target with | .ident name => .ident name | target => .expr target) value

end Expr

namespace Stmt

def declare (kind : VarKind) (pattern : Pattern) (value : Expr) : Stmt :=
  .var kind [.defaulted pattern value]

def declareVar (name : String) (value : Expr) : Stmt := declare .var (.ident name) value

def declareConst (name : String) (value : Expr) : Stmt := declare .const (.ident name) value

def call (callee : Expr) (args : List Expr) : Stmt := .expr (.callWith callee args)

end Stmt

end Enclose.Script
