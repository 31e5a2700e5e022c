import Enclose.Script.Operator

/-!
The tree of a program.

A literal may turn out to be a pattern once the text after it is read (`[a] = b`, `({ a }) => b`).
For the complaints about such a pattern, the parts of a literal keep the place where they start in
the text. Nothing else depends on these places.
-/

namespace Enclose.Script

structure StringLit where
  value : String
  raw : String
  deriving Repr, DecidableEq, Inhabited

structure Quasi where
  raw : String
  cooked : Option String
  deriving Repr, DecidableEq, Inhabited

mutual

inductive Expr where
  | this
  | super
  | ident (name : String)
  | null
  | bool (value : Bool)
  | number (raw : String)
  | bigint (raw : String)
  | string (lit : StringLit)
  | regex (pattern flags : String)
  | array (elements : List Element)
  | object (properties : List Property)
  | function (f : Function)
  | arrow (isAsync : Bool) (params : List Pattern) (value : Expr)
  | arrowBlock (isAsync : Bool) (params : List Pattern) (body : List Stmt)
  | class (c : Class)
  | template (quasis : List Quasi) (values : List Expr)
  | taggedTemplate (tag : Expr) (quasis : List Quasi) (values : List Expr)
  | unary (op : UnaryOp) (operand : Expr)
  | update (op : UpdateOp) (before : Bool) (operand : Expr)
  | binary (op : BinaryOp) (left right : Expr)
  | assign (op : AssignOp) (target : Pattern) (value : Expr)
  | conditional (test consequent alternate : Expr)
  | call (callee : Expr) (args : List Element)
  | new (callee : Expr) (args : List Element)
  | newBare (callee : Expr)
  | importCall (phase : Option String) (args : List Element)
  | member (object : Expr) (key : PropertyKey)
  /-- A member in an optional chain; `short` where its own link is `?.`. -/
  | optionalMember (short : Bool) (object : Expr) (key : PropertyKey)
  | optionalCall (short : Bool) (callee : Expr) (args : List Element)
  | sequence (exprs : List Expr)
  | paren (inner : Expr)
  | yield (delegate : Bool) (operand : Option Expr)
  | await (operand : Expr)
  | newTarget
  | importMeta
  | privateName (name : String)
  /-- Stands where no expression was found and a complaint was made. -/
  | invalid

inductive Element where
  | hole
  | item (place : Nat) (value : Expr)
  | spread (place valuePlace : Nat) (value : Expr)

inductive PropertyKey where
  | ident (name : String)
  | string (lit : StringLit)
  | number (raw : String)
  | bigint (raw : String)
  | privateName (name : String)
  | computed (key : Expr)

inductive Property where
  | shorthand (place : Nat) (name : String)
  | keyed (place : Nat) (key : PropertyKey) (valuePlace : Nat) (value : Expr)
  /-- A name with a default, which only a pattern may have. -/
  | defaulted (place : Nat) (name : String) (value : Expr)
  | getter (place : Nat) (key : PropertyKey) (f : Function)
  | setter (place : Nat) (key : PropertyKey) (f : Function)
  | method (place : Nat) (key : PropertyKey) (f : Function)
  | spread (place valuePlace : Nat) (value : Expr)

inductive Function where
  | mk (name : Option String) (isAsync isGenerator : Bool) (params : List Pattern)
      (body : List Stmt)

inductive Class where
  | mk (name : Option String) (heritage : Option Expr) (members : List ClassMember)

inductive ClassMember where
  | constructor (params : List Pattern) (body : List Stmt)
  | method (isStatic : Bool) (key : PropertyKey) (f : Function)
  | getter (isStatic : Bool) (key : PropertyKey) (f : Function)
  | setter (isStatic : Bool) (key : PropertyKey) (f : Function)
  | field (isStatic : Bool) (key : PropertyKey) (value : Option Expr)
  | staticBlock (body : List Stmt)
  | empty

/-- What a declaration, a parameter or an assignment gives values to. In a declaration, a pattern
with its initial value is a `defaulted` pattern. -/
inductive Pattern where
  | ident (name : String)
  | array (elements : List Pattern)
  | object (properties : List Pattern)
  | hole
  | keyed (key : PropertyKey) (value : Pattern)
  | shorthand (name : String) (value : Option Expr)
  | rest (inner : Pattern)
  | defaulted (inner : Pattern) (value : Expr)
  | expr (target : Expr)
  | invalid

inductive Stmt where
  | block (body : List Stmt)
  | empty
  | debugger
  | expr (value : Expr)
  | ifElse (test : Expr) (consequent : Stmt) (alternate : Option Stmt)
  | for (init : ForHead) (test update : Option Expr) (body : Stmt)
  | forIn (head : ForHead) (object : Expr) (body : Stmt)
  | forOf (isAwait : Bool) (head : ForHead) (object : Expr) (body : Stmt)
  | while (test : Expr) (body : Stmt)
  | doWhile (body : Stmt) (test : Expr)
  | continue (label : Option String)
  | break (label : Option String)
  | return (value : Option Expr)
  | with (object : Expr) (body : Stmt)
  | switch (discriminant : Expr) (cases : List SwitchCase)
  | labelled (label : String) (body : Stmt)
  | throw (value : Expr)
  /-- A block, its handler with the pattern for what was thrown (`hole` without one), and the block
  that is always run. The latter two are blocks. -/
  | try (body : List Stmt) (param : Pattern) (handler finalizer : Option Stmt)
  | var (kind : VarKind) (declarators : List Pattern)
  | function (f : Function)
  | class (c : Class)

inductive ForHead where
  | nothing
  | var (kind : VarKind) (declarators : List Pattern)
  | pattern (target : Pattern)

/-- A clause of a `switch` statement; `default` where it has no test. -/
inductive SwitchCase where
  | mk (test : Option Expr) (body : List Stmt)

end

instance : Inhabited Expr := ⟨.invalid⟩
instance : Inhabited Pattern := ⟨.invalid⟩
instance : Inhabited Stmt := ⟨.empty⟩

inductive ModuleName where
  | ident (name : String)
  | string (lit : StringLit)
  deriving Repr, DecidableEq, Inhabited

def ModuleName.text : ModuleName → String
  | ident name => name
  | string lit => lit.value

def ModuleName.isDefault (name : ModuleName) : Bool := name.text == "default"

inductive ImportSpecifier where
  | default (binding : String)
  | namespace (binding : String)
  /-- A named import; `imported` is absent where it has the name of the binding. -/
  | named (imported : Option ModuleName) (binding : String)
  deriving Repr, DecidableEq, Inhabited

def ImportSpecifier.isDefault : ImportSpecifier → Bool
  | .default _ => true
  | .namespace _ => false
  | .named imported _ => imported.any (·.isDefault)

inductive ExportSpecifier where
  | namespace (exported : ModuleName)
  /-- A named export; `exported` is absent where it has the original name. -/
  | named (original : ModuleName) (exported : Option ModuleName)
  deriving Repr, DecidableEq, Inhabited

inductive ImportPhase where
  | evaluation
  | source
  | defer
  deriving Repr, DecidableEq, Inhabited

inductive ModuleItem where
  | stmt (s : Stmt)
  | import (phase : ImportPhase) (specifiers : List ImportSpecifier) (source : StringLit)
  | exportDecl (declaration : Stmt)
  | exportNamed (specifiers : List ExportSpecifier) (source : Option StringLit)
  | exportFunction (f : Function)
  | exportClass (c : Class)
  | exportDefault (value : Expr)
  | exportAll (source : StringLit)

structure Module where
  hashbang : Option String := none
  items : List ModuleItem

structure ScriptText where
  hashbang : Option String := none
  body : List Stmt

inductive Program where
  | module (m : Module)
  | script (s : ScriptText)

end Enclose.Script
