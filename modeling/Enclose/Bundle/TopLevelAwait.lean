import Enclose.Script.Tree

/-!
Whether a program waits outside of every function. Functions, methods of any kind in a class, and
methods of an object literal are not entered; accessors of an object literal are.
-/

namespace Enclose.Bundle

open Script

mutual

def awaitsExpr : Expr → Bool
  | .this | .super | .ident _ | .null | .bool _ | .number _ | .bigint _ | .string _ => false
  | .regex _ _ => false
  | .array elements => awaitsElements elements
  | .object properties => awaitsProperties properties
  | .function _ | .arrow _ _ _ | .arrowBlock _ _ _ => false
  | .class c => awaitsClass c
  | .template _ values => awaitsExprs values
  | .taggedTemplate tag _ values => awaitsExpr tag || awaitsExprs values
  | .unary _ operand => awaitsExpr operand
  | .update _ _ operand => awaitsExpr operand
  | .binary _ left right => awaitsExpr left || awaitsExpr right
  | .assign _ target value => awaitsPattern target || awaitsExpr value
  | .conditional test consequent alternate =>
    awaitsExpr test || awaitsExpr consequent || awaitsExpr alternate
  | .call callee args => awaitsExpr callee || awaitsElements args
  | .new callee args => awaitsExpr callee || awaitsElements args
  | .newBare callee => awaitsExpr callee
  | .importCall _ args => awaitsElements args
  | .member object key => awaitsExpr object || awaitsKey key
  | .optionalMember _ object key => awaitsExpr object || awaitsKey key
  | .optionalCall _ callee args => awaitsExpr callee || awaitsElements args
  | .sequence exprs => awaitsExprs exprs
  | .paren inner => awaitsExpr inner
  | .yield _ operand => awaitsExpr? operand
  | .await _ => true
  | .newTarget | .importMeta | .privateName _ | .invalid => false

def awaitsExpr? : Option Expr → Bool
  | none => false
  | some value => awaitsExpr value

def awaitsExprs : List Expr → Bool
  | [] => false
  | value :: rest => awaitsExpr value || awaitsExprs rest

def awaitsElement : Element → Bool
  | .hole => false
  | .item _ value => awaitsExpr value
  | .spread _ _ value => awaitsExpr value

def awaitsElements : List Element → Bool
  | [] => false
  | element :: rest => awaitsElement element || awaitsElements rest

def awaitsKey : PropertyKey → Bool
  | .computed key => awaitsExpr key
  | _ => false

def awaitsProperty : Property → Bool
  | .shorthand _ _ => false
  | .keyed _ key _ value => awaitsKey key || awaitsExpr value
  | .defaulted _ _ value => awaitsExpr value
  | .getter _ key f => awaitsKey key || awaitsAccessor f
  | .setter _ key f => awaitsKey key || awaitsAccessor f
  | .method _ key _ => awaitsKey key
  | .spread _ _ value => awaitsExpr value

def awaitsProperties : List Property → Bool
  | [] => false
  | property :: rest => awaitsProperty property || awaitsProperties rest

def awaitsAccessor : Function → Bool
  | .mk _ _ _ params body => awaitsPatterns params || awaitsStmts body

def awaitsClass : Script.Class → Bool
  | .mk _ heritage members => awaitsExpr? heritage || awaitsMembers members

def awaitsMember : ClassMember → Bool
  | .constructor _ _ => false
  | .method _ key _ => awaitsKey key
  | .getter _ key _ => awaitsKey key
  | .setter _ key _ => awaitsKey key
  | .field _ key value => awaitsKey key || awaitsExpr? value
  | .staticBlock body => awaitsStmts body
  | .empty => false

def awaitsMembers : List ClassMember → Bool
  | [] => false
  | m :: rest => awaitsMember m || awaitsMembers rest

def awaitsPattern : Pattern → Bool
  | .ident _ | .hole | .invalid => false
  | .array elements => awaitsPatterns elements
  | .object properties => awaitsPatterns properties
  | .keyed key value => awaitsKey key || awaitsPattern value
  | .shorthand _ value => awaitsExpr? value
  | .rest inner => awaitsPattern inner
  | .defaulted inner value => awaitsPattern inner || awaitsExpr value
  | .expr target => awaitsExpr target

def awaitsPatterns : List Pattern → Bool
  | [] => false
  | pattern :: rest => awaitsPattern pattern || awaitsPatterns rest

def awaitsHead : ForHead → Bool
  | .nothing => false
  | .var _ declarators => awaitsPatterns declarators
  | .pattern target => awaitsPattern target

def awaitsCases : List SwitchCase → Bool
  | [] => false
  | .mk test body :: rest => awaitsExpr? test || awaitsStmts body || awaitsCases rest

def awaitsStmt : Stmt → Bool
  | .block body => awaitsStmts body
  | .empty | .debugger | .continue _ | .break _ | .function _ => false
  | .expr value => awaitsExpr value
  | .ifElse test consequent alternate =>
    awaitsExpr test || awaitsStmt consequent || awaitsStmt? alternate
  | .for init test update body =>
    awaitsHead init || awaitsExpr? test || awaitsExpr? update || awaitsStmt body
  | .forIn head object body => awaitsHead head || awaitsExpr object || awaitsStmt body
  | .forOf isAwait head object body =>
    isAwait || awaitsHead head || awaitsExpr object || awaitsStmt body
  | .while test body => awaitsExpr test || awaitsStmt body
  | .doWhile body test => awaitsStmt body || awaitsExpr test
  | .return value => awaitsExpr? value
  | .with object body => awaitsExpr object || awaitsStmt body
  | .switch discriminant cases => awaitsExpr discriminant || awaitsCases cases
  | .labelled _ body => awaitsStmt body
  | .throw value => awaitsExpr value
  | .try body param handler finalizer =>
    awaitsStmts body || awaitsPattern param || awaitsStmt? handler || awaitsStmt? finalizer
  | .var _ declarators => awaitsPatterns declarators
  | .class c => awaitsClass c

def awaitsStmt? : Option Stmt → Bool
  | none => false
  | some s => awaitsStmt s

def awaitsStmts : List Stmt → Bool
  | [] => false
  | s :: rest => awaitsStmt s || awaitsStmts rest

end

def awaitsItem : ModuleItem → Bool
  | .stmt s => awaitsStmt s
  | .exportDecl declaration => awaitsStmt declaration
  | .exportClass c => awaitsClass c
  | .exportDefault value => awaitsExpr value
  | .import _ _ _ | .exportNamed _ _ | .exportFunction _ | .exportAll _ => false

def hasTopLevelAwait : Program → Bool
  | .module m => m.items.any awaitsItem
  | .script s => awaitsStmts s.body

end Enclose.Bundle
