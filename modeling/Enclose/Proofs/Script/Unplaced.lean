import Enclose.Script.Build

/-!
# Trees without places

The parts of a literal keep the places where they stand in the text. A tree that is put together
without a text has the place zero everywhere.
-/

namespace Enclose.Script

mutual

def Expr.unplaced : Expr → Expr
  | .array elements => .array (unplacedElements elements)
  | .object properties => .object (unplacedProperties properties)
  | .function f => .function f.unplaced
  | .arrow isAsync params value => .arrow isAsync (unplacedPatterns params) value.unplaced
  | .arrowBlock isAsync params body =>
    .arrowBlock isAsync (unplacedPatterns params) (unplacedStmts body)
  | .class c => .class c.unplaced
  | .template quasis values => .template quasis (unplacedExprs values)
  | .taggedTemplate tag quasis values => .taggedTemplate tag.unplaced quasis (unplacedExprs values)
  | .unary op operand => .unary op operand.unplaced
  | .update op before operand => .update op before operand.unplaced
  | .binary op left right => .binary op left.unplaced right.unplaced
  | .assign op target value => .assign op target.unplaced value.unplaced
  | .conditional test consequent alternate =>
    .conditional test.unplaced consequent.unplaced alternate.unplaced
  | .call callee args => .call callee.unplaced (unplacedElements args)
  | .new callee args => .new callee.unplaced (unplacedElements args)
  | .newBare callee => .newBare callee.unplaced
  | .importCall phase args => .importCall phase (unplacedElements args)
  | .member object key => .member object.unplaced key.unplaced
  | .optionalMember short object key => .optionalMember short object.unplaced key.unplaced
  | .optionalCall short callee args => .optionalCall short callee.unplaced (unplacedElements args)
  | .sequence exprs => .sequence (unplacedExprs exprs)
  | .paren inner => .paren inner.unplaced
  | .yield delegate operand => .yield delegate (unplacedExpr? operand)
  | .await operand => .await operand.unplaced
  | .this => .this
  | .super => .super
  | .ident name => .ident name
  | .null => .null
  | .bool value => .bool value
  | .number raw => .number raw
  | .bigint raw => .bigint raw
  | .string lit => .string lit
  | .regex pattern flags => .regex pattern flags
  | .newTarget => .newTarget
  | .importMeta => .importMeta
  | .privateName name => .privateName name
  | .invalid => .invalid

def unplacedExpr? : Option Expr → Option Expr
  | none => none
  | some value => some value.unplaced

def unplacedExprs : List Expr → List Expr
  | [] => []
  | value :: rest => value.unplaced :: unplacedExprs rest

def Element.unplaced : Element → Element
  | .hole => .hole
  | .item _ value => .item 0 value.unplaced
  | .spread _ _ value => .spread 0 0 value.unplaced

def unplacedElements : List Element → List Element
  | [] => []
  | element :: rest => element.unplaced :: unplacedElements rest

def PropertyKey.unplaced : PropertyKey → PropertyKey
  | .computed key => .computed key.unplaced
  | .ident name => .ident name
  | .string lit => .string lit
  | .number raw => .number raw
  | .bigint raw => .bigint raw
  | .privateName name => .privateName name

def Property.unplaced : Property → Property
  | .shorthand _ name => .shorthand 0 name
  | .keyed _ key _ value => .keyed 0 key.unplaced 0 value.unplaced
  | .defaulted _ name value => .defaulted 0 name value.unplaced
  | .getter _ key f => .getter 0 key.unplaced f.unplaced
  | .setter _ key f => .setter 0 key.unplaced f.unplaced
  | .method _ key f => .method 0 key.unplaced f.unplaced
  | .spread _ _ value => .spread 0 0 value.unplaced

def unplacedProperties : List Property → List Property
  | [] => []
  | property :: rest => property.unplaced :: unplacedProperties rest

def Function.unplaced : Function → Function
  | .mk name isAsync isGenerator params body =>
    .mk name isAsync isGenerator (unplacedPatterns params) (unplacedStmts body)

def Class.unplaced : Class → Class
  | .mk name heritage members => .mk name (unplacedExpr? heritage) (unplacedMembers members)

def ClassMember.unplaced : ClassMember → ClassMember
  | .constructor params body => .constructor (unplacedPatterns params) (unplacedStmts body)
  | .method isStatic key f => .method isStatic key.unplaced f.unplaced
  | .getter isStatic key f => .getter isStatic key.unplaced f.unplaced
  | .setter isStatic key f => .setter isStatic key.unplaced f.unplaced
  | .field isStatic key value => .field isStatic key.unplaced (unplacedExpr? value)
  | .staticBlock body => .staticBlock (unplacedStmts body)
  | .empty => .empty

def unplacedMembers : List ClassMember → List ClassMember
  | [] => []
  | member :: rest => member.unplaced :: unplacedMembers rest

def Pattern.unplaced : Pattern → Pattern
  | .array elements => .array (unplacedPatterns elements)
  | .object properties => .object (unplacedPatterns properties)
  | .keyed key value => .keyed key.unplaced value.unplaced
  | .shorthand name value => .shorthand name (unplacedExpr? value)
  | .rest inner => .rest inner.unplaced
  | .defaulted inner value => .defaulted inner.unplaced value.unplaced
  | .expr target => .expr target.unplaced
  | .ident name => .ident name
  | .hole => .hole
  | .invalid => .invalid

def unplacedPatterns : List Pattern → List Pattern
  | [] => []
  | pattern :: rest => pattern.unplaced :: unplacedPatterns rest

def Stmt.unplaced : Stmt → Stmt
  | .block body => .block (unplacedStmts body)
  | .expr value => .expr value.unplaced
  | .ifElse test consequent alternate =>
    .ifElse test.unplaced consequent.unplaced (unplacedStmt? alternate)
  | .for init test update body =>
    .for init.unplaced (unplacedExpr? test) (unplacedExpr? update) body.unplaced
  | .forIn head object body => .forIn head.unplaced object.unplaced body.unplaced
  | .forOf isAwait head object body => .forOf isAwait head.unplaced object.unplaced body.unplaced
  | .while test body => .while test.unplaced body.unplaced
  | .doWhile body test => .doWhile body.unplaced test.unplaced
  | .return value => .return (unplacedExpr? value)
  | .with object body => .with object.unplaced body.unplaced
  | .switch discriminant cases => .switch discriminant.unplaced (unplacedCases cases)
  | .labelled label body => .labelled label body.unplaced
  | .throw value => .throw value.unplaced
  | .try body param handler finalizer =>
    .try (unplacedStmts body) param.unplaced (unplacedStmt? handler) (unplacedStmt? finalizer)
  | .var kind declarators => .var kind (unplacedPatterns declarators)
  | .function f => .function f.unplaced
  | .class c => .class c.unplaced
  | .empty => .empty
  | .debugger => .debugger
  | .continue label => .continue label
  | .break label => .break label

def unplacedStmt? : Option Stmt → Option Stmt
  | none => none
  | some s => some s.unplaced

def unplacedStmts : List Stmt → List Stmt
  | [] => []
  | s :: rest => s.unplaced :: unplacedStmts rest

def ForHead.unplaced : ForHead → ForHead
  | .nothing => .nothing
  | .var kind declarators => .var kind (unplacedPatterns declarators)
  | .pattern target => .pattern target.unplaced

def unplacedCases : List SwitchCase → List SwitchCase
  | [] => []
  | .mk test body :: rest => .mk (unplacedExpr? test) (unplacedStmts body) :: unplacedCases rest

end

def ModuleItem.unplaced : ModuleItem → ModuleItem
  | .stmt s => .stmt s.unplaced
  | .exportDecl declaration => .exportDecl declaration.unplaced
  | .exportFunction f => .exportFunction f.unplaced
  | .exportClass c => .exportClass c.unplaced
  | .exportDefault value => .exportDefault value.unplaced
  | .import phase specifiers source => .import phase specifiers source
  | .exportNamed specifiers source => .exportNamed specifiers source
  | .exportAll source => .exportAll source

theorem unplacedElements_eq (elements : List Element) :
    unplacedElements elements = elements.map Element.unplaced := by
  induction elements with
  | nil => rfl
  | cons element rest ih => rw [unplacedElements, ih, List.map_cons]

theorem unplacedProperties_eq (properties : List Property) :
    unplacedProperties properties = properties.map Property.unplaced := by
  induction properties with
  | nil => rfl
  | cons property rest ih => rw [unplacedProperties, ih, List.map_cons]

theorem unplacedPatterns_eq (patterns : List Pattern) :
    unplacedPatterns patterns = patterns.map Pattern.unplaced := by
  induction patterns with
  | nil => rfl
  | cons pattern rest ih => rw [unplacedPatterns, ih, List.map_cons]

theorem unplacedStmts_eq (stmts : List Stmt) : unplacedStmts stmts = stmts.map Stmt.unplaced := by
  induction stmts with
  | nil => rfl
  | cons s rest ih => rw [unplacedStmts, ih, List.map_cons]

end Enclose.Script
