import Enclose.Bundle.BoundNames
import Enclose.Proofs.Runtime.Object
import Mathlib.Logic.Function.Basic

/-!
# Running statements

What expressions and statements do to the objects and variables of a running program (`machine`).
Code is run of the kinds that generated code is made of before the first statement of a module, and
around a call whose value is given a name; other code ends in `Abrupt.unknown`, of which nothing is
claimed. Of the built-in objects, only `Object.defineProperty` is there: their other properties are
not visited by `for in`, nor are those that every function has.
-/

namespace Enclose.Runtime
open Script

abbrev Env := List Nat

inductive Code where
  | defineProperty
  | closure (env : Env) (params : List Pattern) (body : List Stmt)

structure Obj where
  proto : Option Nat := none
  properties : Table := []
  code : Option Code := none

abbrev Variables := String → Option Value

structure Store where
  objects : Nat → Obj
  objectCount : Nat
  scopes : Nat → Variables
  scopeCount : Nat

namespace Store

def allocate (s : Store) (o : Obj) : Store :=
  { s with objects := Function.update s.objects s.objectCount o, objectCount := s.objectCount + 1 }

def setObject (s : Store) (ref : Nat) (o : Obj) : Store :=
  { s with objects := Function.update s.objects ref o }

def setProperty (s : Store) (ref : Nat) (key : String) (p : OwnProperty) : Store :=
  let o := s.objects ref
  s.setObject ref { o with properties := o.properties.insert key p }

def setPrototype (s : Store) (ref proto : Nat) : Store :=
  s.setObject ref { s.objects ref with proto := some proto }

def enter (s : Store) (locals : Variables) : Store :=
  { s with
    scopes := Function.update s.scopes s.scopeCount locals
    scopeCount := s.scopeCount + 1 }

def setVariable (s : Store) (scope : Nat) (name : String) (value : Value) : Store :=
  { s with
    scopes := Function.update s.scopes scope
      (Function.update (s.scopes scope) name (some value)) }

def scopeOf? (s : Store) (env : Env) (name : String) : Option Nat :=
  env.find? fun scope => (s.scopes scope name).isSome

def lineage (s : Store) : (depth : Nat) → Nat → List Nat
  | 0, _ => []
  | depth + 1, ref =>
    ref ::
      match (s.objects ref).proto with
      | none => []
      | some proto => lineage s depth proto

/-- An object and all it inherits from. No prototype comes back to an object. -/
def ancestry (s : Store) (ref : Nat) : List Nat := s.lineage s.objectCount ref

def property? (s : Store) (ref : Nat) (key : String) : Option OwnProperty :=
  (s.ancestry ref).findSome? fun r => (s.objects r).properties.lookup key

/-- The keys that `for in` visits, but for those in `seen`. A property hides inherited ones of its
name even if it is not visited itself. -/
def visitedKeys (s : Store) (seen : List String) : List Nat → List String
  | [] => []
  | ref :: rest =>
    let table := (s.objects ref).properties
    (orderedKeys table.keys).filter
        (fun key => !seen.contains key && (table.lookup key).any (·.enumerable)) ++
      visitedKeys s (seen ++ table.keys) rest

def keysOf (s : Store) (ref : Nat) : List String := s.visitedKeys [] (s.ancestry ref)

def isFunction (s : Store) : Value → Bool
  | .object ref => (s.objects ref).code.isSome
  | _ => false

end Store

inductive Abrupt where
  | typeError
  | referenceError
  /-- The code is of a kind that is not run here, or it is nested too deeply. -/
  | unknown
  deriving DecidableEq, Repr

abbrev Run := StateT Store (Except Abrupt)

inductive Completion where
  | normal
  | returned (value : Value)
  deriving DecidableEq, Repr

structure Machine where
  expr : Env → Expr → Run Value
  stmt : Env → Stmt → Run Completion
  call : Value → List Value → Run Value

def objectPrototype : Nat := 0
def functionPrototype : Nat := 1

def allocate (o : Obj) : Run Value := do
  let s ← get
  set (s.allocate o)
  return .object s.objectCount

def closure (env : Env) (params : List Pattern) (body : List Stmt) : Obj :=
  { proto := some functionPrototype, code := some (.closure env params body) }

def readVariable (env : Env) (name : String) : Run Value := do
  match env.findSome? ((← get).scopes · name) with
  | some value => return value
  | none => throw .referenceError

def writeVariable (env : Env) (name : String) (value : Value) : Run Unit := do
  match (← get).scopeOf? env name with
  | some scope => modify (·.setVariable scope name value)
  | none => throw .referenceError

section
variable (m : Machine)

def readContent : Option Content → Run Value
  | none | some (.accessor .undefined _) => return .undefined
  | some (.data value _) => return value
  | some (.accessor getter _) => m.call getter []

def readProperty (object : Value) (key : String) : Run Value := do
  let s ← get
  match object with
  | .object ref => readContent m ((s.property? ref key).map (·.content))
  | .undefined => throw .typeError
  | _ => throw .unknown

def writeProperty (object : Value) (key : String) (value : Value) : Run Unit := do
  let s ← get
  match object with
  | .object ref =>
    match assigned? value ((s.objects ref).properties.lookup key) (s.property? ref key) with
    | some p => set (s.setProperty ref key p)
    | none => throw .unknown
  | .undefined => throw .typeError
  | _ => throw .unknown

def truthy : Value → Bool
  | .undefined => false
  | .bool b => b
  | .text s => !s.isEmpty
  | .object _ => true

def readField (ref : Nat) (key : String) : Run (Option Value) := do
  let s ← get
  if (s.property? ref key).isSome then return some (← readProperty m (.object ref) key)
  else return none

def readFunctionField (ref : Nat) (key : String) : Run (Option Value) := do
  let value ← readField m ref key
  let s ← get
  if value.all fun v => v == .undefined || s.isFunction v then return value
  else throw .typeError

def readDescriptor (ref : Nat) : Run Descriptor := do
  let enumerable ← readField m ref "enumerable"
  let configurable ← readField m ref "configurable"
  let value ← readField m ref "value"
  let writable ← readField m ref "writable"
  let get ← readFunctionField m ref "get"
  let set ← readFunctionField m ref "set"
  let d : Descriptor :=
    { enumerable := enumerable.map truthy, configurable := configurable.map truthy, value,
      writable := writable.map truthy, get, set }
  if d.isData && d.isAccessor then throw .typeError else return d

def defineProperty : List Value → Run Value
  | .object target :: .text key :: .object attributes :: _ => do
    let d ← readDescriptor m attributes
    let s ← get
    match d.outcome? ((s.objects target).properties.lookup key) with
    | some p =>
      set (s.setProperty target key p)
      return .object target
    | none => throw .typeError
  | .object _ :: .text _ :: _ => throw .typeError
  | .object _ :: _ => throw .unknown
  | _ => throw .typeError

def executeAll (env : Env) : List Stmt → Run Completion
  | [] => return .normal
  | stmt :: rest => do
    match ← m.stmt env stmt with
    | .normal => executeAll env rest
    | .returned value => return .returned value

def executeForKeys (body : String → Run Completion) : List String → Run Completion
  | [] => return .normal
  | key :: rest => do
    match ← body key with
    | .normal => executeForKeys body rest
    | .returned value => return .returned value

def startVariable (env : Env) : Pattern → Run Unit
  | .ident _ => return
  | .defaulted (.ident name) value => do writeVariable env name (← m.expr env value)
  | _ => throw .unknown

def execute (env : Env) : Stmt → Run Completion
  | .expr value => do
    let _ ← m.expr env value
    return .normal
  | .return none => return .returned .undefined
  | .return (some value) => return .returned (← m.expr env value)
  | .var .var declarators => do
    declarators.forM (startVariable m env)
    return .normal
  | .forIn (.var .var [.ident name]) object body => do
    match ← m.expr env object with
    | .undefined => return .normal
    | .object ref =>
      executeForKeys (fun key => do writeVariable env name (.text key); m.stmt env body)
        ((← get).keysOf ref)
    | _ => throw .unknown
  | _ => throw .unknown

def propertyName (env : Env) : PropertyKey → Run String
  | .ident name => return name
  | .string lit => return lit.value
  | .computed key => do
    match ← m.expr env key with
    | .text name => return name
    | _ => throw .unknown
  | _ => throw .unknown

def isComputed : PropertyKey → Bool
  | .computed _ => true
  | _ => false

/-- Adds a property of a literal to its object. One that is named `__proto__` sets the prototype,
unless its name is computed. -/
def addProperty (env : Env) (ref : Nat) : Property → Run Unit
  | .keyed _ key _ value => do
    let name ← propertyName m env key
    let value ← m.expr env value
    if name == "__proto__" && !isComputed key then
      if let .object proto := value then modify (·.setPrototype ref proto)
    else modify (·.setProperty ref name ⟨.data value true, true, true⟩)
  | _ => throw .unknown

def argument (env : Env) : Element → Run Value
  | .item _ value => m.expr env value
  | _ => throw .unknown

def evaluate (env : Env) : Expr → Run Value
  | .ident name => readVariable env name
  | .bool value => return .bool value
  | .string lit => return .text lit.value
  | .paren inner => m.expr env inner
  | .arrow false params value => allocate (closure env params [.return (some value)])
  | .arrowBlock false params body => allocate (closure env params body)
  | .object properties => do
    let s ← get
    let object ← allocate { proto := some objectPrototype }
    properties.forM (addProperty m env s.objectCount)
    return object
  | .member object key => do
    let object ← m.expr env object
    readProperty m object (← propertyName m env key)
  | .assign .assign (.expr (.member object key)) value => do
    let object ← m.expr env object
    let name ← propertyName m env key
    let value ← m.expr env value
    writeProperty object name value
    return value
  | .binary .logicalOr first second => do
    let value ← m.expr env first
    if truthy value then return value else m.expr env second
  | .call callee args => do
    let callee ← m.expr env callee
    m.call callee (← args.mapM (argument m env))
  | _ => throw .unknown

theorem evaluate_member (env : Env) (object : Expr) (key : PropertyKey) :
    evaluate m env (.member object key) =
      (do
        let object ← m.expr env object
        readProperty m object (← propertyName m env key)) := by
  rw [evaluate]

def bindParams : List Pattern → List Value → Run (List (String × Value))
  | [], _ => return []
  | .ident name :: rest, args => do
    return (name, args.headD .undefined) :: (← bindParams rest args.tail)
  | _, _ => throw .unknown

def hoistedNames : Stmt → List String
  | .var .var declarators => Bundle.boundNamesOf declarators
  | .forIn (.var .var declarators) _ body => Bundle.boundNamesOf declarators ++ hoistedNames body
  | .forIn _ _ body => hoistedNames body
  | _ => []

def newVariables (params : List (String × Value)) (hoisted : List String) : Variables :=
  fun name => (params.lookup name).or (if name ∈ hoisted then some .undefined else none)

def call (callee : Value) (args : List Value) : Run Value := do
  let s ← get
  let .object ref := callee | throw .typeError
  match (s.objects ref).code with
  | none => throw .typeError
  | some .defineProperty => defineProperty m args
  | some (.closure env params body) =>
    let locals := newVariables (← bindParams params args) (body.flatMap hoistedNames)
    modify (·.enter locals)
    match ← executeAll m (s.scopeCount :: env) body with
    | .normal => return .undefined
    | .returned value => return value

end

/-- Runs code whose parts are nested at most as deeply as the number tells. -/
def machine : Nat → Machine
  | 0 => ⟨fun _ _ => throw .unknown, fun _ _ => throw .unknown, fun _ _ => throw .unknown⟩
  | depth + 1 => ⟨evaluate (machine depth), execute (machine depth), call (machine depth)⟩

def objectConstructor : Nat := 2
def definePropertyFunction : Nat := 3
def moduleObject : Nat := 4

def builtinCount : Nat := 6

def globalScope : Nat := 0
def moduleScope : Nat := 1

def moduleEnv : Env := [moduleScope, globalScope]

def builtin : Nat → Obj
  | 0 => {}
  | 1 => { proto := some objectPrototype }
  | 2 =>
    { proto := some functionPrototype
      properties :=
        [("defineProperty", ⟨.data (.object definePropertyFunction) true, false, true⟩)] }
  | 3 => { proto := some functionPrototype, code := some .defineProperty }
  | 4 =>
    { proto := some objectPrototype
      properties := [("exports", ⟨.data (.object 5) true, true, true⟩)] }
  | 5 => { proto := some objectPrototype }
  | _ => {}

/-- The store when a module starts that declares some variables. One of its variables is `module`, the
object that a common module assigns its exports to; all declarations of that name share it. Modules
that do not start are left out, such as a common module with a `let`, `const` or `class` of that
name. -/
def initialStore (declared : List String) : Store where
  objects := builtin
  objectCount := builtinCount
  scopes
    | 0 => newVariables [("Object", .object objectConstructor)] []
    | 1 => newVariables [("module", .object moduleObject)] declared
    | _ => fun _ => none
  scopeCount := 2

def runModule (depth : Nat) (declared : List String) (stmts : List Stmt) :
    Except Abrupt (Completion × Store) :=
  (executeAll (machine depth) moduleEnv stmts).run
    (initialStore (declared ++ stmts.flatMap hoistedNames))

end Enclose.Runtime
