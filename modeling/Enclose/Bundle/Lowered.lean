import Enclose.Bundle.BoundNames
import Enclose.Bundle.Getter
import Enclose.Failure

/-!
Modules without imports and exports. An import becomes a call of `require`, placed before all other
statements; an export becomes a name with the place where its value is read.
-/

namespace Enclose.Bundle

open Script

structure Export where
  name : String
  getter : Getter
  deriving Repr, DecidableEq, Inhabited

structure Lowered where
  imports : List Stmt := []
  body : List Stmt := []
  exports : List Export := []
  reExports : Bool := false
  importDefault : Bool := false

namespace Lowered

def append (first second : Lowered) : Lowered :=
  { imports := first.imports ++ second.imports
    body := first.body ++ second.body
    exports := first.exports ++ second.exports
    reExports := first.reExports || second.reExports
    importDefault := first.importDefault || second.importDefault }

instance : Append Lowered := ⟨append⟩

section
variable (first second : Lowered)

@[simp] theorem imports_append : (first ++ second).imports = first.imports ++ second.imports := rfl

@[simp] theorem body_append : (first ++ second).body = first.body ++ second.body := rfl

@[simp] theorem exports_append : (first ++ second).exports = first.exports ++ second.exports := rfl

@[simp] theorem reExports_append :
    (first ++ second).reExports = (first.reExports || second.reExports) := rfl

end

def hasExports (l : Lowered) : Bool := !l.exports.isEmpty || l.reExports

end Lowered

def require (source : StringLit) : Expr := .callWith (.ident "require") [.text source.value]

def wholeImport? (k : Nat) : ImportSpecifier → Option Stmt
  | .namespace binding => some (.declareConst binding (.ident (importName k)))
  | .default binding => some (.declareConst binding (importedDefault k))
  | .named imported binding =>
    if imported.any (·.isDefault) then some (.declareConst binding (importedDefault k)) else none

def namedImport? : ImportSpecifier → Option Pattern
  | .named none binding => some (.shorthand binding none)
  | .named (some imported) binding =>
    if imported.isDefault then none else some (.keyed imported.key (.ident binding))
  | _ => none

def importStmts (k : Nat) (specifiers : List ImportSpecifier) (source : StringLit) : List Stmt :=
  if specifiers.isEmpty then [.expr (require source)]
  else
    let named := specifiers.filterMap namedImport?
    .declareConst (importName k) (require source) :: specifiers.filterMap (wholeImport? k) ++
      if named.isEmpty then []
      else [.declare .const (.object named) (.ident (importName k))]

def localExport : ExportSpecifier → Except Failure Export
  | .namespace _ => .error (.unsupported "namespace export without a source module")
  | .named (.string _) _ => .error (.unsupported "string export name without a source module")
  | .named (.ident name) exported => .ok ⟨(exported.map (·.text)).getD name, .own name⟩

def foreignGetter (k : Nat) : ExportSpecifier → Getter
  | .namespace _ => .whole k
  | .named original _ =>
    if original.isDefault then .default k else .member k original.text

def foreignExport (k : Nat) (s : ExportSpecifier) : Export :=
  match s with
  | .namespace exported => ⟨exported.text, foreignGetter k s⟩
  | .named original exported => ⟨(exported.getD original).text, foreignGetter k s⟩

def Export.takesDefault (e : Export) : Bool :=
  match e.getter with
  | .default _ => true
  | _ => false

def namedFunction : Function → String × Stmt
  | .mk name isAsync isGenerator params body =>
    let name := name.getD defaultName
    (name, .function (.mk (some name) isAsync isGenerator params body))

def namedClass : Script.Class → String × Stmt
  | .mk name heritage members =>
    let name := name.getD defaultName
    (name, .class (.mk (some name) heritage members))

def defaultDeclaration (declaration : String × Stmt) : Lowered :=
  { body := [declaration.2], exports := [⟨"default", .own declaration.1⟩] }

/-- Whether an item binds a module to a name, so that it counts as an import. -/
def bindsImport : ModuleItem → Bool
  | .import _ specifiers _ => !specifiers.isEmpty
  | .exportNamed _ (some _) => true
  | _ => false

def lowerItem (k : Nat) : ModuleItem → Except Failure Lowered
  | .stmt s => .ok { body := [s] }
  | .import _ specifiers source =>
    .ok
      { imports := importStmts k specifiers source
        importDefault := specifiers.any (·.isDefault) }
  | .exportDecl declaration =>
    .ok
      { body := [declaration]
        exports := (declaredNames declaration).map fun name => ⟨name, .own name⟩ }
  | .exportNamed specifiers none => do return { exports := ← specifiers.mapM localExport }
  | .exportNamed specifiers (some source) =>
    let exports := specifiers.map (foreignExport k)
    .ok
      { imports := [.declareVar (importName k) (require source)]
        exports := exports
        importDefault := exports.any Export.takesDefault }
  | .exportFunction f => .ok (defaultDeclaration (namedFunction f))
  | .exportClass c => .ok (defaultDeclaration (namedClass c))
  | .exportDefault value =>
    .ok
      { body := [.declareVar defaultName value]
        exports := [⟨"default", .own defaultName⟩] }
  | .exportAll source =>
    .ok
      { imports := [.call (.ident "__reExport") [.ident exportsName, require source]]
        reExports := true }

def lowerItems (k : Nat) : List ModuleItem → Except Failure Lowered
  | [] => .ok {}
  | item :: rest => do
    let first ← lowerItem k item
    let others ← lowerItems (if bindsImport item then k + 1 else k) rest
    return first ++ others

def Lowered.ofProgram : Program → Except Failure Lowered
  | .module m => lowerItems 0 m.items
  | .script s => .ok { body := s.body }

end Enclose.Bundle
