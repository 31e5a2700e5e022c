import Enclose.Proofs.Bundle.Statements
import Mathlib.Data.List.Nodup

/-!
# The order in which modules are loaded

The calls of `require` are collected from code of any form (`stmtsRequires`). What lowering adds in
front of the statements of a module calls `require` once for each declaration that names a module,
in source order (`requires_imports`), and binds the imports to consecutive names
(`bindings_imports`). There is no such call in the opening and the closing of the scope.
-/

namespace Enclose.Bundle
open Script

def requireOf? : Expr → List Element → Option String
  | .ident "require", [.item _ (.string lit)] => some lit.value
  | _, _ => none

mutual

def exprRequires : Expr → List String
  | .this | .super | .ident _ | .null | .bool _ | .number _ | .bigint _ | .string _ => []
  | .regex _ _ => []
  | .array elements => elementsRequires elements
  | .object properties => propertiesRequires properties
  | .function f => functionRequires f
  | .arrow _ params value => patternsRequires params ++ exprRequires value
  | .arrowBlock _ params body => patternsRequires params ++ stmtsRequires body
  | .class c => classRequires c
  | .template _ values => exprsRequires values
  | .taggedTemplate tag _ values => exprRequires tag ++ exprsRequires values
  | .unary _ operand => exprRequires operand
  | .update _ _ operand => exprRequires operand
  | .binary _ left right => exprRequires left ++ exprRequires right
  | .assign _ target value => patternRequires target ++ exprRequires value
  | .conditional test consequent alternate =>
    exprRequires test ++ exprRequires consequent ++ exprRequires alternate
  | .call callee args =>
    (requireOf? callee args).toList ++ exprRequires callee ++ elementsRequires args
  | .new callee args => exprRequires callee ++ elementsRequires args
  | .newBare callee => exprRequires callee
  | .importCall _ args => elementsRequires args
  | .member object key => exprRequires object ++ keyRequires key
  | .optionalMember _ object key => exprRequires object ++ keyRequires key
  | .optionalCall _ callee args =>
    (requireOf? callee args).toList ++ exprRequires callee ++ elementsRequires args
  | .sequence exprs => exprsRequires exprs
  | .paren inner => exprRequires inner
  | .yield _ operand => exprRequires? operand
  | .await operand => exprRequires operand
  | .newTarget | .importMeta | .privateName _ | .invalid => []

def exprRequires? : Option Expr → List String
  | none => []
  | some value => exprRequires value

def exprsRequires : List Expr → List String
  | [] => []
  | value :: rest => exprRequires value ++ exprsRequires rest

def elementsRequires : List Element → List String
  | [] => []
  | .hole :: rest => elementsRequires rest
  | .item _ value :: rest => exprRequires value ++ elementsRequires rest
  | .spread _ _ value :: rest => exprRequires value ++ elementsRequires rest

def keyRequires : PropertyKey → List String
  | .computed key => exprRequires key
  | _ => []

def propertiesRequires : List Property → List String
  | [] => []
  | .shorthand _ _ :: rest => propertiesRequires rest
  | .keyed _ key _ value :: rest => keyRequires key ++ exprRequires value ++ propertiesRequires rest
  | .defaulted _ _ value :: rest => exprRequires value ++ propertiesRequires rest
  | .getter _ key f :: rest => keyRequires key ++ functionRequires f ++ propertiesRequires rest
  | .setter _ key f :: rest => keyRequires key ++ functionRequires f ++ propertiesRequires rest
  | .method _ key f :: rest => keyRequires key ++ functionRequires f ++ propertiesRequires rest
  | .spread _ _ value :: rest => exprRequires value ++ propertiesRequires rest

def functionRequires : Function → List String
  | .mk _ _ _ params body => patternsRequires params ++ stmtsRequires body

def classRequires : Script.Class → List String
  | .mk _ heritage members => exprRequires? heritage ++ membersRequires members

def membersRequires : List ClassMember → List String
  | [] => []
  | .constructor params body :: rest =>
    patternsRequires params ++ stmtsRequires body ++ membersRequires rest
  | .method _ key f :: rest => keyRequires key ++ functionRequires f ++ membersRequires rest
  | .getter _ key f :: rest => keyRequires key ++ functionRequires f ++ membersRequires rest
  | .setter _ key f :: rest => keyRequires key ++ functionRequires f ++ membersRequires rest
  | .field _ key value :: rest => keyRequires key ++ exprRequires? value ++ membersRequires rest
  | .staticBlock body :: rest => stmtsRequires body ++ membersRequires rest
  | .empty :: rest => membersRequires rest

def patternRequires : Pattern → List String
  | .ident _ | .hole | .invalid => []
  | .array elements => patternsRequires elements
  | .object properties => patternsRequires properties
  | .keyed key value => keyRequires key ++ patternRequires value
  | .shorthand _ value => exprRequires? value
  | .rest inner => patternRequires inner
  | .defaulted inner value => patternRequires inner ++ exprRequires value
  | .expr target => exprRequires target

def patternsRequires : List Pattern → List String
  | [] => []
  | pattern :: rest => patternRequires pattern ++ patternsRequires rest

def headRequires : ForHead → List String
  | .nothing => []
  | .var _ declarators => patternsRequires declarators
  | .pattern target => patternRequires target

def casesRequires : List SwitchCase → List String
  | [] => []
  | .mk test body :: rest => exprRequires? test ++ stmtsRequires body ++ casesRequires rest

def stmtRequires : Stmt → List String
  | .block body => stmtsRequires body
  | .empty | .debugger | .continue _ | .break _ => []
  | .expr value => exprRequires value
  | .ifElse test consequent alternate =>
    exprRequires test ++ stmtRequires consequent ++ stmtRequires? alternate
  | .for init test update body =>
    headRequires init ++ exprRequires? test ++ exprRequires? update ++ stmtRequires body
  | .forIn head object body => headRequires head ++ exprRequires object ++ stmtRequires body
  | .forOf _ head object body => headRequires head ++ exprRequires object ++ stmtRequires body
  | .while test body => exprRequires test ++ stmtRequires body
  | .doWhile body test => stmtRequires body ++ exprRequires test
  | .return value => exprRequires? value
  | .with object body => exprRequires object ++ stmtRequires body
  | .switch discriminant cases => exprRequires discriminant ++ casesRequires cases
  | .labelled _ body => stmtRequires body
  | .throw value => exprRequires value
  | .try body param handler finalizer =>
    stmtsRequires body ++ patternRequires param ++ stmtRequires? handler ++
      stmtRequires? finalizer
  | .var _ declarators => patternsRequires declarators
  | .function f => functionRequires f
  | .class c => classRequires c

def stmtRequires? : Option Stmt → List String
  | none => []
  | some s => stmtRequires s

def stmtsRequires : List Stmt → List String
  | [] => []
  | s :: rest => stmtRequires s ++ stmtsRequires rest

end

section
variable (value left right : Expr) (s : Stmt) (stmts : List Stmt)

theorem exprRequires_object (properties : List Property) :
    exprRequires (.object properties) = propertiesRequires properties := rfl

theorem exprRequires_binary (op : BinaryOp) :
    exprRequires (.binary op left right) = exprRequires left ++ exprRequires right := rfl

theorem exprRequires_dot (name : String) :
    exprRequires (.dot value name) = exprRequires value ++ [] := rfl

theorem stmtRequires_expr : stmtRequires (.expr value) = exprRequires value := rfl

theorem stmtRequires_declare (kind : VarKind) (pattern : Pattern) :
    stmtRequires (.declare kind pattern value) =
      patternRequires pattern ++ exprRequires value ++ [] := rfl

theorem patternRequires_object (properties : List Pattern) :
    patternRequires (.object properties) = patternsRequires properties := rfl

theorem patternsRequires_cons (pattern : Pattern) (rest : List Pattern) :
    patternsRequires (pattern :: rest) = patternRequires pattern ++ patternsRequires rest := rfl

theorem stmtsRequires_cons : stmtsRequires (s :: stmts) = stmtRequires s ++ stmtsRequires stmts :=
  rfl

theorem stmtsRequires_singleton : stmtsRequires [s] = stmtRequires s := List.append_nil _

end

theorem stmtsRequires_eq (stmts : List Stmt) : stmtsRequires stmts = stmts.flatMap stmtRequires := by
  induction stmts with
  | nil => rfl
  | cons s rest ih => rw [stmtsRequires_cons, ih, List.flatMap_cons]

theorem stmtsRequires_append (first second : List Stmt) :
    stmtsRequires (first ++ second) = stmtsRequires first ++ stmtsRequires second := by
  simp only [stmtsRequires_eq, List.flatMap_append]

theorem exprRequires_getter (getter : Getter) : exprRequires getter.expr = [] := by
  cases getter with
  | own name => rfl
  | whole k => rfl
  | default k => rfl
  | member k property =>
      rw [Getter.expr]
      split <;> rfl

theorem exprRequires_getterTable (exports : List Export) :
    exprRequires (getterTable exports) = [] := by
  rw [getterTable, Expr.objectOf, exprRequires_object, List.map_map]
  induction exports with
  | nil => rfl
  | cons e rest ih => exact congrArg₂ (· ++ ·) (exprRequires_getter e.getter) ih

theorem stmtsRequires_helpers (l : Lowered) : stmtsRequires (helpers l) = [] := by
  have each : ∀ s ∈ helpers l, stmtRequires s = [] := by
    intro s member
    simp only [helpers, List.mem_append, List.mem_ite_nil_right, List.mem_ite_nil_left,
      List.mem_singleton] at member
    rcases member with ((⟨_, rfl⟩ | ⟨_, rfl⟩) | ⟨_, rfl⟩) | ⟨_, rfl⟩ <;> rfl
  rw [stmtsRequires_eq, List.flatMap_eq_nil_iff]
  exact each

theorem stmtsRequires_exportsObject (l : Lowered) : stmtsRequires (exportsObject l) = [] := by
  unfold exportsObject
  split
  · have table := exprRequires_getterTable l.exports
    split
    · rfl
    · exact congrArg (· ++ [] ++ []) table
  · rfl

theorem stmtsRequires_opening (format : Format) (l : Lowered) :
    stmtsRequires (opening format l) = [] := by
  have quiet : stmtsRequires (prologue l) = [] := by
    rw [prologue, stmtsRequires_append, stmtsRequires_helpers, stmtsRequires_exportsObject,
      List.append_nil]
  cases format with
  | iife => exact quiet
  | esm => exact quiet
  | cjs =>
      rw [opening, stmtsRequires_append, quiet, assignExports, whereExports]
      split <;> rfl

theorem stmtsRequires_closing (format : Format) (l : Lowered) :
    stmtsRequires (closing format l) = [] := by
  cases format with
  | iife =>
      rw [closing, returnExports, whereExports]
      split <;> rfl
  | cjs => rfl
  | esm => rfl

def dependency? : ModuleItem → Option String
  | .import _ _ source => some source.value
  | .exportNamed _ (some source) => some source.value
  | .exportAll source => some source.value
  | _ => none

theorem wholeImport?_eq_some {k : Nat} {specifier : ImportSpecifier} {s : Stmt}
    (h : wholeImport? k specifier = some s) :
    ∃ binding, s = .declareConst binding (.ident (importName k)) ∨
      s = .declareConst binding (importedDefault k) := by
  unfold wholeImport? at h
  split at h
  · exact ⟨_, .inl (Option.some.inj h).symm⟩
  · exact ⟨_, .inr (Option.some.inj h).symm⟩
  · split at h
    · exact ⟨_, .inr (Option.some.inj h).symm⟩
    · cases h

theorem stmtRequires_wholeImport? {k : Nat} {specifier : ImportSpecifier} {s : Stmt}
    (h : wholeImport? k specifier = some s) : stmtRequires s = [] := by
  obtain ⟨binding, rfl | rfl⟩ := wholeImport?_eq_some h
  · rfl
  · rfl

theorem patternRequires_namedImport? {specifier : ImportSpecifier} {pattern : Pattern}
    (h : namedImport? specifier = some pattern) : patternRequires pattern = [] := by
  unfold namedImport? at h
  split at h
  · cases h; rfl
  · rename_i imported binding
    split at h
    · cases h
    · cases h
      cases imported <;> rfl
  · cases h

theorem patternsRequires_namedImport? (specifiers : List ImportSpecifier) :
    patternsRequires (specifiers.filterMap namedImport?) = [] := by
  induction specifiers with
  | nil => rfl
  | cons specifier rest ih =>
      cases h : namedImport? specifier with
      | none => rw [List.filterMap_cons_none h, ih]
      | some pattern =>
          rw [List.filterMap_cons_some h, patternsRequires_cons, patternRequires_namedImport? h, ih,
            List.append_nil]

theorem stmtsRequires_importStmts (k : Nat) (specifiers : List ImportSpecifier)
    (source : StringLit) : stmtsRequires (importStmts k specifiers source) = [source.value] := by
  have whole : stmtsRequires (specifiers.filterMap (wholeImport? k)) = [] := by
    rw [stmtsRequires_eq, List.flatMap_eq_nil_iff]
    intro s member
    obtain ⟨specifier, -, h⟩ := List.mem_filterMap.1 member
    exact stmtRequires_wholeImport? h
  have named := patternsRequires_namedImport? specifiers
  unfold importStmts
  split
  · rfl
  · have loads : stmtRequires (.declareConst (importName k) (require source)) = [source.value] := rfl
    rw [List.cons_append, stmtsRequires_cons, stmtsRequires_append, whole, loads]
    split
    · rfl
    · rw [stmtsRequires_singleton, stmtRequires_declare, patternRequires_object, named]
      rfl

theorem stmtsRequires_loadingStmts (k : Nat) (item : ModuleItem) :
    stmtsRequires (loadingStmts k item) = (dependency? item).toList := by
  cases item with
  | «import» phase specifiers source => exact stmtsRequires_importStmts k specifiers source
  | exportNamed specifiers source => cases source <;> rfl
  | _ => rfl

theorem requires_imports {k : Nat} {items : List ModuleItem} {l : Lowered}
    (h : lowerItems k items = .ok l) :
    stmtsRequires l.imports = items.filterMap dependency? := by
  rw [lowerItems_collect (fun l => stmtsRequires l.imports)
    (fun _ item => (dependency? item).toList) rfl
    (fun a b => stmtsRequires_append a.imports b.imports)
    (fun h => by rw [(lowerItem_parts h).imports, stmtsRequires_loadingStmts]) h,
    List.filterMap_eq_flatMap_toList]
  conv_rhs => rw [← indexed_map_snd items, List.flatMap_map]

def requireBinding? : Stmt → Option (String × String)
  | .var _ [.defaulted (.ident name) (.call callee args)] =>
    (requireOf? callee args).map fun source => (name, source)
  | _ => none

def boundDependencies (items : List ModuleItem) : List String :=
  (items.filter bindsImport).filterMap dependency?

theorem requireBinding?_wholeImport? {k : Nat} {specifier : ImportSpecifier} {s : Stmt}
    (h : wholeImport? k specifier = some s) : requireBinding? s = none := by
  obtain ⟨binding, rfl | rfl⟩ := wholeImport?_eq_some h
  · rfl
  · rfl

theorem bindings_importStmts (k : Nat) (specifiers : List ImportSpecifier) (source : StringLit) :
    (importStmts k specifiers source).filterMap requireBinding? =
      if specifiers.isEmpty then [] else [(importName k, source.value)] := by
  have whole : (specifiers.filterMap (wholeImport? k)).filterMap requireBinding? = [] := by
    rw [List.filterMap_eq_nil_iff]
    intro s member
    obtain ⟨specifier, -, h⟩ := List.mem_filterMap.1 member
    exact requireBinding?_wholeImport? h
  have first : requireBinding? (.declareConst (importName k) (require source)) =
      some (importName k, source.value) := rfl
  unfold importStmts
  split
  · rfl
  · rw [List.cons_append, List.filterMap_cons_some first, List.filterMap_append, whole]
    split <;> rfl

theorem bindings_loadingStmts (k : Nat) (item : ModuleItem) :
    (loadingStmts k item).filterMap requireBinding? =
      (boundDependencies [item]).map fun source => (importName k, source) := by
  cases item with
  | «import» phase specifiers source =>
      rw [loadingStmts, bindings_importStmts]
      cases specifiers <;> rfl
  | exportNamed specifiers source => cases source <;> rfl
  | _ => rfl

theorem boundDependencies_cons (item : ModuleItem) (rest : List ModuleItem) :
    boundDependencies (item :: rest) = boundDependencies [item] ++ boundDependencies rest := by
  rw [← List.singleton_append, boundDependencies, List.filter_append, List.filterMap_append]
  rfl

theorem length_boundDependencies_singleton (item : ModuleItem) :
    (boundDependencies [item]).length = if bindsImport item then 1 else 0 := by
  cases item with
  | «import» phase specifiers source => cases specifiers <;> rfl
  | exportNamed specifiers source => cases source <;> rfl
  | _ => rfl

theorem bindings_imports {k : Nat} {items : List ModuleItem} {l : Lowered}
    (h : lowerItems k items = .ok l) :
    l.imports.filterMap requireBinding? =
      ((boundDependencies items).zipIdx k).map fun (source, i) => (importName i, source) := by
  induction items generalizing k l with
  | nil => cases h; rfl
  | cons item rest ih =>
      obtain ⟨first, others, hf, ho, rfl⟩ := lowerItems_cons_ok.1 h
      have length := length_boundDependencies_singleton item
      rw [Lowered.imports_append, List.filterMap_append, (lowerItem_parts hf).imports,
        bindings_loadingStmts, ih ho,
        boundDependencies_cons item rest, List.zipIdx_append, List.map_append, length]
      rcases single : boundDependencies [item] with _ | ⟨source, _ | ⟨other, more⟩⟩
      · rfl
      · rfl
      · rw [single, List.length_cons, List.length_cons] at length
        split at length <;> omega

theorem length_boundDependencies (items : List ModuleItem) :
    (boundDependencies items).length = items.countP bindsImport := by
  induction items with
  | nil => rfl
  | cons item rest ih =>
      rw [boundDependencies_cons, List.length_append, length_boundDependencies_singleton, ih,
        List.countP_cons, Nat.add_comm]

theorem bindingNames_imports {items : List ModuleItem} {l : Lowered}
    (h : lowerItems 0 items = .ok l) :
    (l.imports.filterMap requireBinding?).map Prod.fst =
      (List.range (items.countP bindsImport)).map importName := by
  have names : (fun (name : String × String) => name.1) ∘
      (fun (source, i) => (importName i, source)) = importName ∘ Prod.snd := rfl
  rw [bindings_imports h, List.map_map, names, ← List.map_map, List.zipIdx_map_snd,
    length_boundDependencies, List.range_eq_range']

theorem exprRequires_callOf (stmts : List Stmt) :
    exprRequires (callOf stmts) = stmtsRequires stmts :=
  List.append_nil _

theorem stmtRequires_assignTo {target value : Expr} (quiet : exprRequires target = []) :
    stmtRequires (.expr (.assignTo target value)) = exprRequires value := by
  unfold Expr.assignTo
  split
  · rfl
  · exact congrArg (· ++ exprRequires value) quiet

theorem exprRequires_orNewObject {target : Expr} (quiet : exprRequires target = []) :
    exprRequires (orNewObject target) = [] := by
  rw [orNewObject, exprRequires_binary, quiet]
  rfl

theorem stmtsRequires_assignRest (stmts : List Stmt) {target : Expr}
    (quiet : exprRequires target = []) (parts : List String) :
    stmtsRequires (assignRest (callOf stmts) target parts) = stmtsRequires stmts := by
  induction parts generalizing target with
  | nil =>
      rw [assignRest, stmtsRequires_singleton, stmtRequires_assignTo quiet, exprRequires_callOf]
  | cons part rest ih =>
      have member : exprRequires (.dot target part) = [] := by
        rw [exprRequires_dot, quiet, List.nil_append]
      rw [assignRest, stmtsRequires_cons, stmtRequires_assignTo quiet, exprRequires_orNewObject quiet,
        ih member, List.nil_append]

theorem stmtRequires_declareVar (name : String) (value : Expr) :
    stmtRequires (.declareVar name value) = exprRequires value :=
  List.append_nil _

theorem stmtsRequires_around (options : Options) (scope : List Stmt) :
    stmtsRequires (around options scope) = stmtsRequires scope := by
  unfold around
  split
  · rcases nameParts options.globalName with _ | ⟨name, _ | ⟨part, rest⟩⟩
    · rw [assignPath, stmtsRequires_singleton, stmtRequires_expr, exprRequires_callOf]
    · rw [assignPath, stmtsRequires_singleton, stmtRequires_declareVar, exprRequires_callOf]
    · have quiet : exprRequires (.dot (.ident name) part) = [] := rfl
      rw [assignPath, stmtsRequires_cons, stmtRequires_declareVar, exprRequires_orNewObject rfl,
        stmtsRequires_assignRest scope quiet, List.nil_append]
  · rfl

/-- The code for a module loads each module that a declaration names, in source order, before its
own statements run and after the prologue. It binds what it imports to consecutive names. -/
theorem bundle_requires {options : Options} {m out : Module} (lowers : options.format ≠ .esm)
    (valid : options.format = .iife → Identifier.isGlobalName options.globalName)
    (h : bundle options (.module m) = .ok out) :
    ∃ (l : Lowered) (stmts : List Stmt),
      lowerItems 0 m.items = .ok l ∧ out.items = stmts.map .stmt ∧
      stmtsRequires stmts = m.items.filterMap dependency? ++ stmtsRequires (ownStmts m.items) ∧
      scope? options.format out.items =
        some (opening options.format l ++ l.imports ++ ownStmts m.items ++
          closing options.format l) ∧
      stmtsRequires l.imports = m.items.filterMap dependency? ∧
      (l.imports.filterMap requireBinding?).map Prod.fst =
        (List.range (m.items.countP bindsImport)).map importName ∧
      ((l.imports.filterMap requireBinding?).map Prod.fst).Nodup := by
  obtain ⟨l, lowered, items⟩ := bundle_items lowers valid h
  have loads := requires_imports lowered
  have names := bindingNames_imports lowered
  refine ⟨l, _, lowered, items, ?_, ?_, loads, names, ?_⟩
  · simp only [stmtsRequires_around, stmtsRequires_append, stmtsRequires_opening,
      stmtsRequires_closing, loads, List.nil_append, List.append_nil]
  · rw [items, scope?_around lowers]
  · rw [names]
    exact List.Nodup.map (fun _ _ => importName_injective) List.nodup_range

def repeatedImports : Module :=
  { items :=
      [ .stmt (.expr (.ident "first")),
        .import .evaluation [.default "d"] (.ofText "m"),
        .exportAll (.ofText "all"),
        .import .evaluation [] (.ofText "side"),
        .exportDecl (.var .const [.defaulted (.ident "n") (.number "1")]),
        .exportNamed [.namespace (.ident "again")] (some (.ofText "m")) ] }

theorem bundle_requires_of_repeatedImports :
    ∃ (out : Module) (l : Lowered) (stmts : List Stmt),
      bundle { globalName := "app.api" } (.module repeatedImports) = .ok out ∧
      out.items = stmts.map .stmt ∧ stmtsRequires stmts = ["m", "all", "side", "m"] ∧
      stmtsRequires l.imports = ["m", "all", "side", "m"] ∧
      (l.imports.filterMap requireBinding?).map Prod.fst = ["__import_0", "__import_1"] := by
  have runs : (bundle { globalName := "app.api" } (.module repeatedImports)).isOk := by
    decide +kernel
  obtain ⟨out, bundled⟩ := ok_of_isOk runs
  obtain ⟨l, stmts, -, items, requires, -, imports, names, -⟩ :=
    bundle_requires (by decide) (fun _ => by decide) bundled
  exact ⟨out, l, stmts, bundled, items, requires, imports, names.trans (by decide +kernel)⟩

end Enclose.Bundle
