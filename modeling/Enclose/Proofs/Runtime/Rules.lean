import Enclose.Proofs.Runtime.Store
import Enclose.Script.Build

/-!
# Rules for running code

What each kind of expression and statement does (`Evaluates`, `Executes`, `Calls`), for a machine
that is deep enough.
-/

namespace Enclose.Runtime
open Script Enclose.Bundle

section
variable {α β : Type} {x : Run α} {f : α → Run β} {s s' : Store} {a : α} {e : Abrupt}

theorem run_bind_of_ok (done : x.run s = .ok (a, s')) : (x >>= f).run s = (f a).run s' := by
  rw [StateT.run_bind, done]
  rfl

theorem run_get_bind {f : Store → Run β} : (get >>= f).run s = (f s).run s := rfl

theorem run_modify_bind {change : Store → Store} {f : PUnit → Run β} :
    (modify change >>= f).run s = (f ⟨⟩).run (change s) := rfl

theorem run_bind_of_error (stopped : x.run s = .error e) : (x >>= f).run s = .error e := by
  rw [StateT.run_bind, stopped]
  rfl

end

/-- What a property is read as; none where a function is called. -/
def storedValue? : Option OwnProperty → Option Value
  | none => some .undefined
  | some ⟨.data value _, _, _⟩ => some value
  | some ⟨.accessor _ _, _, _⟩ => none

theorem readProperty_of_stored {m : Machine} {s : Store} {ref : Nat} {name : String} {v : Value}
    (read : storedValue? (s.property? ref name) = some v) :
    (readProperty m (.object ref) name).run s = .ok (v, s) := by
  rw [readProperty, run_get_bind]
  cases found : s.property? ref name with
  | none =>
      rw [found] at read
      cases read
      simp only [found]
      rfl
  | some p =>
      rw [found] at read
      rcases p with ⟨value | accessor, enumerable, configurable⟩ <;> cases read
      simp only [found]
      rfl

theorem storedValue?_of_own {s : Store} {ref : Nat} {name : String} {v : Value}
    {writable enumerable configurable : Bool} (objects : 0 < s.objectCount)
    (found : (s.objects ref).properties.lookup name =
      some ⟨.data v writable, enumerable, configurable⟩) :
    storedValue? (s.property? ref name) = some v := by
  rw [property?_of_own objects found]
  rfl

/-- What an expression comes to in a machine that has at least some depth. -/
def Evaluates (n : Nat) (env : Env) (e : Expr) (s : Store) (r : Except Abrupt (Value × Store)) :
    Prop :=
  ∀ k, n ≤ k → ((machine k).expr env e).run s = r

def Calls (n : Nat) (f : Value) (args : List Value) (s : Store)
    (r : Except Abrupt (Value × Store)) : Prop :=
  ∀ k, n ≤ k → ((machine k).call f args).run s = r

/-- What a statement does that does not return. -/
def Executes (n : Nat) (env : Env) (stmt : Stmt) (s : Store) (r : Except Abrupt Store) : Prop :=
  ∀ k, n ≤ k → ((machine k).stmt env stmt).run s = r.map (.normal, ·)

def ExecutesAll (n : Nat) (env : Env) (stmts : List Stmt) (s : Store) (r : Except Abrupt Store) :
    Prop :=
  ∀ k, n ≤ k → (executeAll (machine k) env stmts).run s = r.map (.normal, ·)

def Loops (n : Nat) (env : Env) (name : String) (body : Stmt) (keys : List String) (s : Store)
    (r : Except Abrupt Store) : Prop :=
  ∀ k, n ≤ k →
    (executeForKeys (fun key => do writeVariable env name (.text key); (machine k).stmt env body)
      keys).run s = r.map (.normal, ·)

def Arguments (n : Nat) (env : Env) (args : List Expr) (s : Store) (values : List Value)
    (s' : Store) : Prop :=
  ∀ k, n ≤ k → ((args.map (Element.item 0)).mapM (argument (machine k) env)).run s =
    .ok (values, s')

def Fills (n : Nat) (env : Env) (ref : Nat) (properties : List (PropertyKey × Expr)) (s s' : Store) :
    Prop :=
  ∀ k, n ≤ k →
    ((properties.map fun (key, value) => Property.keyed 0 key 0 value).forM
      (addProperty (machine k) env ref)).run s = .ok ((), s')

def Names (n : Nat) (env : Env) (key : PropertyKey) (s : Store) (name : String) : Prop :=
  ∀ k, n ≤ k → (propertyName (machine k) env key).run s = .ok (name, s)

section
variable {n : Nat} {env : Env} {e : Expr} {stmt : Stmt} {s s₁ s₂ : Store} {f v : Value}
  {args : List Value} {r : Except Abrupt (Value × Store)} {r' : Except Abrupt Store}
  {name : String} {ref : Nat}

theorem Evaluates.mono {m : Nat} (evaluates : Evaluates n env e s r) (le : n ≤ m) :
    Evaluates m env e s r :=
  fun k deep => evaluates k (Nat.le_trans le deep)

theorem ExecutesAll.mono {m : Nat} {stmts : List Stmt} (executes : ExecutesAll n env stmts s r')
    (le : n ≤ m) : ExecutesAll m env stmts s r' :=
  fun k deep => executes k (Nat.le_trans le deep)

/-- Each part of some code is run by a machine of one depth less. -/
theorem deeper {p : Machine → Prop}
    (step : ∀ k, n ≤ k → p ⟨evaluate (machine k), execute (machine k), call (machine k)⟩) :
    ∀ k, n + 1 ≤ k → p (machine k)
  | k + 1, deep => step k (Nat.le_of_succ_le_succ deep)

theorem evaluates_of_evaluate
    (step : ∀ k, n ≤ k → (evaluate (machine k) env e).run s = r) : Evaluates (n + 1) env e s r :=
  deeper (p := fun m => (m.expr env e).run s = r) step

theorem calls_of_call
    (step : ∀ k, n ≤ k → (call (machine k) f args).run s = r) : Calls (n + 1) f args s r :=
  deeper (p := fun m => (m.call f args).run s = r) step

theorem executes_of_execute
    (step : ∀ k, n ≤ k → (execute (machine k) env stmt).run s = r'.map (.normal, ·)) :
    Executes (n + 1) env stmt s r' :=
  deeper (p := fun m => (m.stmt env stmt).run s = r'.map (.normal, ·)) step

theorem evaluates_ident (found : env.findSome? (s.scopes · name) = some v) :
    Evaluates (n + 1) env (.ident name) s (.ok (v, s)) := by
  refine evaluates_of_evaluate fun _ _ => ?_
  simp only [evaluate, readVariable]
  rw [run_get_bind, found]
  rfl

theorem evaluates_bool (b : Bool) : Evaluates (n + 1) env (.bool b) s (.ok (.bool b, s)) :=
  evaluates_of_evaluate fun _ _ => rfl

theorem evaluates_text (text : String) :
    Evaluates (n + 1) env (.text text) s (.ok (.text text, s)) :=
  evaluates_of_evaluate fun _ _ => rfl

theorem evaluates_arrow (params : List Pattern) (value : Expr) :
    Evaluates (n + 1) env (.arrow false params value) s
      (.ok (.object s.objectCount,
        s.allocate (closure env params [.return (some value)]))) :=
  evaluates_of_evaluate fun _ _ => rfl

theorem evaluates_arrowBlock (params : List Pattern) (body : List Stmt) :
    Evaluates (n + 1) env (.arrowBlock false params body) s
      (.ok (.object s.objectCount, s.allocate (closure env params body))) :=
  evaluates_of_evaluate fun _ _ => rfl

theorem evaluates_objectOf {properties : List (PropertyKey × Expr)}
    (fills : Fills n env s.objectCount properties
      (s.allocate { proto := some objectPrototype }) s₁) :
    Evaluates (n + 1) env (.objectOf properties) s (.ok (.object s.objectCount, s₁)) := by
  refine evaluates_of_evaluate fun k deep => ?_
  simp only [Expr.objectOf, evaluate]
  rw [run_get_bind, run_bind_of_ok (a := .object s.objectCount) rfl,
    run_bind_of_ok (fills k deep)]
  rfl

theorem evaluates_member {object : Expr} {key : PropertyKey}
    (evaluated : Evaluates n env object s (.ok (.object ref, s₁))) (named : Names n env key s₁ name)
    (read : storedValue? (s₁.property? ref name) = some v) :
    Evaluates (n + 1) env (.member object key) s (.ok (v, s₁)) := by
  refine evaluates_of_evaluate fun k deep => ?_
  rw [evaluate_member, run_bind_of_ok (evaluated k deep), run_bind_of_ok (named k deep),
    readProperty_of_stored read]

theorem evaluates_member_of_undefined {object : Expr} {key : PropertyKey}
    (evaluated : Evaluates n env object s (.ok (.undefined, s₁)))
    (named : Names n env key s₁ name) :
    Evaluates (n + 1) env (.member object key) s (.error .typeError) := by
  refine evaluates_of_evaluate fun k deep => ?_
  rw [evaluate_member, run_bind_of_ok (evaluated k deep), run_bind_of_ok (named k deep),
    readProperty, run_get_bind]
  rfl

theorem evaluates_assign {object value : Expr} {key : PropertyKey} {p : OwnProperty}
    (evaluated : Evaluates n env object s (.ok (.object ref, s₁))) (named : Names n env key s₁ name)
    (assigned : Evaluates n env value s₁ (.ok (v, s₂)))
    (written : assigned? v ((s₂.objects ref).properties.lookup name) (s₂.property? ref name) =
      some p) :
    Evaluates (n + 1) env (.assign .assign (.expr (.member object key)) value) s
      (.ok (v, s₂.setProperty ref name p)) := by
  refine evaluates_of_evaluate fun k deep => ?_
  simp only [evaluate]
  rw [run_bind_of_ok (evaluated k deep), run_bind_of_ok (named k deep),
    run_bind_of_ok (assigned k deep), writeProperty, bind_assoc, run_get_bind]
  simp only [written]
  rfl

theorem evaluates_or_of_truthy {first : Expr} (second : Expr)
    (evaluated : Evaluates n env first s (.ok (v, s₁))) (holds : truthy v = true) :
    Evaluates (n + 1) env (.binary .logicalOr first second) s (.ok (v, s₁)) := by
  refine evaluates_of_evaluate fun k deep => ?_
  simp only [evaluate]
  rw [run_bind_of_ok (evaluated k deep), holds]
  rfl

theorem evaluates_or_of_falsy {first second : Expr}
    (evaluated : Evaluates n env first s (.ok (v, s₁))) (falsy : truthy v = false)
    (other : Evaluates n env second s₁ r) :
    Evaluates (n + 1) env (.binary .logicalOr first second) s r := by
  refine evaluates_of_evaluate fun k deep => ?_
  simp only [evaluate]
  rw [run_bind_of_ok (evaluated k deep), falsy]
  exact other k deep

theorem evaluates_callWith {callee : Expr} {exprs : List Expr}
    (evaluated : Evaluates n env callee s (.ok (f, s₁))) (arguments : Arguments n env exprs s₁ args s₂)
    (calls : Calls n f args s₂ r) : Evaluates (n + 1) env (.callWith callee exprs) s r := by
  refine evaluates_of_evaluate fun k deep => ?_
  simp only [Expr.callWith, evaluate]
  rw [run_bind_of_ok (evaluated k deep), run_bind_of_ok (arguments k deep)]
  exact calls k deep

theorem names_ident : Names n env (.ident name) s name := fun _ _ => rfl

theorem names_string {lit : StringLit} : Names n env (.string lit) s lit.value := fun _ _ => rfl

theorem names_computed (evaluated : Evaluates n env e s (.ok (.text name, s))) :
    Names n env (.computed e) s name := by
  intro k deep
  rw [propertyName, run_bind_of_ok (evaluated k deep)]
  rfl

theorem arguments_nil : Arguments n env [] s [] s := fun _ _ => rfl

theorem arguments_cons {exprs : List Expr} (evaluated : Evaluates n env e s (.ok (v, s₁)))
    (others : Arguments n env exprs s₁ args s₂) : Arguments n env (e :: exprs) s (v :: args) s₂ := by
  intro k deep
  rw [List.map_cons, List.mapM_cons]
  simp only [argument]
  rw [run_bind_of_ok (evaluated k deep), run_bind_of_ok (others k deep)]
  rfl

theorem fills_nil : Fills n env ref [] s s := fun _ _ => rfl

theorem fills_property {key : PropertyKey} {others : List (PropertyKey × Expr)}
    (named : Names n env key s name) (plain : name ≠ "__proto__")
    (evaluated : Evaluates n env e s (.ok (v, s₁)))
    (rest : Fills n env ref others (s₁.setProperty ref name ⟨.data v true, true, true⟩) s₂) :
    Fills n env ref ((key, e) :: others) s s₂ := by
  intro k deep
  simp only [List.map_cons, List.forM_eq_forM, List.forM_cons, addProperty, bind_assoc]
  rw [run_bind_of_ok (named k deep), run_bind_of_ok (evaluated k deep), if_neg (by simp [plain])]
  exact rest k deep

theorem fills_prototype {lit : StringLit} {others : List (PropertyKey × Expr)} {proto : Nat}
    (special : lit.value = "__proto__") (evaluated : Evaluates n env e s (.ok (.object proto, s₁)))
    (rest : Fills n env ref others (s₁.setPrototype ref proto) s₂) :
    Fills n env ref ((.string lit, e) :: others) s s₂ := by
  intro k deep
  simp only [List.map_cons, List.forM_eq_forM, List.forM_cons, addProperty, bind_assoc]
  rw [run_bind_of_ok (names_string (n := n) k deep), run_bind_of_ok (evaluated k deep),
    if_pos (by simp [special, isComputed])]
  exact rest k deep

theorem executeAll_append (m : Machine) (first rest : List Stmt) :
    executeAll m env (first ++ rest) = (do
      match ← executeAll m env first with
      | .normal => executeAll m env rest
      | .returned value => return .returned value) := by
  induction first with
  | nil => rfl
  | cons stmt first ih =>
      rw [List.cons_append, executeAll, executeAll, bind_assoc]
      congr 1
      funext completion
      cases completion with
      | normal => exact ih
      | returned value => rfl

theorem executes_expr (evaluated : Evaluates n env e s r) :
    Executes (n + 1) env (.expr e) s (r.map Prod.snd) := by
  refine executes_of_execute fun k deep => ?_
  cases r with
  | error stopped =>
      rw [execute, run_bind_of_error (evaluated k deep)]
      rfl
  | ok done =>
      rw [execute, run_bind_of_ok (evaluated k deep)]
      rfl

theorem execute_declareVar (m : Machine) (env : Env) (name : String) (value : Expr) :
    execute m env (.declareVar name value) = (do
      writeVariable env name (← m.expr env value)
      return .normal) := by
  rw [Stmt.declareVar, Stmt.declare, execute]
  simp [startVariable]

theorem executes_declareVar {scope : Nat} (evaluated : Evaluates n env e s (.ok (v, s₁)))
    (visible : s₁.scopeOf? env name = some scope) :
    Executes (n + 1) env (.declareVar name e) s (.ok (s₁.setVariable scope name v)) := by
  refine executes_of_execute fun k deep => ?_
  rw [execute_declareVar, run_bind_of_ok (evaluated k deep), writeVariable, bind_assoc,
    run_get_bind, visible]
  rfl

theorem executes_declareVar_of_error {stopped : Abrupt}
    (evaluated : Evaluates n env e s (.error stopped)) :
    Executes (n + 1) env (.declareVar name e) s (.error stopped) := by
  refine executes_of_execute fun k deep => ?_
  rw [execute_declareVar, run_bind_of_error (evaluated k deep)]
  rfl

theorem executes_forIn {body : Stmt} (evaluated : Evaluates n env e s (.ok (.object ref, s₁)))
    (loops : Loops n env name body (s₁.keysOf ref) s₁ r') :
    Executes (n + 1) env (.forIn (.var .var [.ident name]) e body) s r' := by
  refine executes_of_execute fun k deep => ?_
  rw [execute, run_bind_of_ok (evaluated k deep)]
  simp only
  rw [run_get_bind]
  exact loops k deep

theorem executesAll_nil : ExecutesAll n env [] s (.ok s) := fun _ _ => rfl

theorem executesAll_cons {rest : List Stmt} (first : Executes n env stmt s (.ok s₁))
    (others : ExecutesAll n env rest s₁ r') : ExecutesAll n env (stmt :: rest) s r' := by
  intro k deep
  rw [executeAll, run_bind_of_ok (first k deep)]
  exact others k deep

theorem executesAll_cons_of_error {rest : List Stmt} {stopped : Abrupt}
    (first : Executes n env stmt s (.error stopped)) :
    ExecutesAll n env (stmt :: rest) s (.error stopped) := by
  intro k deep
  rw [executeAll, run_bind_of_error (first k deep)]
  rfl

theorem executesAll_append {first rest : List Stmt} (before : ExecutesAll n env first s (.ok s₁))
    (others : ExecutesAll n env rest s₁ r') : ExecutesAll n env (first ++ rest) s r' := by
  intro k deep
  rw [executeAll_append, run_bind_of_ok (before k deep)]
  exact others k deep

theorem executesAll_append_of_error {first rest : List Stmt} {stopped : Abrupt}
    (before : ExecutesAll n env first s (.error stopped)) :
    ExecutesAll n env (first ++ rest) s (.error stopped) := by
  intro k deep
  rw [executeAll_append, run_bind_of_error (before k deep)]
  rfl

theorem loops_nil {body : Stmt} : Loops n env name body [] s (.ok s) := fun _ _ => rfl

theorem loops_cons {body : Stmt} {key : String} {keys : List String} {scope : Nat}
    (visible : s.scopeOf? env name = some scope)
    (first : Executes n env body (s.setVariable scope name (.text key)) (.ok s₁))
    (others : Loops n env name body keys s₁ r') : Loops n env name body (key :: keys) s r' := by
  intro k deep
  simp only [executeForKeys, writeVariable, bind_assoc]
  rw [run_get_bind, visible]
  simp only
  rw [run_modify_bind, run_bind_of_ok (first k deep)]
  exact others k deep

theorem loops_cons_of_error {body : Stmt} {key : String} {keys : List String} {scope : Nat}
    {stopped : Abrupt} (visible : s.scopeOf? env name = some scope)
    (first : Executes n env body (s.setVariable scope name (.text key)) (.error stopped)) :
    Loops n env name body (key :: keys) s (.error stopped) := by
  intro k deep
  simp only [executeForKeys, writeVariable, bind_assoc]
  rw [run_get_bind, visible]
  simp only
  rw [run_modify_bind, run_bind_of_error (first k deep)]
  rfl

theorem calls_closure {params : List Pattern} {body : List Stmt} {within : Env}
    {bindings : List (String × Value)} (function : s.objects ref = closure within params body)
    (bound : (bindParams params args).run s = .ok (bindings, s))
    (executes : ExecutesAll n (s.scopeCount :: within) body
      (s.enter (newVariables bindings (body.flatMap hoistedNames))) r') :
    Calls (n + 1) (.object ref) args s (r'.map (.undefined, ·)) := by
  refine calls_of_call fun k deep => ?_
  rw [call, run_get_bind]
  simp only [function, closure]
  rw [run_bind_of_ok bound, run_modify_bind]
  have ran := executes k deep
  cases r' with
  | error stopped => rw [run_bind_of_error ran]; rfl
  | ok done => rw [run_bind_of_ok ran]; rfl

end

def literalTable (entries : List (String × Value)) : Table :=
  entries.map fun (key, value) => (key, ⟨.data value true, true, true⟩)

def describe (entries : List (String × Value)) : Descriptor where
  enumerable := (entries.lookup "enumerable").map truthy
  configurable := (entries.lookup "configurable").map truthy
  value := entries.lookup "value"
  writable := (entries.lookup "writable").map truthy
  get := entries.lookup "get"
  set := entries.lookup "set"

theorem lookup_literalTable (entries : List (String × Value)) (key : String) :
    (literalTable entries).lookup key =
      (entries.lookup key).map fun value => ⟨.data value true, true, true⟩ := by
  induction entries with
  | nil => rfl
  | cons entry rest ih =>
      obtain ⟨name, value⟩ := entry
      by_cases same : key = name
      · simp [literalTable, Table.lookup, same]
      · have different : (key == name) = false := by simpa using same
        simpa [literalTable, Table.lookup, List.lookup_cons, different, Ne.symm same] using ih

structure IsLiteral (s : Store) (ref : Nat) (entries : List (String × Value)) : Prop where
  own : InheritsNothing s ref
  properties : (s.objects ref).properties = literalTable entries

def literalObject (entries : List (String × Value)) : Obj :=
  { proto := some objectPrototype, properties := literalTable entries }

section
variable {s : Store} {ref target : Nat} {entries : List (String × Value)} {m : Machine}
  {key : String}

theorem isLiteral_allocate (std : Standard s) (entries : List (String × Value)) :
    IsLiteral (s.allocate (literalObject entries)) s.objectCount entries where
  own := inheritsNothing_of_object (std.allocate _) (by simp [literalObject])
  properties := by simp [literalObject]

theorem readField_of_isLiteral (literal : IsLiteral s ref entries) :
    (readField m ref key).run s = .ok (entries.lookup key, s) := by
  have found : s.property? ref key =
      (entries.lookup key).map fun value => ⟨.data value true, true, true⟩ := by
    rw [property?_of_inheritsNothing literal.own, literal.properties, lookup_literalTable]
  rw [readField, run_get_bind, found]
  cases entry : entries.lookup key with
  | none => rfl
  | some value =>
      simp only [Option.map_some, Option.isSome_some, if_true, readProperty, bind_assoc]
      rw [run_get_bind, found, entry]
      rfl

theorem readFunctionField_of_isLiteral (literal : IsLiteral s ref entries)
    (function : ∀ v ∈ entries.lookup key, v = .undefined ∨ s.isFunction v = true) :
    (readFunctionField m ref key).run s = .ok (entries.lookup key, s) := by
  rw [readFunctionField, run_bind_of_ok (readField_of_isLiteral literal), run_get_bind, if_pos]
  · rfl
  · cases entry : entries.lookup key with
    | none => rfl
    | some v => simpa using function v entry

theorem readDescriptor_of_isLiteral (literal : IsLiteral s ref entries)
    (functions : ∀ key ∈ ["get", "set"], ∀ v ∈ entries.lookup key,
      v = .undefined ∨ s.isFunction v = true)
    (oneKind : ((describe entries).isData && (describe entries).isAccessor) = false) :
    (readDescriptor m ref).run s = .ok (describe entries, s) := by
  have get := readFunctionField_of_isLiteral (m := m) literal (functions "get" (by simp))
  have set := readFunctionField_of_isLiteral (m := m) literal (functions "set" (by simp))
  rw [readDescriptor, run_bind_of_ok (readField_of_isLiteral literal),
    run_bind_of_ok (readField_of_isLiteral literal),
    run_bind_of_ok (readField_of_isLiteral literal),
    run_bind_of_ok (readField_of_isLiteral literal), run_bind_of_ok get, run_bind_of_ok set]
  exact congrArg (StateT.run · s) (if_neg (by simpa [describe] using oneKind))

theorem calls_defineProperty {n : Nat} {d : Descriptor} {attributes : Nat} {p : Option OwnProperty}
    (std : Standard s) (described : ∀ m, (readDescriptor m attributes).run s = .ok (d, s))
    (applied : d.outcome? ((s.objects target).properties.lookup key) = p) :
    Calls (n + 1) (.object definePropertyFunction) [.object target, .text key, .object attributes] s
      (p.elim (.error .typeError) fun p => .ok (.object target, s.setProperty target key p)) := by
  refine calls_of_call fun k _ => ?_
  have function : (s.objects definePropertyFunction).code = some .defineProperty := by
    rw [std.objects _ (by decide)]
    rfl
  rw [call, run_get_bind]
  simp only [function, defineProperty]
  rw [run_bind_of_ok (described _), run_get_bind, applied]
  cases p with
  | none => rfl
  | some p => rfl

end

end Enclose.Runtime
