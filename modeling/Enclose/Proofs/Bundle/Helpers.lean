import Enclose.Proofs.Bundle.Namespace

/-!
# Running the declarations of the helpers

After them the variables of the module hold the helpers that define getters (`executes_helpers`),
and nothing else has changed that they depend on (`Helped`).
-/

namespace Enclose.Bundle
open Script Enclose.Runtime

structure Started (names : List String) (s : Store) : Prop where
  std : Standard s
  scopeCount : s.scopeCount = 2
  module : s.scopes moduleScope "module" = some (.object moduleObject)
  declared : ∀ name ∈ names, (s.scopes moduleScope name).isSome = true

structure Helped (names : List String) (exports : List Export) (s : Store) : Prop
    extends Started names s where
  define : s.scopes moduleScope "__defProp" = some (.object definePropertyFunction)
  helper : exports ≠ [] → ∃ f < s.objectCount,
    s.scopes moduleScope "__export" = some (.object f) ∧ s.objects f = exportFunction

section
variable {names : List String} {exports : List Export} {s : Store} {name : String} {n : Nat}

theorem Started.setVariable (started : Started names s) (other : name ≠ "module") (value : Value) :
    Started names (s.setVariable moduleScope name value) where
  std := started.std.setVariable (by decide) name value
  scopeCount := started.scopeCount
  module := by
    rw [Store.scopes_setVariable_of_name_ne (Ne.symm other)]
    exact started.module
  declared other member := by
    by_cases same : other = name
    · simp [same]
    · rw [Store.scopes_setVariable_of_name_ne same]
      exact started.declared other member

theorem Started.allocate (started : Started names s) (o : Obj) : Started names (s.allocate o) where
  std := started.std.allocate o
  scopeCount := started.scopeCount
  module := started.module
  declared := started.declared

theorem Started.scopeOf? (started : Started names s) (member : name ∈ names) :
    s.scopeOf? moduleEnv name = some moduleScope := by
  simp [Store.scopeOf?, moduleEnv, started.declared name member]

theorem evaluates_own {v : Value} (bound : s.scopes moduleScope name = some v) :
    Evaluates (n + 1) moduleEnv (.ident name) s (.ok (v, s)) :=
  evaluates_ident (by simp [moduleEnv, bound])

theorem Started.executes_declareVar (started : Started names s) (member : name ∈ names) {e : Expr}
    {o : Obj} (made : Evaluates n moduleEnv e s (.ok (.object s.objectCount, s.allocate o))) :
    Executes (n + 1) moduleEnv (.declareVar name e) s
      (.ok ((s.allocate o).setVariable moduleScope name (.object s.objectCount))) :=
  Runtime.executes_declareVar made ((started.allocate o).scopeOf? member)

theorem Helped.declare (helped : Helped names exports s) (name : String) (o : Obj) (value : Value)
    (other : name ∉ ["__defProp", "__export", "module"]) :
    Helped names exports ((s.allocate o).setVariable moduleScope name value) where
  toStarted := (helped.allocate o).setVariable (by rintro rfl; simp at other) value
  define := by
    rw [Store.scopes_setVariable_of_name_ne (by rintro rfl; simp at other)]
    exact helped.define
  helper exporting := by
    obtain ⟨f, below, bound, function⟩ := helped.helper exporting
    refine ⟨f, Nat.lt_succ_of_lt below, ?_, ?_⟩
    · rw [Store.scopes_setVariable_of_name_ne (by rintro rfl; simp at other)]
      exact bound
    · exact (Store.objects_allocate_of_lt below o).trans function

theorem Helped.optional (helped : Helped names exports s) (name : String) (needed : Bool)
    {e : Expr} {o : Obj} (other : name ∉ ["__defProp", "__export", "module"])
    (member : needed = true → name ∈ names)
    (made : ∀ s : Store, Evaluates (n + 1) moduleEnv e s (.ok (.object s.objectCount, s.allocate o))) :
    ∃ s', ExecutesAll (n + 2) moduleEnv (if needed then [.declareVar name e] else []) s (.ok s') ∧
      Helped names exports s' := by
  cases needed with
  | false => exact ⟨s, executesAll_nil, helped⟩
  | true =>
      refine ⟨_, executesAll_cons (helped.executes_declareVar (member rfl) (made s)) executesAll_nil,
        helped.declare name o _ other⟩

theorem executes_definePropertyHelper (started : Started names s) (member : "__defProp" ∈ names)
    (object : moduleEnv.findSome? (s.scopes · "Object") = some (.object objectConstructor)) :
    Executes (n + 3) moduleEnv definePropertyHelper s
      (.ok (s.setVariable moduleScope "__defProp" (.object definePropertyFunction))) := by
  have found : (s.objects objectConstructor).properties.lookup "defineProperty" =
      some ⟨.data (.object definePropertyFunction) true, false, true⟩ := by
    rw [started.std.objects _ (by decide)]
    rfl
  have read := storedValue?_of_own (Nat.zero_lt_of_lt started.std.count) found
  exact Runtime.executes_declareVar (evaluates_member (evaluates_ident object) names_ident read)
    (started.scopeOf? member)

theorem executes_exportHelper (exports : List Export) (started : Started names s)
    (define : s.scopes moduleScope "__defProp" = some (.object definePropertyFunction))
    (member : exports ≠ [] → "__export" ∈ names) :
    ∃ s', ExecutesAll (n + 2) moduleEnv (if exports.isEmpty then [] else [exportHelper]) s (.ok s') ∧
      Helped names exports s' := by
  cases exports with
  | nil => exact ⟨s, executesAll_nil, started, define, fun exporting => absurd rfl exporting⟩
  | cons e rest =>
      have made : Evaluates (n + 1) moduleEnv _ s
          (.ok (.object s.objectCount, s.allocate exportFunction)) := evaluates_arrowBlock _ _
      refine ⟨_, executesAll_cons (started.executes_declareVar (member (by simp)) made)
        executesAll_nil, (started.allocate _).setVariable (by decide) _, ?_, fun _ => ⟨s.objectCount, ?_⟩⟩
      · rw [Store.scopes_setVariable_of_name_ne (by decide)]
        exact define
      · exact ⟨Nat.lt_succ_self _, by simp, by simp⟩

theorem executes_helpers {l : Lowered} (exporting : l.hasExports = true) (started : Started names s)
    (hoisted : ∀ stmt ∈ helpers l, ∀ name ∈ hoistedNames stmt, name ∈ names)
    (object : moduleEnv.findSome? (s.scopes · "Object") = some (.object objectConstructor)) :
    ∃ s', ExecutesAll (n + 3) moduleEnv (helpers l) s (.ok s') ∧ Helped names l.exports s' := by
  have first := executes_definePropertyHelper (n := n) started
    (hoisted definePropertyHelper (by simp [helpers, exporting]) _ (List.mem_singleton_self _)) object
  obtain ⟨s₁, second, helped⟩ := executes_exportHelper (n := n + 1) l.exports
    (started.setVariable (show "__defProp" ≠ "module" by decide) (.object definePropertyFunction))
    (by simp)
    fun present => hoisted exportHelper (by simp [helpers, present]) _ (List.mem_singleton_self _)
  obtain ⟨s₂, third, helped⟩ := helped.optional (n := n + 1) "__reExport" l.reExports
    (by decide) (fun needed => hoisted reExportHelper (by simp [helpers, needed]) _
      (List.mem_singleton_self _)) fun _ => evaluates_arrowBlock _ _
  obtain ⟨s₃, fourth, helped⟩ := helped.optional (n := n + 1) importDefaultName
    l.importDefault (by decide) (fun needed => hoisted importDefaultHelper
      (by simp [helpers, needed]) _ (List.mem_singleton_self _)) fun _ => evaluates_arrow _ _
  refine ⟨s₃, ?_, helped⟩
  rw [helpers, if_pos exporting]
  exact executesAll_append (executesAll_append (executesAll_append
    (executesAll_cons first executesAll_nil) second) third) fourth

end

end Enclose.Bundle
