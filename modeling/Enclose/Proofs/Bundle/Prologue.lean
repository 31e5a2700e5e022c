import Enclose.Proofs.Bundle.Helpers
import Enclose.Proofs.Bundle.Scope

/-!
# Running the prologue

The statements in front of a module leave an object with the mark and a getter for each exported
name, unless one of the names is `__proto__`, which gets none, or `__esModule`, where they stop
(`opening_isNamespace_iff`).
-/

namespace Enclose.Bundle
open Script Enclose.Runtime

def markedObject : List Stmt :=
  [ .declareVar exportsName (.object []),
    .call (.ident "__defProp")
      [.ident exportsName, .text "__esModule", .objectOf [(.ident "value", .bool true)]] ]

def definedGetters (exports : List Export) : List Stmt :=
  if exports.isEmpty then []
  else [.call (.ident "__export") [.ident exportsName, getterTable exports]]

structure Marked (exports : List Export) (target : Nat) (s : Store) : Prop where
  std : Standard s
  scopeCount : s.scopeCount = 2
  module : s.scopes moduleScope "module" = some (.object moduleObject)
  define : s.scopes moduleScope "__defProp" = some (.object definePropertyFunction)
  helper : exports ≠ [] → ∃ f < s.objectCount,
    s.scopes moduleScope "__export" = some (.object f) ∧ s.objects f = exportFunction
  exported : s.scopes moduleScope exportsName = some (.object target)
  made : builtinCount ≤ target
  below : target < s.objectCount
  properties : (s.objects target).properties = [("__esModule", exportsMark)]

section
variable {names : List String} {exports : List Export} {s : Store} {target n : Nat}

theorem executes_mark (helped : Helped names exports s)
    (exported : s.scopes moduleScope exportsName = some (.object target))
    (bare : s.objects target = { proto := some objectPrototype }) (below : target < s.objectCount) :
    Executes (n + 4) moduleEnv
      (.call (.ident "__defProp")
        [.ident exportsName, .text "__esModule", .objectOf [(.ident "value", .bool true)]]) s
      (.ok ((s.allocate (literalObject [("value", .bool true)])).setProperty target "__esModule"
        exportsMark)) := by
  have literal : Evaluates (n + 2) moduleEnv (.objectOf [(.ident "value", .bool true)]) s
      (.ok (.object s.objectCount, s.allocate (literalObject [("value", .bool true)]))) := by
    refine evaluates_objectOf (fills_property names_ident (by decide) (evaluates_bool true) ?_)
    rw [Store.setProperty_allocate]
    exact fills_nil
  have described (m : Machine) : (readDescriptor m s.objectCount).run
      (s.allocate (literalObject [("value", .bool true)])) =
        .ok ({ value := some (.bool true) },
          s.allocate (literalObject [("value", .bool true)])) := by
    refine readDescriptor_of_isLiteral (isLiteral_allocate helped.std _) ?_ rfl
    intro field ours v found
    rcases List.mem_pair.1 ours with rfl | rfl
    · cases found
    · cases found
  -- The object has just been made, so there is nothing that the mark could contradict.
  have fresh : Descriptor.outcome? { value := some (.bool true) }
      (((s.allocate (literalObject [("value", .bool true)])).objects target).properties.lookup
        "__esModule") = some exportsMark := by
    rw [Store.objects_allocate_of_lt below, bare]
    rfl
  exact executes_expr (evaluates_callWith (evaluates_own helped.define)
    (arguments_cons (evaluates_own exported) (arguments_cons (evaluates_text _)
      (arguments_cons literal arguments_nil)))
    (calls_defineProperty (n := n + 1) (helped.std.allocate _) described fresh))

theorem Helped.marked (helped : Helped names exports s)
    (exported : s.scopes moduleScope exportsName = some (.object target))
    (bare : s.objects target = { proto := some objectPrototype }) (below : target < s.objectCount)
    (made : builtinCount ≤ target) (o : Obj) :
    Marked exports target ((s.allocate o).setProperty target "__esModule" exportsMark) := by
  refine ⟨(helped.std.allocate o).setObject made _, helped.scopeCount, helped.module,
    helped.define, ?_, exported, made, Nat.lt_succ_of_lt below, ?_⟩
  · intro exporting
    obtain ⟨f, earlier, bound, function⟩ := helped.helper exporting
    have apart : f ≠ target := by
      rintro rfl
      rw [bare] at function
      cases congrArg Obj.code function
    refine ⟨f, Nat.lt_succ_of_lt earlier, bound, ?_⟩
    rw [Store.setProperty, Store.objects_setObject_of_ne apart,
      Store.objects_allocate_of_lt earlier, function]
  · simp [Store.setProperty, Store.objects_allocate_of_lt below, bare, Table.insert]

theorem executes_markedObject (helped : Helped names exports s) (member : exportsName ∈ names) :
    ∃ s' target, ExecutesAll (n + 4) moduleEnv markedObject s (.ok s') ∧
      Marked exports target s' := by
  have made : Evaluates (n + 3) moduleEnv (.objectOf []) s
      (.ok (.object s.objectCount, s.allocate { proto := some objectPrototype })) :=
    evaluates_objectOf fills_nil
  have declared := helped.declare exportsName { proto := some objectPrototype }
    (.object s.objectCount) (by decide)
  have exported : ((s.allocate { proto := some objectPrototype }).setVariable moduleScope exportsName
      (.object s.objectCount)).scopes moduleScope exportsName = some (.object s.objectCount) :=
    Store.scopes_setVariable_self _
  have bare := Store.objects_allocate_self (s := s) { proto := some objectPrototype }
  have below : s.objectCount < s.objectCount + 1 := Nat.lt_succ_self _
  exact ⟨_, s.objectCount, executesAll_cons (helped.executes_declareVar member made)
    (executesAll_cons (executes_mark declared exported bare below) executesAll_nil),
    declared.marked exported bare below helped.std.count _⟩

theorem filled_nil (s : Store) :
    Filled s s.objectCount [] (s.allocate { proto := some objectPrototype }) where
  older _ below := Store.objects_allocate_of_lt below _
  count := Nat.lt_succ_self _
  scopes := rfl
  scopeCount := rfl
  keys := by simp [Table.keys, exportedNames]
  entries _ member := absurd member List.not_mem_nil
  proto := .inl (by simp)

theorem Filled.standard {base : Store} {table : Nat} (filled : Filled base table exports s)
    (std : Standard base) (later : builtinCount ≤ table) : Standard s where
  objects ref below :=
    (filled.older ref (Nat.lt_of_lt_of_le below later)).trans (std.objects ref below)
  count := Nat.le_trans later (Nat.le_of_lt filled.count)
  global := (congrFun filled.scopes _).trans std.global

theorem Marked.fill {s' : Store} (marked : Marked exports target s)
    (filled : Filled s s.objectCount exports s') : Marked exports target s' where
  std := filled.standard marked.std marked.std.count
  scopeCount := filled.scopeCount.trans marked.scopeCount
  module := (congrFun (congrFun filled.scopes _) _).trans marked.module
  define := (congrFun (congrFun filled.scopes _) _).trans marked.define
  helper exporting := by
    obtain ⟨f, below, bound, function⟩ := marked.helper exporting
    exact ⟨f, Nat.lt_trans below filled.count, by rw [filled.scopes, bound],
      by rw [filled.older f below, function]⟩
  exported := (congrFun (congrFun filled.scopes _) _).trans marked.exported
  made := marked.made
  below := Nat.lt_trans marked.below filled.count
  properties := by rw [filled.older target marked.below, marked.properties]

theorem Marked.executes_export (marked : Marked exports target s) (exporting : exports ≠ [])
    (distinct : (exportedNames exports).Nodup) :
    ∃ f s', Filled s s.objectCount exports s' ∧ s'.objects f = exportFunction ∧
      ∀ r, Calls (n + 2) (.object f) [.object target, .object s.objectCount] s' r →
        Executes (n + 4) moduleEnv
          (.call (.ident "__export") [.ident exportsName, getterTable exports]) s
          (r.map Prod.snd) := by
  obtain ⟨f, earlier, bound, function⟩ := marked.helper exporting
  obtain ⟨s', fills, filled⟩ := fills_getters (n := n) exports (filled_nil s) (by simpa using distinct)
  refine ⟨f, s', filled, by rw [filled.older f earlier, function], fun r calls => ?_⟩
  exact executes_expr (evaluates_callWith (evaluates_own bound)
    (arguments_cons (evaluates_own marked.exported)
      (arguments_cons (evaluates_objectOf fills) arguments_nil)) calls)

theorem Marked.exports_stop (marked : Marked exports target s)
    (distinct : (exportedNames exports).Nodup) (refused : "__esModule" ∈ exportedNames exports) :
    ExecutesAll (n + 9) moduleEnv (definedGetters exports) s (.error .typeError) := by
  have exporting : exports ≠ [] := List.ne_nil_of_mem (List.mem_map.1 refused).choose_spec.1
  obtain ⟨f, s', filled, helper, executes⟩ :=
    marked.executes_export (n := n + 5) exporting distinct
  have marked' := marked.fill filled
  have stops := exportFunction_stops (n := n) filled marked'.std (by rw [marked'.scopeCount]; decide)
    marked'.define helper marked.made marked.below distinct marked'.properties refused
  rw [definedGetters, if_neg (by simpa using exporting)]
  exact executesAll_cons_of_error (executes _ stops)

structure Finished (exports : List Export) (target : Nat) (s : Store) : Prop where
  std : Standard s
  module : s.scopes moduleScope "module" = some (.object moduleObject)
  exported : s.scopes moduleScope exportsName = some (.object target)
  made : builtinCount ≤ target
  namespaces : IsNamespace s target (plainExports exports)

theorem Marked.exports_defined (marked : Marked exports target s)
    (distinct : (exportedNames exports).Nodup) (unmarked : "__esModule" ∉ exportedNames exports) :
    ∃ s', ExecutesAll (n + 9) moduleEnv (definedGetters exports) s (.ok s') ∧
      Finished exports target s' := by
  by_cases exporting : exports = []
  · subst exporting
    refine ⟨s, executesAll_nil, marked.std, marked.module, marked.exported, marked.made, ?_⟩
    have keys : (s.objects target).properties.keys = ["__esModule"] := by
      rw [marked.properties]
      rfl
    exact ⟨by simp [keys], by simp [keys, plainExports, exportedNames],
      fun _ => by rw [marked.properties]; rfl, fun e member => absurd member List.not_mem_nil⟩
  · obtain ⟨f, s', filled, helper, executes⟩ :=
      marked.executes_export (n := n + 5) exporting distinct
    have marked' := marked.fill filled
    obtain ⟨s'', defines, std, scopes, namespaces⟩ := exportFunction_defines (n := n) filled
      marked'.std (by rw [marked'.scopeCount]; decide) marked'.define helper marked.made
      marked.below distinct marked'.properties unmarked
    refine ⟨s'', ?_, std, by rw [scopes, marked'.module], by rw [scopes, marked'.exported],
      marked.made, namespaces⟩
    rw [definedGetters, if_neg (by simpa using exporting)]
    exact executesAll_cons (executes _ defines) executesAll_nil

end

def prologueNames (l : Lowered) : List String := (prologue l).flatMap hoistedNames

def startOf (declared : List String) (l : Lowered) : Store :=
  initialStore (declared ++ prologueNames l)

section
variable {l : Lowered} {declared : List String} {n : Nat}

theorem prologueNames_of_mem (stmt : Stmt) (member : stmt ∈ prologue l) {name : String}
    (hoisted : name ∈ hoistedNames stmt) : name ∈ declared ++ prologueNames l :=
  List.mem_append_right _ (List.mem_flatMap.2 ⟨stmt, member, hoisted⟩)

theorem prologueNames_eq : prologueNames l =
    (if l.hasExports then ["__defProp"] else []) ++
      (if l.exports.isEmpty then [] else ["__export"]) ++
      (if l.reExports then ["__reExport"] else []) ++
      (if l.importDefault then [importDefaultName] else []) ++
      if l.hasExports then [exportsName] else [] := by
  unfold prologueNames prologue helpers exportsObject
  cases l.hasExports <;> cases l.exports.isEmpty <;> cases l.reExports <;> cases l.importDefault
  all_goals rfl

theorem object_not_mem_prologueNames : "Object" ∉ prologueNames l := by
  rw [prologueNames_eq]
  cases l.hasExports <;> cases l.exports.isEmpty <;> cases l.reExports <;> cases l.importDefault
  all_goals decide

theorem started (declared : List String) (l : Lowered) :
    Started (declared ++ prologueNames l) (startOf declared l) where
  std := ⟨fun _ _ => rfl, Nat.le_refl _, rfl⟩
  scopeCount := rfl
  module := by simp [startOf, initialStore, moduleScope, newVariables]
  declared name member := by
    rw [startOf, initialStore]
    simp only [moduleScope, newVariables, if_pos member]
    cases List.lookup name [("module", Value.object moduleObject)] <;> rfl

theorem prologue_eq (exporting : l.hasExports = true) :
    prologue l = helpers l ++ (markedObject ++ definedGetters l.exports) := by
  rw [prologue, exportsObject, if_pos exporting]
  rfl

theorem executes_prologue (exporting : l.hasExports = true) (free : "Object" ∉ declared) :
    ∃ s target, Marked l.exports target s ∧ ∀ r,
      ExecutesAll (n + 4) moduleEnv (definedGetters l.exports) s r →
      ExecutesAll (n + 4) moduleEnv (prologue l) (startOf declared l) r := by
  have object : moduleEnv.findSome? ((startOf declared l).scopes · "Object") =
      some (.object objectConstructor) := by
    have hidden : "Object" ∉ declared ++ prologueNames l := by
      simp [free, object_not_mem_prologueNames]
    simp [moduleEnv, startOf, initialStore, moduleScope, globalScope, newVariables, List.lookup_cons,
      hidden]
  obtain ⟨s₁, first, helped⟩ := executes_helpers (n := n + 1) exporting (started declared l)
    (fun stmt member name => prologueNames_of_mem stmt (List.mem_append_left _ member)) object
  obtain ⟨s₂, target, second, marked⟩ := executes_markedObject (n := n) helped
    (prologueNames_of_mem (.declareVar exportsName (.object []))
      (by simp [prologue_eq exporting, markedObject]) (List.mem_singleton_self _))
  refine ⟨s₂, target, marked, fun r last => ?_⟩
  rw [prologue_eq exporting]
  exact executesAll_append first (executesAll_append second last)

theorem prologue_stops_of_declared (exporting : l.hasExports = true) (hides : "Object" ∈ declared) :
    ExecutesAll (n + 3) moduleEnv (prologue l) (startOf declared l) (.error .typeError) := by
  have object : moduleEnv.findSome? ((startOf declared l).scopes · "Object") = some .undefined := by
    simp [moduleEnv, startOf, initialStore, moduleScope, newVariables, List.lookup_cons,
      hides]
  have first : Executes (n + 3) moduleEnv definePropertyHelper (startOf declared l)
      (.error .typeError) :=
    executes_declareVar_of_error
      (evaluates_member_of_undefined (evaluates_ident object) names_ident)
  rw [prologue, helpers, if_pos exporting]
  exact executesAll_append_of_error (executesAll_append_of_error (executesAll_append_of_error
    (executesAll_append_of_error (executesAll_cons_of_error first))))

theorem prologue_stops_of_marked (exporting : l.hasExports = true)
    (distinct : (exportedNames l.exports).Nodup) (free : "Object" ∉ declared)
    (refused : "__esModule" ∈ exportedNames l.exports) :
    ExecutesAll (n + 9) moduleEnv (prologue l) (startOf declared l) (.error .typeError) := by
  obtain ⟨s, target, marked, executes⟩ := executes_prologue (n := n + 5) exporting free
  exact executes _ (marked.exports_stop (n := n) distinct refused)

theorem prologue_defines (exporting : l.hasExports = true)
    (distinct : (exportedNames l.exports).Nodup) (free : "Object" ∉ declared)
    (unmarked : "__esModule" ∉ exportedNames l.exports) :
    ∃ s target, ExecutesAll (n + 9) moduleEnv (prologue l) (startOf declared l) (.ok s) ∧
      Finished l.exports target s := by
  obtain ⟨s, target, marked, executes⟩ := executes_prologue (n := n + 5) exporting free
  obtain ⟨s', defined, finished⟩ := marked.exports_defined (n := n) distinct unmarked
  exact ⟨s', target, executes _ defined, finished⟩

theorem Finished.executes_assignExports {s : Store} {target : Nat}
    (finished : Finished l.exports target s) :
    ∃ s', ExecutesAll (n + 4) moduleEnv (assignExports l) s (.ok s') ∧
      s'.scopes moduleScope exportsName = some (.object target) ∧
      IsNamespace s' target (plainExports l.exports) := by
  by_cases exporting : l.hasExports = true
  · have host : s.objects moduleObject = builtin moduleObject :=
      finished.std.objects moduleObject (by decide)
    have written : assigned? (.object target)
        ((s.objects moduleObject).properties.lookup "exports") (s.property? moduleObject "exports") =
          some ⟨.data (.object target) true, true, true⟩ := by
      rw [host]
      rfl
    have assigned := executes_expr (evaluates_assign (n := n + 2)
      (evaluates_own finished.module) names_ident (evaluates_own finished.exported) written)
    -- The assignment changes an object of the host, and not the one that holds the exports.
    have different : target ≠ moduleObject := by
      have made := finished.made
      simp only [builtinCount] at made
      simp only [moduleObject]
      omega
    refine ⟨s.setProperty moduleObject "exports" ⟨.data (.object target) true, true, true⟩, ?_,
      finished.exported, finished.namespaces.setProperty different (by rw [host]; rfl) _ _⟩
    rw [assignExports, whereExports, if_pos exporting]
    exact executesAll_cons assigned executesAll_nil
  · refine ⟨s, ?_, finished.exported, finished.namespaces⟩
    rw [assignExports, whereExports, if_neg exporting]
    exact executesAll_nil

theorem hoistedNames_opening (format : Format) :
    (opening format l).flatMap hoistedNames = prologueNames l := by
  cases format with
  | cjs =>
      rw [opening, List.flatMap_append, assignExports, whereExports, prologueNames]
      split <;> simp [hoistedNames]
  | iife => rfl
  | esm => rfl

theorem opening_stops (format : Format)
    (stops : ExecutesAll n moduleEnv (prologue l) (startOf declared l) (.error .typeError)) :
    ExecutesAll n moduleEnv (opening format l) (startOf declared l) (.error .typeError) := by
  cases format with
  | cjs => exact executesAll_append_of_error stops
  | iife => exact stops
  | esm => exact stops

theorem opening_defines (format : Format) (exporting : l.hasExports = true)
    (distinct : (exportedNames l.exports).Nodup) (free : "Object" ∉ declared)
    (unmarked : "__esModule" ∉ exportedNames l.exports) :
    ∃ s ref, ExecutesAll (n + 9) moduleEnv (opening format l) (startOf declared l) (.ok s) ∧
      s.scopes moduleScope exportsName = some (.object ref) ∧
      IsNamespace s ref (plainExports l.exports) := by
  obtain ⟨s, target, defined, finished⟩ :=
    prologue_defines (n := n) exporting distinct free unmarked
  cases format with
  | cjs =>
      obtain ⟨s', assigned, exported, namespaces⟩ := finished.executes_assignExports (n := n + 5)
      exact ⟨s', target, executesAll_append defined assigned, exported, namespaces⟩
  | iife => exact ⟨s, target, defined, finished.exported, finished.namespaces⟩
  | esm => exact ⟨s, target, defined, finished.exported, finished.namespaces⟩

end

/-- What stands before the statements of a module leaves an object with the mark and a getter for
each exported name, if and only if no name is `__proto__` or `__esModule` and the module declares no
variable `Object`. This is about code that starts: a common module in which a `let`, `const` or
`class` declares `module` is refused before. -/
theorem opening_isNamespace_iff {l : Lowered} (format : Format) (exporting : l.hasExports = true)
    (distinct : (exportedNames l.exports).Nodup) (declared : List String) {depth : Nat}
    (deep : 9 ≤ depth) :
    (∃ s ref, runModule depth declared (opening format l) = .ok (.normal, s) ∧
      s.scopes moduleScope exportsName = some (.object ref) ∧ IsNamespace s ref l.exports) ↔
    "__proto__" ∉ exportedNames l.exports ∧ "__esModule" ∉ exportedNames l.exports ∧
      "Object" ∉ declared := by
  rw [runModule, hoistedNames_opening]
  constructor
  · rintro ⟨s, ref, ran, exported, namespaces⟩
    have free : "Object" ∉ declared := by
      intro hides
      have stops := opening_stops format
        (prologue_stops_of_declared (n := 6) exporting hides) depth deep
      cases ran.symm.trans stops
    have unmarked : "__esModule" ∉ exportedNames l.exports := by
      intro refused
      have stops := opening_stops format
        (prologue_stops_of_marked (n := 0) exporting distinct free refused) depth deep
      cases ran.symm.trans stops
    obtain ⟨s', ref', defined, exported', plain⟩ :=
      opening_defines (n := 0) format exporting distinct free unmarked
    cases ran.symm.trans (defined depth deep)
    cases exported.symm.trans exported'
    refine ⟨fun special => ?_, unmarked, free⟩
    -- A name that the object has is one of those that the literal had properties for.
    have present := (plain.keys _).1 ((namespaces.keys "__proto__").2 (.inr special))
    simp [exportedNames_plainExports] at present
  · rintro ⟨plain, unmarked, free⟩
    have all : plainExports l.exports = l.exports := by
      refine List.filter_eq_self.2 fun e member => ?_
      have other : e.name ≠ "__proto__" := fun same => plain (same ▸ List.mem_map_of_mem member)
      simpa using other
    obtain ⟨s, ref, defined, exported, namespaces⟩ :=
      opening_defines (n := 0) format exporting distinct free unmarked
    exact ⟨s, ref, defined depth deep, exported, all ▸ namespaces⟩

def variedNames : Lowered where
  exports :=
    [⟨"b", .own "b"⟩, ⟨"default", .own defaultName⟩, ⟨"0", .whole 0⟩, ⟨"to be", .member 0 "be"⟩]
  reExports := true

theorem opening_isNamespace_of_variedNames :
    variedNames.hasExports = true ∧ (exportedNames variedNames.exports).Nodup ∧ 9 ≤ 12 ∧
      ∃ s ref, runModule 12 ["b", "c"] (opening .cjs variedNames) = .ok (.normal, s) ∧
        s.scopes moduleScope exportsName = some (.object ref) ∧
        IsNamespace s ref variedNames.exports :=
  ⟨rfl, by decide, by decide,
    (opening_isNamespace_iff .cjs rfl (by decide) ["b", "c"] (by decide)).2 (by decide)⟩

def protoSource : String := "const a = 1; export \x7b a as \"__proto__\" \x7d;"

theorem opening_of_protoSource :
    ∃ (m : Module) (l : Lowered), (Module.parse protoSource.toList).clean? = some m ∧
      lowerItems 0 m.items = .ok l ∧ l.exports = [⟨"__proto__", .own "a"⟩] ∧
      ∃ s ref, runModule 9 [] (opening .iife l) = .ok (.normal, s) ∧
        s.scopes moduleScope exportsName = some (.object ref) ∧
        (s.objects ref).properties.lookup "__proto__" = none := by
  have lowered : ((Module.parse protoSource.toList).clean?.bind fun m =>
      (lowerItems 0 m.items).toOption).map (·.exports) =
        some [⟨"__proto__", .own "a"⟩] := by decide +kernel
  obtain ⟨l, found, exports⟩ := Option.map_eq_some_iff.1 lowered
  obtain ⟨m, read, lowers⟩ := Option.bind_eq_some_iff.1 found
  cases result : lowerItems 0 m.items with
  | error failure =>
      rw [result] at lowers
      cases lowers
  | ok l' =>
      rw [result] at lowers
      cases lowers
      have exporting : l.hasExports = true := by simp [Lowered.hasExports, exports]
      obtain ⟨s, ref, defined, exported, plain⟩ := opening_defines (n := 0) .iife
        exporting (by rw [exports]; decide) (List.not_mem_nil : "Object" ∉ [])
        (by rw [exports]; decide)
      refine ⟨m, l, read, result, exports, s, ref, defined 9 (Nat.le_refl _), exported, ?_⟩
      rw [Table.lookup_eq_none_iff, plain.keys, exports]
      decide

end Enclose.Bundle
