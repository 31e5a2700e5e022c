import Enclose.Proofs.Bundle.ExportHelper

/-!
# The object that holds the exports

What such an object is to be (`IsNamespace`), and what becomes of a marked object when the helper is
called: it gets all getters but the one for `__proto__` (`exportFunction_defines`), unless an export
has the name of the mark (`exportFunction_stops`).
-/

namespace Enclose.Bundle
open Script Enclose.Runtime

/-- An object has the mark, an enumerable getter for the name of each export, and nothing else. -/
structure IsNamespace (s : Store) (ref : Nat) (exports : List Export) : Prop where
  distinct : (s.objects ref).properties.keys.Nodup
  keys : ∀ key, key ∈ (s.objects ref).properties.keys ↔
    key = "__esModule" ∨ key ∈ exportedNames exports
  mark : "__esModule" ∉ exportedNames exports →
    (s.objects ref).properties.lookup "__esModule" = some exportsMark
  getters : ∀ e ∈ exports, ∃ f, s.objects f = getterFunction e ∧
    (s.objects ref).properties.lookup e.name = some (getterProperty f)

theorem IsNamespace.setProperty {s : Store} {ref other : Nat} {exports : List Export}
    (namespaces : IsNamespace s ref exports) (different : ref ≠ other)
    (noFunction : (s.objects other).code = none) (key : String) (p : OwnProperty) :
    IsNamespace (s.setProperty other key p) ref exports := by
  have same : (s.setProperty other key p).objects ref = s.objects ref :=
    Store.objects_setObject_of_ne different _
  refine ⟨by rw [same]; exact namespaces.distinct, by rw [same]; exact namespaces.keys,
    by rw [same]; exact namespaces.mark, fun e exported => ?_⟩
  obtain ⟨f, function, found⟩ := namespaces.getters e exported
  have apart : f ≠ other := by
    rintro rfl
    rw [function] at noFunction
    cases noFunction
  exact ⟨f, (Store.objects_setObject_of_ne apart _).trans function, by rw [same, found]⟩

def exportFunction : Obj :=
  closure moduleEnv (plainParams ["target", "all"])
    [.forIn (.var .var [.ident "name"]) (.ident "all") getterStmt]

def exportLocals (target table : Nat) : Variables :=
  newVariables [("target", .object target), ("all", .object table)] ["name"]

def functionIn (table : Table) (key : String) : Nat :=
  match table.lookup key with
  | some ⟨.data (.object f) _, _, _⟩ => f
  | _ => 0

def plainExports (exports : List Export) : List Export := exports.filter (·.name ≠ "__proto__")

section
variable {base s : Store} {table target f n : Nat} {exports : List Export}

theorem Filled.inheritsNothing (filled : Filled base table exports s) {s' : Store}
    (same : s'.objects = s.objects) (std : Standard s') : InheritsNothing s' table := by
  rcases filled.proto with plain | ⟨e, f, ⟨-, -, function⟩, proto⟩
  · exact inheritsNothing_of_object std (by rw [same, plain])
  · exact inheritsNothing_of_function (f := f) std (by rw [same, proto])
      (by rw [same, function]; rfl) (by rw [same, function]; rfl)

theorem Filled.entry (filled : Filled base table exports s) {key : String}
    (member : key ∈ (s.objects table).properties.keys) :
    ∃ e ∈ plainExports exports, e.name = key ∧
      ReadBy s table e (functionIn (s.objects table).properties key) ∧
      (s.objects table).properties.lookup key =
        some ⟨.data (.object (functionIn (s.objects table).properties key)) true, true, true⟩ := by
  rw [filled.keys, List.mem_filter, exportedNames, List.mem_map] at member
  obtain ⟨⟨e, exported, rfl⟩, plain⟩ := member
  have plain : e.name ≠ "__proto__" := by simpa using plain
  obtain ⟨f, read, found⟩ := filled.entries e exported plain
  have function : functionIn (s.objects table).properties e.name = f := by
    rw [functionIn, found]
  exact ⟨e, List.mem_filter.2 ⟨exported, by simpa using plain⟩, rfl, by rwa [function],
    by rw [function, found]⟩

theorem Filled.called (filled : Filled base table exports s) (std : Standard s)
    (scopes : 1 < s.scopeCount)
    (define : s.scopes moduleScope "__defProp" = some (.object definePropertyFunction))
    (made : builtinCount ≤ target) (earlier : target < table) :
    Called (s.enter (exportLocals target table)) s.scopeCount target table
      (functionIn (s.objects table).properties) (s.objects table).properties.keys where
  std := std.enter (Nat.zero_lt_of_lt scopes) _
  inner := scopes
  defineHere := by
    rw [Store.scopes_enter_self]
    rfl
  define := (congrFun (Store.scopes_enter_of_ne (Nat.ne_of_lt scopes) _) _).trans define
  targetParam := by
    rw [Store.scopes_enter_self]
    rfl
  tableParam := by
    rw [Store.scopes_enter_self]
    rfl
  made := made
  targetBelow := Nat.lt_trans earlier filled.count
  tableBelow := filled.count
  apart := Nat.ne_of_gt earlier
  held key member := by
    obtain ⟨e, -, -, ⟨above, below, function⟩, found⟩ := filled.entry member
    refine ⟨Nat.ne_of_gt (Nat.lt_trans earlier above), below, ?_, found⟩
    rw [Store.objects_enter, function]
    rfl

theorem defining_nil {functions : String → Nat} {scope : Nat}
    (named : (base.scopes scope "name").isSome = true) :
    Defining base scope target functions [] base :=
  ⟨fun _ _ _ => rfl, Nat.le_refl _, fun _ _ _ => rfl, named, by simp⟩

theorem calls_exportFunction (filled : Filled base table exports s) (std : Standard s)
    (scopes : 0 < s.scopeCount) (helper : s.objects f = exportFunction) {r : Except Abrupt Store}
    (loops : Loops (n + 1) (s.scopeCount :: moduleEnv) "name" getterStmt
      (orderedKeys (s.objects table).properties.keys) (s.enter (exportLocals target table)) r) :
    Calls (n + 3) (.object f) [.object target, .object table] s (r.map (.undefined, ·)) := by
  have visible : ∀ key ∈ (s.objects table).properties.keys,
      ∃ p, (s.objects table).properties.lookup key = some p ∧ p.enumerable = true := by
    intro key member
    obtain ⟨e, -, -, -, found⟩ := filled.entry member
    exact ⟨_, found, rfl⟩
  -- The literal inherits nothing that the loop would visit.
  have keys : (s.enter (exportLocals target table)).keysOf table =
      orderedKeys (s.objects table).properties.keys :=
    keysOf_of_inheritsNothing (filled.inheritsNothing rfl (std.enter scopes _)) visible
  have tableValue : (s.scopeCount :: moduleEnv).findSome?
      ((s.enter (exportLocals target table)).scopes · "all") = some (.object table) := by
    simp [exportLocals, newVariables, List.lookup_cons]
  rw [← keys] at loops
  have loop := executes_forIn (evaluates_ident tableValue) loops
  have bound : (bindParams (plainParams ["target", "all"]) [.object target, .object table]).run s =
      .ok ([("target", .object target), ("all", .object table)], s) := rfl
  refine calls_closure helper bound ?_
  cases r with
  | error stopped => exact executesAll_cons_of_error loop
  | ok done => exact executesAll_cons loop executesAll_nil

theorem exportedNames_plainExports (exports : List Export) :
    exportedNames (plainExports exports) =
      (exportedNames exports).filter (· ≠ "__proto__") := by
  rw [exportedNames, exportedNames, plainExports, List.filter_map]
  rfl

theorem Filled.perm (filled : Filled base table exports s) :
    (orderedKeys (s.objects table).properties.keys).Perm (exportedNames (plainExports exports)) := by
  rw [exportedNames_plainExports, ← filled.keys]
  exact orderedKeys_perm _

theorem Filled.nodup (filled : Filled base table exports s)
    (distinct : (exportedNames exports).Nodup) :
    (orderedKeys (s.objects table).properties.keys).Nodup := by
  rw [filled.perm.nodup_iff, exportedNames_plainExports]
  exact distinct.filter _

theorem Defining.isNamespace {locals : Variables} {scope : Nat} {s' : Store}
    (filled : Filled base table exports s) (distinct : (exportedNames exports).Nodup)
    (unmarked : "__esModule" ∉ exportedNames (plainExports exports)) (earlier : target < table)
    (marked : (s.objects target).properties = [("__esModule", exportsMark)])
    (defining : Defining (s.enter locals) scope target (functionIn (s.objects table).properties)
      (orderedKeys (s.objects table).properties.keys) s') :
    IsNamespace s' target (plainExports exports) := by
  have properties := defining.properties
  rw [Store.objects_enter, marked] at properties
  have keys : (s'.objects target).properties.keys =
      "__esModule" :: orderedKeys (s.objects table).properties.keys := by
    simp [properties, Table.keys, Function.comp_def]
  have nodup : (s'.objects target).properties.keys.Nodup := by
    rw [keys, List.nodup_cons, filled.perm.mem_iff]
    exact ⟨unmarked, filled.nodup distinct⟩
  -- The loop visits the keys in an order of its own, so they are compared as sets.
  refine ⟨nodup, fun key => by rw [keys, List.mem_cons, filled.perm.mem_iff], fun _ => ?_, ?_⟩
  · rw [properties]
    rfl
  · intro e exported
    obtain ⟨present, plain⟩ := List.mem_filter.1 exported
    obtain ⟨f, ⟨above, below, function⟩, found⟩ := filled.entries e present (by simpa using plain)
    have held : functionIn (s.objects table).properties e.name = f := by
      rw [functionIn, found]
    refine ⟨f, ?_, Table.lookup_of_mem nodup ?_⟩
    · rw [defining.older f below (Nat.ne_of_gt (Nat.lt_trans earlier above))]
      exact function
    · rw [properties, List.mem_append]
      refine .inr (List.mem_map.2 ⟨e.name, ?_, by rw [held]⟩)
      exact filled.perm.mem_iff.2 (List.mem_map_of_mem exported)

section
variable (filled : Filled base table exports s) (std : Standard s) (scopes : 1 < s.scopeCount)
  (define : s.scopes moduleScope "__defProp" = some (.object definePropertyFunction))
  (helper : s.objects f = exportFunction) (made : builtinCount ≤ target) (earlier : target < table)
  (distinct : (exportedNames exports).Nodup)
  (marked : (s.objects target).properties = [("__esModule", exportsMark)])
include filled std scopes define helper made earlier distinct marked

theorem exportFunction_stops (refused : "__esModule" ∈ exportedNames exports) :
    Calls (n + 7) (.object f) [.object target, .object table] s (.error .typeError) := by
  have called := filled.called std scopes define made earlier
  have among : "__esModule" ∈ orderedKeys (s.objects table).properties.keys := by
    rw [filled.perm.mem_iff, exportedNames_plainExports]
    exact List.mem_filter.2 ⟨refused, rfl⟩
  refine calls_exportFunction (n := n + 4) (r := .error .typeError) filled std
    (Nat.zero_lt_of_lt scopes) helper ?_
  exact loops_of_marked called _ (defining_nil (by rw [Store.scopes_enter_self]; rfl))
    (fun key member => (orderedKeys_perm _).mem_iff.1 member) (by simpa using filled.nodup distinct)
    marked among

theorem exportFunction_defines (unmarked : "__esModule" ∉ exportedNames exports) :
    ∃ s', Calls (n + 7) (.object f) [.object target, .object table] s (.ok (.undefined, s')) ∧
      Standard s' ∧ s'.scopes moduleScope = s.scopes moduleScope ∧
      IsNamespace s' target (plainExports exports) := by
  have called := filled.called std scopes define made earlier
  have absent : "__esModule" ∉ exportedNames (plainExports exports) := by
    rw [exportedNames_plainExports]
    exact fun member => unmarked (List.mem_of_mem_filter member)
  have nodup : (((s.enter (exportLocals target table)).objects target).properties.keys ++ [] ++
      orderedKeys (s.objects table).properties.keys).Nodup := by
    rw [Store.objects_enter, marked, List.append_nil]
    refine List.nodup_cons.2 ⟨?_, filled.nodup distinct⟩
    exact fun member => absent (filled.perm.mem_iff.1 member)
  obtain ⟨s', loops, defining⟩ := loops_getters (n := n) called _
    (defining_nil (by rw [Store.scopes_enter_self]; rfl))
    (fun key member => (orderedKeys_perm _).mem_iff.1 member) nodup
  refine ⟨s', calls_exportFunction (n := n + 4) (r := .ok s') filled std (Nat.zero_lt_of_lt scopes)
    helper loops, defining.standard called, ?_, defining.isNamespace filled distinct absent earlier marked⟩
  funext name
  have outer : moduleScope ≠ s.scopeCount := Nat.ne_of_lt scopes
  rw [defining.scopes _ _ (.inl outer), Store.scopes_enter_of_ne outer]

end

end

end Enclose.Bundle
