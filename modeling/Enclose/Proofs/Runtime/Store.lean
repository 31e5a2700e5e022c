import Enclose.Proofs.Runtime.Evaluation

/-!
# What changes of the store do

Each change leaves the other objects and scopes as they are. An object that inherits from nothing
with properties has just its own ones (`property?_of_inheritsNothing`, `keysOf_of_inheritsNothing`).
-/

namespace Enclose.Runtime

namespace Store
variable {s : Store} {ref other scope : Nat} {key name : String}

@[simp] theorem objectCount_allocate (o : Obj) :
    (s.allocate o).objectCount = s.objectCount + 1 := rfl

@[simp] theorem scopes_allocate (o : Obj) : (s.allocate o).scopes = s.scopes := rfl

@[simp] theorem scopeCount_allocate (o : Obj) : (s.allocate o).scopeCount = s.scopeCount := rfl

@[simp] theorem objects_allocate_self (o : Obj) : (s.allocate o).objects s.objectCount = o := by
  simp [allocate]

theorem objects_allocate (o : Obj) (r : Nat) :
    (s.allocate o).objects r = if r = s.objectCount then o else s.objects r :=
  Function.update_apply ..

theorem objects_allocate_of_lt (below : ref < s.objectCount) (o : Obj) :
    (s.allocate o).objects ref = s.objects ref :=
  Function.update_of_ne (Nat.ne_of_lt below) _ _

@[simp] theorem objectCount_setObject (o : Obj) :
    (s.setObject ref o).objectCount = s.objectCount := rfl

@[simp] theorem scopes_setObject (o : Obj) : (s.setObject ref o).scopes = s.scopes := rfl

@[simp] theorem scopeCount_setObject (o : Obj) :
    (s.setObject ref o).scopeCount = s.scopeCount := rfl

@[simp] theorem objects_setObject_self (o : Obj) : (s.setObject ref o).objects ref = o := by
  simp [setObject]

theorem setProperty_allocate (o : Obj) (p : OwnProperty) :
    (s.allocate o).setProperty s.objectCount key p =
      s.allocate { o with properties := o.properties.insert key p } := by
  simp [setProperty, setObject, allocate]

theorem objects_setObject_of_ne (different : other ≠ ref) (o : Obj) :
    (s.setObject ref o).objects other = s.objects other :=
  Function.update_of_ne different _ _

theorem lookup_setProperty (ref : Nat) (key : String) (p : OwnProperty) (r : Nat) (k : String) :
    ((s.setProperty ref key p).objects r).properties.lookup k =
      if r = ref ∧ k = key then some p else (s.objects r).properties.lookup k := by
  by_cases same : r = ref
  · subst same
    simp [setProperty, Table.lookup_insert]
  · simp [setProperty, objects_setObject_of_ne same, same]

theorem proto_setProperty (ref : Nat) (key : String) (p : OwnProperty) (r : Nat) :
    ((s.setProperty ref key p).objects r).proto = (s.objects r).proto := by
  by_cases same : r = ref
  · subst same
    simp [setProperty]
  · simp [setProperty, objects_setObject_of_ne same]

@[simp] theorem objects_setVariable (value : Value) :
    (s.setVariable scope name value).objects = s.objects := rfl

@[simp] theorem objectCount_setVariable (value : Value) :
    (s.setVariable scope name value).objectCount = s.objectCount := rfl

@[simp] theorem scopeCount_setVariable (value : Value) :
    (s.setVariable scope name value).scopeCount = s.scopeCount := rfl

theorem scopes_setVariable_of_ne (different : other ≠ scope) (value : Value) :
    (s.setVariable scope name value).scopes other = s.scopes other :=
  Function.update_of_ne different _ _

@[simp] theorem scopes_setVariable_self (value : Value) :
    (s.setVariable scope name value).scopes scope name = some value := by
  simp [setVariable]

theorem scopes_setVariable_of_name_ne {x : String} (different : x ≠ name) (value : Value) :
    (s.setVariable scope name value).scopes scope x = s.scopes scope x := by
  simp [setVariable, different]

theorem scopes_setVariable (scope : Nat) (name : String) (value : Value) (r : Nat) (x : String) :
    (s.setVariable scope name value).scopes r x =
      if r = scope ∧ x = name then some value else s.scopes r x := by
  by_cases same : r = scope
  · subst same
    by_cases own : x = name
    · subst own
      simp
    · simp [scopes_setVariable_of_name_ne own, own]
  · simp [scopes_setVariable_of_ne same, same]

@[simp] theorem objects_enter (locals : Variables) : (s.enter locals).objects = s.objects := rfl

@[simp] theorem objectCount_enter (locals : Variables) :
    (s.enter locals).objectCount = s.objectCount := rfl

@[simp] theorem scopes_enter_self (locals : Variables) :
    (s.enter locals).scopes s.scopeCount = locals := by
  simp [enter]

theorem scopes_enter_of_ne (different : scope ≠ s.scopeCount) (locals : Variables) :
    (s.enter locals).scopes scope = s.scopes scope :=
  Function.update_of_ne different _ _

end Store

theorem findSome?_setVariable {s : Store} {env : Env} {name : String} {scope : Nat}
    (visible : s.scopeOf? env name = some scope) (value : Value) (x : String) :
    env.findSome? ((s.setVariable scope name value).scopes · x) =
      if x = name then some value else env.findSome? (s.scopes · x) := by
  simp only [Store.scopes_setVariable]
  split
  case isFalse other => simp [other]
  case isTrue same =>
    subst same
    obtain ⟨isOwn, before, after, rfl, others⟩ := List.find?_eq_some_iff_append.1 visible
    -- The scopes further in do not have the variable, and `scope` is none of them.
    have none : before.findSome? (fun r =>
        if r = scope ∧ x = x then some value else s.scopes r x) = none := by
      refine List.findSome?_eq_none_iff.2 fun r member => ?_
      have unseen : s.scopes r x = none := by simpa using others r member
      have apart : r ≠ scope := by
        rintro rfl
        rw [unseen] at isOwn
        cases isOwn
      rw [if_neg (fun both => apart both.1), unseen]
    rw [List.findSome?_append, none, Option.none_or, List.findSome?_cons, if_pos ⟨rfl, rfl⟩]

theorem scopeOf?_of_findSome? {s : Store} {env : Env} {name : String} {v : Value}
    (found : env.findSome? (s.scopes · name) = some v) : ∃ scope, s.scopeOf? env name = some scope := by
  obtain ⟨scope, member, holds⟩ := List.exists_of_findSome?_eq_some found
  refine Option.isSome_iff_exists.1 (List.find?_isSome.2 ⟨scope, member, ?_⟩)
  rw [holds]
  rfl

section
variable {s : Store} {ref : Nat} {key : String} {p : OwnProperty}

theorem Store.lineage_prefix (s : Store) (depth more ref : Nat) :
    s.lineage depth ref <+: s.lineage (depth + more) ref := by
  induction depth generalizing ref with
  | zero => exact List.nil_prefix
  | succ depth ih =>
      rw [Nat.succ_add, lineage, lineage]
      refine (List.prefix_cons_inj ref).2 ?_
      split
      · exact List.nil_prefix
      · exact ih _

theorem Store.property?_of_lineage {depth : Nat} (within : depth ≤ s.objectCount)
    (found : (s.lineage depth ref).findSome? (fun r => (s.objects r).properties.lookup key) = some p) :
    s.property? ref key = some p := by
  obtain ⟨more, count⟩ := Nat.exists_eq_add_of_le within
  obtain ⟨others, whole⟩ := s.lineage_prefix depth more ref
  rw [property?, ancestry, count, ← whole, List.findSome?_append, found, Option.some_or]

theorem Store.lookup_of_property? (found : s.property? ref key = some p) :
    ∃ r ∈ s.ancestry ref, (s.objects r).properties.lookup key = some p :=
  List.exists_of_findSome?_eq_some found

end

structure Standard (s : Store) : Prop where
  objects : ∀ ref < builtinCount, s.objects ref = builtin ref
  count : builtinCount ≤ s.objectCount
  global : s.scopes globalScope = newVariables [("Object", .object objectConstructor)] []

theorem Standard.of_same {s s' : Store} (std : Standard s)
    (objects : ∀ ref < builtinCount, s'.objects ref = s.objects ref) (count : s.objectCount ≤ s'.objectCount)
    (global : s'.scopes globalScope = s.scopes globalScope) : Standard s' where
  objects ref below := (objects ref below).trans (std.objects ref below)
  count := Nat.le_trans std.count count
  global := global.trans std.global

theorem Standard.allocate {s : Store} (std : Standard s) (o : Obj) : Standard (s.allocate o) :=
  std.of_same (fun _ below => Store.objects_allocate_of_lt (Nat.lt_of_lt_of_le below std.count) o)
    (Nat.le_succ _) rfl

theorem Standard.setObject {s : Store} {ref : Nat} (std : Standard s) (made : builtinCount ≤ ref) (o : Obj) :
    Standard (s.setObject ref o) :=
  std.of_same (fun _ below => Store.objects_setObject_of_ne
    (Nat.ne_of_lt (Nat.lt_of_lt_of_le below made)) o) (Nat.le_refl _) rfl

theorem Standard.setVariable {s : Store} {scope : Nat} (std : Standard s)
    (inner : scope ≠ globalScope) (name : String) (value : Value) :
    Standard (s.setVariable scope name value) :=
  std.of_same (fun _ _ => rfl) (Nat.le_refl _) (Store.scopes_setVariable_of_ne inner.symm value)

theorem Standard.enter {s : Store} (std : Standard s) (scopes : 0 < s.scopeCount)
    (locals : Variables) : Standard (s.enter locals) :=
  std.of_same (fun _ _ => rfl) (Nat.le_refl _)
    (Store.scopes_enter_of_ne (Nat.ne_of_lt scopes) locals)

def InheritsNothing (s : Store) (ref : Nat) : Prop :=
  ∃ others, s.ancestry ref = ref :: others ∧ ∀ r ∈ others, (s.objects r).properties = []

section
variable {s : Store} {ref : Nat}

theorem inheritsNothing_of_object (std : Standard s)
    (proto : (s.objects ref).proto = some objectPrototype) : InheritsNothing s ref := by
  obtain ⟨depth, count⟩ := Nat.exists_eq_add_of_le' std.count
  have root : s.objects 0 = {} := std.objects _ (by decide)
  refine ⟨[objectPrototype], ?_, by simp [root, objectPrototype]⟩
  simp [Store.ancestry, count, builtinCount, Store.lineage, proto, root, objectPrototype]

theorem inheritsNothing_of_function (std : Standard s) {f : Nat}
    (proto : (s.objects ref).proto = some f) (bare : (s.objects f).properties = [])
    (function : (s.objects f).proto = some functionPrototype) : InheritsNothing s ref := by
  obtain ⟨depth, count⟩ := Nat.exists_eq_add_of_le' std.count
  have root : s.objects 0 = {} := std.objects _ (by decide)
  have functions : s.objects 1 = { proto := some objectPrototype } := std.objects _ (by decide)
  refine ⟨[f, functionPrototype, objectPrototype], ?_, ?_⟩
  · simp [Store.ancestry, count, builtinCount, Store.lineage, proto, function, root, functions,
      objectPrototype, functionPrototype]
  · simp [bare, root, functions, objectPrototype, functionPrototype]

theorem property?_of_inheritsNothing (own : InheritsNothing s ref) (key : String) :
    s.property? ref key = (s.objects ref).properties.lookup key := by
  obtain ⟨others, ancestry, bare⟩ := own
  have inherited : others.findSome? (fun r => (s.objects r).properties.lookup key) = none := by
    rw [List.findSome?_eq_none_iff]
    intro r member
    rw [bare r member]
    rfl
  rw [Store.property?, ancestry, List.findSome?_cons, inherited]
  cases (s.objects ref).properties.lookup key with
  | none => rfl
  | some p => rfl

theorem visitedKeys_of_bare {others : List Nat} (bare : ∀ r ∈ others, (s.objects r).properties = [])
    (seen : List String) : s.visitedKeys seen others = [] := by
  induction others generalizing seen with
  | nil => rfl
  | cons r rest ih =>
      rw [Store.visitedKeys, bare r (List.mem_cons_self ..),
        ih fun q member => bare q (List.mem_cons_of_mem _ member)]
      simp [orderedKeys, Table.keys]

theorem keysOf_of_inheritsNothing (own : InheritsNothing s ref)
    (visible : ∀ key ∈ (s.objects ref).properties.keys,
      ∃ p, (s.objects ref).properties.lookup key = some p ∧ p.enumerable = true) :
    s.keysOf ref = orderedKeys (s.objects ref).properties.keys := by
  obtain ⟨others, ancestry, bare⟩ := own
  rw [Store.keysOf, ancestry, Store.visitedKeys, visitedKeys_of_bare bare, List.append_nil]
  refine List.filter_eq_self.2 fun key member => ?_
  obtain ⟨p, found, enumerable⟩ := visible key ((orderedKeys_perm _).mem_iff.1 member)
  simp [found, enumerable]

theorem property?_of_own {key : String} {p : OwnProperty} (objects : 0 < s.objectCount)
    (found : (s.objects ref).properties.lookup key = some p) : s.property? ref key = some p := by
  obtain ⟨depth, count⟩ := Nat.exists_eq_add_of_lt objects
  simp [Store.property?, Store.ancestry, count, Store.lineage, found]

end

end Enclose.Runtime
