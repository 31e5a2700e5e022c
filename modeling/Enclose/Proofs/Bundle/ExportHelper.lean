import Enclose.Bundle.Prologue
import Enclose.Proofs.Runtime.Rules

/-!
# Running the helper that gives getters to an object

The literal with a function for each export is an object that has these functions for properties,
but for one that is named `__proto__`, which becomes its prototype (`fills_getters`). The loop of
the helper defines a getter for each of them (`loops_getters`), unless the object has a property of
that name which may not be changed (`loops_of_marked`).
-/

namespace Enclose.Bundle
open Script Enclose.Runtime

def exportedNames (exports : List Export) : List String := exports.map (·.name)

def getterFunction (e : Export) : Obj := closure moduleEnv [] [.return (some e.getter.expr)]

def ReadBy (s : Store) (table : Nat) (e : Export) (f : Nat) : Prop :=
  table < f ∧ f < s.objectCount ∧ s.objects f = getterFunction e

structure Filled (base : Store) (table : Nat) (done : List Export) (s : Store) : Prop where
  older : ∀ ref < table, s.objects ref = base.objects ref
  count : table < s.objectCount
  scopes : s.scopes = base.scopes
  scopeCount : s.scopeCount = base.scopeCount
  keys : (s.objects table).properties.keys = (exportedNames done).filter (· ≠ "__proto__")
  entries : ∀ e ∈ done, e.name ≠ "__proto__" → ∃ f, ReadBy s table e f ∧
    (s.objects table).properties.lookup e.name = some ⟨.data (.object f) true, true, true⟩
  proto : (s.objects table).proto = some objectPrototype ∨
    ∃ e f, ReadBy s table e f ∧ (s.objects table).proto = some f

def addGetter (table : Nat) (e : Export) (s : Store) : Store :=
  let made := s.allocate (getterFunction e)
  if e.name = "__proto__" then made.setPrototype table s.objectCount
  else made.setProperty table e.name ⟨.data (.object s.objectCount) true, true, true⟩

section
variable {base s : Store} {table : Nat} {done : List Export} {e : Export}

theorem addGetter_objects {ref : Nat} (different : ref ≠ table) (below : ref < s.objectCount) :
    (addGetter table e s).objects ref = s.objects ref := by
  unfold addGetter
  split
  · exact (Store.objects_setObject_of_ne different _).trans (Store.objects_allocate_of_lt below _)
  · exact (Store.objects_setObject_of_ne different _).trans (Store.objects_allocate_of_lt below _)

theorem addGetter_new (present : table < s.objectCount) :
    (addGetter table e s).objects s.objectCount = getterFunction e := by
  unfold addGetter
  split
  · exact (Store.objects_setObject_of_ne (Nat.ne_of_gt present) _).trans
      (Store.objects_allocate_self _)
  · exact (Store.objects_setObject_of_ne (Nat.ne_of_gt present) _).trans
      (Store.objects_allocate_self _)

@[simp] theorem addGetter_objectCount :
    (addGetter table e s).objectCount = s.objectCount + 1 := by
  unfold addGetter
  split <;> rfl

@[simp] theorem addGetter_scopes : (addGetter table e s).scopes = s.scopes := by
  unfold addGetter
  split <;> rfl

@[simp] theorem addGetter_scopeCount : (addGetter table e s).scopeCount = s.scopeCount := by
  unfold addGetter
  split <;> rfl

theorem addGetter_proto (present : table < s.objectCount) :
    ((addGetter table e s).objects table).proto =
      if e.name = "__proto__" then some s.objectCount else (s.objects table).proto := by
  unfold addGetter
  split
  · simp [Store.setPrototype]
  · simp [Store.setProperty, Store.objects_allocate_of_lt present]

theorem addGetter_properties (present : table < s.objectCount)
    (fresh : e.name ∉ (s.objects table).properties.keys) :
    ((addGetter table e s).objects table).properties =
      (s.objects table).properties ++
        if e.name = "__proto__" then []
        else [(e.name, ⟨.data (.object s.objectCount) true, true, true⟩)] := by
  unfold addGetter
  split
  · simp [Store.setPrototype, Store.objects_allocate_of_lt present]
  · simp [Store.setProperty, Store.objects_allocate_of_lt present, Table.insert_of_not_mem fresh]

theorem ReadBy.addGetter {e' : Export} {f : Nat} (read : ReadBy s table e' f) :
    ReadBy (addGetter table e s) table e' f := by
  obtain ⟨above, below, function⟩ := read
  refine ⟨above, by simp; omega, ?_⟩
  rw [addGetter_objects (Nat.ne_of_gt above) below, function]

theorem readBy_new (present : table < s.objectCount) :
    ReadBy (addGetter table e s) table e s.objectCount :=
  ⟨present, by simp, addGetter_new present⟩

theorem Filled.add (filled : Filled base table done s) (fresh : e.name ∉ exportedNames done) :
    Filled base table (done ++ [e]) (addGetter table e s) := by
  have present := filled.count
  have absent : e.name ∉ (s.objects table).properties.keys := by
    rw [filled.keys]
    exact fun member => fresh (List.mem_of_mem_filter member)
  have properties := addGetter_properties present absent
  refine ⟨?_, by simp; omega, by simp [filled.scopes], by simp [filled.scopeCount], ?_, ?_, ?_⟩
  · intro ref below
    rw [addGetter_objects (Nat.ne_of_lt below) (by omega), filled.older ref below]
  · have keys := filled.keys
    rw [properties]
    -- An entry of this name is no property of the literal, but its prototype.
    by_cases special : e.name = "__proto__"
    · simpa [exportedNames, special] using keys
    · simpa [exportedNames, special, Table.keys] using keys
  · intro e' member plain
    rw [properties, Table.lookup_append]
    rcases List.mem_append.1 member with old | new
    · obtain ⟨f, read, found⟩ := filled.entries e' old plain
      exact ⟨f, read.addGetter, by rw [found, Option.some_or]⟩
    · obtain rfl : e' = e := by simpa using new
      refine ⟨s.objectCount, readBy_new present, ?_⟩
      rw [Table.lookup_eq_none_iff.2 absent, Option.none_or, if_neg plain]
      simp [Table.lookup]
  · rw [addGetter_proto present]
    by_cases special : e.name = "__proto__"
    · exact .inr ⟨e, s.objectCount, readBy_new present, if_pos special⟩
    · rw [if_neg special]
      rcases filled.proto with plain | ⟨e', f, read, proto⟩
      · exact .inl plain
      · exact .inr ⟨e', f, read.addGetter, proto⟩

theorem fills_getters {n : Nat} (exports : List Export) (filled : Filled base table done s)
    (distinct : (exportedNames (done ++ exports)).Nodup) :
    ∃ s', Fills (n + 1) moduleEnv table
        (exports.map fun e => (.string (.ofText e.name), .arrow false [] e.getter.expr)) s s' ∧
      Filled base table (done ++ exports) s' := by
  induction exports generalizing done s with
  | nil => exact ⟨s, fills_nil, by simpa using filled⟩
  | cons e rest ih =>
      have fresh : e.name ∉ exportedNames done := by
        simp only [exportedNames, List.map_append, List.map_cons] at distinct
        exact fun member =>
          (List.nodup_append.1 distinct).2.2 _ member _ (List.mem_cons_self ..) rfl
      rw [List.append_cons] at distinct
      obtain ⟨s', fills, all⟩ := ih (filled.add fresh) distinct
      rw [← List.append_cons] at all
      refine ⟨s', ?_, all⟩
      rw [List.map_cons]
      by_cases special : e.name = "__proto__"
      · rw [addGetter, if_pos special] at fills
        exact fills_prototype special (evaluates_arrow [] e.getter.expr) fills
      · rw [addGetter, if_neg special] at fills
        exact fills_property names_string special (evaluates_arrow [] e.getter.expr) fills

end

def getterStmt : Stmt :=
  defineGetter (.ident "name") (.member (.ident "all") (.computed (.ident "name")))

def getterProperty (f : Nat) : OwnProperty := ⟨.accessor (.object f) .undefined, true, false⟩

structure Called (base : Store) (scope target table : Nat) (functions : String → Nat)
    (keys : List String) : Prop where
  std : Standard base
  inner : 1 < scope
  defineHere : base.scopes scope "__defProp" = none
  define : base.scopes moduleScope "__defProp" = some (.object definePropertyFunction)
  targetParam : base.scopes scope "target" = some (.object target)
  tableParam : base.scopes scope "all" = some (.object table)
  made : builtinCount ≤ target
  targetBelow : target < base.objectCount
  tableBelow : table < base.objectCount
  apart : table ≠ target
  held : ∀ key ∈ keys, functions key ≠ target ∧ functions key < base.objectCount ∧
    (base.objects (functions key)).code.isSome = true ∧
    (base.objects table).properties.lookup key =
      some ⟨.data (.object (functions key)) true, true, true⟩

structure Defining (base : Store) (scope target : Nat) (functions : String → Nat)
    (done : List String) (s : Store) : Prop where
  older : ∀ ref < base.objectCount, ref ≠ target → s.objects ref = base.objects ref
  count : base.objectCount ≤ s.objectCount
  scopes : ∀ other name, other ≠ scope ∨ name ≠ "name" →
    s.scopes other name = base.scopes other name
  named : (s.scopes scope "name").isSome = true
  properties : (s.objects target).properties =
    (base.objects target).properties ++ done.map fun key => (key, getterProperty (functions key))

section
variable {base s : Store} {scope target table : Nat} {functions : String → Nat}
  {keys done : List String} {key : String} {n : Nat}

def describing (s : Store) (scope : Nat) (functions : String → Nat) (key : String) : Store :=
  (s.setVariable scope "name" (.text key)).allocate
    (literalObject [("get", .object (functions key)), ("enumerable", .bool true)])

theorem Defining.standard (called : Called base scope target table functions keys)
    (defining : Defining base scope target functions done s) : Standard s := by
  refine called.std.of_same (fun ref below => ?_) defining.count ?_
  · exact defining.older ref (Nat.lt_of_lt_of_le below called.std.count)
      (Nat.ne_of_lt (Nat.lt_of_lt_of_le below called.made))
  · funext name
    exact defining.scopes _ name (.inl (Nat.ne_of_lt (Nat.zero_lt_of_lt called.inner)))

theorem Defining.scopes_named (defining : Defining base scope target functions done s)
    {name : String} (different : name ≠ "name") (other : Nat) :
    (s.setVariable scope "name" (.text key)).scopes other name = base.scopes other name := by
  by_cases same : other = scope
  · rw [same, Store.scopes_setVariable_of_name_ne different, defining.scopes _ _ (.inr different)]
  · rw [Store.scopes_setVariable_of_ne same, defining.scopes _ _ (.inl same)]

theorem Defining.objects_describing (defining : Defining base scope target functions done s)
    {ref : Nat} (earlier : ref < base.objectCount) :
    (describing s scope functions key).objects ref = s.objects ref :=
  Store.objects_allocate_of_lt (s := s.setVariable scope "name" (.text key))
    (Nat.lt_of_lt_of_le earlier defining.count) _

theorem evaluates_description (called : Called base scope target table functions keys)
    (defining : Defining base scope target functions done s) (member : key ∈ keys) :
    Evaluates (n + 3) (scope :: moduleEnv)
      (.objectOf [(.ident "get", .member (.ident "all") (.computed (.ident "name"))),
        (.ident "enumerable", .bool true)]) (s.setVariable scope "name" (.text key))
      (.ok (.object s.objectCount, describing s scope functions key)) := by
  obtain ⟨-, -, -, held⟩ := called.held key member
  have tableValue : (scope :: moduleEnv).findSome?
      ((s.setVariable scope "name" (.text key)).scopes · "all") = some (.object table) := by
    simp [defining.scopes_named, called.tableParam]
  have nameValue : (scope :: moduleEnv).findSome?
      ((s.setVariable scope "name" (.text key)).scopes · "name") = some (.text key) := by
    simp
  have present : table < s.objectCount := Nat.lt_of_lt_of_le called.tableBelow defining.count
  have heldNow : (((s.setVariable scope "name" (.text key)).allocate
      { proto := some objectPrototype }).objects table).properties.lookup key =
        some ⟨.data (.object (functions key)) true, true, true⟩ := by
    rw [Store.objects_allocate_of_lt (by exact present), Store.objects_setVariable,
      defining.older _ called.tableBelow called.apart, held]
  refine evaluates_objectOf (fills_property names_ident (by decide)
    (evaluates_member (evaluates_ident tableValue) (names_computed (evaluates_ident nameValue))
      (storedValue?_of_own (Nat.succ_pos _) heldNow))
    (fills_property names_ident (by decide) (evaluates_bool true) ?_))
  rw [Store.setProperty_allocate, Store.setProperty_allocate]
  exact fills_nil

theorem executes_getterStmt (called : Called base scope target table functions keys)
    (defining : Defining base scope target functions done s) (member : key ∈ keys)
    {p : Option OwnProperty}
    (applied : Descriptor.outcome?
      { enumerable := some true, get := some (.object (functions key)) }
      ((s.objects target).properties.lookup key) = p) :
    Executes (n + 5) (scope :: moduleEnv) getterStmt (s.setVariable scope "name" (.text key))
      (p.elim (.error .typeError) fun p =>
        .ok ((describing s scope functions key).setProperty target key p)) := by
  obtain ⟨aside, below, function, -⟩ := called.held key member
  have standard : Standard (s.setVariable scope "name" (.text key)) :=
    (defining.standard called).setVariable (Nat.ne_of_gt (Nat.zero_lt_of_lt called.inner)) ..
  have define : (scope :: moduleEnv).findSome?
      ((s.setVariable scope "name" (.text key)).scopes · "__defProp") =
        some (.object definePropertyFunction) := by
    simp [moduleEnv, defining.scopes_named, called.defineHere, called.define]
  have targetValue : (scope :: moduleEnv).findSome?
      ((s.setVariable scope "name" (.text key)).scopes · "target") = some (.object target) := by
    simp [defining.scopes_named, called.targetParam]
  have nameValue : (scope :: moduleEnv).findSome?
      ((s.setVariable scope "name" (.text key)).scopes · "name") = some (.text key) := by
    simp
  have isFunction : (describing s scope functions key).isFunction (.object (functions key)) =
      true := by
    rw [Store.isFunction, defining.objects_describing below, defining.older _ below aside, function]
  -- The description is a literal, so that reading it runs no code of the module.
  have described (m : Machine) : (readDescriptor m s.objectCount).run
      (describing s scope functions key) = .ok
        ({ enumerable := some true, get := some (.object (functions key)) },
          describing s scope functions key) := by
    refine readDescriptor_of_isLiteral (isLiteral_allocate standard _) ?_ rfl
    intro field ours v found
    rcases List.mem_pair.1 ours with rfl | rfl
    · obtain rfl : v = .object (functions key) := by simpa using found.symm
      exact .inr isFunction
    · cases found
  rw [← defining.objects_describing called.targetBelow] at applied
  have calls := calls_defineProperty (n := n + 2) (standard.allocate _) described applied
  have statement := executes_expr (evaluates_callWith (evaluates_ident define)
    (arguments_cons (evaluates_ident targetValue) (arguments_cons (evaluates_ident nameValue)
      (arguments_cons (evaluates_description called defining member) arguments_nil))) calls)
  cases p with
  | none => exact statement
  | some p => exact statement

theorem Defining.step (called : Called base scope target table functions keys)
    (defining : Defining base scope target functions done s)
    (fresh : key ∉ (s.objects target).properties.keys) :
    Defining base scope target functions (done ++ [key])
      ((describing s scope functions key).setProperty target key
        (getterProperty (functions key))) := by
  refine ⟨?_, Nat.le_succ_of_le defining.count, ?_, ?_, ?_⟩
  · intro ref earlier different
    exact (Store.objects_setObject_of_ne different _).trans
      ((defining.objects_describing earlier).trans (defining.older ref earlier different))
  · intro other name different
    rcases different with outer | different
    · exact (congrFun (Store.scopes_setVariable_of_ne outer _) name).trans
        (defining.scopes _ _ (.inl outer))
    · exact defining.scopes_named different other
  · exact (congrArg Option.isSome (Store.scopes_setVariable_self _)).trans rfl
  · have inserted := Table.insert_of_not_mem fresh (getterProperty (functions key))
    simpa [Store.setProperty, defining.objects_describing called.targetBelow, defining.properties]
      using inserted

theorem Defining.scopeOf?_name (defining : Defining base scope target functions done s) :
    s.scopeOf? (scope :: moduleEnv) "name" = some scope := by
  simp [Store.scopeOf?, defining.named]

theorem loops_getters (called : Called base scope target table functions keys) (rest : List String)
    (defining : Defining base scope target functions done s) (among : ∀ key ∈ rest, key ∈ keys)
    (distinct : ((base.objects target).properties.keys ++ done ++ rest).Nodup) :
    ∃ s', Loops (n + 5) (scope :: moduleEnv) "name" getterStmt rest s (.ok s') ∧
      Defining base scope target functions (done ++ rest) s' := by
  induction rest generalizing done s with
  | nil => exact ⟨s, loops_nil, by simpa using defining⟩
  | cons key rest ih =>
      have fresh : key ∉ (s.objects target).properties.keys := by
        rw [defining.properties]
        intro member
        refine (List.nodup_append.1 distinct).2.2 key ?_ key (List.mem_cons_self ..) rfl
        simpa [Table.keys] using member
      obtain ⟨s', loops, all⟩ := ih (defining.step called fresh)
        (fun key member => among key (List.mem_cons_of_mem _ member)) (by simpa using distinct)
      have first := executes_getterStmt (n := n) called defining
        (among key (List.mem_cons_self ..))
        (congrArg (Descriptor.outcome? _) (Table.lookup_eq_none_iff.2 fresh))
      exact ⟨s', loops_cons defining.scopeOf?_name first loops, by simpa using all⟩

def exportsMark : OwnProperty := ⟨.data (.bool true) false, false, false⟩

theorem loops_of_marked (called : Called base scope target table functions keys)
    (rest : List String) (defining : Defining base scope target functions done s)
    (among : ∀ key ∈ rest, key ∈ keys) (distinct : (done ++ rest).Nodup)
    (marked : (base.objects target).properties = [("__esModule", exportsMark)])
    (refused : "__esModule" ∈ rest) :
    Loops (n + 5) (scope :: moduleEnv) "name" getterStmt rest s (.error .typeError) := by
  induction rest generalizing done s with
  | nil => contradiction
  | cons key rest ih =>
      have member := among key (List.mem_cons_self ..)
      have properties := defining.properties
      rw [marked] at properties
      -- The keys before the mark get their getters; the mark itself refuses to be changed.
      by_cases mark : key = "__esModule"
      · have found : (s.objects target).properties.lookup key = some exportsMark := by
          rw [properties, mark]
          rfl
        exact loops_cons_of_error defining.scopeOf?_name
          (executes_getterStmt (n := n) (p := none) called defining member (by rw [found]; rfl))
      · have fresh : key ∉ (s.objects target).properties.keys := by
          rw [properties]
          intro present
          have old : key ∈ done := by simpa [Table.keys, mark] using present
          exact (List.nodup_append.1 distinct).2.2 key old key (List.mem_cons_self ..) rfl
        have first := executes_getterStmt (n := n) called defining member
          (congrArg (Descriptor.outcome? _) (Table.lookup_eq_none_iff.2 fresh))
        exact loops_cons defining.scopeOf?_name first (ih (defining.step called fresh)
          (fun key member => among key (List.mem_cons_of_mem _ member)) (by simpa using distinct)
          ((List.mem_cons.1 refused).resolve_left (Ne.symm mark)))

end

end Enclose.Bundle
