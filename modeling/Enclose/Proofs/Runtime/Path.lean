import Enclose.Proofs.Runtime.Rules

/-!
# Paths to objects

A path is a variable and the properties that are taken one after another. Each of its beginnings is
assigned what it is or, where that is falsy, a new object. After that all beginnings are objects, and
whatever path led to an object still leads to it (`executes_setUps`).
-/

namespace Enclose.Script

def Expr.path (name : String) (keys : List String) : Expr := keys.foldl .dot (.ident name)

theorem Expr.path_append (name : String) (keys : List String) (key : String) :
    Expr.path name (keys ++ [key]) = .dot (.path name keys) key := by
  rw [path, List.foldl_append]
  rfl

/-- Assigns a value to a path; a path without properties is declared. -/
def Stmt.setPath (name : String) (keys : List String) (value : Expr) : Stmt :=
  if keys.isEmpty then .declareVar name value else .expr (.assignTo (.path name keys) value)

theorem Stmt.setPath_append (name : String) (keys : List String) (key : String) (value : Expr) :
    Stmt.setPath name (keys ++ [key]) value =
      .expr (.assign .assign (.expr (.member (.path name keys) (.ident key))) value) := by
  have some : (keys ++ [key]).isEmpty = false := by simp
  rw [setPath, some, if_neg Bool.false_ne_true, Expr.path_append]
  rfl

def Stmt.setUp (name : String) (keys : List String) : Stmt :=
  .setPath name keys (.binary .logicalOr (.path name keys) (.object []))

def Stmt.setUps (name : String) (keys : List String) : List Stmt :=
  (List.range keys.length).map fun k => .setUp name (keys.take k)

end Enclose.Script

namespace Enclose.Runtime
open Script

def emptyObject : Obj := { proto := some objectPrototype }

inductive Chosen (s : Store) : Value → Nat → Store → Prop
  | old (ref : Nat) : Chosen s (.object ref) ref s
  | new {v : Value} : truthy v = false → Chosen s v s.objectCount (s.allocate emptyObject)

theorem evaluates_orNew {n : Nat} {env : Env} {e : Expr} {s : Store} {v : Value}
    (evaluated : Evaluates n env e s (.ok (v, s))) (usable : truthy v → ∃ ref, v = .object ref) :
    ∃ ref s₁, Chosen s v ref s₁ ∧
      Evaluates (n + 2) env (.binary .logicalOr e (.object [])) s (.ok (.object ref, s₁)) := by
  have read := evaluated.mono (Nat.le_add_right n 1)
  cases holds : truthy v with
  | true =>
      obtain ⟨ref, rfl⟩ := usable holds
      exact ⟨ref, s, .old ref, evaluates_or_of_truthy _ read holds⟩
  | false =>
      have created : Evaluates (n + 1) env (.objectOf []) s
          (.ok (.object s.objectCount, s.allocate emptyObject)) := evaluates_objectOf fills_nil
      exact ⟨_, _, .new holds, evaluates_or_of_falsy read holds created⟩

/-! ## What leads to an object -/

def OwnProperty.object? (p : OwnProperty) : Option Nat :=
  match p.content with
  | .data (.object ref) _ => some ref
  | _ => none

theorem OwnProperty.storedValue?_of_object? {p : OwnProperty} {ref : Nat} (holds : p.object? = some ref) :
    storedValue? (some p) = some (.object ref) := by
  unfold object? at holds
  split at holds
  case h_1 o writable content =>
    cases holds
    obtain ⟨_, enumerable, configurable⟩ := p
    cases content
    rfl
  case h_2 => cases holds

def Store.Holds (s : Store) (ref : Nat) (key : String) (value : Nat) : Prop :=
  ∃ p, s.property? ref key = some p ∧ p.object? = some value

inductive Leads (s : Store) (env : Env) (name : String) : List String → Nat → Prop
  | root {ref : Nat} : env.findSome? (s.scopes · name) = some (.object ref) →
      Leads s env name [] ref
  | property {keys : List String} {ref value : Nat} {key : String} : Leads s env name keys ref →
      s.Holds ref key value → Leads s env name (keys ++ [key]) value

theorem evaluates_path {s : Store} {env : Env} {name : String} {keys : List String} {ref : Nat}
    (leads : Leads s env name keys ref) :
    Evaluates (keys.length + 1) env (.path name keys) s (.ok (.object ref, s)) := by
  induction leads with
  | root found => exact evaluates_ident found
  | property _ holds ih =>
      obtain ⟨p, found, isObject⟩ := holds
      rw [Expr.path_append, List.length_append]
      exact evaluates_member ih names_ident (found ▸ p.storedValue?_of_object? isObject)

/-- Nothing refers to an object that is not made yet. -/
structure Store.Closed (s : Store) : Prop where
  made : objectPrototype < s.objectCount
  bindings : ∀ {scope name ref}, s.scopes scope name = some (.object ref) → ref < s.objectCount
  protos : ∀ {ref proto}, (s.objects ref).proto = some proto → proto < s.objectCount
  properties : ∀ {ref key p value}, (s.objects ref).properties.lookup key = some p →
    p.object? = some value → value < s.objectCount

section
variable {s s' : Store} {env : Env} {name key : String} {keys : List String} {ref value : Nat}
  {p : OwnProperty}

theorem Store.Closed.lt_of_holds (closed : s.Closed) (holds : s.Holds ref key value) :
    value < s.objectCount := by
  obtain ⟨p, found, isObject⟩ := holds
  obtain ⟨r, -, own⟩ := Store.lookup_of_property? found
  exact closed.properties own isObject

theorem Store.Closed.lt_of_leads (closed : s.Closed) (leads : Leads s env name keys ref) :
    ref < s.objectCount := by
  cases leads with
  | root found =>
      obtain ⟨scope, -, binding⟩ := List.exists_of_findSome?_eq_some found
      exact closed.bindings binding
  | property _ holds => exact closed.lt_of_holds holds

/-- What leads to an object in one store does so in another: a property is changed only where it holds
no object or the same one. -/
structure Keeps (env : Env) (s s' : Store) : Prop where
  count : s.objectCount ≤ s'.objectCount
  bindings : ∀ {name ref}, env.findSome? (s.scopes · name) = some (.object ref) →
    env.findSome? (s'.scopes · name) = some (.object ref)
  protos : ∀ ref < s.objectCount, (s'.objects ref).proto = (s.objects ref).proto
  lookups : ∀ ref < s.objectCount, ∀ key,
    (s'.objects ref).properties.lookup key = (s.objects ref).properties.lookup key ∨
      ∃ p, (s'.objects ref).properties.lookup key = some p ∧
        ∀ value, s.Holds ref key value → p.object? = some value

theorem Keeps.lineage (keeps : Keeps env s s') (closed : s.Closed) {depth : Nat}
    (within : depth ≤ s.objectCount) (made : ref < s.objectCount)
    (found : (s.lineage depth ref).findSome? (fun r => (s.objects r).properties.lookup key) = some p)
    (isObject : p.object? = some value) :
    ∃ q, (s'.lineage depth ref).findSome? (fun r => (s'.objects r).properties.lookup key) = some q ∧
      q.object? = some value := by
  have whole : s.Holds ref key value := ⟨p, Store.property?_of_lineage within found, isObject⟩
  -- From one ancestor to the next: each has its properties as before, or got one that holds the same.
  induction depth generalizing ref with
  | zero => cases found
  | succ depth ih =>
      rw [Store.lineage, List.findSome?_cons] at found ⊢
      rcases keeps.lookups ref made key with same | ⟨q, own, kept⟩
      · rw [same]
        cases own : (s.objects ref).properties.lookup key with
        | some q =>
            rw [own] at found
            exact ⟨q, rfl, Option.some.inj found ▸ isObject⟩
        | none =>
            rw [own] at found
            rw [keeps.protos ref made]
            cases proto : (s.objects ref).proto with
            | none =>
                rw [proto] at found
                cases found
            | some next =>
                rw [proto] at found
                have within := Nat.le_of_succ_le within
                exact ih within (closed.protos proto) found
                  ⟨p, Store.property?_of_lineage within found, isObject⟩
      · rw [own]
        exact ⟨q, rfl, kept value whole⟩

theorem Keeps.holds (keeps : Keeps env s s') (closed : s.Closed) (made : ref < s.objectCount)
    (holds : s.Holds ref key value) : s'.Holds ref key value := by
  obtain ⟨p, found, isObject⟩ := holds
  obtain ⟨q, kept, same⟩ := keeps.lineage closed (Nat.le_refl _) made found isObject
  exact ⟨q, Store.property?_of_lineage keeps.count kept, same⟩

theorem Keeps.leads (keeps : Keeps env s s') (closed : s.Closed) (leads : Leads s env name keys ref) :
    Leads s' env name keys ref := by
  induction leads with
  | root found => exact .root (keeps.bindings found)
  | property before holds ih => exact .property ih (keeps.holds closed (closed.lt_of_leads before) holds)

end

/-! ## What has to be there -/

theorem Store.lookup_of_allocate {s : Store} {r : Nat} {k : String} {p : OwnProperty}
    (found : ((s.allocate emptyObject).objects r).properties.lookup k = some p) :
    (s.objects r).properties.lookup k = some p := by
  rw [objects_allocate] at found
  split at found
  · cases found
  · exact found

theorem Store.proto_of_allocate {s : Store} {r proto : Nat}
    (found : ((s.allocate emptyObject).objects r).proto = some proto) :
    proto = objectPrototype ∨ (s.objects r).proto = some proto := by
  rw [objects_allocate] at found
  split at found
  · exact .inl (Option.some.inj found).symm
  · exact .inr found

def Usable (among : Nat → Prop) (v : Value) : Prop := truthy v → ∃ ref, v = .object ref ∧ among ref

def OwnProperty.IsPlain (among : Nat → Prop) (p : OwnProperty) : Prop :=
  ∃ value enumerable configurable, p = ⟨.data value true, enumerable, configurable⟩ ∧ Usable among value

/-- A path can be set up: its variable is declared, and what is found under the names in it can be
assigned, and is an object if it is not falsy. Only the objects matter to which the path may lead, and
those that they inherit from. -/
structure Ready (s : Store) (env : Env) (name : String) (keys : List String) (among : Nat → Prop) :
    Prop where
  closed : s.Closed
  root : ∃ value, env.findSome? (s.scopes · name) = some value ∧ Usable among value
  prototype : among objectPrototype
  protos : ∀ {ref proto}, among ref → (s.objects ref).proto = some proto → among proto
  plain : ∀ {ref}, among ref → ∀ key ∈ keys, ∀ p ∈ (s.objects ref).properties.lookup key, p.IsPlain among

section
variable {s s₁ : Store} {env : Env} {name key : String} {keys path : List String}
  {among : Nat → Prop} {ref value scope : Nat} {v : Value}

theorem Usable.mono {more : Nat → Prop} (usable : Usable among v) (grows : ∀ r, among r → more r) :
    Usable more v :=
  fun holds => (usable holds).imp fun r both => ⟨both.1, grows r both.2⟩

theorem Usable.isAmong (usable : Usable among (.object ref)) : among ref := by
  obtain ⟨r, same, within⟩ := usable rfl
  cases same
  exact within

theorem Ready.allocate (ready : Ready s env name keys among) :
    Ready (s.allocate emptyObject) env name keys fun r => among r ∨ r = s.objectCount where
  closed :=
    { made := Nat.lt_succ_of_lt ready.closed.made
      bindings := fun found => Nat.lt_succ_of_lt (ready.closed.bindings found)
      protos := fun found => Nat.lt_succ_of_lt <| (Store.proto_of_allocate found).elim
        (fun same => same ▸ ready.closed.made) ready.closed.protos
      properties := fun found isObject =>
        Nat.lt_succ_of_lt (ready.closed.properties (Store.lookup_of_allocate found) isObject) }
  root := ready.root.imp fun _ both => ⟨both.1, both.2.mono fun _ => .inl⟩
  prototype := .inl ready.prototype
  protos := by
    intro r proto within found
    rw [Store.objects_allocate] at found
    split at found
    case isTrue => exact .inl (Option.some.inj found ▸ ready.prototype)
    case isFalse old => exact .inl (ready.protos (within.resolve_right old) found)
  plain := by
    intro r within k member p found
    rw [Option.mem_def, Store.objects_allocate] at found
    split at found
    case isTrue => cases found
    case isFalse old =>
      obtain ⟨v, enumerable, configurable, rfl, usable⟩ :=
        ready.plain (within.resolve_right old) k member p found
      exact ⟨v, enumerable, configurable, rfl, usable.mono fun _ => .inl⟩

theorem Ready.setProperty (ready : Ready s env name keys among) (made : value < s.objectCount)
    (within : among value) (enumerable configurable : Bool) :
    Ready (s.setProperty ref key ⟨.data (.object value) true, enumerable, configurable⟩) env name
      keys among where
  closed :=
    { made := ready.closed.made
      bindings := ready.closed.bindings
      protos := fun found => ready.closed.protos (Store.proto_setProperty ref key _ _ ▸ found)
      properties := by
        intro r k p o found isObject
        rw [Store.lookup_setProperty] at found
        split at found
        · cases found
          cases isObject
          exact made
        · exact ready.closed.properties found isObject }
  root := ready.root
  prototype := ready.prototype
  protos := fun within found => ready.protos within (Store.proto_setProperty ref key _ _ ▸ found)
  plain := by
    intro r member k named p found
    rw [Option.mem_def, Store.lookup_setProperty] at found
    split at found
    · cases found
      exact ⟨_, _, _, rfl, fun _ => ⟨value, rfl, within⟩⟩
    · exact ready.plain member k named p found

theorem Ready.setVariable (ready : Ready s env name keys among) (made : value < s.objectCount)
    (within : among value) (visible : s.scopeOf? env name = some scope) :
    Ready (s.setVariable scope name (.object value)) env name keys among where
  closed :=
    { made := ready.closed.made
      bindings := by
        intro r x o found
        rw [Store.scopes_setVariable] at found
        split at found
        · cases found
          exact made
        · exact ready.closed.bindings found
      protos := ready.closed.protos
      properties := ready.closed.properties }
  root := ⟨.object value, by rw [findSome?_setVariable visible, if_pos rfl],
    fun _ => ⟨value, rfl, within⟩⟩
  prototype := ready.prototype
  protos := ready.protos
  plain := ready.plain

theorem Ready.among_of_lineage (ready : Ready s env name keys among) (within : among ref)
    {depth r : Nat} (member : r ∈ s.lineage depth ref) : among r := by
  induction depth generalizing ref with
  | zero => cases member
  | succ depth ih =>
      rw [Store.lineage] at member
      rcases List.mem_cons.1 member with rfl | member
      · exact within
      · cases proto : (s.objects ref).proto with
        | none =>
            rw [proto] at member
            cases member
        | some next =>
            rw [proto] at member
            exact ih (ready.protos within proto) member

theorem Ready.plain_of_property? (ready : Ready s env name keys among) (within : among ref)
    (member : key ∈ keys) {p : OwnProperty} (found : s.property? ref key = some p) :
    p.IsPlain among := by
  obtain ⟨r, ancestor, own⟩ := Store.lookup_of_property? found
  exact ready.plain (ready.among_of_lineage within ancestor) key member p own

theorem Ready.among_of_leads (ready : Ready s env name keys among) (leads : Leads s env name path ref)
    (names : path ⊆ keys) : among ref := by
  induction leads with
  | root found =>
      obtain ⟨value, read, usable⟩ := ready.root
      rw [found] at read
      cases read
      exact usable.isAmong
  | property before holds ih =>
      obtain ⟨p, found, isObject⟩ := holds
      obtain ⟨earlier, last⟩ := List.append_subset.1 names
      obtain ⟨v, enumerable, configurable, rfl, usable⟩ :=
        ready.plain_of_property? (ih earlier) (last (List.mem_singleton_self _)) found
      have same := OwnProperty.storedValue?_of_object? isObject
      cases same
      exact usable.isAmong

end

/-! ## One assignment -/

section
variable {s s₁ : Store} {env : Env} {name key : String} {keys path : List String}
  {among : Nat → Prop} {ref o : Nat} {v : Value}

namespace Chosen

theorem count (chosen : Chosen s v o s₁) : s.objectCount ≤ s₁.objectCount := by
  cases chosen with
  | old => exact Nat.le_refl _
  | new => exact Nat.le_succ _

theorem scopes (chosen : Chosen s v o s₁) : s₁.scopes = s.scopes := by
  cases chosen <;> rfl

theorem objects (chosen : Chosen s v o s₁) {r : Nat} (made : r < s.objectCount) :
    s₁.objects r = s.objects r := by
  cases chosen with
  | old => rfl
  | new => exact Store.objects_allocate_of_lt made _

theorem lt (chosen : Chosen s v o s₁) (made : ∀ ref, v = .object ref → ref < s.objectCount) :
    o < s₁.objectCount := by
  cases chosen with
  | old => exact made o rfl
  | new => exact Nat.lt_succ_self _

theorem ready (chosen : Chosen s v o s₁) (ready : Ready s env name keys among)
    (usable : Usable among v) :
    ∃ more, Ready s₁ env name keys more ∧ more o ∧ ∀ r, among r → more r := by
  cases chosen with
  | old => exact ⟨among, ready, usable.isAmong, fun _ => id⟩
  | new => exact ⟨_, ready.allocate, .inr rfl, fun _ => .inl⟩

theorem eq_of_object {value : Nat} (chosen : Chosen s (.object value) o s₁) : o = value := by
  cases chosen with
  | old => rfl
  | new falsy => cases falsy

theorem keeps_setVariable {scope : Nat} (chosen : Chosen s v o s₁)
    (visible : s₁.scopeOf? env name = some scope) (read : env.findSome? (s.scopes · name) = some v) :
    Keeps env s (s₁.setVariable scope name (.object o)) where
  count := chosen.count
  bindings := by
    intro x r found
    rw [findSome?_setVariable visible, chosen.scopes]
    split
    case isTrue same =>
      rw [same, read] at found
      cases found
      rw [chosen.eq_of_object]
    case isFalse => exact found
  protos := fun r made => congrArg Obj.proto (chosen.objects made)
  lookups := fun r made k => .inl (by rw [Store.objects_setVariable, chosen.objects made])

theorem keeps_setProperty (chosen : Chosen s v o s₁) (read : storedValue? (s.property? ref key) = some v)
    (enumerable configurable : Bool) :
    Keeps env s (s₁.setProperty ref key ⟨.data (.object o) true, enumerable, configurable⟩) where
  count := chosen.count
  bindings := fun found => chosen.scopes ▸ found
  protos := fun r made => (Store.proto_setProperty ..).trans (congrArg Obj.proto (chosen.objects made))
  lookups := by
    intro r made k
    rw [Store.lookup_setProperty, chosen.objects made]
    split
    case isTrue same =>
      obtain ⟨rfl, rfl⟩ := same
      refine .inr ⟨_, rfl, ?_⟩
      rintro value ⟨p, found, isObject⟩
      rw [found, p.storedValue?_of_object? isObject] at read
      cases read
      exact congrArg some chosen.eq_of_object
    case isFalse => exact .inl rfl

end Chosen

theorem Store.holds_setProperty (closed : s.Closed) (ref : Nat) (key : String) (value : Nat)
    (enumerable configurable : Bool) :
    (s.setProperty ref key ⟨.data (.object value) true, enumerable, configurable⟩).Holds ref key
      value := by
  refine ⟨⟨.data (.object value) true, enumerable, configurable⟩,
    property?_of_own (Nat.zero_lt_of_lt closed.made) ?_, rfl⟩
  rw [lookup_setProperty, if_pos ⟨rfl, rfl⟩]

theorem Ready.read (ready : Ready s env name keys among) (within : among ref) (member : key ∈ keys) :
    ∃ v, storedValue? (s.property? ref key) = some v ∧ Usable among v ∧
      ∀ value, v = .object value → value < s.objectCount := by
  cases found : s.property? ref key with
  | none => exact ⟨.undefined, rfl, nofun, nofun⟩
  | some p =>
      obtain ⟨v, enumerable, configurable, rfl, usable⟩ := ready.plain_of_property? within member found
      refine ⟨v, rfl, usable, ?_⟩
      rintro value rfl
      exact ready.closed.lt_of_holds ⟨_, found, rfl⟩

theorem Ready.assigned? (ready : Ready s env name keys among) (within : among ref)
    (member : key ∈ keys) (v : Value) :
    ∃ enumerable configurable,
      assigned? v ((s.objects ref).properties.lookup key) (s.property? ref key) =
        some ⟨.data v true, enumerable, configurable⟩ := by
  cases own : (s.objects ref).properties.lookup key with
  | some p =>
      obtain ⟨old, enumerable, configurable, rfl, -⟩ := ready.plain within key member p own
      exact ⟨enumerable, configurable, rfl⟩
  | none =>
      cases found : s.property? ref key with
      | none => exact ⟨true, true, rfl⟩
      | some p =>
          obtain ⟨old, enumerable, configurable, rfl, -⟩ := ready.plain_of_property? within member found
          exact ⟨true, true, rfl⟩

theorem executes_setUp_nil (ready : Ready s env name keys among) :
    ∃ n s' more, Executes n env (.setUp name []) s (.ok s') ∧ Ready s' env name keys more ∧
      Keeps env s s' ∧ ∃ o, Leads s' env name [] o := by
  obtain ⟨v, read, usable⟩ := ready.root
  have made (value : Nat) (same : v = .object value) : value < s.objectCount :=
    ready.closed.lt_of_leads (.root (same ▸ read))
  obtain ⟨o, s₁, chosen, evaluates⟩ := evaluates_orNew (evaluates_ident (n := 0) read)
    fun holds => (usable holds).imp fun _ => And.left
  obtain ⟨more, ready₁, within, -⟩ := chosen.ready ready usable
  have declared : env.findSome? (s₁.scopes · name) = some v := chosen.scopes ▸ read
  obtain ⟨scope, visible⟩ := scopeOf?_of_findSome? declared
  refine ⟨_, _, more, executes_declareVar evaluates visible,
    ready₁.setVariable (chosen.lt made) within visible, chosen.keeps_setVariable visible read, o,
    .root ?_⟩
  rw [findSome?_setVariable visible, if_pos rfl]

theorem executes_setUp_append (ready : Ready s env name keys among) (names : path ⊆ keys)
    (member : key ∈ keys) (leads : Leads s env name path ref) :
    ∃ n s' more, Executes n env (.setUp name (path ++ [key])) s (.ok s') ∧
      Ready s' env name keys more ∧ Keeps env s s' ∧ ∃ o, Leads s' env name (path ++ [key]) o := by
  have within : among ref := ready.among_of_leads leads names
  obtain ⟨v, read, usable, made⟩ := ready.read within member
  have object := evaluates_path leads
  have value : Evaluates (path.length + 2) env (.path name (path ++ [key])) s (.ok (v, s)) := by
    rw [Expr.path_append]
    exact evaluates_member object names_ident read
  obtain ⟨o, s₁, chosen, evaluates⟩ := evaluates_orNew value
    fun holds => (usable holds).imp fun _ => And.left
  obtain ⟨more, ready₁, isIn, grows⟩ := chosen.ready ready usable
  obtain ⟨enumerable, configurable, written⟩ := ready₁.assigned? (grows ref within) member (.object o)
  have keeps : Keeps env s _ := chosen.keeps_setProperty read enumerable configurable
  have holds := Store.holds_setProperty ready₁.closed ref key o enumerable configurable
  have assigns := executes_expr <|
    evaluates_assign (object.mono (Nat.le_add_right _ 3)) names_ident evaluates written
  rw [← Stmt.setPath_append] at assigns
  exact ⟨_, _, more, assigns, ready₁.setProperty (chosen.lt made) isIn enumerable configurable, keeps,
    o, .property (keeps.leads ready.closed leads) holds⟩

end

/-! ## All assignments -/

section
variable {s s₁ s₂ : Store} {env : Env} {name : String} {keys : List String} {among : Nat → Prop}

theorem executes_setUp_take {j : Nat} (ready : Ready s env name keys among) (within : j < keys.length)
    (before : ∀ k < j, ∃ ref, Leads s env name (keys.take k) ref) :
    ∃ n s' more, Executes n env (.setUp name (keys.take j)) s (.ok s') ∧
      Ready s' env name keys more ∧ Keeps env s s' ∧ ∃ ref, Leads s' env name (keys.take j) ref := by
  cases j with
  | zero => exact executes_setUp_nil ready
  | succ j =>
      obtain ⟨ref, leads⟩ := before j (Nat.lt_succ_self j)
      rw [List.take_succ_eq_append_getElem (Nat.lt_of_succ_lt within)]
      exact executes_setUp_append ready (List.take_subset j keys) (List.getElem_mem _) leads

theorem executes_setUps_range (ready : Ready s env name keys among) {j : Nat}
    (within : j ≤ keys.length) :
    ∃ n s' more,
      ExecutesAll n env ((List.range j).map fun k => .setUp name (keys.take k)) s (.ok s') ∧
      Ready s' env name keys more ∧
      (∀ other path ref, Leads s env other path ref → Leads s' env other path ref) ∧
      ∀ k < j, ∃ ref, Leads s' env name (keys.take k) ref := by
  -- What is set up last is the object of which the next statement reads a property.
  induction j with
  | zero => exact ⟨0, s, among, executesAll_nil, ready, fun _ _ _ => id, nofun⟩
  | succ j ih =>
      obtain ⟨n, s₁, some, first, ready₁, kept, before⟩ := ih (Nat.le_of_succ_le within)
      obtain ⟨m, s₂, more, last, ready₂, keeps, leads⟩ := executes_setUp_take ready₁ within before
      have still {other : String} {path : List String} {ref : Nat} :
          Leads s₁ env other path ref → Leads s₂ env other path ref := keeps.leads ready₁.closed
      rw [List.range_succ, List.map_append]
      have both := executesAll_append (first.mono (Nat.le_max_left n m))
        ((executesAll_cons last executesAll_nil).mono (Nat.le_max_right n m))
      refine ⟨_, s₂, more, both, ready₂, fun other path ref old => still (kept other path ref old),
        fun k below => ?_⟩
      rcases Nat.lt_succ_iff_lt_or_eq.1 below with below | rfl
      · exact (before k below).imp fun _ => still
      · exact leads

/-- All that a path goes through can be set up: what led to an object still does, and each beginning
of the path leads to one. -/
theorem executes_setUps (ready : Ready s env name keys among) :
    ∃ n s', ExecutesAll n env (Stmt.setUps name keys) s (.ok s') ∧
      (∀ other path ref, Leads s env other path ref → Leads s' env other path ref) ∧
      ∀ k < keys.length, ∃ ref, Leads s' env name (keys.take k) ref := by
  obtain ⟨n, s', -, executes, -, kept, leads⟩ := executes_setUps_range ready (Nat.le_refl _)
  exact ⟨n, s', executes, kept, leads⟩

end

end Enclose.Runtime
