import Enclose.Script.Tree
import Mathlib.Data.List.Perm.Basic

/-!
# Objects of a running program

The own properties of an object, the rules by which a descriptor makes or changes one
(`Descriptor.outcome?`), and the order in which `for in` visits them (`orderedKeys`).
-/

namespace Enclose.Runtime
open Script

/-- A value; those of other kinds do not occur in the code that is run here. An object is told by
its place in the store. -/
inductive Value where
  | undefined
  | bool (b : Bool)
  | text (s : String)
  | object (ref : Nat)
  deriving DecidableEq, Repr, Inhabited

inductive Content where
  | data (value : Value) (writable : Bool)
  | accessor (get set : Value)
  deriving DecidableEq, Repr

structure OwnProperty where
  content : Content
  enumerable : Bool
  configurable : Bool
  deriving DecidableEq, Repr

structure Descriptor where
  enumerable : Option Bool := none
  configurable : Option Bool := none
  value : Option Value := none
  writable : Option Bool := none
  get : Option Value := none
  set : Option Value := none
  deriving DecidableEq, Repr

namespace Descriptor

def isData (d : Descriptor) : Bool := d.value.isSome || d.writable.isSome

def isAccessor (d : Descriptor) : Bool := d.get.isSome || d.set.isSome

def newContent (d : Descriptor) : Content :=
  if d.isAccessor then .accessor (d.get.getD .undefined) (d.set.getD .undefined)
  else .data (d.value.getD .undefined) (d.writable.getD false)

def create (d : Descriptor) : OwnProperty :=
  ⟨d.newContent, d.enumerable.getD false, d.configurable.getD false⟩

/-- The property that one becomes. One that changes its kind starts anew. -/
def change (d : Descriptor) (p : OwnProperty) : OwnProperty where
  content :=
    match p.content with
    | .data value writable =>
      if d.isAccessor then d.newContent
      else .data (d.value.getD value) (d.writable.getD writable)
    | .accessor get set =>
      if d.isData then d.newContent else .accessor (d.get.getD get) (d.set.getD set)
  enumerable := d.enumerable.getD p.enumerable
  configurable := d.configurable.getD p.configurable

/-- Whether a property that is not configurable is what the descriptor asks for; of one that is
writable, the value may differ and the right to write it may be given up. -/
def fits (d : Descriptor) (p : OwnProperty) : Bool :=
  d.configurable != some true && d.enumerable.all (· == p.enumerable) &&
    match p.content with
    | .data value writable =>
      !d.isAccessor && (writable || d.writable != some true && d.value.all (· == value))
    | .accessor get set => !d.isData && d.get.all (· == get) && d.set.all (· == set)

def outcome? (d : Descriptor) : Option OwnProperty → Option OwnProperty
  | none => some d.create
  | some p => if p.configurable || d.fits p then some (d.change p) else none

end Descriptor

/-- The own property that comes of an assignment, where there may be one already or one that is
inherited; none where the assignment is ignored or calls a function. -/
def assigned? (value : Value) (own found : Option OwnProperty) : Option OwnProperty :=
  match own, found with
  | some ⟨.data _ true, enumerable, configurable⟩, _ =>
    some ⟨.data value true, enumerable, configurable⟩
  | none, none | none, some ⟨.data _ true, _, _⟩ => some ⟨.data value true, true, true⟩
  | _, _ => none

abbrev Table := List (String × OwnProperty)

namespace Table

def lookup (key : String) : Table → Option OwnProperty
  | [] => none
  | (name, p) :: rest => if name = key then some p else lookup key rest

/-- A property keeps its place when it is changed. -/
def insert (key : String) (p : OwnProperty) : Table → Table
  | [] => [(key, p)]
  | (name, q) :: rest => if name = key then (name, p) :: rest else (name, q) :: insert key p rest

def keys (table : Table) : List String := table.map Prod.fst

theorem lookup_eq_none_iff {key : String} {table : Table} :
    table.lookup key = none ↔ key ∉ table.keys := by
  induction table with
  | nil => simp [lookup, keys]
  | cons entry rest ih =>
      obtain ⟨name, p⟩ := entry
      by_cases same : name = key
      · simp [lookup, keys, same]
      · simpa [lookup, keys, same, Ne.symm same] using ih

theorem insert_of_not_mem {key : String} {table : Table} (fresh : key ∉ table.keys)
    (p : OwnProperty) : table.insert key p = table ++ [(key, p)] := by
  induction table with
  | nil => rfl
  | cons entry rest ih =>
      obtain ⟨name, q⟩ := entry
      simp only [keys, List.map_cons, List.mem_cons, not_or] at fresh
      rw [insert, if_neg (Ne.symm fresh.1), ih fresh.2, List.cons_append]

theorem lookup_insert (key k : String) (p : OwnProperty) (table : Table) :
    (table.insert key p).lookup k = if k = key then some p else table.lookup k := by
  induction table with
  | nil => simp [insert, lookup, eq_comm]
  | cons entry rest ih =>
      obtain ⟨name, q⟩ := entry
      by_cases same : name = key
      · by_cases other : k = key
        · simp [insert, lookup, same, other]
        · simp [insert, lookup, same, other, Ne.symm other]
      · by_cases here : name = k
        · simp [insert, lookup, here, here ▸ same]
        · simp [insert, lookup, same, here, ih]

theorem lookup_append {key : String} (first second : Table) :
    lookup key (first ++ second) = (first.lookup key).or (second.lookup key) := by
  induction first with
  | nil => rfl
  | cons entry rest ih =>
      obtain ⟨name, p⟩ := entry
      by_cases same : name = key
      · simp [lookup, same]
      · simpa [lookup, same] using ih

theorem lookup_of_mem {key : String} {p : OwnProperty} {table : Table}
    (distinct : table.keys.Nodup) (member : (key, p) ∈ table) : table.lookup key = some p := by
  induction table with
  | nil => contradiction
  | cons entry rest ih =>
      obtain ⟨name, q⟩ := entry
      simp only [keys, List.map_cons, List.nodup_cons] at distinct
      rcases List.mem_cons.1 member with same | member
      · cases same
        simp [lookup]
      · have different : name ≠ key := by
          rintro rfl
          exact distinct.1 (List.mem_map_of_mem member)
        rw [lookup, if_neg different]
        exact ih distinct.2 member

end Table

def arrayIndex? (key : String) : Option Nat :=
  key.toNat?.filter fun n => toString n == key && decide (n < 4294967295)

/-- Array indices come first, in increasing order, and then the other keys in the order in which
they were made. -/
def orderedKeys (keys : List String) : List String :=
  (keys.filter fun key => (arrayIndex? key).isSome).mergeSort
      (fun a b => decide ((arrayIndex? a).getD 0 ≤ (arrayIndex? b).getD 0)) ++
    keys.filter fun key => !(arrayIndex? key).isSome

theorem orderedKeys_perm (keys : List String) : (orderedKeys keys).Perm keys :=
  ((List.mergeSort_perm _ _).append_right _).trans (List.filter_append_perm _ keys)

end Enclose.Runtime
