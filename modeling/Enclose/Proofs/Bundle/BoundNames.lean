import Enclose.Proofs.Bundle.Hygiene
import Enclose.Proofs.Script.Part

/-!
# The names that a declaration of variables exports

An identifier in a declaration has a place, which is the way down to it through the parts of the
declaration. It is bound there unless the way goes through an expression, such as a default value or an
initial value, or through the key of a property (`Part.Binds`). The names that are exported are those at
the places where identifiers are bound, in the order of these places (`exports_of_declarators`).
-/

namespace Enclose.Script.Part
open Enclose.Bundle

/-- The part at the end of a way, which takes the child of a number at each step. -/
def partAt? : Part → List Nat → Option Part
  | whole, [] => some whole
  | whole, i :: way => whole.children[i]?.bind (partAt? · way)

def name? : Part → Option String
  | expr (.ident name) | key (.ident name) | pattern (.ident name) => some name
  | property (.shorthand _ name) | property (.defaulted _ name _) | pattern (.shorthand name _) =>
    some name
  | function (.mk name _ _ _ _) => name
  | «class» (.mk name _ _) => name
  | _ => none

def isExprOrKey : Part → Bool
  | expr _ | key _ => true
  | _ => false

variable {whole : Part} {way : List Nat} {name : String}

def NameAt (whole : Part) (way : List Nat) (name : String) : Prop :=
  (whole.partAt? way).bind name? = some name

/-- A way goes through no expression and no key of a property, and does not end at one. -/
def Outside (whole : Part) (way : List Nat) : Prop :=
  ∀ start, start <+: way → ∀ part, whole.partAt? start = some part → part.isExprOrKey = false

def Binds (whole : Part) (way : List Nat) (name : String) : Prop :=
  whole.NameAt way name ∧ whole.Outside way

theorem outside_nil_iff : whole.Outside [] ↔ whole.isExprOrKey = false := by
  constructor
  · intro outside
    exact outside [] (List.nil_prefix) whole rfl
  · intro closed start before part found
    rw [List.prefix_nil.1 before] at found
    cases found
    exact closed

theorem outside_cons_iff {i : Nat} :
    whole.Outside (i :: way) ↔
      whole.isExprOrKey = false ∧ ∀ child, whole.children[i]? = some child → child.Outside way := by
  constructor
  · intro outside
    refine ⟨outside [] (List.nil_prefix) whole rfl, fun child same start before part found => ?_⟩
    apply outside (i :: start) (List.cons_prefix_cons.2 ⟨rfl, before⟩) part
    rw [partAt?, same]
    exact found
  · rintro ⟨here, below⟩ start before part found
    cases start with
    | nil =>
        cases found
        exact here
    | cons j start =>
        obtain ⟨rfl, shorter⟩ := List.cons_prefix_cons.1 before
        obtain ⟨child, same, found⟩ := Option.bind_eq_some_iff.1 found
        exact below child same start shorter part found

theorem binds_nil_iff : whole.Binds [] name ↔ whole.isExprOrKey = false ∧ whole.name? = some name := by
  rw [Binds, outside_nil_iff, and_comm]
  rfl

theorem binds_cons_iff {i : Nat} :
    whole.Binds (i :: way) name ↔
      whole.isExprOrKey = false ∧ ∃ child, whole.children[i]? = some child ∧ child.Binds way name := by
  rw [Binds, outside_cons_iff, NameAt, partAt?]
  cases whole.children[i]? with
  | none => simp
  | some child => simp [Binds, NameAt, and_left_comm]

theorem not_binds_of_isExprOrKey (closed : whole.isExprOrKey) : ¬ whole.Binds way name := by
  rintro ⟨-, outside⟩
  have opened := outside [] (List.nil_prefix) whole rfl
  rw [closed] at opened
  contradiction

structure Lists (whole : Part) (places : List (List Nat × String)) : Prop where
  sorted : places.Pairwise fun first second => first.1 < second.1
  mem_iff : ∀ way name, (way, name) ∈ places ↔ whole.Binds way name

theorem lists_nil (closed : whole.isExprOrKey) : whole.Lists [] where
  sorted := .nil
  mem_iff _ _ := iff_of_false List.not_mem_nil (not_binds_of_isExprOrKey closed)

theorem lists_single (opened : whole.isExprOrKey = false) (named : whole.name? = some name)
    (values : ∀ child ∈ whole.children, child.isExprOrKey) : whole.Lists [([], name)] where
  sorted := List.pairwise_singleton _ _
  mem_iff way other := by
    cases way with
    | nil => simp [binds_nil_iff, opened, named, eq_comm]
    | cons i way =>
        simp only [List.mem_singleton, Prod.mk.injEq, List.cons_ne_nil, false_and, false_iff]
        intro bound
        obtain ⟨-, child, same, below⟩ := binds_cons_iff.1 bound
        exact not_binds_of_isExprOrKey (values child (List.mem_of_getElem? same)) below

structure ListsFrom (first : Nat) (children : List Part) (places : List (List Nat × String)) : Prop where
  sorted : places.Pairwise fun first second => first.1 < second.1
  mem_iff : ∀ way name, (way, name) ∈ places ↔
    ∃ i child rest, way = (first + i) :: rest ∧ children[i]? = some child ∧ child.Binds rest name

theorem listsFrom_nil (first : Nat) : ListsFrom first [] [] where
  sorted := .nil
  mem_iff way name := by simp

theorem listsFrom_cons {first : Nat} {child : Part} {children : List Part}
    {places others : List (List Nat × String)} (head : child.Lists places)
    (tail : ListsFrom (first + 1) children others) :
    ListsFrom first (child :: children)
      (places.map (fun place => (first :: place.1, place.2)) ++ others) where
  sorted := by
    rw [List.pairwise_append, List.pairwise_map]
    -- All ways through the first child come before those through the others.
    refine ⟨head.sorted.imp fun before => List.cons_lt_cons_iff.2 (.inr ⟨rfl, before⟩), tail.sorted, ?_⟩
    intro place here other later
    obtain ⟨place, -, rfl⟩ := List.mem_map.1 here
    obtain ⟨i, child, rest, way, -⟩ := (tail.mem_iff other.1 other.2).1 later
    rw [way]
    exact List.cons_lt_cons_iff.2 (.inl (by omega))
  mem_iff way name := by
    rw [List.mem_append, tail.mem_iff]
    constructor
    · rintro (here | ⟨i, part, rest, rfl, same, bound⟩)
      · obtain ⟨⟨rest, name⟩, member, same⟩ := List.mem_map.1 here
        cases same
        exact ⟨0, child, rest, rfl, rfl, (head.mem_iff rest _).1 member⟩
      · exact ⟨i + 1, part, rest, by rw [Nat.add_assoc, Nat.add_comm 1], same, bound⟩
    · rintro ⟨i, part, rest, rfl, same, bound⟩
      cases i with
      | zero =>
          cases same
          exact .inl (List.mem_map.2 ⟨(rest, name), (head.mem_iff rest name).2 bound, rfl⟩)
      | succ i => exact .inr ⟨i, part, rest, by rw [Nat.add_assoc, Nat.add_comm 1], same, bound⟩

theorem lists_children (opened : whole.isExprOrKey = false) (unnamed : whole.name? = none)
    {places : List (List Nat × String)} (below : ListsFrom 0 whole.children places) :
    whole.Lists places where
  sorted := below.sorted
  mem_iff way name := by
    rw [below.mem_iff]
    cases way with
    | nil => simp [binds_nil_iff, unnamed]
    | cons i rest =>
        rw [binds_cons_iff]
        constructor
        · rintro ⟨j, child, rest', same, found, bound⟩
          rw [Nat.zero_add, List.cons.injEq] at same
          obtain ⟨rfl, rfl⟩ := same
          exact ⟨opened, child, found, bound⟩
        · rintro ⟨-, child, found, bound⟩
          exact ⟨i, child, rest, by rw [Nat.zero_add], found, bound⟩

end Enclose.Script.Part

namespace Enclose.Bundle
open Script

def ListsNames (whole : Part) (names : List String) : Prop :=
  ∃ places, whole.Lists places ∧ places.map Prod.snd = names

theorem listsFrom_flatten {children : List Part} {names : List (List String)}
    (each : List.Forall₂ ListsNames children names) (first : Nat) :
    ∃ places, Part.ListsFrom first children places ∧ places.map Prod.snd = names.flatten := by
  induction each generalizing first with
  | nil => exact ⟨[], Part.listsFrom_nil first, rfl⟩
  | cons head _ ih =>
      obtain ⟨places, listed, rfl⟩ := head
      obtain ⟨others, rest, same⟩ := ih (first + 1)
      refine ⟨_, Part.listsFrom_cons listed rest, ?_⟩
      rw [List.map_append, List.map_map, same]
      rfl

theorem listsNames_children {whole : Part} (opened : whole.isExprOrKey = false)
    (unnamed : whole.name? = none) {names : List (List String)}
    (each : List.Forall₂ ListsNames whole.children names) : ListsNames whole names.flatten := by
  obtain ⟨places, listed, same⟩ := listsFrom_flatten each 0
  exact ⟨places, Part.lists_children opened unnamed listed, same⟩

theorem listsNames_value {whole : Part} (closed : whole.isExprOrKey) : ListsNames whole [] :=
  ⟨[], Part.lists_nil closed, rfl⟩

theorem forall₂_patterns {patterns : List Pattern}
    (each : ∀ p ∈ patterns, ListsNames (.pattern p) (boundNames p)) :
    List.Forall₂ ListsNames (patterns.map Part.pattern) (patterns.map boundNames) := by
  rw [List.forall₂_map_left_iff, List.forall₂_map_right_iff, List.forall₂_same]
  exact each

theorem listsNames_boundNames (p : Pattern) : ListsNames (.pattern p) (boundNames p) := by
  -- By the children of the pattern: expressions and keys among them list nothing.
  cases p with
  | ident name => exact ⟨_, Part.lists_single rfl rfl nofun, rfl⟩
  | shorthand name value =>
      refine ⟨_, Part.lists_single rfl rfl fun child member => ?_, rfl⟩
      obtain ⟨e, -, rfl⟩ := List.mem_map.1 member
      rfl
  | array elements =>
      have each := forall₂_patterns fun q (_ : q ∈ elements) => listsNames_boundNames q
      rw [boundNames, boundNamesOf_eq]
      exact listsNames_children rfl rfl each
  | object properties =>
      have each := forall₂_patterns fun q (_ : q ∈ properties) => listsNames_boundNames q
      rw [boundNames, boundNamesOf_eq]
      exact listsNames_children rfl rfl each
  | keyed key value =>
      have each : List.Forall₂ ListsNames (Part.pattern (.keyed key value)).children [[], boundNames value] :=
        .cons (listsNames_value rfl) (.cons (listsNames_boundNames value) .nil)
      simpa [boundNames] using listsNames_children rfl rfl each
  | rest inner =>
      have each : List.Forall₂ ListsNames (Part.pattern (.rest inner)).children [boundNames inner] :=
        .cons (listsNames_boundNames inner) .nil
      simpa [boundNames] using listsNames_children rfl rfl each
  | defaulted inner value =>
      have each : List.Forall₂ ListsNames (Part.pattern (.defaulted inner value)).children
          [boundNames inner, []] :=
        .cons (listsNames_boundNames inner) (.cons (listsNames_value rfl) .nil)
      simpa [boundNames] using listsNames_children rfl rfl each
  | expr target =>
      have each : List.Forall₂ ListsNames (Part.pattern (.expr target)).children [[]] :=
        .cons (listsNames_value rfl) .nil
      exact listsNames_children rfl rfl each
  | hole =>
      have each : List.Forall₂ ListsNames (Part.pattern .hole).children [] := .nil
      exact listsNames_children rfl rfl each
  | invalid =>
      have each : List.Forall₂ ListsNames (Part.pattern .invalid).children [] := .nil
      exact listsNames_children rfl rfl each
termination_by sizeOf p

theorem listsNames_declaration (kind : VarKind) (declarators : List Pattern) :
    ListsNames (.stmt (.var kind declarators)) (boundNamesOf declarators) := by
  rw [boundNamesOf_eq]
  exact listsNames_children rfl rfl (forall₂_patterns fun p _ => listsNames_boundNames p)

/-- A declaration of variables exports a variable for each place at which an identifier is bound in it,
in the order of these places, and none for an identifier that is written only in expressions and in keys of
properties. -/
theorem exports_of_declarators (k : Nat) (kind : VarKind) (declarators : List Pattern) :
    ∃ (l : Lowered) (places : List (List Nat × String)),
      lowerItem k (.exportDecl (.var kind declarators)) = .ok l ∧
      l.exports = places.map (fun place => ⟨place.2, .own place.2⟩) ∧
      (places.Pairwise fun first second => first.1 < second.1) ∧
      (∀ way name, (way, name) ∈ places ↔ (Part.stmt (.var kind declarators)).Binds way name) ∧
      ∀ name, (∀ way, (Part.stmt (.var kind declarators)).NameAt way name →
        ¬ (Part.stmt (.var kind declarators)).Outside way) → name ∉ l.exports.map Export.name := by
  obtain ⟨places, listed, names⟩ := listsNames_declaration kind declarators
  have exports : (boundNamesOf declarators).map (fun name => (⟨name, .own name⟩ : Export)) =
      places.map fun place => ⟨place.2, .own place.2⟩ := by
    rw [← names, List.map_map]
    rfl
  refine ⟨_, places, rfl, exports, listed.sorted, listed.mem_iff, fun name inside exported => ?_⟩
  simp only [declaredNames, exports, List.map_map, List.mem_map] at exported
  obtain ⟨place, member, rfl⟩ := exported
  obtain ⟨named, outside⟩ := (listed.mem_iff place.1 place.2).1 member
  exact inside place.1 named outside

example : declaredNames (.var .let
    [.defaulted (.object
      [ .keyed (.computed (.ident "a")) (.array [.hole, .ident "b", .rest (.ident "c")]),
        .shorthand "d" (some (.ident "e")), .keyed (.ident "f") (.defaulted (.ident "g") (.ident "h")) ])
      (.ident "i")]) = ["b", "c", "d", "g"] := rfl

end Enclose.Bundle
