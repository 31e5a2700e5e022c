import Enclose.Bundle.TopLevelAwait
import Enclose.Proofs.Script.Part

/-!
# Waiting outside of functions

The search for a top-level `await` does not enter functions, but it enters the accessors of an object
literal. It finds something in a part iff the part waits below parts that it enters (`Part.awaits_iff`).
So it finds each program that waits outside of functions (`hasTopLevelAwait_of_awaitsOutside`), and is
exact for programs in which no such accessor waits, and for those that wait elsewhere as well
(`hasTopLevelAwait_iff`).
-/

namespace Enclose.Script.Part
open Enclose.Bundle

def isAwait : Part → Bool
  | expr (.await _) | stmt (.forOf true _ _ _) => true
  | _ => false

def awaitsCase : SwitchCase → Bool
  | .mk test body => awaitsExpr? test || awaitsStmts body

def awaits : Part → Bool
  | expr e => awaitsExpr e
  | element e => awaitsElement e
  | key k => awaitsKey k
  | property p => awaitsProperty p
  | function _ => false
  | «class» c => awaitsClass c
  | member m => awaitsMember m
  | pattern p => awaitsPattern p
  | stmt s => awaitsStmt s
  | head h => awaitsHead h
  | case c => awaitsCase c
  | item i => awaitsItem i

variable {part : Part}

@[simp] theorem awaitsExprs_eq (exprs : List Expr) : awaitsExprs exprs = exprs.any awaitsExpr := by
  induction exprs with
  | nil => rfl
  | cons value rest ih => rw [awaitsExprs, ih, List.any_cons]

@[simp] theorem awaitsElements_eq (elements : List Element) :
    awaitsElements elements = elements.any awaitsElement := by
  induction elements with
  | nil => rfl
  | cons element rest ih => rw [awaitsElements, ih, List.any_cons]

@[simp] theorem awaitsProperties_eq (properties : List Property) :
    awaitsProperties properties = properties.any awaitsProperty := by
  induction properties with
  | nil => rfl
  | cons property rest ih => rw [awaitsProperties, ih, List.any_cons]

@[simp] theorem awaitsMembers_eq (members : List ClassMember) :
    awaitsMembers members = members.any awaitsMember := by
  induction members with
  | nil => rfl
  | cons m rest ih => rw [awaitsMembers, ih, List.any_cons]

@[simp] theorem awaitsPatterns_eq (patterns : List Pattern) :
    awaitsPatterns patterns = patterns.any awaitsPattern := by
  induction patterns with
  | nil => rfl
  | cons pattern rest ih => rw [awaitsPatterns, ih, List.any_cons]

@[simp] theorem awaitsStmts_eq (stmts : List Stmt) : awaitsStmts stmts = stmts.any awaitsStmt := by
  induction stmts with
  | nil => rfl
  | cons s rest ih => rw [awaitsStmts, ih, List.any_cons]

@[simp] theorem awaitsCases_eq (cases : List SwitchCase) :
    awaitsCases cases = cases.any awaitsCase := by
  induction cases with
  | nil => rfl
  | cons c rest ih =>
      rcases c with ⟨test, body⟩
      rw [awaitsCases, ih, List.any_cons, awaitsCase]

@[simp] theorem awaitsExpr?_eq (value : Option Expr) :
    awaitsExpr? value = value.toList.any awaitsExpr := by
  cases value <;> simp [awaitsExpr?]

@[simp] theorem awaitsStmt?_eq (s : Option Stmt) : awaitsStmt? s = s.toList.any awaitsStmt := by
  cases s <;> simp [awaitsStmt?]

def accessor? : Part → Option Function
  | property (.getter _ _ f) | property (.setter _ _ f) => some f
  | _ => none

section
attribute [local simp] awaits isAwait Function.comp_def Bool.or_assoc

theorem awaitsExpr_eq {e : Expr} (outside : (expr e).isFunction = false) :
    awaitsExpr e = ((expr e).isAwait || e.children.any awaits) := by
  cases e with
  | arrow isAsync params value => contradiction
  | arrowBlock isAsync params body => contradiction
  | _ => simp [awaitsExpr, Expr.children]

theorem awaitsElement_eq (e : Element) : awaitsElement e = e.children.any awaits := by
  cases e <;> simp [awaitsElement, Element.children]

theorem awaitsKey_eq (k : PropertyKey) : awaitsKey k = k.children.any awaits := by
  cases k <;> simp [awaitsKey, PropertyKey.children]

theorem awaitsClass_eq (c : Class) : awaitsClass c = c.children.any awaits := by
  cases c
  simp [awaitsClass, Class.children]

theorem awaitsMember_eq {m : ClassMember} (outside : (member m).isFunction = false) :
    awaitsMember m = m.children.any awaits := by
  cases m with
  | constructor params body => contradiction
  | _ => simp [awaitsMember, ClassMember.children]

theorem awaitsPattern_eq (p : Pattern) : awaitsPattern p = p.children.any awaits := by
  cases p <;> simp [awaitsPattern, Pattern.children]

theorem awaitsHead_eq (h : ForHead) : awaitsHead h = h.children.any awaits := by
  cases h <;> simp [awaitsHead, ForHead.children]

theorem awaitsCase_eq (c : SwitchCase) : awaitsCase c = c.children.any awaits := by
  cases c
  simp [awaitsCase, SwitchCase.children]

theorem awaitsStmt_eq (s : Stmt) : awaitsStmt s = ((stmt s).isAwait || s.children.any awaits) := by
  cases s with
  | forOf waits head object body => cases waits <;> simp [awaitsStmt, Stmt.children]
  | _ => simp [awaitsStmt, Stmt.children]

theorem awaitsItem_eq (i : ModuleItem) : awaitsItem i = i.children.any awaits := by
  cases i <;> simp [awaitsItem, ModuleItem.children]

end

theorem awaits_of_isFunction (closed : part.isFunction) : part.awaits = false := by
  unfold isFunction at closed
  split at closed
  · rfl
  · rfl
  · rfl
  · rfl
  · contradiction

theorem awaitsAccessor_eq (f : Function) : awaitsAccessor f = f.children.any awaits := by
  cases f
  simp [awaitsAccessor, Function.children, Function.comp_def, awaits]

theorem awaitsProperty_eq (p : Property) :
    awaitsProperty p =
      (p.children.any awaits || (property p).accessor?.any (·.children.any awaits)) := by
  cases p <;> simp [awaitsProperty, Property.children, accessor?, awaitsAccessor_eq, awaits]

theorem awaits_eq (outside : part.isFunction = false) :
    part.awaits = (part.isAwait || (part.children.any awaits ||
      part.accessor?.any (·.children.any awaits))) := by
  cases part with
  | expr e => simp [awaits, awaitsExpr_eq outside, children, accessor?]
  | element e => simp [awaits, awaitsElement_eq, children, accessor?, isAwait]
  | key k => simp [awaits, awaitsKey_eq, children, accessor?, isAwait]
  | property p => simp [awaits, awaitsProperty_eq, children, isAwait]
  | function f => contradiction
  | «class» c => simp [awaits, awaitsClass_eq, children, accessor?, isAwait]
  | member m => simp [awaits, awaitsMember_eq outside, children, accessor?, isAwait]
  | pattern p => simp [awaits, awaitsPattern_eq, children, accessor?, isAwait]
  | stmt s => simp [awaits, awaitsStmt_eq, children, accessor?]
  | head h => simp [awaits, awaitsHead_eq, children, accessor?, isAwait]
  | case c => simp [awaits, awaitsCase_eq, children, accessor?, isAwait]
  | item i => simp [awaits, awaitsItem_eq, children, accessor?, isAwait]

theorem awaits_of_isAwait (waits : part.isAwait) : part.awaits := by
  unfold isAwait at waits
  split at waits
  · rfl
  · rfl
  · contradiction

/-- A part waits outside of every function, other than the accessors of object literals. -/
inductive Waits : Part → Prop
  | here {whole : Part} : whole.isAwait → Waits whole
  | inside {whole child : Part} : whole.isFunction = false → child ∈ whole.children → Waits child →
      Waits whole
  | accessor {whole child : Part} {f : Function} : whole.accessor? = some f → child ∈ f.children →
      Waits child → Waits whole

/-- An accessor of an object literal waits, and stands outside of every other function. -/
inductive AccessorWaits : Part → Prop
  | here {whole child : Part} {f : Function} : whole.accessor? = some f → child ∈ f.children →
      Waits child → AccessorWaits whole
  | inside {whole child : Part} : whole.isFunction = false → child ∈ whole.children →
      AccessorWaits child → AccessorWaits whole

theorem isFunction_of_accessor? {f : Function} (accessor : part.accessor? = some f) :
    part.isFunction = false ∧ .function f ∈ part.children := by
  unfold accessor? at accessor
  split at accessor
  · cases accessor
    exact ⟨rfl, List.mem_cons_of_mem _ List.mem_cons_self⟩
  · cases accessor
    exact ⟨rfl, List.mem_cons_of_mem _ List.mem_cons_self⟩
  · contradiction

theorem waits_of_awaits {whole : Part} (found : whole.awaits) : whole.Waits := by
  by_cases closed : whole.isFunction
  · rw [awaits_of_isFunction closed] at found
    contradiction
  · have outside : whole.isFunction = false := by simpa using closed
    rw [awaits_eq outside, Bool.or_eq_true, Bool.or_eq_true, List.any_eq_true] at found
    rcases found with here | ⟨child, member, waits⟩ | accessor
    · exact .here here
    · have smaller := sizeOf_lt_of_mem_children member
      exact .inside outside member (waits_of_awaits waits)
    · obtain ⟨f, same, waits⟩ := (Option.any_eq_true _ _).1 accessor
      obtain ⟨child, member, waits⟩ := List.any_eq_true.1 waits
      have inner : sizeOf child < sizeOf (function f) := sizeOf_lt_of_mem_children member
      have smaller := Nat.lt_trans inner (sizeOf_lt_of_mem_children (isFunction_of_accessor? same).2)
      exact .accessor same member (waits_of_awaits waits)
termination_by sizeOf whole

theorem awaits_of_waits {whole : Part} (waits : whole.Waits) : whole.awaits := by
  induction waits with
  | here found => exact awaits_of_isAwait found
  | inside outside member _ found =>
      have below := List.any_eq_true.2 ⟨_, member, found⟩
      rw [awaits_eq outside, below, Bool.true_or, Bool.or_true]
  | accessor same member _ found =>
      have below := List.any_eq_true.2 ⟨_, member, found⟩
      rw [awaits_eq (isFunction_of_accessor? same).1, same, Option.any_some, below, Bool.or_true,
        Bool.or_true]

theorem awaits_iff : part.awaits = true ↔ part.Waits :=
  ⟨waits_of_awaits, awaits_of_waits⟩

theorem waits_iff : part.Waits ↔ part.Holds outsideFunctions isAwait ∨ part.AccessorWaits := by
  constructor
  · intro waits
    induction waits with
    | here found => exact .inl (.here found)
    | inside outside member _ found =>
        apply found.imp
        · exact .inside (by simpa using outside) member
        · exact .inside outside member
    | accessor same member waits _ => exact .inr (.here same member waits)
  · rintro (found | found)
    · induction found with
      | here found => exact .here found
      | inside outside member _ waits => exact .inside (by simpa using outside) member waits
    · induction found with
      | here same member waits => exact .accessor same member waits
      | inside outside member _ waits => exact .inside outside member waits

theorem not_holds_isAwait (quiet : part.awaits = false) :
    ¬ part.Holds outsideFunctions isAwait := by
  intro found
  rw [awaits_iff.2 (waits_iff.2 (.inl found))] at quiet
  contradiction

end Enclose.Script.Part

namespace Enclose.Bundle
open Script
open Script.Part (outsideFunctions isAwait)

def AwaitsOutside (parts : List Part) : Prop := ∃ part ∈ parts, part.Holds outsideFunctions isAwait

def AwaitsInAccessor (parts : List Part) : Prop := ∃ part ∈ parts, part.AccessorWaits

theorem hasTopLevelAwait_eq (program : Program) :
    hasTopLevelAwait program = program.parts.any Part.awaits := by
  cases program with
  | module m => simp [hasTopLevelAwait, Program.parts, Function.comp_def, Part.awaits]
  | script s => simp [hasTopLevelAwait, Program.parts, Function.comp_def, Part.awaits]

theorem hasTopLevelAwait_iff (program : Program) :
    hasTopLevelAwait program = true ↔
      AwaitsOutside program.parts ∨ AwaitsInAccessor program.parts := by
  rw [hasTopLevelAwait_eq, List.any_eq_true]
  simp only [Part.awaits_iff, Part.waits_iff, AwaitsOutside, AwaitsInAccessor, ← exists_or, and_or_left]

theorem hasTopLevelAwait_of_awaitsOutside {program : Program}
    (waits : AwaitsOutside program.parts) : hasTopLevelAwait program = true :=
  (hasTopLevelAwait_iff program).2 (.inl waits)

end Enclose.Bundle
