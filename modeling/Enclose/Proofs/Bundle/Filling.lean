import Enclose.Proofs.Bundle.Scope
import Enclose.Proofs.Bundle.Templates

/-!
# The marker is found in the text that was read

Where statements are put does not depend on the places in a tree (`fillLast_unplaced`), so the
statements of a module find their place in what is read from the text around them
(`fillLast_text`, `fillMarker_commonText`).
-/

namespace Enclose.Bundle
open Script

section
variable {body : List Stmt}

theorem fillMarker_unplaced (stmts : List Stmt) :
    (fillMarker body stmts).map (·.map Stmt.unplaced) =
      fillMarker (body.map Stmt.unplaced) (stmts.map Stmt.unplaced) := by
  induction stmts with
  | nil => rfl
  | cons s rest ih =>
      -- Only a statement that is a name may be the marker.
      have other (keep : fillMarker body (s :: rest) = do return s :: (← fillMarker body rest))
          (keepUnplaced : fillMarker (body.map Stmt.unplaced) (s.unplaced :: rest.map Stmt.unplaced) = do
            return s.unplaced :: (← fillMarker (body.map Stmt.unplaced) (rest.map Stmt.unplaced))) :
          (fillMarker body (s :: rest)).map (·.map Stmt.unplaced) =
            fillMarker (body.map Stmt.unplaced) (s.unplaced :: rest.map Stmt.unplaced) := by
        rw [keep, keepUnplaced, ← ih]
        cases fillMarker body rest <;> rfl
      rw [List.map_cons]
      cases s with
      | expr value =>
          cases value with
          | ident name =>
              by_cases same : (name == marker) = true
              · simp [fillMarker, same, Stmt.unplaced, Expr.unplaced, Except.map]
              · exact other (by simp [fillMarker, same]) (by simp [fillMarker, same, Stmt.unplaced, Expr.unplaced])
          | _ => exact other rfl rfl
      | _ => exact other rfl rfl

theorem fillCall_unplaced (value : Expr) :
    (fillCall body value).map Expr.unplaced = fillCall (body.map Stmt.unplaced) value.unplaced := by
  cases value with
  | call callee args =>
      cases callee with
      | paren inner =>
          cases inner with
          | arrowBlock isAsync params stmts =>
              have inside := @fillMarker_unplaced body stmts
              simp only [Expr.unplaced, fillCall, unplacedStmts_eq, ← inside]
              cases fillMarker body stmts with
              | error => rfl
              | ok => simp [bind, Except.bind, pure, Except.pure, Except.map, Expr.unplaced, unplacedStmts_eq]
          | _ => rfl
      | _ => rfl
  | _ => rfl

theorem fillItem_unplaced (item : ModuleItem) :
    (fillItem body item).map ModuleItem.unplaced =
      fillItem (body.map Stmt.unplaced) item.unplaced := by
  have result (value : Expr) (rebuild : Expr → Stmt) (rebuildUnplaced : Expr → Stmt)
      (same : ∀ e, (rebuild e).unplaced = rebuildUnplaced e.unplaced) :
      (do return .stmt (rebuild (← fillCall body value)) : Except Failure ModuleItem).map
          ModuleItem.unplaced = do
        return .stmt (rebuildUnplaced (← fillCall (body.map Stmt.unplaced) value.unplaced)) := by
    rw [← fillCall_unplaced]
    cases fillCall body value with
    | error => rfl
    | ok e => exact congrArg (fun s => Except.ok (ModuleItem.stmt s)) (same e)
  -- In each of the three shapes only the expression with the call changes.
  cases item with
  | stmt s =>
      cases s with
      | var kind declarators =>
          cases declarators with
          | nil => rfl
          | cons declarator declarators =>
              cases declarator with
              | defaulted pattern value => exact result value _ _ fun _ => rfl
              | _ => rfl
      | expr value =>
          cases value with
          | assign op target value => exact result value _ _ fun _ => rfl
          | _ => exact result _ _ _ fun _ => rfl
      | _ => rfl
  | _ => rfl

theorem fillLast_unplaced (items : List ModuleItem) :
    (fillLast body items).map (·.map ModuleItem.unplaced) =
      fillLast (body.map Stmt.unplaced) (items.map ModuleItem.unplaced) := by
  induction items with
  | nil => rfl
  | cons item rest ih =>
      cases rest with
      | nil =>
          have last := @fillItem_unplaced body item
          simp only [List.map_cons, List.map_nil, fillLast, ← last]
          cases fillItem body item <;> rfl
      | cons next others =>
          simp only [List.map_cons, fillLast] at ih ⊢
          rw [← ih]
          cases fillLast body (next :: others) <;> rfl

theorem ok_of_map {α β ε : Type} {f : α → β} {result : Except ε α} {b : β}
    (mapped : result.map f = .ok b) : ∃ a, result = .ok a ∧ f a = b := by
  cases result with
  | error => cases mapped
  | ok a =>
      injection mapped with same
      exact ⟨a, rfl, same⟩

end

section
variable {l : Lowered} {path : List String}

theorem readPrologue_ne_marker (l : Lowered) : ∀ s ∈ readPrologue l, s ≠ markerStmt := by
  have object : ∀ s ∈ readObject l, s ≠ markerStmt := by
    intro s member
    simp only [readObject, List.mem_ite_nil_right, List.mem_ite_nil_left, List.mem_cons,
      List.not_mem_nil, or_false] at member
    rcases member with ⟨_, rfl | rfl | ⟨_, rfl⟩⟩ <;>
      simp [markerStmt, exportTable, Stmt.declareVar, Stmt.declare, Stmt.call, Expr.callWith]
  exact List.forall_mem_append.2 ⟨helpers_ne_marker l, object⟩

theorem fillLast_text (plain : isPlainPath path) (written : ∀ e ∈ l.exports, e.getter.isWritten)
    (body : List Stmt) : ∃ m items, (Module.parse (Template.text path l).toList).clean? = some m ∧
      fillLast body m.items = .ok items ∧ items.map ModuleItem.unplaced =
        (assignPath (callOf (readPrologue l ++ body.map Stmt.unplaced ++ returnExports l)) path).map
          .stmt := by
  obtain ⟨m, read, looks⟩ := readsAs_text plain written
  have filled := fillLast_assignPath (body.map Stmt.unplaced) (returnExports l)
    (readPrologue_ne_marker l) path
  have placed := @fillLast_unplaced body m.items
  rw [looks] at placed
  obtain ⟨items, fills, unplaced⟩ := ok_of_map (placed.trans filled)
  exact ⟨m, items, read, fills, unplaced⟩

theorem stmts_of_unplaced {items : List ModuleItem} {stmts : List Stmt}
    (looks : items.map ModuleItem.unplaced = stmts.map .stmt) :
    ∃ own : List Stmt, items = own.map .stmt ∧ own.map Stmt.unplaced = stmts := by
  induction items generalizing stmts with
  | nil =>
      cases stmts with
      | nil => exact ⟨[], rfl, rfl⟩
      | cons => cases looks
  | cons item rest ih =>
      cases stmts with
      | nil => cases looks
      | cons s stmts =>
          injection looks with first others
          obtain ⟨own, rfl, rfl⟩ := ih others
          cases item with
          | stmt t =>
              cases first
              exact ⟨t :: own, rfl, rfl⟩
          | _ => cases first

theorem fillMarker_commonText (written : ∀ e ∈ l.exports, e.getter.isWritten) (body : List Stmt) :
    ∃ m stmts filled, (Module.parse (commonText l).toList).clean? = some m ∧
      m.items = stmts.map .stmt ∧ fillMarker body stmts = .ok filled ∧
      filled.map Stmt.unplaced = readPrologue l ++ assignExports l ++ body.map Stmt.unplaced := by
  obtain ⟨m, read, looks⟩ := readsAs_commonText written
  obtain ⟨stmts, own, unplaced⟩ := stmts_of_unplaced looks
  have placed := @fillMarker_unplaced body stmts
  have others : ∀ s ∈ readPrologue l ++ assignExports l, s ≠ markerStmt :=
    List.forall_mem_append.2 ⟨readPrologue_ne_marker l, assignExports_ne_marker l⟩
  have filled := fillMarker_first (body.map Stmt.unplaced) [] others
  rw [unplaced] at placed
  obtain ⟨result, fills, same⟩ := ok_of_map (placed.trans filled)
  exact ⟨m, stmts, result, read, own, fills, by simpa using same⟩

end

end Enclose.Bundle
