import Enclose.Proofs.Bundle.Items
import Enclose.Proofs.Bundle.Path
import Enclose.Transform

/-!
# The scope that the statements of a module are put into

The scope is the top level of a common module, and the function that the last statement calls in a
module that is enclosed. The statements of the module take the place of the first marker in it
(`fillLast_assignPath`); what the library puts around them holds no other marker, whatever the
module exports, so they end up between the opening and the closing of the scope
(`commonModule_ok`, `enclose_ok`).
-/

namespace Enclose.Bundle
open Script

def calledStmts? : Expr → Option (List Stmt)
  | .call (.paren (.arrowBlock _ _ stmts)) _ => some stmts
  | _ => none

def itemStmts? : ModuleItem → Option (List Stmt)
  | .stmt (.var _ (.defaulted _ value :: _)) => calledStmts? value
  | .stmt (.expr (.assign _ _ value)) => calledStmts? value
  | .stmt (.expr value) => calledStmts? value
  | _ => none

def enclosedStmts? (items : List ModuleItem) : Option (List Stmt) := items.getLast?.bind itemStmts?

def plainStmt? : ModuleItem → Option Stmt
  | .stmt s => some s
  | _ => none

/-- The statements of the scope that holds the statements of a module. -/
def scope? : Format → List ModuleItem → Option (List Stmt)
  | .iife, items => enclosedStmts? items
  | .cjs, items => items.mapM plainStmt?
  | .esm, _ => none

def opening : Format → Lowered → List Stmt
  | .cjs, l => prologue l ++ assignExports l
  | _, l => prologue l

def closing : Format → Lowered → List Stmt
  | .iife, l => returnExports l
  | _, _ => []

theorem fillMarker_first {before : List Stmt} (body after : List Stmt)
    (others : ∀ s ∈ before, s ≠ markerStmt) :
    fillMarker body (before ++ markerStmt :: after) = .ok (before ++ body ++ after) := by
  induction before with
  | nil => simp [fillMarker, markerStmt]
  | cons s rest ih =>
      have first : s ≠ markerStmt := others s List.mem_cons_self
      have fill := ih fun t member => others t (List.mem_cons_of_mem s member)
      rw [List.cons_append, fillMarker.eq_def]
      simp only [fill]
      split
      · rename_i name
        have : name ≠ marker := fun same => first (by rw [same, markerStmt])
        simp [this, bind, Except.bind, pure, Except.pure]
      · rfl

theorem helpers_ne_marker (l : Lowered) : ∀ s ∈ helpers l, s ≠ markerStmt := by
  intro s member
  simp only [helpers, List.mem_append, List.mem_ite_nil_right, List.mem_ite_nil_left,
    List.mem_singleton] at member
  rcases member with ((⟨_, rfl⟩ | ⟨_, rfl⟩) | ⟨_, rfl⟩) | ⟨_, rfl⟩ <;> exact Stmt.noConfusion

theorem exportsObject_ne_marker (l : Lowered) : ∀ s ∈ exportsObject l, s ≠ markerStmt := by
  intro s member
  simp only [exportsObject, List.mem_ite_nil_right, List.mem_ite_nil_left, List.mem_cons,
    List.not_mem_nil, or_false] at member
  rcases member with ⟨_, rfl | rfl | ⟨_, rfl⟩⟩ <;>
    simp [markerStmt, Stmt.declareVar, Stmt.declare, Stmt.call, Expr.callWith]

theorem assignExports_ne_marker (l : Lowered) : ∀ s ∈ assignExports l, s ≠ markerStmt := by
  intro s member
  simp only [assignExports, whereExports, List.mem_ite_nil_right, List.mem_singleton] at member
  obtain ⟨_, rfl⟩ := member
  simp [markerStmt, Expr.assignTo]

theorem opening_ne_marker (format : Format) (l : Lowered) :
    ∀ s ∈ opening format l, s ≠ markerStmt := by
  have prologue_ne : ∀ s ∈ prologue l, s ≠ markerStmt := by
    intro s member
    rcases List.mem_append.1 member with member | member
    · exact helpers_ne_marker l s member
    · exact exportsObject_ne_marker l s member
  cases format with
  | iife => exact prologue_ne
  | esm => exact prologue_ne
  | cjs =>
      intro s member
      rcases List.mem_append.1 member with member | member
      · exact prologue_ne s member
      · exact assignExports_ne_marker l s member

theorem fillCall_callOf {before : List Stmt} (body after : List Stmt)
    (others : ∀ s ∈ before, s ≠ markerStmt) :
    fillCall body (callOf (before ++ markerStmt :: after)) =
      .ok (callOf (before ++ body ++ after)) := by
  rw [callOf, Expr.callWith, fillCall, fillMarker_first body after others]
  rfl

theorem fillLast_cons (body : List Stmt) (item : ModuleItem) {rest : List ModuleItem}
    (ne : rest ≠ []) : fillLast body (item :: rest) = do
      return item :: (← fillLast body rest) := by
  cases rest with
  | nil => contradiction
  | cons next others => rfl

theorem assignRest_ne_nil (value target : Expr) (parts : List String) :
    (assignRest value target parts).map ModuleItem.stmt ≠ [] := by
  cases parts <;> simp [assignRest]

section
variable {before : List Stmt} (body after : List Stmt) (others : ∀ s ∈ before, s ≠ markerStmt)
include others

theorem fillLast_assignRest (target : Expr) (parts : List String) :
    fillLast body
        ((assignRest (callOf (before ++ markerStmt :: after)) target parts).map .stmt) =
      .ok ((assignRest (callOf (before ++ body ++ after)) target parts).map .stmt) := by
  have fill := fillCall_callOf body after others
  induction parts generalizing target with
  | nil =>
      simp only [assignRest, List.map_cons, List.map_nil, fillLast, Expr.assignTo, fillItem, fill]
      rfl
  | cons part rest ih =>
      rw [assignRest, List.map_cons, fillLast_cons _ _ (assignRest_ne_nil _ _ _), ih]
      rfl

theorem fillLast_assignPath (path : List String) :
    fillLast body ((assignPath (callOf (before ++ markerStmt :: after)) path).map .stmt) =
      .ok ((assignPath (callOf (before ++ body ++ after)) path).map .stmt) := by
  have fill := fillCall_callOf body after others
  rcases path with _ | ⟨name, _ | ⟨part, rest⟩⟩
  · have item (value : Expr) (notAssigned : ∀ op target assigned, value ≠ .assign op target assigned) :
        fillItem body (.stmt (.expr value)) = do
          return .stmt (.expr (← fillCall body value)) := by
      cases value <;> first | rfl | exact absurd rfl (notAssigned _ _ _)
    rw [assignPath, List.map_cons, List.map_nil, fillLast, item _ (by rintro _ _ _ ⟨⟩), fill]
    rfl
  · simp only [assignPath, List.map_cons, List.map_nil, fillLast, Stmt.declareVar, Stmt.declare,
      fillItem, fill]
    rfl
  · rw [assignPath, List.map_cons, fillLast_cons _ _ (assignRest_ne_nil _ _ _),
      fillLast_assignRest body after others]
    rfl

end

theorem withGetters_ok {l : Lowered} {stmts result : List Stmt}
    (h : withGetters l stmts = .ok result) : result = stmts := by
  unfold withGetters at h
  split at h <;> cases h
  rfl

def around (options : Options) (scope : List Stmt) : List Stmt :=
  if options.format = .iife then assignPath (callOf scope) (nameParts options.globalName) else scope

theorem commonModule_ok {l : Lowered} {items : List ModuleItem} (h : commonModule l = .ok items) :
    items = (opening .cjs l ++ (l.imports ++ l.body) ++ closing .cjs l).map .stmt := by
  simp only [commonModule, bind_ok_iff, pure, Except.pure, Except.ok.injEq] at h
  obtain ⟨stmts, getters, filled, fill, rfl⟩ := h
  obtain rfl := withGetters_ok getters
  change fillMarker _ (opening .cjs l ++ markerStmt :: []) = _ at fill
  rw [fillMarker_first _ _ (opening_ne_marker .cjs l), Except.ok.injEq] at fill
  rw [← fill]
  rfl

theorem enclose_ok {globalName : String} {l : Lowered} {items : List ModuleItem}
    (valid : Identifier.isGlobalName globalName) (h : enclose globalName l = .ok items) :
    items = (assignPath (callOf (opening .iife l ++ (l.imports ++ l.body) ++ closing .iife l))
      (nameParts globalName)).map .stmt := by
  obtain ⟨outer, built, fill⟩ := bind_ok_iff.1 h
  simp only [wrapper, isPlainPath_of_wrapper valid built, if_true, bind_ok_iff, pure, Except.pure,
    Except.ok.injEq] at built
  obtain ⟨stmts, getters, rfl⟩ := built
  obtain rfl := withGetters_ok getters
  have filled := fillLast_assignPath (l.imports ++ l.body) (closing .iife l)
    (opening_ne_marker .iife l) (nameParts globalName)
  exact Except.ok.inj (fill.symm.trans filled)

theorem enclosedStmts?_cons (item : ModuleItem) {rest : List ModuleItem} (ne : rest ≠ []) :
    enclosedStmts? (item :: rest) = enclosedStmts? rest := by
  rw [enclosedStmts?, enclosedStmts?, List.getLast?_cons_of_ne_nil ne]

theorem enclosedStmts?_assignRest (stmts : List Stmt) (target : Expr) (parts : List String) :
    enclosedStmts? ((assignRest (callOf stmts) target parts).map .stmt) = some stmts := by
  induction parts generalizing target with
  | nil => rfl
  | cons part rest ih =>
      rw [assignRest, List.map_cons, enclosedStmts?_cons _ (assignRest_ne_nil _ _ _), ih]

theorem enclosedStmts?_assignPath (stmts : List Stmt) (path : List String) :
    enclosedStmts? ((assignPath (callOf stmts) path).map .stmt) = some stmts := by
  rcases path with _ | ⟨name, _ | ⟨part, rest⟩⟩
  · rfl
  · rfl
  · rw [assignPath, List.map_cons, enclosedStmts?_cons _ (assignRest_ne_nil _ _ _),
      enclosedStmts?_assignRest]

theorem mapM_plainStmt? (stmts : List Stmt) :
    (stmts.map ModuleItem.stmt).mapM plainStmt? = some stmts := by
  induction stmts with
  | nil => rfl
  | cons s rest ih => simp [plainStmt?, ih]

theorem scope?_around {options : Options} (lowers : options.format ≠ .esm) (stmts : List Stmt) :
    scope? options.format ((around options stmts).map .stmt) = some stmts := by
  unfold around
  cases format : options.format with
  | esm => exact absurd format lowers
  | iife => exact enclosedStmts?_assignPath stmts (nameParts options.globalName)
  | cjs => exact mapM_plainStmt? stmts

end Enclose.Bundle
