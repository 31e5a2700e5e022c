import Enclose.Failure

/-!
The outcomes under which requests are counted.
-/

namespace Enclose.Http

inductive Outcome where
  | ok
  | missingSource
  | tooLarge
  | syntaxError
  | tooDeep
  | unsupported
  | internalError
  deriving Repr, DecidableEq, Inhabited

namespace Outcome

def label : Outcome → String
  | ok => "ok"
  | missingSource => "missing_src"
  | tooLarge => "too_large"
  | syntaxError => "syntax_error"
  | tooDeep => "too_deep"
  | unsupported => "unsupported"
  | internalError => "internal_error"

def ofFailure : Failure → Outcome
  | .syntaxErrors _ => syntaxError
  | .tooDeep _ => tooDeep
  | .unsupported _ => unsupported
  | .codeGeneration _ => internalError
  | .internal _ => internalError

theorem label_ofFailure (f : Failure) : (ofFailure f).label = f.kind := by cases f <;> rfl

end Outcome

/-- How often each outcome happened, in the order in which they first did. -/
structure Counters where
  counts : List (Outcome × Nat) := []
  deriving Repr, DecidableEq, Inhabited

namespace Counters

def bump (o : Outcome) : List (Outcome × Nat) → List (Outcome × Nat)
  | [] => [(o, 1)]
  | (p, n) :: rest => if p = o then (p, n + 1) :: rest else (p, n) :: bump o rest

def increment (c : Counters) (o : Outcome) : Counters := ⟨bump o c.counts⟩

def count (c : Counters) (label : String) : Nat :=
  c.counts.foldr (fun (o, n) rest => if o.label = label then n + rest else rest) 0

theorem count_cons (o : Outcome) (n : Nat) (rest : List (Outcome × Nat)) (label : String) :
    count ⟨(o, n) :: rest⟩ label =
      if o.label = label then n + count ⟨rest⟩ label else count ⟨rest⟩ label :=
  rfl

theorem count_increment (c : Counters) (o : Outcome) (label : String) :
    (c.increment o).count label = c.count label + if o.label = label then 1 else 0 := by
  obtain ⟨counts⟩ := c
  rw [increment]
  induction counts with
  | nil =>
    rw [bump, count_cons]
    split <;> rfl
  | cons entry rest ih =>
    obtain ⟨p, n⟩ := entry
    rw [bump, count_cons]
    split
    case isTrue same =>
      subst same
      rw [count_cons]
      split <;> omega
    case isFalse =>
      rw [count_cons, ih]
      split
      · rw [Nat.add_assoc]
      · rfl

end Counters

end Enclose.Http
