/-!
Problems found in a submitted text, each at a place in it.
-/

namespace Enclose

def sourceName : String := "<stdin>"

/-- A problem at a line and a column, both counted from one. -/
structure Diagnostic where
  line : Nat
  column : Nat
  message : String
  deriving Repr, DecidableEq, Inhabited

namespace Diagnostic

def text (d : Diagnostic) : String :=
  sourceName ++ ":" ++ toString d.line ++ ":" ++ toString d.column ++ ": error: " ++ d.message

def placeLe (a b : Diagnostic) : Bool :=
  decide (a.line < b.line) || (a.line == b.line && decide (a.column ≤ b.column))

def mergeAdjacent : List Diagnostic → List Diagnostic
  | [] => []
  | [d] => [d]
  | d :: e :: rest => if d = e then mergeAdjacent (e :: rest) else d :: mergeAdjacent (e :: rest)

/-- Diagnostics in the order of their places, equal neighbours merged. The sort is stable. -/
def arrange (ds : List Diagnostic) : List Diagnostic :=
  mergeAdjacent (ds.mergeSort placeLe)

end Diagnostic

end Enclose
