/-!
What the caller can choose about the output.
-/

namespace Enclose

inductive Format where
  | iife
  | cjs
  | esm
  deriving Repr, DecidableEq, Inhabited

namespace Format

def name : Format → String
  | iife => "iife"
  | cjs => "cjs"
  | esm => "esm"

def all : List Format := [iife, cjs, esm]

def ofName? (text : String) : Option Format :=
  all.find? fun format => format.name == text

theorem ofName?_name (format : Format) : ofName? format.name = some format := by
  cases format <;> rfl

end Format

structure Options where
  format : Format := .iife
  /-- The path that receives the exports in the format `iife`; nothing is assigned when empty. -/
  globalName : String := "exports"
  minify : Bool := false
  deriving Repr, DecidableEq, Inhabited

end Enclose
