import Enclose.Unicode.IdentifierProfile

/-!
Classes of characters in program text.
-/

namespace Enclose.Script

def isLineEnd (c : Char) : Bool :=
  c == '\n' || c == '\r' || c == '\u2028' || c == '\u2029'

def isBlank (c : Char) : Bool :=
  c == ' ' || decide (9 ≤ c.toNat ∧ c.toNat ≤ 13) || c == '\u0085' || c == '\u00A0' ||
    c == '\u1680' || decide (0x2000 ≤ c.toNat ∧ c.toNat ≤ 0x200A) || c == '\u2028' ||
    c == '\u2029' || c == '\u202F' || c == '\u205F' || c == '\u3000' || c == '\uFEFF'

def isWordStart (c : Char) : Bool := c == '$' || c == '_' || Unicode.isIdStart c

/-- A character that may follow in a word; the zero-width joiners may. -/
def isWordPart (c : Char) : Bool :=
  c == '$' || c == '\u200C' || c == '\u200D' || Unicode.isIdContinue c

def isWord : List Char → Bool
  | [] => false
  | c :: rest => isWordStart c && rest.all isWordPart

def strayCharacter? : List Char → Option Char
  | [] => none
  | c :: rest => if isWordStart c then rest.find? (!isWordPart ·) else some c

theorem strayCharacter?_eq_none_iff {name : List Char} (ne : name ≠ []) :
    strayCharacter? name = none ↔ isWord name = true := by
  cases name with
  | nil => exact absurd rfl ne
  | cons c rest => cases h : isWordStart c <;> simp [strayCharacter?, isWord, h]

end Enclose.Script
