/-!
The brackets and the quotes of program text.
-/

namespace Enclose.Nesting

inductive Bracket where
  | paren
  | bracket
  | brace
  deriving Repr, DecidableEq

namespace Bracket

def all : List Bracket := [paren, bracket, brace]

def opening : Bracket → Char
  | paren => '('
  | bracket => '['
  | brace => '{'

def closing : Bracket → Char
  | paren => ')'
  | bracket => ']'
  | brace => '}'

def ofOpening? (c : Char) : Option Bracket := all.find? (·.opening == c)

def ofClosing? (c : Char) : Option Bracket := all.find? (·.closing == c)

theorem ofOpening?_eq_some {c : Char} {b : Bracket} (h : ofOpening? c = some b) :
    b.opening = c := by
  simpa using List.find?_some h

theorem ofClosing?_eq_some {c : Char} {b : Bracket} (h : ofClosing? c = some b) :
    b.closing = c := by
  simpa using List.find?_some h

theorem ofOpening?_eq_none {c : Char} (h : ofOpening? c = none) : c ≠ '(' ∧ c ≠ '[' ∧ c ≠ '{' := by
  have other (b : Bracket) : c ≠ b.opening := by
    have differs := List.find?_eq_none.1 h b (by cases b <;> decide)
    exact fun same => differs (by simp [same])
  exact ⟨other paren, other bracket, other brace⟩

theorem ofClosing?_eq_none {c : Char} (h : ofClosing? c = none) : c ≠ ')' ∧ c ≠ ']' ∧ c ≠ '}' := by
  have other (b : Bracket) : c ≠ b.closing := by
    have differs := List.find?_eq_none.1 h b (by cases b <;> decide)
    exact fun same => differs (by simp [same])
  exact ⟨other paren, other bracket, other brace⟩

theorem opening_cases (b : Bracket) : b.opening = '(' ∨ b.opening = '[' ∨ b.opening = '{' := by
  cases b <;> simp [opening]

theorem closing_cases (b : Bracket) : b.closing = ')' ∨ b.closing = ']' ∨ b.closing = '}' := by
  cases b <;> simp [closing]

end Bracket

inductive Quote where
  | single
  | double
  deriving Repr, DecidableEq

namespace Quote

def char : Quote → Char
  | single => '\''
  | double => '"'

def ofChar? (c : Char) : Option Quote := [single, double].find? (·.char == c)

theorem ofChar?_eq_some {c : Char} {quote : Quote} (h : ofChar? c = some quote) :
    quote.char = c := by
  simpa using List.find?_some h

theorem ofChar?_eq_none {c : Char} (h : ofChar? c = none) : c ≠ '\'' ∧ c ≠ '"' := by
  have other (quote : Quote) : c ≠ quote.char := by
    have differs := List.find?_eq_none.1 h quote (by cases quote <;> decide)
    exact fun same => differs (by simp [same])
  exact ⟨other single, other double⟩

theorem char_cases (quote : Quote) : quote.char = '\'' ∨ quote.char = '"' := by
  cases quote <;> simp [char]

end Quote

end Enclose.Nesting
