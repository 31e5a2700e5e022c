import Enclose.Identifier
import Enclose.Script.Build
import Enclose.Script.Problem
import Enclose.Script.Character
import Enclose.Script.Token

/-!
What the exports of a module are read from.
-/

namespace Enclose.Bundle

open Script

def exportsName : String := "__exports"

def defaultName : String := "__default"

def importDefaultName : String := "__importDefault"

def importName (k : Nat) : String := "__import_" ++ toString k

theorem importName_injective {j k : Nat} (same : importName j = importName k) : j = k := by
  have digits : Nat.toDigits 10 j = Nat.toDigits 10 k := by
    simpa [importName, ← String.toList_inj] using same
  rw [← @Nat.ofDigitChars_ten_toDigits j, digits, Nat.ofDigitChars_ten_toDigits]

inductive Getter where
  | own (name : String)
  | whole (k : Nat)
  | default (k : Nat)
  | member (k : Nat) (property : String)
  deriving Repr, DecidableEq, Inhabited

def importedDefault (k : Nat) : Expr :=
  .callWith (.ident importDefaultName) [.ident (importName k)]

namespace Getter

def expr : Getter → Expr
  | own name => .ident name
  | whole k => .ident (importName k)
  | default k => importedDefault k
  | member k property =>
    if Identifier.isIdentifier property.toList then .dot (.ident (importName k)) property
    else .member (.ident (importName k)) (.computed (.text property))

def text : Getter → String
  | own name => name
  | whole k => importName k
  | default k => importDefaultName ++ "(" ++ importName k ++ ")"
  | member k property =>
    if Identifier.isIdentifier property.toList then importName k ++ "." ++ property
    else importName k ++ "[" ++ Text.json property ++ "]"

/-- Why an expression cannot read the value, before a token of the given text. A word that is
reserved can name an export but no variable of a module; a name that passes for an identifier may
hold a character that words cannot have. -/
def problem? (next : String) : Getter → Option Cause
  | own name =>
    if name == "await" then some .awaitIdent
    else if name == "let" || name == "static" then some (.strictIdent name)
    else if ["this", "null", "true", "false"].contains name then none
    else if name == "super" then some .superAccess
    else if name == "import" then some .invalidImport
    else if name == "function" then some (.expected "'('" next)
    else if name == "class" then some (.expected "'\x7b'" next)
    else if name == "yield" || (alwaysReserved ++ strictReserved).contains name then
      some .expectedExpression
    else none
  | member _ property =>
    if Identifier.isIdentifier property.toList then
      (strayCharacter? property.toList).map .unexpectedCharacter
    else none
  | _ => none

end Getter

end Enclose.Bundle
