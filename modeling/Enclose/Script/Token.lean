import Enclose.Script.Tree

/-!
Tokens of program text.
-/

namespace Enclose.Script

/-- A token. Words are reserved words and identifiers alike. -/
inductive Token where
  | word (name : String)
  | number (raw : String)
  | bigint (raw : String)
  | string (lit : StringLit)
  | regex (pattern flags : String)
  | hashbang (text : String)
  | openParen | closeParen | openBracket | closeBracket | openBrace | closeBrace
  | comma | semicolon | colon | dot | ellipsis | arrow | question | backquote | hash | atSign
  | bang | tilde
  | update (op : UpdateOp)
  | binary (op : BinaryOp)
  | assign (op : AssignOp)
  deriving Repr, DecidableEq, Inhabited

structure Lexeme where
  token : Token
  start : Nat
  stop : Nat
  newline : Bool
  deriving Repr, DecidableEq, Inhabited

def keywords : List String :=
  [ "await", "break", "case", "catch", "continue", "debugger", "default", "do", "else", "finally",
    "for", "function", "if", "return", "switch", "throw", "try", "var", "let", "const", "while",
    "with", "new", "this", "super", "class", "extends", "export", "import", "yield", "in",
    "instanceof", "typeof", "void", "delete", "null", "true", "false" ]

def alwaysReserved : List String :=
  [ "break", "case", "catch", "continue", "debugger", "default", "do", "else", "finally", "for",
    "function", "if", "return", "switch", "throw", "try", "var", "const", "while", "with", "new",
    "this", "super", "class", "extends", "export", "import", "in", "instanceof", "typeof", "void",
    "delete", "null", "true", "false", "enum" ]

/-- Words that strict code reserves, apart from `let`, `static` and `yield`. -/
def strictReserved : List String :=
  [ "implements", "package", "protected", "interface", "private", "public" ]

end Enclose.Script
