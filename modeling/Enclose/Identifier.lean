import Enclose.Unicode.Alphabetic

/-!
Names that may be bound in generated code, and dotted paths of them.
-/

namespace Enclose.Identifier

def reservedWords : List String :=
  [ "await", "break", "case", "catch", "class", "const", "continue", "debugger", "default",
    "delete", "do", "else", "enum", "export", "extends", "false", "finally", "for", "function",
    "if", "implements", "import", "in", "instanceof", "interface", "let", "new", "null",
    "package", "private", "protected", "public", "return", "static", "super", "switch", "this",
    "throw", "true", "try", "typeof", "var", "void", "while", "with", "yield" ]

def startsName (c : Char) : Bool :=
  c == '_' || c == '$' || Unicode.isAlphabetic c

def continuesName (c : Char) : Bool :=
  c == '_' || c == '$' || Unicode.isAlphanumeric c

def isIdentifier (name : List Char) : Bool :=
  match name with
  | [] => false
  | c :: rest =>
    startsName c && rest.all continuesName && !reservedWords.contains (String.ofList name)

def pathParts : List Char → List (List Char)
  | [] => [[]]
  | c :: rest =>
    match pathParts rest with
    | [] => [[c]]
    | part :: parts => if c = '.' then [] :: part :: parts else (c :: part) :: parts

def isGlobalName (name : String) : Bool :=
  name.isEmpty || (pathParts name.toList).all isIdentifier

end Enclose.Identifier
