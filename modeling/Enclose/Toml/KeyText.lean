import Enclose.Toml.Reader.Value

/-!
Keys as they are written in messages: in quotes where they need them.
-/

namespace Enclose.Toml

def escapedPart (c : Char) : String :=
  match c with
  | '\x08' => "\\b"
  | '\t' => "\\t"
  | '\n' => "\\n"
  | '\x0c' => "\\f"
  | '\r' => "\\r"
  | '"' => "\\\""
  | '\\' => "\\\\"
  | c =>
    if c.toNat < 0x20 ∨ c.toNat = 0x7F then
      let digits := (Nat.toDigits 16 c.toNat).map Char.toUpper
      "\\u" ++ String.ofList (List.replicate (4 - digits.length) '0' ++ digits)
    else String.singleton c

/-- A key as it is written: bare, in double quotes, in single quotes where that saves escapes, or
with escapes. -/
def Key.text (k : Key) : String :=
  let chars := k.name.toList
  let needsEscape (c : Char) : Bool := !Reader.isPrintable c
  if !chars.isEmpty && chars.all Reader.isKeyChar then k.name
  else if chars.all fun c => !needsEscape c && c != '"' && c != '\\' then "\"" ++ k.name ++ "\""
  else if chars.all fun c => !needsEscape c && c != '\'' then "'" ++ k.name ++ "'"
  else "\"" ++ String.join (chars.map escapedPart) ++ "\""

end Enclose.Toml
