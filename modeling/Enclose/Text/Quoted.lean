import Enclose.Unicode.Printable

/-!
Text in quotes, for messages: quotes, backslashes and characters without a glyph are escaped.
-/

namespace Enclose.Text

def hexDigits (n : Nat) : String := String.ofList (Nat.toDigits 16 n)

def codePointEscape (c : Char) : String := "\\u\x7b" ++ hexDigits c.toNat ++ "\x7d"

def quotedPart (quote : Char) (c : Char) : String :=
  match c with
  | '\u0000' => "\\0"
  | '\t' => "\\t"
  | '\r' => "\\r"
  | '\n' => "\\n"
  | '\\' => "\\\\"
  | _ =>
    if c = quote then String.ofList ['\\', c]
    else if Unicode.isGraphemeExtend c || !Unicode.isPrintable c then codePointEscape c
    else String.singleton c

def quoted (text : String) : String :=
  "\"" ++ String.join (text.toList.map (quotedPart '"')) ++ "\""

def quotedChar (c : Char) : String := "'" ++ quotedPart '\'' c ++ "'"

end Enclose.Text
