import Enclose.Text.Quoted

/-!
Text in double quotes, as in JSON: quotes, backslashes and control characters are escaped.
-/

namespace Enclose.Text

def jsonPart (c : Char) : String :=
  match c with
  | '"' => "\\\""
  | '\\' => "\\\\"
  | '\x08' => "\\b"
  | '\x0c' => "\\f"
  | '\n' => "\\n"
  | '\r' => "\\r"
  | '\t' => "\\t"
  | c =>
    if c.toNat < 16 then "\\u000" ++ hexDigits c.toNat
    else if c.toNat < 32 then "\\u00" ++ hexDigits c.toNat
    else String.singleton c

def json (text : String) : String := "\"" ++ String.join (text.toList.map jsonPart) ++ "\""

end Enclose.Text
