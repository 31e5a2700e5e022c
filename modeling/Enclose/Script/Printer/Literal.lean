import Enclose.Script.Number
import Enclose.Script.Tree
import Enclose.Text.Quoted

/-!
Literals in their short form: strings in the quotes that need fewer escapes, numbers with the fewest
digits, templates without needless escapes.
-/

namespace Enclose.Script.Printer

def byteEscape (n : Nat) : String :=
  (if n < 16 then "\\x0" else "\\x") ++ Text.hexDigits n

/-- Whether the characters after a backslash name half of a surrogate pair, so that the backslash
is part of an escape that stands for itself. -/
def namesSurrogate (rest : List Char) : Bool :=
  match rest with
  | 'u' :: rest =>
    let digits := (if rest.head? == some '{' then rest.drop 1 else rest).take 4
    match digits.map (Numeral.digitValue? 16) with
    | [some 13, some b, some _, some _] => decide (8 ≤ b)
    | _ => false
  | _ => false

def stringPart (c : Char) (rest : List Char) : String :=
  match c with
  | '\x00' => if rest.head?.any Char.isDigit then "\\x00" else "\\0"
  | '\x08' => "\\b"
  | '\x0c' => "\\f"
  | '\n' => "\\n"
  | '\r' => "\\r"
  | '\x0b' => "\\v"
  | '\t' => "\t"
  | '\\' => if namesSurrogate rest then "\\" else "\\\\"
  | '\u2028' => "\\u2028"
  | '\u2029' => "\\u2029"
  | '\ufeff' => "\\uFEFF"
  | c => if c.toNat < 32 then byteEscape c.toNat else String.singleton c

def stringParts (quote : Char) : List Char → String
  | [] => ""
  | c :: rest =>
    (if c = quote then String.ofList ['\\', c] else stringPart c rest) ++ stringParts quote rest

def shortString (value : String) : String :=
  let text := value.toList
  let quote := if text.count '\'' < text.count '"' then '\'' else '"'
  String.singleton quote ++ stringParts quote text ++ String.singleton quote

/-- A string literal. The directive that makes code strict keeps its escapes. -/
def stringLit (minify : Bool) (lit : StringLit) : String :=
  if !minify || (lit.value == "use strict" && lit.raw.toList.contains '\\') then lit.raw
  else shortString lit.value

def number (minify : Bool) (raw : String) : String :=
  match Number.ofRaw raw with
  | none => "Infinity"
  | some value => if minify then (Number.shortText false value).1 else raw

def takesPoint (raw : List Char) : Bool :=
  raw.all Char.isDigit && !(raw.head? == some '0' && 1 < raw.length)

def numberBeforePoint (minify : Bool) (raw : String) : String :=
  match Number.ofRaw raw with
  | none => "Infinity"
  | some value =>
    let (text, needsPoint) :=
      if minify then Number.shortText true value else (raw, takesPoint raw.toList)
    if needsPoint then text ++ "." else text

def bigint (minify : Bool) (raw : String) : String :=
  if minify then
    let value := Number.integerOfRaw raw
    let text := if value < Numeral.power 10 16 then toString value else "0x" ++ Text.hexDigits value
    text ++ "n"
  else raw

def templateChar (c : Char) : String :=
  match c with
  | '\x00' => "\\0"
  | '\x08' => "\\b"
  | '\x0c' => "\\f"
  | '\x0b' => "\\v"
  | '\u2028' => "\\u2028"
  | '\u2029' => "\\u2029"
  | '\ufeff' => "\\uFEFF"
  | c => if 0x7F ≤ c.toNat ∧ c.toNat ≤ 0xFF then byteEscape c.toNat else String.singleton c

def byteChar (n : Nat) (next : Option Char) : String :=
  if n = 0 then if next.any (fun c => '1' ≤ c ∧ c ≤ '9') then "\\x00" else "\\0"
  else if 32 ≤ n ∧ n ≤ 126 then String.singleton (Char.ofNat n)
  else byteEscape n

def keptEscapes : List Char :=
  ['\\', 'r', 'v', 'b', 'f', 'u', '\r', '\n', '`', '0', '1', '2', '3', '4', '5', '6', '7']

structure TemplateText where
  skip : Nat := 0
  afterDollar : Bool := false

/-- What is written for the escape of a character in a template, the number of characters after it
that are written with it, and whether that is a dollar sign. -/
def templateEscape (afterDollar : Bool) (c : Char) (rest : List Char) : String × Nat × Bool :=
  match c with
  | 'n' => ("\n", 0, afterDollar)
  | 't' => ("\t", 0, afterDollar)
  | 'x' =>
    let digits := (rest.take 2).takeWhile fun d => (Numeral.digitValue? 16 d).isSome
    let next := rest[digits.length]?
    let text := byteChar (Numeral.ofDigits 16 digits) next
    (text ++ (match next with | some c => String.singleton c | none => ""), digits.length + 1,
      afterDollar)
  | '\u2028' | '\u2029' => ("", 0, afterDollar)
  | '$' => if rest.head? == some '{' then ("\\$", 0, afterDollar) else ("$", 0, true)
  | '{' => if afterDollar then ("\\\x7b", 0, false) else ("\x7b", 0, afterDollar)
  | c =>
    if keptEscapes.contains c then (String.ofList ['\\', c], 0, afterDollar)
    else (templateChar c, 0, afterDollar)

def templateText (state : TemplateText) : List Char → String
  | [] => ""
  | ['\\'] => if state.skip = 0 then "\\" else ""
  | '\\' :: c :: rest =>
    match state.skip with
    | 0 =>
      let (text, skip, afterDollar) := templateEscape state.afterDollar c rest
      text ++ templateText ⟨skip, afterDollar⟩ rest
    | skip + 1 => templateText { state with skip } (c :: rest)
  | c :: rest =>
    match state.skip with
    | 0 => templateChar c ++ templateText ⟨0, state.afterDollar || c == '$'⟩ rest
    | skip + 1 => templateText { state with skip } rest

def quasi (minify : Bool) (q : Quasi) : String :=
  if minify then templateText {} q.raw.toList else q.raw

end Enclose.Script.Printer
