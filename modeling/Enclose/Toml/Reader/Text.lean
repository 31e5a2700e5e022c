import Enclose.Numeral.Digits
import Enclose.Toml.Reader.Basic

/-!
Strings: with escapes or without, on one line or on several.
-/

namespace Enclose.Toml.Reader

def tripleQuote : List Char := ['"', '"', '"']

def tripleApostrophe : List Char := ['\'', '\'', '\'']

def escapeNames : List String := ["`b`", "`f`", "`n`", "`r`", "`t`", "`u`", "`U`", "`\\`", "`\"`"]

def codePoint (length : Nat) : Reader Char := do
  let start ← place
  let c ← get
  let digits := (c.rest.take length).takeWhile fun d => (Numeral.digitValue? 16 d).isSome
  if digits.length < length then fail
  else
    let n := Numeral.ofDigits 16 digits
    if n.isValidChar then
      let _ ← literal digits
      return Char.ofNat n
    else refuse start .outOfRange

def escape : Reader Char := do
  char '\\'
  match ← next with
  | 'b' => return '\x08'
  | 'f' => return '\x0c'
  | 'n' => return '\n'
  | 'r' => return '\r'
  | 't' => return '\t'
  | '\\' => return '\\'
  | '"' => return '"'
  | 'u' => commit (labelled "unicode 4-digit hex code" (codePoint 4))
  | 'U' => commit (labelled "unicode 8-digit hex code" (codePoint 8))
  | _ => commit (labelled "escape sequence" (expecting escapeNames fail))

def takeSome (isWanted : Char → Bool) : Reader (List Char) := do
  let first ← one isWanted
  return first :: (← takeWhile isWanted)

def isPlain (c : Char) : Bool := isPrintable c && c != '"' && c != '\\'

def basicString : Reader String := do
  char '"'
  let pieces ← many (orElse (takeSome isPlain) (List.singleton <$> escape))
  commit (labelled "basic string" (char '"'))
  return String.ofList pieces.flatten

def joinedLines : Reader Unit := do
  let once : Reader Unit := do
    char '\\'
    spaces
    newline
    let _ ← takeBlank
  once
  let _ ← many once
where
  takeBlank : Reader Unit := do
    let _ ← many (orElse newline (do let _ ← takeSome isBlank))

def fewQuotes (quote : Char) (follower : Reader Unit) : Reader (List Char) :=
  let quotes (n : Nat) : Reader (List Char) := do
    literal (List.replicate n quote)
    lookAhead follower
    return List.replicate n quote
  orElse (quotes 2) (quotes 1)

def multilinePart : Reader (List Char) :=
  orElse (takeSome isPlain) <|
    orElse (do joinedLines; return []) <|
      orElse (List.singleton <$> escape) (do newline; return ['\n'])

def notQuote (quote : Char) : Reader Unit := do
  let _ ← one (· != quote)

/-- Quotes in a string on several lines with the parts after them. The quotes are lost where no
part can follow. -/
def quotedParts (quote : Char) (part : Reader (List Char)) : Reader (List Char) := do
  go (← get).rest.length
where
  go : Nat → Reader (List Char)
    | 0 => return []
    | fuel + 1 => do
      match ← optional (fewQuotes quote (notQuote quote)) with
      | none => return []
      | some quotes =>
        match ← many part with
        | [] => return []
        | parts => return quotes ++ parts.flatten ++ (← go fuel)

def multilineBody : Reader (List Char) := do
  let first ← many multilinePart
  let others ← quotedParts '"' multilinePart
  let final ← optional (fewQuotes '"' (literal tripleQuote))
  return first.flatten ++ others ++ final.getD []

def multilineString : Reader String :=
  labelled "multiline basic string" do
    literal tripleQuote
    let _ ← optional newline
    let body ← commit multilineBody
    commit (literal tripleQuote)
    return String.ofList body

def literalString : Reader String :=
  labelled "literal string" do
    char '\''
    let body ← takeWhile fun c => isPrintable c && c != '\''
    commit (char '\'')
    return String.ofList body

def literalPart : Reader (List Char) :=
  orElse (takeSome fun c => isPrintable c && c != '\'') (do newline; return ['\n'])

def literalBody : Reader (List Char) := do
  let first ← many literalPart
  let others ← many do
    let quotes ← fewQuotes '\'' (notQuote '\'')
    let part ← literalPart
    return quotes ++ part ++ (← many literalPart).flatten
  let final ← optional (fewQuotes '\'' (literal tripleApostrophe))
  return first.flatten ++ others.flatten ++ final.getD []

def multilineLiteral : Reader String :=
  labelled "multiline literal string" do
    literal tripleApostrophe
    let _ ← optional newline
    let body ← commit literalBody
    commit (literal tripleApostrophe)
    return String.ofList body

def string : Reader String :=
  orElse multilineString <| orElse basicString <| orElse multilineLiteral literalString

end Enclose.Toml.Reader
