import Enclose.Toml.Insert
import Enclose.Toml.Reader.Moment

/-!
Keys and values.
-/

namespace Enclose.Toml.Reader

/-- How deep arrays and inline tables may be nested, and how long the path of a key may be. -/
def maxDepth : Nat := 79

def isKeyChar (c : Char) : Bool := c.isAlphanum || c == '-' || c == '_'

def keyPart : Reader Key := do
  let (span, name) ← spanned do
    match ← peek with
    | some '"' => basicString
    | some '\'' => literalString
    | _ => String.ofList <$> takeSome isKeyChar
  return ⟨name, span⟩

def key : Reader (List Key) := do
  let start ← place
  let parts ← labelled "key" (separated (do spaces; let k ← keyPart; spaces; return k) (char '.'))
  if maxDepth < parts.length then refuse start .tooNested else return parts

def splitKey (parts : List Key) : List Key × Key := (parts.dropLast, parts.getLastD default)

def noValue {α : Type} (p : Reader α) : Reader α :=
  labelled "string" (expecting ["`\"`", "`'`"] p)

def wordValue (word : List Char) (isFinal : Bool) : Reader Unit :=
  noValue (if isFinal then commit (literal word) else literal word)

def array (element : Reader Item) : Reader (List Item) := do
  char '['
  let items ← commit do
    if (← peek) == some ']' then return []
    else
      let items ← optional <| separated
        (do skipLines; let item ← element; skipLines; return item) (char ',')
      if items.isSome then
        let _ ← optional (char ',')
      skipLines
      return items.getD []
  commit (labelled "array" (expecting ["`]`"] (char ']')))
  return items

def equalsSign : Reader Unit := expecting ["`.`", "`=`"] (char '=')

def inlineEntry (element : Reader Item) : Reader (List Key × Item) := do
  let path ← key
  commit do
    equalsSign
    spaces
    let item ← element
    spaces
    return (path, item)

def inlineEntries (entries : List (List Key × Item)) (t : Table Item) :
    Except Cause (Table Item) :=
  entries.foldlM
    (fun t (parts, item) =>
      let (path, key) := splitKey parts
      insert .inlineKey none path key item t) t

def inlineTable (element : Reader Item) : Reader (Table Item) := do
  char '{'
  let t ← commit do
    let start ← place
    let entries ← optional (separated (inlineEntry element) (char ','))
    spaces
    match inlineEntries (entries.getD []) { style := .inline } with
    | .ok t => return t
    | .error cause => refuse start cause
  commit (labelled "inline table" (expecting ["`\x7d`"] (char '}')))
  return t

def numeral : Reader (Span → Item) :=
  orElse (do moment; return fun span => .datetime span) <|
    orElse (do let text ← float; return fun span => .float span text)
      (do let n ← integer; return fun span => .integer span n)

/-- A value. `element` reads the values in it, or is absent where they would be nested too deep. -/
def valueOf (element : Option (Reader Item)) : Reader Item := do
  let start ← place
  let (span, make) ← spanned (α := Span → Item) <| do
    match ← peek with
    | none => fail
    | some c =>
      match c with
      | '"' | '\'' => do let text ← string; return fun span => .string span text
      | '[' =>
        match element with
        | some element => do let items ← array element; return fun span => .array span items
        | none => commit (refuse start .tooNested)
      | '{' =>
        match element with
        | some element => do
          let t ← inlineTable element
          return fun span => .table { t with span := some span }
        | none => commit (refuse start .tooNested)
      | '_' => do
        let n ← expecting ["leading digit"] integer
        return fun span => .integer span n
      | '.' => do
        let text ← expecting ["leading digit"] float
        return fun span => .float span text
      | 't' => do wordValue ['t', 'r', 'u', 'e'] true; return fun span => .boolean span true
      | 'f' => do wordValue ['f', 'a', 'l', 's', 'e'] true; return fun span => .boolean span false
      | 'i' => do wordValue infinityWord false; return fun span => .float span "inf"
      | 'n' => do wordValue nanWord false; return fun span => .float span "NaN"
      | c =>
        if c.isDigit || c == '+' || c == '-' then numeral else noValue fail
  return make span

def value : Nat → Reader Item
  | 0 => valueOf none
  | depth + 1 => valueOf (some (value depth))

end Enclose.Toml.Reader
