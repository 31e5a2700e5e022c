import Enclose.Text.Quoted
import Enclose.Toml.Tree
import Enclose.Toml.Fault

/-!
Values of a configuration text as values of the types that are wanted.
-/

namespace Enclose.Toml

abbrev Decoder (α : Type) := Item → Except Complaint α

def placedAt {α : Type} (span : Option Span) (result : Except Complaint α) : Except Complaint α :=
  result.mapError fun c => { c with span := c.span <|> span }

def refused {α : Type} (item : Item) (message : String) : Except Complaint α :=
  .error { span := item.span?, message }

def Item.description : Item → String
  | string _ text => "string " ++ Text.quoted text
  | integer _ value => "integer `" ++ toString value ++ "`"
  | float _ text => "floating point `" ++ text ++ "`"
  | boolean _ value => "boolean `" ++ (if value then "true" else "false") ++ "`"
  | datetime _ | table _ => "map"
  | array _ _ | tables _ => "sequence"

def wrongType {α : Type} (item : Item) (wanted : String) : Except Complaint α :=
  refused item ("invalid type: " ++ item.description ++ ", expected " ++ wanted)

def decodeString : Decoder String
  | .string _ text => .ok text
  | item => wrongType item "a string"

def decodeBool : Decoder Bool
  | .boolean _ value => .ok value
  | item => wrongType item "a boolean"

def decodeNat (typeName : String) : Decoder Nat
  | item@(.integer _ value) =>
    if value < 0 then
      refused item ("invalid value: " ++ item.description ++ ", expected " ++ typeName)
    else .ok value.toNat
  | item => wrongType item typeName

def nameOf {α : Type} (names : List (String × α)) (span : Option Span) (name : String) :
    Except Complaint α :=
  match names.lookup name with
  | some a => .ok a
  | none =>
    let list := ", ".intercalate (names.map fun entry => "`" ++ entry.1 ++ "`")
    .error { span, message := "unknown variant `" ++ name ++ "`, expected one of " ++ list }

def decodeNothing : Decoder Unit
  | item@(.table t) => if t.entries.isEmpty then .ok () else refused item "expected empty table"
  | item => refused item ("expected table, found " ++ item.kind)

def decodeName {α : Type} (names : List (String × α)) : Decoder α
  | .string span name => nameOf names (some span) name
  | item@(.table t) =>
    match t.entries with
    | [] => refused item "wanted exactly 1 element, found 0 elements"
    | [(key, value)] =>
      placedAt item.span? do
        let a ← nameOf names (some key.span) key.name
        decodeNothing value
        return a
    | _ => refused item "wanted exactly 1 element, more than 1 element"
  | item => refused item "wanted string or table"

structure Field (σ : Type) where
  name : String
  read : Item → σ → Except Complaint σ

def Field.of {σ α : Type} (name : String) (decode : Decoder α) (put : α → σ → σ) : Field σ :=
  ⟨name, fun item s => do return put (← decode item) s⟩

def readEntries {σ : Type} (fields : List (Field σ)) (entries : List (Key × Item)) (s : σ) :
    Except Complaint σ :=
  entries.foldlM
    (fun s (key, item) =>
      match fields.find? fun field => field.name == key.name with
      | some field => placedAt (item.span? <|> some key.span) (field.read item s)
      | none => .ok s) s

def readValues {σ : Type} (fields : List (Field σ)) (items : List Item) (s : σ) :
    Except Complaint σ :=
  (fields.zip items).foldlM (fun s (field, item) => field.read item s) s

def decodeStructure {σ : Type} (name : String) (fields : List (Field σ)) (item : Item) (s : σ) :
    Except Complaint σ :=
  placedAt item.span? <|
    match item with
    | .table t => readEntries fields t.entries s
    | .array _ items | .tables items => readValues fields items s
    | .datetime _ => .ok s
    | item => wrongType item ("struct " ++ name)

end Enclose.Toml
