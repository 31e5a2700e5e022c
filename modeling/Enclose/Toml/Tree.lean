/-!
The tree of a configuration text: tables of values, with the places of everything that has one.
-/

namespace Enclose.Toml

/-- A part of a text, from one place up to another. Places count bytes. -/
structure Span where
  start : Nat
  stop : Nat
  deriving Repr, DecidableEq, Inhabited

structure Key where
  name : String
  span : Span
  deriving Repr, DecidableEq, Inhabited

/-- How a table came about, which decides what may be added to it. -/
inductive TableStyle where
  | header
  /-- As the parent of a table with a header. -/
  | parent
  /-- As the parent of a key. -/
  | dotted
  | inline
  | inlineDotted
  deriving Repr, DecidableEq, Inhabited

structure Table (α : Type) where
  style : TableStyle := .header
  span : Option Span := none
  entries : List (Key × α) := []
  deriving Repr, Inhabited

inductive Item where
  | string (span : Span) (text : String)
  | integer (span : Span) (value : Int)
  | float (span : Span) (text : String)
  | boolean (span : Span) (value : Bool)
  | datetime (span : Span)
  | array (span : Span) (items : List Item)
  | tables (items : List Item)
  | table (table : Table Item)
  deriving Inhabited

namespace Table

variable {α : Type}

def find? (t : Table α) (name : String) : Option α :=
  (t.entries.find? fun entry => entry.1.name == name).map Prod.snd

def add (t : Table α) (key : Key) (value : α) : Table α :=
  { t with entries := t.entries ++ [(key, value)] }

def replace (t : Table α) (name : String) (value : α) : Table α :=
  { t with entries := t.entries.map fun entry =>
      if entry.1.name == name then (entry.1, value) else entry }

def erase (t : Table α) (name : String) : Table α :=
  { t with entries := t.entries.filter fun entry => entry.1.name != name }

end Table

namespace Item

def span? : Item → Option Span
  | string span _ | integer span _ | float span _ | boolean span _ | datetime span => some span
  | array span _ => some span
  | table t => t.span
  | tables items =>
    match items.head?, items.getLast? with
    | some (table first), some (table last) => do
      return ⟨(← first.span).start, (← last.span).stop⟩
    | _, _ => none

def kind : Item → String
  | string _ _ => "string"
  | integer _ _ => "integer"
  | float _ _ => "float"
  | boolean _ _ => "boolean"
  | datetime _ => "datetime"
  | array _ _ => "array"
  | tables _ => "array of tables"
  | table t =>
    match t.style with
    | .inline | .inlineDotted => "inline table"
    | .header | .parent | .dotted => "table"

end Item

end Enclose.Toml
