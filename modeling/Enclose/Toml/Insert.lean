import Enclose.Toml.Fault

/-!
Adding to tables by paths of keys. Tables on the way are made where they are missing; a table that
was written out as a whole may not be extended by the key of an entry.
-/

namespace Enclose.Toml

inductive Route where
  | header
  | key
  | inlineKey
  deriving Repr, DecidableEq, Inhabited

def Route.style : Route → TableStyle
  | header => .parent
  | key => .dotted
  | inlineKey => .inlineDotted

def Route.enters (r : Route) (style : TableStyle) : Bool :=
  match r, style with
  | inlineKey, .inline | inlineKey, .inlineDotted => true
  | inlineKey, _ => false
  | _, .inline | _, .inlineDotted => false
  | _, _ => true

def Route.extends (r : Route) (style : TableStyle) : Bool :=
  match r with
  | header => true
  | key | inlineKey => style != .header && style != .inline

def modifyLast {α ε : Type} (f : α → Except ε α) : List α → Except ε (List α)
  | [] => .ok []
  | [a] => do return [← f a]
  | a :: rest => do return a :: (← modifyLast f rest)

/-- Change the table at the end of a path. `walked` is the path to the given table. -/
def modifyAt (r : Route) (f : Table Item → Except Cause (Table Item)) (walked : List String) :
    List Key → Table Item → Except Cause (Table Item)
  | [], t => f t
  | key :: path, t =>
    let walked := walked ++ [key.name]
    match t.find? key.name with
    | none => do
      let inner ← modifyAt r f walked path { style := r.style }
      return t.add key (.table inner)
    | some (.table inner) =>
      if r.enters inner.style then
        if r.extends inner.style then do
          return t.replace key.name (.table (← modifyAt r f walked path inner))
        else .error (.duplicateKey key.name none)
      else .error (.notATable walked (Item.kind (.table inner)))
    | some (.tables items) => do
      let items ← modifyLast
        (fun item =>
          match item with
          | .table inner => do return .table (← modifyAt r f walked path inner)
          | item => .ok item) items
      return t.replace key.name (.tables items)
    | some item => .error (.notATable walked item.kind)

def TableStyle.isDotted : TableStyle → Bool
  | dotted | inlineDotted => true
  | _ => false

/-- Add an entry to a table by the path of its key; `name` is the path of the table if it has
one. -/
def insert (r : Route) (name : Option (List String)) (path : List Key) (key : Key) (value : Item)
    (t : Table Item) : Except Cause (Table Item) :=
  modifyAt r
    (fun inner =>
      if inner.style.isDotted == path.isEmpty then .error (.duplicateKey key.name none)
      else
        match inner.find? key.name with
        | some _ => .error (.duplicateKey key.name name)
        | none => .ok (inner.add key value))
    [] path t

end Enclose.Toml
