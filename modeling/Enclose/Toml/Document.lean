import Enclose.Toml.KeyText

/-!
Whole configuration texts. The entries after a header are collected in a table of their own, which
goes into the tree when the next header or the end of the text is read.
-/

namespace Enclose.Toml

structure Document where
  root : Table Item := {}
  current : Table Item := { span := some ⟨0, 0⟩ }
  path : List Key := []
  isArray : Bool := false
  deriving Inhabited

namespace Document

def extendSpan (table value : Option Span) : Option Span :=
  match table, value with
  | some t, some v => some ⟨t.start, v.stop⟩
  | _, _ => table

def addEntry (d : Document) (parts : List Key) (item : Item) : Except Cause Document := do
  let (path, key) := Reader.splitKey parts
  let current := { d.current with span := extendSpan d.current.span item.span? }
  return { d with
    current := ← insert .key (some (d.path.map (·.name))) path key item current }

def place (table : Table Item) (isArray : Bool) (key : Key) (parent : Table Item) :
    Except Cause (Table Item) :=
  if isArray then
    match parent.find? key.name with
    | some (.tables items) => .ok (parent.replace key.name (.tables (items ++ [.table table])))
    | _ => .ok (parent.add key (.tables [.table table]))
  else .ok (parent.add key (.table table))

def close (d : Document) : Except Cause (Table Item) :=
  if d.path.isEmpty then .ok d.current
  else
    let (path, key) := Reader.splitKey d.path
    modifyAt .header (place d.current d.isArray key) [] path d.root

def duplicateHeader (path : List Key) (key : Key) : Cause :=
  .duplicateKey key.text (some (path.map (·.name)))

def openTables (path : List Key) (key : Key) (parent : Table Item) : Except Cause (Table Item) :=
  match parent.find? key.name with
  | none => .ok (parent.add key (.tables []))
  | some (.tables _) => .ok parent
  | some _ => .error (duplicateHeader path key)

def openTable (path : List Key) (key : Key) (parent : Table Item) : Except Cause (Table Item) :=
  match parent.find? key.name with
  | none => .ok parent
  | some (.table t) =>
    if t.style = .parent then .ok (parent.erase key.name) else .error (duplicateHeader path key)
  | some _ => .error (duplicateHeader path key)

def entriesAt (name : String) (parent : Table Item) : List (Key × Item) :=
  match parent.find? name with
  | some (.table t) => t.entries
  | _ => []

def tableAt? : List Key → Table Item → Option (Table Item)
  | [], t => some t
  | key :: path, t =>
    match t.find? key.name with
    | some (.table inner) => tableAt? path inner
    | some (.tables items) =>
      match items.getLast? with
      | some (.table inner) => tableAt? path inner
      | _ => none
    | _ => none

def addHeader (d : Document) (isArray : Bool) (parts : List Key) (span : Span) :
    Except Cause Document := do
  let root ← d.close
  let (path, key) := Reader.splitKey parts
  let entries :=
    if isArray then [] else ((tableAt? path root).map (entriesAt key.name)).getD []
  let root ← modifyAt .header
    (if isArray then openTables path key else openTable path key) [] path root
  return { root, current := { span := some span, entries }, path := parts, isArray }

end Document

namespace Reader

def lineTail : Reader Unit := expecting ["newline", "`#`"] lineRest

def entry : Reader (List Key × Item) := do
  let path ← key
  commit do
    equalsSign
    spaces
    let item ← value maxDepth
    lineTail
    return (path, item)

def header : Reader (Bool × List Key × Span) := do
  let start := (← get).rest.take 2
  if start.length < 2 then fail
  let isArray := start = ['[', '[']
  let (span, path) ← spanned do
    if isArray then
      literal ['[', '[']
      let path ← commit key
      commit (expecting ["`.`", "`]]`"] (literal [']', ']']))
      return path
    else
      char '['
      let path ← commit key
      commit (expecting ["`.`", "`]`"] (char ']'))
      return path
  commit lineTail
  return (isArray, path, span)

def line (d : Document) : Reader Document := do
  match ← peek with
  | some '#' =>
    commit do
      comment
      lineEnd
    return d
  | some '[' =>
    commit <| labelled "table header" do
      let start ← place
      let (isArray, path, span) ← header
      match d.addHeader isArray path span with
      | .ok d => return d
      | .error cause => refuse start cause
  | some '\n' | some '\r' =>
    newline
    return d
  | some _ =>
    commit do
      let start ← place
      let (path, item) ← entry
      match d.addEntry path item with
      | .ok d => return d
      | .error cause => refuse start cause
  | none => fail

def lines (d : Document) : Reader Document := do
  go (← get).rest.length d
where
  go : Nat → Document → Reader Document
    | 0, d => return d
    | fuel + 1, d => do
      match ← optional (line d) with
      | none => return d
      | some d =>
        spaces
        go fuel d

def document : Reader Document := do
  let _ ← optional (char '\uFEFF')
  spaces
  let d ← lines {}
  ended
  return d

end Reader

def parse (text : List Char) : Except Complaint (Table Item) :=
  match Reader.document { rest := text } with
  | .error fault => .error (fault.complaint text)
  | .ok (d, _) =>
    match d.close with
    | .ok t => .ok t
    | .error cause => .error { span := none, message := cause.message }

end Enclose.Toml
