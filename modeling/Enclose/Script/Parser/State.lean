import Enclose.Script.Lexer

/-!
The state of the parser, and how it moves through the text.

A token is read when it is asked for, because the parser decides how some text is read (regular
expressions, templates, strict code). A text that is no token is reported when the parser comes to
it. Until the first complaint, therefore, nothing of the text is passed over: every move reads the
next token, hands on one that was read, or takes one that is a token (`Leads`).
-/

namespace Enclose.Script.Parser

structure Context where
  isModule : Bool := false
  strict : Bool := false
  topLevel : Bool := true
  includeIn : Bool := false
  inFunction : Bool := false
  inAsync : Bool := false
  inGenerator : Bool := false
  inParams : Bool := false
  inClass : Bool := false
  inField : Bool := false
  inStaticBlock : Bool := false
  inProperFunction : Bool := false
  superAllowed : Bool := false
  breakAllowed : Bool := false
  continueAllowed : Bool := false
  forHead : Bool := false
  forAwaitHead : Bool := false
  deriving Repr, DecidableEq, Inhabited

def Context.reserves (c : Context) (word : String) : Bool :=
  if word == "let" then c.strict
  else if word == "await" then c.inAsync || c.inStaticBlock || c.isModule
  else if word == "yield" then c.inGenerator || c.strict
  else alwaysReserved.contains word || (c.strict && strictReserved.contains word)

inductive Slot where
  | unread
  | token (lexeme : Lexeme)
  | failed (problem : Problem) (start stop : Nat) (newline : Bool)
  | ended
  deriving Repr, Inhabited

structure State where
  cursor : Lexer.Cursor
  lineStart : Bool := true
  current : Slot := .unread
  ahead : Slot := .unread
  previousStart : Nat := 0
  previousStop : Nat := 0
  /-- The slash from which the next token is read as a regular expression. -/
  regexFrom : Option Lexer.Cursor := none
  templateStart : Option Nat := none
  context : Context
  labels : List String := []
  /-- The only place at which the head of an arrow function may start. -/
  arrowStart : Option Nat := none
  /-- For literals that end with a comma: the place of the literal and that of the comma. -/
  trailingCommas : List (Nat × Nat) := []
  /-- The complaints, latest first. -/
  problems : List Problem := []
  limit : Nat

def State.read (s : State) : Slot × State :=
  let setting : Lexer.Setting :=
    { isModule := s.context.isModule, strict := s.context.strict,
      reserved := s.context.reserves }
  match s.regexFrom with
  | some slash =>
    let scan := Lexer.readRegex slash
    let t := { s with
      cursor := scan.cursor, lineStart := false, problems := scan.problems.reverse ++ s.problems }
    match scan.result with
    | .ok token =>
      (.token ⟨token, slash.place, scan.cursor.place, false⟩, { t with regexFrom := none })
    | .error p => (.failed p slash.place scan.cursor.place false, t)
  | none =>
    let reading := Lexer.readNext setting s.lineStart s.cursor
    let t := { s with
      cursor := reading.cursor, lineStart := false
      problems := reading.problems.reverse ++ s.problems }
    match reading.result with
    | .ok (some token) =>
      (.token ⟨token, reading.start, reading.cursor.place, reading.newline⟩, t)
    | .ok none => (.ended, t)
    | .error p => (.failed p reading.start reading.cursor.place reading.newline, t)

def State.loaded (s : State) : State :=
  match s.current, s.ahead with
  | .unread, .unread =>
    let reading := s.read
    { reading.2 with current := reading.1 }
  | .unread, slot => { s with current := slot, ahead := .unread }
  | _, _ => s

def State.loadedAhead (s : State) : State :=
  let t := s.loaded
  match t.ahead with
  | .unread =>
    let reading := t.read
    { reading.2 with ahead := reading.1 }
  | _ => t

def slash? : Token → Option (List Char)
  | .binary .divide => some ['/']
  | .assign .divide => some ['/', '=']
  | _ => none

/-- Take the slash that was read as an operator back to the text, as the start of a regular
expression. -/
def State.rereadSlash (s : State) (slash : List Char) : State :=
  { s with regexFrom := some ⟨slash ++ s.cursor.rest, s.cursor.place - slash.length⟩ }

def State.taken (s : State) (start stop : Nat) : State :=
  { s with current := .unread, previousStart := start, previousStop := stop }

structure State.SameText (s t : State) : Prop where
  cursor : t.cursor = s.cursor
  current : t.current = s.current
  ahead : t.ahead = s.ahead
  regexFrom : t.regexFrom = s.regexFrom
  templateStart : t.templateStart = s.templateStart

inductive State.Leads : State → State → Prop
  | stay {s t : State} : s.SameText t → Leads s t
  | trans {s t u : State} : Leads s t → Leads t u → Leads s u
  | read {s : State} : s.current = .unread → s.ahead = .unread → s.read.2.problems = [] →
      Leads s { s.read.2 with current := s.read.1 }
  | readAhead {s : State} : s.current ≠ .unread → s.ahead = .unread → s.read.2.problems = [] →
      Leads s { s.read.2 with ahead := s.read.1 }
  | shift {s : State} : s.current = .unread → Leads s { s with current := s.ahead, ahead := .unread }
  | take {s : State} {l : Lexeme} : s.current = .token l → Leads s (s.taken l.start l.stop)
  | rereadSlash {s : State} {l : Lexeme} {slash : List Char} : s.current = .token l →
      slash? l.token = some slash → Leads s ((s.taken l.start l.stop).rereadSlash slash)
  | openTemplate {s : State} {l : Lexeme} : s.current = .token l → l.token = .backquote →
      Leads s { s.taken l.start l.stop with templateStart := some l.start }
  | template {s t : State} : s.templateStart.isSome → t.templateStart.isSome →
      t.current = s.current → t.ahead = s.ahead → Leads s t

def State.complain (s : State) (p : Problem) : State := { s with problems := p :: s.problems }

def State.complainPending (s : State) : State :=
  match s.loaded.current with
  | .failed p start stop _ => (s.loaded.taken start stop).complain p
  | _ => s.loaded

def State.Complained (s : State) : Prop := s.problems ≠ []

def State.InModule (s : State) : Prop := s.context.isModule = true ∧ s.context.strict = true

theorem State.inModule_self (s : State) : s.InModule → s.InModule := id

/-- A run from a state to another keeps complaints. Before the first one it passes over nothing, and
it does not leave the code of a module. -/
structure State.Follows (s t : State) : Prop where
  keeps : s.Complained → t.Complained
  leads : t.problems = [] → s.Leads t
  inModule : t.problems = [] → s.InModule → t.InModule

namespace State

theorem SameText.refl (s : State) : s.SameText s := ⟨rfl, rfl, rfl, rfl, rfl⟩

theorem complained_of_eq {s t : State} (problems : t.problems = s.problems)
    (complained : s.Complained) : t.Complained := by rwa [Complained, problems]

theorem complained_of_append {ps : List Problem} {s t : State}
    (problems : t.problems = ps ++ s.problems) (complained : s.Complained) : t.Complained := by
  rw [Complained, problems]
  exact List.append_ne_nil_of_right_ne_nil _ complained

theorem read_complained {s : State} (complained : s.Complained) : s.read.2.Complained := by
  unfold read
  cases s.regexFrom with
  | some slash =>
      cases result : (Lexer.readRegex slash).result with
      | ok token =>
          simp only [result]
          exact complained_of_append rfl complained
      | error p =>
          simp only [result]
          exact complained_of_append rfl complained
  | none =>
      dsimp only
      split
      · exact complained_of_append rfl complained
      · exact complained_of_append rfl complained
      · exact complained_of_append rfl complained

theorem read_context (s : State) : s.read.2.context = s.context := by
  unfold read
  cases s.regexFrom with
  | some slash => cases result : (Lexer.readRegex slash).result <;> simp [result]
  | none =>
      dsimp only
      split <;> rfl

theorem read_ne_unread (s : State) : s.read.1 ≠ .unread := by
  unfold read
  cases s.regexFrom with
  | some slash => cases result : (Lexer.readRegex slash).result <;> simp [result]
  | none =>
      dsimp only
      split <;> simp

theorem loaded_ne_unread (s : State) : s.loaded.current ≠ .unread := by
  unfold loaded
  split
  case h_1 => exact read_ne_unread s
  case h_2 ahead => exact ahead
  case h_3 current _ => exact fun unread => current unread

theorem complain_complained (s : State) (p : Problem) : (s.complain p).Complained :=
  List.cons_ne_nil p s.problems

namespace Follows

variable {s t u : State}

theorem refl (s : State) : s.Follows s := ⟨id, fun _ => .stay (.refl s), fun _ => id⟩

theorem trans (first : s.Follows t) (second : t.Follows u) : s.Follows u := by
  have middle (clean : u.problems = []) : t.problems = [] :=
    Classical.byContradiction fun complained => second.keeps complained clean
  exact
    { keeps := second.keeps ∘ first.keeps
      leads := fun clean => .trans (first.leads (middle clean)) (second.leads clean)
      inModule := fun clean => second.inModule clean ∘ first.inModule (middle clean) }

theorem of_complained (complained : t.Complained) : s.Follows t :=
  ⟨fun _ => complained, fun clean => absurd clean complained, fun clean => absurd clean complained⟩

theorem of_leads (leads : s.Leads t) (problems : t.problems = s.problems)
    (context : t.context = s.context) : s.Follows t :=
  ⟨complained_of_eq problems, fun _ => leads, fun _ here => by rwa [InModule, context]⟩

theorem loaded (s : State) : s.Follows s.loaded := by
  unfold State.loaded
  split
  case h_1 current ahead =>
    exact ⟨read_complained, .read current ahead, fun _ => by simp [InModule, read_context]⟩
  case h_2 current _ => exact of_leads (.shift current) rfl rfl
  case h_3 => exact refl s

theorem loadedAhead (s : State) : s.Follows s.loadedAhead := by
  refine (loaded s).trans ?_
  unfold State.loadedAhead
  dsimp only
  split
  case h_1 ahead =>
    exact ⟨read_complained, .readAhead (loaded_ne_unread s) ahead,
      fun _ => by simp [InModule, read_context]⟩
  case h_2 => exact refl s.loaded

end Follows

end State

end Enclose.Script.Parser
