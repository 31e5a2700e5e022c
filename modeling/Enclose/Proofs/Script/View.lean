import Enclose.Proofs.Script.Run
import Enclose.Proofs.Script.Spelling

/-!
# Runs of the parser on a sequence of tokens

What the parser knows of its text and has still to read is a sequence of tokens, of which up to two
may have been read already. A view of a state gives this sequence with the context, and leaves out
where the tokens stand and how many of them were read. `Takes` says what a parser makes of every
state with a given view.
-/

namespace Enclose.Script.Parser
open Lexer

/-- The tokens that a parser has before it, and what it may do with them. -/
structure View where
  pieces : List Piece
  context : Context
  /-- Whether it is known that an arrow function may start at the first token, which was read. -/
  mayArrow : Bool := false

inductive Slot.Holds : Slot → List Piece → List Piece → Prop
  | unread (ps : List Piece) : Holds .unread ps ps
  | token (l : Lexeme) (ps : List Piece) : Holds (.token l) (⟨l.token, l.newline⟩ :: ps) ps
  | ended : Holds .ended [] []

def State.Spells (s : State) (ps : List Piece) : Prop :=
  ∃ later last, s.current.Holds ps later ∧ s.ahead.Holds later last ∧
    Parser.Spells s.lineStart s.cursor.rest last

structure State.Shows (s : State) (v : View) : Prop where
  clean : s.problems = []
  regexFrom : s.regexFrom = none
  context : s.context = v.context
  room : v.pieces.length < s.limit
  spells : s.Spells v.pieces
  arrow : v.mayArrow = true → ∃ l, s.current = .token l ∧ s.arrowStart = some l.start

variable {s : State} {v : View} {p : Piece} {ps : List Piece}

theorem State.read_spells (clean : s.problems = []) (regex : s.regexFrom = none)
    (spells : Parser.Spells s.lineStart s.cursor.rest ps) :
    ∃ rest place later, s.read.1.Holds ps later ∧ s.read.1 ≠ .unread ∧
      s.read.2 = { s with cursor := ⟨rest, place⟩, lineStart := false } ∧
      Parser.Spells false rest later := by
  let setting : Setting :=
    { isModule := s.context.isModule, strict := s.context.strict, reserved := s.context.reserves }
  cases spells with
  | ended reads =>
      obtain ⟨start, ended, stop, read⟩ := reads setting s.cursor.place
      refine ⟨[], stop, [], ?_⟩
      simp only [setting] at read
      simp [State.read, regex, read, clean, Slot.Holds.ended, Spells.nil]
  | next reads _ others =>
      obtain ⟨start, stop, read⟩ := reads setting s.cursor.place
      refine ⟨_, stop, _, ?_, ?_, ?_, others⟩
      all_goals
        simp only [setting] at read
        simp only [State.read, regex, read, clean]
      · exact .token _ _
      · rintro ⟨⟩
      · rfl

theorem Slot.Holds.later {slot : Slot} {later : List Piece} (holds : slot.Holds ps later)
    (known : slot ≠ .unread) : later = ps.tail := by
  cases holds with
  | unread => exact absurd rfl known
  | token l ps => rfl
  | ended => rfl

def Slot.Shows (slot : Slot) (ps : List Piece) : Prop := slot ≠ .unread ∧ slot.Holds ps ps.tail

theorem State.Shows.loaded (shows_ : s.Shows v) : s.loaded.Shows v ∧ s.loaded.current.Shows v.pieces := by
  obtain ⟨later, last, current, ahead, spells⟩ := shows_.spells
  have arrow := shows_.arrow
  unfold State.loaded
  -- What the slots show does not change when the reader fills them; only the current one is known
  -- then.
  split
  case h_1 here next =>
    rw [here] at current
    rw [next] at ahead
    cases current
    cases ahead
    obtain ⟨rest, place, later, holds, known, read, others⟩ :=
      read_spells shows_.clean shows_.regexFrom spells
    simp only [read]
    refine ⟨⟨shows_.clean, shows_.regexFrom, shows_.context, shows_.room,
      ⟨later, later, holds, next ▸ .unread later, others⟩, fun may => ?_⟩,
      known, holds.later known ▸ holds⟩
    obtain ⟨l, token, -⟩ := arrow may
    rw [here] at token
    cases token
  case h_2 here unknown =>
    rw [here] at current
    cases current
    refine ⟨⟨shows_.clean, shows_.regexFrom, shows_.context, shows_.room,
      ⟨_, _, ahead, .unread last, spells⟩, fun may => ?_⟩, unknown, ahead.later unknown ▸ ahead⟩
    obtain ⟨l, token, -⟩ := arrow may
    rw [here] at token
    cases token
  case h_3 known _ =>
    have known : s.current ≠ .unread := fun here => known here
    exact ⟨shows_, known, current.later known ▸ current⟩

theorem State.Shows.loadedAhead (shows_ : s.Shows v) :
    s.loadedAhead.Shows v ∧ s.loadedAhead.ahead.Shows v.pieces.tail := by
  obtain ⟨shown, known, current⟩ := shows_.loaded
  obtain ⟨later, last, here, ahead, spells⟩ := shown.spells
  obtain rfl := here.later known
  unfold State.loadedAhead
  dsimp only
  split
  case h_1 next =>
    rw [next] at ahead
    cases ahead
    obtain ⟨rest, place, later, holds, unknown, read, others⟩ :=
      read_spells shown.clean shown.regexFrom spells
    simp only [read]
    exact ⟨⟨shown.clean, shown.regexFrom, shown.context, shown.room,
      ⟨_, later, here, holds, others⟩, shown.arrow⟩, unknown, holds.later unknown ▸ holds⟩
  case h_2 unknown =>
    have unknown : s.loaded.ahead ≠ .unread := fun next => unknown next
    exact ⟨shown, unknown, ahead.later unknown ▸ ahead⟩

end Enclose.Script.Parser
