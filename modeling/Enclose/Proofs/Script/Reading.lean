import Enclose.Script.Parser

/-!
# A text that is read without complaint consists of tokens

Before its first complaint the parser passes over nothing (`State.Leads`). If something in a text is
no token, however the text before it is read, then the parser stands before that place until it
complains (`beforeGap_of_leads`), and the text is no module without complaints
(`clean?_of_unreadable`).
-/

namespace Enclose.Script.Parser
open Lexer

def IsOrdinary (token : Token) : Prop := slash? token = none ∧ token ≠ .backquote

/-- Something in the text is no token, whatever the parser knows about the text around it. -/
inductive Unreadable : Cursor → Prop
  | here {cursor : Cursor} :
      (∀ setting newline, ∃ p, (readNext setting newline cursor).result = .error p) →
      Unreadable cursor
  | later {cursor next : Cursor} {token : Token} : IsOrdinary token →
      (∀ setting newline, (readNext setting newline cursor).result = .ok (some token)) →
      (∀ setting newline, (readNext setting newline cursor).cursor = next) →
      Unreadable next → Unreadable cursor

inductive Slot.IsOrdinary : Slot → Prop
  | unread : IsOrdinary .unread
  | token {l : Lexeme} : Parser.IsOrdinary l.token → IsOrdinary (.token l)

inductive Slot.IsGap : Slot → Prop
  | failed {p : Problem} {start stop : Nat} {newline : Bool} : IsGap (.failed p start stop newline)

/-- The parser stands before something that is no token, outside of every template: it is the
current token, the one after that, or it comes later. -/
structure State.BeforeGap (s : State) : Prop where
  outside : s.templateStart = none
  gap : s.current.IsGap ∨ s.current.IsOrdinary ∧
    (s.ahead.IsGap ∨ s.ahead.IsOrdinary ∧ s.regexFrom = none ∧ Unreadable s.cursor)

theorem Slot.IsGap.ne_unread {slot : Slot} (gap : slot.IsGap) : slot ≠ .unread := by
  rintro rfl
  cases gap

theorem Slot.IsGap.ne_token {slot : Slot} (gap : slot.IsGap) (l : Lexeme) : slot ≠ .token l := by
  rintro rfl
  cases gap

theorem State.read_of_unreadable {s : State} (regex : s.regexFrom = none)
    (text : Unreadable s.cursor) :
    s.read.1.IsGap ∨
      s.read.1.IsOrdinary ∧ s.read.2.regexFrom = none ∧ Unreadable s.read.2.cursor := by
  cases text with
  | here fails =>
      left
      simp only [State.read, regex]
      obtain ⟨p, result⟩ := fails
        { isModule := s.context.isModule, strict := s.context.strict,
          reserved := s.context.reserves } s.lineStart
      simp only [result]
      exact .failed
  | later ordinary result cursor next =>
      right
      simp only [State.read, regex, result, cursor]
      exact ⟨.token ordinary, trivial, next⟩

theorem State.read_frame (s : State) :
    s.read.2.current = s.current ∧ s.read.2.ahead = s.ahead ∧
      s.read.2.templateStart = s.templateStart := by
  unfold State.read
  cases s.regexFrom with
  | some slash =>
      cases result : (readRegex slash).result <;> simp [result]
  | none =>
      dsimp only
      split <;> exact ⟨rfl, rfl, rfl⟩

theorem State.beforeGap_of_leads {s t : State} (leads : s.Leads t) (before : s.BeforeGap) :
    t.BeforeGap := by
  induction leads with
  | stay same =>
      obtain ⟨outside, gap⟩ := before
      rw [← same.current, ← same.ahead, ← same.regexFrom, ← same.cursor] at gap
      exact ⟨same.templateStart.trans outside, gap⟩
  | trans _ _ first second => exact second (first before)
  | @read s current ahead =>
      obtain ⟨outside, here | ⟨-, next | ⟨-, regex, text⟩⟩⟩ := before
      · exact absurd current here.ne_unread
      · exact absurd ahead next.ne_unread
      -- The gap is still in the text, and the reader may run into it now.
      · obtain ⟨-, sameAhead, sameTemplate⟩ := s.read_frame
        refine ⟨sameTemplate.trans outside, ?_⟩
        rcases read_of_unreadable regex text with gap | ⟨ordinary, regex, text⟩
        · exact .inl gap
        · refine .inr ⟨ordinary, .inr ⟨?_, regex, text⟩⟩
          dsimp only
          rw [sameAhead, ahead]
          exact .unread
  | @readAhead s current ahead =>
      obtain ⟨sameCurrent, -, sameTemplate⟩ := s.read_frame
      obtain ⟨outside, here | ⟨here, next | ⟨-, regex, text⟩⟩⟩ := before
      · refine ⟨sameTemplate.trans outside, .inl ?_⟩
        exact sameCurrent ▸ here
      · exact absurd ahead next.ne_unread
      · refine ⟨sameTemplate.trans outside, .inr ⟨sameCurrent ▸ here, ?_⟩⟩
        exact read_of_unreadable regex text
  | shift current =>
      obtain ⟨outside, here | ⟨-, next | ⟨next, regex, text⟩⟩⟩ := before
      · exact absurd current here.ne_unread
      · exact ⟨outside, .inl next⟩
      · exact ⟨outside, .inr ⟨next, .inr ⟨.unread, regex, text⟩⟩⟩
  | take current =>
      obtain ⟨outside, here | ⟨-, rest⟩⟩ := before
      · exact absurd current (here.ne_token _)
      · exact ⟨outside, .inr ⟨.unread, rest⟩⟩
  | rereadSlash current slash =>
      obtain ⟨-, here | ⟨here, -⟩⟩ := before
      · exact absurd current (here.ne_token _)
      · rw [current] at here
        cases here with
        | token ordinary => simp [ordinary.1] at slash
  | openTemplate current quote =>
      obtain ⟨-, here | ⟨here, -⟩⟩ := before
      · exact absurd current (here.ne_token _)
      · rw [current] at here
        cases here with
        | token ordinary => exact absurd quote ordinary.2
  | template opened _ => simp [before.outside] at opened

theorem State.BeforeGap.current_ne_ended {s : State} (before : s.BeforeGap) :
    s.current ≠ .ended := by
  intro ended
  obtain ⟨-, here | ⟨here, -⟩⟩ := before
  · rw [ended] at here
    cases here
  · rw [ended] at here
    cases here

variable {α β : Type}

theorem Parse.follows {p : Parse α} {s t : State} {a : α} (ran : p.run s = .ok a t) :
    s.Follows t := by
  have allowed := p.allowed s
  rwa [ran] at allowed

theorem Parse.bind_ok_iff {p : Parse α} {f : α → Parse β} {s u : State} {b : β} :
    (p >>= f).run s = .ok b u ↔ ∃ a t, p.run s = .ok a t ∧ (f a).run t = .ok b u := by
  cases ran : p.run s with
  | ok a t =>
      have run : (p >>= f).run s = (f a).run t := by simp only [bind, ran]
      rw [run]
      constructor
      · intro h
        exact ⟨a, t, rfl, h⟩
      · rintro ⟨_, _, ⟨⟩, h⟩
        exact h
  | error e t =>
      have run : (p >>= f).run s = .error e t := by simp only [bind, ran]
      simp [run]

theorem iterate_go_ok {step : α → Parse (α ⊕ β)} {fuel : Nat} {a : α} {s t : State} {b : β}
    (h : (iterate.go step fuel a).run s = .ok b t) : ∃ a u, (step a).run u = .ok (.inr b) t := by
  induction fuel generalizing a s with
  | zero => cases h
  | succ fuel ih =>
      obtain ⟨outcome, u, stepped, h⟩ := Parse.bind_ok_iff.1 h
      cases outcome with
      | inl next => exact ih h
      | inr result =>
          cases h
          exact ⟨a, s, stepped⟩

theorem iterate_ok {step : α → Parse (α ⊕ β)} {start : α} {s t : State} {b : β}
    (h : (iterate step start).run s = .ok b t) : ∃ a u, (step a).run u = .ok (.inr b) t := by
  obtain ⟨_, _, -, h⟩ := Parse.bind_ok_iff.1 h
  exact iterate_go_ok h

theorem atEnd_true {s t : State} (h : atEnd.run s = .ok true t) : t.current = .ended := by
  obtain ⟨slot, u, here, h⟩ := Parse.bind_ok_iff.1 h
  cases here
  cases slot : s.loaded.current with
  | ended =>
      rw [slot] at h
      cases h
      exact slot
  | unread => rw [slot] at h; cases h
  | token l => rw [slot] at h; cases h
  | failed p start stop newline => rw [slot] at h; cases h

theorem current_of_items {item : Parse α} {isStrict : α → Bool} {s t : State} {result : List α}
    (h : (items item isStrict).run s = .ok result t) : t.current = .ended := by
  obtain ⟨done, u, h⟩ := iterate_ok h
  obtain ⟨ended, v, here, h⟩ := Parse.bind_ok_iff.1 h
  cases ended with
  | true =>
      cases h
      exact atEnd_true here
  | false =>
      obtain ⟨a, w, -, h⟩ := Parse.bind_ok_iff.1 h
      dsimp only at h
      split at h <;> cases h

def initial (context : Context) (text : List Char) : State :=
  { cursor := ⟨text, 0⟩, context, limit := 8 * (text.length + 4) }

theorem run_problems_ne_nil {p : Grammar → Parse α} {context : Context} {text : List Char}
    (noHashbang : readHashbang ⟨text, 0⟩ = none)
    (complains : ∀ a t, (p (grammar (8 * (text.length + 4)))).run (initial context text) = .ok a t →
      t.Complained) :
    (Parser.run p context text).problems ≠ [] := by
  unfold Parser.run
  simp only [noHashbang]
  split
  case h_1 a t ran => simpa [State.Complained] using complains a t ran
  case h_2 => simp

theorem clean?_eq_none {text : List Char} (complaints : (Module.parse text).problems ≠ []) :
    (Module.parse text).clean? = none := by
  unfold Outcome.clean?
  rw [if_neg]
  simpa using complaints

theorem clean?_of_unreadable {text : List Char} (noHashbang : readHashbang ⟨text, 0⟩ = none)
    (unreadable : Unreadable ⟨text, 0⟩) : (Module.parse text).clean? = none := by
  apply clean?_eq_none
  apply run_problems_ne_nil noHashbang
  intro result t ran clean
  have before : (initial { isModule := true, strict := true } text).BeforeGap :=
    ⟨rfl, .inr ⟨.unread, .inr ⟨.unread, rfl, unreadable⟩⟩⟩
  exact (State.beforeGap_of_leads ((Parse.follows ran).leads clean) before).current_ne_ended
    (current_of_items ran)

end Enclose.Script.Parser
