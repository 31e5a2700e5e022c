import Enclose.Proofs.Script.Tokens

/-!
# Runs on a known token

What the operations on tokens do in a state whose next token is known.
-/

namespace Enclose.Script.Parser
open Lexer

variable {α β : Type} {s : State} {l : Lexeme}

theorem loaded_of_token (here : s.current = .token l) : s.loaded = s := by
  unfold State.loaded
  rw [here]

@[simp] theorem Parse.run_bind (p : Parse α) (f : α → Parse β) (s : State) :
    (p >>= f).run s = match p.run s with
      | .ok a t => (f a).run t
      | .error e t => .error e t := rfl

@[simp] theorem Parse.run_pure (a : α) (s : State) : (pure a : Parse α).run s = .ok a s := rfl

@[simp] theorem getState_run (s : State) : getState.run s = .ok s s := rfl

@[simp] theorem inContext_run (p : Context → Bool) (s : State) :
    (inContext p).run s = .ok (p s.context) s := rfl

@[simp] theorem previousPlace_run (s : State) : previousPlace.run s = .ok s.previousStart s := rfl

theorem atEnd_run (here : s.loaded.current = .token l) : atEnd.run s = .ok false s.loaded := by
  simp [atEnd, current, here]

theorem token?_run (here : s.current = .token l) : token?.run s = .ok (some l.token) s := by
  simp [token?, current, loaded_of_token here, here]

theorem at?_run (here : s.current = .token l) (t : Token) :
    (at? t).run s = .ok (some l.token == some t) s := by
  simp [at?, token?_run here]

theorem place_run (here : s.current = .token l) : place.run s = .ok l.start s := by
  simp [place, current, loaded_of_token here, here]

theorem demand_run (here : s.current = .token l) : demand.run s = .ok l.token s := by
  simp [demand, demandToken, atCurrent, loaded_of_token here, here, token?_run here]

theorem advance_run (here : s.current = .token l) :
    advance.run s = .ok () (s.taken l.start l.stop) := by
  simp [advance, atCurrent, loaded_of_token here, here]

theorem loaded_of_read {token : Token} {cursor : Cursor} (current : s.current = .unread)
    (ahead : s.ahead = .unread) (regex : s.regexFrom = none)
    (read : ∀ setting newline, (readNext setting newline s.cursor).result = .ok (some token) ∧
      (readNext setting newline s.cursor).cursor = cursor) :
    ∃ l problems, l.token = token ∧
      s.loaded = { s with cursor, lineStart := false, problems, current := .token l } := by
  let setting : Setting :=
    { isModule := s.context.isModule, strict := s.context.strict, reserved := s.context.reserves }
  let reading := readNext setting s.lineStart s.cursor
  obtain ⟨result, stop⟩ := read setting s.lineStart
  refine ⟨⟨token, reading.start, reading.cursor.place, reading.newline⟩,
    reading.problems.reverse ++ s.problems, rfl, ?_⟩
  simp only [State.loaded, current, ahead, State.read, regex, setting, reading] at result stop ⊢
  simp only [result, stop]

end Enclose.Script.Parser
