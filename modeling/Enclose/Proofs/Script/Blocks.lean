import Enclose.Proofs.Script.Run

/-!
# Blocks in blocks

A module that consists of blocks in blocks, however many, is read without complaint, also after a
comment whose line a carriage return ends (`clean?_of_blocks`).
-/

namespace Enclose.Script.Parser
open Lexer

variable {α β : Type}

structure State.At (s : State) (slot : Slot) (text : List Char) (limit : Nat) : Prop where
  current : s.current = slot
  ahead : s.ahead = .unread
  regexFrom : s.regexFrom = none
  rest : s.cursor.rest = text
  problems : s.problems = []
  limit : s.limit = limit

namespace State.At

variable {s : State} {l : Lexeme} {slot : Slot} {text rest : List Char} {limit : Nat}

theorem taken (at_ : s.At (.token l) text limit) : (s.taken l.start l.stop).At .unread text limit :=
  ⟨rfl, at_.ahead, at_.regexFrom, at_.rest, at_.problems, at_.limit⟩

theorem inContext (at_ : s.At slot text limit) (context : Context) :
    State.At { s with context } slot text limit :=
  ⟨at_.current, at_.ahead, at_.regexFrom, at_.rest, at_.problems, at_.limit⟩

theorem loaded (at_ : s.At .unread text limit) {token : Token}
    (read : ∀ setting newline place, ∃ start newline' stop,
      readNext setting newline ⟨text, place⟩ =
        ⟨.ok (some token), start, newline', [], ⟨rest, stop⟩⟩) :
    ∃ l, l.token = token ∧ s.loaded.At (.token l) rest limit := by
  obtain ⟨start, newline, stop, same⟩ := read
    { isModule := s.context.isModule, strict := s.context.strict, reserved := s.context.reserves }
    s.lineStart s.cursor.place
  rw [← at_.rest] at same
  have load : s.loaded = { s with
      cursor := ⟨rest, stop⟩, lineStart := false, problems := [],
      current := .token ⟨token, start, stop, newline⟩ } := by
    simp only [State.loaded, at_.current, at_.ahead, State.read, at_.regexFrom, same,
      at_.problems, List.reverse_nil, List.nil_append]
  rw [load]
  exact ⟨_, rfl, rfl, at_.ahead, at_.regexFrom, rfl, rfl, at_.limit⟩

end State.At

theorem readNext_sign (setting : Setting) (newline : Bool) (place : Nat) {c : Char}
    {rest : List Char} {token : Token} (starts : StartsSign c) (kept : c ∉ refusedStarts)
    (sign : punctuator? (c :: rest) = some (token, 1)) :
    readNext setting newline ⟨c :: rest, place⟩ =
      ⟨.ok (some token), place, newline, [], ⟨rest, place + 1⟩⟩ := by
  have notSlash : c ≠ '/' := by
    rintro rfl
    exact absurd starts (by decide)
  simp [readNext, skipBlank_solid newline place setting.isModule starts.2.1 notSlash
    (refusal?_eq_none kept newline rest), readToken_sign setting place starts sign, Except.map]

variable {s : State} {l : Lexeme} {text rest : List Char} {limit : Nat}

theorem State.At.openBrace (at_ : s.At .unread ('{' :: rest) limit) :
    ∃ l, l.token = .openBrace ∧ s.loaded.At (.token l) rest limit :=
  at_.loaded fun setting newline place =>
    ⟨_, _, _, readNext_sign setting newline place (by decide) (by decide) rfl⟩

theorem State.At.closeBrace (at_ : s.At .unread ('}' :: rest) limit) :
    ∃ l, l.token = .closeBrace ∧ s.loaded.At (.token l) rest limit :=
  at_.loaded fun setting newline place =>
    ⟨_, _, _, readNext_sign setting newline place (by decide) (by decide) rfl⟩

theorem withContext_run (change : Context → Context) {p : Parse α} {a : α} {t : State}
    (ran : p.run { s with context := change s.context } = .ok a t) :
    (withContext change p).run s = .ok a { t with context := s.context } := by
  simp [withContext, within, ran]

theorem eat_run_true {token : Token} (here : s.current = .token l) (same : l.token = token) :
    (eat token).run s = .ok true (s.taken l.start l.stop) := by
  simp [eat, at?_run here, same, advance_run here]

theorem eat_run_false {token : Token} (here : s.current = .token l) (differs : l.token ≠ token) :
    (eat token).run s = .ok false s := by
  simp [eat, at?_run here, differs]

def blockStep (g : Grammar) (directives : Bool) (b : BlockState) :
    Parse (BlockState ⊕ (List Stmt × Option Nat)) := do
  if ← atEnd then
    complain (← complaintPlace) (.expected "'\x7d'" "<eof>")
    return .inr (b.statements.reverse, b.useStrict)
  else if ← eat .closeBrace then return .inr (b.statements.reverse, b.useStrict)
  else
    let start ← place
    let statement ← g.statement true
    if directives && b.statements.isEmpty && isUseStrict statement then beStrict
    let useStrict :=
      if b.useStrict.isNone && b.onlyDirectives && isUseStrict statement then some start
      else b.useStrict
    return .inl ⟨statement :: b.statements, b.onlyDirectives && isDirective statement, useStrict⟩

theorem block_eq (g : Grammar) (directives : Bool) :
    block g directives = expect .openBrace >>= fun _ =>
      withContext (fun c => { c with topLevel := false }) (iterate (blockStep g directives) {}) :=
  rfl

theorem blockStep_close (at_ : s.At .unread ('}' :: rest) limit) (g : Grammar) (b : BlockState) :
    ∃ t, (blockStep g false b).run s = .ok (.inr (b.statements.reverse, b.useStrict)) t ∧
      t.At .unread rest limit := by
  obtain ⟨l, brace, at_⟩ := at_.closeBrace
  refine ⟨_, ?_, at_.taken⟩
  simp [blockStep, atEnd_run at_.current, eat_run_true at_.current brace]

theorem blockStep_statement {g : Grammar} {statement : Stmt} {t : State}
    (at_ : s.At .unread ('{' :: rest) limit)
    (ran : (g.statement true).run s.loaded = .ok statement t) (b : BlockState) :
    ∃ b', (blockStep g false b).run s = .ok (.inl b') t := by
  obtain ⟨l, brace, at_⟩ := at_.openBrace
  have apart : l.token ≠ .closeBrace := by simp [brace]
  refine ⟨⟨statement :: b.statements, b.onlyDirectives && isDirective statement,
    if b.useStrict.isNone && b.onlyDirectives && isUseStrict statement then some l.start
    else b.useStrict⟩, ?_⟩
  simp [blockStep, atEnd_run at_.current, eat_run_false at_.current apart, place_run at_.current,
    ran]

theorem expect_run {token : Token} (here : s.current = .token l) (same : l.token = token) :
    (expect token).run s = .ok () (s.taken l.start l.stop) := by
  simp [expect, eat_run_true here same]

theorem iterate_run {step : α → Parse (α ⊕ β)} {a : α} {fuel : Nat}
    (enough : s.limit = fuel) : (iterate step a).run s = (iterate.go step fuel a).run s := by
  rw [← enough]
  rfl

theorem go_next {step : α → Parse (α ⊕ β)} {a b : α} {t : State}
    (ran : (step a).run s = .ok (.inl b) t) (fuel : Nat) :
    (iterate.go step (fuel + 1) a).run s = (iterate.go step fuel b).run t := by
  simp [iterate.go, ran]

theorem go_done {step : α → Parse (α ⊕ β)} {a : α} {b : β} {t : State}
    (ran : (step a).run s = .ok (.inr b) t) (fuel : Nat) :
    (iterate.go step (fuel + 1) a).run s = .ok b t := by
  simp [iterate.go, ran]

def Closes (g : Grammar) (text rest : List Char) (limit : Nat) : Prop :=
  ∀ s : State, s.At .unread text limit → ∃ result t,
    (iterate (blockStep g false) {}).run s = .ok result t ∧ t.At .unread rest limit

theorem closes_empty (g : Grammar) (fuel : Nat) : Closes g ('}' :: rest) rest (fuel + 1) := by
  intro s at_
  obtain ⟨t, done, after⟩ := blockStep_close at_ g {}
  exact ⟨_, t, (iterate_run at_.limit).trans (go_done done fuel), after⟩

theorem closes_statement {g : Grammar} {fuel : Nat}
    (ran : ∀ s : State, s.At .unread ('{' :: text) (fuel + 2) → ∃ statement t,
      (g.statement true).run s.loaded = .ok statement t ∧ t.At .unread ('}' :: rest) (fuel + 2)) :
    Closes g ('{' :: text) rest (fuel + 2) := by
  intro s at_
  obtain ⟨statement, t, ran, next⟩ := ran s at_
  obtain ⟨b, step⟩ := blockStep_statement at_ ran {}
  obtain ⟨u, done, after⟩ := blockStep_close next g b
  exact ⟨_, u, by rw [iterate_run at_.limit, go_next step, go_done done], after⟩

theorem block_run {g : Grammar} (at_ : s.At (.token l) text limit) (brace : l.token = .openBrace)
    (closes : Closes g text rest limit) :
    ∃ body t, (plainBlock g).run s = .ok body t ∧ t.At .unread rest limit := by
  obtain ⟨result, t, ran, after⟩ :=
    closes _ (at_.taken.inContext { s.context with topLevel := false })
  have inside := withContext_run (fun c => { c with topLevel := false })
    (s := s.taken l.start l.stop) ran
  refine ⟨result.1, { t with context := s.context }, ?_, after.inContext _⟩
  simp only [plainBlock, block_eq, Parse.run_bind, expect_run at_.current brace, inside,
    Parse.run_pure]
  rfl

theorem statement_run {g : Grammar} (at_ : s.At (.token l) text limit)
    (brace : l.token = .openBrace) (closes : Closes g text rest limit) :
    ∃ body t, (statementOrDecl g true).run s = .ok (.block body) t ∧ t.At .unread rest limit := by
  obtain ⟨body, t, ran, after⟩ := block_run at_ brace closes
  refine ⟨body, t, ?_, after⟩
  simp [statementOrDecl, token?_run at_.current, brace, statementAtToken, demand_run at_.current,
    ran]

theorem closes_blocks {depth deep fuel : Nat} (enough : depth ≤ deep) (rest : List Char) :
    Closes (grammar deep)
      (List.replicate depth '{' ++ (List.replicate (depth + 1) '}' ++ rest)) rest (fuel + 2) := by
  induction depth generalizing deep rest with
  | zero => exact closes_empty (grammar deep) (fuel + 1)
  | succ depth ih =>
      have last : List.replicate (depth + 2) '}' ++ rest =
          List.replicate (depth + 1) '}' ++ '}' :: rest := by
        simp [List.replicate_succ' (n := depth + 1)]
      rw [last]
      cases deep with
      | zero => contradiction
      | succ deep =>
          refine closes_statement fun s at_ => ?_
          obtain ⟨l, brace, at_⟩ := at_.openBrace
          obtain ⟨body, t, ran, after⟩ :=
            statement_run at_ brace (ih (Nat.le_of_succ_le_succ enough) ('}' :: rest))
          exact ⟨.block body, t, ran, after⟩

theorem skipBlank_comment (isModule : Bool) (blank : Blank) (place : Nat) (rest : List Char) :
    skipBlank isModule .space blank place ('/' :: '/' :: '\r' :: rest) =
      skipBlank isModule .space (blank.pass '\r') (place + 3) rest :=
  rfl

theorem readNext_comment (setting : Setting) (newline : Bool) (place : Nat) {c : Char}
    {rest : List Char} {token : Token} (starts : StartsSign c) (kept : c ∉ refusedStarts)
    (sign : punctuator? (c :: rest) = some (token, 1)) :
    readNext setting newline ⟨'/' :: '/' :: '\r' :: c :: rest, place⟩ =
      ⟨.ok (some token), place + 3, newline || isLineEnd '\r', [], ⟨rest, place + 4⟩⟩ := by
  have notSlash : c ≠ '/' := by
    rintro rfl
    exact absurd starts (by decide)
  simp [readNext, skipBlank_comment, Blank.pass, skipBlank_solid (newline || isLineEnd '\r')
    (place + 3) setting.isModule starts.2.1 notSlash (refusal?_eq_none kept _ rest),
    readToken_sign setting (place + 3) starts sign, Except.map]

theorem moduleItem_run {g : Grammar} {statement : Stmt} {t : State} (here : s.current = .token l)
    (brace : l.token = .openBrace) (ran : (g.statement true).run s = .ok statement t) :
    (moduleItem g).run s = .ok (.stmt statement) t := by
  have noWord (name : String) : (atWord name).run s = .ok false s := by
    simp [atWord, at?_run here, brace]
  simp [moduleItem, atImportCall, noWord, topStatement, ran]

theorem readNext_nil (setting : Setting) (newline : Bool) (place : Nat) :
    readNext setting newline ⟨[], place⟩ = ⟨.ok none, place, newline, [], ⟨[], place⟩⟩ :=
  rfl

theorem atEnd_run_nil (at_ : s.At .unread [] limit) :
    ∃ t, atEnd.run s = .ok true t ∧ t.problems = [] := by
  have rest : s.cursor = ⟨[], s.cursor.place⟩ := by rw [← at_.rest]
  have read (setting : Setting) : readNext setting s.lineStart s.cursor =
      ⟨.ok none, s.cursor.place, s.lineStart, [], ⟨[], s.cursor.place⟩⟩ := by
    rw [rest]
    exact readNext_nil setting s.lineStart s.cursor.place
  have load : s.loaded = { s with
      cursor := ⟨[], s.cursor.place⟩, lineStart := false, problems := [], current := .ended } := by
    simp only [State.loaded, at_.current, at_.ahead, State.read, at_.regexFrom, read, at_.problems,
      List.reverse_nil, List.nil_append]
  refine ⟨s.loaded, ?_, ?_⟩
  · simp [atEnd, current, load]
  · rw [load]

theorem items_run {item : Parse α} {isStrict : α → Bool} {a : α} {t : State} {fuel : Nat}
    (at_ : s.loaded.At (.token l) text limit) (enough : s.limit = fuel + 2)
    (ran : item.run s.loaded = .ok a t) (loose : isStrict a = false)
    (ends : t.At .unread [] limit) :
    ∃ u, (items item isStrict).run s = .ok [a] u ∧ u.problems = [] := by
  obtain ⟨u, ended, clean⟩ := atEnd_run_nil ends
  refine ⟨u, ?_, clean⟩
  rw [items, iterate_run enough, go_next (b := [a]) (t := t), go_done (b := [a]) (t := u)]
  · simp [ended]
  · simp [atEnd_run at_.current, ran, loose]

theorem run_clean {p : Grammar → Parse α} {context : Context} {text : List Char}
    (noHashbang : readHashbang ⟨text, 0⟩ = none)
    (ran : ∃ a t, (p (grammar (8 * (text.length + 4)))).run (initial context text) = .ok a t ∧
      t.problems = []) :
    (Parser.run p context text).problems = [] ∧ (Parser.run p context text).value.isSome := by
  obtain ⟨a, t, ran, clean⟩ := ran
  unfold initial at ran
  simp [Parser.run, noHashbang, ran, clean]

theorem clean?_isSome_of_items {text : List Char} (noHashbang : readHashbang ⟨text, 0⟩ = none)
    (ran : ∀ isStrict : ModuleItem → Bool, (∀ body, isStrict (.stmt (.block body)) = false) →
      ∃ a t, (items (moduleItem (grammar (8 * (text.length + 4)))) isStrict).run
        (initial { isModule := true, strict := true } text) = .ok a t ∧ t.problems = []) :
    (Module.parse text).clean?.isSome := by
  have clean (isStrict) (loose : ∀ body, isStrict (.stmt (.block body)) = false) :=
    run_clean (p := fun g => items (moduleItem g) isStrict) noHashbang (ran isStrict loose)
  unfold Module.parse Outcome.clean?
  dsimp only
  rw [(clean _ fun _ => rfl).1]
  simpa using (clean _ fun _ => rfl).2

theorem clean?_of_blocks (depth : Nat) :
    (Module.parse ('/' :: '/' :: '\r' ::
      (List.replicate (depth + 1) '{' ++ List.replicate (depth + 1) '}'))).clean?.isSome := by
  generalize source : '/' :: '/' :: '\r' :: _ = text
  have at_ : (initial { isModule := true, strict := true } text).At .unread text
      (8 * (text.length + 4)) := ⟨rfl, rfl, rfl, rfl, rfl, rfl⟩
  have hashbang : readHashbang ⟨text, 0⟩ = none := by
    rw [← source]
    rfl
  -- The fuel goes down with each block, and the text is longer than its blocks are deep.
  have enough : ∃ fuel, 8 * (text.length + 4) = fuel + 2 ∧ depth ≤ fuel + 1 := by
    refine ⟨8 * text.length + 30, rfl, ?_⟩
    rw [← source]
    simp
    omega
  obtain ⟨fuel, limit, deep⟩ := enough
  have first : ∃ l, l.token = .openBrace ∧
      (initial { isModule := true, strict := true } text).loaded.At (.token l)
        (List.replicate depth '{' ++ (List.replicate (depth + 1) '}' ++ [])) (fuel + 2) := by
    rw [← limit, List.append_nil]
    refine at_.loaded fun setting newline place =>
      ⟨place + 3, newline || isLineEnd '\r', place + 4, ?_⟩
    rw [← source]
    exact readNext_comment setting newline place (by decide) (by decide) rfl
  obtain ⟨l, brace, known⟩ := first
  obtain ⟨body, t, ran, ends⟩ := statement_run known brace (closes_blocks deep [])
  refine clean?_isSome_of_items hashbang fun isStrict loose => ?_
  rw [limit]
  have item := moduleItem_run (g := grammar (fuel + 2)) known.current brace ran
  obtain ⟨u, ran, clean⟩ := items_run known limit item (loose body) ends
  exact ⟨_, u, ran, clean⟩

end Enclose.Script.Parser
