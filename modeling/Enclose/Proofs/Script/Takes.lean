import Enclose.Proofs.Script.View

/-!
# What parsers take from a sequence of tokens

The operations on tokens, and the ways to put parsers together, as statements about views. A parser
that takes one view to another does not complain on the way.
-/

namespace Enclose.Script.Parser
open Lexer

variable {α β : Type}

/-- From each state with the first view, a parser comes to a state with the second one, with a
result of which something holds. -/
def Takes (p : Parse α) (v : View) (Q : α → Prop) (w : View) : Prop :=
  ∀ s : State, s.Shows v → ∃ a t, p.run s = .ok a t ∧ Q a ∧ t.Shows w

def next? (ps : List Piece) : Option Token := ps.head?.map (·.token)

namespace Takes

variable {p : Parse α} {f : α → Parse β} {u v w : View} {Q : α → Prop} {R : β → Prop} {a : α}

theorem pure (holds : Q a) : Takes (pure a) v Q v := fun s shows_ => ⟨a, s, rfl, holds, shows_⟩

theorem bind (first : Takes p v Q u) (next : ∀ a, Q a → Takes (f a) u R w) :
    Takes (p >>= f) v R w := by
  intro s shown
  obtain ⟨a, t, ran, holds, shown⟩ := first s shown
  obtain ⟨b, t', ran', result, shown'⟩ := next a holds t shown
  exact ⟨b, t', by rw [Parse.run_bind, ran]; exact ran', result, shown'⟩

theorem step (first : Takes p v (· = a) u) (next : Takes (f a) u R w) : Takes (p >>= f) v R w :=
  first.bind fun _ same => same ▸ next

theorem mono {Q' : α → Prop} (takes : Takes p v Q w) (weaker : ∀ a, Q a → Q' a) :
    Takes p v Q' w := by
  intro s shown
  obtain ⟨a, t, ran, holds, shown⟩ := takes s shown
  exact ⟨a, t, ran, weaker a holds, shown⟩

theorem getState : Takes getState v (·.Shows v) v := fun s shown => ⟨s, s, rfl, shown, shown⟩

theorem inContext (test : Context → Bool) : Takes (inContext test) v (· = test v.context) v :=
  getState.bind fun _ shown => .pure (by rw [shown.context])

variable {x : Piece} {ps : List Piece} {c c' : Context} {m : Bool}

theorem current : Takes current v (·.Shows v.pieces) v :=
  fun _ shown => ⟨_, _, rfl, shown.loaded.2, shown.loaded.1⟩

theorem ahead : Takes ahead v (·.Shows v.pieces.tail) v :=
  fun _ shown => ⟨_, _, rfl, shown.loadedAhead.2, shown.loadedAhead.1⟩

theorem ofSlot {f : Slot → Parse β} {slots : Parse Slot} (reads : Takes slots v (·.Shows ps) v)
    (token : ∀ l : Lexeme, ps.head? = some ⟨l.token, l.newline⟩ → Takes (f (.token l)) v R w)
    (ended : ps = [] → Takes (f .ended) v R w) : Takes (slots >>= f) v R w := by
  refine reads.bind fun slot ⟨known, holds⟩ => ?_
  cases ps with
  | nil =>
      cases holds with
      | unread => exact absurd rfl known
      | ended => exact ended rfl
  | cons x ps =>
      generalize tail : (x :: ps).tail = rest at holds
      cases holds with
      | unread => exact absurd rfl known
      | token l _ => exact token l rfl

theorem token? : Takes token? v (· = next? v.pieces) v :=
  .ofSlot current (fun l head => .pure (by rw [next?, head]; rfl))
    fun empty => .pure (by rw [next?, empty]; rfl)

theorem aheadToken? : Takes aheadToken? v (· = next? v.pieces.tail) v :=
  .ofSlot ahead (fun l head => .pure (by rw [next?, head]; rfl))
    fun empty => .pure (by rw [next?, empty]; rfl)

theorem atEnd : Takes atEnd v (· = v.pieces.isEmpty) v := by
  refine .ofSlot current (fun l head => .pure ?_) fun empty => .pure (by rw [empty]; rfl)
  cases pieces : v.pieces with
  | nil => simp [pieces] at head
  | cons => rfl

theorem afterNewline : Takes afterNewline v (· = v.pieces.head?.any (·.newline)) v :=
  .ofSlot current (fun l head => .pure (by rw [head]; rfl)) fun empty => .pure (by rw [empty]; rfl)

theorem newlineAhead : Takes newlineAhead v (· = v.pieces.tail.head?.any (·.newline)) v :=
  .ofSlot ahead (fun l head => .pure (by rw [head]; rfl)) fun empty => .pure (by rw [empty]; rfl)

theorem place : Takes place v (fun _ => True) v :=
  .ofSlot current (fun _ _ => .pure trivial) fun _ => getState.bind fun _ _ => .pure trivial

theorem previousPlace : Takes previousPlace v (fun _ => True) v :=
  getState.bind fun _ _ => .pure trivial

theorem previousStop : Takes previousStop v (fun _ => True) v :=
  getState.bind fun _ _ => .pure trivial

theorem at? (t : Token) : Takes (at? t) v (· = (next? v.pieces == some t)) v :=
  token?.step (.pure rfl)

theorem advance : Takes advance ⟨x :: ps, c, m⟩ (fun _ => True) ⟨ps, c, false⟩ := by
  intro s shown
  obtain ⟨shown, known, holds⟩ := shown.loaded
  obtain ⟨later, last, here, ahead, spells⟩ := shown.spells
  have same : later = ps := here.later known
  subst later
  cases slot : s.loaded.current with
  | unread => exact absurd slot known
  | ended => rw [slot] at holds; cases holds
  | failed => rw [slot] at holds; cases holds
  | token l =>
      refine ⟨(), s.loaded.taken l.start l.stop, ?_, trivial, ?_⟩
      · simp only [Parser.advance, atCurrent, slot]
      · exact ⟨shown.clean, shown.regexFrom, shown.context, Nat.lt_of_succ_lt shown.room,
          ⟨ps, last, .unread ps, ahead, spells⟩, by simp⟩

theorem eat (t : Token) {n : Bool} :
    Takes (eat t) ⟨⟨t, n⟩ :: ps, c, m⟩ (· = true) ⟨ps, c, false⟩ := by
  refine (at? t).step ?_
  have here : (next? (⟨t, n⟩ :: ps) == some t) = true := beq_self_eq_true _
  simp only [here, if_true]
  exact advance.bind fun _ _ => .pure rfl

theorem eat_other {t : Token} (other : next? v.pieces ≠ some t) :
    Takes (Parser.eat t) v (· = false) v := by
  refine (at? t).step ?_
  rw [beq_eq_false_iff_ne.2 other]
  exact .pure rfl

theorem at?_other {t : Token} (other : next? v.pieces ≠ some t) :
    Takes (Parser.at? t) v (· = false) v :=
  (at? t).mono fun _ same => same.trans (beq_eq_false_iff_ne.2 other)

theorem at?_self (t : Token) {n : Bool} :
    Takes (Parser.at? t) ⟨⟨t, n⟩ :: ps, c, m⟩ (· = true) ⟨⟨t, n⟩ :: ps, c, m⟩ :=
  (at? t).mono fun _ same => same.trans (beq_self_eq_true _)

theorem expect (t : Token) {n : Bool} :
    Takes (expect t) ⟨⟨t, n⟩ :: ps, c, m⟩ (fun _ => True) ⟨ps, c, false⟩ :=
  (eat t).step (.pure trivial)

theorem demandToken : Takes demandToken v (fun _ => True) v := by
  intro s shown
  obtain ⟨shown, known, holds⟩ := shown.loaded
  refine ⟨(), s.loaded, ?_, trivial, shown⟩
  cases slot : s.loaded.current with
  | failed => rw [slot] at holds; cases holds
  | unread | token | ended => simp only [Parser.demandToken, atCurrent, slot]

theorem demand : Takes demand ⟨x :: ps, c, m⟩ (· = x.token) ⟨x :: ps, c, m⟩ :=
  demandToken.bind fun _ _ => token?.step (.pure rfl)

theorem atIdent : Takes atIdent v
    (· = match next? v.pieces with
      | some (.word name) => !v.context.reserves name
      | _ => false) v := by
  refine token?.step ?_
  rcases next? v.pieces with _ | t
  · exact .pure rfl
  · cases t with
    | word name => exact getState.bind fun _ shown => .pure (by simp only [shown.context])
    | _ => exact .pure rfl

theorem atStatementEnd : Takes atStatementEnd ⟨x :: ps, c, m⟩
    (· = (x.token == .semicolon || x.token == .closeBrace || x.newline)) ⟨x :: ps, c, m⟩ := by
  refine .ofSlot current (fun l head => .pure ?_) nofun
  cases head
  rfl

theorem eatStatementEnd {n : Bool} :
    Takes eatStatementEnd ⟨⟨.semicolon, n⟩ :: ps, c, m⟩ (· = true) ⟨ps, c, false⟩ :=
  (at?_self _).step (advance.bind fun _ _ => .pure rfl)

theorem expectStatementEnd {n : Bool} :
    Takes expectStatementEnd ⟨⟨.semicolon, n⟩ :: ps, c, m⟩ (fun _ => True) ⟨ps, c, false⟩ :=
  eatStatementEnd.step (.pure trivial)

theorem withContext {change : Context → Context} {ps' : List Piece} {m' : Bool}
    (takes : Takes p ⟨ps, change c, m⟩ Q ⟨ps', c', m'⟩) :
    Takes (withContext change p) ⟨ps, c, m⟩ Q ⟨ps', c, m'⟩ := by
  intro s shown
  obtain ⟨a, t, ran, holds, after⟩ := takes { s with context := change s.context }
    ⟨shown.clean, shown.regexFrom, by rw [shown.context], shown.room, shown.spells, shown.arrow⟩
  refine ⟨a, { t with context := s.context }, ?_, holds, ?_⟩
  · simp only [Parser.withContext, within, ran]
  · exact ⟨after.clean, after.regexFrom, shown.context, after.room, after.spells, after.arrow⟩

theorem withFreshLabels {ps' : List Piece} {m' : Bool}
    (takes : Takes p ⟨ps, c, false⟩ Q ⟨ps', c, m'⟩) :
    Takes (withFreshLabels p) ⟨ps, c, m⟩ Q ⟨ps', c, false⟩ := by
  intro s shown
  obtain ⟨a, t, ran, holds, after⟩ := takes
    { s with labels := [], arrowStart := none, trailingCommas := [] }
    ⟨shown.clean, shown.regexFrom, shown.context, shown.room, shown.spells, by simp⟩
  refine ⟨a, { t with
    labels := s.labels, arrowStart := s.arrowStart, trailingCommas := s.trailingCommas },
    ?_, holds, ?_⟩
  · simp only [Parser.withFreshLabels, within, ran]
  · exact ⟨after.clean, after.regexFrom, after.context, after.room, after.spells, by simp⟩

theorem orComplain {reaction : Problem → Parse Problem} {placeholder : α} (takes : Takes p v Q w) :
    Takes (orComplain p reaction placeholder) v Q w := by
  intro s shown
  obtain ⟨a, t, ran, holds, after⟩ := takes s shown
  exact ⟨a, t, by simp only [Parser.orComplain, ran], holds, after⟩

theorem andAlways {last : Parse Unit} {u : View} (takes : Takes p v Q u)
    (ends : Takes last u (fun _ => True) w) : Takes (andAlways p last) v Q w := by
  intro s shown
  obtain ⟨a, t, ran, holds, after⟩ := takes s shown
  obtain ⟨_, t', ran', -, after'⟩ := ends t after
  exact ⟨a, t', by simp only [Parser.andAlways, ran, ran'], holds, after'⟩

theorem forget (takes : Takes p ⟨ps, c, false⟩ Q w) : Takes p ⟨ps, c, m⟩ Q w :=
  fun s shown => takes s ⟨shown.clean, shown.regexFrom, shown.context, shown.room, shown.spells, nofun⟩

theorem place_eq (s : State) (shown : s.Shows ⟨x :: ps, c, m⟩) :
    ∃ l, Parser.place.run s = .ok l.start s.loaded ∧ s.loaded.current = .token l := by
  obtain ⟨shown, known, holds⟩ := shown.loaded
  cases slot : s.loaded.current with
  | unread => exact absurd slot known
  | ended => rw [slot] at holds; cases holds
  | failed => rw [slot] at holds; cases holds
  | token l => exact ⟨l, by simp [Parser.place, Parser.current, slot], rfl⟩

theorem startArrow (may : Bool) {f : Nat → Parse β}
    (next : ∀ start, Takes (f start) ⟨x :: ps, c, may⟩ R w) :
    Takes (do
      let start ← Parser.place
      edit fun s => { s with arrowStart := if may then some start else none }
      f start) ⟨x :: ps, c, m⟩ R w := by
  intro s shown
  obtain ⟨l, ran, here⟩ := place_eq s shown
  obtain ⟨loaded, -, -⟩ := shown.loaded
  have started : State.Shows
      { s.loaded with arrowStart := if may then some l.start else none } ⟨x :: ps, c, may⟩ :=
    ⟨loaded.clean, loaded.regexFrom, loaded.context, loaded.room, loaded.spells,
      fun known => ⟨l, here, if_pos known⟩⟩
  obtain ⟨b, t, ran', result⟩ := next l.start _ started
  refine ⟨b, t, ?_, result⟩
  rw [Parse.run_bind, ran]
  exact ran'

theorem asksArrow {f : Nat → State → Parse β}
    (next : ∀ start s, (m = true → (s.arrowStart == some start) = true) →
      Takes (f start s) ⟨x :: ps, c, m⟩ R w) :
    Takes (do f (← Parser.place) (← Parser.getState)) ⟨x :: ps, c, m⟩ R w := by
  intro s shown
  obtain ⟨l, ran, here⟩ := place_eq s shown
  obtain ⟨loaded, -, -⟩ := shown.loaded
  have known : m = true → (s.loaded.arrowStart == some l.start) = true := by
    intro may
    obtain ⟨l', here', start⟩ := loaded.arrow may
    cases here.symm.trans here'
    rw [start]
    exact beq_self_eq_true _
  obtain ⟨b, t, ran', result⟩ := next l.start _ known _ loaded
  exact ⟨b, t, by simpa only [Parse.run_bind, ran, getState_run] using ran', result⟩

end Takes

def Loops (step : α → Parse (α ⊕ β)) (a : α) (v : View) (R : β → Prop) (w : View) : Prop :=
  ∀ fuel s, v.pieces.length < fuel → s.Shows v →
    ∃ b t, (iterate.go step fuel a).run s = .ok b t ∧ R b ∧ t.Shows w

namespace Loops

variable {step : α → Parse (α ⊕ β)} {a : α} {u v w : View} {R : β → Prop}

theorem done (last : Takes (step a) v (fun result => ∃ b, result = .inr b ∧ R b) w) :
    Loops step a v R w := by
  intro fuel s enough shown
  cases fuel with
  | zero => exact absurd enough (Nat.not_lt_zero _)
  | succ fuel =>
      obtain ⟨_, t, ran, ⟨b, rfl, holds⟩, after⟩ := last s shown
      exact ⟨b, t, by simp [iterate.go, ran], holds, after⟩

theorem next (first : Takes (step a) v (fun result => ∃ b, result = .inl b ∧ Loops step b u R w) u)
    (shorter : u.pieces.length < v.pieces.length) : Loops step a v R w := by
  intro fuel s enough shown
  cases fuel with
  | zero => exact absurd enough (Nat.not_lt_zero _)
  | succ fuel =>
      obtain ⟨_, t, ran, ⟨b, rfl, others⟩, after⟩ := first s shown
      obtain ⟨r, t', ran', holds, after'⟩ := others fuel t (by omega) after
      exact ⟨r, t', by simp [iterate.go, ran, ran'], holds, after'⟩

end Loops

theorem Takes.iterate {step : α → Parse (α ⊕ β)} {a : α} {v w : View} {R : β → Prop}
    (loops : Loops step a v R w) : Takes (iterate step a) v R w := by
  intro s shown
  obtain ⟨b, t, ran, result⟩ := loops s.limit s shown.room shown
  exact ⟨b, t, by simp [Parser.iterate, ran], result⟩

end Enclose.Script.Parser
