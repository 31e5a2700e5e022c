import Enclose.Script.Parser.State
import Enclose.Script.Token.Text

/-!
Parsers and their operations on tokens.

Complaints are collected; one that is thrown ends the construct in which it arises, and an enclosing
construct may go on after it. What a parser does to the state carries its own proof that no
complaint is lost and that nothing of the text is passed over before the first complaint, so a
parser that is put together from these operations has that property as well.
-/

namespace Enclose.Script.Parser

/-- What holds of the outcome of a parser: one that fails has only to keep the complaints. -/
def State.Allows {α : Type} (s : State) : EStateM.Result Problem State α → Prop
  | .ok _ t => s.Follows t
  | .error _ t => s.Complained → t.Complained

structure Parse (α : Type) where
  run : State → EStateM.Result Problem State α
  allowed : ∀ s : State, s.Allows (run s)

variable {α β : Type}

namespace Parse

theorem allowed_bind {s : State} (p : Parse α) (f : α → Parse β) :
    s.Allows (match p.run s with
      | .ok a t => (f a).run t
      | .error e t => .error e t) := by
  have first := p.allowed s
  cases ran : p.run s with
  | ok a t =>
      rw [ran] at first
      have second := (f a).allowed t
      dsimp only
      cases ranNext : (f a).run t with
      | ok b u =>
          rw [ranNext] at second
          exact first.trans second
      | error e u =>
          rw [ranNext] at second
          exact second ∘ first.keeps
  | error e t =>
      rw [ran] at first
      exact first

@[always_inline]
instance : Monad Parse where
  pure a := ⟨fun s => .ok a s, State.Follows.refl⟩
  bind p f :=
    ⟨fun s =>
      match p.run s with
      | .ok a t => (f a).run t
      | .error e t => .error e t,
    fun _ => allowed_bind p f⟩

@[inline]
def delay (p : Unit → Parse α) : Parse α := ⟨fun s => (p ()).run s, fun s => (p ()).allowed s⟩

end Parse

def raise (p : Problem) : Parse α := ⟨fun s => .error p s, fun _ => id⟩

def getState : Parse State := ⟨fun s => .ok s s, State.Follows.refl⟩

@[inline]
def edit (change : State → State)
    (inModule : ∀ s : State, s.InModule → (change s).InModule := by exact State.inModule_self)
    (same : ∀ s : State, s.SameText (change s) := by exact fun _ => ⟨rfl, rfl, rfl, rfl, rfl⟩)
    (problems : ∀ s : State, (change s).problems = s.problems := by exact fun _ => rfl) : Parse Unit :=
  ⟨fun s => .ok () (change s), fun s =>
    ⟨State.complained_of_eq (problems s), fun _ => .stay (same s), fun _ => inModule s⟩⟩

def beStrict : Parse Unit :=
  edit (fun s => { s with context := { s.context with strict := true } }) fun _ here => ⟨here.1, rfl⟩

def noteTrailingComma (start comma : Nat) : Parse Unit :=
  edit fun s => { s with trailingCommas := (start, comma) :: s.trailingCommas }

def inContext (p : Context → Bool) : Parse Bool := return p (← getState).context

/-- Parse in a state that is changed before and changed again afterwards, also after a failure.
Neither change moves in the text. -/
@[inline]
def within (before : State → State) (after : State → State → State) (p : Parse α)
    (inModule : ∀ s t : State,
      ((before s).InModule → t.InModule) → s.InModule → (after s t).InModule)
    (sameBefore : ∀ s : State, s.SameText (before s) := by exact fun _ => ⟨rfl, rfl, rfl, rfl, rfl⟩)
    (sameAfter : ∀ s t : State, t.SameText (after s t) := by exact fun _ _ => ⟨rfl, rfl, rfl, rfl, rfl⟩)
    (problemsBefore : ∀ s : State, (before s).problems = s.problems := by exact fun _ => rfl)
    (problemsAfter : ∀ s t : State, (after s t).problems = t.problems := by exact fun _ _ => rfl) :
    Parse α where
  run s :=
    match p.run (before s) with
    | .ok a t => .ok a (after s t)
    | .error e t => .error e (after s t)
  allowed s := by
    have enter := State.complained_of_eq (problemsBefore s)
    have inner := p.allowed (before s)
    cases ran : p.run (before s) with
    | ok a t =>
        rw [ran] at inner
        have clean (after : (after s t).problems = []) : t.problems = [] := problemsAfter s t ▸ after
        exact
          { keeps := State.complained_of_eq (problemsAfter s t) ∘ inner.keeps ∘ enter
            leads := fun none =>
              .trans (.stay (sameBefore s)) (.trans (inner.leads (clean none)) (.stay (sameAfter s t)))
            inModule := fun none => inModule s t (inner.inModule (clean none)) }
    | error e t =>
        rw [ran] at inner
        exact State.complained_of_eq (problemsAfter s t) ∘ inner ∘ enter

/-- Parse in a changed context. The context is restored also after a failure. -/
def withContext (change : Context → Context) (p : Parse α) : Parse α :=
  within (fun s => { s with context := change s.context })
    (fun s t => { t with context := s.context }) p fun _ _ _ here => here

def withFreshLabels (p : Parse α) : Parse α :=
  within (fun s => { s with labels := [], arrowStart := none, trailingCommas := [] })
    (fun s t => { t with
      labels := s.labels, arrowStart := s.arrowStart, trailingCommas := s.trailingCommas }) p
    fun _ _ stays => stays

/-- Repeat a step until it has a result. The number of steps is bounded by the number of tokens. -/
def iterate (step : α → Parse (α ⊕ β)) (start : α) : Parse β := do
  go (← getState).limit start
where
  go : Nat → α → Parse β
    | 0, _ => raise ⟨0, .endOfText⟩
    | fuel + 1, a => do
      match ← step a with
      | .inl next => go fuel next
      | .inr result => return result

def current : Parse Slot := ⟨fun s => .ok s.loaded.current s.loaded, State.Follows.loaded⟩

def ahead : Parse Slot := ⟨fun s => .ok s.loadedAhead.ahead s.loadedAhead, State.Follows.loadedAhead⟩

@[inline]
def atCurrent (next : State → Slot → EStateM.Result Problem State α)
    (allowed : ∀ s : State, s.Allows (next s s.current)) : Parse α where
  run s := next s.loaded s.loaded.current
  allowed s := by
    have load := State.Follows.loaded s
    have inner := allowed s.loaded
    cases ran : next s.loaded s.loaded.current with
    | ok a t =>
        rw [ran] at inner
        exact load.trans inner
    | error e t =>
        rw [ran] at inner
        exact inner ∘ load.keeps

def advance : Parse Unit :=
  atCurrent
    (fun s slot =>
      match slot with
      | .token l => .ok () (s.taken l.start l.stop)
      | _ => .ok () s)
    fun s => by
      cases here : s.current with
      | token l => exact .of_leads (.take here) rfl rfl
      | unread => exact .refl s
      | failed p start stop newline => exact .refl s
      | ended => exact .refl s

def rereadSlash : Parse Unit :=
  atCurrent
    (fun s slot =>
      match slot with
      | .token l =>
        match slash? l.token with
        | some slash => .ok () ((s.taken l.start l.stop).rereadSlash slash)
        | none => .ok () s
      | _ => .ok () s)
    fun s => by
      cases here : s.current with
      | token l =>
          cases slash : slash? l.token with
          | some text => 
              simp only [slash]
              exact .of_leads (.rereadSlash here slash) rfl rfl
          | none => 
              simp only [slash]
              exact .refl s
      | unread => exact .refl s
      | failed p start stop newline => exact .refl s
      | ended => exact .refl s

def openTemplate : Parse Unit :=
  atCurrent
    (fun s slot =>
      match slot with
      | .token l =>
        if l.token = .backquote then
          .ok () { s.taken l.start l.stop with templateStart := some l.start }
        else .ok () s
      | _ => .ok () s)
    fun s => by
      cases here : s.current with
      | token l =>
          by_cases quote : l.token = .backquote
          · simp only [if_pos quote]
            exact .of_leads (.openTemplate here quote) rfl rfl
          · simp only [if_neg quote]
            exact .refl s
      | unread => exact .refl s
      | failed p start stop newline => exact .refl s
      | ended => exact .refl s

def readTemplate : Parse Lexer.TemplatePiece where
  run s :=
    match s.templateStart with
    | none => .error ⟨s.cursor.place, .endOfText⟩ s
    | some start =>
      let scan := Lexer.readTemplatePiece start s.cursor
      let t := { s with
        cursor := scan.cursor, previousStart := s.cursor.place, previousStop := scan.cursor.place
        problems := scan.problems.reverse ++ s.problems }
      match scan.result with
      | .ok piece => .ok piece t
      | .error p => .error p t
  allowed s := by
    cases opened : s.templateStart with
    | none => exact id
    | some start =>
        dsimp only
        split
        · refine ⟨State.complained_of_append rfl, fun _ => .template ?_ rfl rfl rfl, fun _ => id⟩
          rw [opened]
          rfl
        · exact State.complained_of_append rfl

def openInterpolation : Parse Unit where
  run s :=
    let inner := s.cursor.advance 2
    if s.templateStart.isSome then
      .ok () { s with
        cursor := inner, previousStart := s.cursor.place, previousStop := inner.place }
    else .ok () s
  allowed s := by
    dsimp only
    split
    case isTrue opened => exact .of_leads (.template opened opened rfl rfl) rfl rfl
    case isFalse => exact .refl s

def record (p : Problem) : Parse Unit :=
  ⟨fun s => .ok () (s.complain p), fun s => .of_complained (s.complain_complained p)⟩

def recordPending : Parse Unit :=
  atCurrent
    (fun s slot =>
      match slot with
      | .failed p start stop _ => .ok () ((s.taken start stop).complain p)
      | _ => .ok () s)
    fun s => by
      cases s.current with
      | failed p start stop newline => exact .of_complained (State.complain_complained _ p)
      | unread => exact .refl s
      | token l => exact .refl s
      | ended => exact .refl s

def demandToken : Parse Unit :=
  atCurrent
    (fun s slot =>
      match slot with
      | .failed p start stop _ => .error p (s.taken start stop)
      | _ => .ok () s)
    fun s => by
      cases s.current with
      | failed p start stop newline => exact id
      | unread => exact .refl s
      | token l => exact .refl s
      | ended => exact .refl s

/-- Pass over the current token, also if the text is none, after a complaint. -/
def passOver : Parse Unit :=
  atCurrent
    (fun s slot =>
      match slot with
      | .token l => .ok () (s.taken l.start l.stop)
      | .failed p start stop _ =>
        let t := s.taken start stop
        .ok () (if s.problems.isEmpty then t.complain p else t)
      | _ => .ok () s)
    fun s => by
      cases here : s.current with
      | token l => exact .of_leads (.take here) rfl rfl
      | failed p start stop newline =>
          apply State.Follows.of_complained
          by_cases clean : s.problems.isEmpty
          · rw [if_pos clean]
            exact State.complain_complained _ p
          · rw [if_neg clean]
            exact fun none => clean (List.isEmpty_iff.mpr none)
      | unread => exact .refl s
      | ended => exact .refl s

def complain (at_ : Nat) (cause : Cause) : Parse Unit := do
  recordPending
  record ⟨at_, cause⟩

/-- What stands for a construct that cannot be read. The reaction to the complaint that ended it
gives the complaint that is made instead, or gives up as well. -/
def orComplain (p : Parse α) (reaction : Problem → Parse Problem) (placeholder : α) : Parse α where
  run s :=
    match p.run s with
    | .ok a t => .ok a t
    | .error e t =>
      match (reaction e).run t with
      | .ok c u => .ok placeholder (u.complainPending.complain c)
      | .error e u => .error e u
  allowed s := by
    have first := p.allowed s
    cases ran : p.run s with
    | ok a t =>
        rw [ran] at first
        exact first
    | error e t =>
        rw [ran] at first
        have second := (reaction e).allowed t
        dsimp only
        cases reacted : (reaction e).run t with
        | ok c u => exact .of_complained (State.complain_complained _ c)
        | error e u =>
            rw [reacted] at second
            exact second ∘ first

def andAlways (p : Parse α) (last : Parse Unit) : Parse α where
  run s :=
    match p.run s with
    | .ok a t =>
      match last.run t with
      | .ok _ u => .ok a u
      | .error e u => .error e u
    | .error e t =>
      match last.run t with
      | .ok _ u => .error e u
      | .error e u => .error e u
  allowed s := by
    have first := p.allowed s
    cases ran : p.run s with
    | ok a t =>
        rw [ran] at first
        have second := last.allowed t
        dsimp only
        cases ended : last.run t with
        | ok a u =>
            rw [ended] at second
            exact first.trans second
        | error e u =>
            rw [ended] at second
            exact second ∘ first.keeps
    | error e t =>
        rw [ran] at first
        have second := last.allowed t
        dsimp only
        cases ended : last.run t with
        | ok a u =>
            rw [ended] at second
            exact second.keeps ∘ first
        | error e u =>
            rw [ended] at second
            exact second ∘ first

/-- Parse something after a complaint. A further complaint that ends it is dropped. -/
def ignoring (p : Parse α) : Parse Unit where
  run s :=
    match p.run s with
    | .ok _ t => .ok () t
    | .error e t => if t.problems.isEmpty then .error e t else .ok () t
  allowed s := by
    have first := p.allowed s
    cases ran : p.run s with
    | ok a t =>
        rw [ran] at first
        exact first
    | error e t =>
        rw [ran] at first
        dsimp only
        by_cases clean : t.problems.isEmpty
        · rw [if_pos clean]
          exact first
        · rw [if_neg clean]
          exact .of_complained fun none => clean (List.isEmpty_iff.mpr none)

def token? : Parse (Option Token) := do
  match ← current with
  | .token l => return some l.token
  | _ => return none

def aheadToken? : Parse (Option Token) := do
  match ← ahead with
  | .token l => return some l.token
  | _ => return none

def afterNewline : Parse Bool := do
  match ← current with
  | .token l => return l.newline
  | .failed _ _ _ newline => return newline
  | _ => return false

def newlineAhead : Parse Bool := do
  match ← ahead with
  | .token l => return l.newline
  | .failed _ _ _ newline => return newline
  | _ => return false

def atEnd : Parse Bool := do
  match ← current with
  | .ended => return true
  | _ => return false

def place : Parse Nat := do
  match ← current with
  | .token l => return l.start
  | .failed _ start _ _ => return start
  | _ => return (← getState).previousStop

/-- The place for a complaint about the current token: that of the last token taken as long as the
current one is not read, and at the end. -/
def complaintPlace : Parse Nat := do
  let s ← getState
  match s.current with
  | .token l => return l.start
  | .failed _ start _ _ => return start
  | _ => return s.previousStart

def previousPlace : Parse Nat := return (← getState).previousStart

def previousStop : Parse Nat := return (← getState).previousStop

def complainStrict (at_ : Nat) (cause : Cause) : Parse Unit := do
  if ← inContext (·.isModule) then record ⟨at_, cause⟩

/-- Give up the construct. A text that is no token is the better reason. -/
def failAt (at_ : Nat) (cause : Cause) : Parse α := do
  demandToken
  raise ⟨at_, cause⟩

def fail (cause : Cause) : Parse α := do failAt (← complaintPlace) cause

def demand : Parse Token := do
  demandToken
  match ← token? with
  | some t => return t
  | none => raise ⟨← previousStop, .endOfText⟩

def currentText : Parse String := do
  match ← current with
  | .token l => return l.token.text
  | .failed _ _ _ _ => return "<lexing error>"
  | _ => return "<eof>"

def unexpected (wanted : String) : Parse α := do
  let got ← currentText
  fail (.unexpected got wanted)

def at? (t : Token) : Parse Bool := return (← token?) == some t

def atWord (name : String) : Parse Bool := at? (.word name)

def eat (t : Token) : Parse Bool := do
  if ← at? t then
    advance
    return true
  else return false

def eatIf (allowed : Bool) (t : Token) : Parse Bool := if allowed then eat t else return false

def eatWord (name : String) : Parse Bool := eat (.word name)

def expect (t : Token) : Parse Unit := do
  unless ← eat t do
    let got ← currentText
    fail (.expected ("'" ++ t.text ++ "'") got)

def expectWord (name : String) : Parse Unit := expect (.word name)

def atStatementEnd : Parse Bool := do
  match ← current with
  | .token l => return l.token == .semicolon || l.token == .closeBrace || l.newline
  | .failed _ _ _ newline => return newline
  | _ => return true

def eatStatementEnd : Parse Bool := do
  if ← at? .semicolon then
    advance
    return true
  else atStatementEnd

def expectStatementEnd : Parse Unit := do
  unless ← eatStatementEnd do
    let got ← currentText
    fail (.expected "';'" got)

def atIdent : Parse Bool := do
  match ← token? with
  | some (.word name) => return !(← getState).context.reserves name
  | _ => return false

end Enclose.Script.Parser
