import Enclose.Proofs.Script.Restricted
import Enclose.Proofs.Script.Words

/-!
# What parsers yield

In the code of a module, every result of a parser that has not complained has some property
(`Yields`). The properties of a parser follow from those of the parsers that it is made of.
-/

namespace Enclose.Script.Parser

variable {α β : Type} {p : Parse α} {f : α → Parse β} {P Q : α → Prop} {R : β → Prop}

structure State.IsSound (s : State) : Prop where
  spelled : s.IsSpelled
  inModule : s.InModule

theorem State.IsSound.follows {s t : State} (sound : s.IsSound) (follows : s.Follows t)
    (clean : t.problems = []) : t.IsSound :=
  ⟨sound.spelled.leads (follows.leads clean), follows.inModule clean sound.inModule⟩

/-- What holds of every result that a parser comes to without complaint in the code of a module. -/
def Yields (p : Parse α) (P : α → Prop) : Prop :=
  ∀ ⦃s a t⦄, s.IsSound → p.run s = .ok a t → t.problems = [] → P a

namespace Yields

theorem any : Yields p fun _ => True := fun _ _ _ _ _ _ => trivial

theorem mono (yields : Yields p P) (weaker : ∀ a, P a → Q a) : Yields p Q :=
  fun _ _ _ sound ran clean => weaker _ (yields sound ran clean)

theorem pure {a : α} (holds : P a) : Yields (pure a) P := by
  rintro _ _ _ - ⟨⟩ -
  exact holds

theorem bind (first : Yields p P) (next : ∀ a, P a → Yields (f a) R) : Yields (p >>= f) R := by
  intro s b u sound ran clean
  obtain ⟨a, t, ranFirst, ranNext⟩ := Parse.bind_ok_iff.1 ran
  have cleanFirst : t.problems = [] :=
    Classical.byContradiction fun complained => (Parse.follows ranNext).keeps complained clean
  exact next a (first sound ranFirst cleanFirst) (sound.follows (Parse.follows ranFirst) cleanFirst)
    ranNext clean

theorem step (next : ∀ a, Yields (f a) R) : Yields (p >>= f) R := any.bind fun a _ => next a

theorem never (complains : ∀ s, s.IsSound → Complains p s) : Yields p P :=
  fun s a t sound ran clean => absurd clean (complains s sound a t ran)

theorem first (never : Yields p fun _ => False) : Yields (p >>= f) R :=
  never.bind fun _ none => none.elim

theorem raise {problem : Problem} : Yields (raise problem) P := by
  rintro _ _ _ - ⟨⟩

theorem failAt {place : Nat} {cause : Cause} : Yields (failAt place cause : Parse α) P := step fun _ => raise

theorem fail {cause : Cause} : Yields (fail cause : Parse α) P := step fun _ => failAt

theorem unexpected {wanted : String} : Yields (unexpected wanted : Parse α) P := step fun _ => fail

theorem complain {place : Nat} {cause : Cause} {P : Unit → Prop} : Yields (complain place cause) P :=
  step fun _ => never fun s _ => by
    rintro _ _ ⟨⟩
    exact s.complain_complained _

theorem complainStrict {place : Nat} {cause : Cause} {P : Unit → Prop} :
    Yields (complainStrict place cause) P :=
  never fun _ sound => complainStrict_complains sound.inModule.1

theorem current : Yields current Slot.IsSpelled := by
  rintro s _ _ sound ⟨⟩ clean
  exact (sound.follows (State.Follows.loaded s) clean).spelled.current

theorem token? : Yields token? fun token => ∀ t ∈ token, t.IsSpelled := by
  refine current.bind fun slot spelled => ?_
  split
  case h_1 l =>
    refine pure ?_
    rintro _ ⟨⟩
    exact spelled l rfl
  case h_2 => exact pure nofun

theorem demand : Yields demand Token.IsSpelled := by
  refine step fun _ => token?.bind fun token spelled => ?_
  split
  case h_1 t => exact pure (spelled t rfl)
  case h_2 => exact step fun _ => raise

theorem getState : Yields getState State.InModule := by
  rintro _ _ _ sound ⟨⟩ -
  exact sound.inModule

theorem inContext {holds : Context → Bool} : Yields (inContext holds) fun b =>
    ∃ c : Context, c.isModule = true ∧ c.strict = true ∧ b = holds c :=
  getState.bind fun s inModule => pure ⟨s.context, inModule.1, inModule.2, rfl⟩

theorem ite {c : Prop} [Decidable c] {yes no : Parse α} (ifYes : c → Yields yes P)
    (ifNo : ¬ c → Yields no P) : Yields (if c then yes else no) P := by
  by_cases h : c
  · rw [if_pos h]
    exact ifYes h
  · rw [if_neg h]
    exact ifNo h

theorem iterate {step : α → Parse (α ⊕ β)} {start : α} (steps : ∀ a, P a → Yields (step a) (Sum.elim P R))
    (begins : P start) : Yields (iterate step start) R := by
  have go (fuel : Nat) (a : α) (holds : P a) : Yields (iterate.go step fuel a) R := by
    induction fuel generalizing a with
    | zero => exact raise
    | succ fuel ih =>
        refine (steps a holds).bind fun outcome given => ?_
        cases outcome with
        | inl next => exact ih next given
        | inr result => exact pure given
  exact Yields.step fun s => go s.limit start begins

theorem withContext {change : Context → Context}
    (stays : ∀ c : Context, c.isModule = true → c.strict = true →
      (change c).isModule = true ∧ (change c).strict = true)
    (inner : Yields p P) : Yields (withContext change p) P := by
  intro s a t sound ran clean
  cases inside : p.run { s with context := change s.context } with
  | ok b u =>
      simp only [Parser.withContext, within, inside] at ran
      cases ran
      have changed : State.IsSound { s with context := change s.context } :=
        ⟨⟨sound.spelled.current, sound.spelled.ahead⟩, stays s.context sound.inModule.1 sound.inModule.2⟩
      exact inner changed inside clean
  | error e u =>
      simp only [Parser.withContext, within, inside] at ran
      cases ran

theorem forIn {elements : List α} {check : α → Parse Unit}
    (checks : ∀ a ∈ elements, Yields (check a) fun _ => P a) :
    Yields (forIn elements PUnit.unit fun a _ => do
      check a
      return ForInStep.yield PUnit.unit) fun _ => ∀ a ∈ elements, P a := by
  induction elements with
  | nil => exact pure nofun
  | cons a others ih =>
      rw [List.forIn_cons]
      refine bind (P := fun outcome => outcome = .yield PUnit.unit ∧ P a) ?_ ?_
      · exact (checks a List.mem_cons_self).bind fun _ holds => pure ⟨rfl, holds⟩
      · rintro _ ⟨rfl, holds⟩
        refine (ih fun b member => checks b (.tail _ member)).mono fun _ all => ?_
        exact List.forall_mem_cons.2 ⟨holds, all⟩

end Yields

theorem run_yields {p : Grammar → Parse α} {context : Context}
    (inModule : context.isModule = true ∧ context.strict = true)
    (yields : ∀ depth, Yields (p (grammar depth)) P) {text : List Char}
    {result : Option String × α} (value : (run p context text).value = some result)
    (clean : (run p context text).problems = []) : P result.2 := by
  have sound (cursor : Lexer.Cursor) (limit : Nat) : State.IsSound { cursor, context, limit } :=
    ⟨⟨nofun, nofun⟩, inModule⟩
  unfold run at value clean
  dsimp only at value clean
  split at value
  case h_1 a t ran =>
    rw [ran] at clean
    cases value
    exact yields _ (sound _ _) ran (List.reverse_eq_nil_iff.1 clean)
  case h_2 => cases value

end Enclose.Script.Parser
