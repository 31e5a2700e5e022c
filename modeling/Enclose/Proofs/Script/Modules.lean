import Enclose.Proofs.Script.Clauses
import Enclose.Proofs.Script.Reading

/-!
# Modules in a sequence of tokens

A text that spells statements is read, without complaint, as a module of these statements
(`clean?_of_spells`).
-/

namespace Enclose.Script.Parser
open Lexer

variable {m : Bool} {c : Context} {ps rest : List Piece} {g : Grammar}

def StartsPlainly (ps : List Piece) : Prop :=
  ∀ word ∈ ["import", "export", "await"], next? ps ≠ some (.word word)

theorem phrase_moduleItem {s : Stmt} (starts : StartsPlainly ps)
    (one : Phrase m (g.statement true) Stmt.unplaced c ps s rest) :
    Phrase m (moduleItem g) ModuleItem.unplaced c ps (.stmt s) rest := by
  have no (word : String) (reserved : word ∈ ["import", "export", "await"]) {v : View}
      (here : v.pieces = ps) : Takes (atWord word) v (· = false) v :=
    Takes.at?_other (by rw [here]; exact starts word reserved)
  have noCall : Takes atImportCall ⟨ps, c, m⟩ (· = false) ⟨ps, c, m⟩ :=
    (no "import" (by decide) rfl).step (.pure rfl)
  have top : Takes (topStatement g) ⟨ps, c, m⟩ (fun s' : Stmt => s'.unplaced = s) ⟨rest, c, false⟩ :=
    (no "await" (by decide) rfl).step one.takes
  refine ⟨noCall.step ?_, one.shorter⟩
  refine (no "import" (by decide) rfl).step ((no "export" (by decide) rfl).step ?_)
  exact top.bind fun s' looks => .pure (by rw [ModuleItem.unplaced, looks])

theorem takes_items {α β : Type} {item : Parse α} {look : α → β} {isStrict : α → Bool}
    {fits : List Piece → β → Prop} {bs : List β}
    (plain : ∀ ps b, fits ps b → ∀ a, look a = b → isStrict a = false)
    (sequence : Sequence item look fits c [] ps bs) :
    Takes (items item isStrict) ⟨ps, c, false⟩ (·.map look = bs) ⟨[], c, false⟩ := by
  have loops (before : List α) : Loops (fun s : List α => do
      if ← atEnd then return .inr s.reverse
      else
        let a ← item
        if s.isEmpty && isStrict a then beStrict
        return .inl (a :: s)) before ⟨ps, c, false⟩
      (fun as : List α => as.map look = before.reverse.map look ++ bs) ⟨[], c, false⟩ := by
    induction sequence generalizing before with
    | done => exact .done (Takes.atEnd.step (.pure ⟨_, rfl, by simp⟩))
    | @next ps later b bs fits one _ ih =>
        refine .next (u := ⟨later, c, false⟩) (Takes.atEnd.step ?_) one.shorter
        rw [one.ne_nil]
        refine one.takes.bind fun a looks => ?_
        rw [plain ps b fits a looks, Bool.and_false]
        exact .pure ⟨_, rfl, by simpa [looks] using ih (a :: before)⟩
  exact .iterate (loops [])

def IsPlainItem (_ : List Piece) (item : ModuleItem) : Prop :=
  match item with
  | .stmt s => isUseStrict s = false
  | _ => True

def moduleContext : Context := { isModule := true, strict := true }

theorem run_of_ok {α : Type} {p : Grammar → Parse α} {context : Context} {text : List Char} {a : α}
    {t : State} (noHashbang : readHashbang ⟨text, 0⟩ = none)
    (ran : (p (grammar (8 * (text.length + 4)))).run (initial context text) = .ok a t)
    (clean : t.problems = []) : Parser.run p context text = ⟨some (none, a), []⟩ := by
  rw [initial] at ran
  simp [Parser.run, noHashbang, ran, clean]

theorem readHashbang_of_spells {text : List Char} (spells : Spells true text ps)
    (noHash : next? ps ≠ some .hash) : readHashbang ⟨text, 0⟩ = none := by
  unfold readHashbang
  split
  case h_1 rest here =>
    obtain rfl : text = '#' :: '!' :: rest := here
    let setting : Setting := ⟨true, true, fun _ => false⟩
    have read : (readNext setting true ⟨'#' :: '!' :: rest, 0⟩).result = .ok (some .hash) := by
      have starts : StartsSign '#' := by decide
      rw [(readNext_solid setting true 0 starts.2.1 (by decide) (refusal?_eq_none (by decide) _ _)).1,
        readToken_sign setting 0 starts rfl]
      rfl
    cases spells with
    | ended reads =>
        obtain ⟨start, ended, stop, reading⟩ := reads setting 0
        rw [reading] at read
        cases read
    | next reads =>
        obtain ⟨start, stop, reading⟩ := reads setting 0
        rw [reading] at read
        injection read with read
        exact absurd read noHash
  case h_2 => rfl

def isStrictItem : ModuleItem → Bool
  | .stmt s => isUseStrict s
  | _ => false

theorem clean?_of_spells {text : List Char} {items : List ModuleItem}
    (spells : Spells true text ps) (noHashbang : readHashbang ⟨text, 0⟩ = none)
    (sequence : Sequence (moduleItem (grammar (8 * (text.length + 4)))) ModuleItem.unplaced
      IsPlainItem moduleContext [] ps items) :
    ∃ m, (Module.parse text).clean? = some m ∧ m.items.map ModuleItem.unplaced = items := by
  have shown : (initial moduleContext text).Shows ⟨ps, moduleContext, false⟩ := by
    refine ⟨rfl, rfl, rfl, ?_, ⟨ps, ps, .unread ps, .unread ps, spells⟩, by simp [initial]⟩
    have := spells.length_le
    simp only [initial]
    omega
  have plain : ∀ ps b, IsPlainItem ps b → ∀ a : ModuleItem, a.unplaced = b →
      isStrictItem a = false := by
    rintro ps b fits a rfl
    cases a with
    | stmt s => exact (isUseStrict_unplaced s).symm.trans fits
    | _ => rfl
  obtain ⟨items', t, ran, looks, after⟩ := takes_items plain sequence _ shown
  have read := run_of_ok (p := fun g => Parser.items (moduleItem g) isStrictItem) noHashbang ran
    after.clean
  have parsed : Module.parse text = ⟨some ⟨none, items'⟩, []⟩ :=
    let whole (parts : Option String × List ModuleItem) : Module := ⟨parts.1, parts.2⟩
    congrArg (fun o : Outcome (Option String × List ModuleItem) =>
      Outcome.mk (o.value.map whole) o.problems) read
  exact ⟨_, by rw [parsed]; rfl, looks⟩

end Enclose.Script.Parser
