import Enclose.Proofs.Diagnostic.Columns
import Enclose.Proofs.Script.Modules
import Mathlib.Data.List.Destutter

/-!
# What a report says

Reading a text comes with complaints after which it goes on, and may end with one. A text is rejected
if it comes with complaints both as a module and as a script, and the report is about the module
alone: it has all of its complaints, by their places, in the order of the parser where they are at
one place, and never twice in a row (`transform_syntaxErrors`).
-/

namespace Enclose

open Script

namespace Diagnostic

variable {d : Diagnostic} {ds : List Diagnostic}

def NotAfter (a b : Diagnostic) : Prop := a.line < b.line ∨ a.line = b.line ∧ a.column ≤ b.column

def Sorted (ds : List Diagnostic) : Prop := ds.Pairwise NotAfter

def isAt (line column : Nat) (d : Diagnostic) : Bool := d.line == line && d.column == column

def atPlace (ds : List Diagnostic) (line column : Nat) : List Diagnostic :=
  ds.filter (isAt line column)

theorem isAt_iff {line column : Nat} : isAt line column d = true ↔ d.line = line ∧ d.column = column := by
  rw [isAt, Bool.and_eq_true, beq_iff_eq, beq_iff_eq]

theorem placeLe_iff (a b : Diagnostic) : placeLe a b = true ↔ a.NotAfter b := by
  simp [placeLe, NotAfter]

theorem placeLe_trans (a b c : Diagnostic) (first : placeLe a b = true)
    (second : placeLe b c = true) : placeLe a c = true := by
  rw [placeLe_iff] at first second ⊢
  unfold NotAfter at *
  omega

theorem placeLe_total (a b : Diagnostic) : (placeLe a b || placeLe b a) = true := by
  rw [Bool.or_eq_true, placeLe_iff, placeLe_iff]
  unfold NotAfter
  omega

theorem sorted_iff : Sorted ds ↔ ds.Pairwise fun a b => placeLe a b = true := by
  simp only [Sorted, placeLe_iff]

theorem sorted_mergeSort (ds : List Diagnostic) : Sorted (ds.mergeSort placeLe) :=
  sorted_iff.2 (List.pairwise_mergeSort placeLe_trans placeLe_total ds)

theorem atPlace_mergeSort (ds : List Diagnostic) (line column : Nat) :
    atPlace (ds.mergeSort placeLe) line column = atPlace ds line column := by
  have ordered : (atPlace ds line column).Pairwise fun a b => placeLe a b = true := by
    refine List.pairwise_of_forall_mem_list fun a isA b isB => ?_
    have placeA := isAt_iff.1 (List.mem_filter.1 isA).2
    have placeB := isAt_iff.1 (List.mem_filter.1 isB).2
    rw [placeLe_iff, NotAfter]
    omega
  have within : (atPlace ds line column).Sublist (ds.mergeSort placeLe) :=
    List.sublist_mergeSort placeLe_trans placeLe_total ordered List.filter_sublist
  have kept := within.filter (isAt line column)
  rw [atPlace, List.filter_filter] at kept
  simp only [Bool.and_self] at kept
  have sameLength := ((List.mergeSort_perm ds placeLe).filter (isAt line column)).length_eq
  exact (kept.eq_of_length sameLength.symm).symm

theorem mergeAdjacent_eq (ds : List Diagnostic) :
    mergeAdjacent ds = ds.destutter (· ≠ ·) := by
  fun_induction mergeAdjacent ds with
  | case1 => rfl
  | case2 d => rfl
  | case3 d rest ih =>
      rw [ih, List.destutter_cons_cons, if_neg (not_not_intro rfl), List.destutter_cons']
  | case4 d e rest other ih =>
      rw [ih, List.destutter_cons_cons, if_pos other, List.destutter_cons']

theorem sorted_mergeAdjacent (sorted : Sorted ds) : Sorted (mergeAdjacent ds) := by
  rw [mergeAdjacent_eq]
  exact sorted.sublist (List.destutter_sublist _ _)

theorem sorted_arrange (ds : List Diagnostic) : Sorted (arrange ds) :=
  sorted_mergeAdjacent (sorted_mergeSort ds)

theorem isChain_arrange (ds : List Diagnostic) : (arrange ds).IsChain (· ≠ ·) := by
  rw [arrange, mergeAdjacent_eq]
  exact List.isChain_destutter _ _

theorem arrange_arrange (ds : List Diagnostic) : arrange (arrange ds) = arrange ds := by
  rw [arrange, List.mergeSort_of_pairwise (sorted_iff.1 (sorted_arrange ds)), mergeAdjacent_eq,
    List.destutter_of_isChain _ _ (isChain_arrange ds)]

theorem atPlace_eq_nil {e : Diagnostic} {rest : List Diagnostic} (sorted : Sorted (d :: e :: rest))
    (elsewhere : ¬isAt d.line d.column e = true) : atPlace (e :: rest) d.line d.column = [] := by
  obtain ⟨fromFirst, sorted⟩ := List.pairwise_cons.1 sorted
  obtain ⟨fromSecond, -⟩ := List.pairwise_cons.1 sorted
  have before := fromFirst e List.mem_cons_self
  rw [isAt_iff] at elsewhere
  refine List.filter_eq_nil_iff.2 fun later isLater same => ?_
  have place := isAt_iff.1 same
  rcases List.mem_cons.1 isLater with rfl | isRest
  · exact elsewhere place
  · have after := fromSecond later isRest
    unfold NotAfter at before after
    omega

theorem atPlace_mergeAdjacent (sorted : Sorted ds) (line column : Nat) :
    atPlace (mergeAdjacent ds) line column = mergeAdjacent (atPlace ds line column) := by
  fun_induction mergeAdjacent ds with
  | case1 => rfl
  | case2 d =>
      cases here : isAt line column d <;> simp [atPlace, here, mergeAdjacent]
  | case3 d rest ih =>
      rw [ih (List.pairwise_cons.1 sorted).2]
      cases here : isAt line column d <;> simp [atPlace, here, mergeAdjacent]
  | case4 d e rest other ih =>
      have later := ih (List.pairwise_cons.1 sorted).2
      cases here : isAt line column d with
      | false =>
          rw [atPlace, List.filter_cons_of_neg (by simp [here]), ← atPlace, later, atPlace, atPlace,
            List.filter_cons_of_neg (a := d) (by simp [here])]
      | true =>
          obtain ⟨rfl, rfl⟩ := isAt_iff.1 here
          rw [atPlace, List.filter_cons_of_pos here, ← atPlace, later]
          cases next : isAt d.line d.column e with
          | true => simp [atPlace, here, next, mergeAdjacent, other]
          | false =>
              -- The next diagnostic is further on, so `d` is the only one at its place.
              have none := atPlace_eq_nil sorted (by simp [next])
              rw [none, atPlace, List.filter_cons_of_pos here, ← atPlace, none, mergeAdjacent,
                mergeAdjacent]

theorem atPlace_arrange (ds : List Diagnostic) (line column : Nat) :
    atPlace (arrange ds) line column = (atPlace ds line column).destutter (· ≠ ·) := by
  rw [arrange, atPlace_mergeAdjacent (sorted_mergeSort ds), atPlace_mergeSort, mergeAdjacent_eq]

end Diagnostic

namespace Script

namespace Parser

structure Complaints where
  /-- The complaints after which reading went on, in the order in which they were made. -/
  recovered : List Problem
  fatal : Option Problem
  deriving Repr, DecidableEq

namespace Complaints

def all (c : Complaints) : List Problem := c.recovered ++ c.fatal.toList

def Clean (c : Complaints) : Prop := c.recovered = [] ∧ c.fatal = none

instance (c : Complaints) : Decidable c.Clean :=
  inferInstanceAs (Decidable (c.recovered = [] ∧ c.fatal = none))

theorem all_eq_nil_iff (c : Complaints) : c.all = [] ↔ c.Clean := by
  rw [all, List.append_eq_nil_iff, Option.toList_eq_nil_iff, Clean]

theorem mem_all {c : Complaints} {p : Problem} :
    p ∈ c.all ↔ p ∈ c.recovered ∨ c.fatal = some p := by
  rw [all, List.mem_append, Option.mem_toList]

end Complaints

def complaints {α : Type} (p : Grammar → Parse α) (context : Context) (text : List Char) :
    Complaints :=
  let cursor := match Lexer.readHashbang ⟨text, 0⟩ with
    | some (_, rest) => rest
    | none => ⟨text, 0⟩
  match (p (grammar (8 * (text.length + 4)))).run
      { cursor, context, limit := 8 * (text.length + 4) } with
  | .ok _ s => ⟨s.problems.reverse, none⟩
  | .error problem s => ⟨s.problems.reverse, some problem⟩

/-- An outcome tells all complaints, and it has a result unless one of them was fatal. -/
structure Outcome.Tells {α : Type} (o : Outcome α) (c : Complaints) : Prop where
  problems : o.problems = c.all
  value : o.value = none ↔ c.fatal ≠ none

theorem tells_run {α : Type} (p : Grammar → Parse α) (context : Context) (text : List Char) :
    (Parser.run p context text).Tells (complaints p context text) := by
  unfold Parser.run complaints
  cases hashbang : Lexer.readHashbang ⟨text, 0⟩ with
  | none =>
      simp only [hashbang]
      generalize (p _).run _ = result
      cases result <;> exact ⟨by simp [Complaints.all], by simp⟩
  | some first =>
      simp only [hashbang]
      generalize (p _).run _ = result
      cases result <;> exact ⟨by simp [Complaints.all], by simp⟩

variable {α : Type} {o : Outcome α} {c : Complaints}

theorem Outcome.Tells.clean? (tells : o.Tells c) (clean : c.Clean) :
    ∃ value, o.value = some value ∧ o.clean? = some value := by
  obtain ⟨value, has⟩ := Option.ne_none_iff_exists'.1 fun none => tells.value.1 none clean.2
  refine ⟨value, has, ?_⟩
  rw [Outcome.clean?, tells.problems, (c.all_eq_nil_iff).2 clean]
  exact has

theorem Outcome.Tells.clean?_eq_none (tells : o.Tells c) (complains : ¬c.Clean) :
    o.clean? = none := by
  rw [Outcome.clean?, tells.problems, if_neg]
  rwa [List.isEmpty_iff, c.all_eq_nil_iff]

end Parser

def Module.complaints (text : List Char) : Parser.Complaints :=
  Parser.complaints (fun g => Parser.items (Parser.moduleItem g) Parser.isStrictItem)
    Parser.moduleContext text

def ScriptText.complaints (text : List Char) : Parser.Complaints :=
  Parser.complaints (fun g => Parser.items (Parser.scriptItem g) Parser.isUseStrict) {} text

theorem Module.tells_parse (text : List Char) :
    (Module.parse text).Tells (Module.complaints text) := by
  have tells := Parser.tells_run
    (fun g => Parser.items (Parser.moduleItem g) Parser.isStrictItem) Parser.moduleContext text
  exact ⟨tells.problems, Option.map_eq_none_iff.trans tells.value⟩

theorem ScriptText.tells_parse (text : List Char) :
    (ScriptText.parse text).Tells (ScriptText.complaints text) := by
  have tells := Parser.tells_run
    (fun g => Parser.items (Parser.scriptItem g) Parser.isUseStrict) {} text
  exact ⟨tells.problems, Option.map_eq_none_iff.trans tells.value⟩

theorem Program.parse_eq (text : List Char) :
    (Module.complaints text).Clean ∧
        (∃ m, (Module.parse text).value = some m ∧ Program.parse text = .ok (.module m)) ∨
      ¬(Module.complaints text).Clean ∧ (ScriptText.complaints text).Clean ∧
        (∃ s, (ScriptText.parse text).value = some s ∧ Program.parse text = .ok (.script s)) ∨
      ¬(Module.complaints text).Clean ∧ ¬(ScriptText.complaints text).Clean ∧
        Program.parse text = .error (Module.complaints text).all := by
  unfold Program.parse
  dsimp only
  have asModule := Module.tells_parse text
  have asScript := ScriptText.tells_parse text
  by_cases cleanModule : (Module.complaints text).Clean
  · obtain ⟨m, value, clean⟩ := asModule.clean? cleanModule
    exact .inl ⟨cleanModule, m, value, by simp only [clean]⟩
  refine .inr ?_
  rw [asModule.clean?_eq_none cleanModule]
  by_cases cleanScript : (ScriptText.complaints text).Clean
  · obtain ⟨s, value, clean⟩ := asScript.clean? cleanScript
    exact .inl ⟨cleanModule, cleanScript, s, value, by simp only [clean]⟩
  · rw [asScript.clean?_eq_none cleanScript]
    exact .inr ⟨cleanModule, cleanScript, congrArg Except.error asModule.problems⟩

end Script

variable {text : List Char}

theorem readProgram_eq (shallow : Nesting.check text = .ok ()) :
    readProgram text = (Program.parse text).mapError fun problems =>
      .syntaxErrors (Diagnostic.arrange (problems.map (·.diagnostic text))) := by
  rw [readProgram, shallow]
  cases Program.parse text <;> rfl

def moduleDiagnostics (text : List Char) : List Diagnostic :=
  (Module.complaints text).all.map (·.diagnostic text)

theorem readProgram_eq_syntaxErrors_iff (shallow : Nesting.check text = .ok ())
    (ds : List Diagnostic) :
    readProgram text = .error (.syntaxErrors ds) ↔
      (¬(Module.complaints text).Clean ∧ ¬(ScriptText.complaints text).Clean) ∧
        ds = Diagnostic.arrange (moduleDiagnostics text) := by
  rw [readProgram_eq shallow]
  rcases Program.parse_eq text with
    ⟨clean, m, -, parsed⟩ | ⟨-, clean, s, -, parsed⟩ | ⟨asModule, asScript, parsed⟩
  · simp [parsed, Except.mapError, clean]
  · simp [parsed, Except.mapError, clean]
  · simp [parsed, Except.mapError, asModule, asScript, moduleDiagnostics, eq_comm]

/-- A text whose brackets are not nested too deep is rejected if there are complaints about it both
as a module and as a script. It is a module if there are none about that, and else a script. The
report has the complaints about the module, those that were recovered from and the fatal one, by
their places. At one place they are in the order of the parser, and no diagnostic follows itself. A
report that is arranged again stays as it is. -/
theorem transform_syntaxErrors (options : Options) (source : String)
    (shallow : Nesting.check source.toList = .ok ()) :
    let text := source.toList
    let asModule := Module.complaints text
    let asScript := ScriptText.complaints text
    ((∃ ds, transform options source = .error (.syntaxErrors ds)) ↔
      ¬asModule.Clean ∧ ¬asScript.Clean) ∧
    (asModule.Clean →
      ∃ m, (Module.parse text).value = some m ∧ readProgram text = .ok (.module m)) ∧
    (¬asModule.Clean → asScript.Clean →
      ∃ s, (ScriptText.parse text).value = some s ∧ readProgram text = .ok (.script s)) ∧
    (∀ ds, transform options source = .error (.syntaxErrors ds) →
      ds = Diagnostic.arrange (moduleDiagnostics text) ∧ ds ≠ [] ∧
      (∀ d, d ∈ ds ↔
        ∃ p, (p ∈ asModule.recovered ∨ asModule.fatal = some p) ∧ d = p.diagnostic text) ∧
      Diagnostic.Sorted ds ∧
      (∀ line column, Diagnostic.atPlace ds line column =
        (Diagnostic.atPlace (moduleDiagnostics text) line column).destutter (· ≠ ·)) ∧
      ds.IsChain (· ≠ ·)) ∧
    ∀ ds, Diagnostic.arrange (Diagnostic.arrange ds) = Diagnostic.arrange ds := by
  intro text asModule asScript
  have rejected (ds : List Diagnostic) : transform options source = .error (.syntaxErrors ds) ↔
      (¬asModule.Clean ∧ ¬asScript.Clean) ∧ ds = Diagnostic.arrange (moduleDiagnostics text) :=
    (transform_error_iff (by trivial)).trans (readProgram_eq_syntaxErrors_iff shallow ds)
  have read := readProgram_eq shallow
  refine ⟨?_, ?_, ?_, ?_, Diagnostic.arrange_arrange⟩
  · simp only [rejected, exists_and_left, exists_eq, and_true]
  · intro clean
    rcases Program.parse_eq text with ⟨-, m, value, parsed⟩ | ⟨complains, -⟩ | ⟨complains, -⟩
    · exact ⟨m, value, read.trans (by rw [parsed]; rfl)⟩
    · exact (complains clean).elim
    · exact (complains clean).elim
  · intro complains clean
    rcases Program.parse_eq text with
      ⟨cleanModule, -⟩ | ⟨-, -, s, value, parsed⟩ | ⟨-, complainsAgain, -⟩
    · exact (complains cleanModule).elim
    · exact ⟨s, value, read.trans (by rw [parsed]; rfl)⟩
    · exact (complainsAgain clean).elim
  · intro ds failed
    obtain ⟨⟨complains, -⟩, rfl⟩ := (rejected ds).1 failed
    have members (d : Diagnostic) : d ∈ Diagnostic.arrange (moduleDiagnostics text) ↔
        ∃ p, (p ∈ asModule.recovered ∨ asModule.fatal = some p) ∧ d = p.diagnostic text := by
      rw [mem_arrange, moduleDiagnostics, List.mem_map]
      simp only [Parser.Complaints.mem_all, eq_comm]
      rfl
    refine ⟨rfl, ?_, members, Diagnostic.sorted_arrange _, Diagnostic.atPlace_arrange _,
      Diagnostic.isChain_arrange _⟩
    obtain ⟨p, isProblem⟩ := List.exists_mem_of_ne_nil _ fun none =>
      complains ((Parser.Complaints.all_eq_nil_iff _).1 none)
    exact List.ne_nil_of_mem ((members _).2 ⟨p, Parser.Complaints.mem_all.1 isProblem, rfl⟩)

def octalsSource : String := "010 010 )"

theorem transform_syntaxErrors_of_octalsSource :
    (Module.complaints octalsSource.toList).recovered = [⟨0, .legacyOctal⟩, ⟨4, .legacyOctal⟩] ∧
    (Module.complaints octalsSource.toList).fatal = some ⟨4, .expectedSemicolonAfterExpr⟩ ∧
    ∃ ds, transform {} octalsSource = .error (.syntaxErrors ds) ∧
      Diagnostic.atPlace ds 1 5 =
        [⟨1, 5, "Legacy octal escape is not permitted in strict mode"⟩,
          ⟨1, 5, "Expected ';', '\x7d' or <eof>"⟩] := by
  have complaints : Module.complaints octalsSource.toList =
      ⟨[⟨0, .legacyOctal⟩, ⟨4, .legacyOctal⟩], some ⟨4, .expectedSemicolonAfterExpr⟩⟩ := by
    decide +kernel
  obtain ⟨rejected, -, -, reported, -⟩ := transform_syntaxErrors {} octalsSource (by decide +kernel)
  obtain ⟨ds, failed⟩ := rejected.2 ⟨by decide +kernel, by decide +kernel⟩
  obtain ⟨-, -, -, -, places, -⟩ := reported ds failed
  refine ⟨congrArg _ complaints, congrArg _ complaints, ds, failed, ?_⟩
  rw [places, moduleDiagnostics, complaints]
  decide +kernel

end Enclose
