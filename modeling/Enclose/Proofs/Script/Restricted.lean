import Enclose.Proofs.Script.Run

/-!
# Variables that strict code may not bind

A module that starts with the declaration of a variable `eval` or `arguments` is not read without
complaint, whatever follows (`clean?_of_restricted`).
-/

namespace Enclose.Script.Parser
open Lexer

variable {α β : Type}

def Complains (p : Parse α) (s : State) : Prop := ∀ a t, p.run s = .ok a t → t.Complained

theorem Complains.first {p : Parse α} {s : State} (complains : Complains p s) (f : α → Parse β) :
    Complains (p >>= f) s := by
  intro b u h
  obtain ⟨a, t, ran, h⟩ := Parse.bind_ok_iff.1 h
  exact (Parse.follows h).keeps (complains a t ran)

theorem Complains.next {p : Parse α} {s t : State} {a : α} (ran : p.run s = .ok a t)
    {f : α → Parse β} (complains : Complains (f a) t) : Complains (p >>= f) s := by
  intro b u h
  obtain ⟨a', t', ran', h⟩ := Parse.bind_ok_iff.1 h
  cases ran.symm.trans ran'
  exact complains b u h

theorem Complains.iterate {step : α → Parse (α ⊕ β)} {start : α} {s : State}
    (complains : Complains (step start) s) : Complains (Parser.iterate step start) s := by
  change Complains (iterate.go step s.limit start) s
  cases s.limit with
  | zero => rintro _ _ ⟨⟩
  | succ fuel => exact complains.first _

theorem Complains.withContext {change : Context → Context} {p : Parse α} {s : State}
    (complains : Complains p { s with context := change s.context }) :
    Complains (Parser.withContext change p) s := by
  intro a t h
  cases ran : p.run { s with context := change s.context } with
  | ok b u =>
      simp only [Parser.withContext, within, ran] at h
      cases h
      exact complains a u ran
  | error e u =>
      simp only [Parser.withContext, within, ran] at h
      cases h

variable {s : State} {l : Lexeme}

def IsRestricted (name : String) : Prop := name = "eval" ∨ name = "arguments"

theorem identifier_run {name : String} (restricted : IsRestricted name)
    (here : s.current = .token l) (word : l.token = .word name)
    (outside : s.context.inField = false) :
    (identifier true true).run s = .ok name (s.taken l.start l.stop) := by
  have outside' : (s.taken l.start l.stop).context.inField = false := outside
  rcases restricted with rfl | rfl <;>
    simp [identifier, demand_run here, word, advance_run here, complainedWords, strictReserved,
      alwaysReserved, outside']

theorem complainStrict_complains {start : Nat} {cause : Cause} (strict : s.context.isModule = true) :
    Complains (complainStrict start cause) s := by
  intro _ t h
  simp only [complainStrict, Parse.run_bind, inContext_run, strict, if_true, record] at h
  cases h
  exact s.complain_complained _

theorem boundIdentifier_complains {name : String} (restricted : IsRestricted name)
    (here : s.current = .token l) (word : l.token = .word name)
    (strict : s.context.isModule = true) (outside : s.context.inField = false) :
    Complains boundIdentifier s := by
  have noAwait : (name == "await") = false ∧ (name == "yield") = false ∧
      (name == "eval" || name == "arguments") = true := by
    rcases restricted with rfl | rfl <;> decide
  have strict' : (s.taken l.start l.stop).context.isModule = true := strict
  refine .next (place_run here) (.next (identifier_run restricted here word outside)
    (.next (getState_run _) ?_))
  simp only [noAwait, Bool.and_false, Bool.or_self]
  exact .first (complainStrict_complains strict') _

theorem declarator_complains {name : String} (restricted : IsRestricted name)
    (here : s.current = .token l) (word : l.token = .word name)
    (strict : s.context.isModule = true) (outside : s.context.inField = false) (g : Grammar)
    (kind : VarKind) (inHead : Bool) : Complains (declarator g kind inHead) s := by
  refine .next (place_run here) (.first (.next (demand_run here) ?_) _)
  rw [word]
  exact .first (boundIdentifier_complains restricted here word strict outside) _

theorem declarators_complains {name : String} (restricted : IsRestricted name)
    (here : s.loaded.current = .token l) (word : l.token = .word name)
    (strict : s.loaded.context.isModule = true) (outside : s.loaded.context.inField = false)
    (g : Grammar) (kind : VarKind) (inHead : Bool) (wordStop : Option Nat) :
    Complains (declarators g kind inHead wordStop) s := by
  refine .iterate (.next (atEnd_run here) (.next (at?_run here _) ?_))
  rw [word]
  refine .next (place_run here) (.first (.withContext ?_) _)
  refine declarator_complains restricted ?_ word ?_ ?_ g kind inHead
  · exact here
  · exact strict
  · exact outside

theorem varStatement_complains {name : String} (restricted : IsRestricted name)
    (here : s.current = .token l) {next : Lexeme}
    (ahead : (s.taken l.start l.stop).loaded.current = .token next)
    (word : next.token = .word name)
    (strict : (s.taken l.start l.stop).loaded.context.isModule = true)
    (outside : (s.taken l.start l.stop).loaded.context.inField = false) (g : Grammar)
    (kind : VarKind) : Complains (varStatement g kind) s := by
  refine .next (advance_run here) (.next rfl (.first ?_ _))
  exact declarators_complains restricted ahead word strict outside g kind false _

theorem statementOrDecl_complains {includeDecl : Bool} {g : Grammar} (here : s.current = .token l)
    (word : l.token = .word "var") (complains : Complains (varStatement g .var) s) :
    Complains (statementOrDecl g includeDecl) s := by
  refine .next (token?_run here) ?_
  rw [word]
  refine .next (demand_run here) ?_
  rw [word]
  exact complains

theorem moduleItem_complains {g : Grammar} (here : s.current = .token l)
    (word : l.token = .word "var") (complains : Complains (g.statement true) s) :
    Complains (moduleItem g) s := by
  have noWord (name : String) (ne : name ≠ "var") : (atWord name).run s = .ok false s := by
    have differs : (some l.token == some (.word name)) = false := by
      rw [beq_eq_false_iff_ne, word]
      rintro ⟨⟩
      exact ne rfl
    rw [atWord, at?_run here, differs]
  have noCall : atImportCall.run s = .ok false s := by
    simp [atImportCall, noWord "import" (by decide)]
  refine .next noCall (.next (noWord "import" (by decide)) (.next (noWord "export" (by decide)) ?_))
  refine .first (.next (noWord "await" (by decide)) ?_) _
  exact complains

theorem restricted_isWord {name : String} (restricted : IsRestricted name) :
    isWord name.toList = true := by
  rcases restricted with rfl | rfl <;> decide

theorem clean?_of_restricted {name : String} (restricted : IsRestricted name) {rest : List Char}
    (ends : EndsWord rest) :
    (Module.parse (['v', 'a', 'r'] ++ ' ' :: (name.toList ++ rest))).clean? = none := by
  have nameWord := restricted_isWord restricted
  apply clean?_eq_none
  apply run_problems_ne_nil rfl
  generalize start : initial _ _ = s
  -- The first token is `var`, and the second the name.
  obtain ⟨l, problems, word, load⟩ := loaded_of_read (s := s) (by rw [← start]; rfl)
    (by rw [← start]; rfl) (by rw [← start]; rfl) fun setting newline => by
      rw [← start]
      exact readNext_word setting newline 0 rfl (endsWord_cons _ (by decide))
  obtain ⟨next, _, named, loadNext⟩ := loaded_of_read (s := s.loaded.taken l.start l.stop) rfl
    (by rw [load, ← start]; rfl) (by rw [load, ← start]; rfl) fun setting newline => by
      obtain ⟨result, cursor⟩ :=
        readNext_blank setting newline 3 (c := ' ') rfl (name.toList ++ rest)
      rw [load]
      change (readNext setting newline ⟨' ' :: (name.toList ++ rest), 3⟩).result = _ ∧
        (readNext setting newline ⟨' ' :: (name.toList ++ rest), 3⟩).cursor = _
      rw [result, cursor]
      exact readNext_word setting _ 4 nameWord ends
  rw [String.ofList_toList] at named
  have here : s.loaded.current = .token l := by rw [load]
  have statement (g : Grammar) : Complains (statementOrDecl g true) s.loaded := by
    refine statementOrDecl_complains here word
      (varStatement_complains restricted here ?_ named ?_ ?_ g .var)
    · rw [loadNext]
    · rw [loadNext, load, ← start]
      rfl
    · rw [loadNext, load, ← start]
      rfl
  have item (depth : Nat) : Complains (moduleItem (grammar depth)) s.loaded := by
    refine moduleItem_complains here word ?_
    cases depth with
    | zero => rintro _ _ ⟨⟩
    | succ depth => exact statement (grammar depth)
  exact Complains.iterate (.next (atEnd_run here) (.first (item _) _))

end Enclose.Script.Parser
