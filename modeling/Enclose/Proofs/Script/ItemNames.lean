import Enclose.Bundle.BoundNames
import Enclose.Proofs.Script.Groups
import Enclose.Proofs.Script.Yields

/-!
# The names in a module without complaints

A name that a module imports may be bound again in the code of a module, the exports of its own
variables are given by their names, and all of these names are words (`isNamed_of_clean?`).
-/

namespace Enclose.Script
open Enclose.Script.Parser Enclose.Bundle

def ModuleName.IsSpelled : ModuleName → Prop
  | .ident name => isWord name.toList
  | .string _ => True

def ImportSpecifier.IsNamed : ImportSpecifier → Prop
  | .default binding | .namespace binding => MayBind binding ∧ isWord binding.toList
  | .named (some imported) binding => imported.IsSpelled ∧ MayBind binding ∧ isWord binding.toList
  | .named none binding => IsUnreserved binding ∧ isWord binding.toList

def ExportSpecifier.IsOwn (s : ExportSpecifier) : Prop :=
  ∃ name exported, s = .named (.ident name) exported ∧ isWord name.toList

def Function.IsNamed : Function → Prop
  | .mk name _ _ _ _ => ∀ own ∈ name, isWord own.toList

def Class.IsNamed : Class → Prop
  | .mk name _ _ => ∀ own ∈ name, isWord own.toList

def ModuleItem.IsNamed : ModuleItem → Prop
  | .import _ specifiers _ => ∀ s ∈ specifiers, s.IsNamed
  | .exportDecl declaration => ∀ name ∈ declaredNames declaration, isWord name.toList
  | .exportNamed specifiers none => ∀ s ∈ specifiers, s.IsOwn
  | .exportFunction f => f.IsNamed
  | .exportClass c => c.IsNamed
  | _ => True

namespace Parser

theorem identifier_yields {yieldAllowed awaitAllowed : Bool} :
    Yields (identifier yieldAllowed awaitAllowed) fun name => IsName name ∧ isWord name.toList := by
  refine Yields.demand.bind fun token spelled => ?_
  split
  case h_1 name =>
    refine .step fun _ => .step fun start => .ite (fun _ => .first .complain) fun notEnum =>
      .ite (fun _ => .first .complainStrict) fun free => .ite (fun _ => ?await) fun notAwait =>
      .ite (fun yields => ?yield) fun notYield => .ite (fun _ => .failAt) fun notReserved =>
      .step fun inField => ?other
    case await =>
      refine Yields.inContext.bind ?_
      rintro _ ⟨c, inModule, -, rfl⟩
      exact .ite (fun _ => .failAt) fun notModule => absurd inModule (by simp_all)
    -- `yield` is among the words that are complained of before.
    case yield =>
      obtain rfl := beq_iff_eq.1 yields
      exact absurd (by decide) free
    case other =>
      have named : IsName name := by
        intro member
        simp only [List.mem_append, List.mem_singleton] at member
        rcases member with (reserved | complained) | rfl
        · rw [beq_iff_eq] at notEnum
          exact notReserved (by simpa [reserved] using notEnum)
        · exact free (List.contains_iff_mem.2 complained)
        · exact notAwait (by decide)
      exact .ite (fun _ => .first .complain) fun _ => .pure ⟨named, spelled⟩
  case h_2 => exact .fail

theorem boundIdentifier_yields :
    Yields boundIdentifier fun name => MayBind name ∧ isWord name.toList := by
  refine .step fun start => identifier_yields.bind fun name ⟨named, word⟩ =>
    .step fun s => .ite (fun _ => .first .complain) fun _ =>
    .ite (fun _ => .first .complainStrict) fun free => .pure ⟨⟨named, ?_⟩, word⟩
  simpa using free

theorem moduleName_yields : Yields moduleName ModuleName.IsSpelled := by
  refine .step fun _ => Yields.token?.bind fun token spelled => ?_
  split
  case h_1 => exact .step fun _ => .pure trivial
  case h_2 name => exact .step fun _ => .pure (spelled _ rfl)
  case h_3 => exact .unexpected

theorem importedBinding_yields :
    Yields importedBinding fun name => MayBind name ∧ isWord name.toList :=
  .withContext (fun _ inModule strict => ⟨inModule, strict⟩) boundIdentifier_yields

theorem importSpecifier_yields : Yields importSpecifier ImportSpecifier.IsNamed := by
  refine .step fun start => moduleName_yields.bind fun imported spelled => ?_
  split
  case h_1 name =>
    refine .step fun renamed => .ite (fun _ => ?_) fun _ => ?_
    · exact boundIdentifier_yields.bind fun binding ⟨bound, word⟩ => .pure ⟨spelled, bound, word⟩
    · refine Yields.getState.bind fun s ⟨inModule, strict⟩ => .ite (fun _ => .failAt) fun free => ?_
      exact .pure ⟨isUnreserved_of_reserves inModule strict (by simpa using free), spelled⟩
  case h_2 =>
    refine .step fun renamed => .ite (fun _ => ?_) fun _ => .failAt
    exact boundIdentifier_yields.bind fun binding ⟨bound, word⟩ => .pure ⟨trivial, bound, word⟩

theorem braced_yields {α : Type} {item : Parse α} {P : α → Prop} (yields : Yields item P) :
    Yields (braced item) fun items => ∀ a ∈ items, P a := by
  refine .iterate (P := fun items => ∀ a ∈ items, P a) (fun items known => ?_) nofun
  refine .step fun ended => .step fun closed => .ite (fun _ => ?_) fun _ => ?_
  · exact .step fun _ => .pure (by simpa using known)
  · refine yields.bind fun a holds => .step fun last => ?_
    have all : ∀ b ∈ a :: items, P b := List.forall_mem_cons.2 ⟨holds, known⟩
    exact .ite (fun _ => .pure all) fun _ => .step fun _ => .pure all

def ImportStart.IsNamed : ImportStart → Prop
  | .phase _ => True
  | .binding _ name => MayBind name ∧ isWord name.toList

theorem importStart_yields : Yields importStart ImportStart.IsNamed := by
  refine importedBinding_yields.bind fun name named => ?_
  split
  case h_1 => exact .pure named
  case h_2 phase _ =>
    refine .step fun star => .step fun brace => .ite (fun _ => .pure trivial) fun _ => ?_
    refine .step fun another => .ite (fun _ => ?_) fun _ => .pure named
    exact importedBinding_yields.bind fun name named => .pure named

theorem importList_yields {phase : ImportPhase} :
    Yields (importList phase) fun specifiers => ∀ s ∈ specifiers, s.IsNamed := by
  refine .step fun star => .ite (fun _ => ?_) fun _ => ?_
  · refine .step fun _ => importedBinding_yields.bind fun name named => .pure ?_
    exact List.forall_mem_singleton.2 named
  · exact .step fun brace => .ite (fun _ => braced_yields importSpecifier_yields) fun _ => .pure nofun

theorem importStarting_yields {named : Bool} {rest : ImportStart → Parse ModuleItem}
    (phase : ∀ p, Yields (rest (.phase p)) ModuleItem.IsNamed)
    (binding : ∀ p name, MayBind name ∧ isWord name.toList →
      Yields (rest (.binding p name)) ModuleItem.IsNamed) :
    Yields (if named then importStart >>= rest else pure (.phase .evaluation) >>= rest)
      ModuleItem.IsNamed := by
  have whole (start : ImportStart) (known : start.IsNamed) :
      Yields (rest start) ModuleItem.IsNamed := by
    cases start with
    | phase p => exact phase p
    | binding p name => exact binding p name known
  exact .ite (fun _ => importStart_yields.bind whole) fun _ => .bind (.pure trivial) whole

theorem importDeclaration_yields : Yields importDeclaration ModuleItem.IsNamed := by
  refine .step fun _ => .step fun token => ?_
  split
  case h_1 => exact .step fun _ => .step fun _ => .pure (List.forall_mem_nil _)
  case h_2 =>
    refine .step fun _ => importStarting_yields (fun p => ?_) fun p name named => ?_
    · exact importList_yields.bind fun specifiers known => .step fun _ => .pure known
    · refine .step fun found => ?_
      have others : Yields (importList p) fun specifiers => ∀ s ∈ specifiers, s.IsNamed :=
        importList_yields
      split
      · exact others.bind fun others known => .step fun _ =>
          .pure (List.forall_mem_cons.2 ⟨named, known⟩)
      · exact .step fun _ => others.bind fun others known => .step fun _ =>
          .pure (List.forall_mem_cons.2 ⟨named, known⟩)

def BindsWords (p : Pattern) : Prop := ∀ name ∈ boundNames p, isWord name.toList

theorem bindsWords_of_all {patterns : List Pattern} (all : ∀ p ∈ patterns, BindsWords p) :
    ∀ name ∈ boundNamesOf patterns, isWord name.toList := by
  induction patterns with
  | nil => nofun
  | cons p others ih =>
      rw [boundNamesOf, List.forall_mem_append]
      exact ⟨all p List.mem_cons_self, ih fun q member => all q (.tail _ member)⟩

section
variable {g : Grammar} (binding : Yields g.binding BindsWords)
include binding

theorem bindingElement_yields : Yields (bindingElement g) BindsWords := by
  refine Yields.bind binding fun inner words => .step fun defaulted => .ite (fun _ => ?_) fun _ => .pure words
  exact .step fun value => .pure words

theorem arrayPattern_yields : Yields (arrayPattern g) BindsWords := by
  refine .step fun _ => .iterate (P := fun s : ArrayPatternState => ∀ p ∈ s.elements, BindsWords p)
    (fun s known => ?_) nofun
  refine .step fun ended => .step fun closed => .ite (fun _ => ?closed) fun _ =>
    .step fun hole => .ite (fun _ => ?hole) fun _ => ?element
  case closed => exact .step fun _ => .pure (bindsWords_of_all (by simpa using known))
  case hole => exact .pure (List.forall_mem_cons.2 ⟨nofun, known⟩)
  case element =>
    -- The end of an element is the same with `...` before it and without.
    have ends (start : Nat) (isRest : Bool) (element : Pattern) (words : BindsWords element) :
        Yields (do
          unless ← at? .closeBracket do
            expect .comma
            if isRest && (← at? .closeBracket) then complain (← previousPlace) .commaAfterRest
          return .inl ⟨element :: s.elements, if isRest then some start else s.rest⟩ :
            Parse (ArrayPatternState ⊕ Pattern))
          (Sum.elim (fun s => ∀ p ∈ s.elements, BindsWords p) BindsWords) := by
      have all := List.forall_mem_cons.2 ⟨words, known⟩
      refine .step fun last => .ite (fun _ => .pure all) fun _ => .step fun _ => .step fun last => ?_
      exact .ite (fun _ => .step fun _ => .first .complain) fun _ => .pure all
    split
    case h_1 => exact .first .complain
    case h_2 =>
      refine .step fun start => .step fun isRest => .ite (fun _ => ?_) fun _ => ?_
      · exact Yields.bind binding fun inner words => .bind (.pure words) (ends start isRest)
      · exact (bindingElement_yields binding).bind (ends start isRest)

theorem propertyPattern_yields : Yields (propertyPattern g) BindsWords := by
  refine .step fun rest => .ite (fun _ => ?_) fun _ => ?_
  · exact Yields.bind binding fun inner words => .pure words
  have key : Yields (propertyKey g) fun key => ∀ name, key = .ident name → isWord name.toList := by
    refine Yields.demand.bind fun token spelled => ?_
    split
    case h_4 =>
      refine .step fun _ => .pure ?_
      rintro _ ⟨⟩
      exact spelled
    case h_5 => exact .step fun _ => .step fun _ => .step fun _ => .pure nofun
    case h_6 => exact .unexpected
    all_goals exact .step fun _ => .pure nofun
  refine .step fun start => key.bind fun key spelled => .step fun colon => .ite (fun _ => ?_) fun _ => ?_
  · exact (bindingElement_yields binding).bind fun inner words => .pure words
  split
  case h_1 name =>
    have word : ∀ bound ∈ [name], isWord bound.toList := List.forall_mem_singleton.2 (spelled name rfl)
    refine .step fun defaulted => .ite (fun _ => .step fun value => .pure word) fun _ => ?_
    exact .step fun s => .ite (fun _ => .first .complain) fun _ => .pure word
  case h_2 => exact .unexpected

theorem objectPattern_yields : Yields (objectPattern g) BindsWords := by
  refine .step fun _ => .iterate
    (P := fun s : ObjectPatternState => ∀ p ∈ s.properties.map Prod.snd, BindsWords p)
    (fun s known => ?_) nofun
  refine .step fun closed => .ite (fun _ => ?closed) fun _ => ?property
  case closed => 
    refine .step fun _ => .pure (bindsWords_of_all ?_)
    simpa using known
  case property =>
    refine .step fun start => (propertyPattern_yields binding).bind fun property words => ?_
    have all : ∀ p ∈ ((start, property) :: s.properties).map Prod.snd, BindsWords p :=
      List.forall_mem_cons.2 ⟨words, known⟩
    refine .step fun last => .ite (fun _ => .pure all) fun _ => .step fun _ => .step fun last => ?_
    exact .ite (fun _ => .step fun comma => .pure all) fun _ => .pure all

theorem bindingTarget_yields : Yields (bindingTarget g) BindsWords := by
  refine .step fun token => ?_
  split
  case h_1 =>
    refine boundIdentifier_yields.bind fun name ⟨_, word⟩ => .pure ?_
    exact List.forall_mem_singleton.2 word
  case h_2 => exact arrayPattern_yields binding
  case h_3 => exact objectPattern_yields binding
  case h_4 => exact .unexpected

end

theorem grammar_binding_yields (depth : Nat) : Yields (grammar depth).binding BindsWords := by
  induction depth with
  | zero => exact .raise
  | succ depth ih => exact bindingTarget_yields ih

section
variable {g : Grammar}

theorem declarator_yields (binding : Yields g.binding BindsWords) {kind : VarKind} {inHead : Bool} :
    Yields (declarator g kind inHead) BindsWords := by
  refine .step fun start => (bindingTarget_yields binding).bind fun target words => .step fun head => ?_
  refine .ite (fun _ => .pure words) fun _ => .step fun defaulted => .ite (fun _ => ?_) fun _ => ?_
  · exact .step fun value => .pure words
  · refine .step fun strict => .ite (fun _ => .first .complain) fun _ => ?_
    split
    case h_1 => exact .pure words
    case h_2 => exact .first .complain

theorem varStatement_yields (binding : Yields g.binding BindsWords) {kind : VarKind} :
    Yields (varStatement g kind) fun s => ∀ name ∈ declaredNames s, isWord name.toList := by
  have all (stop : Option Nat) : Yields (declarators g kind false stop)
      fun ds => ∀ p ∈ ds.map Prod.snd, BindsWords p := by
    refine .iterate (P := fun ds => ∀ p ∈ ds.map Prod.snd, BindsWords p) (fun ds known => ?_) nofun
    refine .step fun ended => .step fun closed => .ite (fun _ => ?_) fun _ => ?_
    · split
      · exact .step fun place => .first .complain
      · exact .step fun place => .first .complain
    · refine .step fun start => .bind (.withContext (fun _ inModule strict => ⟨inModule, strict⟩)
        (declarator_yields binding)) fun d words => .step fun comma => ?_
      have longer : ∀ p ∈ ((start, d) :: ds).map Prod.snd, BindsWords p :=
        List.forall_mem_cons.2 ⟨words, known⟩
      exact .ite (fun _ => .pure longer) fun _ => .pure fun p member => longer p (by simpa [or_comm] using member)
  refine .step fun _ => .step fun stop => (all _).bind fun ds words => .step fun _ => .pure ?_
  exact bindsWords_of_all words

theorem functionFromWord_yields {isAsync isExpr nameRequired : Bool} :
    Yields (functionFromWord g isAsync isExpr nameRequired) Function.IsNamed := by
  have named : Yields (functionAfterWord g isAsync isExpr nameRequired) Function.IsNamed := by
    refine .step fun isGenerator => .bind (P := fun name => ∀ own ∈ name, isWord own.toList) ?_ ?_
    · refine .withContext (fun c inModule strict => ?_) (.step fun ident => .ite (fun _ => ?_) fun _ => ?_)
      · cases isExpr <;> exact ⟨inModule, strict⟩
      · exact boundIdentifier_yields.bind fun name ⟨_, word⟩ => .pure (by simpa using word)
      · exact .pure nofun
    · intro name words
      refine .withContext (fun _ inModule strict => ⟨inModule, strict⟩) (.step fun parts => .pure words)
  exact .ite (fun _ => .step fun _ => .step fun _ => named) fun _ => .step fun _ => named

theorem classFromWord_yields {heritage : Parse Expr} {nameRequired : Bool} :
    Yields (classFromWord g heritage nameRequired) Class.IsNamed := by
  refine .withContext (fun _ inModule _ => ⟨inModule, rfl⟩) (.step fun _ => .step fun ident => ?_)
  -- What follows the name, whether there is one or not.
  have rest (name : Option String) (words : ∀ own ∈ name, isWord own.toList) : Yields (do
      let parent ← if ← eatWord "extends" then pure (some (← heritage)) else pure none
      if ← eatWord "extends" then
        complain (← previousPlace) .extendsTwice
        let _ ← heritage
      expect .openBrace
      let members ← classMembers g
      if ← atEnd then complain (← complaintPlace) (.expected "'\x7d'" "<eof>")
      else expect .closeBrace
      return Class.mk name parent members) Class.IsNamed := by
    refine .step fun extended =>
      .ite (fun _ => .step fun parent => .step fun _ => ?_) fun _ => .step fun _ => ?_
    all_goals
      refine .step fun again => .ite (fun _ => .step fun place => .first .complain) fun _ => ?_
      refine .step fun _ => .step fun members => .step fun ended => .ite (fun _ => ?_) fun _ => ?_
      · exact .step fun place => .first .complain
      · exact .step fun _ => .pure words
  refine .ite (fun _ => ?_) fun _ => .bind (.pure nofun) rest
  exact boundIdentifier_yields.bind fun name ⟨_, word⟩ => .bind (.pure (by simpa using word)) rest

theorem exportSpecifier_yields : Yields exportSpecifier fun (_, s) =>
    ∃ original exported, s = .named original exported ∧ original.IsSpelled := by
  refine .step fun start => moduleName_yields.bind fun original spelled => .step fun renamed => ?_
  refine .ite (fun _ => .step fun exported => ?_) fun _ => ?_
  · exact .pure ⟨original, some exported, rfl, spelled⟩
  · exact .pure ⟨original, none, rfl, spelled⟩

theorem exportList_yields : Yields exportList ModuleItem.IsNamed := by
  refine .step fun _ => (braced_yields exportSpecifier_yields).bind fun specifiers spelled => ?_
  refine .step fun foreign => .ite (fun _ => .step fun source => .pure trivial) fun _ => ?_
  refine .bind (.forIn (P := fun a : Nat × ExportSpecifier => a.2.IsOwn) ?checks) ?own
  case checks =>
    rintro ⟨start, s⟩ member
    obtain ⟨original, exported, rfl, spelled⟩ := spelled _ member
    cases original with
    | ident name => exact .mono .any fun _ _ => ⟨name, exported, rfl, spelled⟩
    | string => exact .complain
  case own =>
    intro _ own
    refine .step fun _ => .pure fun s member => ?_
    obtain ⟨a, inside, rfl⟩ := List.mem_map.1 member
    exact own a inside

theorem exportDefault_yields : Yields (exportDefault g) ModuleItem.IsNamed := by
  refine .step fun isClass => .ite (fun _ => classFromWord_yields.bind fun c named => .pure named) fun _ => ?_
  refine .step fun isAsync => .ite (fun _ => functionFromWord_yields.bind fun f named => .pure named) fun _ => ?_
  refine .step fun isFunction => .ite (fun _ => functionFromWord_yields.bind fun f named => .pure named) fun _ => ?_
  exact .step fun value => .step fun _ => .pure trivial

theorem exportDeclaration_yields (binding : Yields g.binding BindsWords) :
    Yields (exportDeclaration g) ModuleItem.IsNamed := by
  have declared (kind : VarKind) : Yields (do return .exportDecl (← varStatement g kind)) ModuleItem.IsNamed :=
    (varStatement_yields binding).bind fun s words => .pure words
  have function (isAsync : Bool) : Yields (do
      return .exportDecl (.function (← functionFromWord g isAsync false true))) ModuleItem.IsNamed := by
    refine functionFromWord_yields.bind fun f named => .pure ?_
    rcases f with ⟨_ | name, _, _, _, _⟩
    · nofun
    · exact List.forall_mem_singleton.2 (named name rfl)
  have aClass : Yields (do
      return .exportDecl (.class (← classFromWord g (leftSide g) true))) ModuleItem.IsNamed := by
    refine classFromWord_yields.bind fun c named => .pure ?_
    rcases c with ⟨_ | name, _, _⟩
    · nofun
    · exact List.forall_mem_singleton.2 (named name rfl)
  refine .step fun _ => .step fun token => ?_
  split
  case h_1 => 
    refine .step fun _ => .step fun renamed => .ite (fun _ => ?_) fun _ => ?_
    · exact .step fun name => .step fun source => .pure trivial
    · exact .step fun source => .pure trivial
  case h_2 => exact .step fun _ => exportDefault_yields
  case h_3 => exact aClass
  case h_4 => exact function false
  case h_5 => exact declared .var
  case h_6 => exact declared .const
  case h_7 => exact .step fun declares => .ite (fun _ => declared .«let») fun _ => exportList_yields
  case h_8 => exact .step fun isAsync => .ite (fun _ => function true) fun _ => exportList_yields

theorem moduleItem_yields (binding : Yields g.binding BindsWords) :
    Yields (moduleItem g) ModuleItem.IsNamed := by
  refine .step fun called => .ite (fun _ => .step fun s => .pure trivial) fun _ => ?_
  refine .step fun imports => .ite (fun _ => importDeclaration_yields) fun _ => ?_
  refine .step fun exports => .ite (fun _ => exportDeclaration_yields binding) fun _ => ?_
  exact .step fun s => .pure trivial

theorem items_yields {α : Type} {item : Parse α} {isStrict : α → Bool} {P : α → Prop}
    (yields : Yields item P) : Yields (items item isStrict) fun as => ∀ a ∈ as, P a := by
  refine .iterate (P := fun as => ∀ a ∈ as, P a) (fun as known => ?_) nofun
  refine .step fun ended => .ite (fun _ => .pure (by simpa using known)) fun _ => ?_
  refine yields.bind fun a holds => ?_
  have all : ∀ b ∈ a :: as, P b := List.forall_mem_cons.2 ⟨holds, known⟩
  exact .ite (fun _ => .step fun _ => .pure all) fun _ => .pure all

end

end Parser

theorem isNamed_of_clean? {text : List Char} {m : Module}
    (clean : (Module.parse text).clean? = some m) : ∀ item ∈ m.items, item.IsNamed := by
  unfold Outcome.clean? at clean
  split at clean
  case isFalse => cases clean
  case isTrue none =>
    obtain ⟨result, value, rfl⟩ := Option.map_eq_some_iff.1 clean
    exact run_yields ⟨rfl, rfl⟩ (fun depth => items_yields (moduleItem_yields (grammar_binding_yields depth)))
      value (List.isEmpty_iff.1 none)

end Enclose.Script
