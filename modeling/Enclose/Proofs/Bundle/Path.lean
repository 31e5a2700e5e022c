import Enclose.Bundle.Wrapper
import Enclose.Proofs.Script.Restricted

/-!
# Names of a path that are no words

A name may hold letters that no word of program text holds, and strict code may not bind every
word. The text in front of the call is then no module (`clean?_text`), so with a valid global name
only a path of words of which the first may be bound receives the call (`isPlainPath_of_wrapper`).
-/

namespace Enclose.Bundle
open Script Script.Parser Script.Lexer

theorem hasGap_equals {rest : List Char} (gap : HasGap rest) :
    HasGap (' ' :: '=' :: ' ' :: rest) := by
  have space : HasGap (' ' :: rest) := .blank (by decide) gap
  have sign : HasGap ('=' :: ' ' :: rest) :=
    .sign (by decide) (fun newline => by cases newline <;> rfl) rfl ⟨rfl, Token.noConfusion⟩ space
  exact .blank (by decide) sign

theorem hasGap_orNewObject {rest : List Char} (gap : HasGap rest) :
    HasGap (' ' :: '|' :: '|' :: ' ' :: '{' :: '}' :: ';' :: '\n' :: rest) := by
  have line : HasGap ('\n' :: rest) := .blank (by decide) gap
  have semicolon : HasGap (';' :: '\n' :: rest) := .mark (by decide) line
  have closing : HasGap ('}' :: ';' :: '\n' :: rest) := .mark (by decide) semicolon
  have opening : HasGap ('{' :: '}' :: ';' :: '\n' :: rest) := .mark (by decide) closing
  have space : HasGap (' ' :: '{' :: '}' :: ';' :: '\n' :: rest) := .blank (by decide) opening
  have bars : HasGap ('|' :: '|' :: ' ' :: '{' :: '}' :: ';' :: '\n' :: rest) :=
    .sign (by decide) (fun newline => by cases newline <;> rfl) rfl ⟨rfl, Token.noConfusion⟩ space
  exact .blank (by decide) bars

def Passes (text : List Char) : Prop :=
  ∀ rest, EndsWord rest → HasGap rest → HasGap (text ++ rest)

theorem isForeign_of_startsName {c : Char} (named : Identifier.startsName c) : IsForeign c := by
  cases start : isWordStart c with
  | true => exact .inr start
  | false => exact .inl (isStray_of_startsName named start).large

theorem hasGap_member {part rest : List Char} (named : Identifier.isIdentifier part)
    (gap : HasGap (part ++ rest)) : HasGap ('.' :: (part ++ rest)) := by
  cases part with
  | nil => contradiction
  | cons c others =>
      simp only [Identifier.isIdentifier, Bool.and_eq_true] at named
      exact HasGap.dot (isForeign_of_startsName named.1.1) gap

theorem passes_word {w : List Char} (word : isWord w) : Passes w :=
  fun _ ends gap => gap.word word ends

theorem passes_member {path part : List Char} (passes : Passes path)
    (named : Identifier.isIdentifier part) (word : isWord part) : Passes (path ++ '.' :: part) := by
  intro rest ends gap
  rw [List.append_assoc]
  exact passes _ (endsWord_cons _ (by decide)) (hasGap_member named (gap.word word ends))

theorem opening_append (target path : String) (parts : List String) :
    ∃ tail, (Template.head.opening target path parts).toList = target.toList ++ ' ' :: tail := by
  have sign : " = ".toList = ' ' :: ['=', ' '] := by decide
  cases parts with
  | nil => exact ⟨['=', ' '], by rw [Template.head.opening, String.toList_append, sign]⟩
  | cons part rest =>
      simp only [Template.head.opening, String.toList_append, List.append_assoc, sign,
        List.cons_append]
      exact ⟨_, rfl⟩

theorem hasGap_opening {target path : String} {parts : List String}
    (passesTarget : Passes target.toList) (passesPath : Passes path.toList)
    (named : ∀ part ∈ parts, Identifier.isIdentifier part.toList)
    (noWord : ∃ part ∈ parts, isWord part.toList = false) (after : List Char) :
    HasGap ((Template.head.opening target path parts).toList ++ after) := by
  induction parts generalizing target path with
  | nil => simp at noWord
  | cons part rest ih =>
      have namedPart := named part List.mem_cons_self
      have next : HasGap
          ((Template.head.opening (path ++ "." ++ part) (path ++ "." ++ part) rest).toList ++ after) := by
        -- The gap is in the first part that is no word; the texts before it are read.
        cases word : isWord part.toList with
        | false =>
            obtain ⟨tail, eq⟩ := opening_append (path ++ "." ++ part) (path ++ "." ++ part) rest
            have gap := hasGap_member namedPart (HasGap.strayName namedPart word (' ' :: (tail ++ after)))
            rw [eq]
            simpa using passesPath _ (endsWord_cons _ (by decide)) gap
        | true =>
            have passes : Passes (path ++ "." ++ part).toList := by
              simpa using passes_member passesPath namedPart word
            refine ih passes passes (fun other member => named other (List.mem_cons_of_mem _ member)) ?_
            obtain ⟨other, member, stray⟩ := noWord
            rcases List.mem_cons.1 member with rfl | member
            · simp [word] at stray
            · exact ⟨other, member, stray⟩
      have object := hasGap_orNewObject next
      have source := passesPath _ (endsWord_cons _ (by decide)) object
      have equals := hasGap_equals source
      have whole := passesTarget _ (endsWord_cons _ (by decide)) equals
      simpa [Template.head.opening] using whole

theorem text_append (first : String) (rest : List String) (l : Lowered) :
    ∃ after, (Template.text (first :: rest) l).toList =
      (Template.head.opening ("var " ++ first) first rest).toList ++ after := by
  simp only [Template.text, Template.head, String.toList_append, List.append_assoc]
  exact ⟨_, rfl⟩

theorem restricted_of_unbindable {first : String} (named : Identifier.isIdentifier first.toList)
    (unbindable : unbindableWords.contains first) : IsRestricted first := by
  have words : unbindableWords.filter (!Identifier.reservedWords.contains ·) =
      ["eval", "arguments"] := by
    simp [unbindableWords, alwaysReserved, strictReserved, Identifier.reservedWords]
  have free : Identifier.reservedWords.contains first = false := by
    cases chars : first.toList with
    | nil => simp [chars, Identifier.isIdentifier] at named
    | cons c others =>
        rw [chars] at named
        simp only [Identifier.isIdentifier, Bool.and_eq_true, ← chars, String.ofList_toList] at named
        simpa using named.2
  have member : first ∈ unbindableWords.filter (!Identifier.reservedWords.contains ·) :=
    List.mem_filter.2 ⟨List.contains_iff_mem.1 unbindable, by rw [free]; rfl⟩
  rw [words] at member
  simpa [IsRestricted] using member

theorem clean?_text {path : List String} (named : ∀ part ∈ path, Identifier.isIdentifier part.toList)
    (notPlain : isPlainPath path = false) (l : Lowered) :
    (Module.parse (Template.text path l).toList).clean? = none := by
  cases path with
  | nil => contradiction
  | cons first rest =>
      obtain ⟨after, text⟩ := text_append first rest l
      obtain ⟨tail, target⟩ := opening_append ("var " ++ first) first rest
      have namedFirst := named first List.mem_cons_self
      have declared : ("var " ++ first).toList = ['v', 'a', 'r'] ++ ' ' :: first.toList := by simp
      have shape : (Template.text (first :: rest) l).toList =
          ['v', 'a', 'r'] ++ ' ' :: (first.toList ++ ' ' :: (tail ++ after)) := by
        rw [text, target, declared]
        simp
      -- The text has a gap as soon as one of the names is no word.
      have ofGap (gap : HasGap (Template.text (first :: rest) l).toList) :
          (Module.parse (Template.text (first :: rest) l).toList).clean? = none :=
        clean?_of_unreadable (by rw [shape]; rfl) (gap 0)
      cases word : isWord first.toList with
      | false =>
          apply ofGap
          have gap := HasGap.strayName namedFirst word (' ' :: (tail ++ after))
          rw [shape]
          refine HasGap.word (w := ['v', 'a', 'r']) rfl (endsWord_cons _ (by decide)) ?_
          exact gap.blank (by decide)
      | true =>
          have passes := passes_word word
          by_cases words : ∀ part ∈ rest, isWord part.toList = true
          · have unbindable : unbindableWords.contains first = true := by
              have all : (first :: rest).all (isWord ·.toList) = true :=
                List.all_eq_true.2 (List.forall_mem_cons.2 ⟨word, words⟩)
              rw [isPlainPath, all] at notPlain
              simpa using notPlain
            rw [shape]
            exact clean?_of_restricted (restricted_of_unbindable namedFirst unbindable)
              (endsWord_cons _ (by decide))
          · apply ofGap
            rw [text]
            refine hasGap_opening ?_ passes
              (fun part member => named part (List.mem_cons_of_mem first member)) ?_ after
            · intro others ends gap
              rw [declared, List.append_assoc, List.cons_append]
              refine HasGap.word (w := ['v', 'a', 'r']) rfl (endsWord_cons _ (by decide)) ?_
              exact (passes others ends gap).blank (by decide)
            · simpa using words

theorem nameParts_named {globalName : String} (valid : Identifier.isGlobalName globalName) :
    ∀ part ∈ nameParts globalName, Identifier.isIdentifier part.toList := by
  intro part member
  unfold nameParts at member
  split at member
  case isTrue => contradiction
  case isFalse notEmpty =>
    obtain ⟨chars, named, rfl⟩ := List.mem_map.1 member
    simp only [Identifier.isGlobalName, notEmpty, Bool.false_or, List.all_eq_true] at valid
    rw [String.toList_ofList]
    exact valid chars named

theorem isPlainPath_of_wrapper {globalName : String} {l : Lowered} {items : List ModuleItem}
    (valid : Identifier.isGlobalName globalName)
    (built : wrapper (nameParts globalName) l = .ok items) :
    isPlainPath (nameParts globalName) = true := by
  cases plain : isPlainPath (nameParts globalName) with
  | true => rfl
  | false =>
      rw [wrapper, plain, if_neg Bool.false_ne_true] at built
      unfold Template.read at built
      dsimp only at built
      rw [clean?_text (nameParts_named valid) plain l] at built
      contradiction

end Enclose.Bundle
