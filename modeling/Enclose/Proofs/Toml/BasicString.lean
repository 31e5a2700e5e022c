import Enclose.Proofs.Toml.Reads
import Enclose.Toml.KeyText
import Enclose.Toml.Reader.Text

/-!
# Basic strings

A character may be written as it is or, in several ways, with a backslash. However the characters of
a string are written, the reader takes the string from between its quotes (`reads_string`). With a
backslash before each character that needs it, every string can be written (`spells_escaped`).
-/

namespace Enclose.Toml

open Reader

def letterEscapes : List (Char × Char) :=
  [ ('b', '\x08'), ('f', '\x0c'), ('n', '\n'), ('r', '\r'), ('t', '\t'), ('\\', '\\'), ('"', '"') ]

def isHexDigit (c : Char) : Bool := (Numeral.digitValue? 16 c).isSome

structure IsCode (size : Nat) (digits : List Char) (c : Char) : Prop where
  size : digits.length = size
  all : ∀ d ∈ digits, isHexDigit d = true
  value : Numeral.ofDigits 16 digits = c.toNat

inductive Escapes : List Char → Char → Prop
  | letter {letter c : Char} : (letter, c) ∈ letterEscapes → Escapes ['\\', letter] c
  | short {digits : List Char} {c : Char} : IsCode 4 digits c → Escapes ('\\' :: 'u' :: digits) c
  | long {digits : List Char} {c : Char} : IsCode 8 digits c → Escapes ('\\' :: 'U' :: digits) c

inductive Spells : List Char → List Char → Prop
  | nil : Spells [] []
  | plain {c : Char} {text chars : List Char} : isPlain c = true → Spells text chars →
      Spells (c :: text) (c :: chars)
  | escape {piece text chars : List Char} {c : Char} : Escapes piece c → Spells text chars →
      Spells (piece ++ text) (c :: chars)

namespace Reader

variable {text rest chars : List Char} {c : Char}

theorem reads_codePoint {size : Nat} {digits : List Char} (code : IsCode size digits c) :
    Reads (codePoint size) (digits ++ rest) (· = c) rest := by
  have taken : ((digits ++ rest).take size).takeWhile
      (fun d => (Numeral.digitValue? 16 d).isSome) = digits := by
    have whole := (@takeWhile_append [] _ digits code.all (by simp)).1
    rw [List.append_nil] at whole
    rw [← code.size, List.take_left]
    exact whole
  refine reads_place.bind fun _ _ => reads_get.bind fun cursor same => ?_
  simp only [same, taken, code.size, code.value, Nat.lt_irrefl, if_false]
  rw [if_pos (show c.toNat.isValidChar from c.valid)]
  exact (reads_literal digits rest).bind fun _ _ => .pure (Char.ofNat_toNat c)

theorem reads_escape {piece : List Char} (escapes : Escapes piece c) :
    Reads escape (piece ++ rest) (· = c) rest := by
  cases escapes with
  | letter known =>
      refine (reads_char '\\').bind fun _ _ => reads_next.step ?_
      simp only [letterEscapes, List.mem_cons, Prod.mk.injEq, List.not_mem_nil, or_false] at known
      rcases known with ⟨rfl, rfl⟩ | ⟨rfl, rfl⟩ | ⟨rfl, rfl⟩ | ⟨rfl, rfl⟩ | ⟨rfl, rfl⟩ | ⟨rfl, rfl⟩ | ⟨rfl, rfl⟩
      all_goals exact .pure rfl
  | short code =>
      refine (reads_char '\\').bind fun _ _ => reads_next.step ?_
      exact reads_onFault (reads_onFault (reads_codePoint code))
  | long code =>
      refine (reads_char '\\').bind fun _ _ => reads_next.step ?_
      exact reads_onFault (reads_onFault (reads_codePoint code))

def stringPiece : Reader (List Char) := orElse (takeSome isPlain) (List.singleton <$> escape)

theorem declines_takeSome {isWanted : Char → Bool} (unwanted : ∀ c ∈ text.head?, isWanted c = false) :
    Declines (takeSome isWanted) text :=
  .bind (declines_one unwanted)

theorem reads_takeSome {isWanted : Char → Bool} {taken : List Char} (first : isWanted c = true)
    (all : ∀ c ∈ taken, isWanted c = true) (stop : ∀ c ∈ rest.head?, isWanted c = false) :
    Reads (takeSome isWanted) (c :: (taken ++ rest)) (· = c :: taken) rest :=
  (reads_one first).step ((reads_takeWhile all stop).step (.pure rfl))

theorem escapes_head {piece : List Char} (escapes : Escapes piece c) : ∃ more, piece = '\\' :: more := by
  cases escapes <;> exact ⟨_, rfl⟩

theorem spells_run (spells : Spells text chars) : ∃ run text' chars', text = run ++ text' ∧
    chars = run ++ chars' ∧ (∀ c ∈ run, isPlain c = true) ∧ Spells text' chars' ∧
      ∀ c ∈ text'.head?, isPlain c = false := by
  induction spells with
  | nil => exact ⟨[], [], [], rfl, rfl, List.forall_mem_nil _, .nil, by simp⟩
  | @plain c text chars plain spells ih =>
      obtain ⟨run, text', chars', rfl, rfl, all, spells', stop⟩ := ih
      exact ⟨c :: run, text', chars', rfl, rfl, List.forall_mem_cons.2 ⟨plain, all⟩, spells', stop⟩
  | @escape piece text chars c escapes spells =>
      obtain ⟨more, rfl⟩ := escapes_head escapes
      refine ⟨[], _, _, rfl, rfl, List.forall_mem_nil _, .escape escapes spells, fun d head => ?_⟩
      cases head
      decide

theorem repeats_spells (size : Nat) (bound : text.length < size) (spells : Spells text chars) :
    ∃ found, Repeats stringPiece (text ++ '"' :: rest) found ('"' :: rest) ∧ found.flatten = chars := by
  have quoted (text' : List Char) (stop : ∀ c ∈ text'.head?, isPlain c = false) :
      ∀ c ∈ (text' ++ '"' :: rest).head?, isPlain c = false := by
    cases text' with
    | nil => simp [isPlain]
    | cons => simpa using stop
  -- On a bound of the length, because a run of plain characters is taken at once.
  induction size generalizing text chars with
  | zero => omega
  | succ size ih =>
      cases spells with
      | nil =>
          refine ⟨[], .nil (declines_orElse (declines_takeSome (quoted [] (by simp))) ?_), rfl⟩
          exact .map (.bind (declines_char (by simp)))
      | @plain c text chars plain spells =>
          obtain ⟨run, text', chars', rfl, rfl, all, spells', stop⟩ := spells_run spells
          have shorter : text'.length < size := by
            simp only [List.length_cons, List.length_append] at bound
            omega
          obtain ⟨found, repeats, rfl⟩ := ih shorter spells'
          have taken := reads_takeSome plain all (quoted text' stop)
          rw [← List.append_assoc] at taken
          exact ⟨(c :: run) :: found, .cons (reads_orElse taken) (by grind) repeats, rfl⟩
      | @escape piece text chars c escapes spells =>
          obtain ⟨more, starts⟩ := escapes_head escapes
          have shorter : text.length < size := by
            rw [List.length_append, starts, List.length_cons] at bound
            omega
          obtain ⟨found, repeats, rfl⟩ := ih shorter spells
          refine ⟨[c] :: found, ?_, rfl⟩
          rw [List.append_assoc]
          refine .cons (reads_orElse_right (declines_takeSome ?_) ?_) ?_ repeats
          · simp [starts, isPlain]
          · refine (reads_escape escapes).map.mono ?_
            rintro _ ⟨_, rfl, rfl⟩
            rfl
          · simp only [starts, List.cons_append, List.length_cons, List.length_append]
            omega

theorem reads_basicString (spells : Spells text chars) :
    Reads basicString ('"' :: (text ++ '"' :: rest)) (· = String.ofList chars) rest := by
  obtain ⟨found, repeats, rfl⟩ := @repeats_spells _ rest _ _ (Nat.lt_succ_self _) spells
  refine (reads_char '"').bind fun _ _ => (reads_many repeats).step ?_
  exact (reads_onFault (reads_onFault (reads_char '"'))).bind fun _ _ => .pure rfl

theorem reads_string (spells : Spells text chars) (stop : ∀ c ∈ rest.head?, c ≠ '"') :
    Reads string ('"' :: (text ++ '"' :: rest)) (· = String.ofList chars) rest := by
  have single : ¬ tripleQuote <+: '"' :: (text ++ '"' :: rest) := by
    rw [tripleQuote, List.cons_prefix_cons]
    rintro ⟨-, double⟩
    cases spells with
    | nil =>
        obtain ⟨-, more, after⟩ := List.cons_prefix_cons.1 double
        exact stop '"' (by rw [← after]; rfl) rfl
    | plain written =>
        obtain ⟨rfl, -⟩ := List.cons_prefix_cons.1 double
        exact absurd written (by decide)
    | escape escapes =>
        obtain ⟨more, rfl⟩ := escapes_head escapes
        obtain ⟨same, -⟩ := List.cons_prefix_cons.1 double
        exact absurd same (by decide)
  exact reads_orElse_right (declines_labelled (.bind (declines_literal single)))
    (reads_orElse (reads_basicString spells))

end Reader

def escaped (chars : List Char) : List Char := chars.flatMap fun c => (escapedPart c).toList

def codeDigits (n : Nat) : List Char :=
  let digits := (Nat.toDigits 16 n).map Char.toUpper
  List.replicate (4 - digits.length) '0' ++ digits

theorem codeDigits_control : ∀ n < 128, (codeDigits n).length = 4 ∧
    (codeDigits n).all isHexDigit = true ∧ Numeral.ofDigits 16 (codeDigits n) = n := by
  decide +kernel

theorem isCode_codeDigits {c : Char} (small : c.toNat < 128) : IsCode 4 (codeDigits c.toNat) c :=
  let ⟨size, all, value⟩ := codeDigits_control c.toNat small
  ⟨size, List.all_eq_true.1 all, value⟩

theorem escapes_or_plain (c : Char) :
    Escapes (escapedPart c).toList c ∨ isPlain c = true ∧ (escapedPart c).toList = [c] := by
  unfold escapedPart
  split
  case h_8 noQuote noBackslash =>
    split
    case isTrue control =>
      have code := isCode_codeDigits (c := c) (by omega)
      have layout : ("\\u" ++ String.ofList (codeDigits c.toNat)).toList =
          '\\' :: 'u' :: codeDigits c.toNat := by
        simp
      exact .inl (layout ▸ .short code)
    case isFalse printable =>
      refine .inr ⟨?_, String.toList_singleton c⟩
      have wide : 0x20 ≤ c.toNat ∧ c.toNat ≠ 0x7F := by omega
      have quote : c ≠ '"' := noQuote
      have backslash : c ≠ '\\' := noBackslash
      simp [isPlain, isPrintable, wide, quote, backslash]
  all_goals exact .inl (.letter (by decide))

theorem spells_escaped (chars : List Char) : Spells (escaped chars) chars := by
  induction chars with
  | nil => exact .nil
  | cons c chars ih =>
      rw [escaped, List.flatMap_cons]
      rcases escapes_or_plain c with escapes | ⟨plain, same⟩
      · exact .escape escapes ih
      · rw [same]
        exact .plain plain ih

end Enclose.Toml
