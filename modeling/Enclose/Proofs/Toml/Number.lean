import Enclose.Proofs.Toml.Reads
import Enclose.Toml.Reader.Value

/-!
# Natural numbers at the end of a line

The digits of a number, up to the end of a line, are read as that number, after they were tried as a
date, a time and a floating point number (`reads_numeral`).
-/

namespace Enclose.Numeral

theorem digitValue?_of_isDigit {c : Char} (digit : c.isDigit) :
    digitValue? 10 c = some (c.toNat - 48) := by
  have bounds : 48 ≤ c.toNat ∧ c.toNat ≤ 57 := by
    simpa [Char.isDigit, UInt32.le_iff_toNat_le] using digit
  rw [digitValue?]
  simp only [digit, if_true]
  rw [if_pos (by omega)]

theorem ofDigits_eq {text : List Char} (digits : ∀ c ∈ text, c.isDigit = true) :
    ofDigits 10 text = Nat.ofDigitChars 10 text 0 := by
  rw [ofDigits, Nat.ofDigitChars]
  generalize 0 = start
  induction text generalizing start with
  | nil => rfl
  | cons c rest ih =>
      rw [List.foldl_cons, List.foldl_cons, digitValue?_of_isDigit (digits c List.mem_cons_self),
        Nat.mul_comm]
      exact ih (fun d member => digits d (.tail _ member)) _

theorem ofDigits_toDigits (n : Nat) : ofDigits 10 (Nat.toDigits 10 n) = n := by
  rw [ofDigits_eq fun c => Nat.isDigit_of_mem_toDigits (by decide) (by decide)]
  exact Nat.ofDigitChars_ten_toDigits

theorem head_toDigits_ne_zero {n : Nat} (pos : 0 < n) : ∀ c ∈ (Nat.toDigits 10 n).head?, c ≠ '0' := by
  induction n using Nat.strongRecOn with
  | ind n ih =>
      rw [Nat.toDigits_eq_if (by decide)]
      split
      case isTrue small =>
        rintro c ⟨⟩
        simpa using Nat.ne_of_gt pos
      case isFalse large =>
        have shorter := ih (n / 10) (by omega) (by omega)
        cases digits : Nat.toDigits 10 (n / 10) with
        | nil => exact absurd digits Nat.toDigits_ne_nil
        | cons d ds =>
            rw [digits] at shorter
            simpa using shorter

end Enclose.Numeral

namespace Enclose.Toml.Reader

def AreDigits (text : List Char) : Prop := ∀ c ∈ text, c.isDigit = true

section
variable {digits rest : List Char} {α : Type} {f : Nat → Reader α}

theorem AreDigits.head (all : AreDigits digits) :
    ∀ c ∈ (digits ++ '\n' :: rest).head?, c.isDigit = true ∨ c = '\n' := by
  cases digits with
  | nil => simp
  | cons d ds => simpa using Or.inl (all d List.mem_cons_self)

theorem AreDigits.head_ne (all : AreDigits digits) {c : Char} (other : c.isDigit = false)
    (stays : c ≠ '\n') : ∀ d ∈ (digits ++ '\n' :: rest).head?, d ≠ c := by
  rintro d head rfl
  rcases all.head d head with digit | ending
  · rw [digit] at other
    cases other
  · exact stays ending

theorem declines_fixedDigits (size : Nat) (all : AreDigits digits)
    (next : ∀ others n, AreDigits others → Declines (f n) (others ++ '\n' :: rest)) :
    Declines (fixedDigits size >>= f) (digits ++ '\n' :: rest) := by
  -- Either there are digits enough, and `f` declines what is left, or too few.
  by_cases long : size ≤ digits.length
  · have taken : ((digits ++ '\n' :: rest).take size).takeWhile Char.isDigit = digits.take size := by
      rw [List.take_append_of_le_length long]
      have whole := (@takeWhile_append [] _ (digits.take size)
        (fun c member => all c (List.mem_of_mem_take member)) (by simp)).1
      rwa [List.append_nil] at whole
    have split : digits ++ '\n' :: rest = digits.take size ++ (digits.drop size ++ '\n' :: rest) := by
      rw [← List.append_assoc, List.take_append_drop]
    have reads : Reads (fixedDigits size) (digits ++ '\n' :: rest) (fun _ => True)
        (digits.drop size ++ '\n' :: rest) := by
      refine reads_get.bind fun c same => ?_
      simp only [same, taken, List.length_take, Nat.min_eq_left long, Nat.lt_irrefl, if_false]
      rw [split]
      exact (reads_literal _ _).bind fun _ _ => .pure trivial
    exact .after reads fun n _ => next _ n fun c member => all c (List.mem_of_mem_drop member)
  · refine .bind (.after reads_get fun c same => ?_)
    have taken : ((digits ++ '\n' :: rest).take size).takeWhile Char.isDigit = digits := by
      rw [List.take_append, List.take_of_length_le (by omega)]
      refine (takeWhile_append all fun c head => ?_).1
      cases more : size - digits.length with
      | zero => omega
      | succ =>
          rw [more] at head
          cases head
          decide
    simp only [same, taken]
    rw [if_pos (by omega)]
    exact .fail

theorem declines_date (all : AreDigits digits) : Declines date (digits ++ '\n' :: rest) :=
  declines_fixedDigits 4 all fun _ _ others =>
    .bind (declines_char (others.head_ne (by decide) (by decide)))

theorem declines_twoDigits {least greatest : Nat} (all : AreDigits digits)
    (next : ∀ others n, AreDigits others → Declines (f n) (others ++ '\n' :: rest)) :
    Declines (twoDigits least greatest >>= f) (digits ++ '\n' :: rest) := by
  simp only [twoDigits, bind_assoc]
  refine .after reads_place fun start _ => declines_fixedDigits 2 all fun others n digits => ?_
  split
  · rw [pure_bind]
    exact next others n digits
  · exact .bind (.refuse start .outOfRange)

theorem declines_time (all : AreDigits digits) : Declines time (digits ++ '\n' :: rest) :=
  declines_twoDigits all fun _ _ others => .bind (declines_char (others.head_ne (by decide) (by decide)))

theorem declines_moment (all : AreDigits digits) : Declines moment (digits ++ '\n' :: rest) :=
  declines_orElse (declines_labelled (.bind (declines_date all))) (declines_labelled (declines_time all))

theorem reads_sign (all : AreDigits digits) :
    Reads sign (digits ++ '\n' :: rest) (· = []) (digits ++ '\n' :: rest) := by
  refine (reads_optional_none (declines_one fun c head => ?_)).step (.pure rfl)
  have plus := all.head_ne (by decide : '+'.isDigit = false) (by decide) c head
  have minus := all.head_ne (by decide : '-'.isDigit = false) (by decide) c head
  simp [plus, minus]

theorem reads_digit {c : Char} (digit : c.isDigit) : Reads (Reader.digit 10) (c :: rest) (· = c) rest :=
  reads_one (by rw [Numeral.digitValue?_of_isDigit digit]; rfl)

theorem reads_moreDigits (all : AreDigits digits) :
    Reads (moreDigits 10) (digits ++ '\n' :: rest) (· = digits) ('\n' :: rest) := by
  have repeats : Repeats (orElse (digit 10) (do char '_'; commit (expecting ["digit"] (digit 10))))
      (digits ++ '\n' :: rest) digits ('\n' :: rest) := by
    induction digits with
    | nil =>
        refine .nil (declines_orElse (declines_one ?_) (.bind (declines_char ?_)))
        · rintro c ⟨⟩
          decide
        · rintro c ⟨⟩
          decide
    | cons d ds ih =>
        obtain ⟨first, others⟩ := List.forall_mem_cons.1 all
        exact .cons (reads_orElse (reads_digit first)) (by simp) (ih others)
  exact reads_many repeats

theorem areDigits_toDigits (n : Nat) : AreDigits (Nat.toDigits 10 n) :=
  fun _ => Nat.isDigit_of_mem_toDigits (by decide) (by decide)

theorem toDigits_eq_cons (n : Nat) : ∃ d ds, Nat.toDigits 10 n = d :: ds ∧ (d = '0' → ds = []) := by
  cases n with
  | zero => exact ⟨'0', [], rfl, fun _ => rfl⟩
  | succ n =>
      have first := Numeral.head_toDigits_ne_zero (Nat.succ_pos n)
      cases digits : Nat.toDigits 10 (n + 1) with
      | nil => exact absurd digits Nat.toDigits_ne_nil
      | cons d ds => exact ⟨d, ds, rfl, fun zero => absurd zero (first d (by rw [digits]; rfl))⟩

theorem reads_decimalInteger (n : Nat) :
    Reads decimalInteger (Nat.toDigits 10 n ++ '\n' :: rest) (· = Nat.toDigits 10 n) ('\n' :: rest) := by
  have all := areDigits_toDigits n
  obtain ⟨d, ds, digits, single⟩ := toDigits_eq_cons n
  rw [digits] at all ⊢
  obtain ⟨first, others⟩ := List.forall_mem_cons.1 all
  refine reads_onFault ((reads_sign all).step ((reads_digit first).step ?_))
  split
  case isTrue zero =>
    rw [single zero]
    exact .pure rfl
  case isFalse => exact (reads_moreDigits others).step (.pure rfl)

theorem declines_literal_word {word : List Char} {c : Char} (letter : c.isDigit = false)
    (stays : c ≠ '\n') (all : AreDigits digits) :
    Declines (literal (c :: word)) (digits ++ '\n' :: rest) := by
  refine declines_literal ?_
  rintro ⟨more, same⟩
  exact all.head_ne letter stays c (by rw [← same]; rfl) rfl

theorem declines_float (n : Nat) : Declines float (Nat.toDigits 10 n ++ '\n' :: rest) := by
  have all := areDigits_toDigits n
  refine declines_labelled (declines_orElse ?_ ?_)
  · refine .after reads_place fun start _ => .after (reads_decimalInteger n) fun _ _ => ?_
    refine .bind (declines_orElse (.bind (declines_one ?_)) (.bind (declines_char ?_)))
    · rintro c ⟨⟩
      decide
    · rintro c ⟨⟩
      decide
  · refine .after (reads_sign all) fun _ _ => .bind (declines_orElse (.bind ?_) (.bind ?_))
    · exact declines_literal_word (by decide) (by decide) all
    · exact declines_literal_word (by decide) (by decide) all

theorem reads_integer {n : Nat} (small : (n : Int) ≤ maxInteger) :
    Reads integer (Nat.toDigits 10 n ++ '\n' :: rest) (· = n) ('\n' :: rest) := by
  have all := areDigits_toDigits n
  obtain ⟨d, ds, digits, -⟩ := toDigits_eq_cons n
  have second {letter : Char} {more : List Char} (other : letter.isDigit = false) (stays : letter ≠ '\n')
      (same : Nat.toDigits 10 n ++ '\n' :: rest = '0' :: letter :: more) : False := by
    rw [digits] at same all
    have others : AreDigits ds := (List.forall_mem_cons.1 all).2
    have next : (ds ++ '\n' :: rest).head? = some letter := by
      injection same with _ same
      exact congrArg List.head? same
    exact others.head_ne other stays letter next rfl
  refine reads_get.bind fun c same => ?_
  rw [same]
  split
  case h_1 text hex => exact (second (by decide) (by decide) hex).elim
  case h_2 text octal => exact (second (by decide) (by decide) octal).elim
  case h_3 text binary => exact (second (by decide) (by decide) binary).elim
  case h_4 =>
    refine reads_place.bind fun start _ => (reads_decimalInteger n).step ?_
    have unsigned : (Nat.toDigits 10 n).head? ≠ some '-' := fun minus =>
      absurd (all '-' (List.mem_of_mem_head? minus)) (by decide)
    simp only [Numeral.ofDigits_toDigits, if_neg unsigned]
    rw [bounded, if_neg (by omega), if_neg (by unfold minInteger; omega)]
    exact .pure rfl

theorem reads_numeral {n : Nat} (small : (n : Int) ≤ maxInteger) :
    Reads numeral (Nat.toDigits 10 n ++ '\n' :: rest) (fun make => ∀ span, make span = .integer span n)
      ('\n' :: rest) := by
  have all := areDigits_toDigits n
  refine reads_orElse_right (.bind (declines_moment all)) (reads_orElse_right (.bind (declines_float n)) ?_)
  exact (reads_integer small).step (.pure fun _ => rfl)

end

end Enclose.Toml.Reader
