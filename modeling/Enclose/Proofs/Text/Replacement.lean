import Enclose.Proofs.Text.Utf8
import Mathlib.Tactic.SplitIfs

/-!
# Decoding does not make text longer

Bytes that do not encode a text are decoded with replacement characters, of three bytes each. If the
bytes are put together from whole characters and from single bytes that cost three each, then what
they are decoded as is not longer than what they cost (`length_decode_le`): where bytes are taken
for the rest of a character, all of them were single.
-/

namespace Enclose.Utf8

theorem length_cons (c : Char) (text : List Char) : length (c :: text) = c.utf8Size + length text :=
  rfl

theorem length_le_of_sublist {text more : List Char} (within : text.Sublist more) :
    length text ≤ length more := by
  induction within with
  | slnil => exact Nat.le_refl _
  | cons c _ ih => exact Nat.le_trans ih (Nat.le_add_left _ _)
  | cons_cons c _ ih => exact Nat.add_le_add_left ih _

theorem utf8EncodeChar_eq_cons (c : Char) :
    ∃ lead others, String.utf8EncodeChar c = lead :: others ∧ isContinuation lead = false := by
  have starts {n : Nat} (small : n < 256) (outside : n < 128 ∨ 192 ≤ n) :
      isContinuation (UInt8.ofNat n) = false := by
    simp only [isContinuation, UInt8.le_iff_toNat_le, UInt8.toNat_ofNat', UInt8.reduceToNat,
      decide_eq_false_iff_not]
    omega
  obtain ⟨n, number⟩ : ∃ n, c.val.toNat = n := ⟨_, rfl⟩
  simp only [String.utf8EncodeChar, number]
  split
  · exact ⟨_, _, rfl, starts (by omega) (by omega)⟩
  · split
    · exact ⟨_, _, rfl, starts (by omega) (by omega)⟩
    · split <;> exact ⟨_, _, rfl, starts (by omega) (by omega)⟩

/-- Bytes put together from characters and from single bytes, and what they cost: a character as
many as it has bytes, a single byte three. -/
inductive Costs : List UInt8 → Nat → Prop where
  | nil : Costs [] 0
  | char {bytes : List UInt8} {n : Nat} (c : Char) : Costs bytes n →
    Costs (String.utf8EncodeChar c ++ bytes) (c.utf8Size + n)
  | byte {bytes : List UInt8} {n : Nat} (b : UInt8) : Costs bytes n → Costs (b :: bytes) (n + 3)

namespace Costs

variable {b : UInt8} {rest : List UInt8} {n : Nat}

theorem cases_cons (costs : Costs (b :: rest) n) :
    (∃ m, n = m + 3 ∧ Costs rest m) ∨
      ∃ c bytes m, b :: rest = String.utf8EncodeChar c ++ bytes ∧ n = c.utf8Size + m ∧
        Costs bytes m := by
  generalize whole : b :: rest = all at costs
  cases costs with
  | nil => cases whole
  | char c costs => exact .inr ⟨c, _, _, rfl, rfl, costs⟩
  | byte b costs =>
      cases whole
      exact .inl ⟨_, rfl, costs⟩

theorem of_isContinuation (costs : Costs (b :: rest) n) (continues : isContinuation b = true) :
    ∃ m, n = m + 3 ∧ Costs rest m := by
  rcases costs.cases_cons with single | ⟨c, bytes, m, whole, -, -⟩
  · exact single
  · obtain ⟨lead, others, encoded, starts⟩ := utf8EncodeChar_eq_cons c
    rw [encoded] at whole
    cases whole
    rw [starts] at continues
    cases continues

theorem completeTail (costs : Costs rest n) (missing bits : Nat) :
    ∃ m, Costs (completeTail missing bits rest).2 m ∧
      (completeTail missing bits rest).1.utf8Size + m ≤ n + 4 := by
  have anySize (c : Char) (n : Nat) : c.utf8Size + n ≤ n + 4 := by
    have := c.utf8Size_le_four
    omega
  induction missing generalizing bits rest n with
  | zero => exact ⟨n, costs, anySize _ _⟩
  | succ missing ih =>
      cases rest with
      | nil => exact ⟨n, costs, anySize _ _⟩
      | cons b rest =>
          rw [Utf8.completeTail]
          split
          case isTrue continues =>
            obtain ⟨m, rfl, others⟩ := costs.of_isContinuation continues
            obtain ⟨k, left, enough⟩ := ih others (bits * 64 + (b.toNat - 0x80))
            exact ⟨k, left, by omega⟩
          case isFalse => exact ⟨n, costs, anySize _ _⟩

theorem isContinuation_of_lead {following bits : Nat} {low high second : UInt8}
    (lead : Lead.ofByte? b = some ⟨following + 1, bits, low, high⟩)
    (within : low ≤ second ∧ second ≤ high) : isContinuation second = true := by
  have bounds : 0x80 ≤ low ∧ high ≤ 0xBF := by
    unfold Lead.ofByte? at lead
    split_ifs at lead <;> cases lead <;> decide
  simp only [isContinuation, decide_eq_true_eq, UInt8.le_iff_toNat_le] at bounds within ⊢
  omega

theorem decodeFirst (costs : Costs rest n) (b : UInt8) :
    ∃ m, Costs (decodeFirst b rest).2 m ∧ (decodeFirst b rest).1.utf8Size + m ≤ n + 3 := by
  -- The replacement character takes three bytes, which is what a stray byte costs.
  have replaced : replacement.utf8Size + n ≤ n + 3 := by
    rw [Nat.add_comm]
    exact Nat.le_refl _
  unfold Utf8.decodeFirst
  split
  case h_1 => exact ⟨n, costs, replaced⟩
  case h_2 bits low high lead =>
    refine ⟨n, costs, ?_⟩
    have ascii : b < 0x80 ∧ bits = b.toNat := by
      unfold Lead.ofByte? at lead
      split_ifs at lead with ascii <;> cases lead
      exact ⟨ascii, rfl⟩
    have size := congrArg List.length (utf8EncodeChar_ofNat ascii.1)
    rw [String.length_utf8EncodeChar, List.length_singleton] at size
    rw [ascii.2, size]
    omega
  case h_3 following bits low high lead =>
    cases rest with
    | nil => exact ⟨n, costs, replaced⟩
    | cons second rest =>
        dsimp only
        split
        case isTrue within =>
          obtain ⟨m, rfl, others⟩ := costs.of_isContinuation (isContinuation_of_lead lead within)
          obtain ⟨k, left, enough⟩ := others.completeTail following (bits * 64 + (second.toNat - 0x80))
          exact ⟨k, left, by omega⟩
        case isFalse => exact ⟨n, costs, replaced⟩

end Costs

theorem length_decode_le {bytes : List UInt8} {n : Nat} (costs : Costs bytes n) :
    length (decode bytes) ≤ n := by
  match bytes, costs with
  | [], _ =>
      rw [decode]
      exact Nat.zero_le n
  | b :: rest, costs =>
      rcases costs.cases_cons with ⟨m, rfl, costsRest⟩ | ⟨c, others, m, whole, rfl, costsOthers⟩
      · obtain ⟨k, left, enough⟩ := costsRest.decodeFirst b
        have shorter := decodeFirst_length_le b rest
        have tail := length_decode_le left
        rw [decode_cons, length_cons]
        omega
      · have shorter : others.length < (b :: rest).length := by
          have positive := c.utf8Size_pos
          rw [whole, List.length_append, String.length_utf8EncodeChar]
          omega
        have tail := length_decode_le costsOthers
        rw [whole, decode_utf8EncodeChar, length_cons]
        omega
termination_by bytes.length
decreasing_by
  · exact Nat.lt_succ_of_le (decodeFirst_length_le b rest)
  · exact shorter

end Enclose.Utf8
