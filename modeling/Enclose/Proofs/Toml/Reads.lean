import Enclose.Toml.Reader.Basic

/-!
# What readers take from a text

The readers of configuration texts and the ways to put them together, as statements about the text
that is there and the text that is left (`Reads`), or about a text that is left to other readers
(`Declines`). Neither depends on the place in the whole text, which only complaints show.
-/

namespace Enclose.Toml.Reader

variable {α β : Type}

/-- Wherever it stands, a reader takes a text up to some rest, with a result of which something
holds. -/
def Reads (p : Reader α) (text : List Char) (Q : α → Prop) (rest : List Char) : Prop :=
  ∀ place, ∃ a place', p ⟨text, place⟩ = .ok (a, ⟨rest, place'⟩) ∧ Q a

def Declines (p : Reader α) (text : List Char) : Prop :=
  ∀ place, ∃ fault, p ⟨text, place⟩ = .error fault ∧ fault.committed = false

variable {p q : Reader α} {f : α → Reader β} {text mid rest : List Char} {Q : α → Prop}
  {R : β → Prop} {a : α} {isWanted : Char → Bool} {c : Char}

namespace Reads

theorem pure (holds : Q a) : Reads (pure a) text Q text := fun place => ⟨a, place, rfl, holds⟩

theorem bind (first : Reads p text Q mid) (next : ∀ a, Q a → Reads (f a) mid R rest) :
    Reads (p >>= f) text R rest := by
  intro place
  obtain ⟨a, place', ran, holds⟩ := first place
  obtain ⟨b, place'', ran', result⟩ := next a holds place'
  refine ⟨b, place'', ?_, result⟩
  change (p ⟨text, place⟩ >>= fun r => f r.1 r.2) = _
  rw [ran]
  exact ran'

theorem step (first : Reads p text (· = a) mid) (next : Reads (f a) mid R rest) :
    Reads (p >>= f) text R rest :=
  first.bind fun _ same => same ▸ next

theorem map {g : α → β} (reads : Reads p text Q rest) :
    Reads (g <$> p) text (fun b => ∃ a, b = g a ∧ Q a) rest := by
  rw [← bind_pure_comp]
  exact reads.bind fun a holds => .pure ⟨a, rfl, holds⟩

theorem mono {Q' : α → Prop} (reads : Reads p text Q rest) (weaker : ∀ a, Q a → Q' a) :
    Reads p text Q' rest := by
  intro place
  obtain ⟨a, place', ran, holds⟩ := reads place
  exact ⟨a, place', ran, weaker a holds⟩

end Reads

namespace Declines

theorem bind (first : Declines p text) : Declines (p >>= f) text := by
  intro place
  obtain ⟨fault, failed, free⟩ := first place
  refine ⟨fault, ?_, free⟩
  change (p ⟨text, place⟩ >>= fun r => f r.1 r.2) = _
  rw [failed]
  rfl

theorem map {f : α → β} (declines : Declines p text) : Declines (f <$> p) text := by
  rw [← bind_pure_comp]
  exact declines.bind

theorem after (first : Reads p text Q mid) (next : ∀ a, Q a → Declines (f a) mid) :
    Declines (p >>= f) text := by
  intro place
  obtain ⟨a, place', ran, holds⟩ := first place
  obtain ⟨fault, failed, free⟩ := next a holds place'
  refine ⟨fault, ?_, free⟩
  change (p ⟨text, place⟩ >>= fun r => f r.1 r.2) = _
  rw [ran]
  exact failed

theorem fail : Declines (fail : Reader α) text := fun _ => ⟨_, rfl, rfl⟩

theorem refuse (start : Nat) (cause : Cause) : Declines (refuse start cause : Reader α) text :=
  fun _ => ⟨_, rfl, rfl⟩

end Declines

theorem reads_get : Reads (get : Reader Cursor) text (·.rest = text) text :=
  fun place => ⟨_, place, rfl, rfl⟩

theorem reads_place : Reads place text (fun _ => True) text := fun place => ⟨_, place, rfl, trivial⟩

theorem reads_peek : Reads peek text (· = text.head?) text := fun place => ⟨_, place, rfl, rfl⟩

theorem reads_next : Reads next (c :: rest) (· = c) rest := fun _ => ⟨c, _, rfl, rfl⟩

theorem reads_one (wanted : isWanted c) : Reads (one isWanted) (c :: rest) (· = c) rest := by
  refine reads_peek.step ?_
  simp only [List.head?_cons, wanted, if_true]
  exact reads_next

theorem declines_one (unwanted : ∀ c ∈ text.head?, isWanted c = false) :
    Declines (one isWanted) text := by
  refine .after reads_peek fun head same => ?_
  subst same
  cases text with
  | nil => exact .fail
  | cons c rest =>
      simp only [List.head?_cons, unwanted c rfl, Bool.false_eq_true, if_false]
      exact .fail

theorem reads_char (c : Char) : Reads (char c) (c :: rest) (fun _ => True) rest :=
  (reads_one (beq_self_eq_true c)).bind fun _ _ => .pure trivial

theorem declines_char (other : ∀ d ∈ text.head?, d ≠ c) : Declines (char c) text :=
  .bind (declines_one fun d head => beq_false_of_ne (other d head))

theorem takeWhile_append {taken : List Char} (all : ∀ c ∈ taken, isWanted c = true)
    (stop : ∀ c ∈ rest.head?, isWanted c = false) :
    (taken ++ rest).takeWhile isWanted = taken ∧ (taken ++ rest).dropWhile isWanted = rest := by
  rw [List.takeWhile_append_of_pos all, List.dropWhile_append_of_pos all]
  cases rest with
  | nil => simp
  | cons c rest => simp [stop c rfl]

theorem reads_takeWhile {taken : List Char} (all : ∀ c ∈ taken, isWanted c = true)
    (stop : ∀ c ∈ rest.head?, isWanted c = false) :
    Reads (takeWhile isWanted) (taken ++ rest) (· = taken) rest := by
  intro place
  obtain ⟨takes, drops⟩ := takeWhile_append all stop
  have read : takeWhile isWanted ⟨taken ++ rest, place⟩ =
      .ok ((taken ++ rest).takeWhile isWanted, ⟨(taken ++ rest).dropWhile isWanted,
        place + Utf8.length ((taken ++ rest).takeWhile isWanted)⟩) := rfl
  exact ⟨_, _, drops ▸ read, takes⟩

theorem reads_literal (wanted rest : List Char) :
    Reads (literal wanted) (wanted ++ rest) (fun _ => True) rest := by
  refine reads_get.bind fun c same => ?_
  rw [same, if_pos List.take_left, List.drop_left]
  exact fun _ => ⟨(), c.place + Utf8.length wanted, rfl, trivial⟩

theorem declines_literal {wanted : List Char} (other : ¬ wanted <+: text) :
    Declines (literal wanted) text := by
  refine .after reads_get fun c same => ?_
  rw [same, if_neg fun taken => other (List.prefix_iff_eq_take.2 taken.symm)]
  exact .fail

theorem reads_spaces {gap : List Char} (blank : ∀ c ∈ gap, isBlank c = true)
    (stop : ∀ c ∈ rest.head?, isBlank c = false) : Reads spaces (gap ++ rest) (fun _ => True) rest :=
  (reads_takeWhile blank stop).bind fun _ _ => .pure trivial

theorem reads_noSpaces (stop : ∀ c ∈ rest.head?, isBlank c = false) :
    Reads spaces rest (fun _ => True) rest :=
  reads_spaces (List.forall_mem_nil _) stop

theorem reads_orElse (reads : Reads p text Q rest) : Reads (orElse p q) text Q rest := by
  intro place
  obtain ⟨a, place', ran, holds⟩ := reads place
  exact ⟨a, place', by rw [orElse, ran], holds⟩

theorem reads_orElse_right (declines : Declines p text) (reads : Reads q text Q rest) :
    Reads (orElse p q) text Q rest := by
  intro place
  obtain ⟨fault, failed, free⟩ := declines place
  obtain ⟨a, place', ran, holds⟩ := reads place
  refine ⟨a, place', ?_, holds⟩
  rw [orElse, failed]
  simp only [free, Bool.false_eq_true, if_false, ran]

theorem declines_orElse (first : Declines p text) (second : Declines q text) :
    Declines (orElse p q) text := by
  intro place
  obtain ⟨fault, failed, free⟩ := first place
  obtain ⟨fault', failed', free'⟩ := second place
  refine ⟨fault', ?_, free'⟩
  rw [orElse, failed]
  simp only [free, Bool.false_eq_true, if_false, failed']

theorem reads_optional (reads : Reads p text Q rest) :
    Reads (optional p) text (fun found => ∃ a, found = some a ∧ Q a) rest :=
  reads_orElse reads.map

theorem reads_optional_none (declines : Declines p text) :
    Reads (optional p) text (· = none) text :=
  reads_orElse_right declines.map (.pure rfl)

theorem reads_onFault {change : Fault → Fault} (reads : Reads p text Q rest) :
    Reads (onFault change p) text Q rest := by
  intro place
  obtain ⟨a, place', ran, holds⟩ := reads place
  exact ⟨a, place', by rw [onFault, ran]; rfl, holds⟩

theorem declines_onFault {change : Fault → Fault} (declines : Declines p text)
    (keeps : ∀ fault, (change fault).committed = fault.committed) :
    Declines (onFault change p) text := by
  intro place
  obtain ⟨fault, failed, free⟩ := declines place
  exact ⟨change fault, by rw [onFault, failed]; rfl, (keeps fault).trans free⟩

theorem declines_labelled {label : String} (declines : Declines p text) :
    Declines (labelled label p) text :=
  declines_onFault declines fun _ => rfl

theorem reads_spanned (reads : Reads p text Q rest) :
    Reads (spanned p) text (fun found => Q found.2) rest :=
  reads_place.bind fun _ _ => reads.bind fun _ holds => reads_place.bind fun _ _ => .pure holds

inductive Repeats (p : Reader α) : List Char → List α → List Char → Prop
  | nil {rest : List Char} : Declines p rest → Repeats p rest [] rest
  | cons {text mid rest : List Char} {a : α} {others : List α} : Reads p text (· = a) mid →
      mid.length < text.length → Repeats p mid others rest → Repeats p text (a :: others) rest

theorem reads_go {found : List α} (repeats : Repeats p text found rest) {fuel : Nat}
    (enough : text.length ≤ fuel) : Reads (many.go p fuel) text (· = found) rest := by
  induction repeats generalizing fuel with
  | nil declines =>
      cases fuel with
      | zero => exact .pure rfl
      | succ fuel => exact (reads_optional_none declines).step (.pure rfl)
  | cons reads shorter _ ih =>
      cases fuel with
      | zero => omega
      | succ fuel =>
          refine (reads_optional reads).bind ?_
          rintro _ ⟨_, rfl, rfl⟩
          exact (ih (by omega)).step (.pure rfl)

theorem reads_many {found : List α} (repeats : Repeats p text found rest) :
    Reads (many p) text (· = found) rest :=
  reads_get.bind fun c same => reads_go repeats (Nat.le_of_eq (by rw [same]))

end Enclose.Toml.Reader
