import Enclose.Proofs.Toml.BasicString
import Enclose.Proofs.Toml.Number
import Enclose.Toml.Document

/-!
# Lines of a configuration text

A line with a header, or with a key and its value, is taken as a whole, and changes the document as
the header or the entry does (`reads_headerLine`, `reads_entryLine`).
-/

namespace Enclose.Toml

open Reader

inductive Plain where
  | text (value : String)
  | number (value : Nat)
  | truth (value : Bool)

inductive Writes : Plain → List Char → Prop
  | text {written : List Char} {value : String} : Spells written value.toList →
      Writes (.text value) ('"' :: (written ++ ['"']))
  | number {value : Nat} : (value : Int) ≤ maxInteger → Writes (.number value) (Nat.toDigits 10 value)
  | truth (value : Bool) : Writes (.truth value) (if value then "true" else "false").toList

inductive Item.Has : Item → Plain → Prop
  | string (span : Span) (value : String) : Has (.string span value) (.text value)
  | integer (span : Span) (value : Nat) : Has (.integer span value) (.number value)
  | boolean (span : Span) (value : Bool) : Has (.boolean span value) (.truth value)

variable {text rest : List Char}

theorem Writes.head {v : Plain} (writes : Writes v text) :
    ∀ c ∈ (text ++ rest).head?, isBlank c = false := by
  cases writes with
  | text spells =>
      rintro c ⟨⟩
      decide
  | @number value small =>
      obtain ⟨d, ds, digits, -⟩ := toDigits_eq_cons value
      have digit := areDigits_toDigits value d (by simp [digits])
      rw [digits]
      rintro c ⟨⟩
      rw [isBlank, Bool.or_eq_false_iff]
      constructor <;> refine beq_false_of_ne fun same => ?_ <;> subst same <;> cases digit
  | truth value =>
      cases value <;> rintro c ⟨⟩ <;> decide

namespace Reader

theorem reads_wordValue {word : List Char} :
    Reads (wordValue word true) (word ++ rest) (fun _ => True) rest :=
  reads_onFault (reads_onFault (reads_onFault (reads_literal word rest)))

theorem reads_valueOf {element : Option (Reader Item)} {v : Plain} (writes : Writes v text) :
    Reads (valueOf element) (text ++ '\n' :: rest) (·.Has v) ('\n' :: rest) := by
  have make {p : Reader (Span → Item)}
      (reads : Reads p (text ++ '\n' :: rest) (fun make => ∀ span, (make span).Has v) ('\n' :: rest)) :
      Reads (do
        let made ← spanned p
        return made.2 made.1) (text ++ '\n' :: rest) (·.Has v) ('\n' :: rest) :=
    (reads_spanned reads).bind fun _ holds => .pure (holds _)
  refine reads_place.bind fun _ _ => make (reads_peek.step ?_)
  cases writes with
  | @text written value spells =>
      rw [List.cons_append, List.append_assoc]
      refine (reads_string spells ?_).bind fun s same => .pure fun span => ?_
      · rintro c ⟨⟩
        decide
      · subst same
        rw [String.ofList_toList]
        exact .string span value
  | @number value small =>
      obtain ⟨d, ds, digits, -⟩ := toDigits_eq_cons value
      have digit : d.isDigit = true := areDigits_toDigits value d (by simp [digits])
      have head : (Nat.toDigits 10 value ++ '\n' :: rest).head? = some d := by rw [digits]; rfl
      have number : Reads numeral (Nat.toDigits 10 value ++ '\n' :: rest)
          (fun make => ∀ span, (make span).Has (.number value)) ('\n' :: rest) :=
        (reads_numeral small).mono fun make same span => same span ▸ .integer span value
      rw [head]
      -- A digit is none of the characters that other values start with.
      simp only
      split
      case h_11 =>
        rw [if_pos (by simp [digit])]
        exact number
      all_goals exact absurd digit (by decide)
  | truth value =>
      cases value with
      | true => exact reads_wordValue.bind fun _ _ => .pure fun span => .boolean span true
      | false => exact reads_wordValue.bind fun _ _ => .pure fun span => .boolean span false

theorem reads_value {v : Plain} (writes : Writes v text) (depth : Nat) :
    Reads (value depth) (text ++ '\n' :: rest) (·.Has v) ('\n' :: rest) := by
  cases depth <;> exact reads_valueOf writes

def IsBare (name : String) : Prop := name.toList ≠ [] ∧ ∀ c ∈ name.toList, isKeyChar c = true

theorem ne_of_isKeyChar {c d : Char} (keyChar : isKeyChar c = true) (other : isKeyChar d = false) :
    c ≠ d := by
  rintro rfl
  rw [keyChar] at other
  cases other

theorem reads_keyPart {name : String} (bare : IsBare name) (stop : ∀ c ∈ rest.head?, isKeyChar c = false) :
    Reads keyPart (name.toList ++ rest) (·.name = name) rest := by
  obtain ⟨nonempty, all⟩ := bare
  obtain ⟨c, cs, chars⟩ := List.exists_cons_of_ne_nil nonempty
  rw [chars] at all
  obtain ⟨first, others⟩ := List.forall_mem_cons.1 all
  have taken : Reads (String.ofList <$> takeSome isKeyChar) (name.toList ++ rest) (· = name) rest := by
    rw [chars]
    refine (reads_takeSome first others stop).map.mono ?_
    rintro _ ⟨_, rfl, rfl⟩
    rw [← chars, String.ofList_toList]
  unfold keyPart
  refine (reads_spanned (Q := (· = name)) (reads_peek.step ?_)).bind fun _ same => .pure same
  split
  case h_3 => exact taken
  all_goals
    rename_i head
    rw [chars] at head
    cases head
    exact absurd first (by decide)

theorem isKeyChar_of_isBlank {c : Char} (blank : isBlank c = true) : isKeyChar c = false := by
  simp only [isBlank, Bool.or_eq_true, beq_iff_eq] at blank
  rcases blank with rfl | rfl <;> decide

theorem isBlank_of_isKeyChar {c : Char} (keyChar : isKeyChar c = true) : isBlank c = false :=
  Bool.eq_false_iff.2 fun blank => absurd (isKeyChar_of_isBlank blank) (by simp [keyChar])

theorem IsBare.head {name : String} (bare : IsBare name) :
    ∃ c, (name.toList ++ rest).head? = some c ∧ isKeyChar c = true := by
  obtain ⟨c, cs, chars⟩ := List.exists_cons_of_ne_nil bare.1
  exact ⟨c, by rw [chars]; rfl, bare.2 c (by simp [chars])⟩

theorem reads_key {name : String} {gap : List Char} (bare : IsBare name)
    (blank : ∀ c ∈ gap, isBlank c = true)
    (stop : ∀ c ∈ rest.head?, isBlank c = false ∧ isKeyChar c = false ∧ c ≠ '.') :
    Reads key (name.toList ++ (gap ++ rest)) (fun parts => ∃ k : Key, k.name = name ∧ parts = [k])
      rest := by
  have ends : ∀ c ∈ (gap ++ rest).head?, isKeyChar c = false := by
    cases gap with
    | nil => exact fun c head => (stop c head).2.1
    | cons g gap =>
        rintro _ ⟨⟩
        exact isKeyChar_of_isBlank (blank g List.mem_cons_self)
  have part : Reads (do spaces; let k ← keyPart; spaces; return k) (name.toList ++ (gap ++ rest))
      (·.name = name) rest := by
    obtain ⟨first, head, keyChar⟩ := @IsBare.head (gap ++ rest) name bare
    refine (reads_noSpaces fun c same => ?_).bind fun _ _ => ?_
    · rw [head] at same
      cases same
      exact isBlank_of_isKeyChar keyChar
    refine (reads_keyPart bare ends).bind fun k named => ?_
    exact (reads_spaces blank fun c head => (stop c head).1).bind fun _ _ => .pure named
  have parts : Reads (separated (do spaces; let k ← keyPart; spaces; return k) (char '.'))
      (name.toList ++ (gap ++ rest)) (fun parts => ∃ k : Key, k.name = name ∧ parts = [k]) rest := by
    refine part.bind fun k named => (reads_many (.nil ?_)).step (.pure ⟨k, named, rfl⟩)
    exact .bind (declines_char fun c head => (stop c head).2.2)
  refine reads_place.bind fun _ _ => (reads_onFault parts).bind ?_
  rintro _ ⟨k, named, rfl⟩
  exact .pure ⟨k, named, rfl⟩

theorem reads_lineTail : Reads lineTail ('\n' :: rest) (fun _ => True) rest := by
  refine reads_onFault ((reads_noSpaces ?_).bind fun _ _ => ?_)
  · rintro c ⟨⟩
    decide
  · refine (reads_optional_none (.bind (declines_char ?_))).step ?_
    · rintro c ⟨⟩
      decide
    · exact reads_orElse (reads_orElse (reads_char '\n'))

def entryText (name : String) (written : List Char) : List Char :=
  name.toList ++ (' ' :: '=' :: ' ' :: (written ++ ['\n']))

def headerText (name : String) : List Char := '[' :: (name.toList ++ [']', '\n'])

theorem reads_entry {name : String} {v : Plain} (bare : IsBare name) (writes : Writes v text) :
    Reads entry (entryText name text ++ rest)
      (fun found => (∃ k : Key, k.name = name ∧ found.1 = [k]) ∧ found.2.Has v) rest := by
  have layout : entryText name text ++ rest =
      name.toList ++ ([' '] ++ '=' :: ([' '] ++ (text ++ '\n' :: rest))) := by
    simp [entryText]
  rw [layout]
  have blank : ∀ c ∈ [' '], isBlank c = true := List.forall_mem_singleton.2 rfl
  refine (reads_key bare blank ?_).bind fun path named => ?_
  · rintro c ⟨⟩
    decide
  refine reads_onFault ((reads_onFault (reads_char '=')).bind fun _ _ => ?_)
  refine (reads_spaces blank writes.head).bind fun _ _ => ?_
  refine (reads_value writes maxDepth).bind fun item has => ?_
  exact reads_lineTail.bind fun _ _ => .pure ⟨named, has⟩

theorem reads_header {name : String} (bare : IsBare name) :
    Reads header (headerText name ++ rest)
      (fun found => found.1 = false ∧ ∃ k : Key, k.name = name ∧ found.2.1 = [k]) rest := by
  have layout : headerText name ++ rest = '[' :: (name.toList ++ ([] ++ ']' :: '\n' :: rest)) := by
    simp [headerText]
  rw [layout]
  refine reads_get.bind fun c same => ?_
  obtain ⟨first, others, chars⟩ := List.exists_cons_of_ne_nil bare.1
  have start : c.rest.take 2 = ['[', first] := by
    rw [same, chars]
    rfl
  have other : first ≠ '[' := ne_of_isKeyChar (bare.2 first (by simp [chars])) (by decide)
  have isSingle : ¬ ['[', first] = ['[', '['] := by simp [other]
  have path := @reads_key (']' :: '\n' :: rest) name [] bare (List.forall_mem_nil _) (by
    rintro c ⟨⟩
    decide)
  have closed (path : List Key) (named : ∃ k : Key, k.name = name ∧ path = [k]) :
      Reads (do commit (expecting ["`.`", "`]`"] (char ']')); return path) (']' :: '\n' :: rest)
        (fun path => ∃ k : Key, k.name = name ∧ path = [k]) ('\n' :: rest) :=
    (reads_onFault (reads_onFault (reads_char ']'))).bind fun _ _ => .pure named
  simp only [start]
  rw [if_neg (by simp), if_neg isSingle]
  refine (reads_spanned ((reads_char '[').bind fun _ _ => (reads_onFault path).bind closed)).bind ?_
  rintro ⟨span, path⟩ named
  exact (reads_onFault reads_lineTail).bind fun _ _ => .pure ⟨decide_eq_false isSingle, named⟩

theorem reads_entryLine {d : Document} {name : String} {v : Plain} {P : Document → Prop}
    (bare : IsBare name) (writes : Writes v text)
    (adds : ∀ (k : Key) (item : Item), k.name = name → item.Has v →
      ∃ d', d.addEntry [k] item = .ok d' ∧ P d') :
    Reads (line d) (entryText name text ++ rest) P rest := by
  refine reads_peek.step ?_
  obtain ⟨c, head, keyChar⟩ : ∃ c, (entryText name text ++ rest).head? = some c ∧ isKeyChar c = true := by
    rw [entryText, List.append_assoc]
    exact bare.head
  -- A key starts with none of the characters that lines of other kinds start with.
  split
  case h_5 =>
    refine reads_onFault (reads_place.bind fun start _ => (reads_entry bare writes).bind ?_)
    rintro ⟨_, item⟩ ⟨⟨k, named, rfl⟩, has⟩
    obtain ⟨d', added, holds⟩ := adds k item named has
    simp only [added]
    exact .pure holds
  case h_6 ended =>
    rw [head] at ended
    cases ended
  all_goals
    rename_i other
    rw [head] at other
    cases other
    exact absurd keyChar (by decide)

theorem reads_headerLine {d : Document} {name : String} {P : Document → Prop} (bare : IsBare name)
    (adds : ∀ (k : Key) (span : Span), k.name = name → ∃ d', d.addHeader false [k] span = .ok d' ∧ P d') :
    Reads (line d) (headerText name ++ rest) P rest := by
  refine reads_peek.step (reads_onFault (reads_onFault (reads_place.bind fun start _ => ?_)))
  refine (reads_header bare).bind ?_
  rintro ⟨_, _, span⟩ ⟨rfl, k, named, rfl⟩
  obtain ⟨d', added, holds⟩ := adds k span named
  simp only [added]
  exact .pure holds

end Reader

end Enclose.Toml
