import Enclose.Proofs.Nesting.Element
import Enclose.Proofs.Nesting.Passage

/-!
# The text of an element

An element that is read is a text in front of the rest, of a shape that depends on its kind
(`Shape`), and changes what is open accordingly (`shape_of_next?`).
-/

namespace Enclose.Nesting
open Script (isLineEnd)

/-- The text of a string between its quotes, as the language has it: a backslash also takes the two
characters that end a line together. -/
inductive Continued (quote : Char) : List Char → Prop
  | nil : Continued quote []
  | continuation {rest : List Char} : Continued quote rest →
      Continued quote ('\\' :: '\r' :: '\n' :: rest)
  | escape (c : Char) {rest : List Char} : Continued quote rest →
      Continued quote ('\\' :: c :: rest)
  | char {c : Char} {rest : List Char} : c ≠ quote → c ≠ '\\' → c ≠ '\n' →
      Continued quote rest → Continued quote (c :: rest)

section
variable {source text rest : List Char}

theorem stringText?_eq {quote : Char} (h : stringText? quote source = some (text, rest)) :
    source = text ++ quote :: rest ∧ Continued quote text := by
  induction source using stringText?.induct quote generalizing text with
  | case1 source ih =>
      simp only [stringText?, Option.map_eq_some_iff, Prod.mk.injEq] at h
      obtain ⟨⟨inner, _⟩, found, rfl, rfl⟩ := h
      obtain ⟨rfl, valid⟩ := ih found
      exact ⟨rfl, .continuation valid⟩
  | case2 c source single ih =>
      rw [stringText?.eq_2 _ _ _ single] at h
      simp only [Option.map_eq_some_iff, Prod.mk.injEq] at h
      obtain ⟨⟨inner, _⟩, found, rfl, rfl⟩ := h
      obtain ⟨rfl, valid⟩ := ih found
      exact ⟨rfl, .escape c valid⟩
  | case3 source noLine noEscape =>
      rw [stringText?.eq_3 _ _ _ noLine noEscape, if_pos rfl] at h
      cases h
      exact ⟨rfl, .nil⟩
  | case4 c source noLine noEscape other stops =>
      rw [stringText?.eq_3 _ _ _ noLine noEscape, if_neg other, if_pos stops] at h
      cases h
  | case5 c source noLine noEscape other goes ih =>
      rw [stringText?.eq_3 _ _ _ noLine noEscape, if_neg other, if_neg goes] at h
      simp only [Option.map_eq_some_iff, Prod.mk.injEq] at h
      obtain ⟨⟨inner, _⟩, found, rfl, rfl⟩ := h
      obtain ⟨rfl, valid⟩ := ih found
      simp only [not_or] at goes
      exact ⟨rfl, .char other goes.1 goes.2.1 valid⟩
  | case6 => cases h

def pieceEnd (interpolates : Bool) : List Char := if interpolates then ['$', '{'] else ['`']

theorem templateText?_eq {interpolates : Bool}
    (h : templateText? source = some (text, interpolates, rest)) :
    source = text ++ (pieceEnd interpolates ++ rest) ∧ TemplateText text := by
  induction source using templateText?.induct generalizing text with
  | case1 c source ih =>
      simp only [templateText?, Option.map_eq_some_iff, Prod.mk.injEq] at h
      obtain ⟨⟨inner, _, _⟩, found, rfl, rfl, rfl⟩ := h
      obtain ⟨rfl, valid⟩ := ih found
      exact ⟨rfl, .escape c valid⟩
  | case2 source => cases h; exact ⟨rfl, .nil⟩
  | case3 source => cases h; exact ⟨rfl, .nil⟩
  | case4 source noEscape noEnd noSign =>
      rw [templateText?.eq_4 _ _ noEscape noEnd noSign, if_pos rfl] at h
      cases h
  | case5 c source noEscape noEnd noSign other ih =>
      rw [templateText?.eq_4 _ _ noEscape noEnd noSign, if_neg other] at h
      simp only [Option.map_eq_some_iff, Prod.mk.injEq] at h
      obtain ⟨⟨inner, _, _⟩, found, rfl, rfl, rfl⟩ := h
      obtain ⟨rfl, valid⟩ := ih found
      refine ⟨rfl, .char noEnd other (fun dollar brace => ?_) valid⟩
      obtain ⟨more, rfl⟩ := List.head?_eq_some_iff.1 brace
      exact noSign _ dollar rfl
  | case6 => cases h

theorem blockText?_eq (h : blockText? source = some (text, rest)) :
    source = text ++ '*' :: '/' :: rest ∧ ¬ ['*', '/'] <:+: text := by
  induction source using blockText?.induct generalizing text with
  | case1 source =>
      cases h
      exact ⟨rfl, by simp⟩
  | case2 c source goes ih =>
      rw [blockText?.eq_2 _ _ goes] at h
      simp only [Option.map_eq_some_iff, Prod.mk.injEq] at h
      obtain ⟨⟨inner, _⟩, found, rfl, rfl⟩ := h
      obtain ⟨rfl, open'⟩ := ih found
      refine ⟨rfl, fun ends => ?_⟩
      rcases List.infix_cons_iff.1 ends with first | later
      · obtain ⟨more, same⟩ := first
        cases same
        exact goes _ rfl rfl
      · exact open' later
  | case3 => cases h

theorem escapeDigits?_eq (h : escapeDigits? source = some (text, rest)) :
    source = text ++ '}' :: rest ∧ ∀ c ∈ text, isHexDigit c = true := by
  unfold escapeDigits? at h
  split at h
  · next after =>
    cases h
    refine ⟨?_, fun c member => ?_⟩
    · rw [← after, List.takeWhile_append_dropWhile]
    · exact List.all_eq_true.1 List.all_takeWhile c member
  · cases h

inductive LineEnding (rest : List Char) : List Char → Prop
  | text : rest = [] → LineEnding rest []
  | single {c : Char} : isLineEnd c → LineEnding rest [c]
  | double : LineEnding rest ['\r', '\n']

theorem lineEnding_eq (ends : ∀ c ∈ source.head?, isLineEnd c = true) :
    source = (lineEnding source).1 ++ (lineEnding source).2 ∧
      LineEnding (lineEnding source).2 (lineEnding source).1 := by
  unfold lineEnding
  split
  · exact ⟨rfl, .double⟩
  · exact ⟨rfl, .single (ends _ rfl)⟩
  · exact ⟨rfl, .text rfl⟩

end

def pieceStart (resumes : Bool) : Char := if resumes then '}' else '`'

def interpolated (inside : Bool) (outer : List Frame) : List Frame :=
  if inside then .interpolation :: outer else outer

inductive Shape : Point → Element → Point → Prop
  | lineComment {p q : Point} {kind : LineComment} {text ending : List Char} :
      p.rest = kind.sign ++ (text ++ (ending ++ q.rest)) → (∀ c ∈ text, isLineEnd c = false) →
      LineEnding q.rest ending → q.opened = p.opened → Shape p (.lineComment kind text ending) q
  | blockComment {p q : Point} {text : List Char} :
      p.rest = '/' :: '*' :: (text ++ '*' :: '/' :: q.rest) → ¬ ['*', '/'] <:+: text →
      q.opened = p.opened → Shape p (.blockComment text) q
  | escape {p q : Point} {digits : List Char} :
      p.rest = '\\' :: 'u' :: '{' :: (digits ++ '}' :: q.rest) →
      (∀ c ∈ digits, isHexDigit c = true) → q.opened = p.opened → Shape p (.escape digits) q
  | blank {p q : Point} {c : Char} : p.rest = c :: q.rest → isBlank c → q.opened = p.opened →
      Shape p (.blank c) q
  | opening {p q : Point} {b : Bracket} : p.rest = b.opening :: q.rest →
      q.opened = .bracket b :: p.opened → Shape p (.opening b) q
  | closing {p q : Point} {b : Bracket} : p.rest = b.closing :: q.rest →
      p.opened = .bracket b :: q.opened → Shape p (.closing b) q
  | string {p q : Point} {quote : Quote} {text : List Char} :
      p.rest = quote.char :: (text ++ quote.char :: q.rest) → Continued quote.char text →
      q.opened = p.opened → Shape p (.string quote text) q
  | template {p q : Point} {resumes interpolates : Bool} {text : List Char} {outer : List Frame} :
      p.rest = pieceStart resumes :: (text ++ (pieceEnd interpolates ++ q.rest)) →
      TemplateText text → p.opened = interpolated resumes outer →
      q.opened = interpolated interpolates outer → Shape p (.template resumes text interpolates) q
  | char {p q : Point} {c : Char} : p.rest = c :: q.rest → isPlain c ∨ c = '/' →
      (c = '/' → ∀ d ∈ q.rest.head?, d ≠ '/' ∧ d ≠ '*') → q.opened = p.opened → Shape p (.char c) q

section
variable {goal : Goal} {p q : Point} {element : Element}

theorem shape_lineComment {kind : LineComment} (starts : p.starts goal kind)
    (h : p.lineComment kind = (element, q)) : Shape p element q := by
  simp only [Point.starts, Bool.and_eq_true] at starts
  obtain ⟨line, here⟩ := List.isPrefixOf_iff_prefix.1 starts.1
  have ends : ∀ c ∈ (line.dropWhile (!isLineEnd ·)).head?, isLineEnd c = true := by
    intro c first
    have stops := List.head?_dropWhile_not (!isLineEnd ·) line
    rw [first] at stops
    simpa using stops
  obtain ⟨rest, ending⟩ := lineEnding_eq ends
  rw [Point.lineComment, ← here, List.drop_left] at h
  obtain ⟨rfl, rfl⟩ := Prod.mk.inj h
  refine .lineComment ?_ (fun c member => ?_) ending rfl
  · rw [← rest, List.takeWhile_append_dropWhile, here]
  · simpa using List.all_eq_true.1 List.all_takeWhile c member

theorem shape_template (resumes : Bool) {source : List Char} {outer : List Frame}
    (here : p.rest = pieceStart resumes :: source) (opened : p.opened = interpolated resumes outer)
    (h : Point.template? resumes source outer = some (element, q)) : Shape p element q := by
  obtain ⟨⟨text, interpolates, rest⟩, found, same⟩ := Option.map_eq_some_iff.1 h
  obtain ⟨rfl, valid⟩ := templateText?_eq found
  cases same
  exact .template here valid opened rfl

theorem shape_close {b : Bracket} {source : List Char} (here : p.rest = b.closing :: source)
    (h : Point.close? b source p.opened = some (element, q)) : Shape p element q := by
  cases opened : p.opened with
  | nil => rw [opened] at h; cases h
  | cons frame outer =>
      rw [opened] at h
      cases frame with
      | bracket open' =>
          simp only [Point.close?] at h
          split at h
          · next same =>
            cases h
            exact .closing here (by rw [opened, same]; rfl)
          · cases h
      | interpolation =>
          simp only [Point.close?] at h
          split at h
          · next same =>
            subst same
            exact shape_template true here opened h
          · cases h

theorem isPlain_of_none {c : Char} (noOpening : Bracket.ofOpening? c = none)
    (noClosing : Bracket.ofClosing? c = none) (noQuote : Quote.ofChar? c = none)
    (noTemplate : c ≠ '`') : isPlain c ∨ c = '/' := by
  have opening := Bracket.ofOpening?_eq_none noOpening
  have closing := Bracket.ofClosing?_eq_none noClosing
  have quote := Quote.ofChar?_eq_none noQuote
  by_cases slash : c = '/'
  · exact .inr slash
  · exact .inl (by simp [isPlain, signs, opening, closing, quote, noTemplate, slash])

theorem shape_token {c : Char} {source : List Char} (here : p.rest = c :: source)
    (division : c = '/' → ∀ d ∈ source.head?, d ≠ '/' ∧ d ≠ '*')
    (h : p.token? c source = some (element, q)) : Shape p element q := by
  unfold Point.token? at h
  split at h
  · next b opens =>
    cases h
    exact .opening (by rw [here, Bracket.ofOpening?_eq_some opens]; rfl) rfl
  · next noOpening =>
    split at h
    · next b closes =>
      exact shape_close (by rw [here, Bracket.ofClosing?_eq_some closes]) h
    · next noClosing =>
      split at h
      · next quote quotes =>
        obtain ⟨⟨text, rest⟩, found, same⟩ := Option.map_eq_some_iff.1 h
        obtain rfl := Quote.ofChar?_eq_some quotes
        obtain ⟨rfl, valid⟩ := stringText?_eq found
        cases same
        exact .string here valid rfl
      · next noQuote =>
        split at h
        · next quote =>
          exact shape_template false (by rw [here, quote]; rfl) rfl h
        · next noTemplate =>
          cases h
          exact .char here (isPlain_of_none noOpening noClosing noQuote noTemplate) division rfl

theorem shape_of_next? (h : p.next? goal = some (element, q)) : Shape p element q := by
  unfold Point.next? at h
  split at h
  · next kind _ found =>
    exact shape_lineComment (List.find?_some found) (Option.some.inj h)
  · next _ here =>
    obtain ⟨⟨text, rest⟩, found, same⟩ := Option.map_eq_some_iff.1 h
    obtain ⟨rfl, ends⟩ := blockText?_eq found
    cases same
    exact .blockComment here ends rfl
  · next _ here =>
    obtain ⟨⟨text, rest⟩, found, same⟩ := Option.map_eq_some_iff.1 h
    obtain ⟨rfl, digits⟩ := escapeDigits?_eq found
    cases same
    exact .escape here digits rfl
  · next c source noBlock _ noLine here =>
    split at h
    · next blank =>
      cases h
      exact .blank here blank rfl
    · next solid =>
      refine shape_token here (fun slash d first => ⟨fun same => ?_, fun same => ?_⟩) h
      · obtain ⟨more, rfl⟩ := List.head?_eq_some_iff.1 first
        have none := List.find?_eq_none.1 noLine .slashes (by decide)
        exact none (by simp [Point.starts, here, slash, same, LineComment.sign, List.isPrefixOf])
      · obtain ⟨more, rfl⟩ := List.head?_eq_some_iff.1 first
        exact noBlock _ slash (by rw [same])
  · cases h

end

end Enclose.Nesting
