import Enclose.Proofs.Nesting.Shape

/-!
# The guard along an element

Between two elements the guard is in code, and its depth is the number of brackets and
interpolations that are open (`Agrees`). It remains so along an element that ends for the guard
where it ends for the language (`Element.Agreed`, `agrees_of_shape`).
-/

namespace Enclose.Nesting
open Script (isLineEnd)

def isHarmless : List Char → Bool
  | [] => true
  | c :: rest =>
    (isPlain c || (c == '/' && rest.head?.all fun d => d != '/' && d != '*')) && isHarmless rest

/-- The guard ends an element where the language ends it. For the guard a line ends at a line feed
only, a backslash in a string takes a single character, and there are no comments but those that
start with a slash. -/
def Element.Agreed : Element → Prop
  | .lineComment .slashes _ ending => ending ∈ [[], ['\n'], ['\r', '\n']]
  | .lineComment _ text _ => isHarmless text
  | .string _ text => ¬ ['\r', '\n'] <:+: text
  | _ => True

instance (element : Element) : Decidable element.Agreed := by
  unfold Element.Agreed
  exact
    match element with
    | .lineComment .slashes _ ending => inferInstanceAs (Decidable (ending ∈ _))
    | .lineComment .hashbang text _ => inferInstanceAs (Decidable (isHarmless text = true))
    | .lineComment .htmlOpen text _ => inferInstanceAs (Decidable (isHarmless text = true))
    | .lineComment .htmlClose text _ => inferInstanceAs (Decidable (isHarmless text = true))
    | .string _ text =>
      @instDecidableNot _ (List.instDecidableIsInfixOfDecidableEq ['\r', '\n'] text)
    | .blank _ | .blockComment _ | .opening _ | .closing _ | .template _ _ _ | .escape _
    | .char _ => isTrue trivial

def resumeDepths : List Frame → List Nat
  | [] => []
  | .interpolation :: outer => (outer.length + 1) :: resumeDepths outer
  | .bracket _ :: outer => resumeDepths outer

theorem le_of_mem_resumeDepths {opened : List Frame} :
    ∀ depth ∈ resumeDepths opened, depth ≤ opened.length := by
  induction opened with
  | nil => simp [resumeDepths]
  | cons frame outer ih =>
      cases frame with
      | bracket b => exact fun depth member => Nat.le_succ_of_le (ih depth member)
      | interpolation =>
          exact List.forall_mem_cons.2 ⟨Nat.le_refl _, fun depth member =>
            Nat.le_succ_of_le (ih depth member)⟩

/-- Further in, no bracket but the brace of an interpolation brings the guard back to a template. -/
theorem resume_ne_of_lt {opened : List Frame} {depth : Nat} (deeper : opened.length < depth) :
    ∀ resume ∈ (resumeDepths opened).head?, resume ≠ depth := by
  intro resume first
  have bound := le_of_mem_resumeDepths resume (List.mem_of_mem_head? first)
  omega

def InCode (mode : Mode) (rest : List Char) : Prop :=
  mode = .code ∨ mode = .slash ∧ ∀ c ∈ rest.head?, c ≠ '/' ∧ c ≠ '*'

structure Agrees (s : Scanner) (p : Point) : Prop where
  mode : p.rest = [] ∨ InCode s.mode p.rest
  depth : s.depth = p.opened.length
  templates : s.templates = resumeDepths p.opened
  fits : s.depth ≤ maxDepth

theorem readCode_inMode (s : Scanner) (mode : Mode) (c : Char) :
    Scanner.readCode { s with mode } c = s.readCode c := by
  unfold Scanner.readCode
  split <;> rfl

theorem InCode.scan_eq {s : Scanner} {c : Char} {rest : List Char}
    (inCode : InCode s.mode (c :: rest)) (text : List Char) :
    scan s (c :: text) = scan { s with mode := .code } (c :: text) := by
  rcases inCode with code | ⟨slash, starts⟩
  · rw [Scanner.inMode_self code]
  · obtain ⟨noSlash, noStar⟩ := starts c rfl
    have left : s.step c = (s.advance c).readCode c := by
      simp [Scanner.step, Scanner.read, slash, noSlash, noStar]
    have right : Scanner.step { s with mode := .code } c =
        Scanner.readCode { s.advance c with mode := .code } c := by
      simp [Scanner.step, Scanner.read]
    have step : s.step c = Scanner.step { s with mode := .code } c :=
      left.trans ((readCode_inMode (s.advance c) .code c).symm.trans right.symm)
    rw [scan_cons, scan_cons, step]

namespace Agrees

variable {s t : Scanner} {p q : Point}

theorem inCode (agrees : Agrees s p) : Agrees { s with mode := .code } p :=
  ⟨.inr (.inl rfl), agrees.depth, agrees.templates, agrees.fits⟩

theorem moved (agrees : Agrees s p) (same : q.opened = p.opened) (depth : t.depth = s.depth)
    (templates : t.templates = s.templates) (mode : q.rest = [] ∨ InCode t.mode q.rest) :
    Agrees t q where
  mode := mode
  depth := by rw [depth, agrees.depth, same]
  templates := by rw [templates, agrees.templates, same]
  fits := by rw [depth]; exact agrees.fits

theorem along (agrees : Agrees s p) (code : s.mode = .code) (same : q.opened = p.opened)
    (text : List Char) : Agrees (s.along text) q :=
  agrees.moved same (by simp) (by simp) (.inr (.inl (by simpa using code)))

end Agrees

theorem scan_plainText {text : List Char} (plain : text.all isPlain) {s : Scanner}
    (code : s.mode = .code) : scan s text = .ok (s.along text) := by
  induction text generalizing s with
  | nil => rfl
  | cons c rest ih =>
      simp only [List.all_cons, Bool.and_eq_true] at plain
      rw [← List.singleton_append, scan_append_ok (scan_plain plain.1 code),
        ih plain.2 (by simpa using code), Scanner.along_append]

theorem scan_slash {s : Scanner} (code : s.mode = .code) :
    scan s ['/'] = .ok (Scanner.along { s with mode := .slash } ['/']) := by
  simp [scan_cons, Scanner.step, Scanner.read, Scanner.readCode, code, bind, Except.bind,
    Scanner.along_cons, Scanner.along_nil]

theorem scan_harmless {text : List Char} (h : isHarmless text) {s : Scanner}
    (inCode : InCode s.mode text) :
    ∃ mode, (mode = .code ∨ mode = .slash) ∧
      scan s text = .ok (Scanner.along { s with mode } text) := by
  induction text generalizing s with
  | nil => exact ⟨s.mode, inCode.imp_right And.left, rfl⟩
  | cons c rest ih =>
      simp only [isHarmless, Bool.and_eq_true, Bool.or_eq_true, beq_iff_eq] at h
      obtain ⟨first, others⟩ := h
      have step : ∃ mode, InCode mode rest ∧
          scan s [c] = .ok (Scanner.along { s with mode } [c]) := by
        rw [inCode.scan_eq]
        rcases first with plain | ⟨rfl, apart⟩
        · exact ⟨.code, .inl rfl, scan_plain plain rfl⟩
        · refine ⟨.slash, .inr ⟨rfl, fun d next => ?_⟩, scan_slash rfl⟩
          rw [Option.mem_def.1 next] at apart
          simpa using apart
      -- A slash may be noted before the rest, which is why both modes are in the induction.
      obtain ⟨mode, next, step⟩ := step
      obtain ⟨mode', ends, scans⟩ :=
        ih others (s := Scanner.along { s with mode } [c]) (by simpa using next)
      refine ⟨mode', ends, ?_⟩
      rw [← List.singleton_append, scan_append_ok step, scans]
      simp [Scanner.along_cons, Scanner.along_nil]

theorem isPlain_of_isBlank {c : Char} (blank : isBlank c) : isPlain c :=
  isPlain_of (by decide) blank

theorem isPlain_of_isLineEnd {c : Char} (ends : isLineEnd c) : isPlain c ∧ c ≠ '/' ∧ c ≠ '*' := by
  refine ⟨isPlain_of (by decide) ends, ?_, ?_⟩ <;> rintro rfl <;> exact absurd ends (by decide)

theorem scan_lineEndChar {c : Char} (ends : isLineEnd c) {s : Scanner}
    (mode : s.mode = .code ∨ s.mode = .slash) :
    scan s [c] = .ok (Scanner.along { s with mode := .code } [c]) := by
  obtain ⟨plain, noSlash, noStar⟩ := isPlain_of_isLineEnd ends
  have inCode : InCode s.mode [c] := mode.imp_right fun slash => ⟨slash, by simp [noSlash, noStar]⟩
  rw [inCode.scan_eq]
  exact scan_plain plain rfl

theorem stringText_of_continued {quote : Char} {text : List Char} (h : Continued quote text)
    (agreed : ¬ ['\r', '\n'] <:+: text) : StringText quote text := by
  induction h with
  | nil => exact .nil
  | continuation _ _ => exact absurd ⟨['\\'], _, rfl⟩ agreed
  | escape c _ ih =>
      exact .escape c (ih fun found => agreed (found.trans (List.suffix_append [_, _] _).isInfix))
  | char other plain within _ ih =>
      exact .char other plain within (ih fun found => agreed (List.infix_cons found))

theorem scan_piece {s t : Scanner} {q : Point} {text : List Char} {interpolates : Bool}
    {outer : List Frame} (inside : s.mode = .template) (depth : s.depth = outer.length)
    (templates : s.templates = resumeDepths outer) (fits : s.depth ≤ maxDepth)
    (valid : TemplateText text) (opened : q.opened = interpolated interpolates outer)
    (done : scan s (text ++ pieceEnd interpolates) = .ok t) : Agrees t q := by
  cases interpolates with
  | false =>
      rw [show pieceEnd false = ['`'] from rfl, scan_templateEnd valid inside] at done
      cases done
      exact ⟨.inr (.inl (by simp)), by simpa [opened, interpolated] using depth,
        by simpa [opened, interpolated] using templates, by simpa using fits⟩
  | true =>
      rw [show pieceEnd true = ['$', '{'] from rfl, scan_interpolation valid inside] at done
      split at done
      · next deep =>
        cases done
        exact ⟨.inr (.inl (by simp)), by simp [opened, interpolated, depth],
          by simp [opened, interpolated, resumeDepths, depth, templates],
          by simpa using Nat.succ_le_of_lt deep⟩
      · cases done

/-- The guard, from code, may only come to agree with a point when it has read the text up to it. -/
def Passes (s : Scanner) (p q : Point) : Prop :=
  ∃ text, text ≠ [] ∧ p.rest = text ++ q.rest ∧ ∀ t, scan s text = .ok t → Agrees t q

section
variable {s : Scanner} {p q : Point} (agrees : Agrees s p) (code : s.mode = .code)
include agrees code

theorem passes_along {text : List Char} (nonempty : text ≠ []) (here : p.rest = text ++ q.rest)
    (same : q.opened = p.opened) (scans : scan s text = .ok (s.along text)) : Passes s p q := by
  refine ⟨text, nonempty, here, fun t done => ?_⟩
  rw [scans] at done
  cases done
  exact agrees.along code same text

theorem passes_lineComment {text ending : List Char}
    (here : p.rest = '/' :: '/' :: (text ++ (ending ++ q.rest))) (line : '\n' ∉ text)
    (ends : LineEnding q.rest ending) (agreed : ending ∈ [[], ['\n'], ['\r', '\n']])
    (same : q.opened = p.opened) : Passes s p q := by
  simp only [List.mem_cons, List.not_mem_nil, or_false] at agreed
  rcases agreed with rfl | rfl | rfl
  · have ended : q.rest = [] := by
      cases ends
      assumption
    refine ⟨'/' :: '/' :: text, by simp, by simpa using here, fun t done => ?_⟩
    rw [scan_lineComment line code] at done
    cases done
    exact agrees.moved same (by simp) (by simp) (.inl ended)
  · exact passes_along agrees code (by simp) (by simpa using here) same (scan_line line code)
  · have line' : '\n' ∉ text ++ ['\r'] := by simp [line]
    exact passes_along agrees code (by simp) (by simpa using here) same (scan_line line' code)

theorem passes_harmless {text ending : List Char} (nonempty : text ≠ [])
    (here : p.rest = text ++ (ending ++ q.rest)) (harmless : isHarmless text)
    (ends : LineEnding q.rest ending) (same : q.opened = p.opened) : Passes s p q := by
  obtain ⟨mode, noted, scans⟩ := scan_harmless harmless (s := s) (.inl code)
  refine ⟨text ++ ending, by simp [nonempty], by simpa using here, fun t done => ?_⟩
  rw [scan_append_ok scans] at done
  cases ends with
  | text ended =>
      cases done
      exact agrees.moved same (by simp) (by simp) (.inl ended)
  | @single c ends =>
      rw [scan_lineEndChar ends (by simpa using noted)] at done
      cases done
      simpa [Scanner.along_append] using agrees.inCode.along rfl same (text ++ [c])
  -- The carriage return clears a noted slash, so the line feed stands in code.
  | double =>
      have first := scan_lineEndChar (c := '\r') rfl (s := Scanner.along { s with mode } text)
        (by simpa using noted)
      have second := scan_lineEndChar (c := '\n') rfl (s := Scanner.along
        { Scanner.along { s with mode } text with mode := .code } ['\r']) (.inl (by simp))
      rw [← List.singleton_append, scan_append_ok first, second] at done
      cases done
      simpa [Scanner.along_append, Scanner.along_cons, Scanner.along_nil] using
        agrees.inCode.along rfl same (text ++ ['\r', '\n'])

theorem passes_blockComment {text : List Char}
    (here : p.rest = '/' :: '*' :: (text ++ '*' :: '/' :: q.rest)) (ends : ¬ ['*', '/'] <:+: text)
    (same : q.opened = p.opened) : Passes s p q :=
  passes_along agrees code (by simp) (by simpa using here) same (scan_blockComment ends code)

theorem passes_plain {c : Char} (here : p.rest = c :: q.rest) (plain : isPlain c)
    (same : q.opened = p.opened) : Passes s p q :=
  passes_along agrees code (by simp) (by simpa using here) same (scan_plain plain code)

theorem passes_slash (here : p.rest = '/' :: q.rest)
    (division : ∀ c ∈ q.rest.head?, c ≠ '/' ∧ c ≠ '*') (same : q.opened = p.opened) :
    Passes s p q := by
  refine ⟨['/'], by simp, here, fun t done => ?_⟩
  rw [scan_slash code] at done
  cases done
  exact agrees.moved same (by simp) (by simp) (.inr (.inr ⟨by simp, division⟩))

theorem passes_opening {b : Bracket} (here : p.rest = b.opening :: q.rest)
    (opened : q.opened = .bracket b :: p.opened) : Passes s p q := by
  refine ⟨[b.opening], by simp, here, fun t done => ?_⟩
  rw [scan_open b.opening_cases code] at done
  split at done
  · next deep =>
    cases done
    exact ⟨.inr (.inl (by simpa using code)), by simp [opened, agrees.depth],
      by simpa [opened, resumeDepths] using agrees.templates,
      by simpa using Nat.succ_le_of_lt deep⟩
  · cases done

theorem passes_closing {b : Bracket} (here : p.rest = b.closing :: q.rest)
    (opened : p.opened = .bracket b :: q.opened) : Passes s p q := by
  have depth : s.depth = q.opened.length + 1 := by rw [agrees.depth, opened]; rfl
  have templates : s.templates = resumeDepths q.opened := by rw [agrees.templates, opened]; rfl
  have other : ∀ resume ∈ s.templates.head?, resume ≠ s.depth := by
    rw [templates, depth]
    exact resume_ne_of_lt (Nat.lt_succ_self _)
  refine ⟨[b.closing], by simp, here, fun t done => ?_⟩
  rw [scan_close b.closing_cases code other] at done
  cases done
  exact ⟨.inr (.inl (by simpa using code)), by simp [depth], by simpa using templates, by
    have fits := agrees.fits
    simp
    omega⟩

theorem passes_string {quote : Quote} {text : List Char}
    (here : p.rest = quote.char :: (text ++ quote.char :: q.rest))
    (valid : Continued quote.char text) (agreed : ¬ ['\r', '\n'] <:+: text)
    (same : q.opened = p.opened) : Passes s p q :=
  passes_along agrees code (by simp) (by simpa using here) same
    (scan_string quote.char_cases (stringText_of_continued valid agreed) code)

theorem passes_escape {digits : List Char}
    (here : p.rest = '\\' :: 'u' :: '{' :: (digits ++ '}' :: q.rest))
    (hex : ∀ c ∈ digits, isHexDigit c = true) (same : q.opened = p.opened) : Passes s p q := by
  have plain : digits.all isPlain = true := List.all_eq_true.2 fun c member =>
    isPlain_of (by decide) (hex c member)
  have other : ∀ resume ∈ s.templates.head?, resume ≠ s.depth + 1 := by
    rw [agrees.templates, agrees.depth]
    exact resume_ne_of_lt (Nat.lt_succ_self _)
  have mark : scan s ['\\', 'u'] = .ok (s.along ['\\', 'u']) := scan_plainText (by decide) code
  refine ⟨['\\', 'u'] ++ (['{'] ++ (digits ++ ['}'])), by simp, by simpa using here,
    fun t done => ?_⟩
  rw [scan_append_ok mark, scan_append, scan_open (by simp) (by simpa using code)] at done
  split at done
  · change scan _ (digits ++ ['}']) = .ok t at done
    rw [scan_append_ok (scan_plainText plain (by simpa using code)),
      scan_close (by simp) (by simpa using code) (by simpa using other)] at done
    cases done
    exact agrees.moved same (by simp) (by simp) (.inr (.inl (by simpa using code)))
  · cases done

theorem passes_template {resumes interpolates : Bool} {text : List Char} {outer : List Frame}
    (here : p.rest = pieceStart resumes :: (text ++ (pieceEnd interpolates ++ q.rest)))
    (valid : TemplateText text) (before : p.opened = interpolated resumes outer)
    (after : q.opened = interpolated interpolates outer) : Passes s p q := by
  refine ⟨[pieceStart resumes] ++ (text ++ pieceEnd interpolates), by simp, by simpa using here,
    fun t done => ?_⟩
  have depth := agrees.depth
  have templates := agrees.templates
  have fits := agrees.fits
  rw [before] at depth templates
  cases resumes with
  | false =>
      rw [show pieceStart false = '`' from rfl, scan_append_ok (scan_templateStart code)] at done
      refine scan_piece ?_ ?_ ?_ ?_ valid after done
      · simp
      · simpa [interpolated] using depth
      · simpa [interpolated] using templates
      · simpa using fits
  | true =>
      have resumesHere : s.templates = s.depth :: resumeDepths outer := by
        rw [templates, depth]
        rfl
      have outerDepth : s.depth - 1 = outer.length := by
        rw [depth]
        rfl
      rw [show pieceStart true = '}' from rfl,
        scan_append_ok (scan_resume code _ resumesHere)] at done
      refine scan_piece ?_ ?_ ?_ ?_ valid after done
      · simp
      · simpa using outerDepth
      · simp
      · simpa using Nat.le_succ_of_le fits

end

theorem passes_of_shape {s : Scanner} {p q : Point} {element : Element} (agrees : Agrees s p)
    (code : s.mode = .code) (shape : Shape p element q) (agreed : element.Agreed) :
    Passes s p q := by
  cases shape with
  | @lineComment _ kind text ending here line ends same =>
      have signed (harmless : isHarmless (kind.sign ++ text)) : Passes s p q :=
        passes_harmless agrees code (by cases kind <;> simp [LineComment.sign])
          (by simpa using here) harmless ends same
      cases kind with
      | slashes =>
          have within : '\n' ∉ text := fun member => Bool.noConfusion (line '\n' member)
          exact passes_lineComment agrees code here within ends agreed same
      | hashbang => exact signed agreed
      | htmlOpen => exact signed agreed
      | htmlClose => exact signed agreed
  | blockComment here ends same => exact passes_blockComment agrees code here ends same
  | escape here hex same => exact passes_escape agrees code here hex same
  | blank here blank same => exact passes_plain agrees code here (isPlain_of_isBlank blank) same
  | opening here opened => exact passes_opening agrees code here opened
  | closing here opened => exact passes_closing agrees code here opened
  | string here valid same => exact passes_string agrees code here valid agreed same
  | template here valid before after => exact passes_template agrees code here valid before after
  | char here plain division same =>
      rcases plain with plain | rfl
      · exact passes_plain agrees code here plain same
      · exact passes_slash agrees code here (division rfl) same

theorem agrees_of_shape {s final : Scanner} {p q : Point} {element : Element} (agrees : Agrees s p)
    (accepts : scan s p.rest = .ok final) (shape : Shape p element q) (agreed : element.Agreed) :
    ∃ t, Agrees t q ∧ scan t q.rest = .ok final := by
  obtain ⟨text, nonempty, here, passes⟩ := passes_of_shape agrees.inCode rfl shape agreed
  have inCode : scan s p.rest = scan { s with mode := .code } (text ++ q.rest) := by
    obtain ⟨c, more, rfl⟩ := List.exists_cons_of_ne_nil nonempty
    rcases agrees.mode with ended | inCode
    · rw [here] at ended
      cases ended
    · rw [here] at inCode ⊢
      exact inCode.scan_eq _
  rw [inCode, scan_append] at accepts
  cases read : scan { s with mode := .code } text with
  | error problem => rw [read] at accepts; cases accepts
  | ok t =>
      rw [read] at accepts
      exact ⟨t, passes t read, accepts⟩

end Enclose.Nesting
