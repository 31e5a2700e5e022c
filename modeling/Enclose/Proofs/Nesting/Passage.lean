import Enclose.Nesting

/-!
# Text that the guard passes over

The text of a string, of a comment, and of a template between its interpolations moves the guard and
changes nothing else (`scan_string`, `scan_lineComment`, `scan_blockComment`, `scan_templateText`). The
sign of an interpolation is a bracket (`scan_interpolation`).
-/

namespace Enclose.Nesting

namespace Scanner

def along (s : Scanner) (text : List Char) : Scanner := text.foldl advance s

section
variable (s : Scanner) (c : Char) (text : List Char)

@[simp] theorem advance_depth : (s.advance c).depth = s.depth := by
  unfold advance
  split <;> rfl

@[simp] theorem advance_templates : (s.advance c).templates = s.templates := by
  unfold advance
  split <;> rfl

@[simp] theorem advance_mode : (s.advance c).mode = s.mode := by
  unfold advance
  split <;> rfl

@[simp] theorem mk_advance (depth : Nat) (templates : List Nat) (mode : Mode) :
    (⟨(s.advance c).line, (s.advance c).column, depth, templates, mode⟩ : Scanner) =
      advance ⟨s.line, s.column, depth, templates, mode⟩ c := by
  unfold advance
  split <;> rfl

theorem inMode_self {s : Scanner} {mode : Mode} (inside : s.mode = mode) :
    ({ s with mode := mode } : Scanner) = s := by
  rw [← inside]

theorem along_nil : s.along [] = s := rfl

theorem along_cons : s.along (c :: text) = (s.advance c).along text := rfl

theorem along_append (first second : List Char) :
    s.along (first ++ second) = (s.along first).along second :=
  List.foldl_append

end

@[simp] theorem along_depth (s : Scanner) (text : List Char) : (s.along text).depth = s.depth := by
  induction text generalizing s with
  | nil => rfl
  | cons c rest ih => rw [along_cons, ih, advance_depth]

@[simp] theorem along_templates (s : Scanner) (text : List Char) :
    (s.along text).templates = s.templates := by
  induction text generalizing s with
  | nil => rfl
  | cons c rest ih => rw [along_cons, ih, advance_templates]

@[simp] theorem along_mode (s : Scanner) (text : List Char) : (s.along text).mode = s.mode := by
  induction text generalizing s with
  | nil => rfl
  | cons c rest ih => rw [along_cons, ih, advance_mode]

@[simp] theorem mk_along (s : Scanner) (text : List Char) (depth : Nat) (templates : List Nat)
    (mode : Mode) :
    (⟨(s.along text).line, (s.along text).column, depth, templates, mode⟩ : Scanner) =
      along ⟨s.line, s.column, depth, templates, mode⟩ text := by
  induction text generalizing s with
  | nil => rfl
  | cons c rest ih => rw [along_cons, along_cons, ih, mk_advance]

@[simp] theorem tooDeep_along (s : Scanner) (text : List Char) (depth : Nat) (templates : List Nat)
    (mode : Mode) :
    (along ⟨s.line, s.column, depth, templates, mode⟩ text).tooDeep = (s.along text).tooDeep := by
  rw [← mk_along]
  rfl

theorem enter_eq (s : Scanner) :
    s.enter =
      if s.depth < maxDepth then .ok { s with depth := s.depth + 1, mode := .code }
      else .error s.tooDeep := by
  unfold enter
  split <;> split <;> first | rfl | omega

theorem enterInterpolation_eq (s : Scanner) :
    s.enterInterpolation =
      if s.depth < maxDepth then
        .ok
          { s with
            depth := s.depth + 1, templates := (s.depth + 1) :: s.templates, mode := .code }
      else .error s.tooDeep := by
  rw [enterInterpolation, enter_eq]
  split <;> rfl

end Scanner

@[simp] theorem scan_nil (s : Scanner) : scan s [] = .ok s := rfl

theorem scan_cons (s : Scanner) (c : Char) (rest : List Char) :
    scan s (c :: rest) = s.step c >>= fun t => scan t rest := rfl

theorem scan_append (s : Scanner) (first second : List Char) :
    scan s (first ++ second) = scan s first >>= fun t => scan t second :=
  List.foldlM_append

theorem scan_cons_ok {s t : Scanner} {c : Char} (h : s.step c = .ok t) (rest : List Char) :
    scan s (c :: rest) = scan t rest := by
  rw [scan_cons, h]
  rfl

theorem scan_append_ok {s t : Scanner} {first : List Char} (h : scan s first = .ok t)
    (second : List Char) : scan s (first ++ second) = scan t second := by
  rw [scan_append, h]
  rfl

def signs : List Char := ['(', ')', '[', ']', '{', '}', '\'', '"', '`', '/']

def isPlain (c : Char) : Bool := !signs.contains c

theorem isPlain_of {holds : Char → Bool} (apart : signs.any holds = false) {c : Char}
    (h : holds c) : isPlain c := by
  simp only [isPlain, List.contains_eq_mem, Bool.not_eq_true', decide_eq_false_iff_not]
  exact fun member => List.any_eq_false.1 apart c member h

theorem scan_plain {c : Char} (plain : isPlain c) {s : Scanner} (code : s.mode = .code) :
    scan s [c] = .ok (s.along [c]) := by
  have read : s.step c = .ok (s.advance c) := by
    rw [← Scanner.inMode_self (s := s.advance c) (by simpa using code)]
    simp [isPlain, signs] at plain
    simp [Scanner.step, Scanner.read, Scanner.readCode, code, plain]
  rw [scan_cons_ok read]
  rfl

/-- The text between the quotes of a string: pairs of a backslash and a character, and characters
other than the quote, a backslash and a line feed. -/
inductive StringText (quote : Char) : List Char → Prop
  | nil : StringText quote []
  | escape (c : Char) {rest : List Char} : StringText quote rest →
      StringText quote ('\\' :: c :: rest)
  | char {c : Char} {rest : List Char} : c ≠ quote → c ≠ '\\' → c ≠ '\n' →
      StringText quote rest → StringText quote (c :: rest)

theorem scan_stringText {quote : Char} {text : List Char} (h : StringText quote text)
    {s : Scanner} (inside : s.mode = .quoted quote false) : scan s text = .ok (s.along text) := by
  induction h generalizing s with
  | nil => rfl
  | escape c _ ih =>
      have first : s.step '\\' = .ok { s.advance '\\' with mode := .quoted quote true } := by
        simp [Scanner.step, Scanner.read, inside]
      have second : Scanner.step { s.advance '\\' with mode := .quoted quote true } c =
          .ok ((s.advance '\\').advance c) := by
        rw [← Scanner.inMode_self (s := (s.advance '\\').advance c) (by simpa using inside)]
        simp [Scanner.step, Scanner.read]
      rw [scan_cons_ok first, scan_cons_ok second, ih (by simpa using inside)]
      rfl
  | @char c rest apart plain within _ ih =>
      have first : s.step c = .ok (s.advance c) := by
        rw [← Scanner.inMode_self (s := s.advance c) (by simpa using inside)]
        simp [Scanner.step, Scanner.read, inside, apart, plain, within]
      rw [scan_cons_ok first, ih (by simpa using inside)]
      rfl

theorem scan_string {quote : Char} (quotes : quote = '\'' ∨ quote = '"') {text : List Char}
    (h : StringText quote text) {s : Scanner} (code : s.mode = .code) :
    scan s (quote :: (text ++ [quote])) = .ok (s.along (quote :: (text ++ [quote]))) := by
  have opens : s.step quote = .ok { s.advance quote with mode := .quoted quote false } := by
    rcases quotes with rfl | rfl <;> simp [Scanner.step, Scanner.read, Scanner.readCode, code]
  have inside := scan_stringText h (s := { s.advance quote with mode := .quoted quote false }) rfl
  have closes : Scanner.step
      (Scanner.along { s.advance quote with mode := .quoted quote false } text) quote =
        .ok (((s.advance quote).along text).advance quote) := by
    have plain : quote ≠ '\\' := by rcases quotes with rfl | rfl <;> decide
    rw [← Scanner.inMode_self (s := ((s.advance quote).along text).advance quote)
      (by simpa using code)]
    simp [Scanner.step, Scanner.read, plain]
  rw [scan_cons_ok opens, scan_append_ok inside, scan_cons_ok closes, Scanner.along_cons,
    Scanner.along_append]
  rfl

theorem scan_lineText {text : List Char} (line : '\n' ∉ text) {s : Scanner}
    (inside : s.mode = .lineComment) : scan s text = .ok (s.along text) := by
  induction text generalizing s with
  | nil => rfl
  | cons c rest ih =>
      simp only [List.mem_cons, not_or] at line
      have first : s.step c = .ok (s.advance c) := by
        simp [Scanner.step, Scanner.read, inside, Ne.symm line.1]
      rw [scan_cons_ok first, ih line.2 (by simpa using inside)]
      rfl

theorem scan_lineComment {text : List Char} (line : '\n' ∉ text) {s : Scanner}
    (code : s.mode = .code) :
    scan s ('/' :: '/' :: text) =
      .ok (Scanner.along { s with mode := .lineComment } ('/' :: '/' :: text)) := by
  have slash : s.step '/' = .ok { s.advance '/' with mode := .slash } := by
    simp [Scanner.step, Scanner.read, Scanner.readCode, code]
  have opens : Scanner.step { s.advance '/' with mode := .slash } '/' =
      .ok { (s.advance '/').advance '/' with mode := .lineComment } := by
    simp [Scanner.step, Scanner.read]
  rw [scan_cons_ok slash, scan_cons_ok opens, scan_lineText line rfl]
  simp [Scanner.along_cons]

theorem scan_lineEnd {s : Scanner} (inside : s.mode = .lineComment) :
    scan s ['\n'] = .ok (Scanner.along { s with mode := .code } ['\n']) := by
  simp [scan_cons, Scanner.step, Scanner.read, inside, bind, Except.bind, Scanner.along_cons,
    Scanner.along_nil]

theorem scan_line {text : List Char} (line : '\n' ∉ text) {s : Scanner} (code : s.mode = .code) :
    scan s ('/' :: '/' :: text ++ ['\n']) = .ok (s.along ('/' :: '/' :: text ++ ['\n'])) := by
  rw [scan_append_ok (scan_lineComment line code), scan_lineEnd (by simp), Scanner.along_append]
  simp [Scanner.inMode_self code]

/-- The rest of a block comment; `star` where a star stands before it. -/
theorem scan_blockText {text : List Char} (star : Bool)
    (ends : ¬ ['*', '/'] <:+: (if star then ['*'] else []) ++ text) {s : Scanner}
    (inside : s.mode = .blockComment star) :
    scan s (text ++ ['*', '/']) =
      .ok (Scanner.along { s with mode := .code } (text ++ ['*', '/'])) := by
  induction text generalizing s star with
  | nil =>
      simp [scan_cons, Scanner.step, Scanner.read, inside, bind, Except.bind, Scanner.along_cons,
        Scanner.along_nil]
  | cons c rest ih =>
      have goesOn : (star && c == '/') = false := by
        cases star with
        | false => rfl
        | true =>
            cases same : c == '/' with
            | false => rfl
            | true =>
                obtain rfl : c = '/' := by simpa using same
                exact absurd ⟨[], rest, rfl⟩ ends
      have first : s.step c = .ok { s.advance c with mode := .blockComment (c == '*') } := by
        simp [Scanner.step, Scanner.read, inside, goesOn]
      -- The star that may have been read belongs to the text, so that `*/` cannot end in it.
      have tail : (if c == '*' then ['*'] else []) ++ rest <:+ c :: rest := by
        cases same : c == '*' with
        | false => exact List.suffix_cons c rest
        | true =>
            obtain rfl : c = '*' := by simpa using same
            exact List.suffix_refl _
      have shorter : ¬ ['*', '/'] <:+: (if c == '*' then ['*'] else []) ++ rest := fun found =>
        ends (found.trans (tail.trans (List.suffix_append _ _)).isInfix)
      rw [List.cons_append, scan_cons_ok first, ih _ shorter rfl]
      simp [Scanner.along_cons]

theorem scan_blockComment {text : List Char} (ends : ¬ ['*', '/'] <:+: text) {s : Scanner}
    (code : s.mode = .code) :
    scan s ('/' :: '*' :: (text ++ ['*', '/'])) =
      .ok (s.along ('/' :: '*' :: (text ++ ['*', '/']))) := by
  have slash : s.step '/' = .ok { s.advance '/' with mode := .slash } := by
    simp [Scanner.step, Scanner.read, Scanner.readCode, code]
  have opens : Scanner.step { s.advance '/' with mode := .slash } '*' =
      .ok { (s.advance '/').advance '*' with mode := .blockComment false } := by
    simp [Scanner.step, Scanner.read]
  rw [scan_cons_ok slash, scan_cons_ok opens, scan_blockText false ends rfl]
  simp [Scanner.along_cons, Scanner.inMode_self code]

/-- The text of a template between its quotes and its interpolations: pairs of a backslash and a
character, and characters other than the quote and a backslash, of which no `$` stands before a
brace. -/
inductive TemplateText : List Char → Prop
  | nil : TemplateText []
  | escape (c : Char) {rest : List Char} : TemplateText rest → TemplateText ('\\' :: c :: rest)
  | char {c : Char} {rest : List Char} : c ≠ '`' → c ≠ '\\' →
      (c = '$' → rest.head? ≠ some '{') → TemplateText rest → TemplateText (c :: rest)

theorem scan_templateText {text : List Char} (h : TemplateText text) {s : Scanner} (dollar : Bool)
    (inside : s.mode = if dollar then .templateDollar else .template)
    (apart : dollar → text.head? ≠ some '{') :
    ∃ dollar : Bool, scan s text =
      .ok (Scanner.along { s with mode := if dollar then .templateDollar else .template } text) := by
  induction h generalizing s dollar with
  | nil => exact ⟨dollar, by rw [← inside]; rfl⟩
  | escape c _ ih =>
      have first : s.step '\\' = .ok { s.advance '\\' with mode := .templateEscape } := by
        cases dollar <;> simp [Scanner.step, Scanner.read, Scanner.readTemplate, inside]
      have second : Scanner.step { s.advance '\\' with mode := .templateEscape } c =
          .ok { (s.advance '\\').advance c with mode := .template } := by
        simp [Scanner.step, Scanner.read]
      obtain ⟨dollar, passes⟩ :=
        ih (s := { (s.advance '\\').advance c with mode := .template }) false rfl Bool.noConfusion
      refine ⟨dollar, ?_⟩
      rw [scan_cons_ok first, scan_cons_ok second, passes]
      simp [Scanner.along_cons]
  | @char c rest unquoted plain literal _ ih =>
      have first : s.step c =
          .ok { s.advance c with mode := if c = '$' then .templateDollar else .template } := by
        have read : Scanner.readTemplate (s.advance c) c =
            { s.advance c with mode := if c = '$' then .templateDollar else .template } := by
          unfold Scanner.readTemplate
          split <;> simp_all
        cases dollar with
        | false => simp [Scanner.step, Scanner.read, inside, read]
        | true =>
            have other : c ≠ '{' := by simpa using apart rfl
            simp [Scanner.step, Scanner.read, inside, other, read]
      obtain ⟨dollar, passes⟩ :=
        ih (s := { s.advance c with mode := if c = '$' then .templateDollar else .template })
          (c == '$') (by simp) (by simpa using literal)
      refine ⟨dollar, ?_⟩
      rw [scan_cons_ok first, passes]
      simp [Scanner.along_cons]

theorem scan_templateEnd {text : List Char} (h : TemplateText text) {s : Scanner}
    (inside : s.mode = .template) :
    scan s (text ++ ['`']) = .ok (Scanner.along { s with mode := .code } (text ++ ['`'])) := by
  obtain ⟨dollar, passes⟩ := scan_templateText h false inside Bool.noConfusion
  rw [scan_append_ok passes]
  cases dollar <;> simp [scan_cons, Scanner.step, Scanner.read, Scanner.readTemplate, bind,
    Except.bind, Scanner.along_append, Scanner.along_cons, Scanner.along_nil]

theorem scan_interpolation {text : List Char} (h : TemplateText text) {s : Scanner}
    (inside : s.mode = .template) :
    scan s (text ++ ['$', '{']) =
      if s.depth < maxDepth then
        .ok (Scanner.along
          { s with
            depth := s.depth + 1, templates := (s.depth + 1) :: s.templates, mode := .code }
          (text ++ ['$', '{']))
      else .error (s.along (text ++ ['$', '{'])).tooDeep := by
  obtain ⟨dollar, passes⟩ := scan_templateText h false inside Bool.noConfusion
  have dollarSign : Scanner.step
      (Scanner.along { s with mode := if dollar then .templateDollar else .template } text) '$' =
        .ok (Scanner.along { s with mode := .templateDollar } (text ++ ['$'])) := by
    cases dollar <;> simp [Scanner.step, Scanner.read, Scanner.readTemplate, Scanner.along_append,
      Scanner.along_cons, Scanner.along_nil]
  have sign : Scanner.step (Scanner.along { s with mode := .templateDollar } (text ++ ['$'])) '{' =
      if s.depth < maxDepth then
        .ok (Scanner.along
          { s with
            depth := s.depth + 1, templates := (s.depth + 1) :: s.templates, mode := .code }
          (text ++ ['$', '{']))
      else .error (s.along (text ++ ['$', '{'])).tooDeep := by
    have moved : Scanner.advance (Scanner.along { s with mode := .templateDollar } (text ++ ['$']))
        '{' = Scanner.along { s with mode := .templateDollar } (text ++ ['$', '{']) := by
      simp [Scanner.along_append, Scanner.along_cons, Scanner.along_nil]
    simp [Scanner.step, Scanner.read, moved, Scanner.enterInterpolation_eq]
  rw [scan_append_ok passes, scan_cons_ok dollarSign, scan_cons, sign]
  split <;> rfl

theorem scan_templateStart {s : Scanner} (code : s.mode = .code) :
    scan s ['`'] = .ok (Scanner.along { s with mode := .template } ['`']) := by
  simp [scan_cons, Scanner.step, Scanner.read, Scanner.readCode, code, bind, Except.bind,
    Scanner.along_cons, Scanner.along_nil]

theorem scan_open {c : Char} (opens : c = '(' ∨ c = '[' ∨ c = '{') {s : Scanner}
    (code : s.mode = .code) :
    scan s [c] =
      if s.depth < maxDepth then .ok (Scanner.along { s with depth := s.depth + 1 } [c])
      else .error (s.along [c]).tooDeep := by
  have read : s.step c = (s.advance c).enter := by
    rcases opens with rfl | rfl | rfl <;> simp [Scanner.step, Scanner.read, Scanner.readCode, code]
  rw [scan_cons, read, Scanner.enter_eq]
  split <;> simp_all [bind, Except.bind, Scanner.along_cons, Scanner.along_nil]

theorem scan_close {c : Char} (closes : c = ')' ∨ c = ']' ∨ c = '}') {s : Scanner}
    (code : s.mode = .code) (other : ∀ resume ∈ s.templates.head?, resume ≠ s.depth) :
    scan s [c] = .ok (Scanner.along { s with depth := s.depth - 1 } [c]) := by
  have leave : (s.advance c).leave = { s.advance c with depth := s.depth - 1 } := by
    simp [Scanner.leave, code]
  have leaveBrace : (s.advance c).leaveBrace = { s.advance c with depth := s.depth - 1 } := by
    unfold Scanner.leaveBrace
    rw [Scanner.advance_templates]
    split
    · exact leave
    · next resume outer templates =>
      have apart : resume ≠ (s.advance c).depth := by
        simpa using other resume (by rw [templates]; rfl)
      rw [if_neg apart, leave]
  have read : s.step c = .ok { s.advance c with depth := s.depth - 1 } := by
    rcases closes with rfl | rfl | rfl <;>
      simp [Scanner.step, Scanner.read, Scanner.readCode, code, leave, leaveBrace]
  rw [scan_cons_ok read]
  simp [Scanner.along_cons, Scanner.along_nil, code]

theorem scan_resume {s : Scanner} (code : s.mode = .code) (outer : List Nat)
    (resumes : s.templates = s.depth :: outer) :
    scan s ['}'] =
      .ok (Scanner.along { s with depth := s.depth - 1, templates := outer, mode := .template }
        ['}']) := by
  simp [scan_cons, Scanner.step, Scanner.read, Scanner.readCode, Scanner.leaveBrace, code, resumes,
    bind, Except.bind, Scanner.along_cons, Scanner.along_nil]

end Enclose.Nesting
