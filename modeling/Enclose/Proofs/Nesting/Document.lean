import Enclose.Proofs.Nesting.Bracket
import Enclose.Proofs.Nesting.Passage
import Mathlib.Data.List.Induction

/-!
# Structured text

A document is text in which brackets match: characters that mean nothing to the guard, groups in
brackets, strings, comments, and templates around documents (`Document`). The guard accepts a
document iff no bracket in it has more than 511 others around it, and otherwise complains about the
first one with 512 around it (`check_text`).
-/

namespace Enclose.Nesting

mutual

/-- Text whose brackets match: what it starts with, and the rest. -/
inductive Document where
  | nil
  | char (c : Char) (plain : isPlain c) (rest : Document)
  | group (b : Bracket) (inner rest : Document)
  | string (quote : Quote) (text : List Char) (valid : StringText quote.char text) (rest : Document)
  | lineComment (text : List Char) (line : '\n' ∉ text) (rest : Document)
  | blockComment (text : List Char) (ends : ¬ ['*', '/'] <:+: text) (rest : Document)
  | template (t : Template) (rest : Document)

/-- A template after its first quote: text up to the last quote, or up to an interpolation, that
interpolation, and the rest. -/
inductive Template where
  | last (text : List Char) (valid : TemplateText text)
  | interpolation (text : List Char) (valid : TemplateText text) (inner : Document)
      (rest : Template)

end

mutual

def Document.text : Document → List Char
  | .nil => []
  | .char c _ rest => [c] ++ rest.text
  | .group b inner rest => ([b.opening] ++ (inner.text ++ [b.closing])) ++ rest.text
  | .string quote text _ rest => (quote.char :: (text ++ [quote.char])) ++ rest.text
  | .lineComment text _ rest => ('/' :: '/' :: text ++ ['\n']) ++ rest.text
  | .blockComment text _ rest => ('/' :: '*' :: (text ++ ['*', '/'])) ++ rest.text
  | .template t rest => (['`'] ++ t.text) ++ rest.text

def Template.text : Template → List Char
  | .last text _ => text ++ ['`']
  | .interpolation text _ inner rest =>
    ((text ++ ['$', '{']) ++ (inner.text ++ ['}'])) ++ rest.text

end

structure Opening where
  upTo : List Char
  enclosing : Nat
  deriving Repr, DecidableEq

namespace Opening

def after (before : List Char) (o : Opening) : Opening := { o with upTo := before ++ o.upTo }

def line (o : Opening) : Nat := o.upTo.count '\n' + 1

def column (o : Opening) : Nat := (o.upTo.reverse.takeWhile (· != '\n')).length

end Opening

mutual

/-- The opening brackets of groups and interpolations in a document with `k` groups and
interpolations around it, in the order of the text. -/
def Document.openings (k : Nat) : Document → List Opening
  | .nil => []
  | .char c _ rest => (rest.openings k).map (.after [c])
  | .group b inner rest =>
    (⟨[b.opening], k⟩ :: (inner.openings (k + 1)).map (.after [b.opening])) ++
      (rest.openings k).map (.after ([b.opening] ++ (inner.text ++ [b.closing])))
  | .string quote text _ rest =>
    (rest.openings k).map (.after (quote.char :: (text ++ [quote.char])))
  | .lineComment text _ rest => (rest.openings k).map (.after ('/' :: '/' :: text ++ ['\n']))
  | .blockComment text _ rest =>
    (rest.openings k).map (.after ('/' :: '*' :: (text ++ ['*', '/'])))
  | .template t rest =>
    (t.openings k).map (.after ['`']) ++ (rest.openings k).map (.after (['`'] ++ t.text))

def Template.openings (k : Nat) : Template → List Opening
  | .last _ _ => []
  | .interpolation text _ inner rest =>
    (⟨text ++ ['$', '{'], k⟩ :: (inner.openings (k + 1)).map (.after (text ++ ['$', '{']))) ++
      (rest.openings k).map (.after ((text ++ ['$', '{']) ++ (inner.text ++ ['}'])))

end

def verdict (s : Scanner) (mode : Mode) (text : List Char) (openings : List Opening) :
    Except Diagnostic Scanner :=
  match openings.find? (·.enclosing == maxDepth) with
  | none => .ok (Scanner.along { s with mode } text)
  | some o => .error (s.along o.upTo).tooDeep

section
variable {s : Scanner} {mode mode' : Mode} {part rest : List Char} {os os' : List Opening}

theorem find?_map_after (os : List Opening) :
    (os.map (Opening.after part)).find? (·.enclosing == maxDepth) =
      (os.find? (·.enclosing == maxDepth)).map (Opening.after part) := by
  rw [List.find?_map]
  rfl

theorem scan_then (first : scan s part = verdict s mode part os)
    (second : scan (Scanner.along { s with mode } part) rest =
      verdict (Scanner.along { s with mode } part) mode' rest os') :
    scan s (part ++ rest) = verdict s mode' (part ++ rest) (os ++ os'.map (.after part)) := by
  rw [scan_append, first, verdict, verdict, List.find?_append, find?_map_after]
  cases os.find? (·.enclosing == maxDepth) with
  | some o => rfl
  | none =>
      refine second.trans ?_
      rw [verdict]
      cases os'.find? (·.enclosing == maxDepth) <;> simp [Opening.after, ← Scanner.along_append]

theorem scan_enclosed {head inner : List Char} {close : Char} {templates : List Nat}
    (fits : s.depth ≤ maxDepth)
    (opens : scan s head =
      if s.depth < maxDepth then
        .ok (Scanner.along { s with depth := s.depth + 1, templates, mode := .code } head)
      else .error (s.along head).tooDeep)
    (inside : s.depth < maxDepth →
      scan (Scanner.along { s with depth := s.depth + 1, templates, mode := .code } head) inner =
        verdict (Scanner.along { s with depth := s.depth + 1, templates, mode := .code } head) .code
          inner os)
    (closes : scan (Scanner.along { s with depth := s.depth + 1, templates, mode := .code }
        (head ++ inner)) [close] =
      .ok (Scanner.along { s with mode } (head ++ (inner ++ [close])))) :
    scan s (head ++ (inner ++ [close])) =
      verdict s mode (head ++ (inner ++ [close])) (⟨head, s.depth⟩ :: os.map (.after head)) := by
  rw [verdict]
  -- Either the guard enters the bracket, and its verdict on the text inside decides, or it
  -- complains about this bracket.
  by_cases deep : s.depth < maxDepth
  · have other : (s.depth == maxDepth) = false := by simpa using Nat.ne_of_lt deep
    rw [if_pos deep] at opens
    rw [scan_append_ok opens, scan_append, inside deep, verdict, List.find?_cons, other,
      find?_map_after]
    cases os.find? (·.enclosing == maxDepth) with
    | some o => simp [bind, Except.bind, Opening.after, ← Scanner.along_append]
    | none =>
        refine Eq.trans ?_ closes
        simp [bind, Except.bind, Scanner.along_append]
  · have same : (s.depth == maxDepth) = true := by
      simpa using Nat.le_antisymm fits (Nat.not_lt.1 deep)
    rw [if_neg deep] at opens
    rw [scan_append, opens, List.find?_cons, same]
    rfl

end

/-- The guard may enter text in a mode: all brackets around it were counted, and the innermost
interpolation is around it. -/
structure Scanner.Ready (s : Scanner) (mode : Mode) : Prop where
  mode : s.mode = mode
  fits : s.depth ≤ maxDepth
  below : ∀ resume ∈ s.templates.head?, resume ≤ s.depth

theorem Scanner.Ready.along {s : Scanner} {mode : Mode} (ready : s.Ready mode) (next : Mode)
    (text : List Char) : (Scanner.along { s with mode := next } text).Ready next :=
  ⟨by simp, by simpa using ready.fits, by simpa using ready.below⟩

/-- The guard, which enters some text in a mode with `k` brackets around it, stops at the first of
the brackets `openings k` that is too deep, and otherwise leaves the text in code. -/
def Judged (mode : Mode) (text : List Char) (openings : Nat → List Opening) : Prop :=
  ∀ s : Scanner, s.Ready mode → scan s text = verdict s .code text (openings s.depth)

namespace Judged

variable {part rest inner : List Char} {os others : Nat → List Opening}

theorem skip (passes : ∀ s : Scanner, s.mode = .code → scan s part = .ok (s.along part))
    (next : Judged .code rest others) :
    Judged .code (part ++ rest) fun k => (others k).map (.after part) := by
  intro s ready
  have first : scan s part = verdict s .code part [] := by
    rw [passes s ready.mode, verdict, Scanner.inMode_self ready.mode]
    rfl
  have second := next _ (ready.along .code part)
  rw [Scanner.along_depth] at second
  exact scan_then first second

theorem group (b : Bracket) (inside : Judged .code inner os) (next : Judged .code rest others) :
    Judged .code (([b.opening] ++ (inner ++ [b.closing])) ++ rest) fun k =>
      (⟨[b.opening], k⟩ :: (os (k + 1)).map (.after [b.opening])) ++
        (others k).map (.after ([b.opening] ++ (inner ++ [b.closing]))) := by
  intro s ready
  have opens := scan_open b.opening_cases ready.mode
  have enclosed (deep : s.depth < maxDepth) :=
    inside (Scanner.along { s with depth := s.depth + 1, mode := .code } [b.opening])
      ⟨by simp, by simpa using Nat.succ_le_of_lt deep, fun resume member => by
        have bound := ready.below resume (by simpa using member)
        simp
        omega⟩
  have closes : scan (Scanner.along { s with depth := s.depth + 1, mode := .code }
      ([b.opening] ++ inner)) [b.closing] =
        .ok (Scanner.along { s with mode := .code } ([b.opening] ++ (inner ++ [b.closing]))) := by
    rw [scan_close b.closing_cases (by simp)]
    · simp [← Scanner.along_append]
    · intro resume member
      have bound := ready.below resume (by simpa using member)
      simp
      omega
  rw [← Scanner.inMode_self (s := { s with depth := s.depth + 1 }) ready.mode] at opens
  simp only [Scanner.along_depth] at enclosed
  have second := next _ (ready.along .code ([b.opening] ++ (inner ++ [b.closing])))
  rw [Scanner.along_depth] at second
  exact scan_then (scan_enclosed ready.fits opens enclosed closes) second

theorem template (inside : Judged .template inner os) (next : Judged .code rest others) :
    Judged .code ((['`'] ++ inner) ++ rest) fun k =>
      (os k).map (.after ['`']) ++ (others k).map (.after (['`'] ++ inner)) := by
  intro s ready
  have quote : scan s ['`'] = verdict s .template ['`'] [] := scan_templateStart ready.mode
  have whole := inside _ (ready.along .template ['`'])
  have second := next _ (ready.along .code (['`'] ++ inner))
  rw [Scanner.along_depth] at whole second
  exact scan_then (scan_then quote whole) second

theorem last (valid : TemplateText part) : Judged .template (part ++ ['`']) fun _ => [] := by
  intro s ready
  rw [scan_templateEnd valid ready.mode]
  rfl

theorem interpolation (valid : TemplateText part) (inside : Judged .code inner os)
    (next : Judged .template rest others) :
    Judged .template (((part ++ ['$', '{']) ++ (inner ++ ['}'])) ++ rest) fun k =>
      (⟨part ++ ['$', '{'], k⟩ :: (os (k + 1)).map (.after (part ++ ['$', '{']))) ++
        (others k).map (.after ((part ++ ['$', '{']) ++ (inner ++ ['}']))) := by
  intro s ready
  have opens := scan_interpolation valid ready.mode
  have enclosed (deep : s.depth < maxDepth) :=
    inside
      (Scanner.along
        { s with depth := s.depth + 1, templates := (s.depth + 1) :: s.templates, mode := .code }
        (part ++ ['$', '{']))
      ⟨by simp, by simpa using Nat.succ_le_of_lt deep, by simp⟩
  have closes : scan
      (Scanner.along
        { s with depth := s.depth + 1, templates := (s.depth + 1) :: s.templates, mode := .code }
        ((part ++ ['$', '{']) ++ inner)) ['}'] =
        .ok (Scanner.along { s with mode := .template }
          ((part ++ ['$', '{']) ++ (inner ++ ['}']))) := by
    rw [scan_resume (by simp) s.templates (by simp)]
    simp [← Scanner.along_append]
  simp only [Scanner.along_depth] at enclosed
  have second := next _ (ready.along .template ((part ++ ['$', '{']) ++ (inner ++ ['}'])))
  rw [Scanner.along_depth] at second
  exact scan_then (scan_enclosed ready.fits opens enclosed closes) second

end Judged

mutual

theorem Document.judged : (d : Document) → Judged .code d.text (d.openings ·)
  | .nil => fun s ready => by
      rw [verdict, Scanner.inMode_self ready.mode]
      rfl
  | .char _ plain rest => rest.judged.skip fun _ => scan_plain plain
  | .group b inner rest => inner.judged.group b rest.judged
  | .string quote _ valid rest => rest.judged.skip fun _ => scan_string quote.char_cases valid
  | .lineComment _ line rest => rest.judged.skip fun _ => scan_line line
  | .blockComment _ ends rest => rest.judged.skip fun _ => scan_blockComment ends
  | .template t rest => t.judged.template rest.judged

theorem Template.judged : (t : Template) → Judged .template t.text (t.openings ·)
  | .last _ valid => .last valid
  | .interpolation _ valid inner rest => inner.judged.interpolation valid rest.judged

end

/-- The opening brackets of a text with `k` brackets around it: each stands in the text, they come
in the order of the text, and around a bracket there is one for each number of brackets from `k` up
to its own. -/
structure Listing (text : List Char) (k : Nat) (os : List Opening) : Prop where
  nonempty : ∀ o ∈ os, o.upTo ≠ []
  inText : ∀ o ∈ os, o.upTo <+: text
  ordered : os.Pairwise fun o p => o.upTo.length < p.upTo.length
  levels : ∀ o ∈ os, ∀ j, k ≤ j → j ≤ o.enclosing → ∃ p ∈ os, p.enclosing = j

namespace Listing

variable {part rest text : List Char} {k : Nat} {os others : List Opening}

theorem nil : Listing text k [] :=
  ⟨by simp, by simp, .nil, by simp⟩

theorem after (listing : Listing rest k os) : Listing (part ++ rest) k (os.map (.after part)) where
  nonempty o member := by
    obtain ⟨o, original, rfl⟩ := List.mem_map.1 member
    simpa [Opening.after] using fun _ => listing.nonempty o original
  inText o member := by
    obtain ⟨o, original, rfl⟩ := List.mem_map.1 member
    exact (List.prefix_append_right_inj part).2 (listing.inText o original)
  ordered := by
    simpa [List.pairwise_map, Opening.after] using listing.ordered
  levels o member j least most := by
    obtain ⟨o, original, rfl⟩ := List.mem_map.1 member
    obtain ⟨p, found, level⟩ := listing.levels o original j least most
    exact ⟨_, List.mem_map_of_mem found, level⟩

theorem append (first : Listing part k os) (second : Listing rest k others) :
    Listing (part ++ rest) k (os ++ others.map (.after part)) where
  nonempty o member :=
    (List.mem_append.1 member).elim (first.nonempty o) (second.after.nonempty o)
  inText o member :=
    (List.mem_append.1 member).elim
      (fun member => (first.inText o member).trans (List.prefix_append part rest))
      (second.after.inText o)
  ordered := by
    refine List.pairwise_append.2 ⟨first.ordered, second.after.ordered, fun o member p later => ?_⟩
    obtain ⟨p, original, rfl⟩ := List.mem_map.1 later
    have within := (first.inText o member).length_le
    have beyond := List.length_pos_iff.2 (second.nonempty p original)
    simp [Opening.after]
    omega
  levels o member j least most := by
    rcases List.mem_append.1 member with member | member
    · obtain ⟨p, found, level⟩ := first.levels o member j least most
      exact ⟨p, List.mem_append_left _ found, level⟩
    · obtain ⟨p, found, level⟩ := second.after.levels o member j least most
      exact ⟨p, List.mem_append_right _ found, level⟩

theorem enclosed {head inner close : List Char} (bracket : head ≠ [])
    (inside : Listing inner (k + 1) os) :
    Listing (head ++ (inner ++ close)) k (⟨head, k⟩ :: os.map (.after head)) where
  nonempty := List.forall_mem_cons.2 ⟨bracket, inside.after.nonempty⟩
  inText := by
    refine List.forall_mem_cons.2 ⟨List.prefix_append _ _, fun o member => ?_⟩
    rw [← List.append_assoc]
    exact (inside.after.inText o member).trans (List.prefix_append _ _)
  ordered := by
    have behind : Listing (head ++ inner) _ (os.map (.after head)) := inside.after
    refine List.pairwise_cons.2 ⟨fun o later => ?_, behind.ordered⟩
    obtain ⟨o, original, rfl⟩ := List.mem_map.1 later
    have beyond := List.length_pos_iff.2 (inside.nonempty o original)
    simp [Opening.after]
    omega
  levels o member j least most := by
    rcases Nat.eq_or_lt_of_le least with rfl | deeper
    · exact ⟨_, List.mem_cons_self, rfl⟩
    · rcases List.mem_cons.1 member with rfl | member
      · exact absurd most (Nat.not_le.2 deeper)
      · obtain ⟨p, found, level⟩ := inside.after.levels o member j deeper most
        exact ⟨p, List.mem_cons_of_mem _ found, level⟩

theorem shallow (listing : Listing text 0 os)
    (none : os.find? (·.enclosing == maxDepth) = none) : ∀ o ∈ os, o.enclosing ≤ 511 := by
  refine fun o member => Nat.not_lt.1 fun deep => ?_
  obtain ⟨p, other, level⟩ := listing.levels o member 512 (by omega) (by omega)
  simpa [level, maxDepth] using List.find?_eq_none.1 none p other

theorem first_prefix_of_find? (listing : Listing text k os) {first : Opening}
    (found : os.find? (·.enclosing == maxDepth) = some first) :
    ∀ o ∈ os, o.enclosing = 512 → first.upTo <+: o.upTo := by
  obtain ⟨-, before, later, rfl, others⟩ := List.find?_eq_some_iff_append.1 found
  intro o member level
  rcases List.mem_append.1 member with earlier | rest
  · have other := others o earlier
    simp [level, maxDepth] at other
  · rcases List.mem_cons.1 rest with rfl | behind
    · exact List.prefix_refl _
    · have apart := List.rel_of_pairwise_cons (List.pairwise_append.1 listing.ordered).2.1 behind
      exact List.prefix_of_prefix_length_le
        (listing.inText first (List.mem_append_right _ List.mem_cons_self))
        (listing.inText o member) (Nat.le_of_lt apart)

end Listing

mutual

theorem Document.listing : (d : Document) → (k : Nat) → Listing d.text k (d.openings k)
  | .nil, _ => .nil
  | .char _ _ rest, k | .string _ _ _ rest, k | .lineComment _ _ rest, k
  | .blockComment _ _ rest, k => (rest.listing k).after
  | .group _ inner rest, k =>
      (Listing.enclosed (by simp) (inner.listing (k + 1))).append (rest.listing k)
  | .template t rest, k => (t.listing k).after.append (rest.listing k)

theorem Template.listing : (t : Template) → (k : Nat) → Listing t.text k (t.openings k)
  | .last _ _, _ => .nil
  | .interpolation _ _ inner rest, k =>
      (Listing.enclosed (by simp) (inner.listing (k + 1))).append (rest.listing k)

end

theorem along_place (text : List Char) :
    (Scanner.along {} text).line = text.count '\n' + 1 ∧
      (Scanner.along {} text).column = (text.reverse.takeWhile (· != '\n')).length := by
  induction text using List.reverseRecOn with
  | nil => exact ⟨rfl, rfl⟩
  | append_singleton text c ih =>
      rw [Scanner.along_append, Scanner.along_cons, Scanner.along_nil, Scanner.advance]
      split
      · next same =>
          subst same
          exact ⟨by simp [ih.1], by simp⟩
      · next other =>
          exact ⟨by simp [ih.1, other], by simp [ih.2, other]⟩

theorem Opening.tooDeep_eq (o : Opening) :
    (Scanner.along {} o.upTo).tooDeep =
      ⟨o.line, o.column, "nesting exceeds the maximum depth of 512"⟩ := by
  obtain ⟨line, column⟩ := along_place o.upTo
  rw [Scanner.tooDeep, line, column]
  rfl

/-- The guard accepts a document iff no bracket in it has more than 511 groups and interpolations
around it. Otherwise it complains at the first one in the text that has 512 around it. -/
theorem check_text (d : Document) :
    (check d.text = .ok () ↔ ∀ o ∈ d.openings 0, o.enclosing ≤ 511) ∧
      ((∃ o ∈ d.openings 0, 511 < o.enclosing) →
        ∃ first ∈ d.openings 0, first.enclosing = 512 ∧ first.upTo <+: d.text ∧
          (∀ o ∈ d.openings 0, o.enclosing = 512 → first.upTo <+: o.upTo) ∧
          check d.text =
            .error ⟨first.line, first.column, "nesting exceeds the maximum depth of 512"⟩) := by
  have listing := d.listing 0
  have judged : scan {} d.text = verdict {} .code d.text (d.openings 0) :=
    d.judged {} ⟨rfl, by decide, by simp⟩
  rw [verdict] at judged
  -- The verdict asks for a bracket at exactly 512, and no bracket is deeper unless one is at that
  -- level first.
  cases found : (d.openings 0).find? (·.enclosing == maxDepth) with
  | none =>
      have shallow := listing.shallow found
      rw [found] at judged
      refine ⟨iff_of_true (by rw [check, judged]; rfl) shallow, fun ⟨o, member, deep⟩ => ?_⟩
      exact absurd (shallow o member) (Nat.not_le.2 deep)
  | some first =>
      rw [found] at judged
      have level : first.enclosing = 512 := by simpa [maxDepth] using List.find?_some found
      have member : first ∈ d.openings 0 := List.mem_of_find?_eq_some found
      have complaint : check d.text =
          .error ⟨first.line, first.column, "nesting exceeds the maximum depth of 512"⟩ := by
        rw [check, judged, ← first.tooDeep_eq]
        rfl
      refine ⟨iff_of_false (by simp [complaint]) ?_, fun _ =>
        ⟨first, member, level, listing.inText first member,
          listing.first_prefix_of_find? found, complaint⟩⟩
      intro shallow
      have bound := shallow first member
      omega

end Enclose.Nesting
