import Enclose.Proofs.Toml.Line
import Mathlib.Data.List.Forall2

/-!
# Texts of sections

A text that consists of sections with different names, each with entries with different keys, is
read as a table of tables with these names and values (`parse_sectionsText`).
-/

namespace Enclose.Toml

open Reader

structure Entry where
  key : String
  value : Plain
  written : List Char

structure Section where
  name : String
  entries : List Entry

def Entry.text (e : Entry) : List Char := entryText e.key e.written

def Section.text (s : Section) : List Char := headerText s.name ++ s.entries.flatMap Entry.text

def sectionsText (sections : List Section) : List Char := sections.flatMap Section.text

structure Entry.IsWritten (e : Entry) : Prop where
  bare : IsBare e.key
  writes : Writes e.value e.written

structure Section.IsWritten (s : Section) : Prop where
  bare : IsBare s.name
  entries : ∀ e ∈ s.entries, e.IsWritten
  distinct : (s.entries.map Entry.key).Nodup

def Entry.IsReadAs (e : Entry) (found : Key × Item) : Prop := found.1.name = e.key ∧ found.2.Has e.value

def Section.IsReadAs (s : Section) (found : Key × Item) : Prop :=
  found.1.name = s.name ∧
    ∃ t : Table Item, found.2 = .table t ∧ List.Forall₂ Entry.IsReadAs s.entries t.entries

theorem find?_eq_none {α : Type} {R : α → Key × Item → Prop} {name : α → String} {t : Table Item}
    {key : String} {parts : List α} (related : List.Forall₂ R parts t.entries)
    (named : ∀ a found, R a found → found.1.name = name a) (free : key ∉ parts.map name) :
    t.find? key = none := by
  have names : t.entries.map (·.1.name) = parts.map name := by
    clear free
    generalize t.entries = entries at related
    induction related with
    | nil => rfl
    | cons first _ ih =>
        rw [List.map_cons, List.map_cons, ih, named _ _ first]
  rw [Table.find?, Option.map_eq_none_iff, List.find?_eq_none]
  intro found member same
  rw [← names, List.mem_map] at free
  exact free ⟨found, member, beq_iff_eq.1 same⟩

inductive Document.Holds (d : Document) : List Section → Prop
  | nil : d.path = [] → d.current.entries = [] → Holds d []
  | snoc {sections : List Section} {s : Section} {k : Key} : d.path = [k] → k.name = s.name →
      d.isArray = false → d.current.style = .header →
      List.Forall₂ Entry.IsReadAs s.entries d.current.entries →
      List.Forall₂ Section.IsReadAs sections d.root.entries → Holds d (sections ++ [s])

namespace Document.Holds

variable {d : Document} {sections : List Section}

theorem close (holds : d.Holds sections) :
    ∃ t, d.close = .ok t ∧ List.Forall₂ Section.IsReadAs sections t.entries := by
  cases holds with
  | nil path entries =>
      refine ⟨d.current, by rw [Document.close, path]; rfl, ?_⟩
      rw [entries]
      exact .nil
  | @snoc sections s k path named isArray style entries root =>
      refine ⟨d.root.add k (.table d.current), ?_, ?_⟩
      · rw [Document.close, path, isArray]
        rfl
      · exact List.rel_append root (.cons ⟨named, d.current, rfl, entries⟩ .nil)

theorem addHeader {name : String} {k : Key} (span : Span) (holds : d.Holds sections)
    (named : k.name = name) (free : name ∉ sections.map Section.name) :
    ∃ d', d.addHeader false [k] span = .ok d' ∧ d'.Holds (sections ++ [⟨name, []⟩]) := by
  obtain ⟨t, closed, read⟩ := holds.close
  have absent : t.find? k.name = none :=
    find?_eq_none read (fun _ _ same => same.1) (named ▸ free)
  refine ⟨⟨t, ⟨.header, some span, []⟩, [k], false⟩, ?_, .snoc rfl named rfl rfl .nil read⟩
  have opened : openTable [] k t = .ok t := by
    rw [openTable, absent]
  have entries : entriesAt k.name t = [] := by
    rw [entriesAt, absent]
  simp [Document.addHeader, closed, splitKey, modifyAt, opened, tableAt?, entries, bind, Except.bind]
  rfl

theorem addEntry {name : String} {entries : List Entry} {e : Entry} {k : Key} {item : Item}
    (holds : d.Holds (sections ++ [⟨name, entries⟩])) (named : k.name = e.key) (has : item.Has e.value)
    (free : e.key ∉ entries.map Entry.key) :
    ∃ d', d.addEntry [k] item = .ok d' ∧ d'.Holds (sections ++ [⟨name, entries ++ [e]⟩]) := by
  generalize same : sections ++ [⟨name, entries⟩] = all at holds
  cases holds with
  | nil => simp at same
  | @snoc sections' s k' path _ isArray style read root =>
      obtain ⟨rfl, rfl⟩ : sections = sections' ∧ ⟨name, entries⟩ = s := by simpa using same
      let current : Table Item :=
        { d.current with span := extendSpan d.current.span item.span? }
      have absent : current.find? k.name = none :=
        find?_eq_none (t := current) read (fun _ _ same => same.1) (named ▸ free)
      have inserted (table : Option (List String)) :
          insert .key table [] k item current = .ok (current.add k item) := by
        have plain : current.style = .header := style
        simp only [insert, modifyAt, plain, absent]
        rfl
      refine ⟨{ d with current := current.add k item }, ?_, ?_⟩
      · rw [Document.addEntry]
        change (do return { d with current := ← insert .key _ [] k item current }) = _
        rw [inserted]
        rfl
      · exact .snoc path ‹_› isArray style (List.rel_append read (.cons ⟨named, has⟩ .nil)) root

end Document.Holds

def Continues (d : Document) (text : List Char) (Q : Document → Prop) : Prop :=
  ∀ fuel, text.length ≤ fuel → Reads (lines.go fuel d) text Q []

section
variable {d : Document} {text mid : List Char} {P Q : Document → Prop}

theorem continues_nil (holds : Q d) : Continues d [] Q := by
  intro fuel _
  cases fuel with
  | zero => exact .pure holds
  | succ fuel => exact (reads_optional_none (.after reads_peek fun _ same => same ▸ .fail)).step (.pure holds)

theorem continues_line (first : Reads (line d) text P mid) (shorter : mid.length < text.length)
    (leads : ∀ c ∈ mid.head?, isBlank c = false) (next : ∀ d', P d' → Continues d' mid Q) :
    Continues d text Q := by
  intro fuel enough
  cases fuel with
  | zero => omega
  | succ fuel =>
      refine (reads_optional first).bind ?_
      rintro _ ⟨d', rfl, holds⟩
      exact (reads_noSpaces leads).bind fun _ _ => next d' holds fuel (by omega)

theorem section_leads (sections : List Section) :
    ∀ c ∈ (sectionsText sections).head?, isBlank c = false := by
  cases sections with
  | nil => simp [sectionsText]
  | cons s others =>
      rintro c ⟨⟩
      decide

theorem entries_lead {entries : List Entry} (written : ∀ e ∈ entries, e.IsWritten)
    (leads : ∀ c ∈ mid.head?, isBlank c = false) :
    ∀ c ∈ (entries.flatMap Entry.text ++ mid).head?, isBlank c = false := by
  cases entries with
  | nil => exact leads
  | cons e others =>
      rw [List.flatMap_cons, Entry.text, entryText, List.append_assoc, List.append_assoc]
      obtain ⟨first, head, keyChar⟩ := (written e List.mem_cons_self).bare.head
      intro c same
      rw [head] at same
      cases same
      exact isBlank_of_isKeyChar keyChar

theorem not_mem_of_nodup {α β : Type} {f : α → β} {before after : List α} {a : α}
    (distinct : ((before ++ a :: after).map f).Nodup) : f a ∉ before.map f := by
  rw [List.map_append, List.map_cons] at distinct
  exact fun member => (List.nodup_append.1 distinct).2.2 _ member _ List.mem_cons_self rfl

theorem continues_entries {sections : List Section} {name : String} {entries others : List Entry}
    (written : ∀ e ∈ others, e.IsWritten) (distinct : ((entries ++ others).map Entry.key).Nodup)
    (leads : ∀ c ∈ mid.head?, isBlank c = false) (holds : d.Holds (sections ++ [⟨name, entries⟩]))
    (next : ∀ d', d'.Holds (sections ++ [⟨name, entries ++ others⟩]) → Continues d' mid Q) :
    Continues d (others.flatMap Entry.text ++ mid) Q := by
  induction others generalizing d entries with
  | nil => exact next d (by simpa using holds)
  | cons e others ih =>
      obtain ⟨first, rest⟩ := List.forall_mem_cons.1 written
      rw [List.flatMap_cons, List.append_assoc]
      refine continues_line (reads_entryLine first.bare first.writes fun k item named has =>
        holds.addEntry named has (not_mem_of_nodup distinct)) ?_ (entries_lead rest leads) fun d' grown => ?_
      · simp [Entry.text, entryText]
        omega
      · have moved : entries ++ e :: others = entries ++ [e] ++ others := List.append_cons ..
        rw [moved] at distinct next
        exact ih rest distinct grown next

theorem continues_sections {done others : List Section} (written : ∀ s ∈ others, s.IsWritten)
    (distinct : ((done ++ others).map Section.name).Nodup) (holds : d.Holds done) :
    Continues d (sectionsText others) (·.Holds (done ++ others)) := by
  induction others generalizing d done with
  | nil => exact continues_nil (by simpa using holds)
  | cons s others ih =>
      obtain ⟨first, rest⟩ := List.forall_mem_cons.1 written
      have layout : sectionsText (s :: others) =
          headerText s.name ++ (s.entries.flatMap Entry.text ++ sectionsText others) := by
        simp [sectionsText, Section.text]
      rw [layout]
      refine continues_line (reads_headerLine first.bare fun k span named =>
        holds.addHeader span named (not_mem_of_nodup distinct)) ?_
        (entries_lead first.entries (section_leads others)) fun d' opened => ?_
      · simp [headerText]
        omega
      · refine continues_entries first.entries (by simpa using first.distinct) (section_leads others) opened fun d' full => ?_
        -- The section that was read is one of those before the rest.
        have moved : done ++ s :: others = done ++ [s] ++ others := List.append_cons ..
        rw [moved] at distinct ⊢
        exact ih rest distinct full

end

theorem parse_sectionsText {sections : List Section} (written : ∀ s ∈ sections, s.IsWritten)
    (distinct : (sections.map Section.name).Nodup) :
    ∃ t, parse (sectionsText sections) = .ok t ∧ List.Forall₂ Section.IsReadAs sections t.entries := by
  have starts : Document.Holds {} [] := .nil rfl rfl
  have leads := section_leads sections
  have mark : ∀ c ∈ (sectionsText sections).head?, c ≠ '\uFEFF' := by
    cases sections with
    | nil => simp [sectionsText]
    | cons s others =>
        rintro c ⟨⟩
        decide
  have goes := @continues_sections {} [] sections written distinct starts
  have body : Reads (lines {}) (sectionsText sections) (·.Holds sections) [] :=
    reads_get.bind fun c same => goes _ (Nat.le_of_eq (by rw [same]))
  have ended : Reads ended [] (fun _ => True) [] := reads_peek.step (.pure trivial)
  have read : Reads document (sectionsText sections) (·.Holds sections) [] := by
    refine (reads_optional_none (declines_char mark)).bind fun _ _ => (reads_noSpaces leads).bind fun _ _ => ?_
    exact body.bind fun d holds => ended.bind fun _ _ => .pure holds
  obtain ⟨d, place, ran, holds⟩ := read 0
  obtain ⟨t, closed, entries⟩ := holds.close
  refine ⟨t, ?_, entries⟩
  simp only [parse, ran, closed]

end Enclose.Toml
