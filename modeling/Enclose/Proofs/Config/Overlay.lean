import Enclose.Config.Reader
import Enclose.Proofs.Toml.Section
import Mathlib.Algebra.Group.Nat.Defs
import Mathlib.Data.List.Nodup

/-!
# Configurations that are given in part

A text that gives some of the settings of a valid configuration, in sections and in any order, is
read as the configuration with these settings and the defaults for all others, which is valid too
(`parse_partText`).
-/

namespace Enclose.Config

open Toml Toml.Reader

inductive Part where
  | listener | transformation | response | timeouts | observability
  deriving DecidableEq

def Part.name : Part → String
  | listener => "listener"
  | transformation => "transform"
  | response => "response"
  | timeouts => "timeouts"
  | observability => "observability"

inductive Setting where
  | bindAddress
  | format
  | globalName
  | minify
  | maxSourceBytes
  | sharedMaxAgeSecs
  | allowOrigin
  | requestSecs
  | logLevel
  | metricsEnabled
  | metricsAddress
  deriving DecidableEq

namespace Setting

def part : Setting → Part
  | bindAddress => .listener
  | format | globalName | minify | maxSourceBytes => .transformation
  | sharedMaxAgeSecs | allowOrigin => .response
  | requestSecs => .timeouts
  | logLevel | metricsEnabled | metricsAddress => .observability

def key : Setting → String
  | bindAddress => "bind_address"
  | format => "format"
  | globalName => "global_name"
  | minify => "minify"
  | maxSourceBytes => "max_source_bytes"
  | sharedMaxAgeSecs => "shared_max_age_secs"
  | allowOrigin => "allow_origin"
  | requestSecs => "request_secs"
  | logLevel => "log_level"
  | metricsEnabled => "metrics_enabled"
  | metricsAddress => "metrics_address"

def value (c : Config) : Setting → Plain
  | bindAddress => .text c.listener.bindAddress
  | format => .text c.transformation.options.format.name
  | globalName => .text c.transformation.options.globalName
  | minify => .truth c.transformation.options.minify
  | maxSourceBytes => .number c.transformation.maxSourceBytes
  | sharedMaxAgeSecs => .number c.response.sharedMaxAgeSecs
  | allowOrigin => .text c.response.allowOrigin
  | requestSecs => .number c.timeouts.requestSecs
  | logLevel => .text c.observability.logLevel
  | metricsEnabled => .truth c.observability.metricsEnabled
  | metricsAddress => .text c.observability.metricsAddress

end Setting

/-- The choices of a configuration for the given settings, and the defaults for the others. -/
def overlay (c : Config) (given : List Setting) : Config :=
  let pick {α : Type} (s : Setting) (get : Config → α) : α := if s ∈ given then get c else get {}
  { listener := { bindAddress := pick .bindAddress (·.listener.bindAddress) }
    transformation :=
      { options :=
          { format := pick .format (·.transformation.options.format)
            globalName := pick .globalName (·.transformation.options.globalName)
            minify := pick .minify (·.transformation.options.minify) }
        maxSourceBytes := pick .maxSourceBytes (·.transformation.maxSourceBytes) }
    response :=
      { sharedMaxAgeSecs := pick .sharedMaxAgeSecs (·.response.sharedMaxAgeSecs)
        allowOrigin := pick .allowOrigin (·.response.allowOrigin) }
    timeouts := { requestSecs := pick .requestSecs (·.timeouts.requestSecs) }
    observability :=
      { logLevel := pick .logLevel (·.observability.logLevel)
        metricsEnabled := pick .metricsEnabled (·.observability.metricsEnabled)
        metricsAddress := pick .metricsAddress (·.observability.metricsAddress) } }

theorem value_overlay (c : Config) (given : List Setting) (s : Setting) :
    s.value (c.overlay given) = s.value (if s ∈ given then c else {}) := by
  cases s <;> simp only [Setting.value, overlay] <;> split <;> rfl

theorem name_injective {f g : Format} (same : f.name = g.name) : f = g :=
  Option.some.inj (by rw [← Format.ofName?_name, ← Format.ofName?_name, same])

theorem eq_of_values {c d : Config} (same : ∀ s : Setting, s.value c = s.value d) : c = d := by
  obtain ⟨⟨_⟩, ⟨⟨_, _, _⟩, _⟩, ⟨_, _⟩, ⟨_⟩, ⟨_, _, _⟩⟩ := c
  obtain ⟨⟨_⟩, ⟨⟨_, _, _⟩, _⟩, ⟨_, _⟩, ⟨_⟩, ⟨_, _, _⟩⟩ := d
  cases same .bindAddress
  cases name_injective (Plain.text.inj (same .format))
  cases same .globalName
  cases same .minify
  cases same .maxSourceBytes
  cases same .sharedMaxAgeSecs
  cases same .allowOrigin
  cases same .requestSecs
  cases same .logLevel
  cases same .metricsEnabled
  cases same .metricsAddress
  rfl

theorem require_eq_nil_iff {holds : Bool} {p : Problem} : require holds p = [] ↔ holds = true := by
  cases holds <;> simp [require]

theorem problems_default : ({} : Config).problems = [] := by decide +kernel

/-- With the defaults for what is not given, a valid configuration stays valid. The address for
metrics is the only choice on which another one depends, and its default is an address. -/
theorem problems_overlay {c : Config} (valid : c.problems = []) (given : List Setting) :
    (c.overlay given).problems = [] := by
  have standard := problems_default
  simp only [problems, List.append_eq_nil_iff, require_eq_nil_iff] at valid standard ⊢
  obtain ⟨⟨⟨⟨⟨address, name⟩, bytes⟩, seconds⟩, origin⟩, metrics⟩ := valid
  obtain ⟨⟨⟨⟨⟨address', name'⟩, bytes'⟩, seconds'⟩, origin'⟩, -⟩ := standard
  have metricsAddress : SocketAddress.isValid ({} : Observability).metricsAddress = true := by
    decide +kernel
  -- Each setting comes from one of two configurations that are valid.
  refine ⟨⟨⟨⟨⟨?_, ?_⟩, ?_⟩, ?_⟩, ?_⟩, ?_⟩
  · simp only [overlay]
    split
    exacts [address, address']
  · simp only [overlay]
    split
    exacts [name, name']
  · simp only [overlay]
    split
    exacts [bytes, bytes']
  · simp only [overlay]
    split
    exacts [seconds, seconds']
  · simp only [overlay]
    split
    exacts [origin, origin']
  · simp only [overlay]
    split
    · split
      · exact metrics
      · rw [metricsAddress, Bool.or_true]
    · rfl

def valueText (spell : String → List Char) : Plain → List Char
  | .text value => '"' :: (spell value ++ ['"'])
  | .number value => Nat.toDigits 10 value
  | .truth value => (if value then "true" else "false").toList

def entryOf (spell : Setting → String → List Char) (c : Config) (s : Setting) : Toml.Entry :=
  ⟨s.key, s.value c, valueText (spell s) (s.value c)⟩

def sectionIn (spell : Setting → String → List Char) (c : Config) (block : Part × List Setting) :
    Toml.Section :=
  ⟨block.1.name, block.2.map (entryOf spell c)⟩

def partText (spell : Setting → String → List Char) (c : Config) (blocks : List (Part × List Setting)) :
    String :=
  String.ofList (sectionsText (blocks.map (sectionIn spell c)))

structure IsArranged (blocks : List (Part × List Setting)) : Prop where
  parts : (blocks.map Prod.fst).Nodup
  own : ∀ block ∈ blocks, ∀ s ∈ block.2, s.part = block.1
  settings : ∀ block ∈ blocks, block.2.Nodup

/-- The numbers of a configuration can be written. -/
structure IsSmall (c : Config) : Prop where
  maxSourceBytes : c.transformation.maxSourceBytes < 2 ^ 63
  sharedMaxAgeSecs : c.response.sharedMaxAgeSecs < 2 ^ 63
  requestSecs : c.timeouts.requestSecs < 2 ^ 63

section
variable {spell : Setting → String → List Char} {c : Config} {blocks : List (Part × List Setting)}

theorem Setting.key_injective : Function.Injective Setting.key := by
  intro s t
  cases s <;> cases t <;> first | exact fun _ => rfl | exact fun same => absurd same (by decide)

theorem Part.name_injective : Function.Injective Part.name := by
  intro s t
  cases s <;> cases t <;> first | exact fun _ => rfl | exact fun same => absurd same (by decide)

theorem isBare_of_all {name : String} (nonempty : name.toList ≠ [])
    (all : name.toList.all isKeyChar = true) : IsBare name :=
  ⟨nonempty, List.all_eq_true.1 all⟩

theorem isBare_key (s : Setting) : IsBare s.key := by
  cases s <;> exact isBare_of_all (by decide) (by decide)

theorem isBare_name (part : Part) : IsBare part.name := by
  cases part <;> exact isBare_of_all (by decide) (by decide)

theorem writes_valueText (spells : ∀ s value, Spells (spell s value) value.toList) (small : c.IsSmall)
    (s : Setting) : Writes (s.value c) (valueText (spell s) (s.value c)) := by
  have number {n : Nat} (bound : n < 2 ^ 63) : (n : Int) ≤ maxInteger := by
    unfold maxInteger
    omega
  cases s with
  | maxSourceBytes => exact .number (number small.maxSourceBytes)
  | sharedMaxAgeSecs => exact .number (number small.sharedMaxAgeSecs)
  | requestSecs => exact .number (number small.requestSecs)
  | minify | metricsEnabled => exact .truth _
  | bindAddress | format | globalName | allowOrigin | logLevel | metricsAddress => exact .text (spells _ _)

theorem sectionIn_isWritten (spells : ∀ s value, Spells (spell s value) value.toList) (small : c.IsSmall)
    (arranged : IsArranged blocks) : ∀ s ∈ blocks.map (sectionIn spell c), s.IsWritten := by
  intro _ member
  obtain ⟨block, inside, rfl⟩ := List.mem_map.1 member
  refine ⟨isBare_name block.1, fun e among => ?_, ?_⟩
  · obtain ⟨s, -, rfl⟩ := List.mem_map.1 among
    exact ⟨isBare_key s, writes_valueText spells small s⟩
  · rw [sectionIn, List.map_map]
    exact (arranged.settings block inside).map Setting.key_injective

theorem sections_distinct (arranged : IsArranged blocks) :
    ((blocks.map (sectionIn spell c)).map Toml.Section.name).Nodup := by
  have distinct := arranged.parts.map Part.name_injective
  rw [List.map_map] at distinct ⊢
  exact distinct

end

section
variable {item : Item}

theorem decodeString_of_has {value : String} (has : item.Has (.text value)) :
    decodeString item = .ok value := by
  cases has
  rfl

theorem decodeBool_of_has {value : Bool} (has : item.Has (.truth value)) :
    decodeBool item = .ok value := by
  cases has
  rfl

theorem decodeNat_of_has {typeName : String} {value : Nat} (has : item.Has (.number value)) :
    decodeNat typeName item = .ok value := by
  cases has
  rfl

theorem decodeName_of_has {format : Format} (has : item.Has (.text format.name)) :
    decodeName formatNames item = .ok format := by
  cases has
  cases format <;> rfl

end

section
variable {c : Config} {σ : Type} {fields : List (Toml.Field σ)} {put : σ → Config → Config}

/-- A field of a part reads a setting, and leaves all other settings as they are. -/
def ReadsSetting (fields : List (Toml.Field σ)) (put : σ → Config → Config) (c : Config) (s : Setting) :
    Prop :=
  ∀ item : Item, item.Has (s.value c) → ∃ field, fields.find? (·.name == s.key) = some field ∧
    ∀ part : σ, ∃ part', field.read item part = .ok part' ∧
      ∀ (r : Config) (t : Setting), t.value (put part' r) = t.value (if t = s then c else put part r)

theorem ReadsSetting.of {α : Type} {a : α} {s : Setting} {key : String} {decode : Decoder α}
    {set : α → σ → σ} (found : fields.find? (·.name == s.key) = some (.of key decode set))
    (decodes : ∀ item : Item, item.Has (s.value c) → decode item = .ok a)
    (sets : ∀ part r t, Setting.value (put (set a part) r) t = t.value (if t = s then c else put part r)) :
    ReadsSetting fields put c s := by
  intro item has
  refine ⟨_, found, fun part => ⟨set a part, ?_, sets part⟩⟩
  simp only [Field.of, decodes item has]
  rfl

theorem readsSetting_listener {s : Setting} (own : s.part = .listener) :
    ReadsSetting listenerFields (fun s c => { c with listener := s }) c s := by
  cases s <;> cases own
  exact .of rfl (fun _ => decodeString_of_has) fun _ _ t => by cases t <;> rfl

theorem readsSetting_transformation {s : Setting} (own : s.part = .transformation) :
    ReadsSetting transformationFields (fun s c => { c with transformation := s }) c s := by
  cases s <;> cases own
  case format => exact .of rfl (fun _ => decodeName_of_has) fun _ _ t => by cases t <;> rfl
  case globalName => exact .of rfl (fun _ => decodeString_of_has) fun _ _ t => by cases t <;> rfl
  case minify => exact .of rfl (fun _ => decodeBool_of_has) fun _ _ t => by cases t <;> rfl
  case maxSourceBytes => exact .of rfl (fun _ => decodeNat_of_has) fun _ _ t => by cases t <;> rfl

theorem readsSetting_response {s : Setting} (own : s.part = .response) :
    ReadsSetting responseFields (fun s c => { c with response := s }) c s := by
  cases s <;> cases own
  case sharedMaxAgeSecs => exact .of rfl (fun _ => decodeNat_of_has) fun _ _ t => by cases t <;> rfl
  case allowOrigin => exact .of rfl (fun _ => decodeString_of_has) fun _ _ t => by cases t <;> rfl

theorem readsSetting_timeouts {s : Setting} (own : s.part = .timeouts) :
    ReadsSetting timeoutsFields (fun s c => { c with timeouts := s }) c s := by
  cases s <;> cases own
  exact .of rfl (fun _ => decodeNat_of_has) fun _ _ t => by cases t <;> rfl

theorem readsSetting_observability {s : Setting} (own : s.part = .observability) :
    ReadsSetting observabilityFields (fun s c => { c with observability := s }) c s := by
  cases s <;> cases own
  case logLevel => exact .of rfl (fun _ => decodeString_of_has) fun _ _ t => by cases t <;> rfl
  case metricsEnabled => exact .of rfl (fun _ => decodeBool_of_has) fun _ _ t => by cases t <;> rfl
  case metricsAddress => exact .of rfl (fun _ => decodeString_of_has) fun _ _ t => by cases t <;> rfl

variable {spell : Setting → String → List Char}

theorem readEntries_cons {entries : List (Key × Item)} {k : Key} {item : Item} {field : Toml.Field σ}
    {before after : σ} (found : fields.find? (·.name == k.name) = some field)
    (read : field.read item before = .ok after) :
    readEntries fields ((k, item) :: entries) before = readEntries fields entries after := by
  simp only [readEntries, List.foldlM_cons, found, read]
  rfl

theorem readEntries_settings {settings : List Setting}
    (reads : ∀ s ∈ settings, ReadsSetting fields put c s) {entries : List (Key × Item)}
    (related : List.Forall₂ Entry.IsReadAs (settings.map (entryOf spell c)) entries) (part : σ) :
    ∃ part', readEntries fields entries part = .ok part' ∧
      ∀ (r : Config) (t : Setting),
        t.value (put part' r) = t.value (if t ∈ settings then c else put part r) := by
  induction settings generalizing entries part with
  | nil =>
      cases related
      exact ⟨part, rfl, fun r t => by simp⟩
  | cons s settings ih =>
      obtain ⟨first, others⟩ := List.forall_mem_cons.1 reads
      cases related with
      | @cons _ found _ entries same rest =>
      obtain ⟨k, item⟩ := found
      obtain ⟨named, has⟩ := same
      obtain ⟨field, known, sets⟩ := first item has
      obtain ⟨next, read, set⟩ := sets part
      obtain ⟨last, readRest, setRest⟩ := ih others rest next
      have known : fields.find? (·.name == k.name) = some field := named ▸ known
      refine ⟨last, (readEntries_cons known read).trans readRest, fun r t => ?_⟩
      rw [setRest]
      -- A setting that is read again later is the same again, so their order does not matter.
      by_cases later : t ∈ settings
      · simp [later]
      · rw [if_neg later, set]
        simp [later]

def ReadsPart (c : Config) (part : Part) (field : Toml.Field Config) : Prop :=
  ∀ (spell : Setting → String → List Char) (settings : List Setting), (∀ s ∈ settings, s.part = part) →
    ∀ t : Table Item, List.Forall₂ Entry.IsReadAs (settings.map (entryOf spell c)) t.entries →
      ∀ r : Config, ∃ r', field.read (.table t) r = .ok r' ∧
        ∀ s : Setting, s.value r' = s.value (if s ∈ settings then c else r)

theorem readsPart_sectionOf {part : Part} {typeName : String} {get : Config → σ}
    (reads : ∀ s : Setting, s.part = part → ReadsSetting fields put c s) (same : ∀ r, put (get r) r = r) :
    ReadsPart c part (sectionOf part.name typeName fields get put) := by
  intro spell settings own t related r
  obtain ⟨read, taken, values⟩ := readEntries_settings (fun s inside => reads s (own s inside)) related (get r)
  refine ⟨put read r, ?_, fun s => ?_⟩
  · simp only [sectionOf, decodeStructure, taken]
    rfl
  · rw [values, same]

theorem readsPart (c : Config) (part : Part) :
    ∃ field, sections.find? (·.name == part.name) = some field ∧ ReadsPart c part field := by
  cases part
  case listener => exact ⟨_, rfl, readsPart_sectionOf (fun _ => readsSetting_listener) fun _ => rfl⟩
  case transformation =>
    exact ⟨_, rfl, readsPart_sectionOf (fun _ => readsSetting_transformation) fun _ => rfl⟩
  case response => exact ⟨_, rfl, readsPart_sectionOf (fun _ => readsSetting_response) fun _ => rfl⟩
  case timeouts => exact ⟨_, rfl, readsPart_sectionOf (fun _ => readsSetting_timeouts) fun _ => rfl⟩
  case observability =>
    exact ⟨_, rfl, readsPart_sectionOf (fun _ => readsSetting_observability) fun _ => rfl⟩

theorem readEntries_blocks {blocks : List (Part × List Setting)}
    (own : ∀ block ∈ blocks, ∀ s ∈ block.2, s.part = block.1) {entries : List (Key × Item)}
    (related : List.Forall₂ Section.IsReadAs (blocks.map (sectionIn spell c)) entries) (r : Config) :
    ∃ r', readEntries sections entries r = .ok r' ∧
      ∀ s : Setting, s.value r' = s.value (if s ∈ blocks.flatMap Prod.snd then c else r) := by
  induction blocks generalizing entries r with
  | nil =>
      cases related
      exact ⟨r, rfl, fun s => by simp⟩
  | cons block blocks ih =>
      obtain ⟨first, others⟩ := List.forall_mem_cons.1 own
      cases related with
      | @cons _ found _ entries same rest =>
      obtain ⟨k, item⟩ := found
      obtain ⟨named, t, rfl, inside⟩ := same
      obtain ⟨field, known, reads⟩ := readsPart c block.1
      obtain ⟨next, read, values⟩ := reads spell block.2 first t inside r
      obtain ⟨last, readRest, valuesRest⟩ := ih others rest next
      have known : sections.find? (·.name == k.name) = some field := named ▸ known
      refine ⟨last, (readEntries_cons known read).trans readRest, fun s => ?_⟩
      rw [valuesRest]
      by_cases later : s ∈ blocks.flatMap Prod.snd
      · simp [later]
      · rw [if_neg later, values, List.flatMap_cons]
        simp only [List.mem_append, later, or_false]

/-- A text that gives some settings of a valid configuration is read as the configuration with these
settings and the defaults for the others. -/
theorem parse_partText {blocks : List (Part × List Setting)} (valid : c.problems = []) (small : c.IsSmall)
    (spells : ∀ s value, Spells (spell s value) value.toList) (arranged : IsArranged blocks) :
    parse (partText spell c blocks) = .ok (c.overlay (blocks.flatMap Prod.snd)) ∧
      (c.overlay (blocks.flatMap Prod.snd)).problems = [] := by
  have remains := problems_overlay valid (blocks.flatMap Prod.snd)
  obtain ⟨t, parsed, related⟩ :=
    parse_sectionsText (sectionIn_isWritten spells small arranged) (sections_distinct arranged)
  obtain ⟨r, found, values⟩ := readEntries_blocks arranged.own related {}
  have same : r = c.overlay (blocks.flatMap Prod.snd) :=
    eq_of_values fun s => by rw [values, value_overlay]
  refine ⟨?_, remains⟩
  have whole : read (partText spell c blocks) = .ok r := by
    simp only [read, partText, String.toList_ofList, parsed]
    change Except.mapError _ (readEntries sections t.entries {}) = _
    rw [found]
    rfl
  rw [parse, whole, same]
  change check _ = _
  rw [check, remains]
  rfl

end

def sample : Config :=
  { listener := { bindAddress := "[::1]:80" }
    transformation :=
      { options := { format := .cjs, globalName := "window.lib", minify := true }
        maxSourceBytes := 2 ^ 63 - 1 }
    response := { sharedMaxAgeSecs := 0, allowOrigin := "\"a\\b\" #" }
    timeouts := { requestSecs := 1 }
    observability :=
      { logLevel := "\n\x7f é\\", metricsEnabled := true, metricsAddress := "10.0.0.1:0" } }

theorem parse_partText_of_sample :
    parse (partText (fun _ value => escaped value.toList) sample
      [ (.observability, [.metricsEnabled, .logLevel]), (.timeouts, []),
        (.response, [.allowOrigin]), (.transformation, [.maxSourceBytes, .format]) ]) =
      .ok
        { transformation := { options := { format := .cjs }, maxSourceBytes := 2 ^ 63 - 1 }
          response := { allowOrigin := "\"a\\b\" #" }
          observability := { logLevel := "\n\x7f é\\", metricsEnabled := true } } :=
  (parse_partText (by decide +kernel) ⟨by decide, by decide, by decide⟩ (fun _ _ => spells_escaped _)
    ⟨by decide, by decide, by decide⟩).1

end Enclose.Config
