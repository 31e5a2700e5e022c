import Enclose.Config.Reader
import Enclose.Http.Server
import Enclose.Proofs.Config.Overlay
import Enclose.Proofs.Text.Utf8

/-!
# What a loaded configuration is good for

The problems of a configuration are its violated constraints, in a fixed order
(`mem_problems_iff`, `problems_sublist`). A server can be made of a configuration iff the origin that
it allows can be the value of a header, which is one of the constraints (`ofConfig_error_iff`). What
is loaded satisfies all of them, before and after the address to listen on is replaced
(`load_agrees`).
-/

namespace Enclose

namespace Http

def IsHeaderText (text : String) : Prop :=
  ∀ c ∈ text.toList, c = '\t' ∨ 0x20 ≤ c.toNat ∧ c.toNat ≠ 0x7F

theorem isValueByte_iff (b : UInt8) :
    isValueByte b = true ↔ b.toNat = 9 ∨ 0x20 ≤ b.toNat ∧ b.toNat ≠ 0x7F := by
  simp [isValueByte, UInt8.le_iff_toNat_le, ← UInt8.toNat_inj]

theorem isHeaderValue_bytes_iff (text : String) :
    isHeaderValue (Response.bytes text) = true ↔ IsHeaderText text := by
  simp only [isHeaderValue, Response.bytes, Utf8.encode, List.all_eq_true, List.mem_flatMap,
    isValueByte_iff, IsHeaderText]
  constructor
  · intro valid c member
    by_cases ascii : c.toNat < 0x80
    · have value : (UInt8.ofNat c.toNat).toNat = c.toNat := by simp; omega
      have small : UInt8.ofNat c.toNat < 0x80 := by rw [UInt8.lt_iff_toNat_lt, value]; exact ascii
      have alone := Utf8.utf8EncodeChar_ofNat small
      rw [value, Char.ofNat_toNat] at alone
      have byte := valid _ ⟨c, member, alone ▸ List.mem_singleton_self _⟩
      rw [value] at byte
      exact byte.imp_left fun tab => Char.toNat_inj.1 tab
    · exact .inr (by omega)
  · rintro valid b ⟨c, member, isIn⟩
    by_cases ascii : b < 0x80
    · rw [← (Utf8.utf8EncodeChar_of_mem isIn ascii).1]
      exact (valid c member).imp_left (congrArg Char.toNat)
    · have large : 0x80 ≤ b.toNat := by simpa [UInt8.lt_iff_toNat_lt] using ascii
      exact .inr (by omega)

theorem checkValue_of_isHeaderText {text : String} (valid : IsHeaderText text) :
    Header.checkValue (Response.bytes text) = .ok (Response.bytes text) :=
  if_pos ((isHeaderValue_bytes_iff text).2 valid)

theorem isHeaderText_cacheControl (r : Config.Response) : IsHeaderText r.cacheControl := by
  intro c member
  simp only [Config.Response.cacheControl, String.toList_append, Nat.toString_eq_repr, Nat.toList_repr,
    List.mem_append] at member
  rcases member with word | digit
  · exact (isHeaderValue_bytes_iff "s-maxage=").1 (by decide) c word
  · have isDigit := Nat.isDigit_of_mem_toDigits (by decide) (by decide) digit
    simp only [Char.isDigit, Bool.and_eq_true, decide_eq_true_eq, ge_iff_le, UInt32.le_iff_toNat_le]
      at isDigit
    have bounds : 48 ≤ c.toNat ∧ c.toNat ≤ 57 := isDigit
    exact .inr (by omega)

end Http

namespace Config

open Http

inductive Violates (c : Config) : Problem → Prop
  | bindAddress : SocketAddress.parse? c.listener.bindAddress = none →
      Violates c (.bindAddress c.listener.bindAddress)
  | globalName : Identifier.isGlobalName c.transformation.options.globalName = false →
      Violates c (.globalName c.transformation.options.globalName)
  | maxSourceBytes : c.transformation.maxSourceBytes = 0 → Violates c .maxSourceBytes
  | requestSecs : c.timeouts.requestSecs = 0 → Violates c .requestSecs
  | allowOrigin : ¬IsHeaderText c.response.allowOrigin →
      Violates c (.allowOrigin c.response.allowOrigin)
  | metricsAddress : c.observability.metricsEnabled →
      SocketAddress.parse? c.observability.metricsAddress = none →
      Violates c (.metricsAddress c.observability.metricsAddress)

theorem mem_require_iff {holds : Bool} {p q : Problem} :
    q ∈ require holds p ↔ q = p ∧ holds = false := by
  cases holds <;> simp [require]

theorem require_sublist (holds : Bool) (p : Problem) : (require holds p).Sublist [p] := by
  cases holds
  · exact .refl _
  · exact List.nil_sublist _

theorem mem_problems_iff {c : Config} {p : Problem} : p ∈ c.problems ↔ Violates c p := by
  have origin : isHeaderValue (Utf8.encode c.response.allowOrigin.toList) = false ↔
      ¬IsHeaderText c.response.allowOrigin := by
    rw [← isHeaderValue_bytes_iff, Bool.not_eq_true, Response.bytes]
  simp only [problems, List.mem_append, mem_require_iff, SocketAddress.isValid, bne_eq_false_iff_eq,
    Option.isSome_eq_false_iff, Option.isNone_iff_eq_none, Bool.or_eq_false_iff, Bool.not_eq_false',
    origin]
  constructor
  · rintro (((((⟨rfl, violated⟩ | ⟨rfl, violated⟩) | ⟨rfl, violated⟩) | ⟨rfl, violated⟩) |
      ⟨rfl, violated⟩) | ⟨rfl, violated⟩)
    · exact .bindAddress violated
    · exact .globalName violated
    · exact .maxSourceBytes violated
    · exact .requestSecs violated
    · exact .allowOrigin violated
    · exact .metricsAddress violated.1 violated.2
  · rintro (violated | violated | violated | violated | violated | ⟨enabled, violated⟩) <;> simp [*]

theorem problems_sublist (c : Config) :
    c.problems.Sublist
      [.bindAddress c.listener.bindAddress, .globalName c.transformation.options.globalName,
        .maxSourceBytes, .requestSecs, .allowOrigin c.response.allowOrigin,
        .metricsAddress c.observability.metricsAddress] :=
  ((((require_sublist _ _).append (require_sublist _ _)).append (require_sublist _ _)).append
    (require_sublist _ _)).append (require_sublist _ _) |>.append (require_sublist _ _)

theorem ofConfig_error_iff {c : Config} :
    (∃ fault, Server.ofConfig c = .error fault) ↔ .allowOrigin c.response.allowOrigin ∈ c.problems := by
  have cache := checkValue_of_isHeaderText (isHeaderText_cacheControl c.response)
  have origin : .allowOrigin c.response.allowOrigin ∈ c.problems ↔
      ¬IsHeaderText c.response.allowOrigin :=
    mem_problems_iff.trans ⟨fun | .allowOrigin violated => violated, .allowOrigin⟩
  rw [origin]
  by_cases valid : IsHeaderText c.response.allowOrigin
  · have checked := checkValue_of_isHeaderText valid
    have built : ∃ s, Server.ofConfig c = .ok s := by
      simp only [Server.ofConfig, cache, checked]
      exact ⟨_, rfl⟩
    obtain ⟨s, built⟩ := built
    simp [built, valid]
  · have refused : Header.checkValue (Response.bytes c.response.allowOrigin) = .error .value :=
      if_neg (mt (isHeaderValue_bytes_iff _).1 valid)
    have broken : Server.ofConfig c = .error .value := by
      simp only [Server.ofConfig, cache, refused]
      rfl
    simp [broken, valid]

theorem check_ok_iff {c loaded : Config} : check c = .ok loaded ↔ c.problems = [] ∧ loaded = c := by
  unfold check
  split
  case isTrue valid => simp [List.isEmpty_iff.1 valid, eq_comm]
  case isFalse invalid =>
    have some : c.problems ≠ [] := fun none => invalid (List.isEmpty_iff.2 none)
    simp [some]

theorem fileConfig_ok_iff {text : Option String} {file : Config} :
    text.elim (.ok {}) parse = .ok file ↔ text.elim (.ok {}) read = .ok file ∧ file.problems = [] := by
  cases text with
  | none =>
      rw [Option.elim_none, Option.elim_none, Except.ok.injEq]
      exact ⟨fun same => ⟨same, same ▸ problems_default⟩, And.left⟩
  | some text =>
      rw [Option.elim_some, Option.elim_some, parse]
      cases read text with
      | error fault =>
          constructor
          · rintro ⟨⟩
          · rintro ⟨⟨⟩, -⟩
      | ok c =>
          refine check_ok_iff.trans ⟨?_, ?_⟩
          · rintro ⟨valid, rfl⟩
            exact ⟨rfl, valid⟩
          · rintro ⟨⟨⟩, valid⟩
            exact ⟨valid, rfl⟩

theorem load_ok_iff {text bind : Option String} {c : Config} :
    load text bind = .ok c ↔ ∃ file, text.elim (.ok {}) read = .ok file ∧ file.problems = [] ∧
      (∀ address ∈ bind, (file.withBindAddress address).problems = []) ∧
      c = file.withBindAddress (bind.getD file.listener.bindAddress) := by
  have replaced (file : Config) :
      bind.elim (.ok file) (fun address => check (file.withBindAddress address)) = .ok c ↔
        (∀ address ∈ bind, (file.withBindAddress address).problems = []) ∧
          c = file.withBindAddress (bind.getD file.listener.bindAddress) := by
    cases bind with
    | none => exact ⟨fun same => ⟨nofun, (Except.ok.inj same).symm⟩, fun same => same.2 ▸ rfl⟩
    | some address => simp [check_ok_iff]
  have started : load text bind = .ok c ↔ ∃ file, text.elim (.ok {}) parse = .ok file ∧
      bind.elim (.ok file) (fun address => check (file.withBindAddress address)) = .ok c := by
    rw [load]
    cases text.elim (.ok {}) parse with
    | error fault => exact ⟨nofun, nofun⟩
    | ok file => exact ⟨fun done => ⟨file, rfl, done⟩, fun ⟨_, same, done⟩ => Except.ok.inj same ▸ done⟩
  simp only [started, replaced, fileConfig_ok_iff, and_assoc]

theorem problems_of_load {text bind : Option String} {c : Config} (loaded : load text bind = .ok c) :
    c.problems = [] := by
  obtain ⟨file, -, valid, replaced, rfl⟩ := load_ok_iff.1 loaded
  cases bind with
  | none => exact valid
  | some address => exact replaced address rfl

/-- The service starts with a configuration iff that of the file satisfies all constraints, and still
does so with the other address to listen on, which is all that is replaced. Of such a configuration a
server can be made, and the addresses in it are addresses. A server cannot be made of a configuration
iff its origin is among its problems, which are the violated constraints in their order. -/
theorem load_agrees :
    (∀ text bind c, load text bind = .ok c ↔
      ∃ file, text.elim (.ok {}) read = .ok file ∧ file.problems = [] ∧
        (∀ address ∈ bind, (file.withBindAddress address).problems = []) ∧
        c = file.withBindAddress (bind.getD file.listener.bindAddress)) ∧
    (∀ text bind c, load text bind = .ok c →
      (∃ s, Server.ofConfig c = .ok s) ∧
      (∃ address, SocketAddress.parse? c.listener.bindAddress = some address) ∧
      (c.observability.metricsEnabled →
        ∃ address, SocketAddress.parse? c.observability.metricsAddress = some address)) ∧
    ∀ c : Config,
      ((∃ fault, Server.ofConfig c = .error fault) ↔
        .allowOrigin c.response.allowOrigin ∈ c.problems) ∧
      (∀ p, p ∈ c.problems ↔ Violates c p) ∧
      c.problems.Sublist
        [.bindAddress c.listener.bindAddress, .globalName c.transformation.options.globalName,
          .maxSourceBytes, .requestSecs, .allowOrigin c.response.allowOrigin,
          .metricsAddress c.observability.metricsAddress] := by
  refine ⟨fun _ _ _ => load_ok_iff, fun text bind c loaded => ?_, fun c =>
    ⟨ofConfig_error_iff, fun _ => mem_problems_iff, problems_sublist c⟩⟩
  have valid : c.problems = [] := problems_of_load loaded
  have satisfied {p : Problem} : ¬Violates c p := by
    rw [← mem_problems_iff, valid]
    exact List.not_mem_nil
  refine ⟨?_, ?_, fun enabled => ?_⟩
  · cases built : Server.ofConfig c with
    | ok s => exact ⟨s, rfl⟩
    | error fault => exact absurd (mem_problems_iff.1 (ofConfig_error_iff.1 ⟨fault, built⟩)) satisfied
  · exact Option.ne_none_iff_exists'.1 fun none => satisfied (.bindAddress none)
  · exact Option.ne_none_iff_exists'.1 fun none => satisfied (.metricsAddress enabled none)

def metricsText : String :=
  "[observability]\nmetrics_enabled = true\nmetrics_address = \"[::1]:9\"\n"

theorem load_agrees_of_metricsText :
    ∃ c, load (some metricsText) (some "127.0.0.1:80") = .ok c ∧
      c.listener.bindAddress = "127.0.0.1:80" ∧ (∃ s, Server.ofConfig c = .ok s) ∧
      (∃ address, SocketAddress.parse? c.listener.bindAddress = some address) ∧
      ∃ address, SocketAddress.parse? c.observability.metricsAddress = some address := by
  have loads : load (some metricsText) (some "127.0.0.1:80") = .ok
      { listener := { bindAddress := "127.0.0.1:80" }
        observability := { metricsEnabled := true, metricsAddress := "[::1]:9" } } := by
    decide +kernel
  obtain ⟨server, address, metrics⟩ := load_agrees.2.1 _ _ _ loads
  exact ⟨_, loads, rfl, server, address, metrics rfl⟩

end Config

end Enclose
