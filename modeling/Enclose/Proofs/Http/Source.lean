import Enclose.Proofs.Http.Independence
import Enclose.Proofs.Query.Parts

/-!
# The source text of a target

What stands in a query after the first source text has no influence on the answer
(`respond_appended`). The source text is not longer than the target, so that a server which takes
texts as long as the longest target turns none away (`served_fits`).
-/

namespace Enclose.Http

theorem span_append {p : Char → Bool} {text rest : List Char} {stop : Char}
    (stops : text.dropWhile p = stop :: rest) (added : List Char) :
    (text ++ added).takeWhile p = text.takeWhile p ∧
      (text ++ added).dropWhile p = stop :: (rest ++ added) := by
  have parts := congrArg List.length (List.takeWhile_append_dropWhile (p := p) (l := text))
  rw [stops, List.length_append, List.length_cons] at parts
  refine ⟨?_, ?_⟩
  · rw [List.takeWhile_append, if_neg (by omega)]
  · rw [List.dropWhile_append, stops]
    rfl

theorem drop_length_takeWhile (p : Char → Bool) (text : List Char) :
    text.drop (text.takeWhile p).length = text.dropWhile p :=
  calc text.drop (text.takeWhile p).length
    _ = (text.takeWhile p ++ text.dropWhile p).drop (text.takeWhile p).length := by
        rw [List.takeWhile_append_dropWhile]
    _ = text.dropWhile p := List.drop_left

namespace Target

variable {text added query : List Char} {target longer : Target}

theorem path_of_ofPath (made : ofPath text = .ok target) :
    let path := (text.takeWhile (· ≠ '#')).takeWhile (· ≠ '?')
    target.path = if path.isEmpty then ['/'] else path := by
  unfold ofPath at made
  dsimp only at made
  split at made <;> cases made
  rfl

theorem query_of_ofPath (made : ofPath text = .ok target) :
    target.query = ((text.takeWhile (· ≠ '#')).dropWhile (· ≠ '?')).tail? := by
  unfold ofPath at made
  dsimp only at made
  split at made <;> cases made
  rfl

theorem dropWhile_of_ofPath (made : ofPath text = .ok target) (asked : target.query = some query) :
    ∃ mark, (text.takeWhile (· ≠ '#')).dropWhile (· ≠ '?') = mark :: query := by
  rw [query_of_ofPath made] at asked
  cases shown : (text.takeWhile (· ≠ '#')).dropWhile (· ≠ '?') with
  | nil =>
      rw [shown] at asked
      cases asked
  | cons mark rest =>
      rw [shown] at asked
      cases asked
      exact ⟨mark, rfl⟩

theorem sublist_of_ofPath (made : ofPath text = .ok target) (asked : target.query = some query) :
    query.Sublist text := by
  obtain ⟨mark, shown⟩ := dropWhile_of_ofPath made asked
  have after := List.dropWhile_sublist (l := text.takeWhile (· ≠ '#')) (· ≠ '?')
  rw [shown] at after
  exact (List.sublist_of_cons_sublist after).trans (List.takeWhile_sublist _)

theorem of_afterScheme? {rest : List Char} (scheme : afterScheme? text = .ok (some rest)) :
    text.dropWhile isSchemeChar = ':' :: '/' :: '/' :: rest ∧ 3 < text.length ∧
      ¬maxScheme < (text.takeWhile isSchemeChar).length := by
  unfold afterScheme? at scheme
  split at scheme
  case h_1 after starts =>
    split_ifs at scheme with short long
    · cases scheme
    · have same : after = rest := Option.some.inj (Except.ok.inj scheme)
      exact ⟨same ▸ starts, Nat.lt_of_not_le short, long⟩
  case h_2 => cases scheme

theorem sublist_of_afterScheme? {rest : List Char} (scheme : afterScheme? text = .ok (some rest)) :
    rest.Sublist text := by
  have whole := List.dropWhile_sublist (l := text) isSchemeChar
  rw [(of_afterScheme? scheme).1] at whole
  exact (List.sublist_append_right [':', '/', '/'] rest).trans whole

theorem ofPath_of_ofAddress (made : ofAddress text = .ok target)
    (asked : target.query = some query) :
    ∃ rest, afterScheme? text = .ok (some rest) ∧
      ofPath (rest.dropWhile (!endsAuthority ·)) = .ok target := by
  unfold ofAddress at made
  cases scheme : afterScheme? text with
  | error fault =>
      rw [scheme] at made
      cases made
  | ok afterScheme =>
      rw [scheme] at made
      simp only [bind, Except.bind] at made
      split at made
      case h_1 => cases made
      case h_2 =>
        cases afterScheme with
        | none =>
            simp only [Option.isNone_none, if_true] at made
            split at made <;> cases made
            cases asked
        | some rest =>
            simp only [Option.isNone_some, Bool.false_eq_true, if_false, Option.getD_some] at made
            split at made
            case isTrue => cases made
            case isFalse =>
              rw [drop_length_takeWhile] at made
              exact ⟨rest, rfl, made⟩

theorem sublist_of_ofAddress (made : ofAddress text = .ok target)
    (asked : target.query = some query) : query.Sublist text := by
  obtain ⟨rest, scheme, path⟩ := ofPath_of_ofAddress made asked
  exact ((sublist_of_ofPath path asked).trans (List.dropWhile_sublist _)).trans
    (sublist_of_afterScheme? scheme)

theorem of_parse (made : parse text = .ok target) (asked : target.query = some query) :
    Utf8.length text ≤ maxBytes ∧
      ((∃ rest, text = '/' :: rest) ∧ ofPath text = .ok target ∨
        (∃ c rest, text = c :: rest ∧ c ≠ '/') ∧ ofAddress text = .ok target) := by
  unfold parse at made
  split at made
  case isTrue => cases made
  case isFalse fits =>
    refine ⟨Nat.le_of_not_lt fits, ?_⟩
    split at made
    case h_1 | h_3 | h_4 => cases made
    case h_2 =>
      cases made
      cases asked
    case h_5 rest => exact .inl ⟨⟨rest, rfl⟩, made⟩
    case h_6 notEmpty _ _ _ notPath =>
      cases text with
      | nil => exact (notEmpty rfl).elim
      | cons c rest => exact .inr ⟨⟨c, rest, rfl, fun slash => notPath rest (slash ▸ rfl)⟩, made⟩

theorem length_query_le (made : parse text = .ok target) (asked : target.query = some query) :
    Utf8.length query ≤ maxBytes := by
  obtain ⟨fits, ⟨-, path⟩ | ⟨-, address⟩⟩ := of_parse made asked
  · exact (Utf8.length_le_of_sublist (sublist_of_ofPath path asked)).trans fits
  · exact (Utf8.length_le_of_sublist (sublist_of_ofAddress address asked)).trans fits

/-- What is added to a target goes to the end of its query, or is not looked at. -/
def Lengthens (longer target : Target) (query : List Char) : Prop :=
  longer.path = target.path ∧
    (longer.query = some query ∨ ∃ more, longer.query = some (query ++ '&' :: more))

theorem lengthens_of_ofPath (made : ofPath text = .ok target) (asked : target.query = some query)
    (added : List Char) (madeLonger : ofPath (text ++ '&' :: added) = .ok longer) :
    longer.Lengthens target query := by
  obtain ⟨mark, shown⟩ := dropWhile_of_ofPath made asked
  rw [Lengthens, path_of_ofPath made, path_of_ofPath madeLonger, query_of_ofPath madeLonger]
  cases fragment : text.dropWhile (· ≠ '#') with
  | cons hash rest =>
      -- What is added goes to the fragment.
      rw [(span_append fragment _).1, shown]
      exact ⟨rfl, .inl rfl⟩
  | nil =>
      have noHash : ∀ c ∈ text, decide (c ≠ '#') = true := List.dropWhile_eq_nil_iff.1 fragment
      have whole : text.takeWhile (· ≠ '#') = text := List.takeWhile_eq_self_iff.2 noHash
      rw [whole] at shown
      have longerShown : (text ++ '&' :: added).takeWhile (· ≠ '#') =
          text ++ '&' :: added.takeWhile (· ≠ '#') := List.takeWhile_append_of_pos noHash
      rw [longerShown, whole, (span_append shown _).1, (span_append shown _).2]
      exact ⟨rfl, .inr ⟨_, rfl⟩⟩

theorem afterScheme?_append {rest : List Char} (scheme : afterScheme? text = .ok (some rest))
    (added : List Char) : afterScheme? (text ++ added) = .ok (some (rest ++ added)) := by
  obtain ⟨starts, long, short⟩ := of_afterScheme? scheme
  obtain ⟨before, after⟩ := span_append starts added
  rw [afterScheme?, after, before]
  simp only [List.cons_append]
  rw [if_neg (by rw [List.length_append]; omega), if_neg short]

theorem dropWhile_append_of_ofPath {rest : List Char}
    (path : ofPath (rest.dropWhile (!endsAuthority ·)) = .ok target)
    (asked : target.query = some query) (added : List Char) :
    (rest ++ added).dropWhile (!endsAuthority ·) =
      rest.dropWhile (!endsAuthority ·) ++ added := by
  cases ends : rest.dropWhile (!endsAuthority ·) with
  | cons stop after => exact (span_append ends added).2
  | nil =>
      rw [ends] at path
      rw [query_of_ofPath path] at asked
      cases asked

theorem lengthens_of_ofAddress (made : ofAddress text = .ok target)
    (asked : target.query = some query) (added : List Char)
    (madeLonger : ofAddress (text ++ '&' :: added) = .ok longer) :
    longer.Lengthens target query := by
  obtain ⟨rest, scheme, path⟩ := ofPath_of_ofAddress made asked
  have longerPath : ofPath (rest.dropWhile (!endsAuthority ·) ++ '&' :: added) = .ok longer := by
    rw [ofAddress, afterScheme?_append scheme] at madeLonger
    simp only [bind, Except.bind, Option.isNone_some, Bool.false_eq_true, if_false,
      Option.getD_some, drop_length_takeWhile, dropWhile_append_of_ofPath path asked] at madeLonger
    split at madeLonger
    case h_1 => cases madeLonger
    case h_2 =>
      split at madeLonger
      case isTrue => cases madeLonger
      case isFalse => exact madeLonger
  exact lengthens_of_ofPath path asked added longerPath

theorem lengthens_of_parse (made : parse text = .ok target) (asked : target.query = some query)
    (added : List Char) (madeLonger : parse (text ++ '&' :: added) = .ok longer) :
    longer.Lengthens target query := by
  unfold parse at madeLonger
  split at madeLonger
  case isTrue => cases madeLonger
  case isFalse =>
    obtain ⟨-, ⟨⟨rest, rfl⟩, path⟩ | ⟨⟨c, rest, rfl, noPath⟩, address⟩⟩ := of_parse made asked
    · exact lengthens_of_ofPath path asked added madeLonger
    · refine lengthens_of_ofAddress address asked added ?_
      rw [List.cons_append] at madeLonger ⊢
      split at madeLonger
      case h_1 | h_2 | h_3 | h_4 => simp_all
      case h_5 => simp_all
      case h_6 => exact madeLonger

end Target

namespace Request

variable {r longer : Request} {source added : List Char} {method target other : String}
  {headers : List (String × List UInt8)}

theorem of_of (made : Request.of method target headers = .ok r) :
    Target.parse target.toList = .ok r.target ∧ r.method = method ∧
      (headers.mapM fun header => (Header.of header.1 header.2).mapError Fault.header) =
        .ok r.headers := by
  unfold Request.of at made
  cases parsed : Target.parse target.toList with
  | error fault =>
      rw [parsed] at made
      dsimp only [bind, Except.bind, Except.mapError] at made
      split at made <;> cases made
  | ok parsedTarget =>
      rw [parsed] at made
      dsimp only [bind, Except.bind, Except.mapError] at made
      split at made
      case isTrue => cases made
      case isFalse =>
        split at made
        case h_1 => cases made
        case h_2 _ checked =>
          cases made
          exact ⟨rfl, rfl, checked⟩

theorem length_source_le (made : Request.of method target headers = .ok r)
    (carried : r.source? = some source) : Utf8.length source ≤ Target.maxBytes := by
  obtain ⟨query, asked, found⟩ := Option.bind_eq_some_iff.1 carried
  exact (Query.length_firstValue_le found).trans (Target.length_query_le (of_of made).1 asked)

theorem source?_appended (made : Request.of method target headers = .ok r)
    (madeLonger : Request.of method (target ++ "&" ++ other) headers = .ok longer)
    (carried : r.source? = some source) :
    longer.source? = some source ∧ longer = { r with target := longer.target } ∧
      longer.target.path = r.target.path := by
  obtain ⟨query, asked, found⟩ := Option.bind_eq_some_iff.1 carried
  obtain ⟨parsed, method, headers⟩ := of_of made
  obtain ⟨parsedLonger, methodLonger, headersLonger⟩ := of_of madeLonger
  have text : (target ++ "&" ++ other).toList = target.toList ++ '&' :: other.toList := by
    rw [String.toList_append, String.toList_append, List.append_assoc]
    rfl
  rw [text] at parsedLonger
  obtain ⟨path, grown⟩ := Target.lengthens_of_parse parsed asked other.toList parsedLonger
  have sameHeaders : longer.headers = r.headers :=
    Except.ok.inj (headersLonger.symm.trans headers)
  refine ⟨?_, ?_, path⟩
  · rcases grown with same | ⟨more, added⟩
    · rw [source?, same]
      exact found
    · rw [source?, added, Option.bind_some, Query.firstValue_append, found, Option.some_or]
  · cases longer
    cases r
    simp only [Request.mk.injEq, true_and] at *
    exact ⟨methodLonger.trans method.symm, sameHeaders⟩

end Request

namespace Server

variable {m : Type → Type} [Monad m]

theorem route_of_source? (s : Server) (t : Transformer m) {r other : Request}
    (source : other.source? = r.source?) (path : other.target.path = r.target.path) :
    s.route t other = s.route t r := by
  rw [route, route, path, handle, handle, source]

/-- In two queries joined by `&`, a value is found in the first that has it. So whatever is added
to a target that carries a source text, that text is transformed, with the same response. -/
theorem respond_appended (s : Server) (t : Transformer m) :
    (∀ first second name, Query.firstValue (first ++ '&' :: second) name =
      (Query.firstValue first name).or (Query.firstValue second name)) ∧
    ∀ method target added headers r longer,
      Request.of method target headers = .ok r →
      Request.of method (target ++ "&" ++ added) headers = .ok longer →
      r.source?.isSome →
      longer.source? = r.source? ∧ ∀ random, s.respond t longer random = s.respond t r random := by
  refine ⟨Query.firstValue_append, ?_⟩
  intro method target added headers r longer made madeLonger carried
  obtain ⟨source, found⟩ := Option.isSome_iff_exists.1 carried
  obtain ⟨same, sameElse, path⟩ := Request.source?_appended made madeLonger found
  refine ⟨same.trans found.symm, fun random => ?_⟩
  have route := s.route_of_source? t (same.trans found.symm) path
  simp only [respond, route_identified, route]
  rw [sameElse]
  rfl

theorem respond_appended_of_cutCharacter :
    let s : Server := ⟨{}, 65534, [], [], 1⟩
    let r : Request :=
      { method := "GET", target := ⟨['/'], some "&&=%&src=%F0%9F%9&src=a".toList⟩ }
    let longer : Request :=
      { r with target := ⟨['/'], some "&&=%&src=%F0%9F%9&src=a&src=%80&%81".toList⟩ }
    longer.source? = some "\uFFFD%9".toList ∧
      s.respond transformer longer 0 = s.respond transformer r 0 := by
  intro s r longer
  have found : r.source? = some "\uFFFD%9".toList := by decide +kernel
  obtain ⟨same, responds⟩ := (s.respond_appended transformer).2 "GET" "/?&&=%&src=%F0%9F%9&src=a"
    "src=%80&%81#&src=b" [] r longer (by decide +kernel) (by decide +kernel) (found ▸ rfl)
  exact ⟨same.trans found, responds 0⟩

theorem attemptResponse_status (s : Server) (attempt : Attempt) :
    (s.attemptResponse attempt).status ≠ .payloadTooLarge := by
  cases attempt <;> nofun

theorem route_fits (s : Server) (t : Transformer Id) {r : Request}
    (fits : ∀ source, r.source? = some source → Utf8.length source ≤ s.maxSourceBytes) :
    (s.route t r).1.status ≠ .payloadTooLarge := by
  have outcome := s.routed_route t r
  generalize s.route t r = result at outcome ⊢
  cases outcome with
  | tooLarge routed carried large => exact (Nat.not_le.2 large (fits _ carried)).elim
  | transformed routed carried inTime => exact s.attemptResponse_status _
  | unrouted | missing | timeout => nofun

/-- A value is not longer than the query in which it is found. So a server that takes source texts as
long as the longest target answers no request of a client that its source text is too large. -/
theorem served_fits (s : Server) (t : Transformer Id) :
    (∀ query name value, Query.firstValue query name = some value →
      Utf8.length value ≤ (Utf8.encode query).length) ∧
    (Target.maxBytes ≤ s.maxSourceBytes → ∀ counters visits,
      (∀ visit ∈ visits, ∃ method target headers,
        Request.of method target headers = .ok visit.1) →
      ∀ entry ∈ s.served t counters visits, entry.1.status.code ≠ 413) := by
  refine ⟨fun query name value found => ?_, fun takes counters visits made entry isEntry => ?_⟩
  · rw [Utf8.length_encode]
    exact Query.length_firstValue_le found
  · have isResponse := List.mem_map_of_mem (f := Prod.fst) isEntry
    rw [served_responses] at isResponse
    obtain ⟨visit, isVisit, responds⟩ := List.mem_map.1 isResponse
    obtain ⟨method, target, headers, receives⟩ := made visit isVisit
    have notLarge := s.route_fits t (r := visit.1) fun source carried =>
      (Request.length_source_le receives carried).trans takes
    have status : entry.1.status = (s.route t visit.1).1.status := by
      rw [← responds, respond_eq]
      exact framed_status _ _
    rw [status]
    -- Every status but that one has another number.
    generalize (s.route t visit.1).1.status = answer at notLarge ⊢
    cases answer with
    | payloadTooLarge => exact (notLarge rfl).elim
    | _ => decide

theorem served_fits_of_invalid :
    let s : Server := ⟨{}, 65534, [], [], 1⟩
    let query := "a=%C3&src=%FF%C3a%F0%9F".toList
    let r : Request := { method := "GET", target := ⟨['/'], some query⟩ }
    let value := "\uFFFD\uFFFDa\uFFFD".toList
    Query.firstValue query "src".toList = some value ∧
      Utf8.length value ≤ (Utf8.encode query).length ∧
      ∀ entry ∈ s.served transformer {} [(r, 0)], entry.1.status.code ≠ 413 := by
  intro s query r value
  have found : Query.firstValue query "src".toList = some value := by decide +kernel
  have made : Request.of "GET" "/?a=%C3&src=%FF%C3a%F0%9F" [] = .ok r := by decide +kernel
  obtain ⟨shorter, neverLarge⟩ := s.served_fits transformer
  refine ⟨found, shorter query _ value found, neverLarge (by decide) {} [(r, 0)] ?_⟩
  exact List.forall_mem_singleton.2 ⟨_, _, _, made⟩

end Server

end Enclose.Http
