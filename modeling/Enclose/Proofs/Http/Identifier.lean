import Enclose.Proofs.Http.Contract
import Enclose.Proofs.Text.Utf8

/-!
# The identifier of a request

However a request is answered, its response carries one identifier: the first one that came with the
request, byte for byte, or else a new random one. It is the one that the request is handled under, if
it can be read as text (`respond_identifier`).
-/

namespace Enclose.Http

namespace Uuid

theorem digit_lt (random position : Nat) : digit random position < 16 := by
  unfold digit
  dsimp only
  split
  · decide
  · split <;> omega

theorem isHex_digitChar {d : Nat} (small : d < 16) :
    "0123456789abcdef".toList.contains (Nat.digitChar d) = true := by
  decide +revert

theorem isVariant_digitChar {d : Nat} (small : d < 4) :
    "89ab".toList.contains (Nat.digitChar (8 + d)) = true := by
  decide +revert

def fixedPositions : List Nat := [8, 13, 14, 18, 19, 23]

theorem fits_digitChar {position d : Nat} (free : position ∉ fixedPositions) (small : d < 16) :
    fits position (Nat.digitChar d) = true := by
  simp only [fixedPositions, List.mem_cons, not_or] at free
  unfold fits
  rw [if_neg (by simp [free]), if_neg (by simp [free]), if_neg (by simp [free]),
    isHex_digitChar small]

def digits (random start count : Nat) : List Char :=
  (List.range' start count).map fun position => Nat.digitChar (digit random position)

theorem length_digits (random start count : Nat) : (digits random start count).length = count := by
  simp [digits]

theorem fits_digits (random : Nat) {start count position : Nat}
    (free : ∀ i < count, position + i ∉ fixedPositions) :
    ∀ entry ∈ (digits random start count).zipIdx position, fits entry.2 entry.1 = true := by
  induction count generalizing start position with
  | zero => simp [digits]
  | succ count ih =>
      rw [digits, List.range'_succ, List.map_cons, ← digits, List.zipIdx_cons, List.forall_mem_cons]
      refine ⟨fits_digitChar (free 0 (Nat.succ_pos _)) (digit_lt _ _), ih fun i within => ?_⟩
      rw [Nat.add_assoc, Nat.add_comm 1 i]
      exact free (i + 1) (Nat.succ_lt_succ within)

theorem v4_eq (random : Nat) :
    v4 random =
      digits random 0 8 ++ '-' :: digits random 8 4 ++ '-' :: '4' :: digits random 13 3 ++
        '-' :: Nat.digitChar (digit random 16) :: digits random 17 3 ++
        '-' :: digits random 20 12 :=
  rfl

theorem isV4_v4 (random : Nat) : isV4 (v4 random) = true := by
  have variant : fits 19 (Nat.digitChar (digit random 16)) = true :=
    isVariant_digitChar (Nat.mod_lt _ (by decide))
  rw [isV4, v4_eq, Bool.and_eq_true, List.all_eq_true]
  constructor
  · simp [length_digits]
  simp only [List.append_assoc, List.cons_append, List.zipIdx_append, List.zipIdx_cons,
    List.forall_mem_append, List.forall_mem_cons, length_digits]
  refine ⟨fits_digits random ?_, rfl, fits_digits random ?_, rfl, rfl, fits_digits random ?_, rfl,
    variant, fits_digits random ?_, rfl, fits_digits random ?_⟩ <;> decide

end Uuid

namespace Response

theorem values_withHeader (a : Response) (name : String) (value : List UInt8) :
    (a.withHeader name value).values name = a.values name ++ [value] := by
  simp [values, withHeader, List.filter_append]

theorem values_framed (a : Response) (method : String) {name : String}
    (other : name ≠ "content-length") : (a.framed method).values name = a.values name := by
  have withLength : a.withLength.values name = a.values name := by
    simp [values, Response.withLength, withHeader, List.filter_append, other.symm]
  unfold framed
  split
  · rfl
  · split
    · exact withLength
    · exact withLength

end Response

namespace Request

def ids (r : Request) : List (List UInt8) :=
  (r.headers.filter (·.name == idHeader)).map Header.value

variable (r : Request)

theorem first?_eq_head? : Header.first? r.headers idHeader = r.ids.head? := by
  rw [Header.first?, ids, List.head?_map, List.head?_filter]

theorem idOr_eq (new : List UInt8) : r.idOr new = r.ids.headD new := by
  rw [idOr, first?_eq_head?, List.headD_eq_head?_getD]

theorem first?_identified (new : List UInt8) :
    Header.first? (r.identified (r.idOr new)).headers idHeader = some (r.idOr new) := by
  unfold identified
  cases own : Header.first? r.headers idHeader with
  | some id => simp [own, idOr]
  | none =>
      have unnamed : r.headers.find? (·.name == idHeader) = none := by
        simpa [Header.first?] using own
      simp [Header.first?, List.find?_append, unnamed]

theorem visibleId_eq {headers : List Header} {id : List UInt8}
    (first : Header.first? headers idHeader = some id) :
    visibleId headers = if id.all isVisible then String.ofList (Utf8.decode id) else "unknown" := by
  rw [visibleId, first]

theorem bytes_decode {id : List UInt8} (visible : id.all isVisible = true) :
    Response.bytes (String.ofList (Utf8.decode id)) = id := by
  rw [Response.bytes, String.toList_ofList]
  refine Utf8.encode_decode fun b isIn => ?_
  have shown := List.all_eq_true.1 visible b isIn
  simp only [isVisible, Bool.or_eq_true, beq_iff_eq, decide_eq_true_eq] at shown
  rcases shown with rfl | ⟨-, high⟩
  · decide
  · exact UInt8.lt_of_le_of_lt high (by decide)

def handled (random : Nat) : Request := r.identified (r.idOr (Utf8.encode (Uuid.v4 random)))

end Request

namespace Server

variable (s : Server) (t : Transformer Id) (r : Request) (random : Nat)

theorem attemptResponse_values (attempt : Attempt) :
    (s.attemptResponse attempt).values Request.idHeader = [] := by
  cases attempt <;> rfl

theorem route_values : (s.route t r).1.values Request.idHeader = [] := by
  unfold route
  split
  case isFalse => rfl
  unfold handle
  split
  case h_1 => rfl
  split
  case isTrue => rfl
  change (ite _ _ _ : Response × Option Outcome).1.values _ = []
  split
  · rfl
  · exact s.attemptResponse_values _

/-- The response to a request has one identifier, whatever becomes of the request: the first one
that came with it, or else a new one. The request is handled under the same one if that can be read
as text. -/
theorem respond_identifier :
    ∃ id,
      s.respond t r random =
        (((s.route t (r.handled random)).1.withHeader Request.idHeader id).framed r.method,
          (s.route t (r.handled random)).2) ∧
      (s.respond t r random).1.values "x-request-id" = [id] ∧
      (∀ own others, r.ids = own :: others → id = own) ∧
      (r.ids = [] → ∃ text, Uuid.isV4 text = true ∧ id = Utf8.encode text) ∧
      ((∀ b ∈ id, b = 9 ∨ 0x20 ≤ b ∧ b ≤ 0x7E) →
        Response.bytes (Request.visibleId (r.handled random).headers) = id) ∧
      ((∃ b ∈ id, ¬(b = 9 ∨ 0x20 ≤ b ∧ b ≤ 0x7E)) →
        Request.visibleId (r.handled random).headers = "unknown") := by
  have isVisible_iff (b : UInt8) : Request.isVisible b = true ↔ b = 9 ∨ 0x20 ≤ b ∧ b ≤ 0x7E := by
    simp only [Request.isVisible, Bool.or_eq_true, beq_iff_eq, decide_eq_true_eq]
  have visible := Request.visibleId_eq (r.first?_identified (Utf8.encode (Uuid.v4 random)))
  have responds : s.respond t r random =
      (((s.route t (r.handled random)).1.withHeader Request.idHeader
        (r.idOr (Utf8.encode (Uuid.v4 random)))).framed r.method,
        (s.route t (r.handled random)).2) := rfl
  refine ⟨r.idOr (Utf8.encode (Uuid.v4 random)), responds, ?_, ?_, ?_, ?_, ?_⟩
  · rw [responds, Response.values_framed _ _ (by decide)]
    exact (Response.values_withHeader _ _ _).trans (by rw [route_values, List.nil_append])
  · intro own others ids
    rw [Request.idOr_eq, ids, List.headD_cons]
  · intro ids
    exact ⟨Uuid.v4 random, Uuid.isV4_v4 random, by rw [Request.idOr_eq, ids, List.headD_nil]⟩
  · intro shown
    have all := List.all_eq_true.2 fun b isIn => (isVisible_iff b).2 (shown b isIn)
    rw [Request.handled, visible, if_pos all, Request.bytes_decode all]
  · rintro ⟨b, isIn, hidden⟩
    rw [Request.handled, visible, if_neg]
    exact fun all => hidden ((isVisible_iff b).1 (List.all_eq_true.1 all b isIn))

theorem respond_identifier_of_timeout :
    let s : Server := ⟨{}, 1, [], [], 0⟩
    let t : Transformer Id := fun _ _ => { attempt := .broken, millis := 1 }
    let r : Request :=
      { method := "GET"
        target := { path := ['/'], query := some "src=a".toList }
        headers := [⟨"x-request-id", [0x61, 0xFF]⟩, ⟨"x-request-id", [0x62]⟩] }
    (s.respond t r 7).1.status = .requestTimeout ∧
      (s.respond t r 7).1.values "x-request-id" = [[0x61, 0xFF]] ∧
      Request.visibleId (r.handled 7).headers = "unknown" := by
  intro s t r
  obtain ⟨id, -, one, own, -, -, hidden⟩ := s.respond_identifier t r 7
  obtain rfl := own [0x61, 0xFF] [[0x62]] rfl
  exact ⟨by decide +kernel, one, hidden ⟨0xFF, by decide, by decide⟩⟩

end Server

end Enclose.Http
