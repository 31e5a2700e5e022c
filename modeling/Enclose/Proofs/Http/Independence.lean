import Enclose.Proofs.Http.Contract
import Mathlib.Data.List.Forall2
import Mathlib.Data.List.Perm.Basic

/-!
# Requests do not touch each other

A server keeps nothing of a request but a count. What it counts a request as can be read off the
response and the failure of the transformation (`respond_label`), and a sequence of requests gets
the responses that each of them gets alone, with the counts added up, in whatever order they come
(`serve_independent`).
-/

namespace Enclose.Http

/-- The label under which a response is counted, where a failed transformation says what it came
to. -/
def Response.label? (a : Response) (attempt : Option Attempt) : Option String :=
  match a.status with
  | .ok => some "ok"
  | .badRequest => some "missing_src"
  | .payloadTooLarge => some "too_large"
  | .notFound | .requestTimeout => none
  | .internalServerError =>
    match attempt with
    | some (.failed failure) => some failure.kind
    | some .broken => some "internal_error"
    | _ => none

/-- A response without an identifier that was made for a request that had none. -/
def Response.lasting (a : Response) (r : Request) : Response :=
  if (Header.first? r.headers Request.idHeader).isSome then a
  else { a with headers := a.headers.filter (·.name != Request.idHeader) }

namespace Server

def Routes (r : Request) : Prop := r.target.path.head? = some '/'

variable (s : Server) (t : Transformer Id)

def attempt? (r : Request) : Option Attempt :=
  r.source?.map fun source => (t s.options (String.ofList source)).attempt

def TimesOut (r : Request) : Prop :=
  ∃ source, r.source? = some source ∧ Utf8.length source ≤ s.maxSourceBytes ∧
    s.requestSecs * 1000 < (t s.options (String.ofList source)).millis

theorem framed_status (a : Response) (method : String) : (a.framed method).status = a.status := by
  unfold Response.framed
  split
  · rfl
  · split <;> rfl

theorem label?_attemptResponse (attempt : Attempt) :
    (s.attemptResponse attempt).label? (some attempt) = some attempt.outcome.label := by
  cases attempt with
  | code => rfl
  | failed failure => exact congrArg some (Outcome.label_ofFailure failure).symm
  | broken => rfl

inductive Routed (r : Request) : Response × Option Outcome → Prop
  | unrouted (elsewhere : ¬Routes r) : Routed r ({ status := .notFound }, none)
  | missing (routed : Routes r) (none : r.source? = none) :
      Routed r ({ status := .badRequest }, some .missingSource)
  | tooLarge {source : List Char} (routed : Routes r) (carried : r.source? = some source)
      (large : s.maxSourceBytes < Utf8.length source) :
      Routed r ({ status := .payloadTooLarge }, some .tooLarge)
  | timeout {source : List Char} (carried : r.source? = some source)
      (fits : Utf8.length source ≤ s.maxSourceBytes)
      (slow : s.requestSecs * 1000 < (t s.options (String.ofList source)).millis) :
      Routed r ({ status := .requestTimeout }, none)
  | transformed {source : List Char} (routed : Routes r) (carried : r.source? = some source)
      (inTime : ¬s.requestSecs * 1000 < (t s.options (String.ofList source)).millis) :
      Routed r (s.attemptResponse (t s.options (String.ofList source)).attempt,
        some (t s.options (String.ofList source)).attempt.outcome)

theorem routed_route (r : Request) : s.Routed t r (s.route t r) := by
  by_cases routed : Routes r
  case neg =>
    have unrouted : s.route t r = ({ status := .notFound }, none) := if_neg routed
    exact unrouted ▸ .unrouted routed
  have handled : s.route t r = s.handle t r := if_pos routed
  rw [handled]
  cases carried : r.source? with
  | none =>
      have missing : s.handle t r = ({ status := .badRequest }, some .missingSource) := by
        rw [handle, carried]
        rfl
      exact missing ▸ .missing routed carried
  | some source =>
      by_cases large : s.maxSourceBytes < Utf8.length source
      case pos =>
        have tooLarge : s.handle t r = ({ status := .payloadTooLarge }, some .tooLarge) := by
          simp only [handle, carried, if_pos large]
          rfl
        exact tooLarge ▸ .tooLarge routed carried large
      by_cases slow : s.requestSecs * 1000 < (t s.options (String.ofList source)).millis
      case pos =>
        have timeout : s.handle t r = ({ status := .requestTimeout }, none) := by
          simp only [handle, carried, if_neg large]
          exact if_pos slow
        exact timeout ▸ .timeout carried (Nat.not_lt.1 large) slow
      have transformed : s.handle t r =
          (s.attemptResponse (t s.options (String.ofList source)).attempt,
            some (t s.options (String.ofList source)).attempt.outcome) := by
        simp only [handle, carried, if_neg large]
        exact if_neg slow
      exact transformed ▸ .transformed routed carried slow

theorem route_label (r : Request) :
    (s.route t r).2.map Outcome.label = (s.route t r).1.label? (s.attempt? t r) ∧
      ((s.route t r).2.isSome ↔ Routes r ∧ ¬s.TimesOut t r) := by
  have outcome := s.routed_route t r
  generalize s.route t r = result at outcome ⊢
  cases outcome with
  | unrouted elsewhere => simp [elsewhere, Response.label?]
  | missing routed none => simp [routed, none, Response.label?, Outcome.label, TimesOut]
  | tooLarge routed carried large =>
      simp [routed, carried, Response.label?, Outcome.label, TimesOut, Nat.not_le.2 large]
  | timeout carried fits slow => simp [Response.label?, TimesOut, carried, fits, slow]
  | transformed routed carried inTime =>
      simp [routed, carried, attempt?, label?_attemptResponse, TimesOut, inTime]

theorem respond_eq (r : Request) (random : Nat) :
    s.respond t r random =
      (((s.route t r).1.withHeader Request.idHeader (r.idOr (Utf8.encode (Uuid.v4 random)))).framed
        r.method, (s.route t r).2) := by
  simp only [respond, route_identified]
  rfl

theorem respond_label (r : Request) (random : Nat) :
    (s.respond t r random).2.map Outcome.label =
        (s.respond t r random).1.label? (s.attempt? t r) ∧
      ((s.respond t r random).2.isSome ↔ Routes r ∧ ¬s.TimesOut t r) := by
  obtain ⟨label, counted⟩ := s.route_label t r
  rw [respond_eq]
  refine ⟨label.trans ?_, counted⟩
  simp only [Response.label?, framed_status, Response.withHeader]

theorem withHeader_status (a : Response) (name : String) (value : List UInt8) :
    (a.withHeader name value).status = a.status :=
  rfl

theorem filter_framed (a : Response) (method : String) (id : List UInt8) :
    ((a.withHeader Request.idHeader id).framed method).headers.filter
        (·.name != Request.idHeader) =
      (a.framed method).headers.filter (·.name != Request.idHeader) := by
  unfold Response.framed
  rw [withHeader_status]
  split
  · simp [Response.withHeader]
  · split <;> simp [Response.withHeader, Response.withLength]

theorem framed_body (a : Response) (method : String) (id : List UInt8) :
    ((a.withHeader Request.idHeader id).framed method).body = (a.framed method).body := by
  unfold Response.framed
  rw [withHeader_status]
  split
  · rfl
  · split <;> rfl

/-- The random number of a request shows in its response only where the identifier is made of it. -/
theorem lasting_respond (r : Request) (random other : Nat) :
    (s.respond t r random).1.lasting r = (s.respond t r other).1.lasting r := by
  rw [respond_eq, respond_eq]
  cases own : Header.first? r.headers Request.idHeader with
  | some id => simp [Request.idOr, own]
  | none =>
      simp only [Response.lasting, own, Option.isSome_none, Bool.false_eq_true, if_false,
        filter_framed]
      congr 1
      · simp only [framed_status, Response.withHeader]
      · simp only [framed_body]

abbrev Visit := Request × Nat

def served (c : Counters) (visits : List Visit) : List (Response × Counters) :=
  Id.run (s.serve t c visits)

/-- The responses to a sequence of requests, without identifiers that were made for them. -/
def told (visits : List Visit) : List Response :=
  List.zipWith (fun visit entry => entry.1.lasting visit.1) visits (s.served t {} visits)

def labels (visits : List Visit) : List (Option String) :=
  List.zipWith (fun visit entry => entry.1.label? (s.attempt? t visit.1)) visits
    (s.served t {} visits)

def total (visits : List Visit) : Counters :=
  ((s.served t {} visits).getLast?.map Prod.snd).getD {}

theorem served_cons (c : Counters) (visit : Visit) (rest : List Visit) :
    s.served t c (visit :: rest) =
      ((s.respond t visit.1 visit.2).1,
          (s.respond t visit.1 visit.2).2.elim c c.increment) ::
        s.served t ((s.respond t visit.1 visit.2).2.elim c c.increment) rest :=
  rfl

theorem served_responses (c : Counters) (visits : List Visit) :
    (s.served t c visits).map Prod.fst = visits.map fun visit => (s.respond t visit.1 visit.2).1 := by
  induction visits generalizing c with
  | nil => rfl
  | cons visit rest ih => rw [served_cons, List.map_cons, ih, List.map_cons]

theorem zipWith_served {α : Type} (view : Visit → Response → α) (c : Counters)
    (visits : List Visit) :
    List.zipWith (fun visit entry => view visit entry.1) visits (s.served t c visits) =
      visits.map fun visit => view visit (s.respond t visit.1 visit.2).1 := by
  induction visits generalizing c with
  | nil => rfl
  | cons visit rest ih => rw [served_cons, List.zipWith_cons_cons, ih, List.map_cons]

theorem told_eq (visits : List Visit) (random : Nat) :
    s.told t visits = visits.map fun visit => (s.respond t visit.1 random).1.lasting visit.1 := by
  rw [told, zipWith_served s t fun visit a => a.lasting visit.1]
  exact List.map_congr_left fun visit _ => s.lasting_respond t visit.1 visit.2 random

theorem labels_eq (visits : List Visit) :
    s.labels t visits =
      visits.map fun visit => (s.respond t visit.1 visit.2).2.map Outcome.label := by
  rw [labels, zipWith_served s t fun visit a => a.label? (s.attempt? t visit.1)]
  exact List.map_congr_left fun visit _ => (s.respond_label t visit.1 visit.2).1.symm

theorem count_elim_increment (c : Counters) (outcome : Option Outcome) (label : String) :
    (outcome.elim c c.increment).count label =
      c.count label + if outcome.map Outcome.label = some label then 1 else 0 := by
  cases outcome with
  | none => simp
  | some o => simp [Counters.count_increment]

theorem count_served (c : Counters) (visits : List Visit) (label : String) :
    (((s.served t c visits).getLast?.map Prod.snd).getD c).count label = c.count label +
      visits.countP fun visit => (s.respond t visit.1 visit.2).2.map Outcome.label = some label := by
  induction visits generalizing c with
  | nil => rfl
  | cons visit rest ih =>
      have last : (((s.served t c (visit :: rest)).getLast?.map Prod.snd).getD c) =
          ((s.served t ((s.respond t visit.1 visit.2).2.elim c c.increment) rest).getLast?.map
            Prod.snd).getD ((s.respond t visit.1 visit.2).2.elim c c.increment) := by
        rw [served_cons, List.getLast?_cons]
        cases (s.served t ((s.respond t visit.1 visit.2).2.elim c c.increment) rest).getLast? <;> rfl
      rw [last, ih, count_elim_increment, List.countP_cons, Nat.add_assoc]
      simp [Nat.add_comm]

theorem count_total (visits : List Visit) (label : String) :
    (s.total t visits).count label = (s.labels t visits).count (some label) := by
  rw [total, count_served, labels_eq, List.count, List.countP_map]
  have start : ({} : Counters).count label = 0 := rfl
  rw [start, Nat.zero_add]
  exact List.countP_congr fun visit _ => by simp

theorem told_eq_flatMap (visits : List Visit) (random : Nat) :
    s.told t visits = visits.flatMap fun visit => s.told t [(visit.1, random)] := by
  simp only [s.told_eq t _ random, List.map_eq_flatMap]
  rfl

theorem labels_isSome (visits : List Visit) :
    List.Forall₂ (fun visit label => label.isSome ↔ Routes visit.1 ∧ ¬s.TimesOut t visit.1) visits
      (s.labels t visits) := by
  rw [labels_eq, List.forall₂_map_right_iff, List.forall₂_same]
  intro visit _
  rw [Option.isSome_map]
  exact (s.respond_label t visit.1 visit.2).2

variable {visits others : List Visit}

theorem told_perm (same : (visits.map Prod.fst).Perm (others.map Prod.fst)) :
    ((visits.map Prod.fst).zip (s.told t visits)).Perm
      ((others.map Prod.fst).zip (s.told t others)) := by
  have told (visits : List Visit) : (visits.map Prod.fst).zip (s.told t visits) =
      (visits.map Prod.fst).map fun r => (r, (s.respond t r 0).1.lasting r) := by
    rw [s.told_eq t visits 0, List.map_map, List.zip_map']
    rfl
  rw [told, told]
  exact same.map _

theorem count_total_perm (same : (visits.map Prod.fst).Perm (others.map Prod.fst))
    (label : String) : (s.total t visits).count label = (s.total t others).count label := by
  -- What a request counts as does not depend on its random number.
  have outcome (visit : Visit) : (s.respond t visit.1 visit.2).2 = (s.route t visit.1).2 := by
    rw [respond_eq]
  have counted (visits : List Visit) : (s.total t visits).count label =
      (visits.map Prod.fst).countP fun r => (s.route t r).2.map Outcome.label = some label := by
    rw [count_total, labels_eq, List.count, List.countP_map, List.countP_map]
    exact List.countP_congr fun visit _ => by simp [outcome]
  rw [counted, counted]
  exact same.countP_eq _

/-- Each request of a sequence gets the response that it gets alone. The counts are the numbers of
requests with a label, which is there for all requests but those that cannot be routed and those
that take too long. So requests in another order get the same responses, and the same counts. -/
theorem serve_independent (visits : List Visit) :
    (∀ random, s.told t visits = visits.flatMap fun visit => s.told t [(visit.1, random)]) ∧
    (∀ label, (s.total t visits).count label = (s.labels t visits).count (some label)) ∧
    List.Forall₂ (fun visit label => label.isSome ↔ Routes visit.1 ∧ ¬s.TimesOut t visit.1) visits
      (s.labels t visits) ∧
    ∀ others : List Visit, (visits.map Prod.fst).Perm (others.map Prod.fst) →
      ((visits.map Prod.fst).zip (s.told t visits)).Perm
        ((others.map Prod.fst).zip (s.told t others)) ∧
      ∀ label, (s.total t visits).count label = (s.total t others).count label :=
  ⟨s.told_eq_flatMap t visits, s.count_total t visits, s.labels_isSome t visits,
    fun _ same => ⟨s.told_perm t same, s.count_total_perm t same⟩⟩

def variedRun : Transformer Id := fun _ source =>
  match source with
  | "a" => { attempt := .broken }
  | "b" => { attempt := .failed (.tooDeep ⟨1, 1, "deep"⟩) }
  | "c" => { attempt := .code [], millis := 1 }
  | _ => { attempt := .code [0x3b] }

def variedVisits : List Visit :=
  [ (get "src=a", 1), (get "src=b", 2), (get "src=c", 3), (get "src=d", 4), (get "src=ab", 5),
    ({ get "" with method := "HEAD", headers := [⟨"x-request-id", [0x61]⟩] }, 6),
    ({ method := "GET", target := { path := ['*'] } }, 7) ]
where
  get (query : String) : Request :=
    { method := "GET", target := { path := ['/'], query := some query.toList } }

theorem serve_independent_of_variedVisits :
    let s : Server := ⟨{}, 1, [], [], 0⟩
    s.labels variedRun variedVisits =
        [some "internal_error", some "too_deep", none, some "ok", some "too_large",
          some "missing_src", none] ∧
      (s.total variedRun variedVisits).count "too_deep" = 1 ∧
      (s.total variedRun variedVisits.reverse).count "too_deep" = 1 := by
  intro s
  obtain ⟨-, counts, -, reordered⟩ := s.serve_independent variedRun variedVisits
  have labels : s.labels variedRun variedVisits =
      [some "internal_error", some "too_deep", none, some "ok", some "too_large",
        some "missing_src", none] := by
    decide +kernel
  have count : (s.total variedRun variedVisits).count "too_deep" = 1 := by
    rw [counts, labels]
    decide
  have others : (s.total variedRun variedVisits.reverse).count "too_deep" = 1 := by
    rw [← (reordered variedVisits.reverse
      ((List.reverse_perm variedVisits).symm.map Prod.fst)).2, count]
  exact ⟨labels, count, others⟩

end Server

end Enclose.Http
