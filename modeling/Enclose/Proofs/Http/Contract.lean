import Enclose.Http.Server

/-!
# What a request is answered with

The answer to a request depends on its source text alone, which is the value of the first field of
its query with that key (`source?_eq_some_iff`). Without a source text and with one that is too long
the transformer is not asked; otherwise it is asked once, and what it comes to is the answer
(`respond_answers`).
-/

namespace Enclose.Http

namespace Request

def fields (r : Request) : List (List Char × List Char) :=
  r.target.query.elim [] fun query => Query.fields (Utf8.encode query)

def IsSource (field : List Char × List Char) : Prop := field.1 = ['s', 'r', 'c']

def Carries (r : Request) (source : List Char) : Prop :=
  ∃ before field after, r.fields = before ++ field :: after ∧ (∀ f ∈ before, ¬IsSource f) ∧
    IsSource field ∧ field.2 = source

variable {r : Request} {source : List Char}

theorem source?_eq_find? (r : Request) :
    r.source? = (r.fields.find? fun field => field.1 == ['s', 'r', 'c']).map Prod.snd := by
  unfold source? fields
  cases r.target.query with
  | none => rfl
  | some query => rfl

theorem source?_eq_some_iff : r.source? = some source ↔ r.Carries source := by
  simp only [source?_eq_find?, Option.map_eq_some_iff, List.find?_eq_some_iff_append, Carries,
    IsSource, beq_iff_eq, Bool.not_eq_true', beq_eq_false_iff_ne]
  constructor
  · rintro ⟨field, ⟨key, before, after, split, others⟩, value⟩
    exact ⟨before, field, after, split, others, key, value⟩
  · rintro ⟨before, field, after, split, others, key, value⟩
    exact ⟨field, ⟨key, before, after, split, others⟩, value⟩

theorem source?_eq_none_iff : r.source? = none ↔ ∀ field ∈ r.fields, ¬IsSource field := by
  simp [source?_eq_find?, IsSource]

theorem identified_source? (r : Request) (id : List UInt8) : (r.identified id).source? = r.source? := by
  unfold identified
  split <;> rfl

theorem identified_target (r : Request) (id : List UInt8) : (r.identified id).target = r.target := by
  unfold identified
  split <;> rfl

end Request

def Response.values (a : Response) (name : String) : List (List UInt8) :=
  (a.headers.filter (·.name == name)).map Header.value

/-- What the contract says of a response: its status, its body, and all values of the headers about
caches, about pages of other origins and about the type of the body. -/
structure Shown where
  status : Status
  body : List UInt8 := []
  cacheControl : List (List UInt8) := []
  allowOrigin : List (List UInt8) := []
  contentType : List (List UInt8) := []
  deriving DecidableEq

def Response.shown (a : Response) : Shown where
  status := a.status
  body := a.body
  cacheControl := a.values "cache-control"
  allowOrigin := a.values "access-control-allow-origin"
  contentType := a.values "content-type"

def shownFor (c : Config.Response) : Attempt → Shown
  | .code bytes =>
    { status := .ok
      body := bytes
      cacheControl := [Response.bytes ("s-maxage=" ++ toString c.sharedMaxAgeSecs)]
      allowOrigin := [Response.bytes c.allowOrigin]
      contentType := [Response.bytes "application/javascript"] }
  | .failed failure => report failure.report
  | .broken => report "<stdin>: error: transform did not complete\n"
where
  report (text : String) : Shown :=
    { status := .internalServerError
      body := Response.bytes text
      allowOrigin := [Response.bytes c.allowOrigin]
      contentType := [Response.bytes "text/plain; charset=utf-8"] }

namespace Server

theorem checkValue_ok {value checked : List UInt8} (h : Header.checkValue value = .ok checked) :
    checked = value := by
  unfold Header.checkValue at h
  split at h
  · exact (Except.ok.inj h).symm
  · cases h

structure Serves (s : Server) (c : Config) : Prop where
  options : s.options = c.transformation.options
  maxSourceBytes : s.maxSourceBytes = c.transformation.maxSourceBytes
  cacheControl : s.cacheControl = Response.bytes c.response.cacheControl
  allowOrigin : s.allowOrigin = Response.bytes c.response.allowOrigin
  requestSecs : s.requestSecs = c.timeouts.requestSecs

theorem serves_of_ofConfig {s : Server} {c : Config} (built : ofConfig c = .ok s) : s.Serves c := by
  unfold ofConfig at built
  cases cache : Header.checkValue (Response.bytes c.response.cacheControl) with
  | error fault =>
      rw [cache] at built
      cases built
  | ok cacheControl =>
      cases origin : Header.checkValue (Response.bytes c.response.allowOrigin) with
      | error fault =>
          rw [cache, origin] at built
          cases built
      | ok allowOrigin =>
          rw [cache, origin] at built
          cases built
          exact ⟨rfl, rfl, checkValue_ok cache, checkValue_ok origin, rfl⟩

theorem shown_attemptResponse {s : Server} {c : Config} (serves : s.Serves c) (attempt : Attempt) :
    (s.attemptResponse attempt).shown = shownFor c.response attempt := by
  cases attempt with
  | code bytes =>
      simp [attemptResponse, codeResponse, originHeader, Response.shown, Response.values, shownFor,
        serves.cacheControl, serves.allowOrigin, Config.Response.cacheControl]
  | failed failure =>
      simp [attemptResponse, reportResponse, originHeader, Response.shown, Response.values, shownFor,
        shownFor.report, serves.allowOrigin]
  | broken =>
      have text : brokenReport = "<stdin>: error: transform did not complete\n" := by decide
      simp [attemptResponse, reportResponse, originHeader, Response.shown, Response.values, shownFor,
        shownFor.report, serves.allowOrigin, text]

section

variable {m : Type → Type} [Monad m]

theorem handle_identified (s : Server) (t : Transformer m) (r : Request) (id : List UInt8) :
    s.handle t (r.identified id) = s.handle t r := by
  rw [handle, r.identified_source? id, handle]

theorem route_identified (s : Server) (t : Transformer m) (r : Request) (id : List UInt8) :
    s.route t (r.identified id) = s.route t r := by
  rw [route, r.identified_target id, s.handle_identified t r id, route]

end

theorem shown_framed (a : Response) (id : List UInt8) {method : String} (noHead : method ≠ "HEAD")
    (noConnect : method ≠ "CONNECT") :
    ((a.withHeader Request.idHeader id).framed method).shown = a.shown := by
  simp [Response.framed, noHead, noConnect, Response.withLength, Response.withHeader, Response.shown,
    Response.values, Request.idHeader, List.filter_append]

abbrev Asked := List (Options × String)

def noting (behaviour : Options → String → Run) : Transformer (StateM Asked) :=
  fun options source => do
    modify (· ++ [(options, source)])
    return behaviour options source

def answer (s : Server) (behaviour : Options → String → Run) (r : Request) (random : Nat)
    (asked : Asked) : Response × Asked :=
  let run := (s.respond (noting behaviour) r random).run asked
  (run.1.1, run.2)

variable {s : Server} {c : Config} {behaviour : Options → String → Run} {r : Request}
  {source : List Char}

theorem shown_answer (routed : r.target.path.head? = some '/') (noHead : r.method ≠ "HEAD")
    (noConnect : r.method ≠ "CONNECT") (random : Nat) (asked : Asked) :
    (s.answer behaviour r random asked).1.shown =
        ((s.handle (noting behaviour) r).run asked).1.1.shown ∧
      (s.answer behaviour r random asked).2 = ((s.handle (noting behaviour) r).run asked).2 := by
  have run : (s.respond (noting behaviour) r random).run asked =
      let handled := (s.handle (noting behaviour) r).run asked
      (((handled.1.1.withHeader Request.idHeader (r.idOr (Utf8.encode (Uuid.v4 random)))).framed
        r.method, handled.1.2), handled.2) := by
    simp only [respond, route_identified]
    simp only [route, if_pos routed]
    rfl
  rw [answer, run]
  exact ⟨shown_framed _ _ noHead noConnect, rfl⟩

theorem handle_missing (missing : r.source? = none) (asked : Asked) :
    (s.handle (noting behaviour) r).run asked =
      (({ status := .badRequest }, some .missingSource), asked) := by
  rw [handle, missing]
  rfl

theorem handle_tooLarge (carried : r.source? = some source)
    (large : s.maxSourceBytes < Utf8.length source) (asked : Asked) :
    (s.handle (noting behaviour) r).run asked =
      (({ status := .payloadTooLarge }, some .tooLarge), asked) := by
  simp only [handle, carried, if_pos large]
  rfl

theorem handle_transformed (carried : r.source? = some source)
    (fits : Utf8.length source ≤ s.maxSourceBytes)
    (timely : (behaviour s.options (String.ofList source)).millis ≤ s.requestSecs * 1000)
    (asked : Asked) :
    (s.handle (noting behaviour) r).run asked =
      ((s.attemptResponse (behaviour s.options (String.ofList source)).attempt,
        some (behaviour s.options (String.ofList source)).attempt.outcome),
        asked ++ [(s.options, String.ofList source)]) := by
  simp only [handle, carried, if_neg (Nat.not_lt.2 fits)]
  change (ite _ _ _ : StateM Asked _).run (asked ++ [(s.options, String.ofList source)]) = _
  rw [if_neg (Nat.not_lt.2 timely)]
  rfl

/-- The contract of a server with its callers. -/
theorem respond_answers (built : ofConfig c = .ok s) (routed : r.target.path.head? = some '/')
    (noHead : r.method ≠ "HEAD") (noConnect : r.method ≠ "CONNECT")
    (timely : ∀ source, r.Carries source →
      Utf8.length source ≤ c.transformation.maxSourceBytes →
      (behaviour c.transformation.options (String.ofList source)).millis ≤
        c.timeouts.requestSecs * 1000)
    (random : Nat) (asked : Asked) :
    ((∀ field ∈ r.fields, ¬Request.IsSource field) →
      (s.answer behaviour r random asked).1.shown = { status := .badRequest } ∧
        (s.answer behaviour r random asked).2 = asked) ∧
    ∀ source, r.Carries source →
      (c.transformation.maxSourceBytes < Utf8.length source →
        (s.answer behaviour r random asked).1.shown = { status := .payloadTooLarge } ∧
          (s.answer behaviour r random asked).2 = asked) ∧
      (Utf8.length source ≤ c.transformation.maxSourceBytes →
        (s.answer behaviour r random asked).1.shown =
            shownFor c.response
              (behaviour c.transformation.options (String.ofList source)).attempt ∧
          (s.answer behaviour r random asked).2 =
            asked ++ [(c.transformation.options, String.ofList source)]) := by
  have serves := serves_of_ofConfig built
  have handled := @shown_answer s behaviour r routed noHead noConnect random asked
  rw [handled.1, handled.2]
  refine ⟨fun missing => ?_, fun source carried => ⟨fun large => ?_, fun fits => ?_⟩⟩
  · rw [handle_missing (Request.source?_eq_none_iff.2 missing)]
    exact ⟨rfl, rfl⟩
  · rw [← serves.maxSourceBytes] at large
    rw [handle_tooLarge (Request.source?_eq_some_iff.2 carried) large]
    exact ⟨rfl, rfl⟩
  · have timely := timely source carried fits
    rw [← serves.options, ← serves.requestSecs] at timely
    rw [← serves.maxSourceBytes] at fits
    rw [handle_transformed (Request.source?_eq_some_iff.2 carried) fits timely, ← serves.options]
    exact ⟨shown_attemptResponse serves _, rfl⟩

def doubledRequest : Request :=
  { method := "POST"
    target := { path := "/a".toList, query := some "x=1&src=%C3%A9&src=b".toList } }

theorem carries_doubledRequest : doubledRequest.Carries ['é'] := by
  refine ⟨[(['x'], ['1'])], (['s', 'r', 'c'], ['é']), [(['s', 'r', 'c'], ['b'])], ?_, ?_, rfl, rfl⟩
  · decide +kernel
  · simp [Request.IsSource]

def tooDeepAlways (_ : Options) (_ : String) : Run :=
  { attempt := .failed (.tooDeep ⟨1, 2, "a"⟩) }

theorem respond_answers_of_doubledRequest :
    ∃ s answer asked, ofConfig { transformation := { maxSourceBytes := 2 } } = .ok s ∧
      s.answer tooDeepAlways doubledRequest 7 [] = (answer, asked) ∧
      answer.shown =
        { status := .internalServerError
          body := Response.bytes "<stdin>:1:2: error: a\n"
          allowOrigin := [Response.bytes "*"]
          contentType := [Response.bytes "text/plain; charset=utf-8"] } ∧
      asked = [({}, "é")] := by
  obtain ⟨s, built⟩ : ∃ s, ofConfig { transformation := { maxSourceBytes := 2 } } = .ok s :=
    ⟨_, rfl⟩
  have timely : ∀ source, doubledRequest.Carries source → Utf8.length source ≤ 2 →
      (tooDeepAlways {} (String.ofList source)).millis ≤ 30 * 1000 := fun _ _ _ => Nat.zero_le _
  have contract := respond_answers built (by decide) (by decide) (by decide) timely 7 []
  obtain ⟨shown, log⟩ := (contract.2 ['é'] carries_doubledRequest).2 (by decide)
  exact ⟨s, _, _, built, rfl, shown.trans (by decide), log⟩

end Server

end Enclose.Http
