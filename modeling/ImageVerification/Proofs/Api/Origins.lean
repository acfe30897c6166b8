import ImageVerification.InMemory
import ImageVerification.Proofs.Api.Configured
import ImageVerification.Proofs.Api.Unauthenticated
import ImageVerification.Proofs.Flow.Outcomes

/-! Which origins may read the responses of a router.

Only one layer of the router writes the header that allows an origin, next to the one that names the
headers it looks at; nothing that the endpoints answer holds either.
-/

namespace ImageVerification

open Http Encoding

namespace Http

namespace Response

/-- A response lets a browser show it to scripts of an origin. -/
def Allows (response : Response) (origin : Bytes) : Prop :=
  ∃ value,
    ("access-control-allow-origin", value) ∈ response.headers
    ∧ (value = "*" ∨ Utf8.encode value = origin)

/-- A response without headers but those about its content and the methods of its path. -/
def Plain (response : Response) : Prop :=
  ∀ header ∈ response.headers, header.1 = "content-type" ∨ header.1 = "allow"

/-- A plain response has no headers but its content type and the methods that are allowed. -/
theorem Plain.not_mem {response : Response} (plain : response.Plain) {name value : String}
    (other : name ≠ "content-type" ∧ name ≠ "allow")
    : (name, value) ∉ response.headers := by
  intro member
  rcases plain _ member with content | methods
  · exact other.1 content
  · exact other.2 methods

theorem plain_empty (status : Nat) : (empty status).Plain := nofun

theorem plain_plain (status : Nat) (body : String) : (plain status body).Plain :=
  List.forall_mem_singleton.mpr (.inl rfl)

theorem plain_json (status : Nat) (body : List Char) : (json status body).Plain :=
  List.forall_mem_singleton.mpr (.inl rfl)

end Response

namespace OriginPolicy

/-- An origin that can stand in a header. -/
def Usable (entry : String) : Prop := (Utf8.encode entry).all isValueByte = true

variable {policy : OriginPolicy} {entries : List String} {event : Event} {origin : Bytes}

/-- The origins that are kept are the entries that a header can hold, byte for byte. -/
theorem mem_usable_iff
    : origin ∈ (entries.map Utf8.encode).filter (·.all isValueByte)
      ↔ ∃ entry ∈ entries, Usable entry ∧ Utf8.encode entry = origin := by
  simp only [List.mem_filter, List.mem_map, Usable]
  constructor
  · rintro ⟨⟨entry, member, rfl⟩, usable⟩
    exact ⟨entry, member, usable, rfl⟩
  · rintro ⟨entry, member, usable, rfl⟩
    exact ⟨⟨entry, member, rfl⟩, usable⟩

/-- A list lets in the origins that it holds and that can stand in a header; if it holds none of
these, it lets in every origin.
-/
theorem allowedOrigin?_iff (settled : ofSettings (some entries) = some (policy, event))
    : (∃ value,
        policy.allowedOrigin? (some origin) = some value
        ∧ (value = "*" ∨ Utf8.encode value = origin))
      ↔ (∃ entry ∈ entries, Usable entry ∧ Utf8.encode entry = origin)
        ∨ ∀ entry ∈ entries, ¬ Usable entry := by
  unfold ofSettings at settled
  dsimp only [Option.getD_some] at settled
  split at settled
  · -- Nothing usable is left of the list, and the policy falls back to any origin.
    next none =>
      have unusable : ∀ entry ∈ entries, ¬ Usable entry := by
        intro entry member usable
        have held := mem_usable_iff.mpr ⟨entry, member, usable, rfl⟩
        rw [List.isEmpty_iff.mp none] at held
        cases held
      cases settled
      exact ⟨fun _ => .inr unusable, fun _ => ⟨"*", rfl, .inl rfl⟩⟩
  · -- Something usable is left, so the policy is the list of it.
    next some =>
      have notAll : ¬ ∀ entry ∈ entries, ¬ Usable entry := by
        intro unusable
        refine some (List.isEmpty_iff.mpr (List.eq_nil_iff_forall_not_mem.mpr ?_))
        intro held member
        obtain ⟨entry, listed, usable, -⟩ := mem_usable_iff.mp member
        exact unusable entry listed usable
      split at settled
      · cases settled
      · cases settled
        rw [or_iff_left notAll, ← mem_usable_iff]
        simp only [allowedOrigin?, Option.filter_some, List.contains_eq_mem, decide_eq_true_eq]
        split
        · next held =>
            obtain ⟨entry, -, -, rfl⟩ := mem_usable_iff.mp held
            exact ⟨fun _ => held, fun _ => ⟨entry, Utf8.decode?_encode entry, .inr rfl⟩⟩
        · next missing =>
            refine ⟨?_, fun held => absurd held missing⟩
            rintro ⟨value, decoded, -⟩
            cases decoded

/-- A response that the policy has nothing to do with, or one that allows what the policy does. -/
def Dresses (policy : OriginPolicy) (request : Request) (response : Response) : Prop :=
  response.Plain
  ∨ varyHeader ∈ response.headers
    ∧ ∀ value,
      ("access-control-allow-origin", value) ∈ response.headers
      ↔ policy.allowedOrigin? (request.header? "origin") = some value

variable {request : Request} {response : Response}

/-- What a policy allows is what it says in its one header. -/
theorem mem_originHeaders_iff {header : String × String}
    : header ∈ policy.originHeaders request
      ↔ ∃ value,
          policy.allowedOrigin? (request.header? "origin") = some value
          ∧ header = ("access-control-allow-origin", value) := by
  simp only [originHeaders, Option.mem_toList, Option.map_eq_some_iff, eq_comm (a := header)]

/-- An origin is told to be allowed exactly if the policy allows it. -/
theorem allows_mem_originHeaders_iff {value : String}
    : ("access-control-allow-origin", value) ∈ policy.originHeaders request
      ↔ policy.allowedOrigin? (request.header? "origin") = some value := by
  rw [mem_originHeaders_iff]
  constructor
  · rintro ⟨_, allowed, ⟨⟩⟩
    exact allowed
  · exact fun allowed => ⟨value, allowed, rfl⟩

/-- A response is dressed for the policy once: it is plain before, so that only the policy speaks of
origins in it.
-/
theorem dresses_decorate (plain : response.Plain)
    : policy.Dresses request (policy.decorate request response) := by
  refine .inr ⟨List.mem_append_right _ List.mem_cons_self, fun value => ?_⟩
  have other : ("access-control-allow-origin", value) ∉ response.headers :=
    plain.not_mem (by decide)
  have vary : ("access-control-allow-origin", value) ∉ [varyHeader] := by simp [varyHeader]
  simp only [decorate, List.mem_append, other, vary, false_or, or_false]
  exact allows_mem_originHeaders_iff

/-- The answer to a preflight request speaks of origins in the policy's words only. -/
theorem dresses_preflight : policy.Dresses request (policy.preflight request) := by
  refine .inr ⟨List.mem_append_right _ List.mem_cons_self, fun value => ?_⟩
  have other : ("access-control-allow-origin", value)
      ∉ [varyHeader, ("access-control-allow-methods", policy.allowedMethods),
          ("access-control-allow-headers", policy.allowedHeaders)] := by
    simp [varyHeader]
  simp only [preflight, List.mem_append, other, or_false]
  exact allows_mem_originHeaders_iff

/-- Telling the methods that are allowed says nothing of origins. -/
theorem Dresses.withHeader_allow (dresses : policy.Dresses request response) (methods : String)
    : policy.Dresses request (response.withHeader "allow" methods) := by
  rcases dresses with plain | ⟨vary, allows⟩
  · refine .inl (List.forall_mem_append.mpr ⟨plain, ?_⟩)
    exact List.forall_mem_singleton.mpr (.inr rfl)
  · refine .inr ⟨List.mem_append_left _ vary, fun value => ?_⟩
    have other : ("access-control-allow-origin", value) ∉ [("allow", methods)] := by simp
    simp only [Response.withHeader, List.mem_append, other, or_false]
    exact allows value

/-- Neither does the last finish of a response, which adds those methods or takes its body away. -/
theorem Dresses.finish (dresses : policy.Dresses request response)
    : policy.Dresses request (Router.finish request response) := by
  unfold Router.finish
  dsimp only
  have shortened
      : policy.Dresses request
          (if request.method = "HEAD" then { response with body := "" } else response) := by
    split
    · exact dresses
    · exact dresses
  split
  · exact shortened
  · split
    · exact shortened
    · exact shortened.withHeader_allow _

/-- A response that is dressed allows an origin if the policy does so and if it says what it looks
at.
-/
theorem Dresses.allows_iff (dresses : policy.Dresses request response)
    : response.Allows origin
      ↔ varyHeader ∈ response.headers
        ∧ ∃ value,
            policy.allowedOrigin? (request.header? "origin") = some value
            ∧ (value = "*" ∨ Utf8.encode value = origin) := by
  rcases dresses with plain | ⟨vary, allows⟩
  · refine iff_of_false ?_ ?_
    · rintro ⟨value, member, -⟩
      exact plain.not_mem (by decide) member
    · rintro ⟨vary, -⟩
      exact plain.not_mem (by decide) vary
  · simp only [Response.Allows, allows, vary, true_and]

end OriginPolicy

end Http

namespace Api

open Collaborator ImageVerification.Flow

/-- Whatever happens, what is answered is plain. -/
def AnswersPlainly (flow : Action (Option Response)) : Prop :=
  ∀ last, flow.EndsIn (fun _ answer => ∀ response ∈ answer, response.Plain) last

variable {api : Api} {request : Request}

/-- An explained rejection is plain. -/
theorem explain_endsIn (explained : Rejection.Explained) (last : Option Call)
    : (explain explained).EndsIn (fun _ response => response.Plain) last :=
  endsIn_bind fun _ _ => Response.plain_json _ _

/-- So is what is told of a lookup. -/
theorem found_endsIn {α : Type} (render : α → List Char) (outcome : Repository.Outcome α)
    (last : Option Call)
    : (found render outcome).EndsIn (fun _ response => response.Plain) last := by
  cases outcome with
  | error failure => exact explain_endsIn _ last
  | ok value => exact Response.plain_json _ _

/-- A response that is plain is answered plainly. -/
theorem answersPlainly_some {response : Response} (plain : response.Plain)
    : AnswersPlainly (.done (some response)) := by
  rintro last _ ⟨⟩
  exact plain

/-- A flow that ends in plain responses answers plainly. -/
theorem answersPlainly_map {flow : Action Response}
    (plain : ∀ last, flow.EndsIn (fun _ response => response.Plain) last)
    : AnswersPlainly (some <$> flow) :=
  fun last => (plain last).bind fun last _ plain => answersPlainly_some plain last

/-- A plain answer stays plain under the context of a request; without a context there is no answer
at all.
-/
theorem answersPlainly_underContext {answer : Context → Action Response}
    (plain : ∀ ctx last, (answer ctx).EndsIn (fun _ response => response.Plain) last)
    : AnswersPlainly (api.underContext answer) := by
  refine fun last => endsIn_bind fun last clocks => ?_
  split
  · exact nofun
  · next ctx _ => exact answersPlainly_map (plain ctx) last

/-- A plain answer for users stays plain when senders without a user are rejected. -/
theorem answersPlainly_forUser {answer : String → Action (Option Response)}
    (plain : ∀ userId, AnswersPlainly (answer userId))
    : AnswersPlainly (api.forUser request answer) := by
  intro last
  refine endsIn_bind fun last authenticated => ?_
  cases authenticated with
  | error rejection => exact answersPlainly_some (Response.plain_json _ _) last
  | ok userId => exact plain userId last

/-- The same where the path has to name a request: what cannot be read of it is answered plainly
too.
-/
theorem answersPlainly_forRequestId {segment : List Char}
    {answer : String → String → Context → Action Response}
    (plain : ∀ userId requestId ctx last,
      (answer userId requestId ctx).EndsIn (fun _ response => response.Plain) last)
    : AnswersPlainly (api.forRequestId request segment answer) := by
  refine answersPlainly_forUser fun userId => ?_
  split
  · exact answersPlainly_some (Response.plain_plain _ _)
  · dsimp only
    split
    · exact answersPlainly_some (Response.plain_json _ _)
    · exact answersPlainly_underContext (plain userId _)

/-- Uploads are answered plainly at each of the points at which they may be turned away, and if they
are verified.
-/
theorem answersPlainly_verify : AnswersPlainly (api.verify request) := by
  refine answersPlainly_forUser fun userId => ?_
  split
  · exact answersPlainly_some (Response.plain_plain _ _)
  · split
    · exact answersPlainly_some (Response.plain_json _ _)
    · refine answersPlainly_underContext fun ctx last => endsIn_bind fun last outcome => ?_
      cases outcome with
      | error failure => exact explain_endsIn _ last
      | ok outcome => exact Response.plain_json _ _

/-- No endpoint answers with more headers than the one about the content. -/
theorem answersPlainly_answer (endpoint : Endpoint)
    : AnswersPlainly (api.answer request endpoint) := by
  cases endpoint with
  | verify => exact answersPlainly_verify
  | result id =>
      unfold answer result
      refine answersPlainly_forRequestId fun userId requestId ctx last => ?_
      exact endsIn_bind fun last outcome => found_endsIn _ outcome last
  | duplicates id =>
      unfold answer duplicates
      refine answersPlainly_forRequestId fun userId requestId ctx last => ?_
      exact endsIn_bind fun last outcome => found_endsIn _ outcome last
  | metrics =>
      refine answersPlainly_forUser fun userId => answersPlainly_underContext fun ctx last => ?_
      exact endsIn_bind fun last outcome => found_endsIn _ outcome last
  | health =>
      exact answersPlainly_map fun _ => endsIn_bind fun _ _ => Response.plain_json _ _
  | ready =>
      refine answersPlainly_map fun _ => endsIn_bind fun _ reachable => ?_
      cases reachable <;> exact Response.plain_json _ _
  | document => exact answersPlainly_some (Response.plain_json _ _)

end Api

namespace Router

open Collaborator ImageVerification.Flow

variable {router : Router} {request : Request} {limiter : Limiter} {now : Instant} {σ : Type}
  {env : Environment Call Reply σ} {world : World Call σ} {response : Response}

/-- What comes of a request behind the limiter is dressed for the policy: a body that is announced
as too long is answered plainly, and all else is decorated or a preflight.
-/
theorem withinLength_endsIn (last : Option Call)
    : (router.withinLength request).EndsIn
        (fun _ answer => ∀ response ∈ answer, router.origins.Dresses request response) last := by
  unfold withinLength
  split
  · -- The announced body is too long.
    rintro _ ⟨⟩
    exact .inl (Response.plain_plain _ _)
  unfold withOrigins
  split
  · rintro _ ⟨⟩
    exact OriginPolicy.dresses_preflight
  have plain : Api.AnswersPlainly (router.dispatch request) := by
    unfold dispatch
    split
    · exact Api.answersPlainly_some (Response.plain_empty _)
    · split
      · exact Api.answersPlainly_answer _
      · exact Api.answersPlainly_some (Response.plain_empty _)
  refine (plain last).bind fun last answer plain => ?_
  rintro _ decorated
  obtain ⟨response, answered, rfl⟩ := Option.map_eq_some_iff.mp decorated
  exact OriginPolicy.dresses_decorate (plain response answered)

/-- Whatever is asked of a router, and however long it takes, its policy dresses the response. -/
theorem dresses_of_serve (served : (router.serve env limiter now request world).1 = some response)
    : router.origins.Dresses request response := by
  cases stopped : (router.refusal? limiter now request).1 with
  | some refusal =>
      rw [serve_of_refusal stopped] at served
      cases served
      refine OriginPolicy.Dresses.finish (.inl ?_)
      unfold refusal? at stopped
      split at stopped
      · cases stopped
      · cases stopped
        exact nofun
      · dsimp only at stopped
        split at stopped
        · cases stopped
        · cases stopped
          exact Response.plain_empty _
  | none =>
      rw [serve_of_admitted stopped] at served
      dsimp only [respond] at served
      split at served
      · cases served
        exact OriginPolicy.Dresses.finish (.inl (Response.plain_empty _))
      · -- The response comes from an endpoint, which has been dressed before it is finished.
        next answer after ran =>
          obtain ⟨made, -, dressed⟩ := (withinLength_endsIn none).run ran
          obtain ⟨found, answered, rfl⟩ := Option.map_eq_some_iff.mp served
          exact (dressed found answered).finish

/-- The origins that a router lets in are the entries of its list that can stand in a header; if
none of them can, it is every origin. What is refused before the policy is asked lets in nobody.
-/
theorem allows_origin_iff {config : Config} {authority : Authority} {scope : DuplicateScope}
    {storeName cacheName : String} {events : List Event} {entries : List String} {origin : Bytes}
    (made : ofConfig config authority scope storeName cacheName = .ok (router, events))
    (given : config.allowedOrigins = some entries)
    (asked : request.header? "origin" = some origin)
    (served : (router.serve env limiter now request world).1 = some response)
    : response.Allows origin
      ↔ OriginPolicy.varyHeader ∈ response.headers
        ∧ ((∃ entry ∈ entries, OriginPolicy.Usable entry ∧ Utf8.encode entry = origin)
          ∨ ∀ entry ∈ entries, ¬ OriginPolicy.Usable entry) := by
  obtain ⟨originEvent, quotaEvent, settled, -, -⟩ := (configured_of_ofConfig made).layers
  rw [given] at settled
  rw [(dresses_of_serve served).allows_iff, asked, OriginPolicy.allowedOrigin?_iff settled]

/-- Settings that name one origin, with a control character at its end. -/
def misspelled : Config :=
  { Config.standard with allowedOrigins := some ["http://a.example\x01"] }

/-- A probe from a page of another origin. -/
def foreignProbe : Request :=
  ⟨"GET", "/health", [("origin", Utf8.encode "http://evil.example")], [], none⟩

/-- An origin that nobody listed is let in because the one that is listed cannot be used. -/
theorem foreignProbe_allowed
    : ∃ router events response,
        ofConfig misspelled (.make "secret" none) .owner InMemory.backendName InMemory.backendName
          = .ok (router, events)
        ∧ (router.serve
            (InMemory.environment (.ok ⟨true, .zero, ""⟩) (fun _ => .epoch) fun _ => "r") .empty 0
            foreignProbe (.start InMemory.empty)).1
          = some response
        ∧ response.Allows (Utf8.encode "http://evil.example")
        ∧ Utf8.encode "http://evil.example" ∉ ["http://a.example\x01"].map Utf8.encode := by
  have unusable : ∀ entry ∈ ["http://a.example\x01"], ¬ OriginPolicy.Usable entry := by
    unfold OriginPolicy.Usable
    decide +kernel
  have settled
      : OriginPolicy.ofSettings misspelled.allowedOrigins
        = some (.anyOrigin,
            ⟨.warn, "CORS open to any origin; set ALLOWED_ORIGINS to restrict", []⟩) := by
    decide +kernel
  obtain ⟨quotaEvent, made⟩ := ofConfig_of_unlimited settled (by decide) (by decide) rfl
    (.make "secret" none) .owner InMemory.backendName InMemory.backendName
  have served
      : ∃ response,
          (serve ⟨apiOf misspelled (.make "secret" none) .owner InMemory.backendName
                InMemory.backendName, .anyOrigin, none⟩
            (InMemory.environment (.ok ⟨true, .zero, ""⟩) (fun _ => .epoch) fun _ => "r") .empty 0
            foreignProbe (.start InMemory.empty)).1
            = some response
          ∧ OriginPolicy.varyHeader ∈ response.headers :=
    ⟨_, rfl, by decide +kernel⟩
  obtain ⟨response, answered, vary⟩ := served
  have allowed := (allows_origin_iff made rfl rfl answered).mpr ⟨vary, .inr unusable⟩
  exact ⟨_, _, response, made, answered, allowed, by decide +kernel⟩

end Router

end ImageVerification
