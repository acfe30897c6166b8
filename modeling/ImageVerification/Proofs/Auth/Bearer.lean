import ImageVerification.Auth.Bearer
import ImageVerification.Proofs.Auth.Signed
import ImageVerification.Proofs.Text.Trim

/-! Which requests are authenticated, and why all others are refused.

A request is refused for the first condition that it does not meet, in the order in which the
constructors of `Refused` stand.
-/

namespace ImageVerification.Authority

open Encoding Text Token

/-- The value of the first authorization header. -/
def Sent (headers : Http.Headers) (value : Bytes) : Prop :=
  ∃ before after,
    headers = before ++ ("authorization", value) :: after
    ∧ ∀ header ∈ before, header.1 ≠ "authorization"

/-- The bytes of a value are plain text: printed ASCII characters, spaces and tabs. -/
def IsPlain (value : Bytes) : Prop := ∀ byte ∈ value, (32 ≤ byte ∧ byte < 127) ∨ byte = 9

def characters (value : Bytes) : List Char := value.map fun byte => Char.ofNat byte.toNat

/-- What follows the first space, the scheme in front of it being that of bearer tokens. -/
def Bearer (cs rest : List Char) : Prop :=
  ∃ scheme, cs = scheme ++ ' ' :: rest ∧ ' ' ∉ scheme ∧ scheme.map Char.toLower = "bearer".toList

/-- The token that the authorization header of a request presents. -/
def Presents (headers : Http.Headers) (token : List Char) : Prop :=
  token ≠ [] ∧ ∃ value rest,
    Sent headers value ∧ IsPlain value ∧ Bearer (characters value) rest ∧ Trimmed rest token

/-- A token has not expired for longer than the leeway. -/
def Current (now : Nat) (claims : Claims) : Prop := ∀ n ∈ claims.expiry, now ≤ n + leeway

/-- A token is meant for the audience that is expected, if one is. -/
def Addressed (audience : Option String) (claims : Claims) : Prop :=
  ∀ expected ∈ audience, (∃ c ∈ expected.toList, isBlank c = false) →
    claims.audience = .one expected
    ∨ ∃ names, claims.audience = .many names ∧ expected ∈ names

variable {secret : String} {audience : Option String} {now : Nat} {headers : Http.Headers}

/-- Whom a request is authenticated as. -/
inductive Accepted (secret : String) (audience : Option String) (now : Nat)
    (headers : Http.Headers)
    : String → Prop where
  | intro {token : List Char} {claims : Claims} (presents : Presents headers token)
      (authentic : Authentic (Utf8.encode secret) token claims) (current : Current now claims)
      (addressed : Addressed audience claims) (named : claims.subject ≠ "")
      : Accepted secret audience now headers claims.subject

/-- The code with which a request is refused. -/
inductive Refused (secret : String) (audience : Option String) (now : Nat)
    (headers : Http.Headers)
    : String → Prop where
  | unsent (unsent : ∀ value, ¬ Sent headers value)
      : Refused secret audience now headers "AUTH_MISSING_TOKEN"
  | unreadable {value : Bytes} (sent : Sent headers value) (unreadable : ¬ IsPlain value)
      : Refused secret audience now headers "AUTH_INVALID_TOKEN"
  | scheme {value : Bytes} (sent : Sent headers value) (plain : IsPlain value)
      (other : ∀ rest, ¬ Bearer (characters value) rest)
      : Refused secret audience now headers "AUTH_INVALID_TOKEN"
  | blank {value : Bytes} {rest : List Char} (sent : Sent headers value) (plain : IsPlain value)
      (bearer : Bearer (characters value) rest) (blank : ∀ c ∈ rest, isBlank c = true)
      : Refused secret audience now headers "AUTH_MISSING_TOKEN"
  | unauthentic {token : List Char} (presents : Presents headers token)
      (unauthentic : ∀ claims, ¬ Authentic (Utf8.encode secret) token claims)
      : Refused secret audience now headers "AUTH_INVALID_TOKEN"
  | expired {token : List Char} {claims : Claims} (presents : Presents headers token)
      (authentic : Authentic (Utf8.encode secret) token claims) (expired : ¬ Current now claims)
      : Refused secret audience now headers "AUTH_TOKEN_EXPIRED"
  | misaddressed {token : List Char} {claims : Claims} (presents : Presents headers token)
      (authentic : Authentic (Utf8.encode secret) token claims) (current : Current now claims)
      (misaddressed : ¬ Addressed audience claims)
      : Refused secret audience now headers "AUTH_INVALID_AUDIENCE"
  | nameless {token : List Char} {claims : Claims} (presents : Presents headers token)
      (authentic : Authentic (Utf8.encode secret) token claims) (current : Current now claims)
      (addressed : Addressed audience claims) (nameless : claims.subject = "")
      : Refused secret audience now headers "AUTH_MISSING_SUBJECT"

/-- What is looked up under the name is the value of the first such header. -/
theorem lookup_eq_some_iff {value : Bytes}
    : headers.lookup "authorization" = some value ↔ Sent headers value := by
  simp only [List.lookup_eq_some_iff, Sent, bne_iff_ne, ne_comm]

/-- No value is looked up exactly when none was sent. -/
theorem lookup_eq_none_iff
    : headers.lookup "authorization" = none ↔ ∀ value, ¬ Sent headers value := by
  simp only [Option.eq_none_iff_forall_ne_some, ne_eq, lookup_eq_some_iff]

/-- Visible are the printable bytes and the tab. -/
theorem isVisible_iff {byte : UInt8}
    : Http.isVisible byte = true ↔ (32 ≤ byte ∧ byte < 127) ∨ byte = 9 := by
  simp [Http.isVisible]

/-- A plain value is read character by character. -/
theorem visible?_of_isPlain {value : Bytes} (plain : IsPlain value)
    : Http.visible? value = some (characters value) :=
  if_pos (List.all_eq_true.mpr fun byte member => isVisible_iff.mpr (plain byte member))

/-- A value that is not plain cannot be read. -/
theorem visible?_of_not_isPlain {value : Bytes} (unreadable : ¬ IsPlain value)
    : Http.visible? value = none := by
  refine if_neg fun visible => unreadable fun byte member => ?_
  exact isVisible_iff.mp (List.all_eq_true.mp visible byte member)

/-- A scheme is that of bearers whatever the case of its letters. -/
theorem lower_eq_bearer_iff {scheme : List Char}
    : lower (String.ofList scheme) = "bearer" ↔ scheme.map Char.toLower = "bearer".toList := by
  rw [← String.toList_inj, lower, String.toList_map, String.toList_ofList]

/-- Of a bearer's header, the trimmed rest is the token, unless it is blank. Witness: the scheme has
no space, so that the header is cut where it was put together.
-/
theorem bearerToken_of_bearer {value : Bytes} {rest : List Char} (plain : IsPlain value)
    (bearer : Bearer (characters value) rest)
    : bearerToken (some value)
      = if (trim rest).isEmpty then
          .error (unauthorized "AUTH_MISSING_TOKEN" "Bearer token is empty")
        else .ok (trim rest) := by
  obtain ⟨scheme, joined, spaceless, named⟩ := bearer
  have others := bne_of_not_mem spaceless
  simp only [bearerToken, visible?_of_isPlain plain, joined]
  rw [Json.takeWhile_append_mark (p := (· != ' ')) rfl,
    Json.dropWhile_append_mark (p := (· != ' ')) rfl, List.dropWhile_eq_nil_iff.mpr others,
    List.takeWhile_eq_self_iff.mpr others]
  simp only [List.nil_append, lower_eq_bearer_iff.mpr named, if_true]

/-- Of any other header no token is taken: if it had a space and the right scheme in front of it, it
would be a bearer's.
-/
theorem bearerToken_of_not_bearer {value : Bytes} (plain : IsPlain value)
    (other : ∀ rest, ¬ Bearer (characters value) rest)
    : bearerToken (some value)
      = .error
          (unauthorized "AUTH_INVALID_TOKEN" "Authorization header must use Bearer scheme") := by
  simp only [bearerToken, visible?_of_isPlain plain]
  split
  · next space rest found =>
      refine if_neg fun named => other rest ?_
      refine ⟨_, ?_, ?_, lower_eq_bearer_iff.mp named⟩
      · have head := List.head?_dropWhile_not (· != ' ') (characters value)
        rw [found] at head
        obtain rfl : space = ' ' := by simpa using head
        rw [← found, List.takeWhile_append_dropWhile]
      · exact fun member => absurd (List.mem_takeWhile_imp member) (by decide)
  · rfl

/-- An audience holds a name if it is that name, or lists it. -/
theorem contains_iff {expected : String} {held : Audience}
    : held.contains expected = true
      ↔ held = .one expected ∨ ∃ names, held = .many names ∧ expected ∈ names := by
  cases held <;> simp [Audience.contains]

/-- Nothing is left of a text by trimming exactly if it is blank. -/
theorem isEmpty_trimText_iff {name : String}
    : (trimText name).isEmpty = true ↔ ∀ c ∈ name.toList, isBlank c = true := by
  rw [trimText, String.isEmpty_iff, ← trim_eq_nil_iff]
  exact ⟨fun same => by simpa using congrArg String.toList same, fun same => by rw [same]⟩

/-- Only an expected audience that is not blank is looked for. -/
theorem misses_iff {claims : Claims}
    : (make secret audience).audience.any (!claims.audience.contains ·) = true
      ↔ ¬ Addressed audience claims := by
  cases audience with
  | none => simp [make, Addressed]
  | some expected =>
      have blank
          : (trimText expected).isEmpty = false ↔ ∃ c ∈ expected.toList, isBlank c = false := by
        rw [← Bool.not_eq_true, isEmpty_trimText_iff]
        simp
      simp only [make, Addressed, Option.filter_some, Bool.not_eq_eq_eq_not, Bool.not_true, blank,
        ← contains_iff, Option.mem_def, Option.some.injEq, forall_eq']
      by_cases looked : ∃ c ∈ expected.toList, isBlank c = false
      · simp only [looked, if_true, Option.any_some, forall_const, Bool.not_eq_eq_eq_not,
          Bool.not_true, Bool.not_eq_true]
      · simp only [looked, if_false, Option.any_none, false_imp_iff, not_true_eq_false,
          Bool.false_eq_true]

/-- Once the clock shows the leeway at least, the difference is the one of numbers. -/
theorem expires_iff {claims : Claims} (late : leeway ≤ now)
    : claims.expiry.any (· < earliestExpiry now) = true ↔ ¬ Current now claims := by
  rw [Current, Option.any_eq_true, earliestExpiry, if_pos late]
  push Not
  refine exists_congr fun n => and_congr_right fun _ => ?_
  rw [decide_eq_true_eq]
  omega

variable {token : List Char} {claims : Claims}

/-- Of an authentic token, the expiry, the audience and the subject are checked in this order. -/
theorem subject_of_authentic (authentic : Authentic (Utf8.encode secret) token claims)
    : (make secret audience).subject now token
      = if claims.expiry.any (· < earliestExpiry now) then
          .error (unauthorized "AUTH_TOKEN_EXPIRED" "JWT token has expired")
        else if (make secret audience).audience.any (!claims.audience.contains ·) then
          .error (unauthorized "AUTH_INVALID_AUDIENCE" "Token audience does not match")
        else if claims.subject.isEmpty then
          .error (unauthorized "AUTH_MISSING_SUBJECT" "Token has no subject")
        else .ok claims.subject := by
  have sameSecret : (make secret audience).secret = secret := rfl
  unfold subject
  rw [sameSecret, verify_of_authentic authentic now]
  by_cases expired : claims.expiry.any (· < earliestExpiry now) = true
  · rw [if_pos expired, if_pos expired]
    rfl
  · rw [if_neg expired, if_neg expired]

/-- Whatever else is wrong with a token that is not authentic, it is refused as invalid; its expiry
is not looked at.
-/
theorem subject_of_not_authentic
    (unauthentic : ∀ claims, ¬ Authentic (Utf8.encode secret) token claims)
    : ∃ detail,
        (make secret audience).subject now token
        = .error (.unauthorized "AUTH_INVALID_TOKEN" detail) := by
  have sameSecret : (make secret audience).secret = secret := rfl
  obtain ⟨fault, failed, other⟩ := verify_of_not_authentic unauthentic now
  unfold subject
  rw [sameSecret, failed]
  cases fault with
  | expired => exact absurd rfl other
  | malformed | base64 | json | wrongAlgorithm | wrongSignature => exact ⟨_, rfl⟩

/-- A token is good for a user if it is authentic, current, meant for the audience and about that
user. Witness: of an authentic token these are checked one after the other, and of any other nothing
is accepted.
-/
theorem subject_eq_ok_iff {userId : String} (late : leeway ≤ now)
    : (make secret audience).subject now token = .ok userId
      ↔ ∃ claims,
          Authentic (Utf8.encode secret) token claims
          ∧ Current now claims
          ∧ Addressed audience claims
          ∧ claims.subject = userId
          ∧ userId ≠ "" := by
  constructor
  · intro answered
    by_cases authentic : ∃ claims, Authentic (Utf8.encode secret) token claims
    · obtain ⟨claims, authentic⟩ := authentic
      rw [subject_of_authentic authentic] at answered
      split_ifs at answered with expired elsewhere nobody
      refine ⟨claims, authentic, not_not.mp (expired ∘ (expires_iff late).mpr),
        not_not.mp (elsewhere ∘ misses_iff.mpr), Except.ok.inj answered, ?_⟩
      rw [← Except.ok.inj answered]
      simpa using nobody
    · obtain ⟨detail, refused⟩ := subject_of_not_authentic (not_exists.mp authentic)
      rw [refused] at answered
      cases answered
  · rintro ⟨claims, authentic, current, addressed, rfl, named⟩
    rw [subject_of_authentic authentic, if_neg (not_not.mpr current ∘ (expires_iff late).mp),
      if_neg (not_not.mpr addressed ∘ misses_iff.mp), if_neg (by simpa using named)]

/-- The token that a request presents is the one that is taken from its header. -/
theorem bearerToken_of_presents (presents : Presents headers token)
    : bearerToken (headers.lookup "authorization") = .ok token := by
  obtain ⟨nonempty, value, rest, sent, plain, bearer, trimmed⟩ := presents
  obtain rfl := trim_eq_of_trimmed trimmed
  rw [lookup_eq_some_iff.mpr sent, bearerToken_of_bearer plain bearer,
    if_neg (mt List.isEmpty_iff.mp nonempty)]

/-- A request that presents a token is authenticated as the token's subject. -/
theorem authenticate_of_presents (authority : Authority) (presents : Presents headers token)
    : authority.authenticate now (headers.lookup "authorization")
      = authority.subject now token := by
  rw [authenticate, bearerToken_of_presents presents]
  rfl

/-- A request of which no token can be taken is refused for that. -/
theorem authenticate_of_error {authority : Authority} {value : Option Bytes}
    {rejection : Rejection} (refused : bearerToken value = .error rejection)
    : authority.authenticate now value = .error rejection := by
  rw [authenticate, refused]
  rfl

/-- Who is accepted is authenticated. -/
theorem authenticate_of_accepted {userId : String} (late : leeway ≤ now)
    (accepted : Accepted secret audience now headers userId)
    : (make secret audience).authenticate now (headers.lookup "authorization") = .ok userId := by
  obtain ⟨presents, authentic, current, addressed, named⟩ := accepted
  rw [authenticate_of_presents _ presents]
  exact (subject_eq_ok_iff late).mpr ⟨_, authentic, current, addressed, rfl, named⟩

/-- Who is refused is told so. -/
theorem authenticate_of_refused {code : String} (late : leeway ≤ now)
    (refused : Refused secret audience now headers code)
    : ∃ detail,
        (make secret audience).authenticate now (headers.lookup "authorization")
        = .error (.unauthorized code detail) := by
  cases refused with
  | unsent unsent =>
      rw [lookup_eq_none_iff.mpr unsent]
      exact ⟨_, rfl⟩
  | unreadable sent unreadable =>
      rw [lookup_eq_some_iff.mpr sent]
      refine ⟨"Invalid Authorization header encoding", authenticate_of_error ?_⟩
      simp only [bearerToken, visible?_of_not_isPlain unreadable, unauthorized]
  | scheme sent plain other =>
      rw [lookup_eq_some_iff.mpr sent]
      exact ⟨_, authenticate_of_error (bearerToken_of_not_bearer plain other)⟩
  | blank sent plain bearer blank =>
      rw [lookup_eq_some_iff.mpr sent]
      refine ⟨"Bearer token is empty", authenticate_of_error ?_⟩
      rw [bearerToken_of_bearer plain bearer, trim_eq_nil_iff.mpr blank]
      rfl
  | unauthentic presents unauthentic =>
      rw [authenticate_of_presents _ presents]
      exact subject_of_not_authentic unauthentic
  -- From here on the token is authentic, and its claims are checked in this order.
  | expired presents authentic expired =>
      rw [authenticate_of_presents _ presents, subject_of_authentic authentic,
        if_pos ((expires_iff late).mpr expired)]
      exact ⟨_, rfl⟩
  | misaddressed presents authentic current misaddressed =>
      rw [authenticate_of_presents _ presents, subject_of_authentic authentic,
        if_neg (not_not.mpr current ∘ (expires_iff late).mp), if_pos (misses_iff.mpr misaddressed)]
      exact ⟨_, rfl⟩
  | nameless presents authentic current addressed nameless =>
      rw [authenticate_of_presents _ presents, subject_of_authentic authentic,
        if_neg (not_not.mpr current ∘ (expires_iff late).mp),
        if_neg (not_not.mpr addressed ∘ misses_iff.mp), if_pos (by simp [nameless])]
      exact ⟨_, rfl⟩

/-- Everybody else is refused. -/
theorem accepted_or_refused (secret : String) (audience : Option String) (now : Nat)
    (headers : Http.Headers)
    : (∃ userId, Accepted secret audience now headers userId)
      ∨ ∃ code, Refused secret audience now headers code := by
  by_cases sent : ∃ value, Sent headers value
  case neg => exact .inr ⟨_, .unsent (not_exists.mp sent)⟩
  obtain ⟨value, sent⟩ := sent
  by_cases plain : IsPlain value
  case neg => exact .inr ⟨_, .unreadable sent plain⟩
  by_cases bearer : ∃ rest, Bearer (characters value) rest
  case neg => exact .inr ⟨_, .scheme sent plain (not_exists.mp bearer)⟩
  obtain ⟨rest, bearer⟩ := bearer
  by_cases blank : trim rest = []
  case pos => exact .inr ⟨_, .blank sent plain bearer (trim_eq_nil_iff.mp blank)⟩
  have presents : Presents headers (trim rest) :=
    ⟨blank, value, rest, sent, plain, bearer, trimmed_trim rest⟩
  by_cases authentic : ∃ claims, Authentic (Utf8.encode secret) (trim rest) claims
  case neg => exact .inr ⟨_, .unauthentic presents (not_exists.mp authentic)⟩
  obtain ⟨claims, authentic⟩ := authentic
  by_cases current : Current now claims
  case neg => exact .inr ⟨_, .expired presents authentic current⟩
  by_cases addressed : Addressed audience claims
  case neg => exact .inr ⟨_, .misaddressed presents authentic current addressed⟩
  by_cases nameless : claims.subject = ""
  case pos => exact .inr ⟨_, .nameless presents authentic current addressed nameless⟩
  exact .inl ⟨_, .intro presents authentic current addressed nameless⟩

/-- Every request is either accepted and authenticated, or refused and told so. -/
theorem authenticate_cases (secret : String) (audience : Option String) (headers : Http.Headers)
    (late : leeway ≤ now)
    : (∃ userId,
          Accepted secret audience now headers userId
          ∧ (make secret audience).authenticate now (headers.lookup "authorization") = .ok userId)
      ∨ ∃ code detail,
          Refused secret audience now headers code
          ∧ (make secret audience).authenticate now (headers.lookup "authorization")
            = .error (.unauthorized code detail) := by
  rcases accepted_or_refused secret audience now headers with ⟨userId, accepted⟩ | ⟨code, refused⟩
  · exact .inl ⟨userId, accepted, authenticate_of_accepted late accepted⟩
  · obtain ⟨detail, rejected⟩ := authenticate_of_refused late refused
    exact .inr ⟨code, detail, refused, rejected⟩

/-- A request is authenticated as the subject of the token that it presents if the token is
authentic, current, meant for the audience and about somebody. Otherwise it is refused as
unauthorized, with the code of the first of these conditions that is not met.
-/
theorem authenticate_iff (secret : String) (audience : Option String) (now : Nat)
    (headers : Http.Headers) (late : 60 ≤ now)
    : (∀ userId,
          (make secret audience).authenticate now (headers.lookup "authorization") = .ok userId
          ↔ Accepted secret audience now headers userId)
      ∧ (∀ rejection,
          (make secret audience).authenticate now (headers.lookup "authorization")
            = .error rejection →
          ∃ code detail,
            rejection = .unauthorized code detail
            ∧ rejection.status = 401
            ∧ Refused secret audience now headers code)
      ∧ ∀ code, Refused secret audience now headers code →
          ∃ detail,
            (make secret audience).authenticate now (headers.lookup "authorization")
            = .error (.unauthorized code detail) := by
  refine ⟨fun userId => ⟨fun answered => ?_, authenticate_of_accepted late⟩, ?_,
    fun code => authenticate_of_refused late⟩
  · rcases authenticate_cases secret audience headers late with
      ⟨other, accepted, known⟩ | ⟨code, detail, refused, unknown⟩
    · obtain rfl := Except.ok.inj (known.symm.trans answered)
      exact accepted
    · cases unknown.symm.trans answered
  · intro rejection answered
    rcases authenticate_cases secret audience headers late with
      ⟨other, accepted, known⟩ | ⟨code, detail, refused, unknown⟩
    · cases known.symm.trans answered
    · obtain rfl := Except.error.inj (unknown.symm.trans answered)
      exact ⟨code, detail, rfl, rfl, refused⟩

/-- A token with the claims `{"sub":"alice","aud":["reports","images"],"exp":1704067140}`. -/
def expiringHeaders : Http.Headers :=
  [("accept", Utf8.encode "*/*"),
    ("authorization",
      Utf8.encode
        ("bearer  eyJ0eXAiOiJKV1QiLCJhbGciOiJIUzI1NiJ9."
          ++ "eyJzdWIiOiJhbGljZSIsImF1ZCI6WyJyZXBvcnRzIiwiaW1hZ2VzIl0sImV4cCI6MTcwNDA2NzE0MH0."
          ++ "Q1OEqYbkIgwHARyib3VEP9dH82RP05D2NttYflrucSY"))]

/-- A token is good until the leeway after its expiry is over, and refused a second later. -/
theorem expiringHeaders_authenticated
    : 60 ≤ 1704067200
      ∧ Accepted "test-secret" (some "images") 1704067200 expiringHeaders "alice"
      ∧ 60 ≤ 1704067201
      ∧ Refused "test-secret" (some "images") 1704067201 expiringHeaders "AUTH_TOKEN_EXPIRED" := by
  have known
      : (make "test-secret" (some "images")).authenticate 1704067200
          (expiringHeaders.lookup "authorization")
        = .ok "alice" := by
    decide +kernel
  have unknown
      : (make "test-secret" (some "images")).authenticate 1704067201
          (expiringHeaders.lookup "authorization")
        = .error (.unauthorized "AUTH_TOKEN_EXPIRED" "JWT token has expired") := by
    decide +kernel
  obtain ⟨accepts, -, -⟩ :=
    authenticate_iff "test-secret" (some "images") 1704067200 expiringHeaders (by decide)
  obtain ⟨-, rejects, -⟩ :=
    authenticate_iff "test-secret" (some "images") 1704067201 expiringHeaders (by decide)
  obtain ⟨code, detail, ⟨⟩, -, refused⟩ := rejects _ unknown
  exact ⟨by decide, (accepts "alice").mp known, by decide, refused⟩

/-- A token whose header is `{"alg":"HS256","typ":5}`, with the claims `{"sub":"u"}`. -/
def oddlyTyped : Parts where
  header := "eyJhbGciOiJIUzI1NiIsInR5cCI6NX0".toList
  claims := "eyJzdWIiOiJ1In0".toList
  signature := "FBmgQKQmDgBdEAHBnNpOAnQhrEJTPK_IgYbQMC4_Ek4".toList

def oddToken : List Char :=
  oddlyTyped.header ++ '.' :: oddlyTyped.claims ++ '.' :: oddlyTyped.signature

def oddHeaders : Http.Headers :=
  [("authorization", Utf8.encode (String.ofList ("Bearer ".toList ++ oddToken)))]

/-- The text that an object holds as its algorithm, whatever else it holds. -/
def statedAlgorithm? : Json.Value → Option String
  | .object raw => do
      let fields ← Json.fieldsByName? Json.RawText.textOfBytes? raw
      (← Json.unique? "alg" fields).bind text?
  | _ => none

/-- These headers present that token, character by character. -/
theorem oddHeaders_present : Presents oddHeaders oddToken := by
  refine ⟨by decide +kernel, _, oddToken, ⟨[], [], rfl, nofun⟩, ?_, ?_, ?_⟩
  · unfold IsPlain
    decide +kernel
  · exact ⟨"Bearer".toList, by decide +kernel, by decide +kernel, by decide +kernel⟩
  · exact trim_eq_iff.mp (by decide +kernel)

/-- A header is looked at for more than its algorithm: a token is refused whose type is no text,
though its header states HS256, its signature is right and its claims name a subject.
-/
theorem oddlyTyped_refused
    : Presents oddHeaders oddToken
      ∧ split? oddToken = some oddlyTyped
      ∧ (∃ header, Encodes oddlyTyped.header header ∧ statedAlgorithm? header = some "HS256")
      ∧ oddlyTyped.signature
        = sign (Utf8.encode "test-secret") (oddlyTyped.header ++ '.' :: oddlyTyped.claims)
      ∧ (∃ body, Encodes oddlyTyped.claims body ∧ claims? body = some ⟨"u", .unspecified, none⟩)
      ∧ (make "test-secret" none).authenticate 60 (oddHeaders.lookup "authorization")
        = .error (.unauthorized "AUTH_INVALID_TOKEN" "JWT validation failed: JSON error") := by
  have header
      : ((Base64Url.decode? oddlyTyped.header).bind document?).bind statedAlgorithm?
        = some "HS256" := by
    decide +kernel
  have body
      : ((Base64Url.decode? oddlyTyped.claims).bind document?).bind claims?
        = some ⟨"u", .unspecified, none⟩ := by
    decide +kernel
  obtain ⟨headerValue, headerRead, states⟩ := Option.bind_eq_some_iff.mp header
  obtain ⟨bodyValue, bodyRead, claims⟩ := Option.bind_eq_some_iff.mp body
  exact ⟨oddHeaders_present, by decide +kernel,
    ⟨headerValue, Option.bind_eq_some_iff.mp headerRead, states⟩, by decide +kernel,
    ⟨bodyValue, Option.bind_eq_some_iff.mp bodyRead, claims⟩, by decide +kernel⟩

end ImageVerification.Authority
