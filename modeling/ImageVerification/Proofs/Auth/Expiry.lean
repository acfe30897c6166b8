import ImageVerification.Proofs.Auth.Bearer

/-! What an expiry does to a token that is in order otherwise.

It has to be reached at most a leeway ago if it is a number of seconds. One of another kind, a
negative number among them, counts as none.
-/

namespace ImageVerification

open Encoding Json Token

namespace Token

/-- Members other than those of a name. -/
def without (name : String) (fields : List (String × Value)) : List (String × Value) :=
  fields.filter fun field => field.1 != name

/-- To take one claim out leaves the others as they are. -/
theorem member_without_iff {name other : String} {fields : List (String × Value)}
    {found : Option Value} (different : other ≠ name)
    : Member other (without name fields) found ↔ Member other fields found := by
  have kept (field : String × Value)
      : (field.1 == other && field.1 != name) = (field.1 == other) := by
    by_cases same : field.1 = other
    · simp [same, different]
    · simp [same]
  simp only [Member, without, List.filter_filter, kept]

/-- A member that is there once is one that is there. -/
theorem Member.exists_iff {name : String} {fields : List (String × Value)} {found : Option Value}
    (member : Member name fields found)
    : (∃ value, found = some value) ↔ name ∈ fields.map Prod.fst := by
  have absent : found = none ↔ name ∉ fields.map Prod.fst := by
    rw [← Option.toList_eq_nil_iff, ← member, List.map_eq_nil_iff, List.filter_eq_nil_iff]
    simp only [beq_iff_eq, List.mem_map, not_exists, not_and]
  rw [← Option.ne_none_iff_exists', ne_eq, absent, not_not]

/-- A claim that is taken out is there no more. -/
theorem member_without_self (name : String) (fields : List (String × Value))
    : Member name (without name fields) none := by
  simp [Member, without, List.filter_filter]

variable {fields : List (String × Value)} {value : Value} {subject : String} {meant : Audience}
  {expiry : Option Nat}

/-- What claims declare besides their expiry is declared without it. -/
theorem Declares.without (declares : Declares fields ⟨subject, meant, expiry⟩)
    : Declares (without "exp" fields) ⟨subject, meant, none⟩ := by
  obtain ⟨⟨sub, hasSub, isSubject⟩, ⟨aud, hasAud, isAudience⟩, ⟨iss, hasIss, passed⟩,
    ⟨nbf, beginning, hasNbf, begins⟩, -⟩ := declares
  exact ⟨⟨sub, (member_without_iff (by decide)).mpr hasSub, isSubject⟩,
    ⟨aud, (member_without_iff (by decide)).mpr hasAud, isAudience⟩,
    ⟨iss, (member_without_iff (by decide)).mpr hasIss, passed⟩,
    ⟨nbf, beginning, (member_without_iff (by decide)).mpr hasNbf, begins⟩,
    none, member_without_self "exp" fields, .absent⟩

/-- Claims that declare no expiry declare the one that is put back. -/
theorem Declares.expiring (declares : Declares (Token.without "exp" fields) ⟨subject, meant, none⟩)
    (expires : Member "exp" fields (some value)) (instant : InstantOf (some value) expiry)
    : Declares fields ⟨subject, meant, expiry⟩ := by
  obtain ⟨⟨sub, hasSub, isSubject⟩, ⟨aud, hasAud, isAudience⟩, ⟨iss, hasIss, passed⟩,
    ⟨nbf, beginning, hasNbf, begins⟩, -⟩ := declares
  exact ⟨⟨sub, (member_without_iff (by decide)).mp hasSub, isSubject⟩,
    ⟨aud, (member_without_iff (by decide)).mp hasAud, isAudience⟩,
    ⟨iss, (member_without_iff (by decide)).mp hasIss, passed⟩,
    ⟨nbf, beginning, (member_without_iff (by decide)).mp hasNbf, begins⟩, _, expires, instant⟩

/-- An expiry that is a number of seconds and not further back than the leeway. -/
def Live (now : Nat) (value : Value) : Prop :=
  ∃ literal n, value = .number literal ∧ ReadsSeconds literal n ∧ now ≤ n + leeway

/-- A negative number is an expiry that is ignored: it is no count of seconds, yet a number that is
passed over.
-/
theorem ignored_of_negative {literal : Literal} {n : Nat}
    (number : Number.ofLiteral? literal = some (.negative n))
    : Ignored (.number literal) := by
  refine .number ?_ (by simp [isNumberPassed, number])
  intro m reads
  have read := seconds?_eq_some_iff.mpr reads
  simp [seconds?, number] at read

/-- Claims with an expiry hold now exactly when the rest of them is declared and the expiry is live
or ignored; by cases on what the expiry is read as.
-/
theorem current_iff (now : Nat) (expires : Member "exp" fields (some value))
    : (∃ expiry,
          Declares fields ⟨subject, meant, expiry⟩
          ∧ Authority.Current now ⟨subject, meant, expiry⟩)
      ↔ Declares (without "exp" fields) ⟨subject, meant, none⟩
        ∧ (Live now value ∨ Ignored value) := by
  constructor
  · rintro ⟨expiry, declares, current⟩
    refine ⟨declares.without, ?_⟩
    obtain ⟨found, member, instant⟩ := declares.expiry
    obtain rfl := member.unique expires
    cases instant with
    | given reads => exact .inl ⟨_, _, rfl, reads, current _ rfl⟩
    | ignored ignored => exact .inr ignored
  · rintro ⟨declares, ⟨literal, n, rfl, reads, current⟩ | ignored⟩
    · refine ⟨some n, declares.expiring expires (.given reads), ?_⟩
      rintro _ ⟨⟩
      exact current
    · exact ⟨none, declares.expiring expires (.ignored ignored), nofun⟩

end Token

namespace Authority

/-- A signed token that has an expiry is accepted if it were accepted without one, and there is one
expiry that either has not passed or is not understood.
-/
theorem expiring_accepted_iff {secret : String} {token : List Char}
    {fields : List (String × Value)} (carries : Carries (Utf8.encode secret) token fields)
    (expires : "exp" ∈ fields.map Prod.fst) (audience : Option String) (now : Nat)
    (late : 60 ≤ now) (userId : String)
    : (make secret audience).subject now token = .ok userId
      ↔ userId ≠ ""
        ∧ (∃ meant,
            Declares (without "exp" fields) ⟨userId, meant, none⟩
            ∧ Addressed audience ⟨userId, meant, none⟩)
        ∧ ∃ value, Member "exp" fields (some value) ∧ (Live now value ∨ Ignored value) := by
  rw [subject_eq_ok_iff late]
  constructor
  · rintro ⟨⟨_, meant, expiry⟩, ⟨others, again, declares⟩, current, addressed, rfl, named⟩
    obtain rfl := carries.unique again
    obtain ⟨found, member, -⟩ := declares.expiry
    obtain ⟨value, rfl⟩ := member.exists_iff.mpr expires
    obtain ⟨declares, either⟩ := (current_iff now member).mp ⟨expiry, declares, current⟩
    exact ⟨named, ⟨meant, declares, addressed⟩, value, member, either⟩
  · rintro ⟨named, ⟨meant, declares, addressed⟩, value, member, either⟩
    obtain ⟨expiry, declares, current⟩ := (current_iff now member).mpr ⟨declares, either⟩
    exact ⟨_, ⟨fields, carries, declares⟩, current, addressed, rfl, named⟩

/-- A token with the claims `{"sub":"u","exp":-5}`. -/
def longExpired : Parts where
  header := "eyJ0eXAiOiJKV1QiLCJhbGciOiJIUzI1NiJ9".toList
  claims := "eyJzdWIiOiJ1IiwiZXhwIjotNX0".toList
  signature := "ET2jmHJHCKEFubdLf9O7NS4Ft6vcsLz4ZeAbP-zEU3I".toList

def longExpiredToken : List Char :=
  longExpired.header ++ '.' :: longExpired.claims ++ '.' :: longExpired.signature

/-- The number that an object holds as its expiry. -/
def expiryNumber? : Value → Option Number
  | .object raw => do
      let fields ← fieldsByName? RawText.textOfBytes? raw
      match ← unique? "exp" fields with
      | some (.number literal) => Number.ofLiteral? literal
      | _ => none
  | _ => none

/-- The token that expired long ago is signed with the secret of the tests. -/
theorem longExpired_signed : Signed (Utf8.encode "test-secret") longExpiredToken longExpired := by
  have header
      : ((Base64Url.decode? longExpired.header).bind document?).bind headerAlgorithm?
        = some "HS256" := by
    decide +kernel
  obtain ⟨value, decoded, named⟩ := Option.bind_eq_some_iff.mp header
  have opened := decodePart_eq_ok_iff.mpr (Option.bind_eq_some_iff.mp decoded)
  exact signed_of_split (by decide +kernel) opened named (by decide +kernel)

/-- A token that expired before 1970 is accepted. -/
theorem longExpired_accepted
    : ∃ fields literal,
        Carries (Utf8.encode "test-secret") longExpiredToken fields
        ∧ Member "exp" fields (some (.number literal))
        ∧ Number.ofLiteral? literal = some (.negative 5)
        ∧ (make "test-secret" none).subject 1704067200 longExpiredToken = .ok "u" := by
  -- Only the claims are computed; the general theorem does the rest.
  have body
      : ((Base64Url.decode? longExpired.claims).bind document?).bind claims?
        = some ⟨"u", .unspecified, none⟩ := by
    decide +kernel
  have expiry
      : ((Base64Url.decode? longExpired.claims).bind document?).bind expiryNumber?
        = some (.negative 5) := by
    decide +kernel
  obtain ⟨value, decoded, understood⟩ := Option.bind_eq_some_iff.mp body
  obtain ⟨raw, fields, rfl, read, declares⟩ := claims?_eq_some_iff.mp understood
  rw [decoded] at expiry
  simp only [Option.bind_some, expiryNumber?, read, Option.bind_eq_bind, Option.bind_eq_some_iff,
    unique?_eq_some_iff] at expiry
  obtain ⟨found, member, number⟩ := expiry
  split at number
  · next literal =>
      have carries : Carries (Utf8.encode "test-secret") longExpiredToken fields :=
        ⟨longExpired, raw, longExpired_signed, Option.bind_eq_some_iff.mp decoded, read⟩
      refine ⟨fields, literal, carries, member, number, ?_⟩
      have expires := member.exists_iff.mp ⟨_, rfl⟩
      exact (expiring_accepted_iff carries expires none 1704067200 (by decide) "u").mpr
        ⟨by decide, ⟨.unspecified, declares.without, nofun⟩, _, member,
          .inr (ignored_of_negative number)⟩
  · cases number

end Authority

end ImageVerification
