import Mathlib.Data.List.TakeWhile
import ImageVerification.Proofs.Auth.Claims
import ImageVerification.Proofs.Json.Literal

/-! Tokens that are signed with a secret: three parts, none of which has a dot, and the last of them
the signature of the other two.
-/

namespace ImageVerification.Token

open Encoding Json

theorem bne_of_not_mem {mark : Char} {cs : List Char} (free : mark ∉ cs)
    : ∀ c ∈ cs, (c != mark) = true := by
  intro c member
  rw [bne_iff_ne]
  rintro rfl
  exact free member

/-- A text is cut at its last dot, found as the first one of the text turned around. -/
theorem splitLast_append (front : List Char) {back : List Char} (dotless : '.' ∉ back)
    : splitLast (front ++ '.' :: back) = some (front, back) := by
  have turned : (front ++ '.' :: back).reverse = back.reverse ++ '.' :: front.reverse := by simp
  have others := bne_of_not_mem (mt List.mem_reverse.mp dotless)
  rw [splitLast, turned, takeWhile_append_mark (p := (· != '.')) rfl,
    dropWhile_append_mark (p := (· != '.')) rfl, List.dropWhile_eq_nil_iff.mpr others,
    List.takeWhile_eq_self_iff.mpr others]
  simp

/-- The cut at the last dot, as an equivalence: what is behind it has none. -/
theorem splitLast_eq_some_iff {cs front back : List Char}
    : splitLast cs = some (front, back) ↔ cs = front ++ '.' :: back ∧ '.' ∉ back := by
  constructor
  · intro cut
    by_cases dot : '.' ∈ cs
    · obtain ⟨back', front', turned, dotless⟩ :=
        List.eq_append_cons_of_mem (List.mem_reverse.mpr dot)
      have joined : cs = front'.reverse ++ '.' :: back'.reverse := by
        rw [← List.reverse_reverse cs, turned]
        simp
      rw [joined, splitLast_append _ (by simpa using dotless)] at cut
      obtain ⟨rfl, rfl⟩ := Prod.mk.inj (Option.some.inj cut)
      exact ⟨joined, by simpa using dotless⟩
    · have others := bne_of_not_mem (mt List.mem_reverse.mp dot)
      rw [splitLast, List.dropWhile_eq_nil_iff.mpr others] at cut
      cases cut
  · rintro ⟨rfl, dotless⟩
    exact splitLast_append front dotless

/-- A token in three parts, as an equivalence: only the header may hold further dots. -/
theorem split?_eq_some_iff {token : List Char} {parts : Parts}
    : split? token = some parts
      ↔ token = parts.header ++ '.' :: parts.claims ++ '.' :: parts.signature
        ∧ '.' ∉ parts.claims
        ∧ '.' ∉ parts.signature := by
  obtain ⟨header, claims, signature⟩ := parts
  simp only [split?, Option.bind_eq_bind, Option.bind_eq_some_iff, Prod.exists,
    splitLast_eq_some_iff, Option.pure_def, Option.some.injEq, Parts.mk.injEq]
  constructor
  · rintro ⟨message, _, ⟨rfl, signatureDotless⟩, _, _, ⟨rfl, claimsDotless⟩, rfl, rfl, rfl⟩
    exact ⟨rfl, claimsDotless, signatureDotless⟩
  · rintro ⟨rfl, claimsDotless, signatureDotless⟩
    exact ⟨_, _, ⟨rfl, signatureDotless⟩, _, _, ⟨rfl, claimsDotless⟩, rfl, rfl, rfl⟩

/-- A part of a token is the base 64 of a document. -/
def Encodes (part : List Char) (value : Value) : Prop :=
  ∃ bytes, Base64Url.decode? part = some bytes ∧ document? bytes = some value

/-- A part is decoded exactly when it encodes the value. -/
theorem decodePart_eq_ok_iff {part : List Char} {value : Value}
    : decodePart part = .ok value ↔ Encodes part value := by
  unfold decodePart Encodes
  cases Base64Url.decode? part with
  | none => simp
  | some bytes => cases found : document? bytes <;> simp [found]

/-- A part encodes one value at most. -/
theorem Encodes.unique {part : List Char} {value other : Value} (encodes : Encodes part value)
    (again : Encodes part other)
    : value = other :=
  Except.ok.inj ((decodePart_eq_ok_iff.mpr encodes).symm.trans (decodePart_eq_ok_iff.mpr again))

theorem exists_of_mem_forall₂ {α β : Type} {R : α → β → Prop} {xs : List α} {ys : List β} {x : α}
    (related : List.Forall₂ R xs ys) (member : x ∈ xs)
    : ∃ y, R x y := by
  induction related with
  | nil => cases member
  | cons first _ ih =>
      rcases List.mem_cons.mp member with rfl | later
      · exact ⟨_, first⟩
      · exact ih later

/-- The alphabet has no dot. -/
theorem Encodes.dotless {part : List Char} {value : Value} (encodes : Encodes part value)
    : '.' ∉ part := by
  obtain ⟨bytes, decoded, -⟩ := encodes
  obtain ⟨digits, read, -⟩ := Option.bind_eq_some_iff.mp decoded
  intro dot
  obtain ⟨value, found⟩ := exists_of_mem_forall₂ (mapM_eq_some_iff.mp read) dot
  cases found

/-- A token in its three parts: a header that names the algorithm HS256, claims, and the signature
of both under a secret.
-/
structure Signed (secret : Bytes) (token : List Char) (parts : Parts) : Prop where
  joined : token = parts.header ++ '.' :: parts.claims ++ '.' :: parts.signature
  dotless : ∀ part ∈ [parts.header, parts.claims, parts.signature], '.' ∉ part
  named : ∃ header, Encodes parts.header header ∧ Names "HS256" header
  signature :
    parts.signature
    = Base64Url.encode
        (Hash.Sha256.keyed secret
          (Utf8.encode (String.ofList (parts.header ++ '.' :: parts.claims))))

/-- A signed token whose claims are an object with these members. -/
def Carries (secret : Bytes) (token : List Char) (fields : List (String × Value)) : Prop :=
  ∃ parts raw,
    Signed secret token parts
    ∧ Encodes parts.claims (.object raw)
    ∧ fieldsByName? RawText.textOfBytes? raw = some fields

/-- A signed token whose claims are understood. -/
def Authentic (secret : Bytes) (token : List Char) (claims : Claims) : Prop :=
  ∃ fields, Carries secret token fields ∧ Declares fields claims

variable {secret : Bytes} {token : List Char} {claims : Claims}

/-- A signed token is cut into its own parts. -/
theorem Signed.split? {parts : Parts} (signed : Signed secret token parts)
    : Token.split? token = some parts :=
  split?_eq_some_iff.mpr ⟨signed.joined, signed.dotless _ (by simp), signed.dotless _ (by simp)⟩

/-- A token carries one set of members. -/
theorem Carries.unique {fields others : List (String × Value)}
    (carries : Carries secret token fields) (again : Carries secret token others)
    : fields = others := by
  obtain ⟨parts, raw, signed, encodes, read⟩ := carries
  obtain ⟨parts', raw', signed', encodes', read'⟩ := again
  obtain rfl := Option.some.inj (signed.split?.symm.trans signed'.split?)
  obtain ⟨⟩ := encodes.unique encodes'
  exact Option.some.inj (read.symm.trans read')

/-- A part that cannot be decoded is not a token that has expired. -/
theorem decodePart_error {part : List Char} {fault : Fault}
    (failed : decodePart part = .error fault)
    : fault ≠ .expired := by
  unfold decodePart at failed
  split at failed
  · cases failed
    exact nofun
  · split at failed <;> cases failed
    exact nofun

/-- Of a signed token, the claims are left to read. -/
theorem verify_of_signed {parts : Parts} (signed : Signed secret token parts) (now : Nat)
    : verify secret now token
      = match decodePart parts.claims with
        | .error fault => .error fault
        | .ok body =>
            match claims? body with
            | none => .error .json
            | some claims =>
                if claims.expiry.any (· < earliestExpiry now) then .error .expired
                else .ok claims := by
  obtain ⟨header, encodes, names⟩ := signed.named
  have matching
      : (parts.signature != sign secret (parts.header ++ '.' :: parts.claims)) = false := by
    simpa [sign] using signed.signature
  simp only [verify, signed.split?, decodePart_eq_ok_iff.mpr encodes, bind, Except.bind,
    headerAlgorithm?_eq_some_iff.mpr names, bne_self_eq_false, Bool.false_eq_true, if_false,
    matching]
  cases decodePart parts.claims with
  | error fault => rfl
  | ok body => cases understood : claims? body <;> simp only [understood]

/-- A token that is cut into parts, with its header opened and its signature computed anew, is
signed.
-/
theorem signed_of_split {parts : Parts} {header : Value} (cut : split? token = some parts)
    (opened : decodePart parts.header = .ok header)
    (named : headerAlgorithm? header = some "HS256")
    (same : parts.signature = sign secret (parts.header ++ '.' :: parts.claims))
    : Signed secret token parts := by
  obtain ⟨joined, claimsDotless, signatureDotless⟩ := split?_eq_some_iff.mp cut
  have encodes := decodePart_eq_ok_iff.mp opened
  refine ⟨joined, ?_, ⟨header, encodes, headerAlgorithm?_eq_some_iff.mp named⟩, same⟩
  simp [encodes.dotless, claimsDotless, signatureDotless]

/-- Of a token that is not signed, something is wrong besides its expiry. -/
theorem verify_of_not_signed (unsigned : ∀ parts, ¬ Signed secret token parts) (now : Nat)
    : ∃ fault, verify secret now token = .error fault ∧ fault ≠ .expired := by
  cases cut : split? token with
  | none => exact ⟨.malformed, by simp only [verify, cut], nofun⟩
  | some parts =>
      cases opened : decodePart parts.header with
      | error fault =>
          refine ⟨fault, ?_, decodePart_error opened⟩
          simp only [verify, cut, opened, bind, Except.bind]
      | ok header =>
          cases named : headerAlgorithm? header with
          | none =>
              refine ⟨.json, ?_, nofun⟩
              simp only [verify, cut, opened, bind, Except.bind, named]
          | some algorithm =>
              by_cases keyed : algorithm = "HS256"
              · obtain rfl := keyed
                have mismatch
                    : (parts.signature != sign secret (parts.header ++ '.' :: parts.claims))
                      = true := by
                  rw [bne_iff_ne]
                  exact fun same => unsigned parts (signed_of_split cut opened named same)
                refine ⟨.wrongSignature, ?_, nofun⟩
                simp only [verify, cut, opened, bind, Except.bind, named, bne_self_eq_false,
                  Bool.false_eq_true, if_false, mismatch, if_true]
              · refine ⟨.wrongAlgorithm, ?_, nofun⟩
                simp only [verify, cut, opened, bind, Except.bind, named,
                  bne_iff_ne.mpr keyed, if_true]

/-- Of an authentic token, only its expiry is left to check. -/
theorem verify_of_authentic (authentic : Authentic secret token claims) (now : Nat)
    : verify secret now token
      = if claims.expiry.any (· < earliestExpiry now) then .error .expired else .ok claims := by
  obtain ⟨fields, ⟨parts, raw, signed, encodes, read⟩, declares⟩ := authentic
  have understood : claims? (.object raw) = some claims :=
    claims?_eq_some_iff.mpr ⟨raw, fields, rfl, read, declares⟩
  rw [verify_of_signed signed]
  simp only [decodePart_eq_ok_iff.mpr encodes, understood]

/-- Of any other token, something is wrong besides its expiry. -/
theorem verify_of_not_authentic (unauthentic : ∀ claims, ¬ Authentic secret token claims)
    (now : Nat)
    : ∃ fault, verify secret now token = .error fault ∧ fault ≠ .expired := by
  by_cases signed : ∃ parts, Signed secret token parts
  · obtain ⟨parts, signed⟩ := signed
    rw [verify_of_signed signed]
    cases opened : decodePart parts.claims with
    | error fault => exact ⟨fault, rfl, decodePart_error opened⟩
    | ok body =>
        cases understood : claims? body with
        | none => exact ⟨.json, by simp only [understood], nofun⟩
        | some claims =>
            obtain ⟨raw, fields, rfl, read, declares⟩ := claims?_eq_some_iff.mp understood
            have encodes := decodePart_eq_ok_iff.mp opened
            exact absurd ⟨fields, ⟨parts, raw, signed, encodes, read⟩, declares⟩
              (unauthentic claims)
  · exact verify_of_not_signed (not_exists.mp signed) now

end ImageVerification.Token
