import Mathlib.Data.List.Forall2
import Mathlib.Tactic.Ring
import ImageVerification.Auth.Token

/-! What the header and the claims of a token have to say to be understood.

Members are looked up by name, and none that is looked at may occur twice. A point in time is a
number, and one of another kind counts as absent if it can be read past.
-/

namespace ImageVerification.Token

open Json

/-- What an object holds under a name, if anything; there is no second member of the name. -/
def Member (name : String) (fields : List (String × Value)) (found : Option Value) : Prop :=
  (fields.filter fun field => field.1 == name).map Prod.snd = found.toList

/-- A member is found if it is there once, and found to be absent if it is not there; by cases on
how often its name occurs.
-/
theorem unique?_eq_some_iff {name : String} {fields : List (String × Value)}
    {found : Option Value}
    : unique? name fields = some found ↔ Member name fields found := by
  unfold unique? Member
  generalize fields.filter (fun field => field.1 == name) = held
  match held, found with
  | [], none | [], some _ | [_], none | [_], some _ | _ :: _ :: _, none | _ :: _ :: _, some _ =>
      simp

/-- Of a name there is one thing to be found. -/
theorem Member.unique {name : String} {fields : List (String × Value)} {found other : Option Value}
    (member : Member name fields found) (again : Member name fields other)
    : found = other := by
  simpa using congrArg List.head? (member.symm.trans again)

/-- The names of an algorithm, in a header as an object or as a list in the fixed order. -/
inductive Names (algorithm : String) : Value → Prop where
  | members {raw : List (RawText × Value)} {fields : List (String × Value)} {named : Value}
      (read : fieldsByName? RawText.textOfBytes? raw = some fields)
      (member : Member "alg" fields (some named))
      (choice : choice? algorithms named = some algorithm)
      (others : ∀ other ∈ headerFields, ∃ found,
        Member other.1 fields found ∧ ∀ value ∈ found, other.2 value = true)
      : Names algorithm (.object raw)
  | listed {kind named : Value} {rest : List Value}
      (choice : choice? algorithms named = some algorithm)
      (others : List.Forall₂ (fun field value => field.2 value = true) headerFields (kind :: rest))
      : Names algorithm (.array (kind :: named :: rest))

/-- Members are allowed if none of them occurs twice and each has a value of its kind, or none. -/
theorem allow_eq_true_iff {members : List (String × (Value → Bool))}
    {fields : List (String × Value)}
    : allow members fields = true
      ↔ ∀ member ∈ members, ∃ found,
          Member member.1 fields found ∧ ∀ value ∈ found, member.2 value = true := by
  simp only [allow, List.all_eq_true, Option.any_eq_true, unique?_eq_some_iff,
    Option.all_eq_true, Option.mem_def]

/-- A list spells a header if it has as many entries as a header has fields, and each is of the kind
of its field.
-/
theorem listed_iff {kind : Value} {rest : List Value}
    : (isTextOrNull kind && rest.length == (headerFields.drop 1).length
          && ((headerFields.drop 1).zip rest).all fun (field, value) => field.2 value) = true
      ↔ List.Forall₂ (fun field value => field.2 value = true) headerFields (kind :: rest) := by
  have typ : headerFields = ("typ", isTextOrNull) :: headerFields.drop 1 := rfl
  rw [typ, List.forall₂_cons, List.forall₂_iff_zip, List.drop_succ_cons, List.drop_zero]
  simp only [Bool.and_eq_true, beq_iff_eq, List.all_eq_true, Prod.forall, and_assoc,
    eq_comm (a := rest.length)]

/-- An algorithm is read of a header exactly if the header names it, as an object by its members or
as a list by their order.
-/
theorem headerAlgorithm?_eq_some_iff {header : Value} {algorithm : String}
    : headerAlgorithm? header = some algorithm ↔ Names algorithm header := by
  match header with
  | .object raw =>
      simp only [headerAlgorithm?, Option.bind_eq_bind, Option.bind_eq_some_iff,
        Option.ite_none_right_eq_some, Option.some.injEq, unique?_eq_some_iff, allow_eq_true_iff]
      constructor
      · rintro ⟨fields, read, found, member, chosen, ⟨value, rfl, choice⟩, others, rfl⟩
        exact .members read member choice others
      · rintro (⟨read, member, choice, others⟩)
        exact ⟨_, read, _, member, algorithm, ⟨_, rfl, choice⟩, others, rfl⟩
  | .array (kind :: value :: rest) =>
      simp only [headerAlgorithm?, Option.ite_none_right_eq_some, listed_iff]
      constructor
      · rintro ⟨others, choice⟩
        exact .listed choice others
      · rintro (_ | ⟨choice, others⟩)
        exact ⟨others, choice⟩
  | .null | .bool _ | .number _ | .text _ | .array [] | .array [_] =>
      constructor <;> (intro named; cases named)

/-- All of a list can be read exactly if each of its entries can, by induction on the list. -/
theorem mapM_eq_some_iff {α β : Type} {f : α → Option β} {xs : List α} {ys : List β}
    : xs.mapM f = some ys ↔ List.Forall₂ (fun x y => f x = some y) xs ys := by
  induction xs generalizing ys with
  | nil =>
      rw [List.mapM_nil, List.forall₂_nil_left_iff]
      exact ⟨fun same => (Option.some.inj same).symm, fun same => congrArg some same.symm⟩
  | cons x xs ih =>
      simp only [List.mapM_cons, Option.bind_eq_bind, Option.bind_eq_some_iff, Option.pure_def,
        Option.some.injEq, List.forall₂_cons_left_iff, ih]
      constructor
      · rintro ⟨y, first, ys, rest, rfl⟩
        exact ⟨y, ys, first, rest, rfl⟩
      · rintro ⟨y, ys, first, rest, rfl⟩
        exact ⟨y, first, ys, rest, rfl⟩

/-- Who a token is about; without the claim, it is nobody. -/
inductive SubjectOf : Option Value → String → Prop where
  | absent : SubjectOf none ""
  | given {raw : RawText} {subject : String} (reads : raw.textOfBytes? = some subject)
      : SubjectOf (some (.text raw)) subject

/-- The subject is read off a text, or is empty if there is none; any other value is refused. -/
theorem subject?_eq_some_iff {found : Option Value} {subject : String}
    : subject? found = some subject ↔ SubjectOf found subject := by
  constructor
  · intro reads
    match found with
    | none => cases reads; exact .absent
    | some (.text raw) => exact .given reads
    | some .null | some (.bool _) | some (.number _) | some (.array _) | some (.object _) =>
        cases reads
  · rintro (_ | reads)
    · rfl
    · exact reads

/-- Whom a token is meant for; null is as good as nothing. -/
inductive AudienceOf : Option Value → Audience → Prop where
  | absent : AudienceOf none .unspecified
  | null : AudienceOf (some .null) .unspecified
  | one {raw : RawText} {name : String} (reads : raw.textOfBytes? = some name)
      : AudienceOf (some (.text raw)) (.one name)
  | many {items : List Value} {names : List String}
      (read : List.Forall₂ (fun item name => text? item = some name) items names)
      : AudienceOf (some (.array items)) (.many names)

/-- The audience is read off a text or a list of texts, or is nobody in particular if there is none;
any other value is refused.
-/
theorem audience?_eq_some_iff {found : Option Value} {audience : Audience}
    : audience? found = some audience ↔ AudienceOf found audience := by
  constructor
  · intro reads
    match found with
    | none => cases reads; exact .absent
    | some .null => cases reads; exact .null
    | some (.text raw) =>
        obtain ⟨name, resolved, rfl⟩ := Option.map_eq_some_iff.mp reads
        exact .one resolved
    | some (.array items) =>
        obtain ⟨names, resolved, rfl⟩ := Option.map_eq_some_iff.mp reads
        exact .many (mapM_eq_some_iff.mp resolved)
    | some (.bool _) | some (.number _) | some (.object _) => cases reads
  · intro meant
    cases meant with
    | absent | null => rfl
    | one reads => exact Option.map_eq_some_iff.mpr ⟨_, reads, rfl⟩
    | many read => exact Option.map_eq_some_iff.mpr ⟨_, mapM_eq_some_iff.mpr read, rfl⟩

/-- A second, in the least positive numbers of 64 bits. -/
def second : Int := (Nat.pow 2 Binary.Format.double.unitExponent : Nat)

theorem second_pos : 0 < second := by
  unfold second
  generalize Binary.Format.double.unitExponent = places
  exact Int.natCast_pos.mpr (Nat.pow_pos Nat.zero_lt_two)

/-- A number that is read as so many seconds: a whole one of 64 bits, or any other below the same
limit that is not negative, rounded to the nearest, a half upwards.
-/
inductive ReadsSeconds : Literal → Nat → Prop where
  | whole {literal : Literal} {n : Nat} (number : Number.ofLiteral? literal = some (.natural n))
      : ReadsSeconds literal n
  | rounded {literal : Literal} {x : Binary64} {negative : Bool} {significand scale n : Nat}
      (number : Number.ofLiteral? literal = some (.float x))
      (finite : x.value = .finite negative significand scale)
      (atLeast : 0 ≤ Binary.Value.units negative significand scale)
      (below : Binary.Value.units negative significand scale < Word.limit64 * second)
      (notBefore : (2 * n - 1) * second ≤ 2 * Binary.Value.units negative significand scale)
      (notAfter : 2 * Binary.Value.units negative significand scale < (2 * n + 1) * second)
      : ReadsSeconds literal n

/-- To divide with half the unit on top is to round to the nearest whole number, a half upwards. -/
theorem nearest_iff {unit numerator n : Nat} (positive : 0 < unit)
    : (2 * numerator + unit) / (2 * unit) = n
      ↔ ((2 * n - 1 : Int) * unit ≤ 2 * numerator
        ∧ (2 * numerator : Int) < (2 * n + 1) * unit) := by
  have least : (2 * n - 1 : Int) * unit = 2 * (n * unit : Nat) - unit := by push_cast; ring
  have greatest : (2 * n + 1 : Int) * unit = 2 * (n * unit : Nat) + unit := by push_cast; ring
  have whole : n * (2 * unit) = 2 * (n * unit) := by ring
  rw [Nat.div_eq_iff (by omega), least, greatest, whole]
  omega

/-- In units, a number is its significand times its scale, with its sign. -/
theorem units_eq (negative : Bool) (significand scale : Nat)
    : Binary.Value.units negative significand scale
      = if negative then -((significand * Nat.pow 2 scale : Nat) : Int)
        else (significand * Nat.pow 2 scale : Nat) := by
  rw [Nat.cast_mul]
  rfl

/-- A number with a fraction is read as the nearest number of seconds that fits 64 bits, if it is
not negative. Witness: everything is counted in the smallest units of the format, in which all
numbers are whole.
-/
theorem seconds?_of_finite {literal : Literal} {x : Binary64} {negative : Bool}
    {significand scale n : Nat}
    (number : Number.ofLiteral? literal = some (.float x))
    (finite : x.value = .finite negative significand scale)
    : seconds? literal = some n
      ↔ 0 ≤ Binary.Value.units negative significand scale
        ∧ Binary.Value.units negative significand scale < Word.limit64 * second
        ∧ (2 * n - 1) * second ≤ 2 * Binary.Value.units negative significand scale
        ∧ 2 * Binary.Value.units negative significand scale < (2 * n + 1) * second := by
  have width : 0 < Nat.pow 2 Binary.Format.double.unitExponent := Int.natCast_pos.mp second_pos
  have scaled : 0 < Nat.pow 2 scale := Nat.pow_pos Nat.zero_lt_two
  simp only [seconds?, number, finite, units_eq, second]
  generalize Nat.pow 2 Binary.Format.double.unitExponent = unit at width ⊢
  generalize Nat.pow 2 scale = power at scaled ⊢
  rw [Option.ite_none_left_eq_some, Option.some.injEq, nearest_iff width]
  by_cases below : negative = true ∧ significand ≠ 0
  · -- A number below zero is not read, and neither are its units at least zero.
    obtain ⟨rfl, nonzero⟩ := below
    have positive : 0 < significand * power := Nat.mul_pos (Nat.pos_of_ne_zero nonzero) scaled
    have refused : (true && significand != 0) = true := by simp [nonzero]
    simp only [refused, Bool.true_or, not_true_eq_false, false_and, if_pos, false_iff]
    omega
  · have allowed : (negative && significand != 0) = false := by simpa using below
    have magnitude
        : (if negative then -((significand * power : Nat) : Int) else (significand * power : Nat))
          = (significand * power : Nat) := by
      split
      · have zero : significand = 0 := by simpa [*] using below
        simp [zero]
      · rfl
    have small
        : ¬ (decide (significand * power ≥ Word.limit64 * unit)) = true
          ↔ ((significand * power : Nat) : Int) < Word.limit64 * unit := by
      rw [decide_eq_true_eq, Nat.not_le]
      exact_mod_cast Iff.rfl
    rw [allowed, Bool.false_or, magnitude, small]
    exact ⟨fun both => ⟨Int.natCast_nonneg _, both⟩, fun all => all.2⟩

/-- A literal is read as seconds exactly in these two ways: as a whole number that fits, or as a
fraction that is rounded to one.
-/
theorem seconds?_eq_some_iff {literal : Literal} {n : Nat}
    : seconds? literal = some n ↔ ReadsSeconds literal n := by
  constructor
  · intro reads
    cases number : Number.ofLiteral? literal with
    | none => simp [seconds?, number] at reads
    | some value =>
        cases value with
        | natural m =>
            simp only [seconds?, number, Option.some.injEq] at reads
            exact .whole (reads ▸ number)
        | negative m => simp [seconds?, number] at reads
        | float x =>
            cases finite : x.value with
            | nan | infinity => simp [seconds?, number, finite] at reads
            | finite negative significand scale =>
                obtain ⟨atLeast, below, notBefore, notAfter⟩ :=
                  (seconds?_of_finite number finite).mp reads
                exact .rounded number finite atLeast below notBefore notAfter
  · intro reads
    cases reads with
    | whole number => simp only [seconds?, number]
    | rounded number finite atLeast below notBefore notAfter =>
        exact (seconds?_of_finite number finite).mpr ⟨atLeast, below, notBefore, notAfter⟩

/-- What is read past where a number of seconds is expected: other numbers, texts and lists among
it, as far as nothing of them is left unread.
-/
inductive Ignored : Value → Prop where
  | null : Ignored .null
  | bool {value : Bool} : Ignored (.bool value)
  | number {literal : Literal} (unread : ∀ n, ¬ ReadsSeconds literal n)
      (passed : isNumberPassed literal = true)
      : Ignored (.number literal)
  | text {raw : RawText} (passed : isTextPassed raw = true) : Ignored (.text raw)
  | noItems : Ignored (.array [])
  | noFields : Ignored (.object [])

/-- When something begins or ends: what is ignored counts as absent. -/
inductive InstantOf : Option Value → Option Nat → Prop where
  | absent : InstantOf none none
  | given {literal : Literal} {n : Nat} (reads : ReadsSeconds literal n)
      : InstantOf (some (.number literal)) (some n)
  | ignored {value : Value} (ignored : Ignored value) : InstantOf (some value) none

/-- A number is read as a time if it is one of seconds; one that is not may be passed over. -/
theorem instant?_number {literal : Literal} {time : Option Nat}
    : instant? (some (.number literal)) = some time
      ↔ InstantOf (some (.number literal)) time := by
  simp only [instant?, Option.ite_none_right_eq_some, Option.some.injEq]
  constructor
  · rintro ⟨either, rfl⟩
    cases read : seconds? literal with
    | some n => exact .given (seconds?_eq_some_iff.mp read)
    | none =>
        rw [read] at either
        refine .ignored (.number ?_ either)
        intro n reads
        rw [seconds?_eq_some_iff.mpr reads] at read
        cases read
  · rintro (_ | reads | ⟨_ | _ | ⟨unread, passed⟩⟩)
    · rw [seconds?_eq_some_iff.mpr reads]
      exact ⟨rfl, rfl⟩
    · rw [isSkipped, passed, Bool.or_true]
      refine ⟨rfl, Option.eq_none_iff_forall_ne_some.mpr ?_⟩
      exact fun n read => unread n (seconds?_eq_some_iff.mp read)

/-- A value that is no number is passed over exactly if its kind can be. -/
theorem ignored_iff {value : Value} (other : ∀ literal, value ≠ .number literal)
    : Ignored value ↔ isSkipped value = true := by
  constructor
  · rintro (_ | _ | _ | passed | _ | _)
    · rfl
    · rfl
    · exact absurd rfl (other _)
    · exact passed
    · rfl
    · rfl
  · intro skipped
    match value with
    | .null => exact .null
    | .bool _ => exact .bool
    | .number literal => exact absurd rfl (other literal)
    | .text raw => exact .text skipped
    | .array [] => exact .noItems
    | .object [] => exact .noFields
    | .array (_ :: _) | .object (_ :: _) => cases skipped

/-- Such a value is no time; it may be passed over. -/
theorem instant?_of_ne_number {value : Value} {time : Option Nat}
    (other : ∀ literal, value ≠ .number literal)
    : instant? (some value) = some time ↔ InstantOf (some value) time := by
  have skips : instant? (some value) = if isSkipped value then some none else none := by
    cases value <;> first | rfl | exact absurd rfl (other _)
  rw [skips, Option.ite_none_right_eq_some, Option.some.injEq, ← ignored_iff other]
  constructor
  · rintro ⟨ignored, rfl⟩
    exact .ignored ignored
  · rintro (_ | reads | ignored)
    · exact absurd rfl (other _)
    · exact ⟨ignored, rfl⟩

/-- A time is read off what is found exactly as described: it may be absent, a number of seconds, or
a value that is passed over.
-/
theorem instant?_eq_some_iff {found : Option Value} {time : Option Nat}
    : instant? found = some time ↔ InstantOf found time := by
  match found with
  | none =>
      constructor
      · rintro ⟨⟩
        exact .absent
      · rintro ⟨⟩
        rfl
  | some (.number literal) => exact instant?_number
  | some .null | some (.bool _) | some (.text _) | some (.array _) | some (.object _) =>
      exact instant?_of_ne_number fun literal => by rintro ⟨⟩

/-- What the members of a token's claims say; that of the issuer only has to be read past. -/
structure Declares (fields : List (String × Value)) (claims : Claims) : Prop where
  subject : ∃ found, Member "sub" fields found ∧ SubjectOf found claims.subject
  audience : ∃ found, Member "aud" fields found ∧ AudienceOf found claims.audience
  issuer : ∃ found, Member "iss" fields found ∧ ∀ value ∈ found, isPassed maxLevels value = true
  beginning : ∃ found time, Member "nbf" fields found ∧ InstantOf found time
  expiry : ∃ found, Member "exp" fields found ∧ InstantOf found claims.expiry

/-- Claims are read off an object exactly if its members declare them, member by member. -/
theorem claims?_eq_some_iff {value : Value} {claims : Claims}
    : claims? value = some claims
      ↔ ∃ raw fields,
          value = .object raw
          ∧ fieldsByName? RawText.textOfBytes? raw = some fields
          ∧ Declares fields claims := by
  match value with
  | .object raw =>
      simp only [claims?, Option.bind_eq_bind, Option.bind_eq_some_iff,
        Option.ite_none_right_eq_some, Option.some.injEq, unique?_eq_some_iff,
        subject?_eq_some_iff, audience?_eq_some_iff, instant?_eq_some_iff, Option.all_eq_true]
      constructor
      · rintro ⟨fields, read, sub, hasSub, subject, isSubject, aud, hasAud, audience, isAudience,
          iss, hasIss, nbf, hasNbf, beginning, begins, exp, hasExp, expiry, expires, passed, rfl⟩
        exact ⟨raw, fields, rfl, read, ⟨sub, hasSub, isSubject⟩, ⟨aud, hasAud, isAudience⟩,
          ⟨iss, hasIss, passed⟩, ⟨nbf, beginning, hasNbf, begins⟩, exp, hasExp, expires⟩
      · rintro ⟨_, fields, ⟨⟩, read, ⟨sub, hasSub, isSubject⟩, ⟨aud, hasAud, isAudience⟩,
          ⟨iss, hasIss, passed⟩, ⟨nbf, beginning, hasNbf, begins⟩, exp, hasExp, expires⟩
        exact ⟨fields, read, sub, hasSub, _, isSubject, aud, hasAud, _, isAudience, iss, hasIss,
          nbf, hasNbf, beginning, begins, exp, hasExp, _, expires, passed, rfl⟩
  | .null | .bool _ | .number _ | .text _ | .array _ =>
      constructor
      · rintro ⟨⟩
      · rintro ⟨_, _, ⟨⟩, _⟩

end ImageVerification.Token
