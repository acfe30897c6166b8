import ImageVerification.Proofs.Wire.WellFormed
import ImageVerification.Scoring.Message

/-! The scorer's messages as bytes: how they are written, and that they are read back with whatever
other fields come after them.

A score of minus zero is equal to the default and so not written, and comes back as zero.
-/

namespace ImageVerification

namespace Wire

/-- Bytes that come with their length after a key; no bytes at all are not written. -/
inductive Delimited (key : UInt8) : Bytes → Bytes → Prop where
  | omitted : Delimited key [] []
  | written {length content : Bytes} (present : content ≠ [])
      (spelled : Shortest content.length length)
      : Delimited key content (key :: length ++ content)

variable {levels tag : Nat} {payload : Payload}

theorem encodeKey_key {wireType : Nat} (tagged : 1 ≤ tag)
    (narrow : tag * 8 + wireType < Word.limit32)
    : Key tag wireType (encodeKey tag wireType) :=
  ⟨encodeVarint_varint (Nat.lt_trans narrow (by decide)), tagged, narrow⟩

theorem encodeFields_append (fields others : List Field)
    : encodeFields (fields ++ others) = encodeFields fields ++ encodeFields others :=
  List.flatMap_append

theorem encodeFields_single (field : Field) : encodeFields [field] = encodeField field :=
  List.flatMap_singleton _ _

theorem WellFormed.single {wireType : Nat} {key content : Bytes} (keyed : Key tag wireType key)
    (holds : Scalar payload wireType content)
    : WellFormed (levels + 1) [⟨tag, payload⟩] (key ++ content) := by
  have wellFormed : WellFormed (levels + 1) [⟨tag, payload⟩] (key ++ content ++ []) :=
    .scalar keyed holds .nil
  rwa [List.append_nil] at wellFormed

end Wire

/-- Equal to zero are plus zero and minus zero. -/
theorem Binary32.isZero_iff {score : Binary32}
    : score.isZero = true ↔ score.bits = 0 ∨ score.bits = 0x80000000 := by
  have bounded := score.bits.toNat_lt
  -- All that is masked out is the sign.
  have masked : (score.bits &&& 0x7fffffff).toNat = score.bits.toNat % 2 ^ 31 := by
    rw [UInt32.toNat_and]
    exact Nat.and_two_pow_sub_one_eq_mod score.bits.toNat 31
  simp only [isZero, beq_iff_eq, ← UInt32.toNat_inj, masked, Nat.reducePow, UInt32.toNat_zero,
    UInt32.reduceToNat]
  omega

namespace Scoring

open Encoding Wire

variable {levels tag : Nat} {bytes : Bytes}

/-- To set the bits above is to add what they stand for. -/
theorem toNat_or_shiftLeft {low high : UInt32} {count : Nat} (small : count < 32)
    (below : low.toNat < 2 ^ count) (fits : high.toNat * 2 ^ count < 2 ^ 32)
    : (low ||| high <<< UInt32.ofNat count).toNat = low.toNat + high.toNat * 2 ^ count := by
  have shift : (UInt32.ofNat count).toNat % 32 = count := by
    rw [UInt32.toNat_ofNat_of_lt' (Nat.lt_trans small (by decide)), Nat.mod_eq_of_lt small]
  rw [UInt32.toNat_or, UInt32.toNat_shiftLeft, shift, Nat.shiftLeft_eq, Nat.mod_eq_of_lt fits,
    Nat.or_comm, ← Nat.shiftLeft_eq, ← Nat.shiftLeft_add_eq_or_of_lt below, Nat.shiftLeft_eq,
    Nat.add_comm]

/-- Four bytes as a number, the least significant one first. -/
def valueOf (a b c d : UInt8) : Nat :=
  a.toNat + b.toNat * 2 ^ 8 + c.toNat * 2 ^ 16 + d.toNat * 2 ^ 24

/-- Each byte is put above those before it. -/
theorem ofLittleEndian32?_eq (a b c d : UInt8)
    : ofLittleEndian32? [a, b, c, d] = some (UInt32.ofNat (valueOf a b c d)) := by
  have boundA := a.toNat_lt
  have boundB := b.toNat_lt
  have boundC := c.toNat_lt
  have boundD := d.toNat_lt
  have second : (a.toUInt32 ||| b.toUInt32 <<< 8).toNat = a.toNat + b.toNat * 2 ^ 8 :=
    toNat_or_shiftLeft (by decide) (by simpa using boundA) (by simp; omega)
  have third
      : (a.toUInt32 ||| b.toUInt32 <<< 8 ||| c.toUInt32 <<< 16).toNat
        = a.toNat + b.toNat * 2 ^ 8 + c.toNat * 2 ^ 16 := by
    have below : (a.toUInt32 ||| b.toUInt32 <<< 8).toNat < 2 ^ 16 := by omega
    rw [← second]
    exact toNat_or_shiftLeft (by decide) below (by simp; omega)
  have fourth
      : (a.toUInt32 ||| b.toUInt32 <<< 8 ||| c.toUInt32 <<< 16 ||| d.toUInt32 <<< 24).toNat
        = valueOf a b c d := by
    have below : (a.toUInt32 ||| b.toUInt32 <<< 8 ||| c.toUInt32 <<< 16).toNat < 2 ^ 24 := by omega
    rw [valueOf, ← third]
    exact toNat_or_shiftLeft (by decide) below (by simp; omega)
  rw [ofLittleEndian32?, ← fourth, UInt32.ofNat_toNat]

theorem littleEndian32_value (word : UInt32)
    : ∃ a b c d, littleEndian32 word = [a, b, c, d] ∧ valueOf a b c d = word.toNat := by
  have bounded := word.toNat_lt
  refine ⟨_, _, _, _, rfl, ?_⟩
  simp only [valueOf, UInt32.toNat_toUInt8, UInt32.toNat_shiftRight, Nat.shiftRight_eq_div_pow,
    Nat.reducePow, UInt32.reduceToNat, Nat.reduceMod]
  omega

/-- A word is read back from its four bytes. -/
theorem ofLittleEndian32?_littleEndian32 (word : UInt32)
    : ofLittleEndian32? (littleEndian32 word) = some word := by
  obtain ⟨a, b, c, d, written, value⟩ := littleEndian32_value word
  rw [written, ofLittleEndian32?_eq, value, UInt32.ofNat_toNat]

/-- A field of bytes is well formed; if it is empty, it is left out. -/
theorem bytesField_wellFormed (tagged : 1 ≤ tag) (narrow : tag * 8 + 2 < Word.limit32)
    (fits : bytes.length < Word.limit64)
    : WellFormed (levels + 1) (bytesField tag bytes) (encodeFields (bytesField tag bytes)) := by
  unfold bytesField
  split
  · exact .nil
  · simp only [encodeFields_single, encodeField, List.append_assoc]
    exact .single (encodeKey_key tagged narrow) (.bytes (encodeVarint_varint fits))

theorem bytesField_delimited {key : UInt8} (keyed : encodeKey tag 2 = [key])
    : Delimited key bytes (encodeFields (bytesField tag bytes)) := by
  unfold bytesField
  split
  · next empty =>
      rw [List.isEmpty_iff.mp empty]
      exact .omitted
  · next present =>
      have written : Delimited key bytes _ :=
        .written (by simpa using present) (encodeVarint_shortest bytes.length)
      simpa [encodeFields, encodeField, keyed] using written

/-- What is written of a flag. -/
inductive WritesFlag : Bool → Bytes → Prop where
  | omitted : WritesFlag false []
  | written : WritesFlag true [0x08, 0x01]

/-- What is written of a score: its bits, unless it is equal to zero. -/
inductive WritesScore : Binary32 → Bytes → Prop where
  | omitted {score : Binary32} (zero : score.bits = 0 ∨ score.bits = 0x80000000)
      : WritesScore score []
  | written {score : Binary32} {a b c d : UInt8}
      (nonzero : ¬ (score.bits = 0 ∨ score.bits = 0x80000000))
      (little : valueOf a b c d = score.bits.toNat)
      : WritesScore score [0x15, a, b, c, d]

/-- The fields of a request in their order. -/
def Request.Writes (request : Request) (bytes : Bytes) : Prop :=
  ∃ user image,
    bytes = user ++ image
    ∧ Delimited 0x0a (Utf8.encode request.userId) user
    ∧ Delimited 0x12 request.image image

/-- The fields of a response in their order. -/
def Response.Writes (response : Response) (bytes : Bytes) : Prop :=
  ∃ success score message,
    bytes = success ++ score ++ message
    ∧ WritesFlag response.success success
    ∧ WritesScore response.score score
    ∧ Delimited 0x1a (Utf8.encode response.message) message

/-- Bytes from which a message is read, alone and with any fields of other tags after them. -/
structure Travels {μ : Type} (decode? : Bytes → Option μ) (tags : List Nat) (bytes : Bytes)
    (arrived : μ)
    : Prop where
  alone : decode? bytes = some arrived
  followed :
    ∀ fields appended,
      WellFormed maxDepth fields appended
      → (∀ field ∈ fields, field.tag ∉ tags)
      → decode? (bytes ++ appended) = some arrived

section Reading

variable {μ : Type} {set? : μ → Field → Option μ} {start arrived : μ} {tags : List Nat}
  {fields : List Field}

/-- Fields of other tags are passed over. -/
theorem foldlM_others
    (ignores : ∀ field, field.tag ∉ tags → ∀ message, set? message field = some message)
    (others : ∀ field ∈ fields, field.tag ∉ tags) (message : μ)
    : fields.foldlM set? message = some message := by
  induction fields with
  | nil => rfl
  | cons field fields ih =>
      obtain ⟨other, later⟩ := List.forall_mem_cons.mp others
      rw [List.foldlM_cons, ignores field other message]
      exact ih later

/-- Bytes that hold fields from which a message is put together. -/
theorem travels_of_wellFormed (holds : WellFormed maxDepth fields bytes)
    (read : fields.foldlM set? start = some arrived)
    (ignores : ∀ field, field.tag ∉ tags → ∀ message, set? message field = some message)
    : Travels (fun bytes => (decodeFields bytes).bind (List.foldlM set? start)) tags bytes
        arrived := by
  refine ⟨?_, fun others appended wellFormed other => ?_⟩
  · rw [holds.decode (Nat.le_refl _)]
    exact read
  · rw [(holds.append wellFormed).decode (Nat.le_refl _), Option.bind_some, List.foldlM_append,
      read]
    exact foldlM_others ignores other arrived

theorem foldlM_bytesField (sets : set? start ⟨tag, .bytes bytes⟩ = some arrived)
    (default : bytes = [] → arrived = start)
    : (bytesField tag bytes).foldlM set? start = some arrived := by
  unfold bytesField
  split
  · next empty =>
      rw [default (List.isEmpty_iff.mp empty)]
      rfl
  · rw [List.foldlM_cons, sets]
    rfl

end Reading

namespace Request

theorem encode_writes (request : Request) : request.Writes request.encode := by
  refine ⟨_, _, encodeFields_append _ _, ?_, ?_⟩
  · exact bytesField_delimited (by simp [encodeKey, encodeVarint_of_lt])
  · exact bytesField_delimited (by simp [encodeKey, encodeVarint_of_lt])

theorem foldlM_toFields (request : Request)
    : request.toFields.foldlM set? ⟨"", []⟩ = some request := by
  have userRead
      : (bytesField 1 (Utf8.encode request.userId)).foldlM set? ⟨"", []⟩
        = some ⟨request.userId, []⟩ := by
    refine foldlM_bytesField (by simp [set?, text?, bytes?, Utf8.decode?_encode]) ?_
    exact fun empty => congrArg (Request.mk · []) (Utf8.encode_injective empty)
  have imageRead
      : (bytesField 2 request.image).foldlM set? ⟨request.userId, []⟩ = some request :=
    foldlM_bytesField rfl fun empty => congrArg (Request.mk request.userId) empty
  rw [toFields, List.foldlM_append, userRead]
  exact imageRead

theorem set?_other (field : Field) (other : field.tag ∉ [1, 2]) (request : Request)
    : set? request field = some request := by
  simp only [List.mem_cons, List.not_mem_nil, or_false, not_or] at other
  unfold set?
  split
  · next first => exact absurd first other.1
  · next second => exact absurd second other.2
  · rfl

/-- A request is well formed as long as its lengths fit 64 bits. -/
theorem toFields_wellFormed {request : Request}
    (fitsUser : (Utf8.encode request.userId).length < Word.limit64)
    (fitsImage : request.image.length < Word.limit64)
    : WellFormed maxDepth request.toFields request.encode := by
  have user : WellFormed maxDepth (bytesField 1 (Utf8.encode request.userId)) _ :=
    bytesField_wellFormed (by decide) (by decide) fitsUser
  have image : WellFormed maxDepth (bytesField 2 request.image) _ :=
    bytesField_wellFormed (by decide) (by decide) fitsImage
  have holds := user.append image
  rwa [← encodeFields_append] at holds

theorem encode_travels {request : Request}
    (fitsUser : (Utf8.encode request.userId).length < Word.limit64)
    (fitsImage : request.image.length < Word.limit64)
    : Travels decode? [1, 2] request.encode request :=
  travels_of_wellFormed (toFields_wellFormed fitsUser fitsImage) request.foldlM_toFields set?_other

end Request

namespace Response

/-- A response as it arrives: minus zero has become zero. -/
def arriving (response : Response) : Response :=
  {
    response with
    score := if response.score.bits = 0x80000000 then .zero else response.score
  }

def flagField (success : Bool) : List Field := if success then [⟨1, .varint 1⟩] else []

def scoreField (score : Binary32) : List Field :=
  if score.isZero then [] else [⟨2, .fixed32 (littleEndian32 score.bits)⟩]

theorem toFields_eq (response : Response)
    : response.toFields
      = flagField response.success ++ scoreField response.score
        ++ bytesField 3 (Utf8.encode response.message) :=
  rfl

theorem flagField_writes (success : Bool)
    : WritesFlag success (encodeFields (flagField success)) := by
  cases success with
  | false => exact .omitted
  | true =>
      have written : encodeFields (flagField true) = [0x08, 0x01] := by
        simp [flagField, encodeFields, encodeField, encodeKey, encodeVarint_of_lt]
      rw [written]
      exact .written

theorem scoreField_writes (score : Binary32)
    : WritesScore score (encodeFields (scoreField score)) := by
  unfold scoreField
  split
  · next zero => exact .omitted (Binary32.isZero_iff.mp zero)
  · next nonzero =>
      obtain ⟨a, b, c, d, bytes, value⟩ := littleEndian32_value score.bits
      have written
          : encodeFields [⟨2, .fixed32 (littleEndian32 score.bits)⟩] = [0x15, a, b, c, d] := by
        simp [encodeFields, encodeField, encodeKey, encodeVarint_of_lt, bytes]
      rw [written]
      exact .written (nonzero ∘ Binary32.isZero_iff.mpr) value

theorem encode_writes (response : Response) : response.Writes response.encode := by
  have message
      : Delimited 0x1a (Utf8.encode response.message)
          (encodeFields (bytesField 3 (Utf8.encode response.message))) :=
    bytesField_delimited (by simp [encodeKey, encodeVarint_of_lt])
  refine ⟨_, _, _, ?_, flagField_writes _, scoreField_writes _, message⟩
  rw [encode, toFields_eq, encodeFields_append, encodeFields_append]

theorem flagField_wellFormed (success : Bool)
    : WellFormed (levels + 1) (flagField success) (encodeFields (flagField success)) := by
  cases success with
  | false => exact .nil
  | true =>
      rw [flagField, if_pos rfl, encodeFields_single, encodeField]
      have one : Varint 1 (encodeVarint 1) := encodeVarint_varint (by decide)
      exact .single (encodeKey_key (by decide) (by decide)) (.varint one)

theorem scoreField_wellFormed (score : Binary32)
    : WellFormed (levels + 1) (scoreField score) (encodeFields (scoreField score)) := by
  unfold scoreField
  split
  · exact .nil
  · rw [encodeFields_single, encodeField]
    exact .single (encodeKey_key (by decide) (by decide)) (.fixed32 rfl)

theorem toFields_wellFormed {response : Response}
    (fits : (Utf8.encode response.message).length < Word.limit64)
    : WellFormed maxDepth response.toFields response.encode := by
  have message : WellFormed maxDepth (bytesField 3 (Utf8.encode response.message)) _ :=
    bytesField_wellFormed (by decide) (by decide) fits
  have holds :=
    ((flagField_wellFormed response.success).append (scoreField_wellFormed response.score)).append
      message
  rwa [← encodeFields_append, ← encodeFields_append] at holds

theorem foldlM_flagField (success : Bool)
    : (flagField success).foldlM set? ⟨false, .zero, ""⟩ = some ⟨success, .zero, ""⟩ := by
  cases success <;> rfl

theorem foldlM_scoreField (success : Bool) (score : Binary32)
    : (scoreField score).foldlM set? ⟨success, .zero, ""⟩
      = some (arriving ⟨success, score, ""⟩) := by
  unfold scoreField
  split
  · next zero =>
      rcases Binary32.isZero_iff.mp zero with plus | minus
      · obtain rfl : score = .zero := congrArg Binary32.mk plus
        rfl
      · -- Nothing is read that would tell of the sign.
        rw [arriving, if_pos minus]
        rfl
  · next nonzero =>
      have other : score.bits ≠ 0x80000000 := fun minus =>
        nonzero (Binary32.isZero_iff.mpr (.inr minus))
      rw [arriving, if_neg other, List.foldlM_cons]
      simp [set?, score?, ofLittleEndian32?_littleEndian32]

theorem foldlM_toFields (response : Response)
    : response.toFields.foldlM set? ⟨false, .zero, ""⟩ = some response.arriving := by
  have messageRead
      : (bytesField 3 (Utf8.encode response.message)).foldlM set?
          (arriving ⟨response.success, response.score, ""⟩)
        = some response.arriving := by
    refine foldlM_bytesField (by simp [set?, text?, bytes?, Utf8.decode?_encode, arriving]) ?_
    intro empty
    have none : response.message = "" := Utf8.encode_injective empty
    rw [arriving, none]
    rfl
  rw [toFields_eq, List.foldlM_append, List.foldlM_append, foldlM_flagField]
  exact (congrArg (· >>= _) (foldlM_scoreField _ _)).trans messageRead

theorem set?_other (field : Field) (other : field.tag ∉ [1, 2, 3]) (response : Response)
    : set? response field = some response := by
  simp only [List.mem_cons, List.not_mem_nil, or_false, not_or] at other
  obtain ⟨first, second, third⟩ := other
  unfold set?
  split
  · next same => exact absurd same first
  · next same => exact absurd same second
  · next same => exact absurd same third
  · rfl

theorem encode_travels {response : Response}
    (fits : (Utf8.encode response.message).length < Word.limit64)
    : Travels decode? [1, 2, 3] response.encode response.arriving :=
  travels_of_wellFormed (toFields_wellFormed fits) response.foldlM_toFields set?_other

end Response

/-- Every message is written by the rules of the format. It is read back as it was, but for a score
of minus zero, and so it is with any fields of other tags after it.
-/
theorem messages_travel
    : (∀ request : Request,
        (Utf8.encode request.userId).length < Word.limit64
        → request.image.length < Word.limit64
        → request.Writes request.encode ∧ Travels Request.decode? [1, 2] request.encode request)
      ∧ ∀ response : Response,
          (Utf8.encode response.message).length < Word.limit64
          → response.Writes response.encode
            ∧ Travels Response.decode? [1, 2, 3] response.encode response.arriving :=
  ⟨fun request fitsUser fitsImage =>
      ⟨request.encode_writes, Request.encode_travels fitsUser fitsImage⟩,
    fun response fits => ⟨response.encode_writes, Response.encode_travels fits⟩⟩

/-- Groups of tag four, one in the other. -/
def nested : Nat → Bytes
  | 0 => []
  | levels + 1 => encodeKey 4 3 ++ nested levels ++ encodeKey 4 4

/-- Groups nested in one another are well formed to any depth; by induction on it. -/
theorem nested_wellFormed (levels : Nat)
    : ∃ fields, WellFormed levels fields (nested levels) ∧ ∀ field ∈ fields, field.tag = 4 := by
  induction levels with
  | zero => exact ⟨[], .nil, nofun⟩
  | succ levels ih =>
      obtain ⟨inner, holds, -⟩ := ih
      refine ⟨[⟨4, .group⟩], ?_, by simp⟩
      have opened : Key 4 3 (encodeKey 4 3) := encodeKey_key (by decide) (by decide)
      have closed : Key 4 4 (encodeKey 4 4) := encodeKey_key (by decide) (by decide)
      have holds := WellFormed.group opened holds closed .nil
      rwa [List.append_nil] at holds

/-- Minus zero is not kept, and groups that go down one level too many spoil a message. -/
theorem minusZero_lost
    : Response.decode? (Response.encode ⟨true, ⟨0x80000000⟩, ""⟩) = some ⟨true, ⟨0⟩, ""⟩
      ∧ (∃ fields,
          WellFormed 101 fields (nested 101) ∧ ∀ field ∈ fields, field.tag = 4)
      ∧ Request.decode? (Request.encode ⟨"u", [0xff]⟩ ++ nested 101) = none :=
  ⟨by decide +kernel, nested_wellFormed 101, by decide +kernel⟩

/-- A request and a score that is not a number, with groups after them that go down all levels. -/
theorem sample_travels
    : Request.decode? (Request.encode ⟨"u", [0xff]⟩ ++ nested 100) = some ⟨"u", [0xff]⟩
      ∧ Response.decode? (Response.encode ⟨true, ⟨0x7fc00001⟩, ""⟩ ++ nested 100)
        = some ⟨true, ⟨0x7fc00001⟩, ""⟩ := by
  obtain ⟨fields, holds, tagged⟩ := nested_wellFormed 100
  constructor
  · obtain ⟨-, travels⟩ := messages_travel.1 ⟨"u", [0xff]⟩ (by decide +kernel) (by decide)
    exact travels.followed fields _ holds fun field member => by simp [tagged field member]
  · obtain ⟨-, travels⟩ := messages_travel.2 ⟨true, ⟨0x7fc00001⟩, ""⟩ (by decide +kernel)
    exact travels.followed fields _ holds fun field member => by simp [tagged field member]

end Scoring

end ImageVerification
