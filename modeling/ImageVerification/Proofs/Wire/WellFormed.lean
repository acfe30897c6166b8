import ImageVerification.Proofs.Wire.Varint
import ImageVerification.Wire.Field

/-! Well-formed fields: what bytes hold which fields, groups among them, and that just these fields
are read from the bytes.

Numbers may be spelled longer than they need be. Groups and what is in them are counted in levels,
of which no more are read than the decoder goes down.
-/

namespace ImageVerification.Wire

/-- The key in front of a field; all 32 bits of it are used. -/
structure Key (tag wireType : Nat) (bytes : Bytes) : Prop where
  spelled : Varint (tag * 8 + wireType) bytes
  tagged : 1 ≤ tag
  narrow : tag * 8 + wireType < Word.limit32

/-- What is written of a payload under a wire type, but for groups. -/
inductive Scalar : Payload → Nat → Bytes → Prop where
  | varint {value : Nat} {bytes : Bytes} (spelled : Varint value bytes)
      : Scalar (.varint value) 0 bytes
  | fixed64 {bytes : Bytes} (wide : bytes.length = 8) : Scalar (.fixed64 bytes) 1 bytes
  | bytes {length content : Bytes} (spelled : Varint content.length length)
      : Scalar (.bytes content) 2 (length ++ content)
  | fixed32 {bytes : Bytes} (wide : bytes.length = 4) : Scalar (.fixed32 bytes) 5 bytes

/-- Bytes that hold fields one after the other, at most so many levels of them. -/
inductive WellFormed : Nat → List Field → Bytes → Prop where
  | nil {levels : Nat} : WellFormed levels [] []
  | scalar {levels tag wireType : Nat} {payload : Payload} {fields : List Field}
      {key content rest : Bytes} (keyed : Key tag wireType key)
      (holds : Scalar payload wireType content) (later : WellFormed (levels + 1) fields rest)
      : WellFormed (levels + 1) (⟨tag, payload⟩ :: fields) (key ++ content ++ rest)
  | group {levels tag : Nat} {inner fields : List Field} {opening content closing rest : Bytes}
      (opened : Key tag 3 opening) (holds : WellFormed levels inner content)
      (closed : Key tag 4 closing) (later : WellFormed (levels + 1) fields rest)
      : WellFormed (levels + 1) (⟨tag, .group⟩ :: fields) (opening ++ content ++ closing ++ rest)

variable {levels steps depth tag wireType : Nat} {fields others : List Field} {payload : Payload}
  {key bytes content closing : Bytes}

/-- Fields written one after the other are well formed; by induction on the first. -/
theorem WellFormed.append (holds : WellFormed levels fields bytes) {more : Bytes}
    (later : WellFormed levels others more)
    : WellFormed levels (fields ++ others) (bytes ++ more) := by
  induction holds with
  | nil => exact later
  | scalar keyed holds _ ih =>
      rw [List.append_assoc]
      exact .scalar keyed holds (ih later)
  | group opened holds closed _ _ ih =>
      rw [List.append_assoc]
      exact .group opened holds closed (ih later)

theorem Key.length_pos (keyed : Key tag wireType key) : 0 < key.length := keyed.spelled.length_pos

/-- A key is read back from the front of any bytes. -/
theorem Key.read (keyed : Key tag wireType key) (typed : wireType < 8) (rest : Bytes)
    : readKey (key ++ rest) = some ((tag, wireType), rest) := by
  have := keyed.tagged
  have high : (tag * 8 + wireType) / 8 = tag := by omega
  have low : (tag * 8 + wireType) % 8 = wireType := by omega
  rw [readKey, keyed.spelled.decode rest]
  simp only [if_pos (And.intro keyed.narrow (show 8 ≤ tag * 8 + wireType by omega)), high, low]

theorem readBytes_append (front rest : Bytes)
    : readBytes front.length (front ++ rest) = some (front, rest) := by
  simp [readBytes]

/-- A scalar has a wire type of three bits, and none that ends a group. -/
theorem Scalar.wireType_cases (holds : Scalar payload wireType content)
    : wireType < 8 ∧ wireType ≠ 4 := by
  cases holds <;> decide

/-- A scalar is read back from the front of any bytes; by cases on its wire type. -/
theorem Scalar.read (holds : Scalar payload wireType content) (enough : 0 < steps) (rest : Bytes)
    : readPayload steps depth tag wireType (content ++ rest) = some (payload, rest) := by
  obtain ⟨steps, rfl⟩ := Nat.exists_eq_add_one.mpr enough
  cases holds with
  | varint spelled => rw [readPayload, spelled.decode rest, Option.map_some]
  | fixed64 wide => rw [readPayload, ← wide, readBytes_append, Option.map_some]
  | @bytes length content spelled =>
      rw [readPayload, List.append_assoc, spelled.decode (content ++ rest)]
      simp only [readBytes_append, Option.map_some]
  | fixed32 wide => rw [readPayload, ← wide, readBytes_append, Option.map_some]

/-- A group is skipped as a whole, unless it is nested too deep. -/
theorem readPayload_group {rest : Bytes} (shallow : depth < maxDepth)
    (skipped : skipGroup steps depth tag bytes = some rest)
    : readPayload (steps + 1) depth tag 3 bytes = some (.group, rest) := by
  simp only [readPayload, if_pos shallow, skipped, Option.map_some]

/-- A group ends at the key that closes it. -/
theorem skipGroup_end (closed : Key tag 4 closing) (enough : 0 < steps) (rest : Bytes)
    : skipGroup steps depth tag (closing ++ rest) = some rest := by
  obtain ⟨steps, rfl⟩ := Nat.exists_eq_add_one.mpr enough
  simp only [skipGroup, closed.read (by decide) rest, if_true]

/-- A field within a group is read and forgotten. -/
theorem skipGroup_field {inner : Nat} {rest : Bytes} (keyed : Key inner wireType key)
    (typed : wireType < 8 ∧ wireType ≠ 4) (shallow : depth + 1 < maxDepth)
    (read : readPayload steps (depth + 1) inner wireType bytes = some (payload, rest))
    : skipGroup (steps + 1) depth tag (key ++ bytes) = skipGroup steps depth tag rest := by
  simp only [skipGroup, keyed.read typed.1 bytes, if_neg typed.2, if_pos shallow, read]

/-- A group is skipped to its end. By induction on what it holds: each field takes at least one of
the steps and of the bytes, and goes down at most the levels of the group.
-/
theorem WellFormed.skip (holds : WellFormed levels fields content) (closed : Key tag 4 closing)
    (shallow : depth + 1 + levels ≤ maxDepth) (enough : content.length < steps) (rest : Bytes)
    : skipGroup steps depth tag (content ++ (closing ++ rest)) = some rest := by
  induction holds generalizing steps depth tag closing rest with
  | nil => exact skipGroup_end closed enough rest
  | @scalar levels inner wireType payload fields key content later keyed holds _ ih =>
      have taken := keyed.length_pos
      simp only [List.length_append] at enough
      obtain ⟨steps, rfl⟩ : ∃ left, steps = left + 1 := ⟨steps - 1, by omega⟩
      simp only [List.append_assoc]
      rw [skipGroup_field keyed holds.wireType_cases (by omega) (holds.read (by omega) _)]
      exact ih closed shallow (by omega) rest
  | @group levels inner fields others opening content ending later opened _ ended _ skips ih =>
      have taken := opened.length_pos
      have takenLast := ended.length_pos
      simp only [List.length_append] at enough
      -- One step is for the field, and one more for its payload.
      obtain ⟨steps, rfl⟩ : ∃ left, steps = left + 2 := ⟨steps - 2, by omega⟩
      simp only [List.append_assoc]
      have skipped
          : skipGroup steps (depth + 1) inner
              (content ++ (ending ++ (later ++ (closing ++ rest))))
            = some (later ++ (closing ++ rest)) :=
        skips ended (by omega) (by omega) _
      have read := readPayload_group (by omega) skipped
      rw [skipGroup_field opened (by decide) (by omega) read]
      exact ih closed shallow (by omega) rest

theorem Scalar.readField {rest : Bytes} (keyed : Key tag wireType key)
    (holds : Scalar payload wireType content) (enough : 0 < steps)
    : readField steps (key ++ (content ++ rest)) = some (⟨tag, payload⟩, rest) := by
  simp only [Wire.readField, keyed.read holds.wireType_cases.1 (content ++ rest),
    holds.read enough rest, Option.map_some]

/-- A group is one field, whatever is in it. -/
theorem readField_group {opening rest : Bytes} (opened : Key tag 3 opening)
    (holds : WellFormed levels fields content) (closed : Key tag 4 closing)
    (shallow : levels < maxDepth) (enough : content.length + 1 < steps)
    : readField steps (opening ++ (content ++ (closing ++ rest)))
      = some (⟨tag, .group⟩, rest) := by
  obtain ⟨steps, rfl⟩ : ∃ left, steps = left + 1 := ⟨steps - 1, by omega⟩
  have skipped : skipGroup steps 0 tag (content ++ (closing ++ rest)) = some rest :=
    holds.skip closed (by omega) (by omega) rest
  simp only [readField, opened.read (by decide) (content ++ (closing ++ rest)),
    readPayload_group (by decide) skipped, Option.map_some]

theorem readFieldsFrom_read {done : List Field} {field : Field} {rest : Bytes}
    (read : readField (steps + 1) bytes = some (field, rest)) (more : 0 < bytes.length)
    : readFieldsFrom done (steps + 1) bytes = readFieldsFrom (field :: done) steps rest := by
  obtain ⟨byte, left, rfl⟩ := List.exists_cons_of_length_pos more
  rw [readFieldsFrom, read]
  exact nofun

/-- Well-formed bytes are read field by field to their end; by induction on the fields, each taking
at least one byte of the fuel.
-/
theorem WellFormed.readFieldsFrom (holds : WellFormed levels fields bytes)
    (shallow : levels ≤ maxDepth) (enough : bytes.length < steps) (done : List Field)
    : readFieldsFrom done steps bytes = some (done.reverse ++ fields) := by
  induction holds generalizing steps done with
  | nil => rw [Wire.readFieldsFrom, List.append_nil]
  | @scalar levels tag wireType payload fields key content later keyed holds _ ih =>
      have taken := keyed.length_pos
      simp only [List.length_append] at enough
      obtain ⟨steps, rfl⟩ : ∃ left, steps = left + 1 := ⟨steps - 1, by omega⟩
      rw [List.append_assoc,
        readFieldsFrom_read (holds.readField keyed (Nat.succ_pos _)) (by simp; omega),
        ih shallow (by omega), List.reverse_cons, List.append_assoc, List.singleton_append]
  | @group levels tag inner others opening content closing later opened holds closed _ _ ih =>
      have taken := opened.length_pos
      have takenLast := closed.length_pos
      simp only [List.length_append] at enough
      obtain ⟨steps, rfl⟩ : ∃ left, steps = left + 1 := ⟨steps - 1, by omega⟩
      have read
          : readField (steps + 1) (opening ++ (content ++ (closing ++ later)))
            = some (⟨tag, .group⟩, later) :=
        readField_group opened holds closed (by omega) (by omega)
      simp only [List.append_assoc]
      rw [readFieldsFrom_read read (by simp; omega), ih shallow (by omega), List.reverse_cons,
        List.append_assoc, List.singleton_append]

/-- Fields are read from any bytes that hold them. -/
theorem WellFormed.decode (holds : WellFormed levels fields bytes) (shallow : levels ≤ maxDepth)
    : decodeFields bytes = some fields :=
  holds.readFieldsFrom shallow (Nat.lt_succ_self _) []

end ImageVerification.Wire
