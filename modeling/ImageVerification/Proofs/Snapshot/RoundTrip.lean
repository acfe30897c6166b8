import ImageVerification.Proofs.Json.Object
import ImageVerification.Proofs.Time.Rfc3339
import ImageVerification.Snapshot

/-! A snapshot is read back from its text except for its score, which is read back as well as the
digits that were written for it allow.
-/

namespace ImageVerification.Snapshot

open Json Parser Reader

/-- What the digits of a score are read back as; a score that has no digits is not read at all. -/
def readScore? (x : Binary32) : Option Binary32 := (document? (Writer.single x)).bind score?

/-- A score that is not finite is written as null, which is no score. -/
theorem readScore?_of_not_isFinite {x : Binary32} (endless : x.isFinite = false)
    : readScore? x = none := by
  have unwritten : x.text? = none := by
    unfold Binary32.isFinite at endless
    unfold Binary32.text?
    cases read : x.value with
    | nan => rfl
    | infinity negative => rfl
    | finite negative significand scale => simp [read] at endless
  rw [readScore?, Writer.single, unwritten, Option.getD_none, null_readsAs.document?]
  rfl

/-- The fields of a snapshot with the texts of their values. -/
def fields (snapshot : Snapshot) : List (String × List Char) :=
  [("request_id", quote snapshot.requestId),
   ("user_id", quote snapshot.userId),
   ("score", Writer.single snapshot.score),
   ("success", Writer.bool snapshot.success),
   ("details", quote snapshot.details),
   ("sha1_hash", quote snapshot.fingerprint),
   ("created_at", quote (String.ofList snapshot.createdAt.render))]

/-- A snapshot is written as an object of its fields; the time needs no escapes. -/
theorem render_eq (snapshot : Snapshot) : snapshot.render = Writer.object snapshot.fields := by
  have plain := escape_of_writtenPlainly (Timestamp.writtenPlainly_of_mem_render snapshot.createdAt)
  have quoted
      : quote (String.ofList snapshot.createdAt.render)
        = '"' :: snapshot.createdAt.render ++ ['"'] := by
    rw [quote, String.toList_ofList, plain]
  rw [fields, quoted]
  rfl

/-- Every field of a snapshot is read within the object as it is alone. -/
theorem fields_readAlone (snapshot : Snapshot) : ∀ field ∈ snapshot.fields, ReadsAlone field.2 := by
  have text (value : String) : ReadsAlone (quote value) := (quote_readsAs value).readsAlone
  have flag : ReadsAlone (Writer.bool snapshot.success) := (bool_readsAs _).readsAlone
  unfold fields
  simp only [List.forall_mem_cons]
  exact ⟨text _, text _, single_readsAlone _, flag, text _, text _, text _,
    fun _ member => absurd member List.not_mem_nil⟩

/-- The fields of a snapshot as they are read, but for the value of the score. -/
def readFields (snapshot : Snapshot) (score : Value) : List (String × Value) :=
  [("request_id", .text (escape snapshot.requestId.toList)),
   ("user_id", .text (escape snapshot.userId.toList)),
   ("score", score),
   ("success", .bool snapshot.success),
   ("details", .text (escape snapshot.details.toList)),
   ("sha1_hash", .text (escape snapshot.fingerprint.toList)),
   ("created_at", .text (escape (String.ofList snapshot.createdAt.render).toList))]

theorem fieldsAlone?_fields (snapshot : Snapshot)
    : fieldsAlone? snapshot.fields
      = (document? (Writer.single snapshot.score)).map fun score =>
          (snapshot.readFields score).map fun (key, value) => (escape key.toList, value) := by
  simp only [fields, fieldsAlone?, (quote_readsAs _).document?, (bool_readsAs _).document?]
  cases document? (Writer.single snapshot.score) <;> rfl

/-- Names are escaped on the way out and resolved on the way in. -/
theorem fieldsByName?_escaped (named : List (String × Value))
    : fieldsByName? RawText.text? (named.map fun (key, value) => (escape key.toList, value))
      = some named := by
  induction named with
  | nil => rfl
  | cons first others ih =>
      obtain ⟨key, value⟩ := first
      unfold fieldsByName? at ih ⊢
      rw [List.map_cons, List.mapM_cons, ih]
      simp [RawText.text?_escape]

/-- A snapshot is made of its fields again, with whatever the score is read as. -/
theorem ofValue?_readFields (snapshot : Snapshot) (score : Value)
    : ofValue? (.object ((snapshot.readFields score).map fun (key, value) =>
        (escape key.toList, value)))
      = (score? score).map fun score => { snapshot with score } := by
  have one (key : String) (value : Value)
      (found : (snapshot.readFields score).filter (fun field => field.1 == key) = [(key, value)])
      : unique? key (snapshot.readFields score) = some (some value) := by
    simp only [unique?, found]
  rw [ofValue?, fieldsByName?_escaped]
  simp only [Option.bind_eq_bind, Option.bind_some]
  rw [one "request_id" _ rfl, one "user_id" _ rfl, one "score" _ rfl, one "success" _ rfl,
    one "details" _ rfl, one "sha1_hash" _ rfl, one "created_at" _ rfl]
  have time
      : timestamp? (.text (escape (String.ofList snapshot.createdAt.render).toList))
        = some snapshot.createdAt := by
    rw [timestamp?, text?, RawText.text?_escape, Option.bind_some, String.toList_ofList,
      Timestamp.parse?_render]
  simp only [ofValues?, textOrEmpty?, text?, RawText.text?_escape, bool?, time,
    Option.bind_eq_bind, Option.bind_some, Option.pure_def]
  cases score? score <;> rfl

/-- A snapshot is read back from its text with the score that its digits are read back as. -/
theorem decode?_encode (snapshot : Snapshot)
    : decode? snapshot.encode
      = (readScore? snapshot.score).map fun score => { snapshot with score } := by
  have read := document?_object snapshot.fields (List.cons_ne_nil _ _) snapshot.fields_readAlone
  rw [decode?, encode, String.toList_ofList, render_eq, read, fieldsAlone?_fields, readScore?]
  cases document? (Writer.single snapshot.score) with
  | none => rfl
  | some score =>
      rw [Option.map_some, Option.map_some, Option.bind_some, Option.bind_some]
      exact snapshot.ofValue?_readFields score

end ImageVerification.Snapshot
