import ImageVerification.Proofs.Snapshot.Score

/-! What gets through the cache: the snapshots of records, and those that are cached again as they
were read, whoever wrote the text that they were read from.
-/

namespace ImageVerification.Snapshot

/-- Nothing of a snapshot is lost on the way into the cache and back, unless its score is not
finite, with which all of it is lost.
-/
theorem decode?_encode_of_score (snapshot : Snapshot)
    : decode? snapshot.encode = if snapshot.score.isFinite then some snapshot else none := by
  rw [decode?_encode]
  cases finite : snapshot.score.isFinite with
  | true => simp [readScore?_of_isFinite finite]
  | false => simp [readScore?_of_not_isFinite finite]

/-- A record told again from its snapshot is the record with the names filled in and without its
latency.
-/
theorem toRecord_ofRecord (record : Record) (userId requestId : String)
    : (ofRecord record).toRecord userId requestId
      = {
          record with
          requestId := if record.requestId = "" then requestId else record.requestId
          userId := if record.userId = "" then userId else record.userId
          latency := .zero
        } := by
  simp [toRecord, ofRecord, orElse]

/-- What is cached of a record with a finite score stands for all of the record but its latency; a
lookup fills in the request and the user where the record names none. What is cached of any other
record stands for nothing.
-/
theorem cached_stands_for (record : Record) (userId requestId : String)
    : (decode? (ofRecord record).encode).map (·.toRecord userId requestId)
      = if record.score.isFinite then
          some
            {
              record with
              requestId := if record.requestId = "" then requestId else record.requestId
              userId := if record.userId = "" then userId else record.userId
              latency := .zero
            }
        else none := by
  have sameScore : (ofRecord record).score = record.score := rfl
  rw [decode?_encode_of_score, sameScore]
  cases record.score.isFinite with
  | true => simp only [if_true, Option.map_some, toRecord_ofRecord]
  | false => rfl

/-- A record of nobody, from before the year 0, with quotes and control characters in its texts. -/
def strangeRecord : Record := {
  requestId := ""
  userId := "\"\\\n\x7f"
  fingerprint := "é\x00"
  details := "\u2028😀"
  score := ⟨0xbf400000⟩
  success := false
  latency := .negativeZero
  createdAt := ⟨-62198755200, 120000000, by decide, by decide, by decide, by decide⟩
}

theorem strangeRecord_stands_for_itself
    : (decode? (ofRecord strangeRecord).encode).map (·.toRecord "alice" "r")
      = some { strangeRecord with requestId := "r", latency := .zero } :=
  cached_stands_for strangeRecord "alice" "r"

/-- Of the snapshots that are read from whatever texts, those with a finite score are the ones that
can be cached again, and they are then read as they were. A score that was too large for 32 bits is
lost, and with it the snapshot.
-/
theorem decode?_recoded (text : String)
    : ((decode? text).bind fun snapshot => decode? snapshot.encode)
      = (decode? text).filter (·.score.isFinite) := by
  cases decode? text with
  | none => rfl
  | some snapshot => rw [Option.bind_some, decode?_encode_of_score, Option.filter_some]

/-- A text of someone else with a score that is out of range. -/
def overflowing : String :=
  "\x7b\"score\":1e39,\"success\":true,\"sha1_hash\":\"a\","
    ++ "\"created_at\":\"2024-01-01T00:00:00Z\"\x7d"

/-- It is read with an infinite score, which does not get through the cache. -/
example
    : (decode? overflowing).map (·.score.bits) = some 0x7f800000
      ∧ ((decode? overflowing).bind fun snapshot => decode? snapshot.encode) = none := by
  decide +kernel

end ImageVerification.Snapshot
