import ImageVerification.Metrics
import ImageVerification.Store.Fault

/-! The store kept in memory: a ledger of records in the order in which they were saved.

Request ids are unique, and so are the pairs of a user and a fingerprint.
-/

namespace ImageVerification

structure Ledger where
  records : List Record
deriving DecidableEq

namespace Ledger

def empty : Ledger := ⟨[]⟩

def requestConflict (requestId : String) : StoreFault :=
  .conflict ("request_id " ++ requestId ++ " already exists")

def imageConflict : StoreFault :=
  .conflict "duplicate key value violates unique constraint \"idx_verification_logs_user_hash\""

def save (ledger : Ledger) (record : Record) : Except StoreFault Unit × Ledger :=
  if ledger.records.any fun r => r.requestId == record.requestId then
    (.error (requestConflict record.requestId), ledger)
  else if ledger.records.any fun r =>
      r.userId == record.userId && r.fingerprint == record.fingerprint then
    (.error imageConflict, ledger)
  else (.ok (), ⟨ledger.records ++ [record]⟩)

/-- The record of a request, if the user owns it. -/
def find (ledger : Ledger) (requestId userId : String) : Except StoreFault Record :=
  match ledger.records.find? fun r => r.requestId == requestId && r.userId == userId with
  | some record => .ok record
  | none => .error .notFound

/-- The records of an image, of one owner or of all, except those of one request; newest first, and
in the order of the ledger where equally new. -/
def duplicates (ledger : Ledger) (owner : Option String) (fingerprint : String)
    (exclude : Option String) : List Record :=
  (ledger.records.filter fun r =>
      r.fingerprint == fingerprint && owner.all (r.userId == ·)
        && exclude.all (r.requestId != ·)).mergeSort
    Record.newestFirst

def totals (ledger : Ledger) : Totals := Totals.ofRecords ledger.records

end Ledger

end ImageVerification
