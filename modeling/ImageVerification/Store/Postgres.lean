import ImageVerification.Address.Url
import ImageVerification.Metrics
import ImageVerification.Store.Fault
import ImageVerification.Text.Blank

/-! The store kept in a PostgreSQL database, which is sent one statement at a time. -/

namespace ImageVerification.Postgres

inductive Statement where
  | createTable
  | indexFingerprints
  | indexOwners
  | insert (record : Record)
  | find (requestId userId : String)
  | duplicates (owner : Option String) (fingerprint : String) (exclude : Option String)
  | totals
  | ping
deriving DecidableEq

inductive Parameter where
  | text (value : String)
  | single (value : Binary32)
  | double (value : Binary64)
  | bool (value : Bool)
  /-- Microseconds since the start of 1970. -/
  | micros (value : Int)
  | null
deriving DecidableEq

/-- The start of 2000, in nanoseconds since the start of 1970. -/
def serverEpoch : Int := 946684800000000000

/-- Instants are sent in microseconds; what is left over is cut off toward the start of 2000. -/
def microsOf (instant : Timestamp) : Int :=
  (instant.unixNanos - serverEpoch).tdiv 1000 + serverEpoch / 1000

namespace Statement

def columns : String :=
  "request_id, user_id, sha1_hash, score, success, details, processing_latency_ms, created_at"

def sql : Statement → String
  | createTable =>
      "CREATE TABLE IF NOT EXISTS verification_logs ( id BIGSERIAL PRIMARY KEY, "
        ++ "request_id VARCHAR(64) NOT NULL UNIQUE, user_id VARCHAR(64) NOT NULL, "
        ++ "sha1_hash CHAR(40) NOT NULL, score REAL NOT NULL, success BOOLEAN NOT NULL, "
        ++ "details TEXT NOT NULL DEFAULT '', "
        ++ "processing_latency_ms DOUBLE PRECISION NOT NULL DEFAULT 0, "
        ++ "created_at TIMESTAMPTZ NOT NULL DEFAULT NOW() )"
  | indexFingerprints =>
      "CREATE INDEX IF NOT EXISTS idx_verification_logs_sha1_hash "
        ++ "ON verification_logs (sha1_hash)"
  | indexOwners =>
      "CREATE UNIQUE INDEX IF NOT EXISTS idx_verification_logs_user_hash "
        ++ "ON verification_logs (user_id, sha1_hash)"
  | insert _ =>
      "INSERT INTO verification_logs (" ++ columns ++ ") VALUES ($1, $2, $3, $4, $5, $6, $7, $8)"
  | find .. =>
      "SELECT " ++ columns ++ " FROM verification_logs "
        ++ "WHERE request_id = $1 AND user_id = $2 LIMIT 1"
  | duplicates .. =>
      "SELECT " ++ columns ++ " FROM verification_logs WHERE sha1_hash = $1 "
        ++ "AND ($2::TEXT IS NULL OR user_id = $2) AND ($3::TEXT IS NULL OR request_id <> $3) "
        ++ "ORDER BY created_at DESC"
  | totals =>
      "SELECT COUNT(*), COUNT(*) FILTER (WHERE success), COALESCE(AVG(score), 0)::FLOAT8, "
        ++ "COALESCE(AVG(processing_latency_ms), 0)::FLOAT8 FROM verification_logs"
  | ping => "SELECT 1"

/-- An absent text is the null value, which disables a filter. -/
def optional (value : Option String) : Parameter := (value.map .text).getD .null

def parameters : Statement → List Parameter
  | insert record =>
      [.text record.requestId, .text record.userId, .text record.fingerprint, .single record.score,
       .bool record.success, .text record.details, .double record.latency,
       .micros (microsOf record.createdAt)]
  | find requestId userId => [.text requestId, .text userId]
  | duplicates owner fingerprint exclude => [.text fingerprint, optional owner, optional exclude]
  | _ => []

end Statement

/-- A row of a result: a stored record, or totals. -/
inductive Row where
  | record (stored : Record)
  | totals (totals : Totals)
deriving DecidableEq

abbrev Answer := Except DatabaseFault (List Row)

/-- The database pads fingerprints with blanks to a fixed width. -/
def unpadded (record : Record) : Record :=
  { record with fingerprint := String.ofList (Text.trimEnd record.fingerprint.toList) }

def recordOf? : Row → Option Record
  | .record stored => some (unpadded stored)
  | .totals _ => none

def totalsOf? : Row → Option Totals
  | .totals totals => some totals
  | .record _ => none

variable {m : Type → Type} [Monad m] (send : Statement → m Answer)

/-- Sends a statement whose rows do not matter. -/
def execute (statement : Statement) : m (Except StoreFault Unit) := do
  let answer ← send statement
  return (answer.map fun _ => ()).mapError StoreFault.ofDatabase

/-- Sends statements up to the first that fails. -/
def executeAll : List Statement → m (Except StoreFault Unit)
  | [] => return .ok ()
  | statement :: rest => do
      match ← execute send statement with
      | .error fault => return .error fault
      | .ok () => executeAll rest

/-- Creates the table and its indexes where they are missing. -/
def prepare : m (Except StoreFault Unit) :=
  executeAll send [.createTable, .indexFingerprints, .indexOwners]

def save (record : Record) : m (Except StoreFault Unit) := execute send (.insert record)

def ping : m (Except StoreFault Unit) := execute send .ping

def find (requestId userId : String) : m (Except StoreFault Record) := do
  match ← send (.find requestId userId) with
  | .error fault => return .error (.ofDatabase fault)
  | .ok rows =>
      match (rows.filterMap recordOf?).head? with
      | some record => return .ok record
      | none => return .error .notFound

def duplicates (owner : Option String) (fingerprint : String) (exclude : Option String)
    : m (Except StoreFault (List Record)) := do
  let answer ← send (.duplicates owner fingerprint exclude)
  return (answer.map fun rows => rows.filterMap recordOf?).mapError StoreFault.ofDatabase

def totals : m (Except StoreFault Totals) := do
  match ← send .totals with
  | .error fault => return .error (.ofDatabase fault)
  | .ok rows =>
      match (rows.filterMap totalsOf?).head? with
      | some totals => return .ok totals
      | none => return .error (.ofDatabase .rowNotFound)

/-- How a server meets a client that connects. -/
inductive Greeting where
  | welcome
  | refusal (report : DatabaseReport)
  | silence
deriving DecidableEq

/-- A server that has too many connections or is starting up is asked again. -/
def passingCodes : List String := ["53300", "57P03"]

/-- What comes of connecting to a server, which is waited for as long as the pool allows. -/
def connect : Greeting → Except StoreFault Unit
  | .welcome => .ok ()
  | .silence => .error (.ofDatabase .poolTimedOut)
  | .refusal report =>
      if report.code.any passingCodes.contains then .error (.ofDatabase .poolTimedOut)
      else .error (.ofDatabase (.report report))

/-- Whether a pool can be made for an address. -/
def checkAddress (address : String) : Except StoreFault Unit :=
  match Url.parse address with
  | .ok _ => .ok ()
  | .error fault => .error (.ofDatabase (.configuration fault.text))

/-- The code of a violated uniqueness rule. -/
def uniqueViolationCode : String := "23505"

def reportOf (code message : String) : DatabaseReport :=
  ⟨some code, message, code = uniqueViolationCode⟩

/-- The name under which this store reports itself. -/
def backendName : String := "postgres"

end ImageVerification.Postgres
