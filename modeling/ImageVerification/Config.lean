import ImageVerification.Address.Ip
import ImageVerification.Time.Duration
import ImageVerification.Verification

/-! The settings of the server, and how they are read from its environment.

A variable whose value cannot be read is treated as if it were not set.
-/

namespace ImageVerification

/-- Variables and their values, which need not be texts. -/
abbrev Variables := List (String × Bytes)

structure Config where
  port : Nat
  host : IpAddress
  /-- The origins that browsers may call from; all of them when nothing is given. -/
  allowedOrigins : Option (List String)
  bodyLimitMegabytes : Nat
  maxUploadBytes : Nat
  requestSeconds : Nat
  shutdownSeconds : Nat
  limitsRate : Bool
  ratePerSecond : Nat
  rateBurst : Nat
  databaseUrl : Option String
  poolMax : Nat
  poolMin : Nat
  poolWaitSeconds : Nat
  redisUrl : Option String
  scorerAddress : String
  scorerConnectSeconds : Nat
  tokenSecret : Option String
  tokenAudience : Option String
  duplicateScope : DuplicateScope
deriving DecidableEq

namespace Config

def standard : Config :=
  {
    port := 8080
    host := .unspecified
    allowedOrigins := none
    bodyLimitMegabytes := 10
    maxUploadBytes := 8 * 1024 * 1024
    requestSeconds := 30
    shutdownSeconds := 15
    limitsRate := false
    ratePerSecond := 10
    rateBurst := 20
    databaseUrl := none
    poolMax := 10
    poolMin := 5
    poolWaitSeconds := 5
    redisUrl := none
    scorerAddress := "http://rust-service:50051"
    scorerConnectSeconds := 5
    tokenSecret := none
    tokenAudience := none
    duplicateScope := .owner
  }

/-- The longest time for which a pooled connection is kept. -/
def poolLifetimeSeconds : Nat := 3600

def socketAddress (config : Config) : SocketAddress := ⟨config.host, config.port⟩

/-- The time that a request has. -/
def requestNanos (config : Config) : Nat := config.requestSeconds * 1000000000

def valueOf? (given : Variables) (name : String) : Option String :=
  (given.lookup name).bind Encoding.Utf8.decode?

/-- The parts between commas, without blanks around them; empty parts are dropped. -/
def readOrigins (text : String) : List String :=
  ((text.splitOn ",").map Text.trimText).filter (!·.isEmpty)

/-- A value without blanks around it; a blank one is none. -/
def readText? (text : String) : Option String :=
  let trimmed := Text.trimText text
  if trimmed.isEmpty then none else some trimmed

def ignoredScopeEvent (reason : String) : Event :=
  ⟨.warn, "Ignoring DUPLICATE_SCOPE, using owner scope", [("error", .shown reason)]⟩

def readScope : Option String → DuplicateScope × List Event
  | none => (.owner, [])
  | some text =>
      match DuplicateScope.parse text with
      | .ok scope => (scope, [])
      | .error reason => (.owner, [ignoredScopeEvent reason])

/-- The variables that are read. -/
def variableNames : List String :=
  ["PORT", "HOST", "ALLOWED_ORIGINS", "BODY_LIMIT_MB", "MAX_UPLOAD_BYTES", "REQUEST_TIMEOUT_SECS",
   "SHUTDOWN_TIMEOUT_SECS", "RATE_LIMIT_ENABLED", "RATE_LIMIT_PER_SEC", "RATE_LIMIT_BURST",
   "DATABASE_URL", "DATABASE_MAX_CONNECTIONS", "DATABASE_MIN_CONNECTIONS",
   "DATABASE_ACQUIRE_TIMEOUT_SECS", "REDIS_URL", "IMAGE_PROCESSOR_ADDR",
   "IMAGE_PROCESSOR_CONNECT_TIMEOUT_SECS", "JWT_SECRET", "JWT_AUDIENCE", "DUPLICATE_SCOPE"]

/-- Reads all settings, with what is logged about them. Rates are limited unless that is turned
off. -/
def ofVariables (given : Variables) : Config × List Event :=
  let value := valueOf? given
  let natural (name : String) (bits fallback : Nat) : Nat :=
    ((value name).bind fun text => Decimal.readBelow? (Nat.pow 2 bits) text.toList).getD fallback
  let text (name : String) : Option String := (value name).bind readText?
  let (scope, events) := readScope (value "DUPLICATE_SCOPE")
  let config : Config := {
    port := natural "PORT" 16 standard.port
    host :=
      ((value "HOST").bind fun host => IpAddress.parse? (Text.trimText host)).getD standard.host
    allowedOrigins := (value "ALLOWED_ORIGINS").map readOrigins
    bodyLimitMegabytes := natural "BODY_LIMIT_MB" 64 standard.bodyLimitMegabytes
    maxUploadBytes := natural "MAX_UPLOAD_BYTES" 64 standard.maxUploadBytes
    requestSeconds := natural "REQUEST_TIMEOUT_SECS" 64 standard.requestSeconds
    shutdownSeconds := natural "SHUTDOWN_TIMEOUT_SECS" 64 standard.shutdownSeconds
    limitsRate := (value "RATE_LIMIT_ENABLED").all fun flag => Text.lower flag != "false"
    ratePerSecond := natural "RATE_LIMIT_PER_SEC" 64 standard.ratePerSecond
    rateBurst := natural "RATE_LIMIT_BURST" 32 standard.rateBurst
    databaseUrl := text "DATABASE_URL"
    poolMax := natural "DATABASE_MAX_CONNECTIONS" 32 standard.poolMax
    poolMin := natural "DATABASE_MIN_CONNECTIONS" 32 standard.poolMin
    poolWaitSeconds := natural "DATABASE_ACQUIRE_TIMEOUT_SECS" 64 standard.poolWaitSeconds
    redisUrl := text "REDIS_URL"
    scorerAddress := (text "IMAGE_PROCESSOR_ADDR").getD standard.scorerAddress
    scorerConnectSeconds :=
      natural "IMAGE_PROCESSOR_CONNECT_TIMEOUT_SECS" 64 standard.scorerConnectSeconds
    tokenSecret := text "JWT_SECRET"
    tokenAudience := text "JWT_AUDIENCE"
    duplicateScope := scope
  }
  (config, events)

end Config

end ImageVerification
