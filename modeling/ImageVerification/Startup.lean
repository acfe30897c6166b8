import ImageVerification.Api.Router
import ImageVerification.Cache.Redis
import ImageVerification.InMemory
import ImageVerification.Log.Filter
import ImageVerification.Scoring.Client
import ImageVerification.Store.Postgres

/-! Starting the server: settings, token secret, store, cache, scorer, router and listener, in this
order. The first of them that fails ends the start.
-/

namespace ImageVerification

/-- The signals that end the server. -/
inductive Signal where
  | interrupt
  | terminate
deriving DecidableEq

namespace Startup

/-- Why the server did not start. -/
inductive Failure where
  | unset (message : String)
  | failed (step : String) (causes : List String)
  | unusable (fault : Router.Fault)
deriving DecidableEq

namespace Failure

def numbered (number : Nat) (cause : String) : String :=
  "    " ++ String.ofList (Decimal.digits number) ++ ": " ++ cause ++ "\n"

/-- Causes are numbered when there are several. -/
def renderCauses : List String → String
  | [] => ""
  | [cause] => "\nCaused by:\n    " ++ cause ++ "\n"
  | causes =>
      "\nCaused by:\n"
        ++ String.join (causes.mapIdx fun number cause => numbered number cause)

def render : Failure → String
  | unset message => "Error: " ++ message ++ "\n"
  | failed step causes => "Error: " ++ step ++ "\n" ++ renderCauses causes
  | unusable _ => ""

def exitCode : Failure → Nat
  | unusable _ => 101
  | _ => 1

end Failure

/-- What the start needs of the world around it. -/
structure Surroundings (m : Type → Type) where
  log : LogLine → m Unit
  openStore : String → m (Except StoreFault Unit)
  openCache : String → m (Except CacheFault Unit)
  /-- Listens at an address, or says why that cannot be done. -/
  listen : SocketAddress → m (Except String Unit)
  /-- Serves requests until a signal comes. -/
  serve : Router → m Signal

/-- Where lines of the log come from. -/
def serverTarget : String := "aicheck_server"

def configTarget : String := "aicheck_server::config"

def routesTarget : String := "aicheck_server::routes"

def scorerTarget : String := "aicheck_core::scorer::grpc"

variable {m : Type → Type} [Monad m] (world : Surroundings m)

def say (level : Level) (message : String) (fields : List (String × FieldValue))
    : ExceptT Failure m Unit :=
  world.log ⟨serverTarget, ⟨level, message, fields⟩⟩

def sayAll (target : String) : List Event → ExceptT Failure m Unit
  | [] => return ()
  | event :: events => do
      world.log ⟨target, event⟩
      sayAll target events

/-- The text of an address in the log. -/
def shownAddress (address : SocketAddress) : String := String.ofList address.render

def secret (config : Config) : ExceptT Failure m String :=
  match config.tokenSecret with
  | none => throw (.unset "JWT_SECRET must be set")
  | some secret => return secret

def storeFailure (fault : StoreFault) : Failure :=
  .failed "failed to connect to PostgreSQL" [fault.text]

/-- The name of the store, once it is ready. -/
def store (config : Config) : ExceptT Failure m String := do
  let name ←
    match config.databaseUrl with
    | none => do
        say world .warn
          "DATABASE_URL not set, using in-memory store (records are lost on restart)" []
        pure InMemory.backendName
    | some url => do
        match Postgres.checkAddress url with
        | .error fault => throw (storeFailure fault)
        | .ok () => pure ()
        match ← world.openStore url with
        | .error fault => throw (storeFailure fault)
        | .ok () => pure Postgres.backendName
  say world .info "Durable store ready" [("backend", .text name)]
  return name

/-- The fault of the server or client behind a fault of the cache is a cause of its own. -/
def cacheFailure (fault : CacheFault) : Failure :=
  let behind :=
    match fault with
    | .redis fault => [fault.text]
    | _ => []
  .failed "failed to connect to Redis" (fault.text :: behind)

def cache (config : Config) : ExceptT Failure m String := do
  let name ←
    match config.redisUrl with
    | none => do
        say world .warn "REDIS_URL not set, using in-process cache" []
        pure InMemory.backendName
    | some url => do
        match RedisCache.checkAddress url with
        | .error fault => throw (cacheFailure fault)
        | .ok () => pure ()
        match ← world.openCache url with
        | .error fault => throw (cacheFailure fault)
        | .ok () => pure RedisCache.backendName
  say world .info "Cache ready" [("backend", .text name)]
  return name

def scorer (config : Config) : ExceptT Failure m Unit := do
  match Scoring.Client.configure config.scorerAddress with
  | .error fault => throw (.failed "invalid IMAGE_PROCESSOR_ADDR" [fault.text])
  | .ok () => sayAll world scorerTarget [Scoring.Client.configuredEvent config.scorerAddress]

def router (config : Config) (secret storeName cacheName : String)
    : ExceptT Failure m Router := do
  let authority := Authority.make secret config.tokenAudience
  match Router.ofConfig config authority config.duplicateScope storeName cacheName with
  | .error fault => throw (.unusable fault)
  | .ok (router, events) =>
      sayAll world routesTarget events
      return router

def listen (address : SocketAddress) : ExceptT Failure m Unit := do
  match ← world.listen address with
  | .error reason => throw (.failed ("failed to bind " ++ shownAddress address) [reason])
  | .ok () => say world .info "Server listening" [("addr", .shown (shownAddress address))]

def farewell : Signal → String
  | .interrupt => "Received Ctrl+C, initiating graceful shutdown"
  | .terminate => "Received SIGTERM, initiating graceful shutdown"

/-- Starts the server, serves until a signal comes, and shuts down. -/
def run (given : Variables) : ExceptT Failure m Unit := do
  let (config, events) := Config.ofVariables given
  let address := config.socketAddress
  sayAll world configTarget events
  say world .info "AI Check server starting"
    [("addr", .shown (shownAddress address)), ("version", .text Answer.version)]
  let secret ← secret config
  let storeName ← store world config
  let cacheName ← cache world config
  scorer world config
  let router ← router world config secret storeName cacheName
  listen world address
  let signal ← world.serve router
  say world .info (farewell signal) []
  say world .info "AI Check server shutdown complete" []

/-- The variable that says which lines of the log are shown. -/
def filterName : String := "RUST_LOG"

def variableNames : List String := filterName :: Config.variableNames

/-- The filter of the log that the environment asks for. -/
def filterOf (given : Variables) : LogFilter :=
  match Config.valueOf? given filterName with
  | none => .standard
  | some text => .parse text

end Startup

end ImageVerification
