import ImageVerification.Fault.Connection

/-! Faults of a Redis server and of the client's work with it. -/

namespace ImageVerification

inductive RedisKind where
  | responseError | parseError | authenticationFailed | typeError | execAbortError
  | busyLoadingError | noScriptError | invalidClientConfig | moved | ask | tryAgain | clusterDown
  | crossSlot | masterDown | ioError | clientError | extensionError | readOnly
  | masterNameNotFoundBySentinel | noValidReplicasFoundBySentinel | emptySentinelList | notBusy
  | clusterConnectionNotFound | noSub
deriving DecidableEq

namespace RedisKind

def name : RedisKind → String
  | responseError => "ResponseError"
  | parseError => "ParseError"
  | authenticationFailed => "AuthenticationFailed"
  | typeError => "TypeError"
  | execAbortError => "ExecAbortError"
  | busyLoadingError => "BusyLoadingError"
  | noScriptError => "NoScriptError"
  | invalidClientConfig => "InvalidClientConfig"
  | moved => "Moved"
  | ask => "Ask"
  | tryAgain => "TryAgain"
  | clusterDown => "ClusterDown"
  | crossSlot => "CrossSlot"
  | masterDown => "MasterDown"
  | ioError => "IoError"
  | clientError => "ClientError"
  | extensionError => "ExtensionError"
  | readOnly => "ReadOnly"
  | masterNameNotFoundBySentinel => "MasterNameNotFoundBySentinel"
  | noValidReplicasFoundBySentinel => "NoValidReplicasFoundBySentinel"
  | emptySentinelList => "EmptySentinelList"
  | notBusy => "NotBusy"
  | clusterConnectionNotFound => "ClusterConnectionNotFound"
  | noSub => "NoSub"

def all : List RedisKind :=
  [responseError, parseError, authenticationFailed, typeError, execAbortError, busyLoadingError,
   noScriptError, invalidClientConfig, moved, ask, tryAgain, clusterDown, crossSlot, masterDown,
   ioError, clientError, extensionError, readOnly, masterNameNotFoundBySentinel,
   noValidReplicasFoundBySentinel, emptySentinelList, notBusy, clusterConnectionNotFound, noSub]

/-- The kind of an error reply by the code it starts with. -/
def ofCode? : String → Option RedisKind
  | "ERR" => some responseError
  | "EXECABORT" => some execAbortError
  | "LOADING" => some busyLoadingError
  | "NOSCRIPT" => some noScriptError
  | "MOVED" => some moved
  | "ASK" => some ask
  | "TRYAGAIN" => some tryAgain
  | "CLUSTERDOWN" => some clusterDown
  | "CROSSSLOT" => some crossSlot
  | "MASTERDOWN" => some masterDown
  | "READONLY" => some readOnly
  | "NOTBUSY" => some notBusy
  | "NOSUB" => some noSub
  | _ => none

end RedisKind

inductive RedisFault where
  | connection (fault : ConnectionFault)
  | failure (kind : RedisKind) (message : String) (detail : Option String)
  /-- A reply whose code the client does not know. -/
  | extension (code detail : String)
deriving DecidableEq

namespace RedisFault

def text : RedisFault → String
  | connection fault => fault.text
  | failure kind message none => message ++ "- " ++ kind.name
  | failure kind message (some detail) => message ++ " - " ++ kind.name ++ ": " ++ detail
  | extension code detail => code ++ ": " ++ detail

/-- Every fault of the connection counts, and of the replies those that ask for patience. -/
def transient : RedisFault → Bool
  | connection _ => true
  | failure kind _ _ => kind = .ioError || kind = .tryAgain || kind = .busyLoadingError
  | extension _ _ => false

instance : Fault RedisFault := ⟨text, transient, fun _ => "redis"⟩

end RedisFault

end ImageVerification
