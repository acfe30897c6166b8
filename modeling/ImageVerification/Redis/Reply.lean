import ImageVerification.Encoding.Utf8
import ImageVerification.Fault.Redis
import ImageVerification.Text.Quoted

/-! Replies of a Redis server: how they are read, and what they mean as texts. -/

namespace ImageVerification.Redis

open Encoding

inductive Reply where
  | null
  | integer (value : Int)
  | status (text : String)
  | bulk (bytes : Bytes)
  | array (items : List Reply)
  | refusal (line : String)

namespace Reply

/-- The bytes up to the end of a line, and those after it. -/
def line? : Bytes → Option (Bytes × Bytes)
  | 13 :: 10 :: rest => some ([], rest)
  | byte :: rest => (line? rest).map fun (line, rest) => (byte :: line, rest)
  | [] => none

def integer? (line : Bytes) : Option Int :=
  (Utf8.decode? line).bind String.toInt?

/-- A length; a negative one stands for no value. -/
def length? (line : Bytes) : Option (Option Nat) :=
  (integer? line).map fun n => if n < 0 then none else some n.toNat

mutual

/-- The first reply of some bytes, and the bytes after it; `steps` bounds the number of lines. -/
def read? : Nat → Bytes → Option (Reply × Bytes)
  | 0, _ => none
  | _ + 1, [] => none
  | steps + 1, kind :: bytes => do
      let (line, rest) ← line? bytes
      match Char.ofNat kind.toNat with
      | '+' => return (.status (← Utf8.decode? line), rest)
      | '-' => return (.refusal (← Utf8.decode? line), rest)
      | ':' => return (.integer (← integer? line), rest)
      | '_' => return (.null, rest)
      | '$' =>
          match ← length? line with
          | none => return (.null, rest)
          | some length =>
              match rest.drop length with
              | 13 :: 10 :: after => return (.bulk (rest.take length), after)
              | _ => none
      | '*' =>
          match ← length? line with
          | none => return (.null, rest)
          | some count => do
              let (items, rest) ← readItems? steps count rest
              return (.array items, rest)
      | _ => none

def readItems? : Nat → Nat → Bytes → Option (List Reply × Bytes)
  | _, 0, bytes => some ([], bytes)
  | 0, _ + 1, _ => none
  | steps + 1, count + 1, bytes => do
      let (item, rest) ← read? steps bytes
      let (items, rest) ← readItems? steps count rest
      return (item :: items, rest)

end

/-- A whole reply. -/
def parse? (bytes : Bytes) : Option Reply := (read? (bytes.length + 1) bytes).map Prod.fst

/-- An error reply starts with a code; codes that the client knows give a kind. -/
def refused (line : String) : RedisFault :=
  let code := String.ofList (line.toList.takeWhile (· != ' '))
  let detail :=
    match line.toList.dropWhile (· != ' ') with
    | _ :: rest => some (String.ofList rest)
    | [] => none
  match RedisKind.ofCode? code with
  | some kind => .failure kind "An error was signalled by the server" detail
  | none => .extension code (detail.getD "Unknown extension error encountered")

mutual

/-- How a reply is shown where it makes no sense. -/
def shown : Reply → String
  | .null => "nil"
  | .integer value => "int(" ++ toString value ++ ")"
  | .status text => "simple-string(" ++ Text.quoted text ++ ")"
  | .bulk bytes =>
      match Utf8.decode? bytes with
      | some text => "bulk-string('" ++ Text.quoted text ++ "')"
      | none => "binary-data(" ++ toString (bytes.map UInt8.toNat) ++ ")"
  | .array items => "array([" ++ ", ".intercalate (allShown items) ++ "])"
  | .refusal line => "server-error(" ++ line ++ ")"

def allShown : List Reply → List String
  | [] => []
  | item :: items => shown item :: allShown items

end

def incompatible (reply : Reply) : RedisFault :=
  .failure .typeError "Response was of incompatible type"
    (some (Text.quoted "Response type not string compatible." ++ " (response was " ++ reply.shown
      ++ ")"))

/-- The text that a reply stands for. -/
def text : Reply → Except RedisFault String
  | .bulk bytes =>
      match Utf8.decode? bytes with
      | some text => .ok text
      | none => .error (.failure .typeError "Cannot convert from UTF-8" none)
  | .status text => .ok text
  | .integer value => .ok (toString value)
  | .refusal line => .error (refused line)
  | reply => .error (incompatible reply)

/-- The text that a reply stands for, unless it is the absent value. -/
def optionalText : Reply → Except RedisFault (Option String)
  | .null => .ok none
  | reply => reply.text.map some

/-- Whether a command was accepted, whatever the reply holds. -/
def accepted : Reply → Except RedisFault Unit
  | .refusal line => .error (refused line)
  | _ => .ok ()

end Reply

end ImageVerification.Redis
