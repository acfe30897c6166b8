import ImageVerification.Decimal.Notation
import ImageVerification.Http.HeaderLines

/-! Requests and responses as they travel on a connection, one of each. -/

namespace ImageVerification.Http

open Encoding

/-- What has arrived on a connection so far. -/
inductive Arrival where
  | incomplete
  | malformed
  | complete (request : Request)

/-- The most headers of a request. -/
def maxRequestHeaders : Nat := 100

/-- The method and the target of a request line. -/
def requestLine? (line : Bytes) : Option (String × String) := do
  let text ← Utf8.decode? line
  match text.splitOn " " with
  | [method, target, _] => some (method, target)
  | _ => none

/-- Reads the request of a client, as far as it has arrived. Without an announced length it has no
body. -/
def Arrival.ofBytes (peer : Option SocketAddress) (bytes : Bytes) : Arrival :=
  match splitAt (crlf ++ crlf) bytes with
  | none => incomplete
  | some (head, rest) =>
      let (line, block) := (splitAt crlf head).getD (head, [])
      match requestLine? line, headerLines? maxRequestHeaders (block.drop 2) with
      | some (method, target), some headers =>
          let body := rest.drop 4
          let length := (announcedLength? headers).getD 0
          if body.length < length then incomplete
          else complete ⟨method, target, headers, body.take length, peer⟩
      | _, _ => malformed

/-- The bytes of a response, after which the connection is closed. -/
def Response.toBytes (response : Response) : Bytes :=
  let body := Utf8.encode response.body
  let headers := response.headers
    ++ [("content-length", String.ofList (Decimal.digits body.length)), ("connection", "close")]
  let fields := headers.map fun (name, value) => name ++ ": " ++ value ++ "\r\n"
  Utf8.encode ("HTTP/1.1 " ++ String.ofList (Decimal.digits response.status) ++ " \r\n"
      ++ String.join fields ++ "\r\n")
    ++ body

end ImageVerification.Http
