import ImageVerification.Http.HeaderLines
import ImageVerification.Text.Quoted

/-! Forms sent in several parts, each with headers of its own, between boundary lines. -/

namespace ImageVerification.Http.Multipart

open Encoding

/-- Why a form cannot be read. -/
inductive Fault where
  | incompleteForm
  | incompleteField (name : Option String)
  | unreadableHeaders
  | unreadableBody
deriving DecidableEq

def Fault.text : Fault → String
  | .incompleteForm => "incomplete multipart stream"
  | .incompleteField name =>
      "field " ++ Text.quoted (name.getD "<unknown>") ++ " received with incomplete data"
  | .unreadableHeaders => "failed to read headers"
  | .unreadableBody => "failed to read stream"

structure Field where
  name : Option String
  contentType : Option String
  data : Bytes
deriving DecidableEq

def dashes : Bytes := [45, 45]

/-- The most headers of a field. -/
def maxHeaders : Nat := 32

def isSpaceByte (byte : UInt8) : Bool :=
  byte == 32 || byte == 9 || byte == 10 || byte == 12 || byte == 13

/-- The bytes up to a quote that no backslash precedes. -/
def quotedBytes (done : Bytes) : Bytes → Option Bytes
  | [] => none
  | byte :: rest =>
      if byte = 34 && done.head? != some 92 then some done.reverse
      else quotedBytes (byte :: done) rest

/-- The value of an attribute of a content disposition. Its label has to stand at the start, after
a blank, after a semicolon or after the same label out of place; `steps` bounds the labels out of
place. -/
def attribute? (label : Bytes) : Nat → Bytes → Option Bytes
  | 0, _ => none
  | steps + 1, bytes =>
      match splitAt label bytes with
      | none => none
      | some (before, found) =>
          let rest := found.drop label.length
          if before.getLast?.all fun byte => isSpaceByte byte || byte == 59 then
            match rest with
            | 34 :: quoted => quotedBytes [] quoted
            | plain => some (plain.takeWhile (· != 59))
          else attribute? label steps rest

def nameLabel : Bytes := Utf8.encode "name="

/-- The value of a header of a field; of several with the same name the last one counts. -/
def lastHeader? (headers : Headers) (name : String) : Option Bytes := headers.reverse.lookup name

def fieldName? (headers : Headers) : Option String := do
  let value ← lastHeader? headers "content-disposition"
  Utf8.decode? (← attribute? nameLabel value.length value)

/-- The content type of a field; one that is malformed counts as absent. -/
def fieldType? (headers : Headers) : Option String := do
  let value ← visible? (← lastHeader? headers "content-type")
  return String.ofList (← MediaType.parse? value).text

/-- What stands after a boundary: the end of the form, or the headers of the next field with the
bytes after them. -/
inductive Head where
  | ended
  | field (headers : Headers) (rest : Bytes)

def readHead (bytes : Bytes) : Except Fault Head :=
  if bytes.take 2 = dashes then .ok .ended
  else
    match bytes.dropWhile isBlankByte with
    | 13 :: 10 :: rest =>
        match splitAt (crlf ++ crlf) rest with
        | none => .error .incompleteForm
        | some (block, rest) =>
            match headerLines? maxHeaders block with
            | none => .error .unreadableHeaders
            | some headers => .ok (.field headers (rest.drop 4))
    | _ => .error .incompleteForm

/-- The fields after a boundary; `done` holds those before it, last first, and `steps` bounds the
number of boundaries. -/
def fieldsFrom (boundary : Bytes) (done : List Field) : Nat → Bytes → Except Fault (List Field)
  | 0, _ => .error .incompleteForm
  | steps + 1, bytes =>
      match readHead bytes with
      | .error fault => .error fault
      | .ok .ended => .ok done.reverse
      | .ok (.field headers rest) =>
          let name := fieldName? headers
          match splitAt (crlf ++ dashes ++ boundary) rest with
          | none => .error (.incompleteField name)
          | some (data, rest) =>
              fieldsFrom boundary (⟨name, fieldType? headers, data⟩ :: done) steps
                (rest.drop (4 + boundary.length))

/-- The fields of a form; whatever stands before the first boundary is skipped. -/
def parse (boundary : Bytes) (body : Bytes) : Except Fault (List Field) :=
  match splitAt (dashes ++ boundary) body with
  | none => .error .incompleteForm
  | some (_, rest) => fieldsFrom boundary [] body.length (rest.drop (2 + boundary.length))

/-- The boundary that the content type of a request announces. -/
def boundary? (contentType : Option Bytes) : Option Bytes := do
  let mediaType ← MediaType.parse? (← visible? (← contentType))
  if mediaType.kind = "multipart".toList && mediaType.baseSubkind = "form-data".toList then
    let value ← mediaType.parameters.lookup "boundary".toList
    return Utf8.encode (String.ofList value)
  else none

/-- A field as a client sends it. -/
structure Part where
  name : Option String
  fileName : Option String
  contentType : Option String
  data : Bytes
deriving DecidableEq

def writeAttribute (label : String) : Option String → String
  | some value => "; " ++ label ++ "=\"" ++ value ++ "\""
  | none => ""

def writeType : Option String → String
  | some value => "Content-Type: " ++ value ++ "\r\n"
  | none => ""

def Part.write (boundary : String) (part : Part) : Bytes :=
  Utf8.encode ("--" ++ boundary ++ "\r\nContent-Disposition: form-data"
      ++ writeAttribute "name" part.name ++ writeAttribute "filename" part.fileName ++ "\r\n"
      ++ writeType part.contentType ++ "\r\n")
    ++ part.data ++ crlf

def ending (boundary : String) : Bytes := Utf8.encode ("--" ++ boundary ++ "--\r\n")

/-- The body of a form, with or without the line that ends it. -/
def write (boundary : String) (ended : Bool) (parts : List Part) : Bytes :=
  parts.flatMap (Part.write boundary) ++ (if ended then ending boundary else [])

/-- The content type that announces a boundary. -/
def announce (boundary : String) : Bytes :=
  Utf8.encode ("multipart/form-data; boundary=" ++ boundary)

end ImageVerification.Http.Multipart
