import ImageVerification.Text.Blank

/-! Media types: a type, a subtype and parameters.

Blanks are allowed only after the semicolon in front of a parameter and after a quoted value.
-/

namespace ImageVerification.Http

structure MediaType where
  kind : List Char
  subkind : List Char
  /-- Names in lower case, values as written. -/
  parameters : List (List Char × List Char)
  /-- The whole text, with everything in lower case that does not depend on case. -/
  text : List Char
deriving DecidableEq

namespace MediaType

def isTokenChar (c : Char) : Bool :=
  c.isAlphanum || "!#$%&'*+-.^_`|~".toList.contains c

def isQuotedChar (c : Char) : Bool := 31 < c.toNat && c.toNat != 127

def lower (cs : List Char) : List Char := cs.map Char.toLower

/-- A parameter as it was written, with its value and what stood between. -/
structure Parameter where
  name : List Char
  value : List Char
  written : List Char
deriving DecidableEq

/-- The value of `charset` does not depend on case. -/
def Parameter.render (parameter : Parameter) : List Char :=
  let name := lower parameter.name
  name ++ '=' :: (if name = "charset".toList then lower parameter.written else parameter.written)

/-- The rest of a quoted value: a quote that is not its first character ends it. -/
def quotedValue (done : List Char) : List Char → Option (List Char × List Char)
  | [] => none
  | c :: rest =>
      if c = '"' && !done.isEmpty then some (done.reverse, rest)
      else if isQuotedChar c then quotedValue (c :: done) rest
      else none

/-- What may follow a quoted value: blanks, then the end or a semicolon. -/
def afterQuoted : List Char → Option (List Char × List Char)
  | [] => some ([], [])
  | ';' :: rest => some ([';'], rest)
  | ' ' :: rest => (afterQuoted rest).map fun (blank, rest) => (' ' :: blank, rest)
  | _ => none

/-- A value with what follows it up to the next parameter. -/
def value? (cs : List Char) : Option ((List Char × List Char) × List Char) :=
  match cs with
  | '"' :: rest => do
      let (value, rest) ← quotedValue [] rest
      let (tail, rest) ← afterQuoted rest
      return ((value, '"' :: value ++ '"' :: tail), rest)
  | _ =>
      let value := cs.takeWhile isTokenChar
      match cs.dropWhile isTokenChar with
      | [] => some ((value, value), [])
      | ';' :: rest => if value.isEmpty then none else some ((value, value ++ [';']), rest)
      | _ => none

/-- The parameters after a semicolon, with the blanks in front of each; `steps` bounds their
number. -/
def parameters? : Nat → List Char → Option (List (List Char × Parameter))
  | 0, _ => some []
  | steps + 1, cs =>
      let blanks := cs.takeWhile (· == ' ')
      let cs := cs.dropWhile (· == ' ')
      if cs.isEmpty then some []
      else
        let name := cs.takeWhile isTokenChar
        match name, cs.dropWhile isTokenChar with
        | _ :: _, '=' :: rest => do
            let ((value, written), rest) ← value? rest
            let others ← parameters? steps rest
            return (blanks, ⟨name, value, written⟩) :: others
        | _, _ => none

def parse? (cs : List Char) : Option MediaType :=
  let kind := cs.takeWhile isTokenChar
  match kind, cs.dropWhile isTokenChar with
  | _ :: _, '/' :: rest =>
      let subkind := rest.takeWhile isTokenChar
      let essence := lower kind ++ '/' :: lower subkind
      match subkind, rest.dropWhile isTokenChar with
      | _, [] => some ⟨lower kind, lower subkind, [], essence⟩
      | _ :: _, ';' :: rest => do
          let found ← parameters? (rest.length + 1) rest
          let written := found.flatMap fun (blanks, parameter) => blanks ++ parameter.render
          return {
            kind := lower kind
            subkind := lower subkind
            parameters := found.map fun (_, parameter) => (lower parameter.name, parameter.value)
            text := if found.isEmpty then essence else essence ++ ';' :: written
          }
      | _, _ => none
  | _, _ => none

/-- The subtype without the suffix after its last plus sign. -/
def baseSubkind (mediaType : MediaType) : List Char :=
  match mediaType.subkind.reverse.dropWhile (· != '+') with
  | _ :: before => if before.isEmpty then mediaType.subkind else before.reverse
  | [] => mediaType.subkind

end MediaType

end ImageVerification.Http
