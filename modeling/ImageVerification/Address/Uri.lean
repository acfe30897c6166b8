import ImageVerification.Encoding.Utf8

/-! Addresses that requests can be sent to: a scheme, an authority and a path.

An address is a path alone, an authority alone, or a scheme with an authority and perhaps a path.
-/

namespace ImageVerification

structure Uri where
  scheme : Option (List Char)
  authority : List Char
  path : List Char
deriving DecidableEq

namespace Uri

def isSchemeChar (c : Char) : Bool := c.isAlphanum || c == '+' || c == '-' || c == '.'

/-- The longest scheme. -/
def maxScheme : Nat := 64

/-- The most bytes of an address. -/
def maxLength : Nat := 65534

/-- The scheme and what follows its slashes; anything without slashes has no scheme. -/
def splitScheme? (cs : List Char) : Option (List Char × List Char) :=
  match cs.dropWhile isSchemeChar with
  | ':' :: '/' :: '/' :: rest =>
      if cs.length ≤ 3 then none else some (cs.takeWhile isSchemeChar, rest)
  | _ => none

def isAuthorityChar (c : Char) : Bool :=
  c.isAlphanum || "!$&'()*+,-.:;=@[]_~%".toList.contains c

def endsAuthority (c : Char) : Bool := c == '/' || c == '?' || c == '#'

/-- What has been seen of an authority since its user or its bracketed host ended. -/
structure AuthorityState where
  colons : Nat
  opened : Bool
  closed : Bool
  percent : Bool
  afterAt : Bool

def maxColons : Nat := 8

/-- Reads one character of an authority. -/
def step (state : AuthorityState) (c : Char) : Option AuthorityState :=
  let state := { state with afterAt := c == '@' }
  if c = ':' then
    if maxColons ≤ state.colons then none else some { state with colons := state.colons + 1 }
  else if c = '[' then
    if state.percent || state.opened then none else some { state with opened := true }
  else if c = ']' then
    if !state.opened || state.closed then none
    else some { state with closed := true, colons := 0, percent := false }
  else if c = '@' then some { state with colons := 0, percent := false }
  else if c = '%' then some { state with percent := true }
  else if isAuthorityChar c then some state
  else none

/-- A host has at most one port, closed brackets and no percent sign. -/
def isAuthority (cs : List Char) : Bool :=
  match cs.foldlM step ⟨0, false, false, false, false⟩ with
  | none => false
  | some state =>
      state.opened == state.closed && state.colons ≤ 1 && !state.afterAt && !state.percent

def isPathChar (c : Char) : Bool :=
  32 < c.toNat && c != '<' && c != '>' && c.toNat != 96

def isQueryChar (c : Char) : Bool :=
  32 < c.toNat && c != '"' && c != '#' && c != '<' && c != '>'

/-- The path with its query; a fragment is dropped unread. -/
def path? (cs : List Char) : Option (List Char) :=
  let path := cs.takeWhile fun c => c != '?' && c != '#'
  if !path.all isPathChar then none
  else
    match cs.dropWhile fun c => c != '?' && c != '#' with
    | '?' :: rest =>
        let query := rest.takeWhile (· != '#')
        if query.all isQueryChar then some (path ++ '?' :: query) else none
    | _ => some path

def authority? (cs : List Char) : Option Uri :=
  if !cs.isEmpty && !cs.any endsAuthority && isAuthority cs then some ⟨none, cs, []⟩ else none

def absolute? (scheme rest : List Char) : Option Uri :=
  let authority := rest.takeWhile fun c => !endsAuthority c
  if maxScheme < scheme.length || authority.isEmpty || !isAuthority authority then none
  else
    (path? (rest.dropWhile fun c => !endsAuthority c)).map fun path => ⟨scheme, authority, path⟩

def parse? (text : String) : Option Uri :=
  let cs := text.toList
  if maxLength < (Encoding.Utf8.encode text).length then none
  else if cs = ['*'] then some ⟨none, [], ['*']⟩
  else
    match cs with
    | '/' :: _ => (path? cs).map fun path => ⟨none, [], path⟩
    | _ =>
        match splitScheme? cs with
        | some (scheme, rest) => absolute? scheme rest
        | none => authority? cs

end Uri

end ImageVerification
