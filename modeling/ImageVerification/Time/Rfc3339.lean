import ImageVerification.Decimal.Notation
import ImageVerification.Text.Blank
import ImageVerification.Time.Timestamp

/-! Timestamps as text in the form of RFC 3339.

Writing uses UTC and the fewest of 0, 3, 6 or 9 fraction digits. Reading is more lenient: it allows
blanks between the parts, short numbers, years with a sign and any offset of less than a day.
-/

namespace ImageVerification.Timestamp

/-- Digits padded with zeros to a least width. -/
def padded (width n : Nat) : List Char :=
  let ds := Decimal.digits n
  List.replicate (width - ds.length) '0' ++ ds

def renderYear (year : Int) : List Char :=
  if 0 ≤ year ∧ year ≤ 9999 then padded 4 year.natAbs
  else (if year < 0 then '-' else '+') :: padded 4 year.natAbs

def renderFraction (nanos : Nat) : List Char :=
  if nanos = 0 then []
  else if nanos % 1000000 = 0 then '.' :: padded 3 (nanos / 1000000)
  else if nanos % 1000 = 0 then '.' :: padded 6 (nanos / 1000)
  else '.' :: padded 9 nanos

def render (t : Timestamp) : List Char :=
  let date := Civil.ofDay (t.seconds / 86400)
  let inDay := (t.seconds % 86400).toNat
  let leap := t.nanos / 1000000000
  renderYear date.year ++ '-' :: padded 2 date.month ++ '-' :: padded 2 date.day
    ++ 'T' :: padded 2 (inDay / 3600) ++ ':' :: padded 2 (inDay / 60 % 60)
    ++ ':' :: padded 2 (inDay % 60 + leap) ++ renderFraction (t.nanos % 1000000000) ++ ['Z']

namespace Reader

def digitsValue (ds : List Char) : Nat := ds.foldl (fun n d => n * 10 + (d.toNat - 48)) 0

/-- A number of at most `width` digits. -/
def number? (width : Nat) (cs : List Char) : Option (Nat × List Char) :=
  let ds := (cs.take width).takeWhile Char.isDigit
  if ds.isEmpty then none else some (digitsValue ds, cs.drop ds.length)

/-- A number with blanks before it. -/
def field? (width : Nat) (cs : List Char) : Option (Nat × List Char) :=
  number? width (Text.trimStart cs)

/-- Years without a sign have at most four digits. -/
def year? (cs : List Char) : Option (Int × List Char) :=
  match Text.trimStart cs with
  | '-' :: rest => (number? rest.length rest).map fun (n, rest) => (-(n : Int), rest)
  | '+' :: rest => (number? rest.length rest).map fun (n, rest) => ((n : Int), rest)
  | rest => (number? 4 rest).map fun (n, rest) => ((n : Int), rest)

/-- A separator with blanks before it. -/
def separator? (mark : Char) (cs : List Char) : Option (List Char) :=
  match Text.trimStart cs with
  | c :: rest => if c = mark then some rest else none
  | [] => none

def dateSeparator? : List Char → Option (List Char)
  | c :: rest => if c = 'T' || c = 't' || c = ' ' then some rest else none
  | [] => none

/-- A fraction of a second in nanoseconds; digits after the ninth are dropped. -/
def fraction? : List Char → Option (Nat × List Char)
  | '.' :: rest =>
      (number? 9 rest).map fun (n, after) =>
        (n * Nat.pow 10 (9 - (rest.length - after.length)), after.dropWhile Char.isDigit)
  | cs => some (0, cs)

def twoDigits? : List Char → Option (Nat × List Char)
  | a :: b :: rest =>
      if a.isDigit && b.isDigit then some (digitsValue [a, b], rest) else none
  | _ => none

/-- The seconds of an offset after its sign. -/
def offsetSize? (cs : List Char) : Option (Nat × List Char) := do
  let (hours, cs) ← twoDigits? cs
  let (minutes, cs) ← twoDigits? (cs.dropWhile fun c => c = ':' || Text.isBlank c)
  if minutes < 60 then some (hours * 3600 + minutes * 60, cs) else none

/-- The seconds east of UTC. -/
def offset? : List Char → Option (Int × List Char)
  | [] => none
  | c :: rest =>
      if c = 'Z' || c = 'z' then some (0, rest)
      else if c = '+' then (offsetSize? rest).map fun (n, rest) => ((n : Int), rest)
      else if c = '-' || c = '−' then (offsetSize? rest).map fun (n, rest) => (-(n : Int), rest)
      else none

def zone? (cs : List Char) : Option (Int × List Char) :=
  match cs with
  | a :: b :: c :: rest =>
      if a.toLower = 'u' && b.toLower = 't' && c.toLower = 'c' then some (0, rest) else offset? cs
  | _ => offset? cs

end Reader

open Reader in
/-- Reads a whole text. -/
def parse? (cs : List Char) : Option Timestamp := do
  let (year, cs) ← year? cs
  let cs ← separator? '-' cs
  let (month, cs) ← field? 2 cs
  let cs ← separator? '-' cs
  let (day, cs) ← field? 2 cs
  let cs ← dateSeparator? cs
  let (hour, cs) ← field? 2 cs
  let cs ← separator? ':' cs
  let (minute, cs) ← field? 2 cs
  let cs ← separator? ':' cs
  let (second, cs) ← field? 2 cs
  let (nanos, cs) ← fraction? cs
  let (offset, cs) ← zone? (Text.trimStart cs)
  let date : Civil.Date := ⟨year, month, day⟩
  if (Text.trimStart cs).isEmpty && date.isValid && hour < 24 && minute < 60 && second ≤ 60
      && -262143 ≤ year && year ≤ 262142 && offset.natAbs < 86400 then
    let leap := second / 60
    let inDay : Int := (hour * 3600 + minute * 60 + (second - leap) : Nat)
    of? (date.toDay * 86400 + inDay - offset) (nanos + leap * 1000000000)
  else none

end ImageVerification.Timestamp
