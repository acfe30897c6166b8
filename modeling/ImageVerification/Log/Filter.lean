import ImageVerification.Log.Line
import ImageVerification.Text.Blank

/-! Which lines of the log are shown.

A filter is a list of rules between commas. Of the rules whose target starts the target of a line,
the one with the longest target decides; a rule without a target starts every line's.
-/

namespace ImageVerification

/-- Events of a rank up to `most` are shown. -/
structure LogRule where
  target : List Char
  most : Nat
deriving DecidableEq

structure LogFilter where
  rules : List LogRule
deriving DecidableEq

namespace LogFilter

/-- The rank of a level by its name or its number; zero shows nothing. -/
def rank? (name : List Char) : Option Nat :=
  match Text.lower (String.ofList name) with
  | "off" | "0" => some 0
  | "error" | "1" => some 1
  | "warn" | "2" => some 2
  | "info" | "3" => some 3
  | "debug" | "4" => some 4
  | "trace" | "5" => some 5
  | _ => none

def isTargetChar (c : Char) : Bool := c.isAlphanum || c == '_' || c == ':' || c == '-'

/-- A level alone, a target alone, which shows everything, or a target with a level. -/
def rule? (text : List Char) : Option LogRule :=
  match rank? text with
  | some most => some ⟨[], most⟩
  | none =>
      let target := text.takeWhile isTargetChar
      if target.isEmpty then none
      else
        match text.dropWhile isTargetChar with
        | [] => some ⟨target, 5⟩
        | ['='] => some ⟨target, 5⟩
        | '=' :: level => (rank? level).map fun most => ⟨target, most⟩
        | _ => none

/-- Shown when nothing is said about the log. -/
def standard : LogFilter := ⟨[⟨[], 3⟩]⟩

/-- An empty filter shows errors only. -/
def onlyErrors : LogFilter := ⟨[⟨[], 1⟩]⟩

/-- A filter with a rule that cannot be read is the standard one. -/
def parse (text : String) : LogFilter :=
  let parts := (text.splitOn ",").filter fun part => !part.isEmpty
  if parts.isEmpty then onlyErrors
  else
    match parts.mapM fun part => rule? part.toList with
    | some rules => ⟨rules⟩
    | none => standard

def better (best : Option LogRule) (rule : LogRule) : Option LogRule :=
  match best with
  | some found => if found.target.length ≤ rule.target.length then some rule else best
  | none => some rule

/-- The rule that decides about a target; of equal ones the last. -/
def deciding? (filter : LogFilter) (target : String) : Option LogRule :=
  (filter.rules.filter fun rule => rule.target.isPrefixOf target.toList).foldl better none

def shows (filter : LogFilter) (line : LogLine) : Bool :=
  (filter.deciding? line.target).any fun rule => line.event.level.rank ≤ rule.most

end LogFilter

end ImageVerification
