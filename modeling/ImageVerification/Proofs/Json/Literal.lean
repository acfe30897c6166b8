import ImageVerification.Json.Parser
import ImageVerification.Json.Writer

/-! Where numbers end: a reader of numbers stops at a character that no number has, and looks at
nothing after it.
-/

namespace ImageVerification.Json

open Json.Parser

/-- The characters that numbers are written with. -/
def IsNumeral (c : Char) : Prop := c.isDigit = true ∨ c ∈ ['.', 'e', 'E', '+', '-']

instance (c : Char) : Decidable (IsNumeral c) :=
  inferInstanceAs (Decidable (_ ∨ _))

theorem IsNumeral.ne {c mark : Char} (numeral : IsNumeral c) (other : ¬ IsNumeral mark)
    : c ≠ mark := by
  rintro rfl
  exact other numeral

/-- A reader that stops at a mark at the latest reads the same before it as at the end of a text,
and what it leaves is the end of what it was given.
-/
structure StopsAt {α : Type} (mark : Char) (read : List Char → Option (α × List Char)) : Prop where
  before : ∀ cs more,
    read (cs ++ mark :: more) = (read cs).map fun (result, rest) => (result, rest ++ mark :: more)
  leaves : ∀ cs result rest, read cs = some (result, rest) → rest <:+ cs

namespace StopsAt

variable {α β : Type} {mark : Char}

theorem pure (result : α) : StopsAt mark fun cs => some (result, cs) :=
  ⟨fun _ _ => rfl, fun cs _ rest same => by cases same; exact List.suffix_rfl⟩

theorem map {read : List Char → Option (α × List Char)} (stops : StopsAt mark read) (f : α → β)
    : StopsAt mark fun cs => (read cs).map fun (result, rest) => (f result, rest) := by
  refine ⟨fun cs more => ?_, fun cs result rest same => ?_⟩
  · rw [stops.before]
    cases read cs <;> rfl
  · obtain ⟨⟨inner, left⟩, found, same⟩ := Option.map_eq_some_iff.mp same
    cases same
    exact stops.leaves cs _ _ found

/-- Readers in a row stop where each of them does. -/
theorem bind {read : List Char → Option (α × List Char)}
    {next : α → List Char → Option (β × List Char)} (stops : StopsAt mark read)
    (nextStops : ∀ result, StopsAt mark (next result))
    : StopsAt mark fun cs => (read cs).bind fun (result, rest) => next result rest := by
  refine ⟨fun cs more => ?_, fun cs result rest same => ?_⟩
  · rw [stops.before]
    cases read cs with
    | none => rfl
    | some found => exact (nextStops found.1).before found.2 more
  · obtain ⟨⟨inner, left⟩, found, same⟩ := Option.bind_eq_some_iff.mp same
    exact ((nextStops inner).leaves left result rest same).trans (stops.leaves cs inner left found)

end StopsAt

variable {mark : Char}

theorem takeWhile_append_mark {p : Char → Bool} (stop : p mark = false) (cs more : List Char)
    : (cs ++ mark :: more).takeWhile p = cs.takeWhile p := by
  induction cs with
  | nil => simp [stop]
  | cons c cs ih => cases holds : p c <;> simp [holds, ih]

theorem dropWhile_append_mark {p : Char → Bool} (stop : p mark = false) (cs more : List Char)
    : (cs ++ mark :: more).dropWhile p = cs.dropWhile p ++ mark :: more := by
  induction cs with
  | nil => simp [stop]
  | cons c cs ih => cases holds : p c <;> simp [holds, ih]

/-- Reading digits stops at a mark that is no part of a number. -/
theorem digits?_stopsAt (other : ¬ IsNumeral mark) : StopsAt mark digits? := by
  have notDigit : mark.isDigit = false := by
    simpa using fun digit => other (.inl digit)
  refine ⟨fun cs more => ?_, fun cs result rest same => ?_⟩
  · unfold digits?
    rw [takeWhile_append_mark notDigit, dropWhile_append_mark notDigit]
    cases cs.takeWhile Char.isDigit <;> rfl
  · unfold digits? at same
    split at same
    · cases same
    · cases same
      exact List.dropWhile_suffix _

/-- So does reading a whole number. -/
theorem whole?_stopsAt (other : ¬ IsNumeral mark) : StopsAt mark whole? := by
  have digits := digits?_stopsAt other
  have notZero : mark ≠ '0' := (IsNumeral.ne (by decide) other).symm
  refine ⟨fun cs more => ?_, fun cs result rest same => ?_⟩
  · rcases cs with _ | ⟨c, cs⟩
    · rw [List.nil_append, whole?]
      · exact digits.before [] more
      · exact fun rest same => notZero (List.cons.inj same).1
    · by_cases zero : c = '0'
      -- A zero is a whole on its own, whatever comes next.
      · subst zero
        rfl
      · have same (rest : List Char) : whole? (c :: rest) = digits? (c :: rest) := by
          rw [whole?]
          exact fun rest same => zero (List.cons.inj same).1
        rw [List.cons_append, same, same]
        exact digits.before (c :: cs) more
  · unfold whole? at same
    split at same
    · cases same
      exact List.suffix_cons _ _
    · exact digits.leaves cs result rest same

/-- So does reading a fraction. -/
theorem fraction?_stopsAt (other : ¬ IsNumeral mark) : StopsAt mark fraction? := by
  have digits := (digits?_stopsAt other).map some
  have notPoint : mark ≠ '.' := (IsNumeral.ne (by decide) other).symm
  have plain {c : Char} (notPoint : c ≠ '.') (rest : List Char)
      : fraction? (c :: rest) = some (none, c :: rest) := by
    rw [fraction?]
    exact fun rest same => notPoint (List.cons.inj same).1
  refine ⟨fun cs more => ?_, fun cs result rest same => ?_⟩
  · rcases cs with _ | ⟨c, cs⟩
    · exact plain notPoint more
    · by_cases point : c = '.'
      · subst point
        exact digits.before cs more
      · rw [List.cons_append, plain point, plain point]
        rfl
  · unfold fraction? at same
    split at same
    · exact (digits.leaves _ result rest same).trans (List.suffix_cons _ _)
    · cases same
      exact List.suffix_rfl

theorem exponentSign_append (other : ¬ IsNumeral mark) (cs more : List Char)
    : exponentSign (cs ++ mark :: more)
      = ((exponentSign cs).1, (exponentSign cs).2 ++ mark :: more) := by
  have notMinus : mark ≠ '-' := (IsNumeral.ne (by decide) other).symm
  have notPlus : mark ≠ '+' := (IsNumeral.ne (by decide) other).symm
  have plain {c : Char} (notMinus : c ≠ '-') (notPlus : c ≠ '+') (rest : List Char)
      : exponentSign (c :: rest) = (false, c :: rest) := by
    rw [exponentSign]
    · exact fun rest same => notMinus (List.cons.inj same).1
    · exact fun rest same => notPlus (List.cons.inj same).1
  rcases cs with _ | ⟨c, cs⟩
  · exact plain notMinus notPlus more
  · by_cases minus : c = '-'
    · subst minus
      rfl
    · by_cases plus : c = '+'
      · subst plus
        rfl
      · rw [List.cons_append, plain minus plus, plain minus plus]
        rfl

theorem exponentSign_suffix (cs : List Char) : (exponentSign cs).2 <:+ cs := by
  unfold exponentSign
  split
  · exact List.suffix_cons _ _
  · exact List.suffix_cons _ _
  · exact List.suffix_rfl

/-- So does reading an exponent. -/
theorem exponent?_stopsAt (other : ¬ IsNumeral mark) : StopsAt mark exponent? := by
  have digits (negative : Bool) := (digits?_stopsAt other).map fun ds => some (negative, ds)
  have notLower : mark ≠ 'e' := (IsNumeral.ne (by decide) other).symm
  have notUpper : mark ≠ 'E' := (IsNumeral.ne (by decide) other).symm
  refine ⟨fun cs more => ?_, fun cs result rest same => ?_⟩
  · rcases cs with _ | ⟨c, cs⟩
    · simp [exponent?, notLower, notUpper]
    · simp only [List.cons_append, exponent?]
      split
      · rw [exponentSign_append other]
        exact (digits _).before (exponentSign cs).2 more
      · rfl
  · rcases cs with _ | ⟨c, cs⟩
    · cases same
      exact List.suffix_rfl
    · simp only [exponent?] at same
      split at same
      · have left := (digits _).leaves (exponentSign cs).2 result rest same
        exact (left.trans (exponentSign_suffix cs)).trans (List.suffix_cons _ _)
      · cases same
        exact List.suffix_rfl

/-- A number without a sign is read in three parts, and reading stops where each of them does. -/
theorem unsigned?_stopsAt (other : ¬ IsNumeral mark) (negative : Bool)
    : StopsAt mark (unsigned? negative) :=
  (whole?_stopsAt other).bind fun whole =>
    (fraction?_stopsAt other).bind fun fraction =>
      (exponent?_stopsAt other).bind fun exponent =>
        .pure ({ negative, whole, fraction, exponent } : Literal)

/-- Reading a number stops at a mark that is no part of one. -/
theorem literal?_stopsAt (other : ¬ IsNumeral mark) : StopsAt mark literal? := by
  have notMinus : mark ≠ '-' := (IsNumeral.ne (by decide) other).symm
  have plain {c : Char} (notMinus : c ≠ '-') (rest : List Char)
      : literal? (c :: rest) = unsigned? false (c :: rest) := by
    rw [literal?]
    exact fun rest same => notMinus (List.cons.inj same).1
  refine ⟨fun cs more => ?_, fun cs result rest same => ?_⟩
  · rcases cs with _ | ⟨c, cs⟩
    · rw [List.nil_append, plain notMinus]
      exact (unsigned?_stopsAt other false).before [] more
    · by_cases minus : c = '-'
      · subst minus
        exact (unsigned?_stopsAt other true).before cs more
      · rw [List.cons_append, plain minus, plain minus]
        exact (unsigned?_stopsAt other false).before (c :: cs) more
  · unfold literal? at same
    split at same
    · exact ((unsigned?_stopsAt other true).leaves _ result rest same).trans (List.suffix_cons _ _)
    · exact (unsigned?_stopsAt other false).leaves cs result rest same

/-! Numbers of 32 bits are written with the characters of numbers alone. -/

section Written

open Decimal

theorem isNumeral_of_mem_digits {n : Nat} {c : Char} (member : c ∈ digits n) : IsNumeral c :=
  .inl (Nat.isDigit_of_mem_toDigits (by decide) (by decide) member)

theorem isNumeral_of_mem_trimZeros {cs : List Char} (numerals : ∀ c ∈ cs, IsNumeral c) {c : Char}
    (member : c ∈ trimZeros cs)
    : IsNumeral c := by
  have kept := (List.dropWhile_sublist _).subset (List.mem_reverse.mp member)
  exact numerals c (List.mem_reverse.mp kept)

theorem positional_numerals {ds : List Char} (numerals : ∀ c ∈ ds, IsNumeral c) (exponent : Int)
    : ∀ c ∈ Layout.positional ds exponent, IsNumeral c := by
  have zero : IsNumeral '0' := by decide
  have point : IsNumeral '.' := by decide
  intro c member
  unfold Layout.positional at member
  split at member
  · simp only [List.mem_append, List.mem_cons, List.mem_replicate] at member
    rcases member with (rfl | rfl | ⟨-, rfl⟩) | member
    · exact zero
    · exact point
    · exact zero
    · exact numerals c member
  · dsimp only at member
    split at member
    · simp only [List.mem_append, List.mem_cons, List.mem_replicate, List.not_mem_nil,
        or_false] at member
      rcases member with (member | ⟨-, rfl⟩) | rfl | rfl
      · exact numerals c member
      · exact zero
      · exact point
      · exact zero
    · simp only [List.mem_append, List.mem_cons] at member
      rcases member with member | rfl | member
      · exact numerals c (List.mem_of_mem_take member)
      · exact point
      · exact numerals c (List.mem_of_mem_drop member)

theorem scientific_numerals {ds : List Char} (numerals : ∀ c ∈ ds, IsNumeral c) (exponent : Int)
    : ∀ c ∈ Layout.scientific ds exponent, IsNumeral c := by
  have marked : ∀ c ∈ 'e' :: (if exponent < 0 then '-' else '+') :: digits exponent.natAbs,
      IsNumeral c := by
    intro c member
    simp only [List.mem_cons] at member
    rcases member with rfl | rfl | member
    · decide
    · split <;> decide
    · exact isNumeral_of_mem_digits member
  intro c member
  match ds with
  | [] => exact marked c member
  | [d] =>
      rcases List.mem_cons.mp member with rfl | member
      · exact numerals c List.mem_cons_self
      · exact marked c member
  | d :: e :: rest =>
      simp only [Layout.scientific, List.cons_append] at member
      rcases List.mem_cons.mp member with rfl | member
      · exact numerals c List.mem_cons_self
      rcases List.mem_cons.mp member with rfl | member
      · decide
      rcases List.mem_append.mp (List.cons_append ▸ member) with member | member
      · exact numerals c (List.mem_cons_of_mem d member)
      · exact marked c member

/-- A number is written with nothing but the characters of numbers, in either layout. -/
theorem render_numerals (layout : Layout) (x : Scientific)
    : ∀ c ∈ layout.render x, IsNumeral c := by
  have kept : ∀ c ∈ trimZeros (digits x.significand), IsNumeral c :=
    fun c member => isNumeral_of_mem_trimZeros (fun c => isNumeral_of_mem_digits) member
  unfold Layout.render
  dsimp only
  split
  · exact positional_numerals kept _
  · exact scientific_numerals kept _

/-- So is a single, if it is written at all. -/
theorem text?_numerals {x : Binary32} {text : List Char} (written : x.text? = some text)
    : ∀ c ∈ text, IsNumeral c := by
  unfold Binary32.text? at written
  cases read : x.value with
  | nan => simp [renderValue?, read] at written
  | infinity negative => simp [renderValue?, read] at written
  | finite negative significand scale =>
      let body :=
        if significand = 0 then ['0', '.', '0']
        else Layout.single.render (shortest Binary.Format.single significand scale)
      have numerals : ∀ c ∈ body, IsNumeral c := by
        dsimp only [body]
        split
        · intro c member
          simp only [List.mem_cons, List.not_mem_nil, or_false] at member
          rcases member with rfl | rfl | rfl <;> decide
        · exact render_numerals _ _
      rw [read] at written
      obtain rfl : (if negative then '-' :: body else body) = text := Option.some.inj written
      intro c member
      cases negative with
      | false => exact numerals c member
      | true =>
          rcases List.mem_cons.mp member with rfl | member
          · decide
          · exact numerals c member

end Written

end ImageVerification.Json
