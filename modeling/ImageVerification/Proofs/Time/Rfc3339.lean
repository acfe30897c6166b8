import ImageVerification.Proofs.Json.Escape
import ImageVerification.Proofs.Time.Calendar
import ImageVerification.Time.Rfc3339

/-! Every timestamp is read back from its text. -/

namespace ImageVerification.Timestamp

open Reader Text

theorem isBlank_of_isDigit {c : Char} (digit : c.isDigit = true) : isBlank c = false := by
  obtain ⟨atLeast, atMost⟩ := Char.isDigit_iff_toNat.mp digit
  have least : '0'.toNat = 48 := rfl
  have greatest : '9'.toNat = 57 := rfl
  simp only [isBlank, Bool.or_eq_false_iff, Bool.and_eq_false_iff, decide_eq_false_iff_not,
    beq_eq_false_iff_ne]
  omega

theorem trimStart_of_isDigit {c : Char} (digit : c.isDigit = true) (rest : List Char)
    : trimStart (c :: rest) = c :: rest := by
  simp [trimStart, isBlank_of_isDigit digit]

/-- Padding adds zeros, which are digits. -/
theorem isDigit_of_mem_padded {width n : Nat} {c : Char} (member : c ∈ padded width n)
    : c.isDigit = true := by
  rcases List.mem_append.mp member with zero | digit
  · rw [(List.mem_replicate.mp zero).2]
    rfl
  · exact Nat.isDigit_of_mem_toDigits (by decide) (by decide) digit

theorem digitsValue_eq (ds : List Char) : digitsValue ds = Nat.ofDigitChars 10 ds 0 := by
  have step
      : (fun n (d : Char) => n * 10 + (d.toNat - 48))
        = fun n d => 10 * n + (d.toNat - '0'.toNat) := by
    funext n d
    rw [Nat.mul_comm]
    rfl
  rw [digitsValue, step, Nat.ofDigitChars_eq_foldl]

/-- A padded number is read as the number, whatever its width. -/
theorem digitsValue_padded (width n : Nat) : digitsValue (padded width n) = n := by
  rw [digitsValue_eq, padded, Nat.ofDigitChars_append, Nat.ofDigitChars_replicate_zero,
    Nat.mul_zero, Decimal.digits, Nat.ofDigitChars_ten_toDigits]

theorem exists_padded_eq_cons (width n : Nat)
    : ∃ c rest, padded width n = c :: rest ∧ c.isDigit = true := by
  cases written : padded width n with
  | nil => exact absurd (List.append_eq_nil_iff.mp written).2 Nat.toDigits_ne_nil
  | cons c rest => exact ⟨c, rest, rfl, isDigit_of_mem_padded (written ▸ List.mem_cons_self)⟩

/-- A number that is not too long is as wide as it is padded. -/
theorem length_padded {width n : Nat} (positive : 0 < width) (small : n < Nat.pow 10 width)
    : (padded width n).length = width := by
  have fits : (Decimal.digits n).length ≤ width :=
    (Nat.length_toDigits_le_iff (by decide) positive).mpr small
  rw [padded, List.length_append, List.length_replicate]
  omega

/-- What is not the start of more digits. -/
def NoDigit (rest : List Char) : Prop := ∀ c ∈ rest.head?, c.isDigit = false

theorem takeWhile_take_of_noDigit {rest : List Char} (ends : NoDigit rest) (left : Nat)
    : (rest.take left).takeWhile Char.isDigit = [] := by
  cases rest with
  | nil => simp
  | cons c rest =>
      have notDigit : c.isDigit = false := ends c rfl
      cases left <;> simp [notDigit]

/-- A number is read up to its width or up to a character that is no digit. -/
theorem number?_padded {width size n : Nat} (rest : List Char)
    (fits : (padded width n).length ≤ size)
    (ends : (padded width n).length = size ∨ NoDigit rest)
    : number? size (padded width n ++ rest) = some (n, rest) := by
  have nothingMore
      : (rest.take (size - (padded width n).length)).takeWhile Char.isDigit = [] := by
    rcases ends with full | notDigit
    · rw [full, Nat.sub_self]
      rfl
    · exact takeWhile_take_of_noDigit notDigit _
  have digits : ((padded width n ++ rest).take size).takeWhile Char.isDigit = padded width n := by
    rw [List.take_append, List.take_of_length_le fits,
      List.takeWhile_append_of_pos fun c member => isDigit_of_mem_padded member, nothingMore,
      List.append_nil]
  obtain ⟨c, others, written, -⟩ := exists_padded_eq_cons width n
  have nonempty : (padded width n).isEmpty = false := by rw [written]; rfl
  simp only [number?, digits, nonempty, digitsValue_padded, List.drop_left, Bool.false_eq_true,
    if_false]

/-- A padded number is read back from the front of a text, with the rest left. -/
theorem field?_padded {width n : Nat} (positive : 0 < width) (small : n < Nat.pow 10 width)
    (rest : List Char)
    : field? width (padded width n ++ rest) = some (n, rest) := by
  have length := length_padded positive small
  have read := number?_padded rest (Nat.le_of_eq length) (.inl length)
  obtain ⟨c, others, written, digit⟩ := exists_padded_eq_cons width n
  rw [written, List.cons_append] at read ⊢
  rw [field?, trimStart_of_isDigit digit, read]

theorem separator?_cons (mark : Char) (visible : isBlank mark = false) (rest : List Char)
    : separator? mark (mark :: rest) = some rest := by
  simp [separator?, trimStart, visible]

/-- Years are told apart by their first character: a digit, or the sign of a year that does not have
four digits.
-/
theorem year?_renderYear (year : Int) (rest : List Char)
    : year? (renderYear year ++ '-' :: rest) = some (year, '-' :: rest) := by
  have ends : NoDigit ('-' :: rest) := by
    intro c same
    cases same
    rfl
  have whole : (padded 4 year.natAbs).length ≤ (padded 4 year.natAbs ++ '-' :: rest).length := by
    simp
  by_cases short : 0 ≤ year ∧ year ≤ 9999
  · have small : year.natAbs < Nat.pow 10 4 := by
      have value : Nat.pow 10 4 = 10000 := rfl
      omega
    have length := length_padded (by decide) small
    have read := number?_padded ('-' :: rest) (Nat.le_of_eq length) (.inl length)
    obtain ⟨c, others, written, digit⟩ := exists_padded_eq_cons 4 year.natAbs
    rw [renderYear, if_pos short]
    rw [written, List.cons_append] at read ⊢
    have notMinus : c ≠ '-' := by
      rintro rfl
      cases digit
    have notPlus : c ≠ '+' := by
      rintro rfl
      cases digit
    rw [year?, trimStart_of_isDigit digit]
    split
    · next same => exact absurd (List.cons.inj same).1 notMinus
    · next same => exact absurd (List.cons.inj same).1 notPlus
    · rw [read]
      simp only [Option.map_some, Option.some.injEq, Prod.mk.injEq, and_true]
      omega
  -- After a sign all digits are read, however many there are.
  · have read := number?_padded ('-' :: rest) whole (.inr ends)
    rw [renderYear, if_neg short, List.cons_append]
    by_cases negative : year < 0
    · rw [if_pos negative, year?, show trimStart ('-' :: _) = '-' :: _ from rfl]
      simp only [read, Option.map_some, Option.some.injEq, Prod.mk.injEq, and_true]
      omega
    · rw [if_neg negative, year?, show trimStart ('+' :: _) = '+' :: _ from rfl]
      simp only [read, Option.map_some, Option.some.injEq, Prod.mk.injEq, and_true]
      omega

/-- A fraction with a number of places up to nine is scaled to nanoseconds. -/
theorem fraction?_padded {places n : Nat} (positive : 0 < places) (atMost : places ≤ 9)
    (small : n < Nat.pow 10 places)
    : fraction? ('.' :: padded places n ++ ['Z']) = some (n * Nat.pow 10 (9 - places), ['Z']) := by
  have length := length_padded positive small
  have ends : NoDigit ['Z'] := by
    intro c same
    cases same
    rfl
  have read := number?_padded ['Z'] (Nat.le_trans (Nat.le_of_eq length) atMost) (.inr ends)
  have last : ['Z'].dropWhile Char.isDigit = ['Z'] := rfl
  rw [List.cons_append, fraction?, read]
  simp [length, last]

/-- A written fraction of a second is read back; by cases on how many digits it is written with. -/
theorem fraction?_renderFraction {nanos : Nat} (small : nanos < 1000000000)
    : fraction? (renderFraction nanos ++ ['Z']) = some (nanos, ['Z']) := by
  unfold renderFraction
  split
  · next none =>
      rw [none]
      rfl
  split
  · next millis =>
      have three : nanos / 1000000 < Nat.pow 10 3 := by
        have value : Nat.pow 10 3 = 1000 := rfl
        omega
      rw [fraction?_padded (by decide) (by decide) three]
      have scale : Nat.pow 10 (9 - 3) = 1000000 := rfl
      rw [scale, Nat.div_mul_cancel (Nat.dvd_of_mod_eq_zero millis)]
  split
  · next micros =>
      have six : nanos / 1000 < Nat.pow 10 6 := by
        have value : Nat.pow 10 6 = 1000000 := rfl
        omega
      rw [fraction?_padded (by decide) (by decide) six]
      have scale : Nat.pow 10 (9 - 6) = 1000 := rfl
      rw [scale, Nat.div_mul_cancel (Nat.dvd_of_mod_eq_zero micros)]
  · rw [fraction?_padded (by decide) (by decide) small]
    have scale : Nat.pow 10 (9 - 9) = 1 := rfl
    rw [scale, Nat.mul_one]

/-- The parts of a text are read one after the other. -/
theorem parse?_parts {year : Int} {month day hour minute second nanos : Nat} {fraction : List Char}
    (monthFits : month < 100) (dayFits : day < 100) (hourFits : hour < 100)
    (minuteFits : minute < 100) (secondFits : second < 100)
    (read : fraction? (fraction ++ ['Z']) = some (nanos, ['Z']))
    : parse?
        (renderYear year ++ '-' :: padded 2 month ++ '-' :: padded 2 day
          ++ 'T' :: padded 2 hour ++ ':' :: padded 2 minute ++ ':' :: padded 2 second
          ++ fraction ++ ['Z'])
      = if (⟨year, month, day⟩ : Civil.Date).isValid && hour < 24 && minute < 60 && second ≤ 60
            && -262143 ≤ year && year ≤ 262142 then
          of? ((⟨year, month, day⟩ : Civil.Date).toDay * 86400
              + (hour * 3600 + minute * 60 + (second - second / 60) : Nat))
            (nanos + second / 60 * 1000000000)
        else none := by
  have two {n : Nat} (fits : n < 100) (rest : List Char)
      : field? 2 (padded 2 n ++ rest) = some (n, rest) :=
    field?_padded (by decide) fits rest
  have dash (rest : List Char) := separator?_cons '-' rfl rest
  have colon (rest : List Char) := separator?_cons ':' rfl rest
  have zulu : zone? (trimStart ['Z']) = some (0, []) := rfl
  have dateEnds (rest : List Char) : dateSeparator? ('T' :: rest) = some rest := rfl
  simp only [List.append_assoc, List.cons_append]
  rw [parse?, year?_renderYear]
  simp only [↓Option.bind_eq_bind, ↓Option.bind_some, dash, colon, two monthFits, two dayFits,
    two hourFits, two minuteFits, two secondFits, dateEnds, read, zulu]
  simp [trimStart]

/-- Every timestamp is read back from its text, leap seconds included. -/
theorem parse?_render (t : Timestamp) : parse? t.render = some t := by
  have least := t.seconds_ge
  have greatest := t.seconds_le
  have nanos_lt := t.nanos_lt
  have leap := t.leap
  let inDay := (t.seconds % 86400).toNat
  let second := inDay % 60 + t.nanos / 1000000000
  have valid := Civil.isValid_ofDay (t.seconds / 86400)
  have years := Civil.year_ofDay (t.seconds / 86400) (by omega) (by omega)
  obtain ⟨month, day⟩ := Civil.le_of_isValid valid
  have back := Civil.toDay_ofDay (t.seconds / 86400)
  have hourFits : inDay / 3600 < 24 := by omega
  have minuteFits : inDay / 60 % 60 < 60 := Nat.mod_lt _ (by decide)
  have secondFits : second ≤ 60 := by omega
  -- A second that the clock shows as the 60th is the 59th with a leap second in it.
  have leapBack : second / 60 = t.nanos / 1000000000 := by omega
  have seconds
      : (Civil.ofDay (t.seconds / 86400)).toDay * 86400
          + (inDay / 3600 * 3600 + inDay / 60 % 60 * 60 + (second - second / 60) : Nat)
        = t.seconds := by
    rw [back]
    omega
  have nanos : t.nanos % 1000000000 + second / 60 * 1000000000 = t.nanos := by omega
  rw [render, parse?_parts (by omega) (by omega) (by omega) (by omega) (by omega)
    (fraction?_renderFraction (Nat.mod_lt _ (by decide)))]
  rw [if_pos, seconds, nanos, of?, dif_pos ⟨least, greatest, nanos_lt, leap⟩]
  simp only [Bool.and_eq_true, decide_eq_true_eq]
  exact ⟨⟨⟨⟨⟨valid, hourFits⟩, minuteFits⟩, secondFits⟩, years.1⟩, years.2⟩

/-! Texts of timestamps hold digits and a few marks, none of which is escaped in a document. -/

theorem writtenPlainly_of_mem_padded {width n : Nat} {c : Char} (member : c ∈ padded width n)
    : Json.WrittenPlainly c := by
  obtain ⟨atLeast, atMost⟩ := Char.isDigit_iff_toNat.mp (isDigit_of_mem_padded member)
  have least : '0'.toNat = 48 := rfl
  have greatest : '9'.toNat = 57 := rfl
  refine ⟨?_, ?_, by omega⟩
  · rintro rfl
    exact absurd atLeast (by decide)
  · rintro rfl
    exact absurd atMost (by decide)

/-- A written time needs no escapes. -/
theorem writtenPlainly_of_mem_render (t : Timestamp) : ∀ c ∈ t.render, Json.WrittenPlainly c := by
  have number (width n : Nat) : ∀ c ∈ padded width n, Json.WrittenPlainly c :=
    fun c member => writtenPlainly_of_mem_padded member
  have year (year : Int) : ∀ c ∈ renderYear year, Json.WrittenPlainly c := by
    unfold renderYear
    split
    · exact number _ _
    · refine List.forall_mem_cons.mpr ⟨?_, number _ _⟩
      split <;> decide
  have fraction (nanos : Nat) : ∀ c ∈ renderFraction nanos, Json.WrittenPlainly c := by
    have point (places n : Nat) : ∀ c ∈ '.' :: padded places n, Json.WrittenPlainly c :=
      List.forall_mem_cons.mpr ⟨by decide, number _ _⟩
    unfold renderFraction
    split
    · exact fun c member => absurd member List.not_mem_nil
    split
    · exact point _ _
    split
    · exact point _ _
    · exact point _ _
  have part {mark : Char} (plain : Json.WrittenPlainly mark) (width n : Nat)
      : ∀ c ∈ mark :: padded width n, Json.WrittenPlainly c :=
    List.forall_mem_cons.mpr ⟨plain, number width n⟩
  unfold render
  simp only [List.forall_mem_append]
  exact ⟨⟨⟨⟨⟨⟨⟨year _, part (by decide) _ _⟩, part (by decide) _ _⟩, part (by decide) _ _⟩,
    part (by decide) _ _⟩, part (by decide) _ _⟩, fraction _⟩,
    List.forall_mem_singleton.mpr (by decide)⟩

end ImageVerification.Timestamp
