import ImageVerification.Json.Parser

/-! Texts survive escaping: what is written between quotes is read up to the closing quote, and its
escapes resolve to the text.
-/

namespace ImageVerification

theorem Encoding.Hex.digitValue?_digit {value : Nat} (small : value < 16)
    : digitValue? (digit value) = some value := by
  have all : ∀ value : Fin 16, digitValue? (digit value) = some value.val := by decide
  exact all ⟨value, small⟩

namespace Json

open Encoding Json.Parser

/-- The three ways in which a character is written: after a backslash as a letter of its own, by its
number in hexadecimal digits, or as itself.
-/
theorem escapeChar_cases (c : Char)
    : (∃ letter, escapeChar c = ['\\', letter] ∧ simpleEscape? letter = some c)
      ∨ (c.toNat < 32 ∧ escapeChar c = '\\' :: 'u' :: hex4 c.toNat)
      ∨ (escapeChar c = [c] ∧ c ≠ '"' ∧ c ≠ '\\' ∧ 32 ≤ c.toNat) := by
  have named {code : Nat} (same : c.toNat = code) : some (Char.ofNat code) = some c := by
    rw [← same, Char.ofNat_toNat]
  unfold escapeChar
  split
  · next quote => exact .inl ⟨'"', rfl, by rw [quote]; rfl⟩
  split
  · next backslash => exact .inl ⟨'\\', rfl, by rw [backslash]; rfl⟩
  split
  · next backspace => exact .inl ⟨'b', rfl, named backspace⟩
  split
  · next formFeed => exact .inl ⟨'f', rfl, named formFeed⟩
  split
  · next newline => exact .inl ⟨'n', rfl, by rw [newline]; rfl⟩
  split
  · next carriageReturn => exact .inl ⟨'r', rfl, by rw [carriageReturn]; rfl⟩
  split
  · next tab => exact .inl ⟨'t', rfl, by rw [tab]; rfl⟩
  split
  · next control => exact .inr (.inl ⟨control, rfl⟩)
  · next notQuote notBackslash _ _ _ _ _ notControl =>
      exact .inr (.inr ⟨rfl, notQuote, notBackslash, Nat.le_of_not_lt notControl⟩)

theorem ne_u_of_simpleEscape {letter c : Char} (simple : simpleEscape? letter = some c)
    : letter ≠ 'u' := by
  rintro rfl
  simp [simpleEscape?] at simple

/-- The reader of raw texts passes over every escaped character as a whole. -/
theorem rawTextFrom_escapeChar (c : Char) (done rest : List Char)
    : rawTextFrom done (escapeChar c ++ rest)
      = rawTextFrom ((escapeChar c).reverse ++ done) rest := by
  rcases escapeChar_cases c with ⟨letter, written, simple⟩ | ⟨control, written⟩ | ⟨written, plain⟩
  · have notUnit := ne_u_of_simpleEscape simple
    rw [written, List.cons_append, List.singleton_append, rawTextFrom]
    · simp [simple]
    · simp [notUnit]
  · have digit {value : Nat} (small : value < 16) : isHexDigit (Hex.digit value) = true := by
      simp [isHexDigit, Hex.digitValue?_digit small]
    have high : c.toNat / 4096 < 16 := by omega
    rw [written]
    simp [hex4, rawTextFrom, digit high, digit (Nat.mod_lt _ (by decide : 0 < 16))]
  · obtain ⟨notQuote, notBackslash, printable⟩ := plain
    rw [written, List.singleton_append, rawTextFrom]
    · simp [notBackslash, Nat.not_lt.mpr printable]
    · simp [notQuote]
    · simp [notBackslash]
    · simp [notBackslash]

/-- A quoted text is read up to its closing quote, by induction on its characters. -/
theorem rawTextFrom_escape (text done rest : List Char)
    : rawTextFrom done (escape text ++ '"' :: rest) = some (done.reverse ++ escape text, rest) := by
  induction text generalizing done with
  | nil => simp [escape, rawTextFrom]
  | cons c text ih =>
      have written : escape (c :: text) = escapeChar c ++ escape text := rfl
      rw [written, List.append_assoc, rawTextFrom_escapeChar, ih, List.reverse_append,
        List.reverse_reverse, List.append_assoc]

/-- Four hexadecimal digits are read back as their code. -/
theorem unit?_hex4 {code : Nat} (small : code < 65536)
    : unit? (Hex.digit (code / 4096)) (Hex.digit (code / 256 % 16)) (Hex.digit (code / 16 % 16))
        (Hex.digit (code % 16))
      = some code := by
  have low (value : Nat) : value % 16 < 16 := Nat.mod_lt value (by decide)
  have high : code / 4096 < 16 := by omega
  simp only [unit?, Hex.digitValue?_digit high, Hex.digitValue?_digit (low _), Option.bind_eq_bind,
    Option.bind_some, Option.pure_def, Option.some.injEq]
  omega

/-- Four digits after `\\u` that are followed by four more. -/
def StartsWithUnit (rest : RawText) : Prop :=
  ∃ e f g h tail, rest = '\\' :: 'u' :: e :: f :: g :: h :: tail

variable {β : Type} (plain escaped : Char → List β)

/-- An escape without four hexadecimal digits cannot be read, whatever comes after it. -/
theorem unescape_of_unit?_eq_none {e f g h : Char} (bad : unit? e f g h = none) (rest : List Char)
    : unescape plain escaped ('\\' :: 'u' :: e :: f :: g :: h :: rest) = none := by
  by_cases next : StartsWithUnit rest
  · obtain ⟨_, _, _, _, tail, rfl⟩ := next
    rw [unescape]
    simp only [bad]
  · rw [unescape]
    · simp only [bad]
    · exact fun e f g h tail same => next ⟨e, f, g, h, tail, same⟩

/-- A character written by its number resolves to itself, whatever is written after it. -/
theorem unescape_hex4 {code : Nat} (small : code < 32) (rest : List Char)
    : unescape plain escaped ('\\' :: 'u' :: hex4 code ++ rest)
      = (unescape plain escaped rest).map (escaped (Char.ofNat code) ++ ·) := by
  have unit := unit?_hex4 (by omega : code < 65536)
  -- A control character is no half of a pair, so what follows is resolved on its own.
  have notHigh : isHighSurrogate code = false := by simp [isHighSurrogate]; omega
  have notLow : isLowSurrogate code = false := by simp [isLowSurrogate]; omega
  simp only [hex4, List.cons_append, List.nil_append]
  by_cases next : StartsWithUnit rest
  · obtain ⟨e, f, g, h, tail, rfl⟩ := next
    rw [unescape, unit]
    cases following : unit? e f g h with
    | none => simp [unescape_of_unit?_eq_none plain escaped following]
    | some next => simp [notHigh, notLow]
  · rw [unescape]
    · simp [unit, notHigh, notLow]
    · exact fun e f g h tail same => next ⟨e, f, g, h, tail, same⟩

/-- An escaped letter stands for its character. -/
theorem unescape_letter {letter c : Char} (simple : simpleEscape? letter = some c)
    (rest : List Char)
    : unescape plain escaped ('\\' :: letter :: rest)
      = (unescape plain escaped rest).map (escaped c ++ ·) := by
  have notUnit := ne_u_of_simpleEscape simple
  rw [unescape]
  · simp only [simple]
  · simp [notUnit]
  · simp [notUnit]

/-- A character that begins no escape stands for itself. -/
theorem unescape_plain {c : Char} (notBackslash : c ≠ '\\') (rest : List Char)
    : unescape plain escaped (c :: rest)
      = (unescape plain escaped rest).map (plain c ++ ·) := by
  rw [unescape] <;> simp [notBackslash]

/-- The escapes of a text resolve to the text, by induction on its characters. -/
theorem unescape_escape (text : List Char)
    : unescape (fun c => [c]) (fun c => [c]) (escape text) = some text := by
  induction text with
  | nil => rfl
  | cons c text ih =>
      have written : escape (c :: text) = escapeChar c ++ escape text := rfl
      rw [written]
      rcases escapeChar_cases c
        with ⟨letter, written, simple⟩ | ⟨control, written⟩ | ⟨written, -, notBackslash, -⟩
      · rw [written, List.cons_append, List.singleton_append, unescape_letter _ _ simple, ih]
        rfl
      · rw [written, unescape_hex4 _ _ control, ih, Char.ofNat_toNat]
        rfl
      · rw [written, List.singleton_append, unescape_plain _ _ notBackslash, ih]
        rfl

/-- An escaped text is read back as it was. -/
theorem RawText.text?_escape (text : String)
    : RawText.text? (escape text.toList) = some text := by
  simp [RawText.text?, unescape_escape]

/-- A character that is written as itself. -/
def WrittenPlainly (c : Char) : Prop := c ≠ '"' ∧ c ≠ '\\' ∧ 32 ≤ c.toNat

instance (c : Char) : Decidable (WrittenPlainly c) :=
  inferInstanceAs (Decidable (_ ∧ _ ∧ _))

theorem escapeChar_of_writtenPlainly {c : Char} (written : WrittenPlainly c)
    : escapeChar c = [c] := by
  obtain ⟨notQuote, notBackslash, printable⟩ := written
  have notControl {other : Char} (control : other.toNat < 32) : c ≠ other := by
    rintro rfl
    omega
  have notCode {code : Nat} (control : code < 32) : c.toNat ≠ code := by omega
  simp [escapeChar, notQuote, notBackslash, notCode, notControl, Nat.not_lt.mpr printable]

/-- A text of plain characters is written as it is; by induction on it. -/
theorem escape_of_writtenPlainly {text : List Char} (written : ∀ c ∈ text, WrittenPlainly c)
    : escape text = text := by
  induction text with
  | nil => rfl
  | cons c text ih =>
      have first := escapeChar_of_writtenPlainly (written c List.mem_cons_self)
      have rest := ih fun c member => written c (List.mem_cons_of_mem _ member)
      calc
        escape (c :: text) = escapeChar c ++ escape text := rfl
        _ = c :: text := by rw [first, rest, List.singleton_append]

end Json

end ImageVerification
