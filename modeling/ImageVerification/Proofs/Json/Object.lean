import ImageVerification.Proofs.Json.Escape
import ImageVerification.Proofs.Json.Literal

/-! Objects are read back field by field: a value is read inside an object as it is read alone, and
an object with a field that cannot be read is not read at all.
-/

namespace ImageVerification.Json

open Json.Parser Writer

/-- What comes after the value of a field: the next field or the end of the object. -/
def EndsField (mark : Char) : Prop := mark = ',' ∨ mark = '\x7d'

instance (mark : Char) : Decidable (EndsField mark) := inferInstanceAs (Decidable (_ ∨ _))

/-- What ends a field is no part of a number. -/
theorem EndsField.not_isNumeral {mark : Char} (ends : EndsField mark) : ¬ IsNumeral mark := by
  rcases ends with rfl | rfl <;> decide

theorem skipBlank_of_not_blank {c : Char} (visible : isBlank c = false) (rest : List Char)
    : skipBlank (c :: rest) = c :: rest := by
  simp [skipBlank, visible]

theorem IsNumeral.not_isBlank {c : Char} (numeral : IsNumeral c) : isBlank c = false := by
  have notSpace := numeral.ne (by decide : ¬ IsNumeral ' ')
  have notLine := numeral.ne (by decide : ¬ IsNumeral '\n')
  have notTab := numeral.ne (by decide : ¬ IsNumeral '\t')
  have notReturn := numeral.ne (by decide : ¬ IsNumeral '\r')
  simp [isBlank, notSpace, notLine, notTab, notReturn]

theorem EndsField.skipBlank_eq {mark : Char} (ends : EndsField mark) (rest : List Char)
    : skipBlank (mark :: rest) = mark :: rest := by
  rcases ends with rfl | rfl <;> rfl

/-- A text that is read as a value whatever comes after it. -/
def ReadsAs (text : List Char) (value : Value) : Prop :=
  ∀ fuel rest, value? (fuel + 1) (text ++ rest) = some (value, rest)

/-- A quoted text is read back as that text. -/
theorem quote_readsAs (text : String) : ReadsAs (quote text) (.text (escape text.toList)) := by
  intro fuel rest
  have read := rawTextFrom_escape text.toList [] rest
  simp only [quote, List.cons_append, List.append_assoc, List.nil_append]
  rw [value?, skipBlank_of_not_blank rfl]
  simp [read]

theorem bool_readsAs (flag : Bool) : ReadsAs (bool flag) (.bool flag) := by
  intro fuel rest
  cases flag <;> rfl

theorem null_readsAs : ReadsAs null .null := fun _ _ => rfl

/-- A text that is read in front of the end of a field as it is read alone; what cannot be read
alone leaves something there that does not end a field.
-/
structure ReadsAlone (text : List Char) : Prop where
  value : ∀ value, document? text = some value → ∀ fuel mark rest, EndsField mark
    → value? (fuel + 1) (text ++ mark :: rest) = some (value, mark :: rest)
  nothing : document? text = none → ∀ fuel mark rest, EndsField mark
    → ∀ value left, value? (fuel + 1) (text ++ mark :: rest) = some (value, left)
    → ∃ c more, left = c :: more ∧ isBlank c = false ∧ ¬ EndsField c

/-- What is read as a value wherever it stands is a document of that value. -/
theorem ReadsAs.document? {text : List Char} {value : Value} (reads : ReadsAs text value)
    : document? text = some value := by
  have whole := reads (2 * text.length) []
  rw [List.append_nil] at whole
  simp [Parser.document?, whole, skipBlank]

/-- What is read as a value wherever it stands is read in a field as it is alone. -/
theorem ReadsAs.readsAlone {text : List Char} {value : Value} (reads : ReadsAs text value)
    : ReadsAlone text := by
  refine ⟨?_, ?_⟩
  · intro other read fuel mark rest _
    rw [reads.document?] at read
    cases read
    exact reads fuel (mark :: rest)
  · intro read
    rw [reads.document?] at read
    cases read

/-- The first character of a number tells it from all other values. -/
theorem value?_of_isNumeral {c : Char} (numeral : IsNumeral c) (fuel : Nat) (rest : List Char)
    : value? (fuel + 1) (c :: rest)
      = (literal? (c :: rest)).map fun (literal, rest) => (.number literal, rest) := by
  rw [value?, skipBlank_of_not_blank numeral.not_isBlank]
  split <;> first | rfl | skip
  all_goals
    next same => exact absurd (List.cons.inj same).1 (numeral.ne (by decide))

/-- In front of the end of a field a text of numerals is read as its longest literal. -/
theorem value?_of_numerals {text : List Char} (numerals : ∀ c ∈ text, IsNumeral c) (fuel : Nat)
    {mark : Char} (ends : EndsField mark) (rest : List Char)
    : value? (fuel + 1) (text ++ mark :: rest)
      = (literal? text).map fun (literal, left) => (.number literal, left ++ mark :: rest) := by
  have stops := (literal?_stopsAt ends.not_isNumeral).before text rest
  cases text with
  | nil =>
      rw [List.nil_append, show literal? [] = none from rfl]
      rcases ends with rfl | rfl <;> rfl
  | cons c text =>
      rw [List.cons_append, value?_of_isNumeral (numerals c List.mem_cons_self),
        ← List.cons_append, stops]
      cases literal? (c :: text) <;> rfl

/-- Alone a literal has to be the whole text; what it leaves would be more numerals. -/
theorem document?_of_numerals {text : List Char} (numerals : ∀ c ∈ text, IsNumeral c)
    : document? text
      = (literal? text).bind fun (literal, left) =>
          if left.isEmpty then some (.number literal) else none := by
  unfold document?
  cases text with
  | nil => rfl
  | cons c text =>
      rw [value?_of_isNumeral (numerals c List.mem_cons_self)]
      cases read : literal? (c :: text) with
      | none => rfl
      | some found =>
          obtain ⟨literal, left⟩ := found
          have suffix := (literal?_stopsAt (by decide : ¬ IsNumeral ',')).leaves _ _ _ read
          cases left with
          | nil => rfl
          | cons d left =>
              have visible := (numerals d (suffix.subset List.mem_cons_self)).not_isBlank
              simp [skipBlank_of_not_blank visible]

/-- A text of the characters of numbers is read in a field as it is alone. Witness: no end of a
field is one of them.
-/
theorem readsAlone_of_numerals {text : List Char} (numerals : ∀ c ∈ text, IsNumeral c)
    : ReadsAlone text := by
  have alone := document?_of_numerals numerals
  refine ⟨?_, ?_⟩
  · intro value read fuel mark rest ends
    rw [alone] at read
    obtain ⟨⟨literal, left⟩, found, read⟩ := Option.bind_eq_some_iff.mp read
    cases left with
    | nil =>
        cases read
        rw [value?_of_numerals numerals fuel ends, found]
        rfl
    | cons d left => cases read
  · intro unread fuel mark rest ends value left read
    rw [value?_of_numerals numerals fuel ends] at read
    obtain ⟨⟨literal, inner⟩, found, read⟩ := Option.map_eq_some_iff.mp read
    have suffix := (literal?_stopsAt (by decide : ¬ IsNumeral ',')).leaves _ _ _ found
    cases inner with
    | nil => simp [alone, found] at unread
    | cons d inner =>
        cases read
        have numeral := numerals d (suffix.subset List.mem_cons_self)
        exact ⟨d, _, rfl, numeral.not_isBlank, fun ends => ends.not_isNumeral numeral⟩

/-- A single is read in a field as it is alone, also where it is written as null. -/
theorem single_readsAlone (x : Binary32) : ReadsAlone (single x) := by
  unfold single
  cases written : x.text? with
  | none => exact null_readsAs.readsAlone
  | some text => exact readsAlone_of_numerals (text?_numerals written)

/-- The fields of an object, their values read alone. -/
def fieldsAlone? : List (String × List Char) → Option (List (RawText × Value))
  | [] => some []
  | (key, text) :: others =>
      (document? text).bind fun value =>
        (fieldsAlone? others).map ((escape key.toList, value) :: ·)

/-- The value of a field read alone decides over the field, and with it over the object. -/
theorem fields?_field {key : String} {text : List Char} (alone : ReadsAlone text) (fuel : Nat)
    {mark : Char} (ends : EndsField mark) (rest : List Char)
    : fields? (fuel + 2) (field key text ++ mark :: rest)
      = (document? text).bind fun value =>
          if mark = ',' then
            (fields? (fuel + 1) rest).map fun (fields, rest) =>
              ((escape key.toList, value) :: fields, rest)
          else some ([(escape key.toList, value)], rest) := by
  have named := rawTextFrom_escape key.toList [] (':' :: (text ++ mark :: rest))
  have opened
      : field key text ++ mark :: rest
        = '"' :: (escape key.toList ++ '"' :: ':' :: (text ++ mark :: rest)) := by
    simp [field, quote]
  rw [opened, fields?, skipBlank_of_not_blank rfl]
  simp only [named, List.reverse_nil, List.nil_append, skipBlank_of_not_blank (c := ':') rfl]
  cases read : document? text with
  | some value =>
      rw [alone.value value read fuel mark rest ends]
      simp only [ends.skipBlank_eq]
      rcases ends with rfl | rfl <;> rfl
  | none =>
      cases inside : value? (fuel + 1) (text ++ mark :: rest) with
      | none => rfl
      | some found =>
          -- Something may be read, but the field does not end after it.
          obtain ⟨value, left⟩ := found
          obtain ⟨c, more, rfl, visible, other⟩ :=
            alone.nothing read fuel mark rest ends value left inside
          simp only [skipBlank_of_not_blank visible]
          split
          · next same => exact absurd (.inr (List.cons.inj same).1) other
          · next same => exact absurd (.inl (List.cons.inj same).1) other
          · rfl

/-- By induction on the fields: each is followed by a comma or by the brace that ends the object. -/
theorem fields?_separated (fields : List (String × List Char)) (nonempty : fields ≠ [])
    (alone : ∀ field ∈ fields, ReadsAlone field.2) (fuel : Nat) (rest : List Char)
    : fields? (fields.length + fuel + 1)
        (separated (fields.map fun (key, text) => field key text) ++ '\x7d' :: rest)
      = (fieldsAlone? fields).map fun fields => (fields, rest) := by
  induction fields with
  | nil => exact absurd rfl nonempty
  | cons first others ih =>
      obtain ⟨key, text⟩ := first
      have firstAlone := alone (key, text) List.mem_cons_self
      have steps : others.length + 1 + fuel + 1 = others.length + fuel + 2 := by omega
      rw [List.length_cons, steps, fieldsAlone?]
      -- The last field is followed by the brace, and any other one by a comma.
      cases others with
      | nil =>
          rw [List.map_cons, List.map_nil, separated, fields?_field firstAlone _ (.inr rfl)]
          cases document? text <;> rfl
      | cons second others =>
          have later := ih (List.cons_ne_nil second others) fun field member =>
            alone field (List.mem_cons_of_mem _ member)
          have opened
              : separated (((key, text) :: second :: others).map fun (key, text) => field key text)
                  ++ '\x7d' :: rest
                = field key text
                  ++ ',' :: (separated ((second :: others).map fun (key, text) => field key text)
                    ++ '\x7d' :: rest) := by
            simp [separated]
          rw [opened, fields?_field firstAlone _ (.inl rfl)]
          simp only [if_true, later]
          cases document? text with
          | none => rfl
          | some value => cases fieldsAlone? (second :: others) <;> rfl

theorem length_le_length_separated {parts : List (List Char)} (visible : ∀ part ∈ parts, part ≠ [])
    : parts.length ≤ (separated parts).length := by
  induction parts with
  | nil => exact Nat.le_refl 0
  | cons part others ih =>
      have nonempty := List.length_pos_iff.mpr (visible part List.mem_cons_self)
      cases others with
      | nil => exact nonempty
      | cons second others =>
          have later := ih fun part member => visible part (List.mem_cons_of_mem _ member)
          simp only [separated, List.length_append, List.length_cons] at later ⊢
          omega

/-- An object is read as the object of its fields, each read alone. -/
theorem document?_object (fields : List (String × List Char)) (nonempty : fields ≠ [])
    (alone : ∀ field ∈ fields, ReadsAlone field.2)
    : document? (object fields) = (fieldsAlone? fields).map .object := by
  let parts := fields.map fun (key, text) => field key text
  have enough : fields.length ≤ (separated parts).length := by
    have visible : ∀ part ∈ parts, part ≠ [] := by
      intro part member
      obtain ⟨⟨key, text⟩, -, rfl⟩ := List.mem_map.mp member
      exact List.cons_ne_nil _ _
    simpa [parts] using length_le_length_separated visible
  have opened : object fields = '\x7b' :: (separated parts ++ ['\x7d']) := rfl
  -- There is fuel for one step a field, since no field is empty.
  obtain ⟨fuel, steps⟩
      : ∃ fuel, 2 * (object fields).length = fields.length + fuel + 1 := by
    refine ⟨2 * (object fields).length - (fields.length + 1), ?_⟩
    simp only [opened, List.length_cons, List.length_append]
    omega
  have read := fields?_separated fields nonempty alone fuel []
  -- An object of some fields begins with the quote of its first key, and so is not the empty one.
  obtain ⟨tail, first⟩ : ∃ tail, separated parts ++ ['\x7d'] = '"' :: tail := by
    obtain ⟨⟨key, text⟩, others, rfl⟩ := List.exists_cons_of_ne_nil nonempty
    cases others <;> exact ⟨_, rfl⟩
  have whole (fuel : Nat) (tail : List Char)
      : value? (fuel + 1) ('\x7b' :: '"' :: tail)
        = (fields? fuel ('"' :: tail)).map fun (fields, rest) => (.object fields, rest) := by
    rw [value?, skipBlank_of_not_blank rfl]
    rfl
  unfold document?
  rw [steps, opened, first, whole, ← first, read]
  cases fieldsAlone? fields <;> rfl

end ImageVerification.Json
