import Mathlib.Data.List.TakeWhile
import ImageVerification.Text.Blank

/-! What is left of a text without the blanks around it. -/

namespace ImageVerification.Text

/-- A text without the blanks in front of it and behind it. -/
structure Trimmed (cs kept : List Char) : Prop where
  around : ∃ before after,
    cs = before ++ kept ++ after
    ∧ (∀ c ∈ before, isBlank c = true)
    ∧ ∀ c ∈ after, isBlank c = true
  front : ∀ c ∈ kept.head?, isBlank c = false
  back : ∀ c ∈ kept.getLast?, isBlank c = false

/-- Trimming the front takes off blanks only, and leaves none at the front. -/
theorem exists_trimStart (cs : List Char)
    : ∃ before,
        cs = before ++ trimStart cs
        ∧ (∀ c ∈ before, isBlank c = true)
        ∧ ∀ c ∈ (trimStart cs).head?, isBlank c = false := by
  refine ⟨cs.takeWhile isBlank, List.takeWhile_append_dropWhile.symm, ?_, ?_⟩
  · exact fun c member => List.mem_takeWhile_imp member
  · intro c first
    have head := List.head?_dropWhile_not isBlank cs
    rw [show (cs.dropWhile isBlank).head? = some c from first] at head
    exact head

/-- A trimmed text is what is between its blanks at both ends. -/
theorem trimmed_trim (cs : List Char) : Trimmed cs (trim cs) := by
  obtain ⟨before, whole, blankBefore, head⟩ := exists_trimStart cs
  obtain ⟨after, turned, blankAfter, last⟩ := exists_trimStart (trimStart cs).reverse
  have split : trimStart cs = trim cs ++ after.reverse := by
    rw [← List.reverse_reverse (trimStart cs), turned, List.reverse_append]
    rfl
  refine ⟨⟨before, after.reverse, ?_, blankBefore, ?_⟩, ?_, ?_⟩
  · rw [List.append_assoc, ← split, ← whole]
  · exact fun c member => blankAfter c (List.mem_reverse.mp member)
  · intro c first
    refine head c ?_
    rw [split, Option.mem_def, List.head?_append, Option.mem_def.mp first]
    rfl
  · intro c final
    refine last c ?_
    rwa [trim, trimEnd, List.getLast?_reverse] at final

/-- Blanks in front do not matter. -/
theorem trimStart_append {before : List Char} (blank : ∀ c ∈ before, isBlank c = true)
    (cs : List Char)
    : trimStart (before ++ cs) = trimStart cs :=
  List.dropWhile_append_of_pos blank

/-- Without blanks in front nothing is taken off. -/
theorem trimStart_eq_self {cs : List Char} (front : ∀ c ∈ cs.head?, isBlank c = false)
    : trimStart cs = cs := by
  cases cs with
  | nil => rfl
  | cons c cs => exact List.dropWhile_cons_of_neg (by simp [front c rfl])

/-- Blanks behind do not matter. -/
theorem trimEnd_append {after : List Char} (blank : ∀ c ∈ after, isBlank c = true)
    (cs : List Char)
    : trimEnd (cs ++ after) = trimEnd cs := by
  have turned : ∀ c ∈ after.reverse, isBlank c = true :=
    fun c member => blank c (List.mem_reverse.mp member)
  rw [trimEnd, trimEnd, List.reverse_append, trimStart_append turned]

/-- Without blanks behind nothing is taken off. -/
theorem trimEnd_eq_self {cs : List Char} (back : ∀ c ∈ cs.getLast?, isBlank c = false)
    : trimEnd cs = cs := by
  rw [trimEnd, trimStart_eq_self, List.reverse_reverse]
  rwa [List.head?_reverse]

/-- Whatever is between the blanks at both ends is the trimmed text. -/
theorem trim_eq_of_trimmed {cs kept : List Char} (trimmed : Trimmed cs kept) : trim cs = kept := by
  obtain ⟨⟨before, after, rfl, blankBefore, blankAfter⟩, front, back⟩ := trimmed
  rw [trim, List.append_assoc, trimStart_append blankBefore]
  cases kept with
  | nil =>
      rw [List.nil_append, trimStart, List.dropWhile_eq_nil_iff.mpr blankAfter]
      rfl
  | cons c kept =>
      have whole : ∀ d ∈ (c :: kept ++ after).head?, isBlank d = false := front
      rw [trimStart_eq_self whole, trimEnd_append blankAfter, trimEnd_eq_self back]

/-- The trimmed text, as an equivalence. -/
theorem trim_eq_iff {cs kept : List Char} : trim cs = kept ↔ Trimmed cs kept :=
  ⟨fun same => same ▸ trimmed_trim cs, trim_eq_of_trimmed⟩

/-- Nothing is left exactly of a text that is blank throughout. -/
theorem trim_eq_nil_iff {cs : List Char} : trim cs = [] ↔ ∀ c ∈ cs, isBlank c = true := by
  rw [trim_eq_iff]
  constructor
  · rintro ⟨⟨before, after, rfl, blankBefore, blankAfter⟩, -, -⟩ c member
    rw [List.append_nil] at member
    exact (List.mem_append.mp member).elim (blankBefore c) (blankAfter c)
  · intro blank
    exact ⟨⟨cs, [], by simp, blank, nofun⟩, nofun, nofun⟩

end ImageVerification.Text
