import ImageVerification.Api
import ImageVerification.Proofs.Text.Trim

/-! Which forms upload an image that is accepted, and what is wrong with the others.

Only the last image field of a form counts. Its size is looked at before its type.
-/

namespace ImageVerification.Upload

open Http Multipart

/-- A content type is that of an image if what stands before its first semicolon is, but for case
and the blanks around it.
-/
def IsImageType (contentType : String) : Prop :=
  ∃ kind parameters kept,
    contentType.toList = kind ++ parameters
    ∧ ';' ∉ kind
    ∧ (∀ c ∈ parameters.head?, c = ';')
    ∧ Text.Trimmed kind kept
    ∧ Text.lower (String.ofList kept) ∈ ["image/jpeg", "image/png", "image/gif", "image/webp"]

structure IsLastImage (fields : List Field) (field : Field) : Prop where
  named : field.name = some "image"
  last : ∃ before after,
    fields = before ++ field :: after ∧ ∀ other ∈ after, other.name ≠ some "image"

/-- A form whose last image field has one byte at least, `limit` bytes at most and the type of an
image.
-/
inductive Accepts (limit : Nat) (fields : List Field) : Bytes → Prop where
  | image {field : Field} (last : IsLastImage fields field) (nonempty : 1 ≤ field.data.length)
      (fits : field.data.length ≤ limit)
      (ofType : ∃ contentType ∈ field.contentType, IsImageType contentType)
      : Accepts limit fields field.data

/-- What is wrong with a form, as a status and a code. -/
inductive Refuses (limit : Nat) (fields : List Field) : Nat → String → Prop where
  | missing (none : ∀ field ∈ fields, field.name ≠ some "image")
      : Refuses limit fields 400 "INVALID_INPUT"
  | empty {field : Field} (last : IsLastImage fields field) (empty : field.data.length = 0)
      : Refuses limit fields 400 "INVALID_INPUT"
  | tooLong {field : Field} (last : IsLastImage fields field) (tooLong : limit < field.data.length)
      : Refuses limit fields 413 "PAYLOAD_TOO_LARGE"
  | otherType {field : Field} (last : IsLastImage fields field)
      (nonempty : 1 ≤ field.data.length) (fits : field.data.length ≤ limit)
      (otherType : ∀ contentType ∈ field.contentType, ¬ IsImageType contentType)
      : Refuses limit fields 415 "UNSUPPORTED_MEDIA_TYPE"

/-- A content type is allowed if what stands in front of its first semicolon names an image type,
blanks around it and the case of letters apart. Witness: the text is cut where the reader cuts it.
-/
theorem essence_mem_iff {contentType : String}
    : essence contentType ∈ allowedTypes ↔ IsImageType contentType := by
  have semicolon (c : Char) : (c != ';') = true ↔ c ≠ ';' := bne_iff_ne
  constructor
  · intro allowed
    refine ⟨contentType.toList.takeWhile (· != ';'), contentType.toList.dropWhile (· != ';'), _,
      List.takeWhile_append_dropWhile.symm, ?_, ?_, Text.trimmed_trim _, allowed⟩
    · intro member
      have other := List.mem_takeWhile_imp (p := (· != ';')) member
      exact (semicolon ';').mp other rfl
    · intro c first
      have head := List.head?_dropWhile_not (· != ';') contentType.toList
      rw [Option.mem_def.mp first] at head
      simpa using head
  · rintro ⟨kind, parameters, kept, split, whole, begins, trimmed, allowed⟩
    have front : contentType.toList.takeWhile (· != ';') = kind := by
      rw [split, List.takeWhile_append_of_pos]
      · cases parameters with
        | nil => simp
        | cons c parameters => simp [begins c rfl]
      · exact fun c member => (semicolon c).mpr fun same => whole (same ▸ member)
    rw [essence, front, Text.trim_eq_of_trimmed trimmed]
    exact allowed

/-- The type of a field is accepted exactly if the field has one and it is that of an image; a field
without a type is read as one with an empty type, which is not.
-/
theorem checkType_cases (contentType : Option String)
    : (∃ given ∈ contentType, IsImageType given) ∧ checkType contentType = .ok ()
      ∨ (∀ given ∈ contentType, ¬ IsImageType given)
        ∧ ∃ detail, checkType contentType = .error (.unsupportedMediaType detail) := by
  have contained (given : String)
      : allowedTypes.contains (essence given) = true ↔ IsImageType given :=
    List.contains_iff_mem.trans essence_mem_iff
  unfold checkType
  cases contentType with
  | none =>
      have blank : ¬ allowedTypes.contains (essence "") = true := by decide +kernel
      exact .inr ⟨nofun, _, if_neg blank⟩
  | some given =>
      dsimp only [Option.getD_some]
      split
      · next fine => exact .inl ⟨⟨given, rfl, (contained given).mp fine⟩, rfl⟩
      · next other =>
          refine .inr ⟨?_, _, rfl⟩
          rintro _ ⟨⟩ fine
          exact other ((contained given).mpr fine)

/-- The size of a field is nothing, too much, or within the limit, and is judged in this order. -/
theorem checkSize_cases (size limit : Nat)
    : size = 0 ∧ (∃ detail, checkSize size limit = .error (.badRequest detail))
      ∨ limit < size ∧ (∃ detail, checkSize size limit = .error (.payloadTooLarge detail))
      ∨ (1 ≤ size ∧ size ≤ limit) ∧ checkSize size limit = .ok () := by
  unfold checkSize
  split
  · next empty => exact .inl ⟨empty, _, rfl⟩
  · next nonempty =>
      split
      · next tooLong => exact .inr (.inl ⟨tooLong, _, rfl⟩)
      · next fits =>
          exact .inr (.inr ⟨⟨Nat.one_le_iff_ne_zero.mpr nonempty, Nat.le_of_not_lt fits⟩, rfl⟩)

/-- The last field of that name is the first one from the end. -/
theorem imageField?_eq_some_iff {fields : List Field} {field : Field}
    : Api.imageField? fields = some field ↔ IsLastImage fields field := by
  simp only [Api.imageField?, List.find?_eq_some_iff_append, beq_iff_eq]
  constructor
  · rintro ⟨named, after, before, split, others⟩
    refine ⟨named, before.reverse, after.reverse, ?_, ?_⟩
    · rw [← List.reverse_reverse fields, split]
      simp
    · intro other member
      simpa using others other (List.mem_reverse.mp member)
  · rintro ⟨named, before, after, rfl, others⟩
    refine ⟨named, after.reverse, before.reverse, by simp, ?_⟩
    intro other member
    simpa using others other (List.mem_reverse.mp member)

theorem imageField?_eq_none_iff {fields : List Field}
    : Api.imageField? fields = none ↔ ∀ field ∈ fields, field.name ≠ some "image" := by
  simp [Api.imageField?, List.find?_eq_none]

/-- What becomes of the fields of a form. -/
inductive Examined (limit : Nat) (fields : List Field) : Except Rejection Bytes → Prop where
  | accepted {image : Bytes} (accepts : Accepts limit fields image)
      : Examined limit fields (.ok image)
  | refused {rejection : Rejection}
      (refuses : Refuses limit fields rejection.status rejection.code)
      : Examined limit fields (.error rejection)

/-- Whatever can be read of a form is examined: by cases on the last image field, then on its size
and on its type.
-/
theorem upload_examined {api : Api} {request : Request} {boundary : Bytes} {fields : List Field}
    (formed : api.readForm request boundary = .ok fields)
    : Examined api.maxUploadBytes fields (api.upload request boundary) := by
  unfold Api.upload
  rw [formed]
  dsimp only
  cases found : Api.imageField? fields with
  | none => exact .refused (.missing (imageField?_eq_none_iff.mp found))
  | some field =>
      have last := imageField?_eq_some_iff.mp found
      dsimp only
      rcases checkSize_cases field.data.length api.maxUploadBytes
        with ⟨empty, detail, sized⟩ | ⟨tooLong, detail, sized⟩ | ⟨⟨nonempty, fits⟩, sized⟩
      · rw [sized]
        exact .refused (.empty last empty)
      · rw [sized]
        exact .refused (.tooLong last tooLong)
      · rw [sized]
        rcases checkType_cases field.contentType with ⟨ofType, typed⟩ | ⟨otherType, detail, typed⟩
        · rw [typed]
          exact .accepted (.image last nonempty fits ofType)
        · rw [typed]
          exact .refused (.otherType last nonempty fits otherType)

/-- A form has one last image field, since that is what a search for it finds. -/
theorem IsLastImage.unique {fields : List Field} {field other : Field}
    (last : IsLastImage fields field) (last' : IsLastImage fields other)
    : field = other := by
  have found := imageField?_eq_some_iff.mpr last
  rw [imageField?_eq_some_iff.mpr last'] at found
  exact (Option.some.inj found).symm

/-- Hence it uploads one image at most. -/
theorem Accepts.unique {limit : Nat} {fields : List Field} {image other : Bytes}
    (accepts : Accepts limit fields image) (accepts' : Accepts limit fields other)
    : image = other := by
  obtain ⟨last, -, -, -⟩ := accepts
  obtain ⟨last', -, -, -⟩ := accepts'
  rw [last.unique last']

/-- The last image field is one of the fields of the form. -/
theorem IsLastImage.mem {fields : List Field} {field : Field} (last : IsLastImage fields field)
    : field ∈ fields := by
  obtain ⟨-, before, after, rfl, -⟩ := last
  simp

/-- A form that is accepted has nothing wrong with it. -/
theorem Accepts.not_refuses {limit : Nat} {fields : List Field} {image : Bytes} {status : Nat}
    {code : String} (accepts : Accepts limit fields image)
    : ¬ Refuses limit fields status code := by
  obtain ⟨last, nonempty, fits, given, typed, ofType⟩ := accepts
  intro refuses
  cases refuses with
  | missing none => exact none _ last.mem last.named
  | empty last' empty =>
      obtain rfl := last.unique last'
      omega
  | tooLong last' tooLong =>
      obtain rfl := last.unique last'
      omega
  | otherType last' _ _ otherType =>
      obtain rfl := last.unique last'
      exact otherType given typed ofType

/-- What is wrong with a form is one thing only. -/
theorem Refuses.unique {limit : Nat} {fields : List Field} {status status' : Nat}
    {code code' : String} (refuses : Refuses limit fields status code)
    (refuses' : Refuses limit fields status' code')
    : status = status' ∧ code = code' := by
  cases refuses with
  | missing none =>
      cases refuses' with
      | missing => exact ⟨rfl, rfl⟩
      | empty last | tooLong last | otherType last => exact absurd last.named (none _ last.mem)
  | empty last empty =>
      cases refuses' with
      | missing none => exact absurd last.named (none _ last.mem)
      | empty => exact ⟨rfl, rfl⟩
      | tooLong last' | otherType last' =>
          obtain rfl := last.unique last'
          omega
  | tooLong last tooLong =>
      cases refuses' with
      | missing none => exact absurd last.named (none _ last.mem)
      | tooLong => exact ⟨rfl, rfl⟩
      | empty last' | otherType last' =>
          obtain rfl := last.unique last'
          omega
  | otherType last nonempty fits =>
      cases refuses' with
      | missing none => exact absurd last.named (none _ last.mem)
      | otherType => exact ⟨rfl, rfl⟩
      | empty last' | tooLong last' =>
          obtain rfl := last.unique last'
          omega

section Form

variable {api : Api} {request : Request} {boundary : Bytes} {fields : List Field}

/-- Nothing but the image of an accepted form is taken from it. -/
theorem Accepts.upload_eq {image : Bytes} (accepts : Accepts api.maxUploadBytes fields image)
    (formed : api.readForm request boundary = .ok fields)
    : api.upload request boundary = .ok image := by
  have examined := upload_examined formed
  generalize api.upload request boundary = result at examined ⊢
  cases examined with
  | accepted accepts' => rw [accepts.unique accepts']
  | refused refuses => exact absurd refuses accepts.not_refuses

/-- A form that is to be refused is refused with the status and the code it is to be refused with.
Witness: what is examined is either accepted, which a refused form is not, or refused in one way
only.
-/
theorem Refuses.upload_eq {status : Nat} {code : String}
    (refuses : Refuses api.maxUploadBytes fields status code)
    (formed : api.readForm request boundary = .ok fields)
    : ∃ rejection : Rejection,
        rejection.status = status
        ∧ rejection.code = code
        ∧ api.upload request boundary = .error rejection := by
  have examined := upload_examined formed
  generalize api.upload request boundary = result at examined ⊢
  cases examined with
  | accepted accepts => exact absurd refuses accepts.not_refuses
  | @refused rejection refuses' =>
      obtain ⟨rfl, rfl⟩ := refuses.unique refuses'
      exact ⟨rejection, rfl, rfl, rfl⟩

end Form

end ImageVerification.Upload
