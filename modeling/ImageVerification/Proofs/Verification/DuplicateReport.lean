import Mathlib.Data.List.Nodup
import ImageVerification.Proofs.Service.Standing
import ImageVerification.Proofs.Verification.Lookup

/-! What a report of duplicates tells of a ledger that has come about by saves.

No two records of such a ledger are those of one user and one image. Hence an owner has no
duplicates, and of everybody else a report lists at most one record.
-/

namespace ImageVerification

namespace Timestamp

/-- Timestamps come in the order of their seconds, then of their nanoseconds. -/
theorem le_iff (a b : Timestamp)
    : a.le b = true ↔ a.seconds < b.seconds ∨ a.seconds = b.seconds ∧ a.nanos ≤ b.nanos := by
  simp [le]

theorem le_trans {a b c : Timestamp} (first : a.le b = true) (second : b.le c = true)
    : a.le c = true := by
  rw [le_iff] at *
  omega

theorem le_total (a b : Timestamp) : (a.le b || b.le a) = true := by
  rw [Bool.or_eq_true, le_iff, le_iff]
  omega

theorem le_refl (a : Timestamp) : a.le a = true := by
  simpa using a.le_total a

end Timestamp

theorem Record.newestFirst_trans (a b c : Record) (first : a.newestFirst b = true)
    (second : b.newestFirst c = true)
    : a.newestFirst c = true :=
  Timestamp.le_trans second first

theorem Record.newestFirst_total (a b : Record)
    : (a.newestFirst b || b.newestFirst a) = true :=
  Timestamp.le_total _ _

namespace Ledger

variable {ledger : Ledger} {userId requestId : String}

/-- A ledger that has come about by saves, whether they were accepted or refused. -/
inductive Grown : Ledger → Prop where
  | empty : Grown .empty
  | save {ledger : Ledger} (grown : Grown ledger) (record : Record) : Grown (ledger.save record).2

/-- A ledger grown by saves holds distinct records; by induction on the saves, each adding one that
nothing opposes or none at all.
-/
theorem Grown.distinct (grown : ledger.Grown) : ledger.Distinct := by
  induction grown with
  | empty => exact .nil
  | @save ledger grown record ih =>
      rcases ledger.save_cases record with ⟨fault, refused⟩ | ⟨taken, first⟩
      · rwa [refused]
      · rw [taken]
        refine ih.append (fun other stored => (first other stored).1) ?_
        rintro ⟨other, stored, sameImage⟩
        exact (first other stored).2 sameImage

/-- A user has a request with an id on record. -/
def Knows (ledger : Ledger) (requestId userId : String) : Prop :=
  ∃ record ∈ ledger.records, record.requestId = requestId ∧ record.userId = userId

/-- What the ledger does not know under these names is not found. -/
theorem find_of_unknown (unknown : ¬ ledger.Knows requestId userId)
    : ledger.find requestId userId = .error .notFound := by
  unfold find
  split
  · next record first =>
      have matching := List.find?_some first
      simp only [Bool.and_eq_true, beq_iff_eq] at matching
      exact absurd ⟨record, List.mem_of_find?_eq_some first, matching⟩ unknown
  · rfl

/-- What the ledger knows under these names is found. -/
theorem exists_find_of_knows (knows : ledger.Knows requestId userId)
    : ∃ record, ledger.find requestId userId = .ok record := by
  obtain ⟨record, stored, matching⟩ := knows
  unfold find
  split
  · exact ⟨_, rfl⟩
  · next absent =>
      have missed := List.find?_eq_none.mp absent record stored
      simp [matching] at missed

/-- The members of a search for duplicates: the fingerprint, the owner if one is asked for, and not
the record left out.
-/
theorem mem_duplicates {owner exclude : Option String} {fingerprint : String} {record : Record}
    : record ∈ ledger.duplicates owner fingerprint exclude
      ↔ record ∈ ledger.records
        ∧ record.fingerprint = fingerprint
        ∧ (∀ user ∈ owner, record.userId = user)
        ∧ ∀ request ∈ exclude, record.requestId ≠ request := by
  simp [duplicates, List.mem_mergeSort, Option.all_eq_true, and_assoc]

/-- The records of an image other than one of them: those of all other users, one of each, newest
first, and equally new ones in the order in which they were saved.
-/
structure ListsOthers (ledger : Ledger) (record : Record) (found : List Record) : Prop where
  mem :
    ∀ other,
      other ∈ found
      ↔ other ∈ ledger.records
        ∧ other.userId ≠ record.userId
        ∧ other.fingerprint = record.fingerprint
  once : found.Nodup
  onePerUser : found.Pairwise fun a b => a.userId ≠ b.userId
  newestFirst :
    found.Pairwise fun a b =>
      b.createdAt.seconds < a.createdAt.seconds
      ∨ b.createdAt.seconds = a.createdAt.seconds ∧ b.createdAt.nanos ≤ a.createdAt.nanos
  inOrder : ∀ instant, (found.filter (·.createdAt = instant)).Sublist ledger.records

/-- Of one's own image there is no other record. -/
theorem Distinct.duplicates_owner {record : Record} (distinct : ledger.Distinct)
    (stored : record ∈ ledger.records)
    : ledger.duplicates (some record.userId) record.fingerprint (some record.requestId) = [] := by
  refine List.eq_nil_iff_forall_not_mem.mpr ?_
  intro other member
  obtain ⟨stored', sameImage, owned, apart⟩ := mem_duplicates.mp member
  have same := distinct.eq stored' stored (.inr ⟨owned _ rfl, sameImage⟩)
  exact apart _ rfl (congrArg Record.requestId same)

/-- Sorting by age leaves equally new records in their order. -/
theorem filter_newestFirst_sublist (records : List Record) (instant : Timestamp)
    : ((records.mergeSort Record.newestFirst).filter (·.createdAt = instant)).Sublist records := by
  let sorted := records.mergeSort Record.newestFirst
  let equallyNew := records.filter (·.createdAt = instant)
  have inOrder : equallyNew.Pairwise fun a b => a.newestFirst b = true := by
    refine List.pairwise_of_forall_mem_list ?_
    intro a first b second
    simp only [equallyNew, List.mem_filter, decide_eq_true_eq] at first second
    rw [Record.newestFirst, second.2, first.2]
    exact instant.le_refl
  have kept : equallyNew.Sublist sorted :=
    List.sublist_mergeSort Record.newestFirst_trans Record.newestFirst_total inOrder
      List.filter_sublist
  have inside : equallyNew.Sublist (sorted.filter (·.createdAt = instant)) := by
    simpa only [equallyNew, List.filter_filter, Bool.and_self]
      using kept.filter (·.createdAt = instant)
  -- There are as many records of that instant before and after, so none has been put in between.
  have sameLength : (sorted.filter (·.createdAt = instant)).length = equallyNew.length :=
    ((List.mergeSort_perm records Record.newestFirst).filter _).length_eq
  exact inside.eq_of_length sameLength.symm ▸ List.filter_sublist

/-- In a distinct ledger the search over all owners that leaves the record out lists the others: a
record of the same fingerprint under another name belongs to another user.
-/
theorem Distinct.listsOthers {record : Record} (distinct : ledger.Distinct)
    (stored : record ∈ ledger.records)
    : ledger.ListsOthers record
        (ledger.duplicates none record.fingerprint (some record.requestId)) := by
  -- Records of one image and one user are one record, and so are records of one name.
  have isOther (other : Record)
      : other ∈ ledger.duplicates none record.fingerprint (some record.requestId)
        ↔ other ∈ ledger.records
          ∧ other.userId ≠ record.userId
          ∧ other.fingerprint = record.fingerprint := by
    rw [mem_duplicates]
    constructor
    · rintro ⟨stored', sameImage, -, apart⟩
      refine ⟨stored', ?_, sameImage⟩
      intro sameUser
      have same := distinct.eq stored' stored (.inr ⟨sameUser, sameImage⟩)
      exact apart _ rfl (congrArg Record.requestId same)
    · rintro ⟨stored', otherUser, sameImage⟩
      refine ⟨stored', sameImage, by simp, ?_⟩
      rintro _ ⟨⟩ sameRequest
      exact otherUser (congrArg Record.userId (distinct.eq stored' stored (.inl sameRequest)))
  -- Neither filtering nor sorting brings records together that clash.
  have apart : (ledger.duplicates none record.fingerprint (some record.requestId)).Pairwise
      fun a b => ¬ a.Clashes b := by
    refine List.Pairwise.perm (List.Pairwise.filter _ distinct)
      (List.mergeSort_perm _ _).symm ?_
    exact fun different clash => different (clash.imp Eq.symm (.imp Eq.symm Eq.symm))
  have ofImage := apart.imp_of_mem (S := fun a b => a.userId ≠ b.userId) (by
    intro a b first second different sameUser
    exact different (.inr ⟨sameUser,
      ((isOther a).mp first).2.2.trans ((isOther b).mp second).2.2.symm⟩))
  exact {
    mem := isOther
    once := ofImage.imp fun different same => different (congrArg Record.userId same)
    onePerUser := ofImage
    newestFirst :=
      (List.pairwise_mergeSort Record.newestFirst_trans Record.newestFirst_total _).imp
        fun newer => (Timestamp.le_iff _ _).mp newer
    inOrder := fun instant =>
      (filter_newestFirst_sublist _ instant).trans List.filter_sublist
  }

/-- One record comes before another in a report: it is newer, or equally new and saved earlier. -/
def Precedes (ledger : Ledger) (a b : Record) : Prop :=
  b.createdAt.seconds < a.createdAt.seconds
  ∨ b.createdAt.seconds = a.createdAt.seconds ∧ b.createdAt.nanos < a.createdAt.nanos
  ∨ b.createdAt.seconds = a.createdAt.seconds
    ∧ b.createdAt.nanos = a.createdAt.nanos
    ∧ ledger.records.idxOf a < ledger.records.idxOf b

/-- No two records come before each other. -/
theorem Precedes.asymm {a b : Record} (before : ledger.Precedes a b) : ¬ ledger.Precedes b a := by
  unfold Precedes at *
  omega

/-- Records that are listed come one before the other. Two that are equally new do so because the
records of their instant are listed in the order in which they were saved.
-/
theorem ListsOthers.precedes {record : Record} {found : List Record}
    (lists : ledger.ListsOthers record found) (distinct : ledger.Distinct)
    : found.Pairwise ledger.Precedes := by
  have different : ledger.records.Nodup :=
    distinct.imp fun apart same => apart (.inl (congrArg Record.requestId same))
  have savedInOrder
      : ledger.records.Pairwise fun a b =>
          ledger.records.idxOf a < ledger.records.idxOf b := by
    refine List.pairwise_iff_getElem.mpr ?_
    intro i j _ _ before
    rwa [different.idxOf_getElem, different.idxOf_getElem]
  refine List.pairwise_iff_forall_sublist.mpr ?_
  intro a b inFound
  have newer := List.pairwise_iff_forall_sublist.mp lists.newestFirst inFound
  by_cases sameInstant : b.createdAt = a.createdAt
  · have ofInstant := inFound.filter (·.createdAt = a.createdAt)
    simp only [List.filter_cons, sameInstant, decide_true, if_true, List.filter_nil] at ofInstant
    have saved := ofInstant.trans (lists.inOrder a.createdAt)
    exact .inr (.inr ⟨congrArg _ sameInstant, congrArg _ sameInstant,
      List.pairwise_iff_forall_sublist.mp savedInOrder saved⟩)
  · rcases newer with second | ⟨second, nano⟩
    · exact .inl second
    · refine .inr (.inl ⟨second, lt_of_le_of_ne nano fun sameNano => sameInstant ?_⟩)
      exact Timestamp.ext second sameNano

/-- There is only one way to list the other records of an image. -/
theorem ListsOthers.unique {record : Record} {found again : List Record}
    (lists : ledger.ListsOthers record found) (relists : ledger.ListsOthers record again)
    (distinct : ledger.Distinct)
    : found = again := by
  have sameRecords : found.Perm again :=
    (List.perm_ext_iff_of_nodup lists.once relists.once).mpr fun other =>
      (lists.mem other).trans (relists.mem other).symm
  exact List.Perm.eq_of_pairwise (fun _ _ _ _ before after => absurd after before.asymm)
    (lists.precedes distinct) (relists.precedes distinct) sameRecords

end Ledger

open Collaborator InMemory

/-- A report on a request of a user: the record of the request and, across all users, the others of
its image. Among an owner's records there is nothing to report.
-/
structure Ledger.Reports (ledger : Ledger) (scope : DuplicateScope) (userId requestId : String)
    (report : DuplicateReport)
    : Prop where
  stored : report.requested ∈ ledger.records
  named : report.requested.requestId = requestId
  owned : report.requested.userId = userId
  owner : scope = .owner → report.duplicates = []
  others : scope = .global → ledger.ListsOthers report.requested report.duplicates

/-- A report is either refused because the request is not on record for the user, or it tells what
a report should.
-/
theorem Verification.duplicateReport_reports {verdict : Except ScorerFault Verdict}
    {wall : Instant → Timestamp} {name : Nat → String} {ctx : Context}
    {world : World Call InMemory} (free : ctx.interruption world.clock = none)
    (grown : world.state.ledger.Grown) (scope : DuplicateScope) (userId requestId : String)
    : ∃ outcome after,
        (duplicateReport scope ctx userId requestId).run (environment verdict wall name) none world
          = (some outcome, after)
        ∧ (outcome
              = .error (.failed "repository.find_by_request_and_user" requestId .notFound)
            ↔ ¬ world.state.ledger.Knows requestId userId)
        ∧ (world.state.ledger.Knows requestId userId →
            ∃ report,
              outcome = .ok report
              ∧ world.state.ledger.Reports scope userId requestId report) := by
  have distinct := grown.distinct
  obtain ⟨events, calls, searched⟩ :=
    @Repository.run_find verdict wall name ctx world free requestId userId
  unfold duplicateReport
  rw [Flow.bind_eq_bind, Flow.run_bind, searched]
  by_cases known : world.state.ledger.Knows requestId userId
  · obtain ⟨record, found⟩ := Ledger.exists_find_of_knows known
    obtain ⟨stored, rfl, rfl⟩ := Ledger.find_ok found
    -- The store is asked for the duplicates right after it has found the record.
    have listed (owner : Option String) :=
      @Repository.run_duplicates verdict wall name ctx { world with events, calls } free owner
        record.fingerprint (some record.requestId)
    let report (owner : Option String) : DuplicateReport :=
      ⟨record, world.state.ledger.duplicates owner record.fingerprint (some record.requestId)⟩
    simp only [found, RetryPlan.tagged]
    cases scope with
    | owner =>
        obtain ⟨after, listed⟩ := listed (some record.userId)
        refine ⟨.ok (report (some record.userId)), after, ?_, by simp [known],
          fun _ => ⟨_, rfl, stored, rfl, rfl, ?_, nofun⟩⟩
        · show ((Repository.duplicates ctx (some record.userId) _ _).bind _).run _ _ _ = _
          rw [Flow.run_bind, listed]
          rfl
        · exact fun _ => distinct.duplicates_owner stored
    | global =>
        obtain ⟨after, listed⟩ := listed none
        refine ⟨.ok (report none), after, ?_, by simp [known],
          fun _ => ⟨_, rfl, stored, rfl, rfl, nofun, ?_⟩⟩
        · show ((Repository.duplicates ctx none _ _).bind _).run _ _ _ = _
          rw [Flow.run_bind, listed]
          rfl
        · exact fun _ => distinct.listsOthers stored
  · rw [Ledger.find_of_unknown known]
    exact ⟨_, _, rfl, by simp [known], fun knows => absurd knows known⟩

/-- A user's record of the image that everybody has, under the user's own name. -/
def copyOf (userId : String) (createdAt : Timestamp) : Record :=
  ⟨userId, userId, "", "", .zero, true, .zero, createdAt⟩

/-- The start of the second minute of 1970. -/
def minuteLater : Timestamp := (Timestamp.of? 60 0).getD .epoch

/-- Alice, bob, dave and carol have saved one image; carol's clock was behind dave's. -/
def sharedImage : Ledger :=
  [copyOf "alice" .epoch, copyOf "bob" .epoch, copyOf "dave" minuteLater,
    copyOf "carol" .epoch].foldl (fun ledger record => (ledger.save record).2) .empty

theorem sharedImage_grown : sharedImage.Grown :=
  (((Ledger.Grown.empty.save _).save _).save _).save _

/-- What is to be listed next to alice's record. -/
theorem sharedImage_listed
    : sharedImage.ListsOthers (copyOf "alice" .epoch)
        [copyOf "dave" minuteLater, copyOf "bob" .epoch, copyOf "carol" .epoch] where
  mem := by
    intro other
    have records
        : sharedImage.records
          = [copyOf "alice" .epoch, copyOf "bob" .epoch, copyOf "dave" minuteLater,
              copyOf "carol" .epoch] := by
      decide
    rw [records]
    simp only [List.mem_cons, List.not_mem_nil, or_false]
    constructor
    · rintro (rfl | rfl | rfl) <;> decide
    · rintro ⟨rfl | rfl | rfl | rfl, foreign, -⟩ <;> simp_all
  once := by decide
  onePerUser := by decide
  newestFirst := by decide
  inOrder := by
    intro instant
    -- The ledger knows two instants only; of any other there is nothing to order.
    by_cases now : instant = minuteLater
    · subst now
      decide
    · by_cases start : instant = .epoch
      · subst start
        decide
      · simp [copyOf, Ne.symm now, Ne.symm start]

/-- What alice is told across all users: dave's record first, and then bob's and carol's, which are
equally old, in the order in which they were saved.
-/
def alicesReport : DuplicateReport :=
  ⟨copyOf "alice" .epoch,
    [copyOf "dave" minuteLater, copyOf "bob" .epoch, copyOf "carol" .epoch]⟩

/-- This she is told. Witness: her record is the only one of her name, and there is only one way to
list the others.
-/
theorem sharedImage_reported
    : ∃ after,
        (Verification.duplicateReport .global .background "alice" "alice").run
            (environment (.error (.transport "")) (fun _ => .epoch) toString) none
            (World.start ⟨sharedImage, .empty⟩)
          = (some (.ok alicesReport), after)
        ∧ sharedImage.Reports .global "alice" "alice" alicesReport := by
  have known : sharedImage.Knows "alice" "alice" :=
    ⟨copyOf "alice" .epoch, by decide, rfl, rfl⟩
  obtain ⟨outcome, after, ran, -, told⟩ :=
    @Verification.duplicateReport_reports (.error (.transport "")) (fun _ => .epoch) toString
      .background (World.start ⟨sharedImage, .empty⟩) rfl sharedImage_grown .global "alice" "alice"
  obtain ⟨⟨requested, duplicates⟩, rfl, reports⟩ := told known
  obtain rfl : requested = copyOf "alice" .epoch :=
    sharedImage_grown.distinct.eq reports.stored (by decide) (.inl reports.named)
  obtain rfl := (reports.others rfl).unique sharedImage_listed sharedImage_grown.distinct
  exact ⟨after, ran, reports⟩

end ImageVerification
