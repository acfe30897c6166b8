import ImageVerification.Proofs.Service.Disclosure
import ImageVerification.Proofs.Service.Errands

/-! Users are apart: what becomes of a user's errands does not depend on the errands of others.

The store is seen through the records of one user. A turn of that user does the same to what is seen
as it does to a store that holds nothing else, and a turn of anybody else does nothing to it. The
invariant is that every record bears the name of an errand and belongs to the errand's user, so that
nobody can be in the way of a name.
-/

namespace ImageVerification

namespace Ledger

variable {ledger : Ledger} {userId : String} {record : Record}

/-- The records of a user, in the order in which they were saved. -/
def ownedBy (ledger : Ledger) (userId : String) : Ledger :=
  ⟨ledger.records.filter (·.userId == userId)⟩

/-- A search for a user's request meets the user's own records only. -/
theorem find_ownedBy (requestId : String)
    : (ledger.ownedBy userId).find requestId userId = ledger.find requestId userId := by
  unfold find ownedBy
  rw [List.find?_filter]
  congr 2
  funext r
  rw [Bool.eq_iff_iff]
  simp only [decide_eq_true_eq, Bool.and_eq_true, beq_iff_eq]
  exact ⟨And.right, fun own => ⟨own.2, own⟩⟩

/-- So does a listing of the duplicates that an owner has. -/
theorem duplicates_ownedBy (fingerprint : String) (exclude : Option String)
    : (ledger.ownedBy userId).duplicates (some userId) fingerprint exclude
      = ledger.duplicates (some userId) fingerprint exclude := by
  simp only [duplicates, ownedBy, List.filter_filter, Option.all_some]
  congr 2
  funext r
  cases r.userId == userId <;> simp

/-- A record that is saved is the user's to see if it is the user's own. -/
theorem ownedBy_append (records : List Record) (record : Record) (userId : String)
    : ownedBy ⟨records ++ [record]⟩ userId
      = ⟨records.filter (·.userId == userId)
          ++ if record.userId = userId then [record] else []⟩ := by
  simp [ownedBy, List.filter_cons]

/-- To save a record where its name can only have been used for the same user, it is enough to know
the records of that user.
-/
theorem save_ownedBy
    (reserved : ∀ other ∈ ledger.records,
      other.requestId = record.requestId → other.userId = record.userId)
    : (ledger.ownedBy record.userId).save record
      = ((ledger.save record).1, (ledger.save record).2.ownedBy record.userId) := by
  -- A name in use is one of this user's, by assumption.
  have sameRequest
      : ((ledger.ownedBy record.userId).records.any fun r => r.requestId == record.requestId)
        = ledger.records.any fun r => r.requestId == record.requestId := by
    rw [Bool.eq_iff_iff]
    simp only [ownedBy, List.any_eq_true, List.mem_filter, beq_iff_eq]
    constructor
    · rintro ⟨other, ⟨stored, -⟩, same⟩
      exact ⟨other, stored, same⟩
    · rintro ⟨other, stored, same⟩
      exact ⟨other, ⟨stored, reserved other stored same⟩, same⟩
  have sameImage
      : ((ledger.ownedBy record.userId).records.any fun r =>
            r.userId == record.userId && r.fingerprint == record.fingerprint)
        = ledger.records.any fun r =>
            r.userId == record.userId && r.fingerprint == record.fingerprint := by
    simp only [ownedBy, List.any_filter]
    congr 1
    funext r
    cases r.userId == record.userId <;> simp
  unfold save
  rw [sameRequest, sameImage]
  split
  · rfl
  · split
    · rfl
    · simp [ownedBy]

/-- A save makes no difference to the records of somebody else. -/
theorem save_ownedBy_of_ne (other : record.userId ≠ userId)
    : (ledger.save record).2.ownedBy userId = ledger.ownedBy userId := by
  rcases ledger.save_cases record with ⟨fault, refused⟩ | ⟨taken, -⟩
  · rw [refused]
  · rw [taken, ownedBy_append, if_neg other, List.append_nil]
    rfl

end Ledger

/-- The backends with the records of one user only. -/
def InMemory.onlyOf (backends : InMemory) (userId : String) : InMemory :=
  { backends with ledger := backends.ledger.ownedBy userId }

namespace Service

open Collaborator

variable {userId name : String} {request : Call} {backends : InMemory}

/-- Only records of a user bear a name. -/
def Reserved (ledger : Ledger) (name userId : String) : Prop :=
  ∀ record ∈ ledger.records, record.requestId = name → record.userId = userId

/-- What concerns a user is answered in the same way where there are no other records. -/
theorem Concerns.answer_onlyOf (concerns : Concerns userId name request)
    (reserved : Reserved backends.ledger name userId) (verdict : Except ScorerFault Verdict)
    (now : Instant)
    : (backends.onlyOf userId).answer verdict now request
      = ((backends.answer verdict now request).1,
          (backends.answer verdict now request).2.onlyOf userId) := by
  cases concerns with
  | blind blind => cases blind <;> rfl
  | save owned named =>
      subst owned named
      simp only [InMemory.answer, InMemory.onlyOf, Ledger.save_ownedBy reserved]
  | find => simp only [InMemory.answer, InMemory.onlyOf, Ledger.find_ownedBy]
  | duplicates => simp only [InMemory.answer, InMemory.onlyOf, Ledger.duplicates_ownedBy]

/-- What concerns a user makes no difference to the records of anybody else. -/
theorem Concerns.answer_of_ne {other : String} (concerns : Concerns other name request)
    (different : other ≠ userId) (verdict : Except ScorerFault Verdict) (now : Instant)
    : (backends.answer verdict now request).2.ledger.ownedBy userId
      = backends.ledger.ownedBy userId := by
  cases concerns with
  | blind blind => cases blind <;> rfl
  | save owned named => exact Ledger.save_ownedBy_of_ne (owned ▸ different)
  | find => rfl
  | duplicates => rfl

/-- What concerns a user is answered in the same way where the user has the same records. -/
theorem Concerns.answer_alike {other : InMemory} (concerns : Concerns userId name request)
    (reserved : Reserved backends.ledger name userId)
    (reserved' : Reserved other.ledger name userId)
    (alike : backends.ledger.ownedBy userId = other.ledger.ownedBy userId)
    (verdict : Except ScorerFault Verdict) (now : Instant)
    : (backends.answer verdict now request).1 = (other.answer verdict now request).1
      ∧ (backends.answer verdict now request).2.ledger.ownedBy userId
        = (other.answer verdict now request).2.ledger.ownedBy userId := by
  have here := concerns.answer_onlyOf reserved verdict now
  have there := concerns.answer_onlyOf reserved' verdict now
  have cachedElsewhere {left right : InMemory} (same : left.ledger = right.ledger)
      : (left.answer verdict now request).1 = (right.answer verdict now request).1
        ∧ (left.answer verdict now request).2.ledger
          = (right.answer verdict now request).2.ledger := by
    cases concerns with
    | blind blind => cases blind <;> exact ⟨rfl, same⟩
    | save owned named => simp [InMemory.answer, same]
    | find => exact ⟨by simp only [InMemory.answer, same], same⟩
    | duplicates => exact ⟨by simp only [InMemory.answer, same], same⟩
  have seen : (backends.onlyOf userId).ledger = (other.onlyOf userId).ledger := alike
  have answered := cachedElsewhere seen
  rw [here, there] at answered
  exact answered

/-- A record that is new was saved for the user and under the name. -/
theorem Concerns.new_record {record : Record} (concerns : Concerns userId name request)
    {verdict : Except ScorerFault Verdict} {now : Instant}
    (stored : record ∈ (backends.answer verdict now request).2.ledger.records)
    : record ∈ backends.ledger.records ∨ record.requestId = name ∧ record.userId = userId := by
  cases concerns with
  | blind blind => cases blind <;> exact .inl stored
  | @save saved owned named =>
      rcases backends.ledger.save_cases saved with ⟨fault, refused⟩ | ⟨taken, -⟩
      · simp only [InMemory.answer, refused] at stored
        exact .inl stored
      · simp only [InMemory.answer, taken, List.mem_append, List.mem_singleton] at stored
        rcases stored with earlier | rfl
        · exact .inl earlier
        · exact .inr ⟨named, owned⟩
  | find => exact .inl stored
  | duplicates => exact .inl stored

/-- The affairs of a service with the records of one user only. -/
def Affairs.onlyOf (affairs : Affairs) (userId : String) : Affairs :=
  { affairs with backends := affairs.backends.onlyOf userId }

namespace Agenda

variable {agenda other : Agenda} {affairs a b : Affairs}

/-- What is the case at every point: nobody asks for what concerns somebody else, and every record
is that of an errand.
-/
structure Orderly (agenda : Agenda) (affairs : Affairs) : Prop where
  minds : ∀ number,
    MindsOwn (agenda.errand number).userId (agenda.name number) (affairs.rest number)
  records : ∀ record ∈ affairs.backends.ledger.records, ∃ number,
    record.requestId = agenda.name number ∧ record.userId = (agenda.errand number).userId

/-- A record under an errand's name is that of the errand's user, since no two errands have the same
name.
-/
theorem Orderly.reserved (orderly : agenda.Orderly affairs) (number : Nat)
    : Reserved affairs.backends.ledger (agenda.name number) (agenda.errand number).userId := by
  intro record stored named
  obtain ⟨maker, made, owned⟩ := orderly.records record stored
  obtain rfl := agenda.injective (made.symm.trans named)
  exact owned

/-- At the start, every errand minds its own business and nothing is on record. -/
theorem Orderly.start (agenda : Agenda) : agenda.Orderly agenda.start :=
  ⟨fun number => (agenda.errand number).mindsOwn _, fun _ stored => absurd stored List.not_mem_nil⟩

theorem next_rest_of_ne {turn : Turn} {number : Nat} (different : number ≠ turn.number)
    : (agenda.next affairs turn).rest number = affairs.rest number :=
  Function.update_of_ne different ..

theorem next_of_take {turn : Turn} {backends : InMemory} {left : Action Answer}
    (took : turn.take (agenda.name turn.number) affairs.backends (affairs.rest turn.number)
      = (backends, left))
    : agenda.next affairs turn = ⟨backends, Function.update affairs.rest turn.number left⟩ := by
  simp only [next, took]

/-- A turn keeps the affairs in order: the errand whose turn it is goes on minding its own business,
and a record that it saves is under its name.
-/
theorem Orderly.next (orderly : agenda.Orderly affairs) (turn : Turn)
    : agenda.Orderly (agenda.next affairs turn) := by
  have minds {left : Action Answer}
      (own : MindsOwn (agenda.errand turn.number).userId (agenda.name turn.number) left)
      (number : Nat)
      : MindsOwn (agenda.errand number).userId (agenda.name number)
          (Function.update affairs.rest turn.number left number) := by
    by_cases same : number = turn.number
    · subst same
      rwa [Function.update_self]
    · rw [Function.update_of_ne same]
      exact orderly.minds number
  rcases Turn.take_cases (orderly.minds turn.number) turn rfl
    with ⟨left, own, took⟩ | ⟨request, next, concerns, own, took⟩
  · rw [next_of_take (took _)]
    exact ⟨minds own, orderly.records⟩
  · rw [next_of_take (took _)]
    refine ⟨minds (own _), ?_⟩
    intro record stored
    rcases concerns.new_record stored with earlier | ⟨named, owned⟩
    · exact orderly.records record earlier
    · exact ⟨turn.number, named, owned⟩

/-- So do all turns, by induction on them. -/
theorem Orderly.play (orderly : agenda.Orderly affairs) (turns : List Turn)
    : agenda.Orderly (agenda.play affairs turns) := by
  induction turns generalizing affairs with
  | nil => exact orderly
  | cons turn turns ih => exact ih (orderly.next turn)

/-- A turn of a user does the same where there are no records of others. -/
theorem Orderly.next_onlyOf (orderly : agenda.Orderly affairs) {turn : Turn}
    (own : agenda.isOf userId turn.number = true)
    : agenda.next (affairs.onlyOf userId) turn = (agenda.next affairs turn).onlyOf userId := by
  obtain rfl := isOf_iff.mp own
  rcases Turn.take_cases (orderly.minds turn.number) turn rfl
    with ⟨left, -, took⟩ | ⟨request, next, concerns, -, took⟩
  · rw [next_of_take (took _)]
    exact next_of_take (took _)
  · have alone := took (affairs.backends.onlyOf (agenda.errand turn.number).userId)
    have moved : agenda.next (affairs.onlyOf _) turn = _ := next_of_take alone
    rw [moved, next_of_take (took _)]
    simp only [Affairs.onlyOf, concerns.answer_onlyOf (orderly.reserved turn.number)]

/-- A turn of somebody else does nothing to the errands and the records of a user. -/
theorem Orderly.next_of_other (orderly : agenda.Orderly affairs) {turn : Turn}
    (elsewhere : agenda.isOf userId turn.number = false)
    : (agenda.next affairs turn).backends.ledger.ownedBy userId
        = affairs.backends.ledger.ownedBy userId
      ∧ ∀ number, agenda.isOf userId number = true →
          (agenda.next affairs turn).rest number = affairs.rest number := by
  refine ⟨?_, ?_⟩
  · rcases Turn.take_cases (orderly.minds turn.number) turn rfl
      with ⟨left, -, took⟩ | ⟨request, next, concerns, -, took⟩
    · rw [next_of_take (took _)]
    · rw [next_of_take (took _)]
      refine concerns.answer_of_ne ?_ _ _
      rintro rfl
      simp [isOf] at elsewhere
  · intro number own
    refine next_rest_of_ne ?_
    rintro rfl
    exact absurd own (by simp [elsewhere])

/-- Two agendas in which a user has the same errands under the same names. -/
structure SameFor (userId : String) (agenda other : Agenda) : Prop where
  isOf : agenda.isOf userId = other.isOf userId
  errand : ∀ number, agenda.isOf userId number = true →
    agenda.errand number = other.errand number
  name : ∀ number, agenda.isOf userId number = true → agenda.name number = other.name number

theorem SameFor.refl (userId : String) (agenda : Agenda) : SameFor userId agenda agenda :=
  ⟨rfl, fun _ _ => rfl, fun _ _ => rfl⟩

/-- The errands of a user have come to the same, and the user's records are the same. -/
structure Alike (agenda : Agenda) (userId : String) (a b : Affairs) : Prop where
  rest : ∀ number, agenda.isOf userId number = true → a.rest number = b.rest number
  ledger : a.backends.ledger.ownedBy userId = b.backends.ledger.ownedBy userId

/-- A user who asks for the same begins alike. -/
theorem SameFor.start (same : SameFor userId agenda other)
    : agenda.Alike userId agenda.start other.start := by
  refine ⟨?_, rfl⟩
  intro number own
  simp only [Agenda.start, same.errand number own]

/-- A turn of somebody else makes no difference to a user. -/
theorem Alike.skip (alike : agenda.Alike userId a b) (orderly : agenda.Orderly a) {turn : Turn}
    (elsewhere : agenda.isOf userId turn.number = false)
    : agenda.Alike userId (agenda.next a turn) b := by
  obtain ⟨sameLedger, sameRest⟩ := orderly.next_of_other elsewhere
  exact ⟨fun number own => (sameRest number own).trans (alike.rest number own),
    sameLedger.trans alike.ledger⟩

/-- The same turn of a user leads to the same. -/
theorem Alike.next (alike : agenda.Alike userId a b) (same : SameFor userId agenda other)
    (orderly : agenda.Orderly a) (orderly' : other.Orderly b) {turn : Turn}
    (own : agenda.isOf userId turn.number = true)
    : agenda.Alike userId (agenda.next a turn) (other.next b turn) := by
  obtain rfl := isOf_iff.mp own
  have reserved := orderly.reserved turn.number
  have reserved' := orderly'.reserved turn.number
  rw [← same.errand _ own, ← same.name _ own] at reserved'
  -- Both agendas are updated at the same errand, with the same rest of it.
  have updated {backends backends' : InMemory} {left : Action Answer}
      (sameLedger : backends.ledger.ownedBy (agenda.errand turn.number).userId
        = backends'.ledger.ownedBy (agenda.errand turn.number).userId)
      : agenda.Alike (agenda.errand turn.number).userId
          ⟨backends, Function.update a.rest turn.number left⟩
          ⟨backends', Function.update b.rest turn.number left⟩ := by
    refine ⟨?_, sameLedger⟩
    intro number isOwn
    by_cases moved : number = turn.number
    · subst moved
      simp only [Function.update_self]
    · simp only [Function.update_of_ne moved, alike.rest number isOwn]
  -- The turn tells nothing of the backends, or it is a call that concerns the user alone.
  rcases Turn.take_cases (orderly.minds turn.number) turn rfl
    with ⟨left, -, took⟩ | ⟨request, next, concerns, -, took⟩
  · have took' := took b.backends
    rw [alike.rest _ own, same.name _ own] at took'
    rw [next_of_take (took _), next_of_take took']
    exact updated alike.ledger
  · have took' := took b.backends
    rw [alike.rest _ own, same.name _ own] at took'
    rw [next_of_take (took _), next_of_take took']
    obtain ⟨sameReply, sameLedger⟩ :=
      concerns.answer_alike reserved reserved' alike.ledger turn.verdict turn.instant
    rw [← sameReply]
    exact updated sameLedger

/-- The turns of others may be left out. -/
theorem Alike.play_filter (alike : agenda.Alike userId a b) (same : SameFor userId agenda other)
    (orderly : agenda.Orderly a) (orderly' : other.Orderly b) (turns : List Turn)
    : agenda.Alike userId (agenda.play a turns)
        (other.play b (turns.filter fun turn => agenda.isOf userId turn.number)) := by
  refine (related_of_filter
    (R := fun a b => agenda.Orderly a ∧ other.Orderly b ∧ agenda.Alike userId a b)
    ?_ ?_ ⟨orderly, orderly', alike⟩ turns).2.2
  · rintro a b turn ⟨orderly, orderly', alike⟩ elsewhere
    exact ⟨orderly.next turn, orderly', alike.skip orderly elsewhere⟩
  · rintro a b turn ⟨orderly, orderly', alike⟩ own
    exact ⟨orderly.next turn, orderly'.next turn, alike.next same orderly orderly' own⟩

/-- Two services in which a user takes the same turns with the same errands, whatever others do in
between: the user's errands come to the same, and the user's records are the same. At every point
of the way, a turn of the user commutes with leaving out the records of others, and a turn of
somebody else does nothing to the user's errands and records.
-/
theorem users_apart (same : SameFor userId agenda other) {turns otherTurns : List Turn}
    (sameTurns :
      turns.filter (fun turn => agenda.isOf userId turn.number)
      = otherTurns.filter fun turn => other.isOf userId turn.number)
    : agenda.Alike userId (agenda.play agenda.start turns) (other.play other.start otherTurns)
      ∧ ∀ turn,
          (agenda.isOf userId turn.number = true →
            agenda.next ((agenda.play agenda.start turns).onlyOf userId) turn
            = (agenda.next (agenda.play agenda.start turns) turn).onlyOf userId)
          ∧ (agenda.isOf userId turn.number = false →
            agenda.Alike userId (agenda.next (agenda.play agenda.start turns) turn)
              (agenda.play agenda.start turns)) := by
  have begins := Orderly.start agenda
  have begins' := Orderly.start other
  have orderly := begins.play turns
  refine ⟨?_, ?_⟩
  · have here := same.start.play_filter same begins begins' turns
    have there := (SameFor.refl userId other).start.play_filter (.refl userId other) begins'
      begins' otherTurns
    rw [sameTurns] at here
    refine ⟨?_, here.ledger.trans there.ledger.symm⟩
    intro number own
    rw [here.rest number own]
    exact (there.rest number (same.isOf ▸ own)).symm
  · intro turn
    refine ⟨fun own => orderly.next_onlyOf own, fun elsewhere => ?_⟩
    obtain ⟨sameLedger, sameRest⟩ := orderly.next_of_other elsewhere
    exact ⟨sameRest, sameLedger⟩

/-- Alice brings an image twice and asks for a report on the first, and mallory comes second. -/
def withMallory (request : Request) : Agenda where
  errand
    | 0 => ⟨.background, "alice", .verify []⟩
    | 1 => ⟨.background, "mallory", request⟩
    | 2 => ⟨.background, "alice", .verify []⟩
    | _ => ⟨.background, "alice", .report (unary 0)⟩
  name := unary
  injective := unary_injective
  cache := .empty

theorem withMallory_isOf (request : Request)
    : (withMallory request).isOf "alice" = fun number => number != 1 := by
  funext number
  match number with
  | 0 | 1 | 2 => rfl
  | number + 3 => simp [withMallory, isOf]

/-- The first four take turns, and all calls are answered. -/
def fourTakeTurns : List Turn :=
  (List.range 48).map fun index => ⟨index % 4, 0, .epoch, none, .ok ⟨true, .zero, ""⟩⟩

set_option maxRecDepth 4000 in
/-- Whether mallory brings alice's image or does nothing at all, alice is told the same, and that is
that she has brought her image before.
-/
theorem users_apart_withMallory
    : (withMallory (.verify [])).Alike "alice"
          ((withMallory (.verify [])).play (withMallory (.verify [])).start fourTakeTurns)
          ((withMallory (.report "")).play (withMallory (.report "")).start
            (fourTakeTurns.filter fun turn => turn.number != 1))
      ∧ ((withMallory (.verify [])).play (withMallory (.verify [])).start fourTakeTurns).rest 2
        = .done
            (.verified (.error (.failed "save_log" (unary 2) (.store Ledger.imageConflict)))) := by
  have same : SameFor "alice" (withMallory (.verify [])) (withMallory (.report "")) := by
    refine ⟨by rw [withMallory_isOf, withMallory_isOf], ?_, fun _ _ => rfl⟩
    intro number own
    match number with
    | 0 | 2 => rfl
    | 1 => exact absurd own (by simp [withMallory_isOf])
    | number + 3 => rfl
  refine ⟨(users_apart same ?_).1, rfl⟩
  simp only [withMallory_isOf, List.filter_filter, Bool.and_self]

end Agenda

end Service

end ImageVerification
