import Mathlib.Data.List.Pairwise
import ImageVerification.Proofs.Service.Contest

/-! How a verification in a contest stands with the store, and what a turn does to its standing.

A turn either leaves the ledger as it is, or adds the record of the one whose turn it is.
-/

namespace ImageVerification

namespace Ledger

/-- No record has the name of a request. -/
def Unnamed (ledger : Ledger) (name : String) : Prop :=
  ∀ record ∈ ledger.records, record.requestId ≠ name

/-- Under a new name, a record is stored unless the image is on record for its user. -/
theorem save_of_unnamed {ledger : Ledger} {record : Record}
    (unnamed : ledger.Unnamed record.requestId)
    : ledger.Holds record.userId record.fingerprint
          ∧ ledger.save record = (.error imageConflict, ledger)
      ∨ ¬ ledger.Holds record.userId record.fingerprint
          ∧ ledger.save record = (.ok (), ⟨ledger.records ++ [record]⟩) := by
  have newRequest : ledger.records.any (fun r => r.requestId == record.requestId) = false := by
    simpa [Unnamed] using unnamed
  have held
      : (ledger.records.any fun r =>
            r.userId == record.userId && r.fingerprint == record.fingerprint) = true
        ↔ ledger.Holds record.userId record.fingerprint := by
    simp [Holds]
  unfold save
  rw [newRequest]
  by_cases holds : ledger.Holds record.userId record.fingerprint
  · exact .inl ⟨holds, by simp [held.mpr holds]⟩
  · exact .inr ⟨holds, by simp [mt held.mp holds]⟩

/-- A record under a new name and of an image that is not on record clashes with none. -/
theorem Distinct.append {ledger : Ledger} {record : Record} (distinct : ledger.Distinct)
    (unnamed : ledger.Unnamed record.requestId)
    (free : ¬ ledger.Holds record.userId record.fingerprint)
    : Distinct ⟨ledger.records ++ [record]⟩ := by
  refine List.pairwise_append.mpr ⟨distinct, List.pairwise_singleton _ _, ?_⟩
  intro other stored last same
  obtain rfl := List.mem_singleton.mp same
  rintro (sameRequest | sameImage)
  · exact unnamed other stored sameRequest
  · exact free ⟨other, stored, sameImage⟩

/-- Records that clash in a ledger without clashes are one and the same. -/
theorem Distinct.eq {ledger : Ledger} {a b : Record} (distinct : ledger.Distinct)
    (left : a ∈ ledger.records) (right : b ∈ ledger.records) (clash : a.Clashes b)
    : a = b := by
  by_contra different
  have symmetric : Std.Symm fun a b : Record => ¬ a.Clashes b :=
    ⟨fun a b apart clash => apart (clash.imp Eq.symm (.imp Eq.symm Eq.symm))⟩
  exact List.Pairwise.forall distinct left right different clash

end Ledger

namespace Service

open Collaborator Verification

variable {submission : Submission} {name : String}

/-- A blind call leaves the ledger alone and tells nothing of it. -/
theorem Blind.answer {request : Call} (blind : Blind request) (verdict : Except ScorerFault Verdict)
    (now : Instant) (backends other : InMemory)
    : (backends.answer verdict now request).2.ledger = backends.ledger
      ∧ savesHeard request (backends.answer verdict now request).1 = []
      ∧ (other.answer verdict now request).1 = (backends.answer verdict now request).1 := by
  cases blind <;> exact ⟨rfl, rfl, rfl⟩

/-- Who keeps aside goes on to do so, and neither leaves a trace in the store nor learns from it. -/
theorem KeepsAside.take {contender : Contender} (keeps : KeepsAside contender.rest) (turn : Turn)
    (name : String) (backends other : InMemory)
    : (contender.take turn name backends).1.ledger = backends.ledger
      ∧ (contender.take turn name backends).2.answers = contender.answers
      ∧ KeepsAside (contender.take turn name backends).2.rest
      ∧ (contender.take turn name other).2 = (contender.take turn name backends).2 := by
  obtain ⟨answers, rest⟩ := contender
  cases rest with
  | done result => exact ⟨rfl, List.append_nil _, keeps, rfl⟩
  | call ctx request next =>
      obtain ⟨blind, later⟩ := keeps
      obtain ⟨sameLedger, unheard, sameReply⟩ :=
        blind.answer turn.verdict turn.instant backends other
      cases lost : turn.interrupt with
      | some kind =>
          rw [Contender.take_call_interrupted lost, Contender.take_call_interrupted lost]
          exact ⟨rfl, rfl, later _, rfl⟩
      | none =>
          rw [Contender.take_call_answered lost, Contender.take_call_answered lost, sameReply,
            unheard, List.append_nil]
          exact ⟨sameLedger, rfl, later _, rfl⟩
  | sleep ctx span next => exact ⟨rfl, List.append_nil _, keeps _, rfl⟩
  | now next => exact ⟨rfl, List.append_nil _, keeps _, rfl⟩
  | fresh next => exact ⟨rfl, List.append_nil _, keeps _, rfl⟩
  | log event next => exact ⟨rfl, List.append_nil _, keeps, rfl⟩

/-- How a contender stands with the store. -/
inductive Standing (submission : Submission) (name : String) (ledger : Ledger)
    : Contender → Prop where
  /-- No save of its record has been answered or interrupted so far. -/
  | bidding {rest : Action (Except StageFailure VerificationOutcome)}
      (bids : Bids submission name rest) (unnamed : ledger.Unnamed name)
      : Standing submission name ledger ⟨[], rest⟩
  /-- Its save has been interrupted. -/
  | out {rest : Action (Except StageFailure VerificationOutcome)} (aside : KeepsAside rest)
      (unnamed : ledger.Unnamed name)
      : Standing submission name ledger ⟨[], rest⟩
  | won {rest : Action (Except StageFailure VerificationOutcome)} {record : Record}
      (aside : KeepsAside rest) (stored : record ∈ ledger.records)
      (own : IsRecordOf submission name record)
      : Standing submission name ledger ⟨[.ok ()], rest⟩
  | lost {rest : Action (Except StageFailure VerificationOutcome)}
      (concludes : Concludes (refusal name Ledger.imageConflict) rest)
      (unnamed : ledger.Unnamed name)
      (held : ledger.Holds submission.userId submission.fingerprint)
      : Standing submission name ledger ⟨[.error Ledger.imageConflict], rest⟩

/-- What a turn of a contender does to the ledger: nothing, or the store has taken its record. -/
inductive TurnEffect (submission : Submission) (name : String) (before : Ledger)
    (contender : Contender) (after : Ledger) (next : Contender)
    : Prop where
  | none (same : after = before)
  | stored {record : Record} (own : IsRecordOf submission name record)
      (unanswered : contender.answers = []) (answered : next.answers = [.ok ()])
      (unnamed : before.Unnamed name)
      (free : ¬ before.Holds submission.userId submission.fingerprint)
      (added : after = ⟨before.records ++ [record]⟩)

/-- What the store answers to the save of a contender's record. -/
theorem answer_save {backends : InMemory} {record : Record}
    (own : IsRecordOf submission name record) (unnamed : backends.ledger.Unnamed name)
    (verdict : Except ScorerFault Verdict) (now : Instant)
    : backends.ledger.Holds submission.userId submission.fingerprint
          ∧ backends.answer verdict now (.storeSave record)
            = (.error Ledger.imageConflict, backends)
      ∨ ¬ backends.ledger.Holds submission.userId submission.fingerprint
          ∧ backends.answer verdict now (.storeSave record)
            = (.ok (), { backends with ledger := ⟨backends.ledger.records ++ [record]⟩ }) := by
  have new : backends.ledger.Unnamed record.requestId := own.named ▸ unnamed
  have saved := Ledger.save_of_unnamed new
  rw [own.owned, own.ofImage] at saved
  rcases saved with ⟨holds, refused⟩ | ⟨free, taken⟩
  · exact .inl ⟨holds, by simp only [InMemory.answer, refused]⟩
  · exact .inr ⟨free, by simp only [InMemory.answer, taken]⟩

/-- A turn leaves a contender in good standing. -/
theorem Standing.take {backends : InMemory} {contender : Contender}
    (standing : Standing submission name backends.ledger contender) (turn : Turn)
    : Standing submission name (contender.take turn name backends).1.ledger
        (contender.take turn name backends).2
      ∧ TurnEffect submission name backends.ledger contender
          (contender.take turn name backends).1.ledger (contender.take turn name backends).2 := by
  -- Who is still bidding may be at its save, the only turn that the ledger can tell apart from
  -- others; all other standings keep aside from it.
  cases standing with
  | @bidding rest bids unnamed =>
      cases bids with
      | done => exact ⟨.bidding .done unnamed, .none rfl⟩
      | @save ctx record next own stored refused interrupted =>
          cases lost : turn.interrupt with
          | some kind =>
              rw [Contender.take_call_interrupted lost]
              exact ⟨.out (interrupted kind) unnamed, .none rfl⟩
          | none =>
              rw [Contender.take_call_answered lost]
              -- The save is refused if another record is held for the same image, and wins
              -- otherwise.
              rcases answer_save own unnamed turn.verdict turn.instant with
                ⟨holds, answered⟩ | ⟨free, answered⟩
              · rw [answered]
                exact ⟨.lost (refused _ rfl) unnamed holds, .none rfl⟩
              · rw [answered]
                exact ⟨.won stored (List.mem_append_right _ (List.mem_singleton_self _)) own,
                  .stored own rfl rfl unnamed free rfl⟩
      | @call ctx request next blind later =>
          cases lost : turn.interrupt with
          | some kind =>
              rw [Contender.take_call_interrupted lost]
              exact ⟨.bidding (later _) unnamed, .none rfl⟩
          | none =>
              obtain ⟨sameLedger, unheard, -⟩ :=
                blind.answer turn.verdict turn.instant backends backends
              rw [Contender.take_call_answered lost, sameLedger, unheard]
              exact ⟨.bidding (later _) unnamed, .none rfl⟩
      | sleep later => exact ⟨.bidding (later _) unnamed, .none rfl⟩
      | now later => exact ⟨.bidding (later _) unnamed, .none rfl⟩
      | fresh later => exact ⟨.bidding later unnamed, .none rfl⟩
      | log later => exact ⟨.bidding later unnamed, .none rfl⟩
  | @out rest aside unnamed =>
      have keeps : KeepsAside (Contender.mk [] rest).rest := aside
      have taken := keeps.take turn name backends backends
      generalize Contender.take turn name backends ⟨[], rest⟩ = result at taken ⊢
      obtain ⟨after, answers, rest⟩ := result
      obtain ⟨same, rfl, keeps, -⟩ := taken
      rw [same]
      exact ⟨.out keeps unnamed, .none rfl⟩
  | @won rest record aside stored own =>
      have keeps : KeepsAside (Contender.mk [.ok ()] rest).rest := aside
      have taken := keeps.take turn name backends backends
      generalize Contender.take turn name backends ⟨[.ok ()], rest⟩ = result at taken ⊢
      obtain ⟨after, answers, rest⟩ := result
      obtain ⟨same, rfl, keeps, -⟩ := taken
      rw [same]
      exact ⟨.won keeps stored own, .none rfl⟩
  | lost concludes unnamed held =>
      cases concludes with
      | done => exact ⟨.lost .done unnamed held, .none rfl⟩
      | log concludes => exact ⟨.lost concludes unnamed held, .none rfl⟩

/-- A record of another name changes nothing about a standing. -/
theorem Standing.append {ledger : Ledger} {contender : Contender} {record : Record}
    (standing : Standing submission name ledger contender) (other : record.requestId ≠ name)
    : Standing submission name ⟨ledger.records ++ [record]⟩ contender := by
  have unnamed' (unnamed : ledger.Unnamed name)
      : Ledger.Unnamed ⟨ledger.records ++ [record]⟩ name := by
    intro stored member
    rcases List.mem_append.mp member with earlier | last
    · exact unnamed stored earlier
    · rwa [List.mem_singleton.mp last]
  cases standing with
  | bidding bids unnamed => exact .bidding bids (unnamed' unnamed)
  | out aside unnamed => exact .out aside (unnamed' unnamed)
  | won aside stored own => exact .won aside (List.mem_append_left _ stored) own
  | lost concludes unnamed held =>
      obtain ⟨stored, member, same⟩ := held
      exact .lost concludes (unnamed' unnamed) ⟨stored, List.mem_append_left _ member, same⟩

/-- The store has given no answer about an image that is not on record afterwards. -/
theorem Standing.holds_of_answered {ledger : Ledger} {contender : Contender}
    (standing : Standing submission name ledger contender) (answered : contender.answers ≠ [])
    : ledger.Holds submission.userId submission.fingerprint := by
  cases standing with
  | bidding | out => exact absurd rfl answered
  | won aside stored own => exact ⟨_, stored, own.owned, own.ofImage⟩
  | lost concludes unnamed held => exact held

/-- A turn puts the image of its contender on record by a win only. -/
theorem TurnEffect.holds_iff {before after : Ledger} {contender next : Contender}
    (effect : TurnEffect submission name before contender after next)
    (standing : Standing submission name after next)
    : after.Holds submission.userId submission.fingerprint
      ↔ before.Holds submission.userId submission.fingerprint ∨ next.answers = [.ok ()] := by
  have won (told : next.answers = [.ok ()])
      : after.Holds submission.userId submission.fingerprint :=
    standing.holds_of_answered (by simp [told])
  cases effect with
  | none same => exact ⟨fun held => .inl (same ▸ held), fun either => either.elim (same ▸ ·) won⟩
  | stored own unanswered answered => exact ⟨fun _ => .inr answered, fun _ => won answered⟩

/-- Whose record is on record has won. -/
theorem Standing.won_of_mem {ledger : Ledger} {contender : Contender} {record : Record}
    (standing : Standing submission name ledger contender) (stored : record ∈ ledger.records)
    (named : record.requestId = name)
    : contender.answers = [.ok ()] := by
  cases standing with
  | bidding _ unnamed | out _ unnamed | lost _ unnamed => exact absurd named (unnamed record stored)
  | won => rfl

/-- All that a turn tells a contender of the ledger is whether its image is on record. -/
theorem Standing.take_eq {backends other : InMemory} {contender : Contender}
    (standing : Standing submission name backends.ledger contender)
    (elsewhere : Standing submission name other.ledger contender)
    (alike : backends.ledger.Holds submission.userId submission.fingerprint
      ↔ other.ledger.Holds submission.userId submission.fingerprint)
    (turn : Turn)
    : (contender.take turn name backends).2 = (contender.take turn name other).2 := by
  cases standing with
  | @bidding rest bids unnamed =>
      -- A contender without answers stands unnamed in the other ledger too.
      have unnamed' : other.ledger.Unnamed name := by
        cases elsewhere <;> assumption
      cases bids with
      | done => rfl
      | @save ctx record next own stored refused interrupted =>
          cases lost : turn.interrupt with
          | some kind =>
              rw [Contender.take_call_interrupted lost, Contender.take_call_interrupted lost]
          | none =>
              rw [Contender.take_call_answered lost, Contender.take_call_answered lost]
              rcases answer_save own unnamed turn.verdict turn.instant with
                ⟨holds, answered⟩ | ⟨free, answered⟩ <;>
              rcases answer_save own unnamed' turn.verdict turn.instant with
                ⟨holds', answered'⟩ | ⟨free', answered'⟩
              · rw [answered, answered']
              · -- The mixed cases would have the image on record in one ledger only.
                exact absurd (alike.mp holds) free'
              · exact absurd (alike.mpr holds') free
              · rw [answered, answered']
      | @call ctx request next blind later =>
          cases lost : turn.interrupt with
          | some kind =>
              rw [Contender.take_call_interrupted lost, Contender.take_call_interrupted lost]
          | none =>
              obtain ⟨-, -, sameReply⟩ := blind.answer turn.verdict turn.instant other backends
              rw [Contender.take_call_answered lost, Contender.take_call_answered lost, sameReply]
      | sleep later => rfl
      | now later => rfl
      | fresh later => rfl
      | log later => rfl
  | @out rest aside unnamed =>
      have keeps : KeepsAside (Contender.mk [] rest).rest := aside
      exact (keeps.take turn name other backends).2.2.2
  | @won rest record aside stored own =>
      have keeps : KeepsAside (Contender.mk [.ok ()] rest).rest := aside
      exact (keeps.take turn name other backends).2.2.2
  | lost concludes unnamed held =>
      cases concludes with
      | done => rfl
      | log concludes => rfl

end Service

end ImageVerification
