import Mathlib.Logic.ExistsUnique
import ImageVerification.Proofs.Service.Disclosure
import ImageVerification.Proofs.Service.Standing

/-! Of the verifications of one user's image whose save has been answered, one has won if the image
was not on record, and all others have been told of a conflict. Verifications of other images make
no difference to that.

The invariant is that every contender is in good standing and that all that came on record is the
record of a winner.
-/

namespace ImageVerification

/-- An image is on record after a save if it was before, or is that of the record saved. -/
theorem Ledger.holds_append {ledger : Ledger} {record : Record} {userId fingerprint : String}
    : Holds ⟨ledger.records ++ [record]⟩ userId fingerprint
      ↔ ledger.Holds userId fingerprint
        ∨ record.userId = userId ∧ record.fingerprint = fingerprint := by
  simp only [Holds, List.mem_append, List.mem_singleton, or_and_right, exists_or, exists_eq_left]

namespace Service

open Collaborator Verification

variable {userId fingerprint : String}

theorem Submission.isFor_iff {submission : Submission}
    : submission.isFor userId fingerprint = true
      ↔ submission.userId = userId ∧ submission.fingerprint = fingerprint := by
  simp [isFor]

theorem IsRecordOf.isFor {submission : Submission} {name : String} {record : Record}
    (own : IsRecordOf submission name record)
    : submission.isFor record.userId record.fingerprint = true :=
  Submission.isFor_iff.mpr ⟨own.owned.symm, own.ofImage.symm⟩

namespace Contest

/-- What is the case at every point of a contest. -/
structure InOrder (contest : Contest) (standings : Standings) : Prop where
  distinct : standings.backends.ledger.Distinct
  standing : ∀ number,
    Standing (contest.submission number) (contest.name number) standings.backends.ledger
      (standings.contenders number)
  kept : contest.backends.ledger.records ⊆ standings.backends.ledger.records
  earned : ∀ record ∈ standings.backends.ledger.records,
    record ∈ contest.backends.ledger.records
    ∨ ∃ number, IsRecordOf (contest.submission number) (contest.name number) record

/-- The store has answered the save of a submission for the user's image. -/
structure Reached (contest : Contest) (standings : Standings) (userId fingerprint : String)
    (number : Nat) : Prop where
  isFor : (contest.submission number).isFor userId fingerprint = true
  answered : (standings.contenders number).answers ≠ []

/-- A contender has been told that its record is stored, and so it is. -/
structure Won (contest : Contest) (standings : Standings) (number : Nat) : Prop where
  told : (standings.contenders number).answers = [.ok ()]
  stored : ∃ record ∈ standings.backends.ledger.records,
    IsRecordOf (contest.submission number) (contest.name number) record

/-- A contender has been told of a conflict, does no more than to say so, and has no record. -/
structure Lost (contest : Contest) (standings : Standings) (number : Nat) : Prop where
  told : (standings.contenders number).answers = [.error Ledger.imageConflict]
  concludes :
    Concludes (refusal (contest.name number) Ledger.imageConflict)
      (standings.contenders number).rest
  unstored : standings.backends.ledger.Unnamed (contest.name number)

variable {contest other : Contest} {standings elsewhere : Standings}

/-- A contest is in order before the first turn: all contenders are bidding. -/
theorem InOrder.start (contest : Contest) : contest.InOrder contest.start where
  distinct := contest.distinct
  standing number :=
    .bidding (verify_bids _ _) fun record stored => contest.fresh record stored number
  kept := List.Subset.refl _
  earned _ stored := .inl stored

/-- What a turn does to the ledger, and that it leaves the one whose turn it is in good standing. -/
theorem InOrder.take (inOrder : contest.InOrder standings) (turn : Turn)
    : Standing (contest.submission turn.number) (contest.name turn.number)
          (contest.next standings turn).backends.ledger
          ((contest.next standings turn).contenders turn.number)
      ∧ TurnEffect (contest.submission turn.number) (contest.name turn.number)
          standings.backends.ledger (standings.contenders turn.number)
          (contest.next standings turn).backends.ledger
          ((contest.next standings turn).contenders turn.number) := by
  simp only [Contest.next, Function.update_self]
  exact (inOrder.standing turn.number).take turn

theorem next_contenders_of_ne {number : Nat} {turn : Turn} (different : number ≠ turn.number)
    : (contest.next standings turn).contenders number = standings.contenders number :=
  Function.update_of_ne different _ _

/-- A turn keeps a contest in order. -/
theorem InOrder.next (inOrder : contest.InOrder standings) (turn : Turn)
    : contest.InOrder (contest.next standings turn) := by
  obtain ⟨standing, effect⟩ := inOrder.take turn
  generalize played : contest.next standings turn = after at standing effect ⊢
  -- A turn moves one contender; the others stand in the new ledger as they stood in the old one.
  have others {number : Nat} (different : number ≠ turn.number)
      : after.contenders number = standings.contenders number :=
    played ▸ next_contenders_of_ne different
  cases effect with
  | none same =>
      refine ⟨same ▸ inOrder.distinct, ?_, same ▸ inOrder.kept, same ▸ inOrder.earned⟩
      intro number
      by_cases own : number = turn.number
      · exact own ▸ standing
      · rw [others own, same]
        exact inOrder.standing number
  | @stored record own unanswered answered unnamed free added =>
      refine ⟨?_, ?_, ?_, ?_⟩
      · rw [added]
        refine inOrder.distinct.append (own.named ▸ unnamed) ?_
        rwa [own.owned, own.ofImage]
      · intro number
        by_cases same : number = turn.number
        · exact same ▸ standing
        · -- A new record takes no other contender by surprise: names are not shared.
          rw [others same, added]
          refine (inOrder.standing number).append ?_
          intro sameName
          exact same (contest.injective (sameName.symm.trans own.named))
      · rw [added]
        exact List.subset_append_of_subset_left _ inOrder.kept
      · rw [added]
        intro other member
        rcases List.mem_append.mp member with earlier | last
        · exact inOrder.earned other earlier
        · exact .inr ⟨turn.number, List.mem_singleton.mp last ▸ own⟩

/-- It stays in order in every course that it takes, by induction on the turns. -/
theorem InOrder.play (inOrder : contest.InOrder standings) (turns : List Turn)
    : contest.InOrder (contest.play standings turns) := by
  induction turns generalizing standings with
  | nil => exact inOrder
  | cons turn turns ih => exact ih (inOrder.next turn)

/-- Whoever has been answered has won or lost. -/
theorem InOrder.won_or_lost (inOrder : contest.InOrder standings) {number : Nat}
    (answered : (standings.contenders number).answers ≠ [])
    : contest.Won standings number ∨ contest.Lost standings number := by
  have standing := inOrder.standing number
  generalize found : standings.contenders number = contender at answered standing
  cases standing with
  | bidding | out => exact absurd rfl answered
  | won aside stored own => exact .inl ⟨found ▸ rfl, _, stored, own⟩
  | lost concludes unnamed held => exact .inr ⟨found ▸ rfl, found ▸ concludes, unnamed⟩

/-- Nobody wins for an image that was on record. -/
theorem InOrder.lost_of_holds (inOrder : contest.InOrder standings)
    (held : contest.backends.ledger.Holds userId fingerprint) {number : Nat}
    (reached : contest.Reached standings userId fingerprint number)
    : contest.Lost standings number := by
  rcases inOrder.won_or_lost reached.answered with ⟨-, record, stored, own⟩ | lost
  · obtain ⟨earlier, known, sameUser, sameImage⟩ := held
    obtain ⟨user, image⟩ := Submission.isFor_iff.mp reached.isFor
    have same : earlier = record := by
      refine inOrder.distinct.eq (inOrder.kept known) stored (.inr ⟨?_, ?_⟩)
      · rw [sameUser, own.owned, user]
      · rw [sameImage, own.ofImage, image]
    exact absurd (same ▸ own.named) (contest.fresh earlier known number)
  · exact lost

/-- Two winners for one image are the same. -/
theorem InOrder.won_unique (inOrder : contest.InOrder standings) {number rival : Nat}
    (won : contest.Won standings number) (rivalWon : contest.Won standings rival)
    (isFor : (contest.submission number).isFor userId fingerprint = true)
    (rivalIsFor : (contest.submission rival).isFor userId fingerprint = true)
    : number = rival := by
  obtain ⟨-, record, stored, own⟩ := won
  obtain ⟨-, rivalRecord, rivalStored, rivalOwn⟩ := rivalWon
  obtain ⟨user, image⟩ := Submission.isFor_iff.mp isFor
  obtain ⟨rivalUser, rivalImage⟩ := Submission.isFor_iff.mp rivalIsFor
  have same : record = rivalRecord := by
    refine inOrder.distinct.eq stored rivalStored (.inr ⟨?_, ?_⟩)
    · rw [own.owned, rivalOwn.owned, user, rivalUser]
    · rw [own.ofImage, rivalOwn.ofImage, image, rivalImage]
  refine contest.injective ?_
  rw [← own.named, ← rivalOwn.named, same]

/-- Once somebody has been answered for an image that was not on record, somebody has won. -/
theorem InOrder.exists_won (inOrder : contest.InOrder standings)
    (free : ¬ contest.backends.ledger.Holds userId fingerprint) {number : Nat}
    (reached : contest.Reached standings userId fingerprint number)
    : ∃ winner,
        contest.Reached standings userId fingerprint winner ∧ contest.Won standings winner := by
  obtain ⟨user, image⟩ := Submission.isFor_iff.mp reached.isFor
  obtain ⟨record, stored, sameUser, sameImage⟩ :=
    (inOrder.standing number).holds_of_answered reached.answered
  rw [user] at sameUser
  rw [image] at sameImage
  rcases inOrder.earned record stored with known | ⟨winner, own⟩
  · exact absurd ⟨record, known, sameUser, sameImage⟩ free
  · have told := (inOrder.standing winner).won_of_mem stored own.named
    refine ⟨winner, ⟨sameUser ▸ sameImage ▸ own.isFor, ?_⟩, told, record, stored, own⟩
    simp [told]

/-- Whether the submission of a number is for a user's image. -/
def isRival (contest : Contest) (userId fingerprint : String) (number : Nat) : Bool :=
  (contest.submission number).isFor userId fingerprint

/-- Two contests in which the same verifications of a user's image begin under the same names, the
image being on record in both or in neither. They may differ in all else.
-/
structure SameRivals (userId fingerprint : String) (contest other : Contest) : Prop where
  isRival : contest.isRival userId fingerprint = other.isRival userId fingerprint
  submission : ∀ number, contest.isRival userId fingerprint number = true →
    contest.submission number = other.submission number
  name : ∀ number, contest.isRival userId fingerprint number = true →
    contest.name number = other.name number
  held :
    contest.backends.ledger.Holds userId fingerprint
    ↔ other.backends.ledger.Holds userId fingerprint

/-- What the verifications of a user's image have come to is the same, and so is whether that image
is on record.
-/
structure Alike (contest : Contest) (userId fingerprint : String) (a b : Standings) : Prop where
  contenders : ∀ number, contest.isRival userId fingerprint number = true →
    a.contenders number = b.contenders number
  held : a.backends.ledger.Holds userId fingerprint ↔ b.backends.ledger.Holds userId fingerprint

section Separation

variable {a b : Standings}

theorem SameRivals.refl (contest : Contest) : SameRivals userId fingerprint contest contest :=
  ⟨rfl, fun _ _ => rfl, fun _ _ => rfl, Iff.rfl⟩

/-- The rivals for an image begin alike. -/
theorem SameRivals.start (same : SameRivals userId fingerprint contest other)
    : contest.Alike userId fingerprint contest.start other.start := by
  refine ⟨?_, same.held⟩
  intro number isRival
  simp only [Contest.start, same.submission number isRival]

/-- A turn of somebody else makes no difference to a user's image. -/
theorem Alike.skip (alike : contest.Alike userId fingerprint a b) (inOrder : contest.InOrder a)
    {turn : Turn} (elsewhere : contest.isRival userId fingerprint turn.number = false)
    : contest.Alike userId fingerprint (contest.next a turn) b := by
  refine ⟨?_, ?_⟩
  · intro number isRival
    have different : number ≠ turn.number := by
      rintro rfl
      exact absurd isRival (by simp [elsewhere])
    rw [next_contenders_of_ne different]
    exact alike.contenders number isRival
  · obtain ⟨-, effect⟩ := inOrder.take turn
    rw [← alike.held]
    cases effect with
    | none same => rw [same]
    | @stored record own unanswered answered unnamed free added =>
        rw [added, Ledger.holds_append, or_iff_left]
        rintro ⟨rfl, rfl⟩
        exact absurd own.isFor (by simpa [isRival] using elsewhere)

/-- A turn of the same verification of a user's image is the same in both contests. -/
theorem Alike.next (alike : contest.Alike userId fingerprint a b)
    (same : SameRivals userId fingerprint contest other) (inOrder : contest.InOrder a)
    (inOrder' : other.InOrder b) {turn : Turn}
    (isRival : contest.isRival userId fingerprint turn.number = true)
    : contest.Alike userId fingerprint (contest.next a turn) (other.next b turn) := by
  obtain ⟨user, image⟩ := Submission.isFor_iff.mp isRival
  obtain ⟨standing, effect⟩ := inOrder.take turn
  obtain ⟨standing', effect'⟩ := inOrder'.take turn
  -- A turn tells a contender only whether its image is on record, which is the same here and there.
  have sameContender
      : (contest.next a turn).contenders turn.number
        = (other.next b turn).contenders turn.number := by
    have standsHere := inOrder.standing turn.number
    have standsThere := inOrder'.standing turn.number
    rw [← same.submission _ isRival, ← same.name _ isRival, ← alike.contenders _ isRival]
      at standsThere
    simp only [Contest.next, Function.update_self]
    rw [← same.name _ isRival, ← alike.contenders _ isRival]
    exact standsHere.take_eq standsThere (by rw [user, image]; exact alike.held) turn
  refine ⟨?_, ?_⟩
  · intro number isRival
    by_cases own : number = turn.number
    · exact own ▸ sameContender
    · rw [next_contenders_of_ne own, next_contenders_of_ne own]
      exact alike.contenders number isRival
  · have here := effect.holds_iff standing
    have there := effect'.holds_iff standing'
    rw [← same.submission _ isRival, user, image, ← sameContender] at there
    rw [user, image] at here
    rw [here, there, alike.held]

/-- The turns of others may be left out. -/
theorem Alike.play_filter (alike : contest.Alike userId fingerprint a b)
    (same : SameRivals userId fingerprint contest other) (inOrder : contest.InOrder a)
    (inOrder' : other.InOrder b) (turns : List Turn)
    : contest.Alike userId fingerprint (contest.play a turns)
        (other.play b
          (turns.filter fun turn => contest.isRival userId fingerprint turn.number)) := by
  refine (related_of_filter
    (R := fun a b => contest.InOrder a ∧ other.InOrder b ∧ contest.Alike userId fingerprint a b)
    ?_ ?_ ⟨inOrder, inOrder', alike⟩ turns).2.2
  · rintro a b turn ⟨inOrder, inOrder', alike⟩ elsewhere
    exact ⟨inOrder.next turn, inOrder', alike.skip inOrder elsewhere⟩
  · rintro a b turn ⟨inOrder, inOrder', alike⟩ isRival
    exact ⟨inOrder.next turn, inOrder'.next turn, alike.next same inOrder inOrder' isRival⟩

end Separation

/-- At every point of every contest no two records clash, and a turn only ever adds the record of a
contender that is told so. Of the verifications of a user's image whose save has been answered, all
have lost if the image was on record from the start; otherwise one has won and all others have lost.
What they come to depends on their own turns alone, and on whether their image was on record.
-/
theorem one_winner (contest : Contest) (turns : List Turn)
    : (contest.play contest.start turns).backends.ledger.Distinct
      ∧ (∀ turn,
          TurnEffect (contest.submission turn.number) (contest.name turn.number)
            (contest.play contest.start turns).backends.ledger
            ((contest.play contest.start turns).contenders turn.number)
            (contest.play contest.start (turns ++ [turn])).backends.ledger
            ((contest.play contest.start (turns ++ [turn])).contenders turn.number))
      ∧ ∀ userId fingerprint,
          (contest.backends.ledger.Holds userId fingerprint →
            ∀ number,
              contest.Reached (contest.play contest.start turns) userId fingerprint number →
              contest.Lost (contest.play contest.start turns) number)
          ∧ (¬ contest.backends.ledger.Holds userId fingerprint →
            (∃ number,
              contest.Reached (contest.play contest.start turns) userId fingerprint number) →
            ∃! winner,
              contest.Reached (contest.play contest.start turns) userId fingerprint winner
              ∧ contest.Won (contest.play contest.start turns) winner
              ∧ ∀ number ≠ winner,
                  contest.Reached (contest.play contest.start turns) userId fingerprint number →
                  contest.Lost (contest.play contest.start turns) number)
          ∧ ∀ (other : Contest) (otherTurns : List Turn),
              SameRivals userId fingerprint contest other →
              turns.filter (fun turn => contest.isRival userId fingerprint turn.number)
                = otherTurns.filter
                    (fun turn => contest.isRival userId fingerprint turn.number) →
              ∀ number, contest.isRival userId fingerprint number = true →
                (contest.play contest.start turns).contenders number
                = (other.play other.start otherTurns).contenders number := by
  have inOrder := (InOrder.start contest).play turns
  refine ⟨inOrder.distinct, ?_, ?_⟩
  · intro turn
    simp only [play, List.foldl_append, List.foldl_cons, List.foldl_nil]
    exact (inOrder.take turn).2
  · intro userId fingerprint
    refine ⟨fun held number => inOrder.lost_of_holds held, ?_, ?_⟩
    · -- Whoever has reached the end has won or lost, and two winners would be one.
      rintro free ⟨number, reached⟩
      obtain ⟨winner, winnerReached, won⟩ := inOrder.exists_won free reached
      refine ⟨winner, ⟨winnerReached, won, ?_⟩, ?_⟩
      · intro rival different rivalReached
        rcases inOrder.won_or_lost rivalReached.answered with rivalWon | lost
        · exact absurd (inOrder.won_unique rivalWon won rivalReached.isFor winnerReached.isFor)
            different
        · exact lost
      · rintro rival ⟨rivalReached, rivalWon, -⟩
        exact inOrder.won_unique rivalWon won rivalReached.isFor winnerReached.isFor
    · -- Both contests are compared with what is left of them when only rivals take turns.
      intro other otherTurns same sameTurns number isRival
      have begins := InOrder.start other
      have itself : SameRivals userId fingerprint other other := .refl other
      have here := same.start.play_filter same (InOrder.start contest) begins turns
      have there := itself.start.play_filter itself begins begins otherTurns
      rw [sameTurns, same.isRival] at here
      rw [here.contenders number isRival]
      exact (there.contenders number (same.isRival ▸ isRival)).symm

/-- The third to come is bob, everybody else is alice, and all bring the same image. -/
def crowd (ledger : Ledger) (distinct : ledger.Distinct)
    (fresh : ∀ record ∈ ledger.records, ∀ number, record.requestId ≠ unary number) : Contest where
  submission number := ⟨.background, if number = 2 then "bob" else "alice", []⟩
  name := unary
  backends := ⟨ledger, .empty⟩
  distinct
  injective := unary_injective
  fresh

/-- A ledger that knows bob's image. -/
def bobsLedger : Ledger := ⟨[makeRecord "q" "bob" [] ⟨true, .zero, ""⟩ .zero .epoch]⟩

theorem bobsLedger_fresh
    : ∀ record ∈ bobsLedger.records, ∀ number, record.requestId ≠ unary number := by
  intro record stored number same
  obtain rfl := List.mem_singleton.mp stored
  have letters := congrArg String.toList same
  simp [makeRecord, unary, List.replicate_succ] at letters

def crowdWithBob : Contest := crowd bobsLedger (List.pairwise_singleton _ _) bobsLedger_fresh

def crowdBeforeBob : Contest := crowd .empty .nil fun _ stored => absurd stored List.not_mem_nil

/-- The first three take turns, and all calls are answered. -/
def rounds (count : Nat) : List Turn :=
  (List.range (3 * count)).map fun index => ⟨index % 3, 0, .epoch, none, .ok ⟨true, .zero, ""⟩⟩

/-- Bob, whose image is on record, loses, and one of the others wins, as if bob had never come. -/
theorem one_winner_of_crowd
    : (crowdWithBob.Lost (crowdWithBob.play crowdWithBob.start (rounds 8)) 2)
      ∧ (∃! winner,
          crowdWithBob.Reached (crowdWithBob.play crowdWithBob.start (rounds 8)) "alice"
            (Fingerprint.ofImage []) winner
          ∧ crowdWithBob.Won (crowdWithBob.play crowdWithBob.start (rounds 8)) winner
          ∧ ∀ number ≠ winner,
              crowdWithBob.Reached (crowdWithBob.play crowdWithBob.start (rounds 8)) "alice"
                (Fingerprint.ofImage []) number →
              crowdWithBob.Lost (crowdWithBob.play crowdWithBob.start (rounds 8)) number)
      ∧ (crowdWithBob.play crowdWithBob.start (rounds 8)).contenders 1
        = (crowdBeforeBob.play crowdBeforeBob.start
            ((rounds 8).filter fun turn => turn.number != 2)).contenders 1 := by
  obtain ⟨-, -, outcome⟩ := one_winner crowdWithBob (rounds 8)
  obtain ⟨heldLost, -, -⟩ := outcome "bob" (Fingerprint.ofImage [])
  obtain ⟨-, freeWon, separate⟩ := outcome "alice" (Fingerprint.ofImage [])
  have unknown : ¬ bobsLedger.Holds "alice" (Fingerprint.ofImage []) := by
    rintro ⟨record, stored, owned, -⟩
    obtain rfl := List.mem_singleton.mp stored
    exact absurd owned (by decide)
  have same : SameRivals "alice" (Fingerprint.ofImage []) crowdWithBob crowdBeforeBob := by
    refine ⟨rfl, fun _ _ => rfl, fun _ _ => rfl, iff_of_false unknown ?_⟩
    rintro ⟨record, stored, -⟩
    exact absurd stored List.not_mem_nil
  have rivals
      : crowdWithBob.isRival "alice" (Fingerprint.ofImage []) = fun number => number != 2 := by
    funext number
    by_cases bob : number = 2 <;>
    simp [crowdWithBob, crowd, isRival, Submission.isFor, Submission.fingerprint, bob]
  refine ⟨?_, ?_, ?_⟩
  · exact heldLost ⟨_, List.mem_singleton_self _, rfl, rfl⟩ 2
      ⟨by decide +kernel, by decide +kernel⟩
  · exact freeWon unknown ⟨0, by decide +kernel, by decide +kernel⟩
  · refine separate crowdBeforeBob _ same ?_ 1 (by rw [rivals]; rfl)
    simp only [rivals, List.filter_filter, Bool.and_self]

end Contest

end Service

end ImageVerification
