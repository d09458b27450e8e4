import BulkOnly.Proofs.History
import BulkOnly.Proofs.Soundness

set_option autoImplicit false

namespace BulkOnly

namespace Completion

theorem isGood_outcome (completion : Completion) (command : Command) :
    (completion.outcome command).status.isGood = completion.ending.isGood := by
  unfold outcome
  cases completion.ending <;> rfl

theorem transferred_outcome (completion : Completion) (command : Command) :
    (completion.outcome command).transferred = completion.ending.reported command.length := by
  unfold outcome
  cases completion.ending <;> rfl

end Completion

namespace Account

variable {a : Account} {t : Transaction}

structure Taking (a : Account) (t : Transaction) : Prop where
  sound : t.Sound
  wrapper : t.wrapper = a.wrapper
  direction : t.direction = .toDevice
  writes : a.wrapper.direction = .toDevice
  declared : t.declared ≠ 0
  received : t.offset = a.received
  sent : a.sent = 0
  unended : a.endings = []

structure Underway (a : Account) (t : Transaction) : Prop where
  sound : t.Sound
  wrapper : t.wrapper = a.wrapper
  direction : t.direction = a.wrapper.direction
  length : t.length = a.commandLength
  received : a.wrapper.direction = .toDevice → t.offset = a.received
  sent : a.sent = 0
  unended : a.endings = []

structure Giving (a : Account) (t : Transaction) : Prop where
  sound : t.Sound
  wrapper : t.wrapper = a.wrapper
  direction : t.direction = .toHost
  reads : a.wrapper.direction = .toHost
  sent : t.offset = a.sent
  left : t.offset ≤ t.transferred
  supplied : ∀ length ending, (length, ending) ∈ a.endings →
    t.transferred ≤ ending.reported length
  judged : a.Judged t.commandStatus

structure Closing (a : Account) (t : Transaction) : Prop where
  wrapper : t.wrapper = a.wrapper
  settled : a.Settled t.residue t.commandStatus

theorem declared_eq (same : t.wrapper = a.wrapper) : t.declared = a.declared := by
  rw [Transaction.declared, same, declared]

theorem Giving.closing (giving : Giving a t) : Closing a t := by
  have bound := giving.sound.wellFormed.offset_le
  have moved : t.moved = a.sent := by
    rw [Transaction.moved, giving.direction]
    exact giving.sent
  have reads := giving.reads
  have residue : t.residue = a.declared - a.sent := by
    rw [Transaction.residue, declared_eq giving.wrapper, moved]
  refine ⟨giving.wrapper, giving.judged, ?_, ?_, ?_, ?_, ?_⟩
  · omega
  · intro
    rw [giving.sent, declared_eq giving.wrapper] at bound
    omega
  · intro _ length ending member
    rw [← giving.sent]
    exact Nat.le_trans giving.left (giving.supplied length ending member)
  · intro writes
    simp [reads] at writes
  · intro writes
    simp [reads] at writes

theorem Giving.sends (giving : Giving a t) (room : Nat) {urb : Urb}
    (length : urb.len = (t.chunk room).length) :
    Giving (a.record (.moved .bulkIn .dataToHost urb)) (t.advanced (t.chunk room).length) := by
  obtain ⟨sound, wrapper, direction, reads, sent, left, supplied, ended, unended⟩ := giving
  have endings : (a.record (.moved .bulkIn .dataToHost urb)).endings = a.endings := by
    simp [Deed.ending?]
  refine ⟨sound.advanced room, wrapper, direction, reads, ?_, ?_, ?_, ?_, ?_⟩
  · rw [sent_record]
    change t.offset + (t.chunk room).length = a.sent + urb.len
    rw [sent, length]
  · change t.offset + (t.chunk room).length ≤ t.transferred
    rw [t.length_chunk, Transaction.remaining]
    omega
  · rw [endings]
    exact supplied
  · intro length ending member
    rw [endings] at member
    obtain ⟨same, verdict⟩ := ended length ending member
    refine ⟨?_, verdict⟩
    simpa [commandLength, reads, declared] using same
  · rw [endings]
    exact unended

theorem Taking.takes (taking : Taking a t) {next : Transaction} {urb : Urb}
    (taken : t.received? urb.payload = some next) :
    Taking (a.record (.moved .bulkOut .dataFromHost urb)) next := by
  obtain ⟨sound, wrapper, direction, writes, declared, received, sent, unended⟩ := taking
  have after := sound.received taken
  unfold Transaction.received? at taken
  split at taken
  case isFalse => cases taken
  case isTrue fits =>
    cases taken
    refine ⟨after, wrapper, direction, writes, declared, ?_, ?_, ?_⟩
    · rw [received_record, ← received]
      rfl
    · rw [sent_record, sent]
      rfl
    · simp [unended, Deed.ending?]

theorem Taking.underway (taking : Taking a t) : Underway a (t.started t.offset) where
  sound := taking.sound.started taking.sound.wellFormed.offset_le
  wrapper := taking.wrapper
  direction := taking.direction.trans taking.writes.symm
  length := by
    rw [commandLength, taking.writes]
    exact taking.received
  received _ := taking.received
  sent := taking.sent
  unended := taking.unended

-- Nothing was received, and no command was ever to hear of it.
theorem Taking.closing (taking : Taking a t) (nothing : t.offset = 0) :
    Closing a ((t.started 0).finished (Scsi.Outcome.good 0)) := by
  have received : a.received = 0 := taking.received.symm.trans nothing
  have same : ((t.started 0).finished (Scsi.Outcome.good 0)).declared = a.declared :=
    declared_eq (t := (t.started 0).finished (Scsi.Outcome.good 0)) taking.wrapper
  have offset : ((t.started 0).finished (Scsi.Outcome.good 0)).offset = 0 := by
    simp [Transaction.finished, Transaction.started, taking.direction, nothing]
  have moved : ((t.started 0).finished (Scsi.Outcome.good 0)).moved = 0 := by
    unfold Transaction.moved
    rw [offset]
    split
    · rfl
    split <;> omega
  have residue : ((t.started 0).finished (Scsi.Outcome.good 0)).residue = a.declared := by
    rw [Transaction.residue, same, moved, Nat.sub_zero]
  have none_ended {length : Nat} {ending : Ending} (member : (length, ending) ∈ a.endings) :
      False := by simp [taking.unended] at member
  refine ⟨taking.wrapper, ⟨fun _ _ member => (none_ended member).elim, fun _ => rfl⟩, ?_, ?_, ?_,
    ?_, ?_⟩
  · omega
  · simp [taking.writes]
  · exact fun _ _ _ member => (none_ended member).elim
  · intros
    omega
  · exact fun _ _ _ member => (none_ended member).elim

theorem Underway.returned {command : Command} (underway : Underway a command.transaction)
    (completion : Completion) : Underway a (completion.returned command).transaction := by
  obtain ⟨sound, wrapper, direction, length, received, sent, unended⟩ := underway
  have after := completion.sound_returned sound
  unfold Completion.returned at after ⊢
  split at after <;> exact ⟨after, wrapper, direction, length, received, sent, unended⟩

def Fits (account : Option Account) (phase : Phase) (t : Transaction) : Prop :=
  match phase with
  | .ready => account = none
  | .dataFromHost => ∃ a, account = some a ∧ Taking a t
  | .dataToHost => ∃ a, account = some a ∧ Giving a t
  | .status => ∃ a, account = some a ∧ Closing a t

section Ended

variable {outcome : Scsi.Outcome} {ending : Ending}

theorem Underway.endings (underway : Underway a t) (ending : Ending) :
    (a.record (.ended t.length ending)).endings = [(t.length, ending)] := by
  simp [underway.unended, Deed.ending?]

theorem Underway.forall_ended {holds : Nat → Ending → Prop} (underway : Underway a t)
    (this : holds t.length ending) :
    ∀ length other, (length, other) ∈ (a.record (.ended t.length ending)).endings →
      holds length other := by
  intro length other member
  rw [underway.endings, List.mem_singleton] at member
  obtain ⟨rfl, rfl⟩ := Prod.mk.inj member
  exact this

theorem Underway.judged (underway : Underway a t)
    (good : outcome.status.isGood = ending.isGood)
    (reported : outcome.transferred = ending.reported t.length) :
    (a.record (.ended t.length ending)).Judged (t.finished outcome).commandStatus := by
  have verdict : (t.finished outcome).commandStatus = ending.verdict t.length := by
    simp [Transaction.commandStatus, Transaction.finished, Ending.verdict, good, reported]
  have length : t.length = (a.record (.ended t.length ending)).commandLength := by
    rw [underway.length]
    simp [commandLength, declared, Deed.taken]
  exact ⟨underway.forall_ended ⟨length, verdict⟩, by simp [underway.endings]⟩

-- What was read is sent from its beginning.
theorem Underway.giving (underway : Underway a t) (reads : a.wrapper.direction = .toHost)
    (good : outcome.status.isGood = ending.isGood)
    (reported : outcome.transferred = ending.reported t.length) :
    Giving (a.record (.ended t.length ending)) (t.finished outcome) := by
  have direction : t.direction = .toHost := underway.direction.trans reads
  have offset : (t.finished outcome).offset = 0 := if_pos direction
  have sent : (a.record (.ended t.length ending)).sent = 0 := by simp [underway.sent, Deed.given]
  have supplied : (t.finished outcome).transferred ≤ ending.reported t.length := by
    rw [← reported]
    exact Nat.min_le_left _ _
  refine ⟨underway.sound.finished outcome, underway.wrapper, direction, reads, ?_, ?_, ?_,
    underway.judged good reported⟩
  · exact offset.trans sent.symm
  · rw [offset]
    exact Nat.zero_le _
  · exact underway.forall_ended supplied

theorem Underway.residue_written (underway : Underway a t)
    (writes : a.wrapper.direction = .toDevice) (good : outcome.status.isGood = ending.isGood)
    (reported : outcome.transferred = ending.reported t.length) :
    (t.finished outcome).residue = a.declared -
      if ending.isGood then a.received else min a.received (ending.reported t.length) := by
  have direction : (t.finished outcome).direction = .toDevice := underway.direction.trans writes
  have offset : (t.finished outcome).offset = a.received := by
    have onward : t.direction = .toDevice := direction
    simp [Transaction.finished, onward, underway.received writes]
  have all : t.length = a.received := by rw [underway.length, commandLength, writes]
  have clipped : (t.finished outcome).transferred = min (ending.reported t.length) t.length := by
    simp [Transaction.finished, reported]
  have status : (t.finished outcome).status.isGood = ending.isGood := good
  have same : (t.finished outcome).declared = a.declared := declared_eq underway.wrapper
  rw [Transaction.residue, same, Transaction.moved, direction, offset, clipped, status]
  dsimp only
  split
  · rfl
  · omega

theorem Underway.closing (underway : Underway a t) (writes : a.wrapper.direction = .toDevice)
    (good : outcome.status.isGood = ending.isGood)
    (reported : outcome.transferred = ending.reported t.length) :
    Closing (a.record (.ended t.length ending)) (t.finished outcome) := by
  have residue := underway.residue_written writes good reported
  have received : (a.record (.ended t.length ending)).received = a.received := by simp [Deed.taken]
  have short : a.received ≤ a.declared := by
    rw [← underway.received writes, ← declared_eq underway.wrapper]
    exact underway.sound.wellFormed.offset_le
  refine ⟨underway.wrapper, underway.judged good reported, ?_, ?_, ?_, ?_, ?_⟩
  · rw [residue]
    exact Nat.sub_le _ _
  · simp [writes]
  · simp [writes]
  · intro _ allGood
    have good : ending.isGood = true := allGood t.length ending (by simp [underway.endings])
    rw [residue, received, if_pos good]
    exact Nat.sub_add_cancel short
  · intro _
    refine underway.forall_ended ?_
    intro bad
    rw [residue, received, if_neg bad]
    rfl

theorem Underway.finished (underway : Underway a t) (good : outcome.status.isGood = ending.isGood)
    (reported : outcome.transferred = ending.reported t.length) :
    Fits (some (a.record (.ended t.length ending))) (t.finished outcome).phaseAfter
      (t.finished outcome) := by
  cases direction : a.wrapper.direction with
  | toHost =>
    have giving := underway.giving direction good reported
    unfold Transaction.phaseAfter
    split
    · exact ⟨_, rfl, giving⟩
    · exact ⟨_, rfl, giving.closing⟩
  | toDevice =>
    have onward : (t.finished outcome).direction = .toDevice := underway.direction.trans direction
    have past : (t.finished outcome).phaseAfter = .status := by
      simp [Transaction.phaseAfter, onward]
    rw [past]
    exact ⟨_, rfl, underway.closing direction good reported⟩

end Ended

theorem Underway.answered {length : Nat} (underway : Underway a (t.started length))
    (sound : t.Sound) (asks : t.asksForSense = true) :
    Fits (some a) t.answeredSense.phaseAfter t.answeredSense := by
  have wrapper : t.wrapper = a.wrapper := underway.wrapper
  have nothing {length : Nat} {ending : Ending} (member : (length, ending) ∈ a.endings) :
      False := by simp [underway.unended] at member
  have judged : a.Judged t.answeredSense.commandStatus :=
    ⟨fun _ _ member => (nothing member).elim, fun _ => rfl⟩
  have sent : t.answeredSense.offset = a.sent := underway.sent.symm
  unfold Transaction.phaseAfter
  split
  next reads =>
    have direction : a.wrapper.direction = .toHost := by
      have length : t.wrapper.transferLength ≠ 0 := by
        intro zero
        have declared : 0 < t.declared := reads.2
        simp [Transaction.declared, zero] at declared
      rw [← wrapper]
      simpa [Transaction.asksForSense, length] using (Bool.and_eq_true_iff.mp asks).2
    exact ⟨a, rfl, sound.answeredSense, wrapper, rfl, direction, sent, Nat.zero_le _,
      fun _ _ member => (nothing member).elim, judged⟩
  next empty =>
    have declared : a.declared = 0 := by
      have same : t.answeredSense.declared = a.declared := declared_eq wrapper
      have none_left : ¬ 0 < t.answeredSense.declared := fun more => empty ⟨rfl, more⟩
      omega
    have residue : t.answeredSense.residue = 0 := by
      have same : t.answeredSense.declared = a.declared := declared_eq wrapper
      rw [Transaction.residue, same, declared, Nat.zero_sub]
    have received (writes : a.wrapper.direction = .toDevice) : a.received = 0 := by
      have bound := sound.wellFormed.offset_le
      have same : t.offset = a.received := underway.received writes
      rw [declared_eq wrapper, declared, same] at bound
      exact Nat.le_zero.mp bound
    refine ⟨a, rfl, wrapper, judged, ?_, ?_, ?_, ?_, ?_⟩
    · omega
    · rw [residue, underway.sent, declared]
      exact fun _ => rfl
    · exact fun _ _ _ member => (nothing member).elim
    · intro writes _
      rw [residue, received writes, declared]
    · exact fun _ _ _ member => (nothing member).elim

end Account

end BulkOnly
