import BulkOnly.Proofs.Alternation

set_option autoImplicit false

namespace BulkOnly

namespace Ending

theorem verdict_eq_phaseError_iff {ending : Ending} {length : Nat} :
    ending.verdict length = .phaseError ↔ length < ending.reported length := by
  unfold verdict
  split
  next more => simp [more]
  next fits => split <;> simp [fits]

theorem verdict_of_le {ending : Ending} {length : Nat} (le : ending.reported length ≤ length) :
    (ending.verdict length = .passed ↔ ending.isGood) ∧
      (ending.verdict length = .failed ↔ ¬ ending.isGood) := by
  rw [verdict, if_neg (Nat.not_lt.mpr le)]
  split
  next good => simp [good]
  next bad => simp [bad]

end Ending

-- `phase` is what happened between the two wrappers.
structure Truthful (command : CommandWrapper) (phase : List Deed) (told : StatusWrapper) :
    Prop where
  tag : told.tag = command.tag
  bounded : told.residue.toNat ≤ command.transferLength.toNat
  read : command.direction = .toHost →
    told.residue.toNat + givenBytes phase = command.transferLength.toNat
  supplied : command.direction = .toHost → ∀ length ending, .ended length ending ∈ phase →
    givenBytes phase ≤ ending.reported length
  written : command.direction = .toDevice →
    (∀ length ending, .ended length ending ∈ phase → ending.isGood) →
    told.residue.toNat + takenBytes phase = command.transferLength.toNat
  failed : command.direction = .toDevice → ∀ length ending, .ended length ending ∈ phase →
    ¬ ending.isGood → told.residue.toNat =
      command.transferLength.toNat - min (takenBytes phase) (ending.reported length)
  length : ∀ length ending, .ended length ending ∈ phase →
    length = match command.direction with
      | .toHost => command.transferLength.toNat
      | .toDevice => takenBytes phase
  phaseError : ∀ length ending, .ended length ending ∈ phase →
    (told.status = .phaseError ↔ length < ending.reported length)
  verdict : ∀ length ending, .ended length ending ∈ phase → ending.reported length ≤ length →
    (told.status = .passed ↔ ending.isGood) ∧ (told.status = .failed ↔ ¬ ending.isGood)
  unended : (∀ length ending, .ended length ending ∉ phase) → told.status = .passed

theorem Account.Settled.truthful {command : CommandWrapper} {phase : List Deed}
    {told : StatusWrapper} (tag : told.tag = command.tag)
    (settled : Settled ⟨command, phase⟩ told.residue.toNat told.status) :
    Truthful command phase told := by
  obtain ⟨⟨ended, unended⟩, bounded, read, supplied, written, failed⟩ := settled
  simp only [mem_endings_iff] at ended supplied written failed
  refine ⟨tag, bounded, read, supplied, written, failed, ?_, ?_, ?_, ?_⟩
  · intro length ending member
    exact (ended length ending member).1
  · intro length ending member
    rw [(ended length ending member).2]
    exact Ending.verdict_eq_phaseError_iff
  · intro length ending member le
    rw [(ended length ending member).2]
    exact Ending.verdict_of_le le
  · intro never
    refine unended (List.eq_nil_iff_forall_not_mem.mpr ?_)
    rintro ⟨length, ending⟩ member
    exact never length ending (mem_endings_iff.mp member)

def Honest (history : List Deed) : Prop :=
  ∀ before stage status after, history = before ++ .moved .bulkIn stage status :: after →
    (Deed.moved .bulkIn stage status).closes →
    ∃ earlier command phase, before = earlier ++ .moved .bulkOut .ready command :: phase ∧
      (∀ deed ∈ phase, ¬ deed.opens) ∧
      ∃ sent told, CommandWrapper.parse command.payload = .ok sent ∧
        StatusWrapper.parse? status.payload = some told ∧ Truthful sent phase told

theorem Account.Lawful.honest {history : List Deed} (lawful : Lawful none history) :
    Honest history := by
  rintro before stage status after rfl closes
  obtain ⟨earlier, command, phase, rfl, quiet⟩ := lawful.exists_opening closes
  rw [List.append_assoc, List.cons_append] at lawful
  obtain ⟨sent, parsed, told, payload, tag, settled⟩ := lawful.settled closes quiet
  refine ⟨earlier, command, phase, rfl, quiet, sent, told, parsed, ?_, settled.truthful tag⟩
  rw [payload]
  exact told.parse?_encode

namespace System

theorem play_accounts (settings : Settings) (location : String) (target : Target)
    {turns : List Turn}
    (fresh : ∀ turn ∈ turns, ∀ saved, turn.operation ≠ .device (.restore saved)) :
    Honest ((create settings location target).deeds turns) ∧
      (create settings location target).Recounts turns := by
  have tells := play_tells (shows_created settings location target) fresh
  exact ⟨tells.lawful.honest, play_recounts settings location target turns⟩

def shortReads : List Turn :=
  [sendReadSix 1, readBulk 2 2,
    { operation := .complete 0
        { data := [1, 2, 3], ending := .ended Scsi.Status.good (some 3) false } },
    readBulk 3 2, readBulk 4 13]

theorem play_accounts_shortReads :
    (∀ turn ∈ shortReads, ∀ saved, turn.operation ≠ .device (.restore saved)) ∧
      (Honest ((create {} "lun0" .holds).deeds shortReads) ∧
        (create {} "lun0" .holds).Recounts shortReads) ∧
      givenBytes ((create {} "lun0" .holds).deeds shortReads) = 3 ∧
      ((create {} "lun0" .holds).deeds shortReads).countP Deed.closes = 1 ∧
      ((create {} "lun0" .holds).returned shortReads).map Urb.len = [31, 2, 1, 13] := by
  have fresh : ∀ turn ∈ shortReads, ∀ saved,
      turn.operation ≠ .device (.restore saved) := by simp [shortReads, sendReadSix, readBulk]
  exact ⟨fresh, play_accounts {} "lun0" .holds fresh, by decide, by decide, by decide⟩

end System

end BulkOnly
