import BulkOnly.Proofs.Bookkeeping
import BulkOnly.Proofs.Delivery

set_option autoImplicit false

namespace BulkOnly

structure Alternates (history : List Deed) : Prop where
  between : ∀ before first middle second after,
    history = before ++ first :: (middle ++ second :: after) → first.opens → second.opens →
    (∀ deed ∈ middle, ¬ deed.opens) →
    middle.countP Deed.closes = 1 ∨ (middle.countP Deed.closes = 0 ∧ .reset ∈ middle)
  preceded : ∀ before status after, history = before ++ status :: after → status.closes →
    ∃ command ∈ before, command.opens
  reopened : ∀ before middle status after,
    history = before ++ .reset :: (middle ++ status :: after) → status.closes →
    ∃ command ∈ middle, command.opens
  answers : ∀ before command middle stage status after,
    history = before ++ .moved .bulkOut .ready command ::
      (middle ++ .moved .bulkIn stage status :: after) →
    (Deed.moved .bulkIn stage status).closes → (∀ deed ∈ middle, ¬ deed.opens) →
    status.payload.length = 13 ∧
      ∃ sent told, CommandWrapper.parse command.payload = .ok sent ∧
        StatusWrapper.parse? status.payload = some told ∧ told.tag = sent.tag

namespace Account

theorem Lawful.alternates {history : List Deed} (lawful : Lawful none history) :
    Alternates history where
  between := by
    rintro before first middle second after rfl first_opens second_opens quiet
    obtain ⟨allowed, later⟩ := (lawful_append.mp lawful).2
    obtain ⟨-, wrapper, opening⟩ := allowed.opened first_opens
    rw [opening] at later
    obtain ⟨during, next_allowed, -⟩ := lawful_append.mp later
    obtain ⟨closed, -⟩ := next_allowed.opened second_opens
    rcases during.opened quiet with still | ⟨-, once⟩
    · cases closed.symm.trans still
    · exact once
  preceded := by
    rintro before status after rfl closes
    obtain ⟨earlier, command, phase, rfl, -⟩ := lawful.exists_opening closes
    exact ⟨_, List.mem_append_right _ List.mem_cons_self, rfl⟩
  reopened := by
    rintro before middle status after rfl closes
    obtain ⟨-, later⟩ := (lawful_append.mp lawful).2
    obtain ⟨earlier, command, phase, rfl, -⟩ := Lawful.exists_opening later closes
    exact ⟨_, List.mem_append_right _ List.mem_cons_self, rfl⟩
  answers := by
    rintro before command middle stage status after rfl closes quiet
    obtain ⟨wrapper, parsed, told, payload, tag, -⟩ := lawful.settled closes quiet
    rw [payload]
    exact ⟨told.length_encode, wrapper, told, parsed, told.parse?_encode, tag⟩

end Account

namespace System

theorem shows_created (settings : Settings) (location : String) (target : Target) :
    (create settings location target).device.Shows (create settings location target).waiting
      none := ⟨nofun, rfl⟩

theorem play_alternates (settings : Settings) (location : String) (target : Target)
    {turns : List Turn}
    (fresh : ∀ turn ∈ turns, ∀ saved, turn.operation ≠ .device (.restore saved)) :
    Alternates ((create settings location target).deeds turns) ∧
      (create settings location target).Recounts turns := by
  have tells := play_tells (shows_created settings location target) fresh
  exact ⟨tells.lawful.alternates, play_recounts settings location target turns⟩

-- The first command is given up and ends late, while the second one executes.
def lateEndBetween : List Turn :=
  [sendReadSix 1, { operation := .device .reset }, sendReadSix 2, readBulk 3 4,
    { operation := .complete 0 {} }, { operation := .complete 0 {} }, readBulk 4 13, sendReadSix 5]

theorem play_alternates_lateEndBetween :
    (∀ turn ∈ lateEndBetween, ∀ saved, turn.operation ≠ .device (.restore saved)) ∧
      (Alternates ((create {} "lun0" .holds).deeds lateEndBetween) ∧
        (create {} "lun0" .holds).Recounts lateEndBetween) ∧
      ((create {} "lun0" .holds).deeds lateEndBetween).countP Deed.opens = 3 ∧
      ((create {} "lun0" .holds).deeds lateEndBetween).countP Deed.closes = 1 ∧
      ((create {} "lun0" .holds).returned lateEndBetween).map Urb.id = [1, 2, 3, 4, 5] := by
  have fresh : ∀ turn ∈ lateEndBetween, ∀ saved,
      turn.operation ≠ .device (.restore saved) := by simp [lateEndBetween, sendReadSix, readBulk]
  exact ⟨fresh, play_alternates {} "lun0" .holds fresh, by decide, by decide, by decide⟩

end System

end BulkOnly
