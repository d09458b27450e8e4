import BulkOnly.Proofs.Isolation
import BulkOnly.Proofs.Soundness

set_option autoImplicit false

namespace BulkOnly

theorem Transaction.Sound.saved {t : Transaction} (sound : t.Sound) (phase : Phase) :
    (Slot.held phase t).saved = some ⟨phase.stage, t⟩ := by
  have opened : t.wrapper.blockLength ≠ 0 := by
    intro none
    have positive := sound.blockLength.1
    rw [none] at positive
    exact absurd positive (by decide)
  rw [Slot.saved, if_neg opened]

-- A slot at rest is saved as one that looks the same and that is saved in the same way again.
theorem Slot.Sound.accepted {slot : Slot} (sound : slot.Sound) (idle : slot.generation? = none)
    (base base' : Nat) {room : Nat → Nat → Prop} (same : ∀ kept, room kept kept)
    (configuration : UInt8) (bulkInHalted bulkOutHalted : Bool) :
    ∃ slot' : Slot,
      SavedState.slot { configuration, bulkInHalted, bulkOutHalted, transaction := slot.saved } =
        .ok slot' ∧
      slot'.saved = slot.saved ∧ Slot.Alike base base' room slot slot' := by
  cases slot with
  | executing generation => cases idle
  | vacant => exact ⟨.vacant, rfl, rfl, .retained Scsi.Sense.zero rfl rfl (same 0)⟩
  | held phase t =>
    rcases sound phase t rfl with opened | ⟨rfl, rfl⟩
    · refine ⟨.held phase t, ?_, rfl, .held phase t rfl rfl⟩
      rw [opened.saved phase]
      exact SavedTransaction.slot_eq_ok_iff.mpr
        ⟨phase, rfl, rfl, opened.wellFormed, opened.blockLength⟩
    · exact ⟨.vacant, rfl, rfl, .retained Scsi.Sense.zero rfl rfl (same 0)⟩

namespace System

def equipped (settings : Settings) (location : String) (target : Target) (table : Descriptors) :
    System := ((create settings location target).perform (.device (.setDescriptors table))).system

def restored (fresh : System) (state : SavedState) : Report :=
  fresh.perform (.device (.restore state))

structure Transparent (s fresh : System) (state : SavedState) : Prop where
  saved : (s.perform (.device .save)).answer = .saved state
  accepted : (fresh.restored state).answer = .done
  saved_again : ((fresh.restored state).system.perform (.device .save)).answer = .saved state
  continued (turns : List Turn) : (∀ turn ∈ turns, turn.operation.drives = true) →
    Indistinguishable s turns (fresh.restored state).system (newer s.waiting.length turns)

theorem perform_save {s : System} (working : s.condition = .working)
    (idle : s.device.slot.generation? = none) :
    (s.perform (.device .save)).answer = .saved
      { configuration := s.device.configuration
        bulkInHalted := s.device.halts.bulkIn
        bulkOutHalted := s.device.halts.bulkOut
        transaction := s.device.slot.saved } := by
  have rests : s.device.slot.isExecuting = false := by rw [Slot.isExecuting_eq_isSome, idle]; rfl
  simp [perform, working, operate, Device.operate, Device.save, rests, release]

theorem restored_equipped (settings : Settings) (location : String) (target : Target)
    (table : Descriptors) {state : SavedState} {slot : Slot} (accepted : state.slot = .ok slot) :
    ((equipped settings location target table).restored state).answer = .done ∧
      ((equipped settings location target table).restored state).system =
        { create settings location target with
          device := { Device.restoredTo { settings, location, descriptors := table } state slot with
            events := [] } } := by
  have restores : Device.restore { settings, location, descriptors := table } state =
      .ok (Device.restoredTo { settings, location, descriptors := table } state slot) :=
    Device.restore_eq_ok_iff.mpr ⟨slot, accepted, rfl, rfl⟩
  constructor <;>
    simp [restored, equipped, create, perform, operate, Device.operate, release, restores,
      Device.restoredTo, Device.log]

theorem save_restore_transparent {settings settings' : Settings} {location location' : String}
    {target target' : Target} {turns : List Turn} {s : System}
    (played : s = (create settings location target).play turns)
    (genuine : ∀ turn ∈ turns, turn.Genuine) (working : s.condition = .working)
    (idle : s.device.slot.isExecuting = false) (limits : s.device.settings.Alike settings') :
    ∃ state,
      Transparent s (equipped settings' location' target' s.device.descriptors) state := by
  have rests : s.device.slot.generation? = none := by
    rwa [Slot.isExecuting_eq_isSome, Option.isSome_eq_false_iff, Option.isNone_iff_eq_none] at idle
  have reached : s.Reached := ⟨settings, location, target, turns, played, working⟩
  have quiet : s.device.Quiet (∀ turn ∈ turns, turn.Genuine) := by
    rw [played] at working ⊢
    exact play_quiet working
  have sound : s.Sound := by
    rw [played] at working ⊢
    exact play_sound working
  obtain ⟨slot, accepted, same, alike⟩ := sound.device.slot.accepted rests s.device.nextGeneration 0
    limits.room s.device.configuration s.device.halts.bulkIn s.device.halts.bulkOut
  obtain ⟨answer, system⟩ :=
    restored_equipped settings' location' target' s.device.descriptors accepted
  refine ⟨_, perform_save working rests, answer, ?_, ?_⟩
  · rw [system, perform_save rfl (SavedState.idle_of_slot accepted), ← same]
    rfl
  · intro turns drives
    rw [system]
    refine indistinguishable_of_alike ?_ working rfl reached.below rfl fun turn member =>
      Operation.steers_of_drives (drives turn member)
    exact
      { settings := limits
        descriptors := rfl
        configuration := rfl
        bulkIn := rfl
        bulkOut := rfl
        parked := quiet.parked genuine rests
        pendingReset := quiet.pendingReset rests
        slot := alike
        issued := ⟨0, rfl, rfl⟩
        submissions := by rw [reached.released]; exact .nil
        returned := ⟨[], (List.append_nil _).symm, rfl⟩ }

def statusOutstanding : List Turn :=
  [{ operation := .device (.restore {}) }, sendReadSix 1, { operation := .device .reset },
    sendReadSix 2, { operation := .complete 1 { data := [1, 2, 3, 4] } }, readBulk 3 4]

theorem save_restore_transparent_statusOutstanding :
    (∀ turn ∈ statusOutstanding, turn.Genuine) ∧
      ((create {} "lun0" .holds).play statusOutstanding).device.slot.isExecuting = false ∧
      ∃ state, Transparent ((create {} "lun0" .holds).play statusOutstanding)
        (equipped {} "lun1" .holds
          ((create {} "lun0" .holds).play statusOutstanding).device.descriptors) state := by
  have genuine : ∀ turn ∈ statusOutstanding, turn.Genuine := by
    simpa [statusOutstanding, Turn.Genuine, sendReadSix, readBulk] using SavedState.genuine_fresh
  refine ⟨genuine, by decide, ?_⟩
  exact save_restore_transparent rfl genuine (by decide) (by decide) (.refl {})

end System

end BulkOnly
