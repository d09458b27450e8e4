import BulkOnly.Proofs.Lockstep
import BulkOnly.Proofs.Ownership

set_option autoImplicit false

namespace BulkOnly.System

def Reached (s : System) : Prop :=
  ∃ settings location target turns,
    s = (create settings location target).play turns ∧ s.condition = .working

namespace Reached

variable {s : System}

theorem ledger (reached : s.Reached) :
    ∃ submitted abandoned, s.device.Ledger s.waiting submitted abandoned := by
  obtain ⟨settings, location, target, turns, rfl, working⟩ := reached
  exact ⟨_, _, play_ledger settings location target turns working⟩

theorem working (reached : s.Reached) : s.condition = .working := by
  obtain ⟨-, -, -, -, -, working⟩ := reached
  exact working

theorem released (reached : s.Reached) : s.device.submissions = [] := by
  obtain ⟨submitted, abandoned, ledger⟩ := reached.ledger
  exact ledger.released

theorem told (reached : s.Reached) : s.device.events = [] := by
  obtain ⟨settings, location, target, turns, rfl, working⟩ := reached
  refine play_induction (fun _ s => s.device.events = []) rfl ?_ turns working
  intro turns turn silent before after
  rcases turn_cases before after with ⟨operation, -, -, report⟩ |
    ⟨index, completion, command, -, -, report⟩ | ⟨index, completion, -, -, report⟩
  · rw [report]
    rfl
  · rw [report]
    rfl
  · rw [report]
    exact silent

theorem cleared (reached : s.Reached) :
    { s.device with submissions := [], events := [] } = s.device := by
  have released := reached.released
  have silent := reached.told
  simp only [← released, ← silent]

theorem below (reached : s.Reached) :
    ∀ command ∈ s.waiting, command.generation < s.device.nextGeneration := by
  obtain ⟨submitted, abandoned, ledger⟩ := reached.ledger
  exact ledger.below

theorem no_reset_waits (reached : s.Reached) (idle : s.device.slot.generation? = none) :
    s.device.pendingReset = none := by
  obtain ⟨settings, location, target, turns, rfl, working⟩ := reached
  exact (play_quiet working).pendingReset idle

theorem play (reached : s.Reached) {turns : List Turn}
    (working : (s.play turns).condition = .working) : (s.play turns).Reached := by
  obtain ⟨settings, location, target, earlier, rfl, -⟩ := reached
  exact ⟨settings, location, target, earlier ++ turns, (play_append _ _ _).symm, working⟩

theorem turn (reached : s.condition = .working → s.Reached) {turn : Turn}
    (after : (s.turn turn).system.condition = .working) : (s.turn turn).system.Reached := by
  obtain ⟨settings, location, target, turns, same, -⟩ := reached (working_of_turn after)
  refine ⟨settings, location, target, turns ++ [turn], ?_, after⟩
  rw [play_append, ← same, play_cons, play_nil]

end Reached

-- Nothing executes, nothing is parked, and the next command would find `sense`.
structure Rests (s : System) (sense : Scsi.Sense) : Prop where
  reached : s.Reached
  ready : s.device.slot.retained? = some sense
  parked : s.device.parked = .empty

namespace Rests

variable {s r : System} {sense : Scsi.Sense}

theorem idle (rests : s.Rests sense) : s.device.slot.generation? = none := by
  rcases Slot.retained?_eq_some_iff.mp rests.ready with ⟨slot, -⟩ | ⟨t, slot, -⟩
  · rw [slot]
    rfl
  · rw [slot]
    rfl

theorem alike (rests : s.Rests sense) (rests' : r.Rests sense)
    (settings : s.device.settings.Alike r.device.settings)
    (room : s.device.settings.SameRoom r.device.settings s.device.slot.kept r.device.slot.kept)
    (descriptors : s.device.descriptors = r.device.descriptors)
    (configuration : s.device.configuration = r.device.configuration)
    (bulkIn : s.device.halts.bulkIn = r.device.halts.bulkIn)
    (bulkOut : s.device.halts.bulkOut = r.device.halts.bulkOut) :
    s.device.Alike r.device s.device r.device where
  settings := settings
  descriptors := descriptors
  configuration := configuration
  bulkIn := bulkIn
  bulkOut := bulkOut
  parked := rests.parked.trans rests'.parked.symm
  pendingReset := (rests.reached.no_reset_waits rests.idle).trans
    (rests'.reached.no_reset_waits rests'.idle).symm
  slot := .retained sense rests.ready rests'.ready room
  issued := ⟨0, rfl, rfl⟩
  submissions := by
    rw [rests.reached.released, rests'.reached.released]
    exact .nil
  returned := ⟨[], (List.append_nil _).symm, (List.append_nil _).symm⟩

-- Against the same device without the commands that it gave up.
theorem indistinguishable_alone (rests : s.Rests sense) (rests' : r.Rests sense)
    (alike : s.device.Alike r.device s.device r.device) {turns : List Turn}
    (steers : ∀ turn ∈ turns, turn.operation.steers = true) :
    Indistinguishable s turns { r with waiting := [] } (newer s.waiting.length turns) := by
  have working := rests.reached.working
  have working' := rests'.reached.working
  exact indistinguishable_of_alike (r := { r with waiting := [] }) alike
    (working.trans working'.symm) rests'.reached.released rests.reached.below rfl steers

theorem indistinguishable (rests : s.Rests sense) (rests' : r.Rests sense)
    (alike : s.device.Alike r.device s.device r.device) {turns turns' : List Turn}
    (steers : ∀ turn ∈ turns, turn.operation.steers = true)
    (steers' : ∀ turn ∈ turns', turn.operation.steers = true)
    (same : newer s.waiting.length turns = newer r.waiting.length turns') :
    Indistinguishable s turns r turns' := by
  have itself := rests'.alike rests' (.refl _) (fun _ _ => rfl) rfl rfl rfl rfl
  have these := rests.indistinguishable_alone rests' alike steers
  have those := rests'.indistinguishable_alone rests' itself steers'
  rw [← same] at those
  exact these.trans those.symm

end Rests

def usedReads : List Turn :=
  [sendReadSix 1, { operation := .device .reset }, sendReadSix 2,
    { operation := .complete 1 { data := [1, 2, 3, 4] } }, readBulk 3 4, readBulk 4 13]

end BulkOnly.System
