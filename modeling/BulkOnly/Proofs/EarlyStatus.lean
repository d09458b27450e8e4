import BulkOnly.Proofs.Writing

set_option autoImplicit false

namespace BulkOnly

def CommandWrapper.cutTo (wrapper : CommandWrapper) (short : UInt32) : CommandWrapper :=
  { wrapper with transferLength := short }

structure Command.Writes (command : Command) (block data : Bytes) : Prop where
  block : command.block = block
  direction : command.direction = .toDevice
  length : command.length = data.length
  data : command.data = data

structure Completion.EndsAlike (completion : Completion) (command command' : Command) : Prop where
  status : (completion.ended command).commandStatus = (completion.ended command').commandStatus
  moved : (completion.ended command).moved = (completion.ended command').moved
  sense : (completion.ended command).sense = (completion.ended command').sense

theorem Completion.ends_alike (completion : Completion) (wrapper : CommandWrapper) (short : UInt32)
    (sense : Scsi.Sense) (data : Bytes) (generation : Nat) :
    completion.EndsAlike ⟨generation, .writing wrapper sense data⟩
      ⟨generation, .writing (wrapper.cutTo short) sense data⟩ := by
  obtain ⟨written, front, ending⟩ := completion
  cases ending with
  | dropped => exact ⟨rfl, rfl, rfl⟩
  | ended status transferred retry => exact ⟨rfl, rfl, rfl⟩

theorem Completion.moved_le (completion : Completion) {wrapper : CommandWrapper}
    (writes : wrapper.direction = .toDevice) (sense : Scsi.Sense) (data : Bytes)
    (generation : Nat) :
    (completion.ended ⟨generation, .writing wrapper sense data⟩).moved ≤ data.length := by
  let command : Command := ⟨generation, .writing wrapper sense data⟩
  have direction : (completion.ended command).direction = .toDevice := by
    rw [direction_ended]
    exact writes
  have offset : (completion.ended command).offset = data.length := by
    have kept : (completion.ended command).offset =
        if wrapper.direction = .toHost then 0 else data.length := by
      unfold Completion.ended Completion.returned
      split <;> rfl
    simpa [writes] using kept
  change (completion.ended command).moved ≤ data.length
  simp only [Transaction.moved, direction, offset]
  split
  next => exact Nat.le_refl _
  next => exact Nat.min_le_left _ _

theorem Completion.tag_ended (completion : Completion) (command : Command) :
    (completion.ended command).statusWrapper.tag = command.transaction.wrapper.tag :=
  congrArg CommandWrapper.tag (completion.wrapper_ended command)

-- What is left of the longer write is left over, whatever the target made of the rest.
theorem Completion.residue_ended (completion : Completion) {wrapper : CommandWrapper}
    (writes : wrapper.direction = .toDevice) (sense : Scsi.Sense) {data : Bytes} {short : UInt32}
    (sent : data.length = short.toNat) (part : short < wrapper.transferLength)
    (generation : Nat) :
    (completion.ended ⟨generation, .writing wrapper sense data⟩).residue =
      (completion.ended ⟨generation, .writing (wrapper.cutTo short) sense data⟩).residue +
        (wrapper.transferLength.toNat - short.toNat) := by
  have bound := completion.moved_le writes sense data generation
  have same := (completion.ends_alike wrapper short sense data generation).moved
  have less := UInt32.lt_iff_toNat_lt.mp part
  simp only [Transaction.residue, Transaction.declared, Completion.wrapper_ended, ← same]
  change wrapper.transferLength.toNat - _ =
    short.toNat - _ + (wrapper.transferLength.toNat - short.toNat)
  omega

namespace System

open Device

variable {s : System} {wrapper : CommandWrapper} {short : UInt32} {sense : Scsi.Sense}
variable {chunks : List Urb} {cbw read : Urb}

def writing (cbw : Urb) (chunks : List Urb) (read : Urb) : List Turn :=
  .send cbw :: (chunks.map .send ++ [.read .holds read])

def ending (s : System) (completion : Completion) : Turn :=
  ⟨.complete s.waiting.length completion, .holds⟩

def ReadsStatus (read : Urb) : Prop :=
  read.direction = .toHost ∧ read.requested = StatusWrapper.encodedLength

structure CutShort (s : System) (wrapper : CommandWrapper) (short : UInt32) (chunks : List Urb) :
    Prop where
  admits : s.device.Admits wrapper
  room : s.device.makesRoom short = true
  some_sent : short ≠ 0
  part : short < wrapper.transferLength
  towards : ∀ chunk ∈ chunks, chunk.direction = .toDevice
  nonempty : ∀ chunk ∈ chunks, chunk.payload ≠ []
  sent : (chunks.flatMap Urb.payload).length = short.toNat

namespace CutShort

variable (cut : s.CutShort wrapper short chunks)

include cut

theorem begun : chunks.flatMap Urb.payload ≠ [] := by
  have some_sent : short.toNat ≠ 0 := fun zero => cut.some_sent (UInt32.toNat_inj.mp zero)
  rw [← cut.sent] at some_sent
  exact fun nothing => some_sent (by rw [nothing]; rfl)

end CutShort

structure Submits (s : System) (t : Transaction) (urbs : List Urb) (read : Urb)
    (turns : List Turn) : Prop where
  played : s.play turns = s.submitting t urbs [read]
  outcomes : s.outcomes turns = List.replicate urbs.length .completed ++ [.queued]
  submitted : s.submitted turns = [⟨s.device.nextGeneration, t⟩]

structure Closed (s after : System) (urbs : List Urb) (read : Urb) (csw : StatusWrapper) :
    Prop where
  returned : after.device.done = ⟨s.device.done.toList ++
    (urbs ++ [read.filled csw.encode]).map (·.finished .ok)⟩
  waiting : after.waiting = s.waiting

-- Both writes have ended, and what was not sent is all that they differ in.
structure EndAlike (s after after' : System) (wrapper : CommandWrapper) (short : UInt32)
    (urbs urbs' : List Urb) (read : Urb) : Prop where
  statuses : ∃ csw csw', Closed s after urbs read csw ∧ Closed s after' urbs' read csw' ∧
    csw.tag = wrapper.tag ∧ csw'.tag = wrapper.tag ∧ csw.status = csw'.status ∧
    csw.residue.toNat = csw'.residue.toNat + (wrapper.transferLength.toNat - short.toNat)
  rest : ∃ sense, after.Rests sense ∧ after'.Rests sense
  statistics : after.device.statistics = after'.device.statistics
  later : after.device.settings.SameRoom after'.device.settings after.device.slot.kept
      after'.device.slot.kept →
    ∀ turns : List Turn, (∀ turn ∈ turns, turn.operation.steers = true) →
      Indistinguishable after turns after' turns

theorem concluding_rests (rests : s.Rests sense) {t : Transaction} {urbs : List Urb}
    {turns : List Turn} (played : s.play turns = s.concluding t urbs) :
    (s.concluding t urbs).Rests t.sense where
  reached := by
    have working : (s.play turns).condition = .working := by
      rw [played]
      exact rests.reached.working
    rw [← played]
    exact rests.reached.play working
  ready := rfl
  parked := rests.parked

theorem Submits.played_ending (rests : s.Rests sense) (inRuns : s.device.halts.bulkIn = false)
    (reads : ReadsStatus read) {t : Transaction} (writes : t.direction = .toDevice)
    {urbs : List Urb} {turns : List Turn} (submits : s.Submits t urbs read turns)
    (completion : Completion) :
    s.play (turns ++ [s.ending completion]) =
      s.concluding (completion.ended ⟨s.device.nextGeneration, t⟩) (urbs ++
        [read.filled (completion.ended ⟨s.device.nextGeneration, t⟩).statusWrapper.encode]) := by
  obtain ⟨_, ended⟩ := turn_ended rests inRuns reads.1 reads.2 writes urbs completion
  rw [play_append, submits.played, play_cons, play_nil]
  exact congrArg Report.system ended

theorem ends_alike (rests : s.Rests sense) (inRuns : s.device.halts.bulkIn = false)
    (reads : ReadsStatus read) (cut : s.CutShort wrapper short chunks) {urbs urbs' : List Urb}
    {turns turns' : List Turn}
    (early : s.Submits (.writing wrapper sense (chunks.flatMap Urb.payload)) urbs read turns)
    (shorter : s.Submits (.writing (wrapper.cutTo short) sense (chunks.flatMap Urb.payload))
      urbs' read turns')
    (completion : Completion) :
    EndAlike s (s.play (turns ++ [s.ending completion]))
      (s.play (turns' ++ [s.ending completion])) wrapper short urbs urbs' read := by
  have writes := cut.admits.writes
  have ended := early.played_ending rests inRuns reads writes completion
  have ended' := shorter.played_ending rests inRuns reads writes completion
  have alike := completion.ends_alike wrapper short sense (chunks.flatMap Urb.payload)
    s.device.nextGeneration
  have residue := completion.residue_ended writes sense cut.sent cut.part s.device.nextGeneration
  have after := concluding_rests rests ended
  have after' := concluding_rests rests ended'
  rw [alike.sense] at after
  rw [ended, ended']
  constructor
  case statuses =>
    refine ⟨_, _, ⟨rfl, rfl⟩, ⟨rfl, rfl⟩, ?_, ?_, alike.status, ?_⟩
    · exact completion.tag_ended _
    · exact completion.tag_ended _
    · rw [Transaction.toNat_residue_statusWrapper, Transaction.toNat_residue_statusWrapper]
      exact residue
  case rest => exact ⟨_, after, after'⟩
  case statistics => rfl
  case later =>
    intro room turns steers
    have devices := after.alike after' (.refl _) room rfl rfl rfl rfl
    exact after.indistinguishable after' devices steers steers rfl

end System

end BulkOnly
