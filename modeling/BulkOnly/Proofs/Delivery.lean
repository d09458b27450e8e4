import BulkOnly.Proofs.Conclusion
import BulkOnly.Proofs.Conservation
import BulkOnly.Proofs.History
import BulkOnly.Proofs.Lockstep

set_option autoImplicit false

namespace BulkOnly

def Deed.delivered? : Deed → Option Urb
  | .moved _ _ urb => some (urb.finished .ok)
  | _ => none

def delivered (deeds : List Deed) : List Urb := deeds.filterMap Deed.delivered?

@[simp] theorem delivered_append (earlier later : List Deed) :
    delivered (earlier ++ later) = delivered earlier ++ delivered later :=
  List.filterMap_append

@[simp] theorem delivered_ended (length : Nat) (ending : Ending) (rest : List Deed) :
    delivered (.ended length ending :: rest) = delivered rest := rfl

-- What came back is what was moved on the bulk pipes, in the same order, with transfers among it
-- that failed or that were sent to the control pipe.
inductive Recalls (controls : List Nat) : List Urb → List Urb → Prop where
  | nil : Recalls controls [] []
  | moved {urb : Urb} {moved back : List Urb} (rest : Recalls controls moved back) :
    Recalls controls (urb :: moved) (urb :: back)
  | aside {urb : Urb} {moved back : List Urb} (other : urb.status = .ok → urb.id ∈ controls)
    (rest : Recalls controls moved back) : Recalls controls moved (urb :: back)

namespace Recalls

variable {controls : List Nat} {moved moved' back back' : List Urb}

theorem append (first : Recalls controls moved back) (second : Recalls controls moved' back') :
    Recalls controls (moved ++ moved') (back ++ back') := by
  induction first with
  | nil => exact second
  | moved _ ih => exact .moved ih
  | aside other _ ih => exact .aside other ih

theorem of_aside (others : ∀ urb ∈ back, urb.status = .ok → urb.id ∈ controls) :
    Recalls controls [] back := by
  induction back with
  | nil => exact .nil
  | cons urb rest ih =>
    obtain ⟨first, later⟩ := List.forall_mem_cons.mp others
    exact .aside first (ih later)

end Recalls

def Operation.controls : Operation → List Nat
  | .device (.dispatch address urb) =>
    if Pipe.ofAddress? address = some .control then [urb.id] else []
  | _ => []

namespace Device

@[simp] theorem delivered_resetsTo (d e : Device) : delivered (d.resetsTo e) = [] := by
  simp [delivered, resetsTo, Deed.delivered?]

def HoldsOf (d : Device) (controls : List Nat) : Prop :=
  ∀ held, d.pendingReset = some held → held.id ∈ controls

-- From `before` to `after` the host got `outgoing`, and the transfers in `deeds` joined those that
-- are done.
structure Delivers (controls : List Nat) (deeds : List Deed) (outgoing : List Urb)
    (before after : Device) : Prop where
  holds : before.HoldsOf controls → after.HoldsOf controls
  joined : before.HoldsOf controls → ∃ back,
    outgoing ++ after.done.toList = before.done.toList ++ back ∧
      Recalls controls (delivered deeds) back

variable {controls : List Nat} {d e f : Device}

namespace Delivers

theorem reaped {outgoing : List Urb} (pendingReset : e.pendingReset = d.pendingReset)
    (done : d.done.toList = outgoing ++ e.done.toList) : Delivers controls [] outgoing d e where
  holds holds := by
    rw [HoldsOf, pendingReset]
    exact holds
  joined _ := ⟨[], by rw [done, List.append_nil], .nil⟩

theorem still (pendingReset : e.pendingReset = d.pendingReset) (done : e.done = d.done) :
    Delivers controls [] [] d e := reaped pendingReset (congrArg Urb.Queue.toList done).symm

theorem trans {earlier later : List Deed} {outgoing outgoing' : List Urb}
    (first : Delivers controls earlier outgoing d e)
    (second : Delivers controls later outgoing' e f) :
    Delivers controls (earlier ++ later) (outgoing ++ outgoing') d f where
  holds holds := second.holds (first.holds holds)
  joined holds := by
    obtain ⟨back, order, recalls⟩ := first.joined holds
    obtain ⟨back', order', recalls'⟩ := second.joined (first.holds holds)
    refine ⟨back ++ back', ?_, ?_⟩
    · rw [List.append_assoc, order', ← List.append_assoc, order, List.append_assoc]
    · rw [delivered_append]
      exact recalls.append recalls'

theorem after_still {deeds : List Deed} {outgoing : List Urb}
    (first : Delivers controls [] [] d e) (second : Delivers controls deeds outgoing e f) :
    Delivers controls deeds outgoing d f :=
  first.trans second

theorem then_released {earlier later : List Deed} {outgoing : List Urb}
    (first : Delivers controls earlier outgoing d e) (second : Delivers controls later [] e f) :
    Delivers controls (earlier ++ later) outgoing d f := by
  simpa only [List.append_nil] using first.trans second

theorem then_still {deeds : List Deed} {outgoing : List Urb}
    (first : Delivers controls deeds outgoing d e) (second : Delivers controls [] [] e f) :
    Delivers controls deeds outgoing d f := by
  simpa only [List.append_nil] using first.then_released second

theorem silent {deeds silent : List Deed} {outgoing : List Urb}
    (delivers : Delivers controls deeds outgoing d e) (same : delivered silent = delivered deeds) :
    Delivers controls silent outgoing d e where
  holds := delivers.holds
  joined holds := by
    rw [same]
    exact delivers.joined holds

end Delivers

theorem SameSurroundings.delivers (same : SameSurroundings d e) : Delivers controls [] [] d e :=
  .still same.pendingReset same.done

theorem finish_delivers (d : Device) (pipe : Pipe) (stage : Stage) (urb : Urb) :
    Delivers controls [.moved pipe stage urb] [] d (d.finish urb .ok) where
  holds holds := holds
  joined _ := ⟨[urb.finished .ok], rfl, .moved .nil⟩

theorem finish_aside (d : Device) {urb : Urb} {status : Urb.Status}
    (other : status = .ok → urb.id ∈ controls) :
    Delivers controls [] [] d (d.finish urb status) where
  holds holds := holds
  joined _ := ⟨[urb.finished status], rfl, .aside other .nil⟩

theorem stall_delivers (d : Device) (urb : Urb) (halting : List Pipe) :
    Delivers controls [] [] d (d.stall urb halting) :=
  have halted : Delivers controls [] [] d
      { d with
        halts := d.halts.raise halting
        statistics.stalls := d.statistics.stalls + 1 } := .still rfl rfl
  halted.after_still (finish_aside _ nofun)

theorem finishReset_delivers (d : Device) (kind : Reset) :
    Delivers controls [] [] d (d.finishReset kind) := by
  rw [finishReset_eq]
  refine ⟨fun _ => nofun, fun holds => ⟨_, List.append_assoc .., .of_aside ?_⟩⟩
  intro urb member ok
  rcases List.mem_append.mp member with aborted | released
  · obtain ⟨read, -, rfl⟩ := List.mem_map.mp aborted
    cases ok
  · obtain ⟨held, waits, rfl⟩ := List.mem_map.mp released
    exact holds held (Option.mem_toList.mp waits)

theorem abandon_delivers (d : Device) : Delivers controls [] [] d d.abandon := by
  unfold abandon
  split <;> exact .still rfl rfl

theorem resetAs_delivers (d : Device) (kind : Reset) :
    Delivers controls [] [] d (d.resetAs kind) :=
  (abandon_delivers d).after_still (finishReset_delivers _ kind)

theorem bulkIn_delivers (d : Device) (moved : Urb) :
    Delivers controls (d.moves .bulkIn (d.bulkIn moved).2) [] d
      ((d.bulkIn moved).1.apply (d.bulkIn moved).2).1 := by
  have framed : Delivers controls [] [] d (d.bulkIn moved).1 := (bulkIn_frame d moved).delivers
  rcases bulkIn_decides d moved with ⟨halting, stalled⟩ | ⟨bytes, completed⟩ | parked
  · rw [stalled]
    exact framed.after_still (stall_delivers _ moved halting)
  · rw [completed]
    exact framed.after_still (finish_delivers _ .bulkIn d.slot.stage (moved.filled bytes))
  · rw [parked]
    exact framed.after_still (.still rfl rfl)

theorem bulkOut_delivers (d : Device) (moved : Urb) :
    Delivers controls (d.moves .bulkOut (d.bulkOut moved).2) [] d
      ((d.bulkOut moved).1.apply (d.bulkOut moved).2).1 := by
  have framed : Delivers controls [] [] d (d.bulkOut moved).1 := (bulkOut_frame d moved).delivers
  rcases bulkOut_decides d moved with ⟨halting, stalled⟩ | completed
  · rw [stalled]
    exact framed.after_still (stall_delivers _ moved halting)
  · rw [completed]
    exact framed.after_still (finish_delivers _ .bulkOut d.slot.stage moved)

theorem bulkOnlyReset_delivers (d : Device) {request : Urb} (sent : request.id ∈ controls) :
    Delivers controls [] [] d
      ((d.bulkOnlyReset request).1.apply (d.bulkOnlyReset request).2).1 := by
  have logged : Delivers controls [] [] d (d.log .bulkOnlyReset) := .still rfl rfl
  unfold bulkOnlyReset
  dsimp only
  split
  · split
    · have raced : Delivers controls [] [] d
          ((d.log .bulkOnlyReset).complain (.resetRace request.id)) := .still rfl rfl
      exact raced.after_still (stall_delivers _ request _)
    · refine logged.after_still ⟨?_, fun _ => ⟨[], (List.append_nil _).symm, .nil⟩⟩
      intro _ held same
      rw [← Option.some.inj same]
      exact sent
  · have reset := logged.after_still (finishReset_delivers _ .bulkOnly)
    exact reset.after_still (finish_aside _ fun _ => sent)

theorem control_delivers (d : Device) {request : Urb} (sent : request.id ∈ controls) :
    Delivers controls [] [] d ((d.control request).1.apply (d.control request).2).1 := by
  rcases control_cases d request with ⟨task, done, answers⟩ | ⟨e, task, done, resets⟩
  · have replied : Delivers controls [] [] d (d.control request).1 := .still task.pendingReset done
    refine replied.after_still ?_
    cases decided : (d.control request).2 with
    | complete answer =>
      rw [decided] at answers
      have same : answer.id = request.id := answers
      exact finish_aside _ fun _ => same ▸ sent
    | stall same halting => exact stall_delivers _ same halting
    | reconfigure same value =>
      rw [decided] at answers
      cases answers
      exact (resetAs_delivers _ _).after_still (finish_aside _ fun _ => sent)
    | fault => exact .still rfl rfl
    | park same | hold same =>
      rw [decided] at answers
      exact answers.elim
  · rw [resets]
    have begun : Delivers controls [] [] d e := .still task.pendingReset done
    exact begun.after_still (bulkOnlyReset_delivers e sent)

theorem dispatch_delivers (d : Device) {address : UInt8} {moved : Urb}
    (sent : Pipe.ofAddress? address = some .control → moved.id ∈ controls) :
    Delivers controls (d.dispatchDeeds address moved) [] d (d.dispatch address moved).1 := by
  unfold dispatchDeeds dispatch handle
  cases reached : Pipe.ofAddress? address with
  | none =>
    have complained : Delivers controls [] [] d (d.complain (.unknownEndpoint moved.id address)) :=
      .still rfl rfl
    exact complained.after_still (stall_delivers _ moved [])
  | some pipe =>
    cases pipe with
    | control => exact control_delivers d (sent reached)
    | bulkOut => exact bulkOut_delivers d moved
    | bulkIn => exact bulkIn_delivers d moved

theorem foldl_resume_delivers (d : Device) (urbs : List Urb) :
    Delivers controls (d.resumeDeeds urbs) [] d (urbs.foldl resume d) := by
  induction urbs generalizing d with
  | nil => exact .still rfl rfl
  | cons moved rest ih =>
    have first : Delivers controls (d.moves .bulkIn (d.bulkIn moved).2) [] d (d.resume moved) :=
      bulkIn_delivers d moved
    exact first.trans (ih (d.resume moved))

theorem concluded_delivers (d : Device) (t : Transaction) (outcome : Scsi.Outcome) {back : Device}
    (returns : back = d.takenBack t outcome) :
    Delivers controls (resumeDeeds { back with parked := .empty } back.parked.toList) [] d
      (d.concluded t outcome) := by
  have returned : Delivers controls [] [] d back := by
    rw [returns]
    exact (takenBack_frame d t outcome).delivers
  have emptied : Delivers controls [] [] back { back with parked := .empty } := .still rfl rfl
  have resumed := emptied.after_still (foldl_resume_delivers _ back.parked.toList)
  rw [concluded_eq, ← returns]
  split
  · exact (returned.after_still resumed).then_still (finishReset_delivers _ .bulkOnly)
  · exact returned.after_still resumed

theorem settle_delivers (d : Device) (command : Command) (completion : Completion) :
    Delivers controls (d.settleDeeds command completion) [] d (d.settle command completion) := by
  have told : Delivers controls [] [] d
      { d with events := d.events ++ completion.events command } := .still rfl rfl
  by_cases executing : d.slot = .executing command.generation
  · rw [settleDeeds, if_pos executing, settle_executing completion executing]
    have concluded := told.after_still (concluded_delivers _
      (completion.returned command).transaction (completion.outcome command) rfl)
    exact concluded.silent (by simp)
  · rw [settleDeeds, if_neg executing, settle_stale completion executing]
    exact told.after_still (.still rfl rfl)

theorem finishCancelled_delivers (d : Device) (other : Urb) :
    Delivers controls [] [] d (d.finishCancelled other) :=
  have counted : Delivers controls [] [] d
      { d with
        statistics.cancelled := d.statistics.cancelled + 1
        events := d.events ++ [.cancelling other.id] } := .still rfl rfl
  counted.after_still (finish_aside _ nofun)

theorem cancel_delivers (d : Device) (id : Nat) : Delivers controls [] [] d (d.cancel id) := by
  unfold cancel
  split
  next other rest removed =>
    have pulled : Delivers controls [] [] d { d with parked := rest } := .still rfl rfl
    exact pulled.after_still (finishCancelled_delivers _ other)
  next =>
    split
    next => exact .still rfl rfl
    next other pending =>
      split
      next =>
        have pulled : Delivers controls [] [] d { d with pendingReset := none } :=
          ⟨fun _ => nofun, fun _ => ⟨[], (List.append_nil _).symm, .nil⟩⟩
        exact pulled.after_still (finishCancelled_delivers _ other)
      next => exact .still rfl rfl

theorem reap?_delivers {reaped : Urb} (taken : d.reap? = some (reaped, e)) :
    Delivers controls [] [reaped] d e := by
  obtain ⟨rest, order, rfl⟩ := reap?_eq_some_iff.mp taken
  exact .reaped rfl order

theorem operate_delivers (d : Device) {operation : Device.Operation}
    (sent : ∀ id ∈ (Operation.device operation).controls, id ∈ controls) :
    Delivers controls (d.operateDeeds operation) (d.operate operation).2.handedBack d
      (d.operate operation).1 := by
  have quiet {outgoing : List Urb} {e : Device} (delivers : Delivers controls [] outgoing d e) :
      Delivers controls (d.resetsTo e) outgoing d e := delivers.silent (d.delivered_resetsTo e)
  cases operation with
  | dispatch address moved =>
    have control (reached : Pipe.ofAddress? address = some .control) : moved.id ∈ controls :=
      sent moved.id (by simp [Operation.controls, reached])
    exact (dispatch_delivers d control).silent (by simp [operateDeeds])
  | cancel id => exact quiet (cancel_delivers d id)
  | reset =>
    have logged : Delivers controls [] [] d (d.log .deviceReset) := .still rfl rfl
    exact quiet (logged.after_still (resetAs_delivers _ .device))
  | setConfiguration value =>
    refine quiet ?_
    simp only [operate, setConfiguration]
    split
    · exact resetAs_delivers d _
    · exact .still rfl rfl
  | clearHalt address =>
    refine quiet ?_
    simp only [operate, clearHalt]
    split <;> exact .still rfl rfl
  | reap | poll =>
    refine quiet ?_
    simp only [operate]
    split
    next taken => exact reap?_delivers taken
    next => exact .still rfl rfl
  | reapAll => exact quiet (.reaped rfl (by simp [operate, Answer.handedBack, Urb.Queue.empty]))
  | stream polls =>
    refine quiet (.reaped rfl ?_)
    simp only [operate, handedBack_stream]
    exact (List.take_append_drop polls d.done.toList).symm
  | save =>
    refine quiet ?_
    simp only [operate]
    split <;> exact .still rfl rfl
  | restore saved =>
    refine quiet ?_
    simp only [operate]
    split
    next restored =>
      obtain ⟨slot, -, -, rfl⟩ := restore_eq_ok_iff.mp restored
      exact .still rfl rfl
    next => exact .still rfl rfl
  | wakeUp | isHalted _ | isIdle | setDescriptors _ | describe => exact quiet (.still rfl rfl)

end Device

namespace System

open Device

variable {controls : List Nat} {s : System}

theorem submit_delivers (command : Command) :
    Delivers controls (s.submitDeeds command) [] s.device (s.submit command).device := by
  have logged (event : Event) : Delivers controls [] [] s.device (s.device.log event) :=
    .still rfl rfl
  cases taken : s.target.take.2 with
  | none =>
    simp only [submitDeeds, submit, taken]
    exact logged _
  | some completion =>
    simp only [submitDeeds, submit, taken]
    exact (logged _).after_still (settle_delivers _ command completion)

theorem submits_delivers (commands : List Command) :
    Delivers controls (s.submitsDeeds commands) [] s.device (commands.foldl submit s).device := by
  induction commands generalizing s with
  | nil => exact .still rfl rfl
  | cons command rest ih => exact (submit_delivers command).trans ih

theorem release_delivers (answer : Answer) :
    Delivers controls s.releaseDeeds [] s.device (s.release answer).system.device := by
  have drained : Delivers controls [] [] s.device { s.device with submissions := [] } :=
    .still rfl rfl
  have submitted := drained.after_still
    (submits_delivers (s := { s with device.submissions := [] }) s.device.submissions)
  exact submitted.then_still (.still rfl rfl)

theorem perform_delivers {operation : Operation}
    (sent : ∀ id ∈ operation.controls, id ∈ controls) :
    Delivers controls (s.performDeeds operation) (s.perform operation).answer.handedBack s.device
      (s.perform operation).system.device := by
  rcases perform_cases s operation with ⟨asked, rfl, working, performed⟩ |
    ⟨index, completion, command, rfl, working, found, performed⟩ | unheard
  · have told : s.performDeeds (.device asked) =
        s.device.operateDeeds asked ++ (s.operated asked).releaseDeeds := by
      simp only [performDeeds, working]
    rw [performed, told]
    have operated := operate_delivers s.device sent
    exact operated.then_released (release_delivers (s := s.operated asked) _)
  · rw [performed, performDeeds_complete found working]
    exact (settle_delivers s.device command completion).trans (release_delivers
      (s := { s with
        device := s.device.settle command completion
        waiting := s.waiting.eraseIdx index }) .done)
  · rw [performDeeds_unheard unheard, unheard.device, unheard.handedBack]
    exact .still rfl rfl

theorem play_delivers {turns : List Turn}
    (sent : ∀ turn ∈ turns, ∀ id ∈ turn.operation.controls, id ∈ controls) :
    Delivers controls (s.deeds turns) (s.reaped turns) s.device (s.play turns).device := by
  induction turns generalizing s with
  | nil => exact .still rfl rfl
  | cons turn rest ih =>
    obtain ⟨now, later⟩ := List.forall_mem_cons.mp sent
    have first := perform_delivers (s := { s with target := turn.target }) now
    exact first.trans (ih later)

def Recounts (start : System) (turns : List Turn) : Prop :=
  Recalls (turns.flatMap fun turn => turn.operation.controls) (delivered (start.deeds turns))
    (start.returned turns)

theorem play_recounts (settings : Settings) (location : String) (target : Target)
    (turns : List Turn) : (create settings location target).Recounts turns := by
  have sent : ∀ turn ∈ turns, ∀ id ∈ turn.operation.controls,
      id ∈ turns.flatMap fun turn => turn.operation.controls :=
    fun turn member _ names => List.mem_flatMap.mpr ⟨turn, member, names⟩
  obtain ⟨back, order, recalls⟩ :=
    (play_delivers (s := create settings location target) sent).joined nofun
  rw [Recounts, returned, order]
  exact recalls

end System

end BulkOnly
