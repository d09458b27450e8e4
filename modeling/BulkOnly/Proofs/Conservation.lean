import BulkOnly.Proofs.Handover
import BulkOnly.Proofs.Transfers

set_option autoImplicit false

namespace BulkOnly

def Operation.dispatched : Operation → List Urb
  | .device (.dispatch _ urb) => [urb]
  | _ => []

def dispatched (turns : List Turn) : List Urb := turns.flatMap fun turn => turn.operation.dispatched

def StreamItem.transfer? : StreamItem → Option Urb
  | .transfer urb => some urb
  | _ => none

def Answer.handedBack : Answer → List Urb
  | .reaped urb | .polled urb => urb.toList
  | .transfers urbs => urbs
  | .items stream => stream.filterMap StreamItem.transfer?
  | _ => []

def System.reaped (s : System) (turns : List Turn) : List Urb :=
  (s.reports turns).flatMap fun report => report.answer.handedBack

namespace Device

theorem handedBack_stream (d : Device) (polls : Nat) :
    (Answer.items (d.stream polls).2).handedBack = d.done.toList.take polls := by
  have pending : (if (d.done.toList.take polls).length < polls then [StreamItem.pending] else
      []).filterMap StreamItem.transfer? = [] := by
    split <;> rfl
  simp only [Answer.handedBack, stream, List.filterMap_append, pending, List.append_nil,
    List.filterMap_map, Function.comp_def, StreamItem.transfer?, List.filterMap_some]

theorem stream_flow (d : Device) (polls : Nat) :
    Flow [] (Answer.items (d.stream polls).2).handedBack d (d.stream polls).1 := by
  rw [handedBack_stream]
  exact .reaped rfl rfl (List.take_append_drop polls d.done.toList).symm

theorem operate_flow {d : Device} {operation : Device.Operation}
    (fine : (d.operate operation).2 ≠ .dispatched .faulted) :
    Flow (Operation.device operation).dispatched (d.operate operation).2.handedBack d
      (d.operate operation).1 := by
  cases operation with
  | dispatch address urb =>
    exact dispatch_flow fun faulted => fine (congrArg Answer.dispatched faulted)
  | cancel id => exact cancel_flow d id
  | reset => exact reset_flow d
  | setConfiguration value => exact setConfiguration_flow d value
  | clearHalt address =>
    simp only [operate, clearHalt]
    split <;> exact .still rfl rfl rfl
  | reap | poll =>
    simp only [operate]
    split
    next taken => exact reap?_flow taken
    next => exact .refl d
  | reapAll => exact .reaped rfl rfl (by simp [operate, Answer.handedBack, Urb.Queue.empty])
  | stream polls => exact stream_flow d polls
  | save =>
    simp only [operate]
    split <;> exact .refl d
  | restore saved =>
    simp only [operate]
    split
    next restored =>
      obtain ⟨slot, -, -, rfl⟩ := restore_eq_ok_iff.mp restored
      exact .still rfl rfl rfl
    next => exact .refl d
  | wakeUp | isHalted _ | isIdle | setDescriptors _ | describe => exact .still rfl rfl rfl

end Device

namespace System

open Device

theorem handedBack_operateBroken (s : System) (operation : Device.Operation) :
    (s.operateBroken operation).answer.handedBack = [] := by
  cases operation with
  | restore saved =>
    simp only [operateBroken]
    split <;> rfl
  | stream polls =>
    have none_transfers : [StreamItem.error .internal, .finished].filterMap StreamItem.transfer? =
        [] := rfl
    refine List.filterMap_eq_nil_iff.mpr fun item member => ?_
    exact List.filterMap_eq_nil_iff.mp none_transfers item (List.mem_of_mem_take member)
  | _ => rfl

theorem submitted_operateBroken (s : System) (operation : Device.Operation) :
    (s.operateBroken operation).submitted = [] := by
  cases operation with
  | restore saved =>
    simp only [operateBroken]
    split <;> rfl
  | _ => rfl

theorem undispatched_operateBroken (s : System) (operation : Device.Operation)
    (result : Dispatched) : (s.operateBroken operation).answer ≠ .dispatched result := by
  cases operation with
  | restore saved =>
    simp only [operateBroken]
    split <;> simp
  | _ => simp [operateBroken]

-- The device does not hear of the operation: no command is there to end, or it does not work.
structure Unheard (s : System) (operation : Operation) : Prop where
  asks : s.condition = .working → ∀ asked, operation ≠ .device asked
  ends : s.condition = .working → ∀ index completion, operation = .complete index completion →
    s.waiting[index]? = none
  device : (s.perform operation).system.device = s.device
  waiting : (s.perform operation).system.waiting ⊆ s.waiting
  submitted : (s.perform operation).submitted = []
  handedBack : (s.perform operation).answer.handedBack = []
  undispatched : ∀ result, (s.perform operation).answer ≠ .dispatched result

theorem unheard_device {s : System} (deaf : s.condition ≠ .working) (asked : Device.Operation) :
    s.Unheard (.device asked) := by
  cases condition : s.condition with
  | working => exact absurd condition deaf
  | removed =>
    have refused : s.perform (.device asked) = { system := s, answer := .noDevice } := by
      simp only [perform, condition]
    refine ⟨fun working => absurd working deaf, by simp, ?_, ?_, ?_, ?_, ?_⟩ <;> rw [refused]
    · exact List.Subset.refl _
    · rfl
    · simp
  | broken =>
    have refused : s.perform (.device asked) = s.operateBroken asked := by
      simp only [perform, condition]
    refine ⟨fun working => absurd working deaf, by simp, ?_, ?_, ?_, ?_, ?_⟩ <;> rw [refused]
    · rw [condition_operateBroken]
    · rw [condition_operateBroken]
      exact List.Subset.refl _
    · exact submitted_operateBroken s asked
    · exact handedBack_operateBroken s asked
    · exact undispatched_operateBroken s asked

theorem perform_cases (s : System) (operation : Operation) :
    (∃ asked, operation = .device asked ∧ s.condition = .working ∧
      s.perform operation = release
        { s with
          device := (s.device.operate asked).1
          condition := if (s.device.operate asked).2 = .dispatched .faulted then .broken
            else s.condition }
        (s.device.operate asked).2) ∨
    (∃ index completion command, operation = .complete index completion ∧
      s.condition = .working ∧ s.waiting[index]? = some command ∧
      s.perform operation = release
        { s with
          device := s.device.settle command completion
          waiting := s.waiting.eraseIdx index } .done) ∨
    s.Unheard operation := by
  cases operation with
  | remove =>
    refine .inr (.inr ?_)
    cases condition : s.condition <;>
      exact ⟨by simp, by simp, rfl, List.Subset.refl _, rfl, rfl, by simp [perform]⟩
  | device asked =>
    by_cases working : s.condition = .working
    · refine .inl ⟨asked, rfl, working, ?_⟩
      simp only [perform, working, operate_eq]
    · exact .inr (.inr (unheard_device working asked))
  | complete index completion =>
    cases found : s.waiting[index]? with
    | none =>
      refine .inr (.inr ⟨by simp, ?_, ?_, ?_, ?_, ?_, ?_⟩)
      · intro _ other _ same
        cases same
        exact found
      all_goals rw [perform_complete_missing found]
      · exact List.Subset.refl _
      · rfl
      · simp
    | some command =>
      by_cases working : s.condition = .working
      · refine .inr (.inl ⟨index, completion, command, rfl, working, found, ?_⟩)
        exact perform_complete_heard found working completion
      · obtain ⟨events, unheard⟩ := perform_complete_unheard found working completion
        refine .inr (.inr ⟨by simp, fun there => absurd there working, ?_, ?_, ?_, ?_, ?_⟩)
        all_goals rw [unheard]
        · exact fun _ member => List.mem_of_mem_eraseIdx member
        · rfl
        · simp

theorem release_flow (s : System) (answer : Answer) :
    Flow [] [] s.device (s.release answer).system.device := by
  have durable : Durable (Flow [] [] s.device) fun _ => True :=
    { told := fun d events flow => flow.then_still (.still rfl rfl rfl)
      drained := fun d flow => flow.then_still (.still rfl rfl rfl)
      issued := fun _ _ _ _ => trivial
      ended := fun d command completion _ flow =>
        flow.then_still (settle_flow d command completion) }
  exact (durable.release (.refl s.device) (fun _ _ => trivial) answer).1

theorem turn_flow {s : System} {turn : Turn} (before : s.condition = .working)
    (after : (s.turn turn).system.condition = .working) :
    Flow turn.operation.dispatched (s.turn turn).answer.handedBack s.device
      (s.turn turn).system.device := by
  rcases turn_cases before after with ⟨operation, same, fine, report⟩ |
    ⟨index, completion, command, same, -, report⟩ | ⟨index, completion, same, -, report⟩
  · rw [report, same]
    have released := release_flow
      { s with target := turn.target, device := (s.device.operate operation).1 }
      (s.device.operate operation).2
    exact (operate_flow fine).then_still released
  · rw [report, same]
    have released := release_flow
      { s with
        target := turn.target
        device := s.device.settle command completion
        waiting := s.waiting.eraseIdx index } .done
    exact (settle_flow s.device command completion).then_still released
  · rw [report, same]
    exact .refl s.device

theorem play_flow {s : System} {turns : List Turn}
    (working : (s.play turns).condition = .working) :
    Flow (dispatched turns) (s.reaped turns) s.device (s.play turns).device := by
  induction turns generalizing s with
  | nil => exact .refl s.device
  | cons turn rest ih =>
    have after : (s.turn turn).system.condition = .working := working_of_play working
    have first := turn_flow (working_of_turn after) after
    exact first.trans (ih working)

theorem reaped_append (s : System) (earlier later : List Turn) :
    s.reaped (earlier ++ later) = s.reaped earlier ++ (s.play earlier).reaped later := by
  simp only [reaped, reports_append, List.flatMap_append]

def returned (start : System) (turns : List Turn) : List Urb :=
  start.reaped turns ++ (start.play turns).device.done.toList

theorem returned_grows {start : System} {earlier later : List Turn}
    (working : (start.play (earlier ++ later)).condition = .working) :
    ∃ ended, start.returned (earlier ++ later) = start.returned earlier ++ ended ∧
      ∀ urb ∈ ended, urb.status ≠ .pending := by
  rw [play_append] at working
  obtain ⟨ended, order, settled⟩ := (play_flow working).ended
  refine ⟨ended, ?_, settled⟩
  rw [returned, returned, reaped_append, play_append, List.append_assoc, order, List.append_assoc]

end System

structure Conserved (start : System) (turns : List Turn) : Prop where
  somewhere_once (id : Nat) :
    occurrences (start.play turns).device.parked.toList id +
      occurrences (start.play turns).device.pendingReset.toList id +
      occurrences (start.play turns).device.done.toList id +
      occurrences (start.reaped turns) id =
      if id ∈ (dispatched turns).map Urb.id then 1 else 0
  waiting_untouched : ∀ urb ∈ (start.play turns).device.waiting, urb ∈ dispatched turns
  waiting_pending : (∀ urb ∈ dispatched turns, urb.status = .pending) →
    ∀ urb ∈ (start.play turns).device.waiting, urb.status = .pending
  returned_ended : ∀ urb ∈ start.returned turns,
    urb.status ∈ [.ok, .stall, .transportError, .cancelled]
  -- Whatever is done stays as it is, and is handed back in the order in which it was done.
  returned_order : ∀ earlier later, turns = earlier ++ later →
    start.returned earlier <+: start.returned turns
  dispatched_placed : ∀ earlier turn later address urb, turns = earlier ++ turn :: later →
    turn.operation = .device (.dispatch address urb) →
    ∃ device outcome, (start.play earlier).device.dispatch address urb = (device, outcome) ∧
      ((start.play earlier).turn turn).answer = .dispatched outcome ∧ device.Placed urb outcome

namespace System

open Device

theorem dispatch_turn_placed {s : System} {turn : Turn} {address : UInt8} {urb : Urb}
    (before : s.condition = .working) (after : (s.turn turn).system.condition = .working)
    (dispatches : turn.operation = .device (.dispatch address urb)) :
    ∃ device outcome, s.device.dispatch address urb = (device, outcome) ∧
      (s.turn turn).answer = .dispatched outcome ∧ device.Placed urb outcome := by
  rcases turn_cases before after with ⟨operation, same, fine, report⟩ |
    ⟨index, completion, command, same, -⟩ | ⟨index, completion, same, -⟩
  · rw [dispatches] at same
    cases same
    refine ⟨_, _, rfl, ?_, dispatch_placed fun faulted => fine (congrArg Answer.dispatched faulted)⟩
    rw [report]
    rfl
  · rw [dispatches] at same
    cases same
  · rw [dispatches] at same
    cases same

theorem transfers_conserved (settings : Settings) (location : String) (target : Target)
    (turns : List Turn) (distinct : ((dispatched turns).map Urb.id).Nodup)
    (working : ((create settings location target).play turns).condition = .working) :
    Conserved (create settings location target) turns := by
  have flow := play_flow working
  have nothing : (create settings location target).device.waiting = [] := rfl
  have untouched : ∀ urb ∈ ((create settings location target).play turns).device.waiting,
      urb ∈ dispatched turns := by
    intro urb member
    rcases flow.untouched urb member with old | new
    · rw [nothing] at old
      cases old
    · exact new
  constructor
  case somewhere_once =>
    intro id
    have balance := flow.balance id
    have once : occurrences (dispatched turns) id =
        if id ∈ (dispatched turns).map Urb.id then 1 else 0 := distinct.count
    have before : occurrences (create settings location target).device.done.toList id = 0 := rfl
    rw [nothing, before, once] at balance
    simp only [Device.waiting, occurrences_append, occurrences_nil] at balance
    omega
  case waiting_untouched => exact untouched
  case waiting_pending =>
    intro pending urb member
    exact pending urb (untouched urb member)
  case returned_ended =>
    intro urb member
    obtain ⟨ended, order, settled⟩ := flow.ended
    have same : returned (create settings location target) turns = ended := order
    rw [same] at member
    have done := settled urb member
    cases status : urb.status <;> simp_all
  case returned_order =>
    rintro earlier later rfl
    obtain ⟨ended, order, -⟩ := returned_grows working
    exact ⟨ended, order.symm⟩
  case dispatched_placed =>
    rintro earlier turn later address urb rfl dispatches
    rw [play_append, play_cons] at working
    have after := working_of_play working
    exact dispatch_turn_placed (working_of_turn after) after dispatches

def parkedReads : List Turn :=
  [sendReadSix 1, readBulk 2 4, readBulk 3 13, readBulk 4 13, { operation := .device (.cancel 3) },
    { operation := .complete 0 {} }, { operation := .device .reap }]

theorem transfers_conserved_parkedReads :
    ((dispatched parkedReads).map Urb.id).Nodup ∧
      ((create {} "lun0" .holds).play parkedReads).condition = .working ∧
      Conserved (create {} "lun0" .holds) parkedReads :=
  ⟨by decide, by decide, transfers_conserved {} "lun0" .holds parkedReads (by decide) (by decide)⟩

end System

end BulkOnly
