import BulkOnly.Proofs.Lockstep
import BulkOnly.Proofs.Unnoticed

set_option autoImplicit false

namespace BulkOnly

def Turn.reaps (turn : Turn) : Bool :=
  match turn.operation with
  | .device operation => operation.reaps
  | _ => false

namespace Device

def withReturned (d : Device) (returned : List Urb) (cancelled : Nat) : Device :=
  { d with
    done := ⟨returned ++ d.done.toList⟩
    statistics.cancelled := cancelled + d.statistics.cancelled }

theorem withReturned_unnoticed (returned : List Urb) (cancelled : Nat) :
    Unnoticed (withReturned · returned cancelled) where
  settings _ := rfl
  location _ := rfl
  slot _ := rfl
  haltedIn _ := rfl
  haltedOut _ := rfl
  halts _ := rfl
  configuration _ := rfl
  descriptors _ := rfl
  parked _ := rfl
  pendingReset _ := rfl
  held _ _ _ := rfl
  halted _ _ := rfl
  configured _ _ := rfl
  described _ _ := rfl
  queued _ _ := rfl
  deferred _ _ := rfl
  tell _ _ := rfl
  log _ _ := rfl
  complain _ _ := rfl
  startCommand d t length := by
    unfold startCommand
    split <;> rfl
  finish _ _ _ := by simp [finish, withReturned, Urb.Queue.append]
  stall _ _ _ := by simp [stall, finish, withReturned, Urb.Queue.append]
  finishCancelled _ _ := by
    simp [finishCancelled, finish, withReturned, Urb.Queue.append, Nat.add_assoc]
  finishReset _ _ := by simp [finishReset_eq, withReturned]
  abandon d := by cases slot : d.slot <;> simp [abandon, slot, log, withReturned]
  restoredTo _ _ _ := rfl
  reclaimed _ _ := rfl

end Device

namespace System

open Device

variable (s : System) (returned : List Urb) (cancelled : Nat)

def withReturned : System := { s with device := s.device.withReturned returned cancelled }

theorem submit_withReturned (command : Command) :
    (s.withReturned returned cancelled).submit command =
      (s.submit command).withReturned returned cancelled := by
  simp only [submit, withReturned]
  split
  · rfl
  · rw [← (withReturned_unnoticed returned cancelled).settle]
    rfl

theorem submits_withReturned (commands : List Command) :
    commands.foldl submit (s.withReturned returned cancelled) =
      (commands.foldl submit s).withReturned returned cancelled := by
  induction commands generalizing s with
  | nil => rfl
  | cons command rest ih => rw [List.foldl_cons, submit_withReturned, ih, List.foldl_cons]

end System

def Report.withReturned (report : Report) (returned : List Urb) (cancelled : Nat) : Report :=
  { report with system := report.system.withReturned returned cancelled }

namespace System

open Device

variable (s : System) (returned : List Urb) (cancelled : Nat)

theorem release_withReturned (answer : Answer) :
    (s.withReturned returned cancelled).release answer =
      (s.release answer).withReturned returned cancelled := by
  have submits := submits_withReturned { s with device.submissions := [] } returned cancelled
    s.device.submissions
  let told (after : System) : Report :=
    { system := { after with device.events := [] }
      answer, submitted := s.device.submissions, events := after.device.events }
  exact congrArg told submits

theorem operate_withReturned {operation : Device.Operation} (leaves : operation.reaps = false) :
    (s.withReturned returned cancelled).operate operation =
      (s.operate operation).withReturned returned cancelled := by
  have moved : (s.withReturned returned cancelled).device.operate operation =
      (s.device.operate operation).map (Device.withReturned · returned cancelled) id :=
    (withReturned_unnoticed returned cancelled).operate s.device leaves
  rw [operate_eq, operate_eq, moved]
  exact release_withReturned
    { s with
      device := (s.device.operate operation).1
      condition := if (s.device.operate operation).2 = .dispatched .faulted then .broken
        else s.condition } returned cancelled (s.device.operate operation).2

theorem complete_withReturned (index : Nat) (completion : Completion) :
    (s.withReturned returned cancelled).complete index completion =
      (s.complete index completion).withReturned returned cancelled := by
  cases found : s.waiting[index]? with
  | none => simp [complete, pick?, withReturned, Report.withReturned, found]
  | some command =>
    have settled := (withReturned_unnoticed returned cancelled).settle s.device command completion
    have heard := release_withReturned
      { s with
        device := s.device.settle command completion
        waiting := s.waiting.eraseIdx index } returned cancelled .done
    simp only [withReturned, ← settled] at heard
    simpa [complete, pick?, withReturned, found] using heard

theorem perform_withReturned {operation : Operation}
    (leaves : ∀ other, operation = .device other → other.reaps = false) :
    (s.withReturned returned cancelled).perform operation =
      (s.perform operation).withReturned returned cancelled := by
  have same : (s.withReturned returned cancelled).condition = s.condition := rfl
  cases operation with
  | device operation =>
    simp only [perform, same]
    cases s.condition with
    | working => exact operate_withReturned s returned cancelled (leaves operation rfl)
    | broken =>
      cases operation with
      | restore saved =>
        simp only [operateBroken]
        split <;> rfl
      | _ => rfl
    | removed => rfl
  | complete index completion =>
    have unheard (event : Event) :
        (s.withReturned returned cancelled).completeUnheard index completion event =
          (s.completeUnheard index completion event).withReturned returned cancelled := by
      cases found : s.waiting[index]? <;>
        simp [completeUnheard, pick?, withReturned, Report.withReturned, found]
    simp only [perform, same]
    cases s.condition with
    | working => exact complete_withReturned s returned cancelled index completion
    | broken | removed => exact unheard _
  | remove => rfl

theorem play_withReturned {turns : List Turn} (leaves : ∀ turn ∈ turns, turn.reaps = false) :
    (s.withReturned returned cancelled).play turns =
        (s.play turns).withReturned returned cancelled ∧
      (s.withReturned returned cancelled).said turns = s.said turns := by
  induction turns generalizing s with
  | nil => exact ⟨rfl, rfl⟩
  | cons turn rest ih =>
    obtain ⟨first, others⟩ := List.forall_mem_cons.mp leaves
    have turned : (s.withReturned returned cancelled).turn turn =
        (s.turn turn).withReturned returned cancelled := by
      refine perform_withReturned { s with target := turn.target } returned cancelled ?_
      intro other same
      simpa [Turn.reaps, same] using first
    obtain ⟨played, said⟩ := ih (s.turn turn).system others
    refine ⟨?_, ?_⟩
    · rw [play_cons, turned, play_cons]
      exact played
    · rw [said_cons, turned, said_cons]
      exact congrArg _ said

end System

end BulkOnly
