import BulkOnly.Proofs.Unnoticed

set_option autoImplicit false

namespace BulkOnly.Device

def withPast (d : Device) (past : List Event) (late : Nat) : Device :=
  { d with
    events := past ++ d.events
    statistics.reclaimed := late + d.statistics.reclaimed }

-- The log so far can always be taken for the past.
theorem withPast_events (d : Device) : withPast { d with events := [] } d.events 0 = d := by
  simp [withPast]

theorem withPast_unnoticed (past : List Event) (late : Nat) :
    Unnoticed (withPast · past late) where
  settings _ := rfl
  location _ := rfl
  slot _ := rfl
  haltedIn _ := rfl
  haltedOut _ := rfl
  halts _ := rfl
  configuration _ := rfl
  descriptors _ := rfl
  parked _ := rfl
  pendingReset _ := rfl
  held _ _ _ := rfl
  halted _ _ := rfl
  configured _ _ := rfl
  described _ _ := rfl
  queued _ _ := rfl
  deferred _ _ := rfl
  tell _ _ := by simp [withPast]
  log _ _ := by simp [log, withPast]
  complain _ _ := by simp [complain, withPast]
  startCommand d t length := by
    unfold startCommand
    split
    · simp [log, withPast]
    · rfl
  finish _ _ _ := rfl
  stall _ _ _ := rfl
  finishCancelled _ _ := by simp [finishCancelled, finish, withPast]
  finishReset _ _ := by simp [finishReset_eq, withPast]
  abandon d := by cases slot : d.slot <;> simp [abandon, slot, log, withPast]
  restoredTo _ _ _ := by simp [restoredTo, log, withPast]
  reclaimed _ _ := by simp [Device.reclaimed, log, withPast, Nat.add_assoc]

variable (d : Device) (past : List Event) (late : Nat)

theorem operate_withPast (operation : Device.Operation) :
    (d.withPast past late).operate operation =
      (d.operate operation).map (withPast · past late) id := by
  have unnoticed := withPast_unnoticed past late
  cases operation with
  | reap | poll =>
    have head : (d.withPast past late).reap? = d.reap?.map (·.map id (withPast · past late)) := by
      simp only [reap?, withPast]
      cases d.done.removeHead? <;> rfl
    simp only [operate, head]
    cases d.reap? <;> rfl
  | reapAll | stream _ => rfl
  | _ => exact unnoticed.operate d rfl

theorem foldl_resume_withPast (urbs : List Urb) :
    urbs.foldl resume (d.withPast past late) = (urbs.foldl resume d).withPast past late :=
  (withPast_unnoticed past late).foldl_resume d urbs

theorem settle_withPast (command : Command) (completion : Completion) :
    (d.withPast past late).settle command completion =
      (d.settle command completion).withPast past late :=
  (withPast_unnoticed past late).settle d command completion

end BulkOnly.Device
