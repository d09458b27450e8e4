import BulkOnly.Proofs.Conservation
import BulkOnly.Proofs.Lockstep

set_option autoImplicit false

namespace BulkOnly.Device

variable {urb : Urb}

theorem sendEarlyStatus_issues (d : Device) (t : Transaction) (urb : Urb) :
    (d.sendEarlyStatus t urb).1.submissions = d.submissions ∨
      (d.sendEarlyStatus t urb).2 = .park urb := by
  unfold sendEarlyStatus
  split
  · exact .inl rfl
  dsimp only
  split
  · left
    unfold sendStatus
    split <;> rfl
  · exact .inr rfl

theorem bulkIn_issues (d : Device) (urb : Urb) :
    (d.bulkIn urb).1.submissions = d.submissions ∨ (d.bulkIn urb).2 = .park urb := by
  unfold bulkIn
  split
  · exact .inl rfl
  split
  · exact .inl rfl
  split
  · exact .inr rfl
  · left
    unfold sendData
    split <;> rfl
  · left
    unfold sendStatus
    split <;> rfl
  · exact sendEarlyStatus_issues d _ urb
  · exact .inl rfl

theorem bulkOut_issues (d : Device) (urb : Urb) :
    (d.bulkOut urb).1.submissions = d.submissions ∨ (d.bulkOut urb).2 = .complete urb := by
  have command (t : Transaction) : (d.receiveCommand t urb).1.submissions = d.submissions ∨
      (d.receiveCommand t urb).2 = .complete urb := by
    unfold receiveCommand
    split
    · exact .inl rfl
    split
    · exact .inl rfl
    split
    · exact .inl rfl
    dsimp only
    split <;> exact .inr rfl
  unfold bulkOut
  split
  · exact .inl rfl
  split
  · exact .inl rfl
  split
  · exact command _
  · exact command _
  · unfold receiveData
    split
    · exact .inl rfl
    split <;> exact .inr rfl
  · exact .inl rfl

inductive TakesUp (d : Device) (urb : Urb) (dispatched : Device × Dispatched) : Prop where
  | completed (e : Device) (frame : SameSurroundings d e)
    (same : dispatched = (e.finish urb .ok, .completed))
  | parked (e : Device) (frame : SameSurroundings d e)
    (same : dispatched = ({ e with parked := e.parked.append urb }, .queued))

theorem resetAs_submissions (d : Device) (kind : Reset) :
    (d.resetAs kind).submissions = d.submissions := by
  simp only [resetAs, finishReset_eq, abandon]
  split <;> rfl

theorem apply_submissions (d : Device) (disposition : Disposition) :
    (d.apply disposition).1.submissions = d.submissions := by
  cases disposition with
  | reconfigure urb value => exact resetAs_submissions d _
  | _ => rfl

theorem dispatch_issues (d : Device) (address : UInt8) (urb : Urb) :
    (d.dispatch address urb).1.submissions = d.submissions ∨
      d.TakesUp urb (d.dispatch address urb) := by
  unfold dispatch
  dsimp only
  rw [apply_submissions]
  unfold handle
  split
  · exact .inl (control_sameCommand d urb).submissions
  · refine (bulkOut_issues d urb).imp_right fun completes => ?_
    rw [completes]
    exact .completed _ (bulkOut_frame d urb) rfl
  · refine (bulkIn_issues d urb).imp_right fun parks => ?_
    rw [parks]
    exact .parked _ (bulkIn_frame d urb) rfl
  · exact .inl rfl

theorem operate_issues (d : Device) (operation : Device.Operation) :
    (d.operate operation).1.submissions = d.submissions ∨
      ∃ address urb, operation = .dispatch address urb ∧
        d.TakesUp urb (d.dispatch address urb) := by
  cases operation with
  | dispatch address urb =>
    exact (dispatch_issues d address urb).imp_right fun taken => ⟨address, urb, rfl, taken⟩
  | cancel id => exact .inl (cancel_sameCommand d id).submissions
  | reset => exact .inl (resetAs_submissions _ _)
  | setConfiguration value =>
    left
    simp only [operate, setConfiguration]
    split
    · exact resetAs_submissions d _
    · rfl
  | restore saved =>
    left
    simp only [operate]
    split
    next restored =>
      obtain ⟨slot, -, -, rfl⟩ := restore_eq_ok_iff.mp restored
      rfl
    next => rfl
  | _ => exact .inl (operate_task d rfl).submissions

theorem operate_looks {operation : Device.Operation}
    (looks : (Operation.device operation).steers = false) (d : Device) :
    ∃ rest, (d.operate operation).1 = { d with done := rest } ∧
      (d.operate operation).2.handedBack ++ rest.toList = d.done.toList ∧
      (d.operate operation).2.outcome? = none := by
  cases operation with
  | dispatch _ _ | cancel _ | reset | setConfiguration _ | clearHalt _ | setDescriptors _
  | restore _ => cases looks
  | reap | poll =>
    cases taken : d.reap? with
    | none => exact ⟨d.done, by simp [operate, taken, Answer.handedBack, Answer.outcome?]⟩
    | some pair =>
      obtain ⟨rest, order, same⟩ := reap?_eq_some_iff.mp taken
      exact ⟨rest, by simp [operate, taken, same, order, Answer.handedBack, Answer.outcome?]⟩
  | reapAll => exact ⟨.empty, rfl, List.append_nil _, rfl⟩
  | stream polls =>
    refine ⟨⟨d.done.toList.drop polls⟩, rfl, ?_, rfl⟩
    simp only [operate, handedBack_stream]
    exact List.take_append_drop polls _
  | save =>
    refine ⟨d.done, ?_⟩
    simp only [operate]
    split <;> exact ⟨rfl, rfl, rfl⟩
  | wakeUp | isHalted _ | isIdle | describe => exact ⟨d.done, rfl, rfl, rfl⟩

end BulkOnly.Device
