import BulkOnly.Proofs.Conservation
import BulkOnly.Proofs.ParkedReads

set_option autoImplicit false

namespace BulkOnly

inductive Urb.Served (urb : Urb) : Urb → Prop where
  | filled (bytes : Bytes) : urb.Served ((urb.filled bytes).finished .ok)
  | stalled : urb.Served (urb.finished .stall)

-- A reset does not wait for data.
def Urb.Released (urb back : Urb) : Prop := urb.Served back ∨ back = urb.finished .transportError

def Disposition.parked : Disposition → List Urb
  | .park urb => [urb]
  | _ => []

def Operation.parked : Operation → Answer → List Urb
  | .device (.dispatch address urb), .dispatched result =>
    if Pipe.ofAddress? address = some .bulkIn ∧ result = .queued then [urb] else []
  | _, _ => []

namespace Device

def withdrawn (d : Device) : Device.Operation → List Urb
  | .cancel id => ((d.parked.remove? id).map Prod.fst).toList
  | _ => []

variable {d e f : Device}

theorem resume_served (calm : d.slot.Calm) (urb : Urb) :
    ∃ back, urb.Served back ∧ (d.resume urb).done = d.done.append back := by
  have frame := bulkIn_frame d urb
  unfold resume
  dsimp only
  rcases bulkIn_decides d urb with ⟨halting, stalled⟩ | ⟨bytes, completed⟩ | parked
  · rw [stalled]
    exact ⟨_, .stalled, congrArg (·.append (urb.finished .stall)) frame.done⟩
  · rw [completed]
    exact ⟨_, .filled bytes, congrArg (·.append ((urb.filled bytes).finished .ok)) frame.done⟩
  · exact absurd parked ((bulkIn_calm calm urb).2 urb)

theorem foldl_resume_served (calm : d.slot.Calm) (urbs : List Urb) :
    ∃ backs, List.Forall₂ Urb.Served urbs backs ∧
      (urbs.foldl resume d).done.toList = d.done.toList ++ backs := by
  induction urbs generalizing d with
  | nil => exact ⟨[], .nil, (List.append_nil _).symm⟩
  | cons urb rest ih =>
    obtain ⟨back, served, first⟩ := resume_served calm urb
    obtain ⟨backs, others, last⟩ := ih (resume_calm calm urb).calm
    refine ⟨back :: backs, .cons served others, ?_⟩
    rw [List.foldl_cons, last, first, Urb.Queue.toList_append, List.append_assoc]
    rfl

structure Drained (d : Device) (backs : List Urb) (e : Device) : Prop where
  served : List.Forall₂ Urb.Served d.parked.toList backs
  done : e.done.toList = d.done.toList ++ backs ++ d.pendingReset.toList.map (·.finished .ok)
  parked : e.parked = .empty
  pendingReset : e.pendingReset = none
  next : e.nextGeneration = d.nextGeneration
  submissions : e.submissions = d.submissions
  reset : d.pendingReset.isSome = true → (∃ t, e.slot = .held .ready t) ∧ e.halts = {}

theorem caughtUp_serves (d : Device) (command : Command) (completion : Completion)
    (urbs : List Urb) :
    ∃ backs, List.Forall₂ Urb.Served urbs backs ∧
      (d.caughtUp command completion urbs).done.toList = d.done.toList ++ backs := by
  have frame := d.heard_frame command completion
  obtain ⟨backs, served, done⟩ := foldl_resume_served
    (d := { d.heard command completion with parked := .empty }) (d.heard_calm command completion)
    urbs
  refine ⟨backs, served, done.trans ?_⟩
  exact congrArg (fun queue : Urb.Queue => queue.toList ++ backs) frame.done

theorem settle_drains {command : Command} (completion : Completion)
    (executing : d.slot = .executing command.generation) :
    ∃ backs, Drained d backs (d.settle command completion) := by
  have concluded := settle_concludes completion executing
  have settled := settle_eq completion executing
  obtain ⟨⟨phase, t, held, -⟩, parked, waits⟩ :=
    d.caughtUp_calm command completion d.parked.toList
  obtain ⟨backs, served, done⟩ := d.caughtUp_serves command completion d.parked.toList
  refine ⟨backs, served, ?_, concluded.parked, concluded.pendingReset, concluded.next,
    concluded.submissions, ?_⟩
  · cases pending : d.pendingReset with
    | none =>
      rw [settled, pending]
      simpa using done
    | some urb =>
      rw [settled, pending]
      simp [finishReset_eq, parked, waits, pending, done, Urb.Queue.empty]
  · intro pending
    rw [settled, if_pos pending]
    exact ⟨⟨t.rewound, by simp [finishReset_eq, held, Slot.rewound]⟩, by simp [finishReset_eq]⟩

-- From `before` to `after` the `arrived` reads were parked, the `cancelled` ones taken back and the
-- `outgoing` transfers handed over. Of the parked reads the `gone` ones have come back as `backs`.
structure Moved (arrived cancelled outgoing gone backs ended : List Urb) (before after : Device) :
    Prop where
  order : (gone ++ after.parked.toList).Sublist (before.parked.toList ++ arrived)
  all : (before.parked.toList ++ arrived).Perm (gone ++ after.parked.toList ++ cancelled)
  released : List.Forall₂ Urb.Released gone backs
  done : outgoing ++ after.done.toList = before.done.toList ++ ended
  backs : backs.Sublist ended
  cancelled : (cancelled.map (·.finished .cancelled)).Sublist ended

def InOrder (arrived cancelled outgoing : List Urb) (before after : Device) : Prop :=
  ∃ gone backs ended, Moved arrived cancelled outgoing gone backs ended before after

namespace InOrder

variable {arrived cancelled outgoing : List Urb}

theorem trans {arrived' cancelled' outgoing' : List Urb}
    (first : InOrder arrived cancelled outgoing d e)
    (second : InOrder arrived' cancelled' outgoing' e f) :
    InOrder (arrived ++ arrived') (cancelled ++ cancelled') (outgoing ++ outgoing') d f := by
  obtain ⟨gone, backs, ended, moved⟩ := first
  obtain ⟨gone', backs', ended', moved'⟩ := second
  refine ⟨gone ++ gone', backs ++ backs', ended ++ ended', ?_⟩
  constructor
  case order =>
    have later : (gone ++ (gone' ++ f.parked.toList)).Sublist
        (gone ++ (e.parked.toList ++ arrived')) := moved'.order.append_left gone
    have earlier : (gone ++ e.parked.toList ++ arrived').Sublist
        (d.parked.toList ++ arrived ++ arrived') := moved.order.append_right arrived'
    rw [← List.append_assoc, ← List.append_assoc] at later
    rw [← List.append_assoc]
    exact later.trans earlier
  case all =>
    refine List.perm_iff_count.mpr fun urb => ?_
    have earlier := moved.all.count_eq urb
    have later := moved'.all.count_eq urb
    simp only [List.count_append] at earlier later ⊢
    omega
  case released => exact List.rel_append moved.released moved'.released
  case done =>
    rw [List.append_assoc, moved'.done, ← List.append_assoc, moved.done, List.append_assoc]
  case backs => exact moved.backs.append moved'.backs
  case cancelled =>
    rw [List.map_append]
    exact moved.cancelled.append moved'.cancelled

theorem after_still (first : InOrder [] [] [] d e)
    (second : InOrder arrived cancelled outgoing e f) : InOrder arrived cancelled outgoing d f :=
  first.trans second

theorem then_still (first : InOrder arrived cancelled outgoing d e)
    (second : InOrder [] [] [] e f) : InOrder arrived cancelled outgoing d f := by
  simpa only [List.append_nil] using first.trans second

theorem beside (ended : List Urb) (parked : e.parked = d.parked)
    (done : outgoing ++ e.done.toList = d.done.toList ++ ended) : InOrder [] [] outgoing d e := by
  refine ⟨[], [], ended, ?_, ?_, .nil, done, List.nil_sublist _, List.nil_sublist _⟩
  · simp [parked]
  · simp [parked]

theorem still (parked : e.parked = d.parked) (done : e.done = d.done) : InOrder [] [] [] d e :=
  beside [] parked (by simp [done])

theorem refl (d : Device) : InOrder [] [] [] d d := still rfl rfl

theorem arrives {urb : Urb} (parked : e.parked = d.parked.append urb) (done : e.done = d.done) :
    InOrder [urb] [] [] d e := by
  refine ⟨[], [], [], ?_, ?_, .nil, ?_, List.nil_sublist _, List.nil_sublist _⟩
  · simp [parked]
  · simp [parked]
  · simp [done]

theorem drains {backs rest : List Urb} (released : List.Forall₂ Urb.Released d.parked.toList backs)
    (parked : e.parked = .empty) (done : e.done.toList = d.done.toList ++ (backs ++ rest)) :
    InOrder [] [] [] d e := by
  refine ⟨d.parked.toList, backs, backs ++ rest, ?_, ?_, released, done,
    List.sublist_append_left _ _, List.nil_sublist _⟩
  · simp [parked, Urb.Queue.empty]
  · simp [parked, Urb.Queue.empty]

theorem cancels {before after : List Urb} {urb : Urb}
    (was : d.parked.toList = before ++ urb :: after)
    (parked : e.parked.toList = before ++ after)
    (done : e.done = d.done.append (urb.finished .cancelled)) :
    InOrder [] [urb] [] d e := by
  refine ⟨[], [], [urb.finished .cancelled], ?_, ?_, .nil, ?_, List.nil_sublist _, ?_⟩
  · rw [was, parked, List.append_nil]
    exact (List.sublist_cons_self urb after).append_left before
  · rw [was, parked, List.append_nil, List.nil_append, List.append_assoc]
    exact (List.perm_append_singleton urb after).symm.append_left before
  · rw [done]
    rfl
  · exact List.Sublist.refl _

end InOrder

theorem SameSurroundings.inOrder (same : SameSurroundings d e) : InOrder [] [] [] d e :=
  .still same.parked same.done

theorem finish_inOrder (d : Device) (urb : Urb) (status : Urb.Status) :
    InOrder [] [] [] d (d.finish urb status) :=
  .beside [urb.finished status] rfl rfl

theorem finishReset_inOrder (d : Device) (kind : Reset) :
    InOrder [] [] [] d (d.finishReset kind) := by
  have aborted : List.Forall₂ Urb.Released d.parked.toList
      (d.parked.toList.map (·.finished .transportError)) := by
    rw [List.forall₂_map_right_iff, List.forall₂_same]
    exact fun urb _ => .inr rfl
  rw [finishReset_eq]
  exact .drains aborted rfl (List.append_assoc _ _ _)

theorem resetAs_inOrder (d : Device) (kind : Reset) : InOrder [] [] [] d (d.resetAs kind) := by
  have abandoned : InOrder [] [] [] d d.abandon := by
    unfold abandon
    split
    · exact .still rfl rfl
    · exact .refl d
  exact abandoned.trans (finishReset_inOrder _ kind)

theorem apply_inOrder (d : Device) (disposition : Disposition) :
    InOrder disposition.parked [] [] d (d.apply disposition).1 := by
  cases disposition with
  | complete urb => exact finish_inOrder d urb .ok
  | stall urb halting =>
    have halted : InOrder [] [] [] d
        { d with
          halts := d.halts.raise halting
          statistics.stalls := d.statistics.stalls + 1 } := .still rfl rfl
    exact halted.trans (finish_inOrder _ urb .stall)
  | park urb => exact .arrives rfl rfl
  | hold urb => exact .still rfl rfl
  | reconfigure urb value => exact (resetAs_inOrder d _).trans (finish_inOrder _ urb .ok)
  | fault => exact .refl d

theorem bulkOnlyReset_inOrder (d : Device) (urb : Urb) :
    InOrder [] [] [] d (d.bulkOnlyReset urb).1 ∧ (d.bulkOnlyReset urb).2.parked = [] := by
  have began : InOrder [] [] [] d (d.log .bulkOnlyReset) := .still rfl rfl
  simp only [bulkOnlyReset]
  split
  · split
    · exact ⟨.still rfl rfl, rfl⟩
    · exact ⟨.still rfl rfl, rfl⟩
  · exact ⟨began.trans (finishReset_inOrder _ _), rfl⟩

theorem control_inOrder (d : Device) (urb : Urb) :
    InOrder [] [] [] d (d.control urb).1 ∧ (d.control urb).2.parked = [] := by
  rcases control_cases d urb with ⟨task, done, answers⟩ | ⟨e, task, done, resets⟩
  · refine ⟨.still task.parked done, ?_⟩
    generalize (d.control urb).2 = disposition at answers
    cases disposition with
    | park other => exact answers.elim
    | _ => rfl
  · rw [resets]
    obtain ⟨inOrder, parked⟩ := bulkOnlyReset_inOrder e urb
    exact ⟨(InOrder.still task.parked done).trans inOrder, parked⟩

theorem handle_inOrder (d : Device) (address : UInt8) (urb : Urb) :
    InOrder [] [] [] d (d.handle address urb).1 := by
  simp only [handle]
  split
  · exact (control_inOrder d urb).1
  · exact (bulkOut_frame d urb).inOrder
  · exact (bulkIn_frame d urb).inOrder
  · exact .still rfl rfl

theorem handle_parked (d : Device) (address : UInt8) (urb : Urb) :
    (d.handle address urb).2.parked = (Operation.device (.dispatch address urb)).parked
      (.dispatched (d.dispatch address urb).2) := by
  cases reaches : Pipe.ofAddress? address with
  | none => simp [handle, reaches, Operation.parked, Disposition.parked]
  | some pipe =>
    cases pipe with
    | control =>
      have handled : d.handle address urb = d.control urb := by simp only [handle, reaches]
      simp [handled, (control_inOrder d urb).2, Operation.parked, reaches]
    | bulkOut =>
      have handled : d.handle address urb = d.bulkOut urb := by simp only [handle, reaches]
      rcases bulkOut_decides d urb with ⟨halting, stalled⟩ | completed
      · simp [handled, stalled, Operation.parked, Disposition.parked, reaches]
      · simp [handled, completed, Operation.parked, Disposition.parked, reaches]
    | bulkIn =>
      have handled : d.handle address urb = d.bulkIn urb := by simp only [handle, reaches]
      rcases bulkIn_decides d urb with ⟨halting, stalled⟩ | ⟨bytes, completed⟩ | parked
      · simp [dispatch, handled, stalled, Operation.parked, Disposition.parked, apply]
      · simp [dispatch, handled, completed, Operation.parked, Disposition.parked, apply]
      · simp [dispatch, handled, parked, Operation.parked, Disposition.parked, apply, reaches]

theorem dispatch_inOrder (d : Device) (address : UInt8) (urb : Urb) :
    InOrder
      ((Operation.device (.dispatch address urb)).parked (.dispatched (d.dispatch address urb).2))
      [] [] d (d.dispatch address urb).1 := by
  rw [← handle_parked]
  exact (handle_inOrder d address urb).after_still (apply_inOrder _ _)

theorem settle_inOrder (d : Device) (command : Command) (completion : Completion) :
    InOrder [] [] [] d (d.settle command completion) := by
  by_cases executing : d.slot = .executing command.generation
  · obtain ⟨backs, drained⟩ := settle_drains completion executing
    have done := drained.done
    rw [List.append_assoc] at done
    exact .drains (drained.served.imp fun _ _ served => .inl served) drained.parked done
  · rw [settle_stale completion executing]
    exact .still rfl rfl

theorem cancel_inOrder (d : Device) (id : Nat) :
    InOrder [] (d.withdrawn (.cancel id)) [] d (d.cancel id) := by
  simp only [cancel, withdrawn]
  split
  next urb rest removed =>
    obtain ⟨before, after, was, parked, -, -⟩ := Urb.Queue.remove?_split removed
    rw [removed]
    exact .cancels was parked rfl
  next missing =>
    rw [missing]
    split
    next => exact .still rfl rfl
    next urb pending =>
      split
      next => exact .beside [urb.finished .cancelled] rfl rfl
      next => exact .still rfl rfl

theorem operate_inOrder (d : Device) (operation : Device.Operation) :
    InOrder ((Operation.device operation).parked (d.operate operation).2)
      (d.withdrawn operation) (d.operate operation).2.handedBack d (d.operate operation).1 := by
  cases operation with
  | dispatch address urb => exact dispatch_inOrder d address urb
  | cancel id => exact cancel_inOrder d id
  | reset => exact (log_frame d .deviceReset).inOrder.trans (resetAs_inOrder _ _)
  | setConfiguration value =>
    simp only [operate, setConfiguration]
    split
    · exact resetAs_inOrder d _
    · exact .still rfl rfl
  | clearHalt address =>
    simp only [operate, clearHalt]
    split
    · exact .still rfl rfl
    · exact .refl d
  | reap | poll =>
    simp only [operate]
    split
    next taken =>
      obtain ⟨rest, order, rfl⟩ := reap?_eq_some_iff.mp taken
      refine .beside [] rfl ?_
      simp [Answer.handedBack, order]
    next => exact .refl d
  | reapAll => exact .beside [] rfl rfl
  | stream polls =>
    refine .beside [] rfl ?_
    simp only [operate, handedBack_stream, List.append_nil]
    exact List.take_append_drop polls d.done.toList
  | save =>
    simp only [operate]
    split <;> exact .refl d
  | restore saved =>
    cases accepted : d.restore saved with
    | ok e =>
      obtain ⟨slot, -, -, rfl⟩ := restore_eq_ok_iff.mp accepted
      simp only [operate, accepted]
      exact .still rfl rfl
    | error cause =>
      simp only [operate, accepted]
      exact .refl d
  | wakeUp | isHalted _ | isIdle | setDescriptors _ | describe => exact .still rfl rfl

end Device

namespace System

open Device

variable {s : System}

theorem release_inOrder (s : System) (answer : Answer) :
    InOrder [] [] [] s.device (s.release answer).system.device := by
  have durable : Durable (InOrder [] [] [] s.device) fun _ => True :=
    { told := fun d events inOrder => inOrder.then_still (.still rfl rfl)
      drained := fun d inOrder => inOrder.then_still (.still rfl rfl)
      issued := fun _ _ _ _ => trivial
      ended := fun d command completion _ inOrder =>
        inOrder.then_still (settle_inOrder d command completion) }
  exact (durable.release (.refl s.device) (fun _ _ => trivial) answer).1

theorem parked_undispatched {answer : Answer} (undispatched : ∀ result, answer ≠ .dispatched result)
    (operation : Operation) : operation.parked answer = [] := by
  unfold Operation.parked
  split
  · exact absurd rfl (undispatched _)
  · rfl

def withdrawn (s : System) (turn : Turn) : List Urb :=
  match turn.operation, s.condition with
  | .device operation, .working => s.device.withdrawn operation
  | _, _ => []

theorem turn_inOrder (s : System) (turn : Turn) :
    InOrder (turn.operation.parked (s.turn turn).answer) (s.withdrawn turn)
      (s.turn turn).answer.handedBack s.device (s.turn turn).system.device := by
  rcases perform_cases { s with target := turn.target } turn.operation with
    ⟨asked, same, working, performed⟩ | ⟨index, completion, command, same, -, -, performed⟩ |
    unheard
  · have takes : s.withdrawn turn = s.device.withdrawn asked := by
      rw [System.withdrawn, same, show s.condition = .working from working]
    rw [System.turn, performed, takes, same]
    refine .then_still ?_ (release_inOrder _ _)
    exact operate_inOrder s.device asked
  · have takes : s.withdrawn turn = [] := by rw [System.withdrawn, same]
    rw [System.turn, performed, takes, same]
    refine .then_still ?_ (release_inOrder _ _)
    exact settle_inOrder s.device command completion
  · have takes : s.withdrawn turn = [] := by
      unfold System.withdrawn
      split
      next asked same working => exact absurd same (unheard.asks working asked)
      next => rfl
    rw [System.turn, takes, parked_undispatched unheard.undispatched, unheard.handedBack,
      unheard.device]
    exact .refl _

def parkings (s : System) : List Turn → List Urb
  | [] => []
  | turn :: rest => turn.operation.parked (s.turn turn).answer ++ (s.turn turn).system.parkings rest

def withdrawals (s : System) : List Turn → List Urb
  | [] => []
  | turn :: rest => s.withdrawn turn ++ (s.turn turn).system.withdrawals rest

theorem play_inOrder (s : System) (turns : List Turn) :
    InOrder (s.parkings turns) (s.withdrawals turns) (s.reaped turns) s.device
      (s.play turns).device := by
  induction turns generalizing s with
  | nil => exact .refl s.device
  | cons turn rest ih => exact (turn_inOrder s turn).trans (ih _)

structure Drains (s : System) (index : Nat) (backs : List Urb) (report : Report) : Prop where
  submitted : report.submitted = []
  waiting : report.system.waiting = s.waiting.eraseIdx index
  device : s.device.Drained backs report.system.device

theorem turn_drains (reached : s.Reached) {index : Nat} {command : Command}
    (found : s.waiting[index]? = some command)
    (executing : s.device.slot = .executing command.generation) (completion : Completion)
    (target : Target) :
    ∃ backs, s.Drains index backs (s.turn ⟨.complete index completion, target⟩) := by
  have released := reached.released
  have working := reached.working
  obtain ⟨backs, drained⟩ := settle_drains completion executing
  rw [turn_completing found working released]
  exact ⟨backs, rfl, rfl, drained.served, drained.done, drained.parked, drained.pendingReset,
    drained.next, drained.submissions, drained.reset⟩

structure Left (start : System) (turns : List Turn) (gone backs : List Urb) : Prop where
  order : (gone ++ (start.play turns).device.parked.toList).Sublist (start.parkings turns)
  all : (start.parkings turns).Perm
    (gone ++ (start.play turns).device.parked.toList ++ start.withdrawals turns)
  released : List.Forall₂ Urb.Released gone backs
  backs : backs.Sublist (start.returned turns)
  cancelled : ((start.withdrawals turns).map (·.finished .cancelled)).Sublist
    (start.returned turns)

structure FirstComeFirstServed (start : System) (turns : List Turn) : Prop where
  run : ∃ gone backs, Left start turns gone backs
  completion : (start.play turns).condition = .working → ∀ index command completion target,
    (start.play turns).waiting[index]? = some command →
    (start.play turns).device.slot = .executing command.generation →
    ∃ backs, (start.play turns).Drains index backs
      ((start.play turns).turn ⟨.complete index completion, target⟩)
  -- A target may end a command in the turn that submits it, so here the device is any.
  ended : ∀ (d : Device) command completion, d.slot = .executing command.generation →
    ∃ backs, d.Drained backs (d.settle command completion)

theorem parked_reads_in_order (settings : Settings) (location : String) (target : Target)
    (turns : List Turn) : FirstComeFirstServed (create settings location target) turns where
  run := by
    obtain ⟨gone, backs, ended, moved⟩ := play_inOrder (create settings location target) turns
    have same : (create settings location target).returned turns = ended := moved.done
    refine ⟨gone, backs, moved.order, moved.all, moved.released, ?_, ?_⟩
    · rw [same]
      exact moved.backs
    · rw [same]
      exact moved.cancelled
  completion working _ _ completion given found executing :=
    turn_drains ⟨settings, location, target, turns, rfl, working⟩ found executing completion given
  ended _ _ completion executing := settle_drains completion executing

def cancelledRead : List Turn :=
  [sendReadSix 1, readBulk 2 4, readBulk 3 13, readBulk 4 13, { operation := .device (.cancel 3) }]

theorem parked_reads_in_order_cancelledRead :
    ((create {} "lun0" .holds).play cancelledRead).device.slot = .executing 0 ∧
      ((create {} "lun0" .holds).parkings cancelledRead).map Urb.id = [2, 3, 4] ∧
      ((create {} "lun0" .holds).withdrawals cancelledRead).map Urb.id = [3] ∧
      FirstComeFirstServed (create {} "lun0" .holds) cancelledRead :=
  ⟨by decide, by decide, by decide, parked_reads_in_order {} "lun0" .holds cancelledRead⟩

end System

end BulkOnly
