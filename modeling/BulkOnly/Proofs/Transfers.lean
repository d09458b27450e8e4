import BulkOnly.Proofs.Frame
import BulkOnly.Proofs.Reset
import BulkOnly.Proofs.Run
import BulkOnly.Proofs.Task

set_option autoImplicit false

namespace BulkOnly

def occurrences (urbs : List Urb) (id : Nat) : Nat := (urbs.map Urb.id).count id

@[simp] theorem occurrences_nil (id : Nat) : occurrences [] id = 0 := rfl

@[simp] theorem occurrences_cons (urb : Urb) (rest : List Urb) (id : Nat) :
    occurrences (urb :: rest) id = occurrences rest id + if urb.id = id then 1 else 0 := by
  simp [occurrences, List.count_cons]

@[simp] theorem occurrences_append (urbs rest : List Urb) (id : Nat) :
    occurrences (urbs ++ rest) id = occurrences urbs id + occurrences rest id := by
  simp [occurrences, List.count_append]

@[simp] theorem occurrences_finished (urbs : List Urb) (status : Urb.Status) (id : Nat) :
    occurrences (urbs.map (·.finished status)) id = occurrences urbs id := by
  simp [occurrences, Function.comp_def, Urb.finished]

namespace Device

def waiting (d : Device) : List Urb := d.parked.toList ++ d.pendingReset.toList

-- Between `before` and `after` the `incoming` transfers have joined those of the device and the
-- `outgoing` ones, the oldest of those done, have left it.
structure Flow (incoming outgoing : List Urb) (before after : Device) : Prop where
  balance (id : Nat) :
    occurrences after.waiting id + occurrences after.done.toList id + occurrences outgoing id =
      occurrences before.waiting id + occurrences before.done.toList id + occurrences incoming id
  untouched : ∀ urb ∈ after.waiting, urb ∈ before.waiting ∨ urb ∈ incoming
  ended : ∃ ended : List Urb, outgoing ++ after.done.toList = before.done.toList ++ ended ∧
    ∀ urb ∈ ended, urb.status ≠ .pending

namespace Flow

theorem still {d e : Device} (parked : e.parked = d.parked)
    (pendingReset : e.pendingReset = d.pendingReset) (done : e.done = d.done) :
    Flow [] [] d e where
  balance id := by simp only [waiting, parked, pendingReset, done]
  untouched urb member := by
    left
    simpa only [waiting, parked, pendingReset] using member
  ended := ⟨[], by simp [done], by simp⟩

theorem refl (d : Device) : Flow [] [] d d := still rfl rfl rfl

theorem trans {incoming incoming' outgoing outgoing' : List Urb} {d e f : Device}
    (first : Flow incoming outgoing d e) (second : Flow incoming' outgoing' e f) :
    Flow (incoming ++ incoming') (outgoing ++ outgoing') d f where
  balance id := by
    have moved := first.balance id
    have moved' := second.balance id
    simp only [occurrences_append]
    omega
  untouched urb member := by
    rcases second.untouched urb member with earlier | new
    · rcases first.untouched urb earlier with earlier | new
      · exact .inl earlier
      · exact .inr (List.mem_append_left _ new)
    · exact .inr (List.mem_append_right _ new)
  ended := by
    obtain ⟨ended, order, settled⟩ := first.ended
    obtain ⟨ended', order', settled'⟩ := second.ended
    refine ⟨ended ++ ended', ?_, ?_⟩
    · rw [List.append_assoc, order', ← List.append_assoc, order, List.append_assoc]
    · intro urb member
      rcases List.mem_append.mp member with old | new
      · exact settled urb old
      · exact settled' urb new

theorem after_still {incoming outgoing : List Urb} {d e f : Device} (first : Flow [] [] d e)
    (second : Flow incoming outgoing e f) : Flow incoming outgoing d f := first.trans second

theorem then_still {incoming outgoing : List Urb} {d e f : Device}
    (first : Flow incoming outgoing d e) (second : Flow [] [] e f) :
    Flow incoming outgoing d f := by
  simpa only [List.append_nil] using first.trans second

end Flow

theorem SameSurroundings.flow {d e : Device} (same : SameSurroundings d e) : Flow [] [] d e :=
  .still same.parked same.pendingReset same.done

theorem finish_flow (d : Device) {urb moved : Urb} {status : Urb.Status}
    (same : moved.id = urb.id) (settled : status ≠ .pending) :
    Flow [urb] [] d (d.finish moved status) where
  balance id := by
    simp only [waiting, finish, Urb.Queue.toList_append, occurrences_append, occurrences_cons,
      occurrences_nil, Urb.finished, same]
    omega
  untouched urb member := .inl member
  ended := by
    refine ⟨[moved.finished status], ?_, ?_⟩
    · simp [finish]
    · intro urb member
      rw [List.mem_singleton.mp member]
      exact settled

theorem stall_flow (d : Device) (urb : Urb) (halting : List Pipe) :
    Flow [urb] [] d (d.stall urb halting) :=
  have halted : Flow [] [] d
      { d with
        halts := d.halts.raise halting
        statistics.stalls := d.statistics.stalls + 1 } := .still rfl rfl rfl
  halted.after_still (finish_flow _ rfl nofun)

theorem foldl_flow {step : Device → Urb → Device} (moves : ∀ d urb, Flow [urb] [] d (step d urb))
    (urbs : List Urb) (d : Device) : Flow urbs [] d (urbs.foldl step d) := by
  induction urbs generalizing d with
  | nil => exact .refl d
  | cons urb rest ih => exact (moves d urb).trans (ih (step d urb))

theorem Flow.withdrawn {urbs outgoing : List Urb} {d e f : Device}
    (flow : Flow urbs outgoing e f) (pulled : d.waiting.Perm (e.waiting ++ urbs))
    (done : e.done = d.done) : Flow [] outgoing d f where
  balance id := by
    have moved := flow.balance id
    have before : occurrences d.waiting id = occurrences (e.waiting ++ urbs) id :=
      (pulled.map Urb.id).count_eq id
    simp only [done, occurrences_append, occurrences_nil] at moved before ⊢
    omega
  untouched urb member := by
    left
    exact pulled.mem_iff.mpr (List.mem_append.mpr (flow.untouched urb member))
  ended := by
    rw [← done]
    exact flow.ended

theorem Flow.drained {outgoing : List Urb} {d e : Device}
    (flow : Flow d.parked.toList outgoing { d with parked := .empty } e) : Flow [] outgoing d e :=
  flow.withdrawn List.perm_append_comm rfl

theorem finishReset_flow (d : Device) (kind : Reset) : Flow [] [] d (d.finishReset kind) := by
  rw [finishReset_eq]
  refine ⟨fun id => ?_, nofun, d.parked.toList.map (·.finished .transportError) ++
    d.pendingReset.toList.map (·.finished .ok), ?_, ?_⟩
  · simp only [waiting, Urb.Queue.empty, Option.toList_none, occurrences_append,
      occurrences_finished, occurrences_nil]
    omega
  · simp only [List.nil_append, List.append_assoc]
  · intro urb member
    rcases List.mem_append.mp member with aborted | reset
    · obtain ⟨before, -, rfl⟩ := List.mem_map.mp aborted
      exact nofun
    · obtain ⟨before, -, rfl⟩ := List.mem_map.mp reset
      exact nofun

theorem abandon_flow (d : Device) : Flow [] [] d d.abandon := by
  simp only [abandon]
  split
  · exact .still rfl rfl rfl
  · exact .refl d

theorem resetAs_flow (d : Device) (kind : Reset) : Flow [] [] d (d.resetAs kind) :=
  (abandon_flow d).trans (finishReset_flow _ kind)

theorem reset_flow (d : Device) : Flow [] [] d d.reset :=
  (log_frame d .deviceReset).flow.after_still (resetAs_flow _ .device)

theorem setConfiguration_flow (d : Device) (value : UInt8) :
    Flow [] [] d (d.setConfiguration value) := by
  simp only [setConfiguration]
  split
  · exact resetAs_flow d _
  · exact .still rfl rfl rfl

end Device

-- The transfer that a pipe has decided about is the one that it was asked about, changed only if
-- it is complete. One that is to wait for a reset finds the place free.
def Disposition.Carries (urb : Urb) (d : Device) : Disposition → Prop
  | .complete moved => moved.id = urb.id
  | .stall same _ | .park same | .reconfigure same _ => same = urb
  | .hold same => same = urb ∧ d.pendingReset = none
  | .fault => False

namespace Device

def Placed (urb : Urb) (d : Device) : Dispatched → Prop
  | .completed =>
    ∃ moved, d.done.toList.getLast? = some moved ∧ moved.id = urb.id ∧ moved.status = .ok
  | .stalled => d.done.toList.getLast? = some (urb.finished .stall)
  | .queued => d.parked.toList.getLast? = some urb ∨ d.pendingReset = some urb
  | .faulted => False

theorem apply_flow {d : Device} {urb : Urb} {disposition : Disposition}
    (carries : disposition.Carries urb d) : Flow [urb] [] d (d.apply disposition).1 := by
  cases disposition with
  | complete moved => exact finish_flow d carries nofun
  | stall same halting =>
    subst carries
    exact stall_flow d same halting
  | park same =>
    subst carries
    refine ⟨fun id => ?_, fun other member => ?_, [], by simp [apply], by simp⟩
    · simp only [apply, waiting, Urb.Queue.toList_append, occurrences_append, occurrences_nil]
      omega
    · simp only [apply, waiting, Urb.Queue.toList_append, List.mem_append] at member ⊢
      tauto
  | hold same =>
    obtain ⟨rfl, free⟩ := carries
    refine ⟨fun id => ?_, fun other member => ?_, [], by simp [apply], by simp⟩
    · simp only [apply, waiting, free, occurrences_append, Option.toList_none, Option.toList_some,
        occurrences_nil]
      omega
    · simpa [apply, waiting, free] using member
  | reconfigure same value =>
    cases carries
    exact (resetAs_flow d _).after_still (finish_flow _ rfl nofun)
  | fault => exact carries.elim

theorem apply_placed {d : Device} {urb : Urb} {disposition : Disposition}
    (carries : disposition.Carries urb d) :
    Placed urb (d.apply disposition).1 (d.apply disposition).2 := by
  cases disposition with
  | complete moved => exact ⟨moved.finished .ok, by simp [apply, finish], carries, rfl⟩
  | stall same halting =>
    cases carries
    simp [apply, Placed, stall, finish]
  | park same =>
    cases carries
    exact .inl (by simp [apply])
  | hold same => exact .inr (congrArg some carries.1)
  | reconfigure same value =>
    subst carries
    exact ⟨same.finished .ok, by simp [apply, finish], rfl, rfl⟩
  | fault => exact carries.elim

theorem bulkIn_carries (d : Device) (urb : Urb) :
    (d.bulkIn urb).2.Carries urb (d.bulkIn urb).1 := by
  rcases bulkIn_decides d urb with ⟨halting, stalled⟩ | ⟨bytes, completed⟩ | parked
  · rw [stalled]
    rfl
  · rw [completed]
    rfl
  · rw [parked]
    rfl

theorem bulkOut_carries (d : Device) (urb : Urb) :
    (d.bulkOut urb).2.Carries urb (d.bulkOut urb).1 := by
  rcases bulkOut_decides d urb with ⟨halting, stalled⟩ | completed
  · rw [stalled]
    rfl
  · rw [completed]
    rfl

theorem bulkOnlyReset_flow (d : Device) (urb : Urb) : Flow [] [] d (d.bulkOnlyReset urb).1 := by
  simp only [bulkOnlyReset]
  split
  · split
    · exact .still rfl rfl rfl
    · exact .still rfl rfl rfl
  · exact (log_frame d _).flow.after_still (finishReset_flow _ _)

theorem bulkOnlyReset_carries (d : Device) (urb : Urb) :
    (d.bulkOnlyReset urb).2.Carries urb (d.bulkOnlyReset urb).1 := by
  simp only [bulkOnlyReset]
  split
  · split
    next => rfl
    next free =>
      refine ⟨rfl, ?_⟩
      simpa [log] using free
  · rfl

theorem control_flow (d : Device) (urb : Urb) : Flow [] [] d (d.control urb).1 := by
  rcases control_cases d urb with replied | ⟨e, task, done, resets⟩
  · exact .still replied.task.parked replied.task.pendingReset replied.done
  · rw [resets]
    have begun : Flow [] [] d e := .still task.parked task.pendingReset done
    exact begun.after_still (bulkOnlyReset_flow e urb)

theorem control_carries (d : Device) (urb : Urb) :
    (d.control urb).2 = .fault ∨ (d.control urb).2.Carries urb (d.control urb).1 := by
  rcases control_cases d urb with ⟨-, -, answers⟩ | ⟨e, -, -, resets⟩
  · generalize (d.control urb).2 = disposition at answers
    cases disposition with
    | fault => exact .inl rfl
    | park same | hold same => exact answers.elim
    | _ => exact .inr answers
  · rw [resets]
    exact .inr (bulkOnlyReset_carries e urb)

theorem handle_flow (d : Device) (address : UInt8) (urb : Urb) :
    Flow [] [] d (d.handle address urb).1 := by
  simp only [handle]
  split
  · exact control_flow d urb
  · exact (bulkOut_frame d urb).flow
  · exact (bulkIn_frame d urb).flow
  · exact .still rfl rfl rfl

theorem handle_carries (d : Device) (address : UInt8) (urb : Urb) :
    (d.handle address urb).2 = .fault ∨
      (d.handle address urb).2.Carries urb (d.handle address urb).1 := by
  simp only [handle]
  split
  · exact control_carries d urb
  · exact .inr (bulkOut_carries d urb)
  · exact .inr (bulkIn_carries d urb)
  · exact .inr rfl

theorem carries_of_dispatch {d : Device} {address : UInt8} {urb : Urb}
    (fine : (d.dispatch address urb).2 ≠ .faulted) :
    (d.handle address urb).2.Carries urb (d.handle address urb).1 := by
  rcases handle_carries d address urb with fault | carries
  · exfalso
    apply fine
    simp only [dispatch, fault, apply]
  · exact carries

theorem dispatch_flow {d : Device} {address : UInt8} {urb : Urb}
    (fine : (d.dispatch address urb).2 ≠ .faulted) :
    Flow [urb] [] d (d.dispatch address urb).1 :=
  (handle_flow d address urb).after_still (apply_flow (carries_of_dispatch fine))

theorem dispatch_placed {d : Device} {address : UInt8} {urb : Urb}
    (fine : (d.dispatch address urb).2 ≠ .faulted) :
    Placed urb (d.dispatch address urb).1 (d.dispatch address urb).2 :=
  apply_placed (carries_of_dispatch fine)

theorem resume_flow (d : Device) (urb : Urb) : Flow [urb] [] d (d.resume urb) :=
  (bulkIn_frame d urb).flow.after_still (apply_flow (bulkIn_carries d urb))

theorem resumeParked_flow (d : Device) : Flow [] [] d d.resumeParked :=
  Flow.drained (foldl_flow resume_flow _ _)

theorem concluded_flow (d : Device) (t : Transaction) (outcome : Scsi.Outcome) :
    Flow [] [] d (d.concluded t outcome) := by
  have resumed := (takenBack_frame d t outcome).flow.after_still (resumeParked_flow _)
  rw [concluded_eq]
  split
  · exact resumed.after_still (finishReset_flow _ _)
  · exact resumed

theorem complete_flow (d : Device) (command : Command) (outcome : Scsi.Outcome) :
    Flow [] [] d (d.complete command outcome) := by
  simp only [complete]
  split
  · exact concluded_flow d _ _
  · exact .still rfl rfl rfl

theorem settle_flow (d : Device) (command : Command) (completion : Completion) :
    Flow [] [] d (d.settle command completion) := by
  have told : Flow [] [] d { d with events := d.events ++ completion.events command } :=
    .still rfl rfl rfl
  exact told.after_still (complete_flow _ _ _)

theorem finishCancelled_flow (d : Device) (urb : Urb) :
    Flow [urb] [] d (d.finishCancelled urb) := by
  have counted : Flow [] [] d
      { d with
        statistics.cancelled := d.statistics.cancelled + 1
        events := d.events ++ [.cancelling urb.id] } := .still rfl rfl rfl
  exact counted.after_still (finish_flow _ rfl nofun)

theorem cancel_flow (d : Device) (id : Nat) : Flow [] [] d (d.cancel id) := by
  simp only [cancel]
  split
  next urb rest removed =>
    obtain ⟨before, after, split, same, -, -⟩ := Urb.Queue.remove?_split removed
    refine (finishCancelled_flow { d with parked := rest } urb).withdrawn ?_ rfl
    have last := (List.perm_append_singleton urb (after ++ d.pendingReset.toList)).symm
    simpa only [waiting, split, same, List.append_assoc, List.cons_append] using
      last.append_left before
  next =>
    split
    next => exact .still rfl rfl rfl
    next urb pending =>
      split
      next =>
        refine (finishCancelled_flow { d with pendingReset := none } urb).withdrawn ?_ rfl
        simp [waiting, pending]
      next => exact .still rfl rfl rfl

theorem Flow.reaped {outgoing : List Urb} {d e : Device} (parked : e.parked = d.parked)
    (pendingReset : e.pendingReset = d.pendingReset)
    (done : d.done.toList = outgoing ++ e.done.toList) : Flow [] outgoing d e where
  balance id := by
    simp only [waiting, parked, pendingReset, done, occurrences_append, occurrences_nil]
    omega
  untouched urb member := by
    left
    simpa only [waiting, parked, pendingReset] using member
  ended := ⟨[], by simp [done], by simp⟩

theorem reap?_flow {d e : Device} {urb : Urb} (taken : d.reap? = some (urb, e)) :
    Flow [] [urb] d e := by
  obtain ⟨rest, order, rfl⟩ := reap?_eq_some_iff.mp taken
  exact .reaped rfl rfl order

end Device

end BulkOnly
