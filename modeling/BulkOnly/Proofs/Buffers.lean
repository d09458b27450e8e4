import BulkOnly.Proofs.Conclusion
import BulkOnly.Proofs.Conservation
import BulkOnly.Proofs.Lockstep
import BulkOnly.Proofs.Requests
import Mathlib.Data.List.Forall2
import Mathlib.Data.List.Nodup
import Mathlib.Data.List.Perm.Subperm

set_option autoImplicit false

namespace BulkOnly

structure Sent where
  device : Device
  address : UInt8
  urb : Urb

-- A device holds its allocator, so that devices are not compared by computing.
noncomputable instance : DecidableEq Sent := Classical.decEq Sent

namespace Sent

variable {sent : Sent} {returned : Urb}

structure Served (sent : Sent) (returned : Urb) : Prop where
  setup_kept : returned.data.take Setup.encodedLength = sent.urb.data.take Setup.encodedLength
  rest_kept : returned.data.drop returned.len = sent.urb.data.drop returned.len
  replied : ∃ setup request, Setup.parse? sent.urb.payload = some setup ∧
    ControlRequest.ofSetup? setup = some request ∧
    match sent.device.reply? request with
    | some reply =>
      let room := min setup.length.toNat (sent.urb.data.length - Setup.encodedLength)
      returned.response = reply.take room ∧
        returned.len = Setup.encodedLength + min reply.length room
    | none => returned.data = sent.urb.data ∧ returned.len = sent.urb.len

structure ReturnedAs (sent : Sent) (returned : Urb) : Prop where
  ended : returned.status ∈ [.ok, .stall, .transportError, .cancelled]
  frame : returned =
    { sent.urb with data := returned.data, len := returned.len, status := returned.status }
  size : returned.data.length = sent.urb.data.length
  failed : returned.status ≠ .ok → returned.data = sent.urb.data ∧ returned.len = sent.urb.len
  written : Pipe.ofAddress? sent.address = some .bulkOut →
    returned.data = sent.urb.data ∧ returned.len = sent.urb.len
  read : returned.status = .ok → Pipe.ofAddress? sent.address = some .bulkIn →
    returned.len ≤ min sent.urb.len sent.urb.data.length ∧
      returned.data.drop returned.len = sent.urb.data.drop returned.len
  served : returned.status = .ok → Pipe.ofAddress? sent.address = some .control →
    sent.Served returned

-- A transfer that has only its status changed, which is the case but for reads and replies.
theorem returnedAs_unmoved {status : Urb.Status}
    (ended : status ∈ [.ok, .stall, .transportError, .cancelled])
    (unread : status = .ok → Pipe.ofAddress? sent.address ≠ some .bulkIn)
    (served : status = .ok → Pipe.ofAddress? sent.address = some .control →
      sent.Served (sent.urb.finished .ok)) :
    sent.ReturnedAs (sent.urb.finished status) where
  ended := ended
  frame := rfl
  size := rfl
  failed _ := ⟨rfl, rfl⟩
  written _ := ⟨rfl, rfl⟩
  read ok reads := absurd reads (unread ok)
  served ok control := by
    have same : status = .ok := ok
    rw [same]
    exact served same control

theorem returnedAs_failed {status : Urb.Status}
    (failed : status ∈ [.stall, .transportError, .cancelled]) :
    sent.ReturnedAs (sent.urb.finished status) := by
  have unlike : status ≠ .ok := by
    rintro rfl
    revert failed
    decide
  exact returnedAs_unmoved (List.mem_cons_of_mem _ failed) (fun ok => absurd ok unlike)
    (fun ok => absurd ok unlike)

theorem returnedAs_written (writes : Pipe.ofAddress? sent.address = some .bulkOut) :
    sent.ReturnedAs (sent.urb.finished .ok) :=
  returnedAs_unmoved (by decide) (fun _ => by rw [writes]; nofun) fun _ control => by
    rw [writes] at control
    cases control

theorem returnedAs_read (reads : Pipe.ofAddress? sent.address = some .bulkIn) {bytes : Bytes}
    (fits : bytes.length ≤ sent.urb.requested) :
    sent.ReturnedAs ((sent.urb.filled bytes).finished .ok) where
  ended := List.mem_cons_self
  frame := rfl
  size := by
    have room : 0 + bytes.length ≤ sent.urb.data.length := by
      rw [Urb.requested] at fits
      omega
    exact Bytes.length_overwrite room
  failed other := absurd rfl other
  written writes := by
    rw [reads] at writes
    cases writes
  read _ _ := by
    have after : (sent.urb.filled bytes).data.drop (0 + bytes.length) =
        sent.urb.data.drop (0 + bytes.length) := Bytes.drop_overwrite_after (Nat.zero_le _)
    rw [Nat.zero_add] at after
    exact ⟨fits, after⟩
  served _ control := by
    rw [reads] at control
    cases control

theorem returnedAs_ordered {setup : Setup} {request : ControlRequest}
    (control : Pipe.ofAddress? sent.address = some .control)
    (parsed : Setup.parse? sent.urb.payload = some setup)
    (known : ControlRequest.ofSetup? setup = some request)
    (silent : sent.device.reply? request = none) : sent.ReturnedAs (sent.urb.finished .ok) :=
  returnedAs_unmoved (by decide) (fun _ => by rw [control]; nofun) fun _ _ =>
    { setup_kept := rfl
      rest_kept := rfl
      replied := ⟨setup, request, parsed, known, by rw [silent]; exact ⟨rfl, rfl⟩⟩ }

theorem returnedAs_reset (requests : sent.urb.Requests sent.address .bulkOnlyReset) :
    sent.ReturnedAs (sent.urb.finished .ok) := by
  obtain ⟨setup, parsed, known⟩ := Option.bind_eq_some_iff.mp requests.asks
  exact returnedAs_ordered requests.reaches parsed known rfl

theorem returnedAs_answered {setup : Setup} {request : ControlRequest} {reply : Bytes}
    (control : Pipe.ofAddress? sent.address = some .control)
    (parsed : Setup.parse? sent.urb.payload = some setup)
    (known : ControlRequest.ofSetup? setup = some request)
    (replies : sent.device.reply? request = some reply) :
    sent.ReturnedAs ((sent.urb.answered setup reply).finished .ok) := by
  have long := Urb.length_data_of_parse? parsed
  have room : Setup.encodedLength + (reply.take (min (sent.urb.data.length - Setup.encodedLength)
      setup.length.toNat)).length ≤ sent.urb.data.length := by
    rw [List.length_take]
    omega
  have served : sent.Served ((sent.urb.answered setup reply).finished .ok) :=
    { setup_kept := Bytes.take_overwrite long
      rest_kept := Bytes.drop_overwrite_after long
      replied := by
        refine ⟨setup, request, parsed, known, ?_⟩
        rw [replies]
        dsimp only
        rw [Nat.min_comm setup.length.toNat]
        refine ⟨Urb.response_answered long setup reply, ?_⟩
        simp only [Urb.finished, Urb.answered, List.length_take, Nat.min_comm reply.length] }
  exact
    { ended := List.mem_cons_self
      frame := rfl
      size := Bytes.length_overwrite room
      failed := fun other => absurd rfl other
      written := fun writes => by
        rw [control] at writes
        cases writes
      read := fun _ reads => by
        rw [control] at reads
        cases reads
      served := fun _ _ => served }

theorem exists_source {sources : List Sent} {urbs : List Urb}
    (all : List.Forall₂ ReturnedAs sources urbs) {urb : Urb} (back : urb ∈ urbs) :
    ∃ source ∈ sources, source.ReturnedAs urb := by
  induction all with
  | nil => cases back
  | cons first _ ih =>
    rcases List.mem_cons.mp back with rfl | later
    · exact ⟨_, List.mem_cons_self, first⟩
    · obtain ⟨source, member, returns⟩ := ih later
      exact ⟨source, List.mem_cons_of_mem _ member, returns⟩

end Sent

structure Sources where
  parked : List Sent
  pending : List Sent
  returned : List Sent

-- Of the transfers in `sent`, those in `hand` are being processed, the others in `sources` are in
-- the device or have come back, the first of them `reaped` already.
structure Sources.Trace (sources : Sources) (hand sent : List Sent) (reaped : List Urb)
    (d : Device) : Prop where
  parked : d.parked.toList = sources.parked.map Sent.urb
  pending : d.pendingReset.toList = sources.pending.map Sent.urb
  returned : List.Forall₂ Sent.ReturnedAs sources.returned (reaped ++ d.done.toList)
  reads : ∀ read ∈ sources.parked, Pipe.ofAddress? read.address = some .bulkIn
  resets : ∀ request ∈ sources.pending, request.urb.Requests request.address .bulkOnlyReset
  once (one : Sent) : hand.count one + sources.parked.count one + sources.pending.count one +
    sources.returned.count one ≤ sent.count one

def Traced (hand sent : List Sent) (reaped : List Urb) (d : Device) : Prop :=
  ∃ sources : Sources, sources.Trace hand sent reaped d

namespace Traced

variable {hand sent : List Sent} {reaped : List Urb} {one : Sent} {d e : Device}

theorem still (traced : Traced hand sent reaped d) (parked : e.parked = d.parked)
    (pending : e.pendingReset = d.pendingReset) (done : e.done = d.done) :
    Traced hand sent reaped e := by
  obtain ⟨sources, trace⟩ := traced
  exact ⟨sources,
    { parked := by rw [parked, trace.parked]
      pending := by rw [pending, trace.pending]
      returned := by rw [done]; exact trace.returned
      reads := trace.reads
      resets := trace.resets
      once := trace.once }⟩

theorem send (traced : Traced hand sent reaped d) (new : List Sent) :
    Traced (new ++ hand) (sent ++ new) reaped d := by
  obtain ⟨sources, trace⟩ := traced
  refine ⟨sources, { trace with once := fun one => ?_ }⟩
  have once := trace.once one
  simp only [List.count_append]
  omega

theorem unsent (traced : Traced hand sent reaped d) (new : List Sent) :
    Traced hand (sent ++ new) reaped d := by
  obtain ⟨sources, trace⟩ := traced
  refine ⟨sources, { trace with once := fun one => ?_ }⟩
  have once := trace.once one
  rw [List.count_append]
  omega

theorem drop (traced : Traced (one :: hand) sent reaped d) : Traced hand sent reaped d := by
  obtain ⟨sources, trace⟩ := traced
  refine ⟨sources, { trace with once := fun other => ?_ }⟩
  have once := trace.once other
  rw [List.count_cons] at once
  omega

theorem finish (traced : Traced (one :: hand) sent reaped d) {moved : Urb} {status : Urb.Status}
    (returns : one.ReturnedAs (moved.finished status)) :
    Traced hand sent reaped (d.finish moved status) := by
  obtain ⟨sources, trace⟩ := traced
  refine ⟨{ sources with returned := sources.returned ++ [one] },
    { trace with returned := ?_, once := fun other => ?_ }⟩
  · rw [Device.finish, Urb.Queue.toList_append, ← List.append_assoc]
    exact List.rel_append trace.returned (.cons returns .nil)
  · have once := trace.once other
    simp only [List.count_cons, List.count_append, List.count_nil] at once ⊢
    omega

theorem park (traced : Traced (one :: hand) sent reaped d)
    (reads : Pipe.ofAddress? one.address = some .bulkIn) :
    Traced hand sent reaped { d with parked := d.parked.append one.urb } := by
  obtain ⟨sources, trace⟩ := traced
  refine ⟨{ sources with parked := sources.parked ++ [one] },
    { trace with parked := ?_, reads := ?_, once := fun other => ?_ }⟩
  · rw [Urb.Queue.toList_append, trace.parked, List.map_append]
    rfl
  · intro read member
    rcases List.mem_append.mp member with earlier | last
    · exact trace.reads read earlier
    · rw [List.mem_singleton.mp last]
      exact reads
  · have once := trace.once other
    simp only [List.count_cons, List.count_append, List.count_nil] at once ⊢
    omega

theorem hold (traced : Traced (one :: hand) sent reaped d) (free : d.pendingReset = none)
    (requests : one.urb.Requests one.address .bulkOnlyReset) :
    Traced hand sent reaped { d with pendingReset := some one.urb } := by
  obtain ⟨sources, trace⟩ := traced
  refine ⟨{ sources with pending := [one] },
    { trace with pending := rfl, resets := ?_, once := fun other => ?_ }⟩
  · intro request member
    rw [List.mem_singleton.mp member]
    exact requests
  · have once := trace.once other
    have nothing : sources.pending = [] := by
      have pending := trace.pending
      rw [free] at pending
      exact List.map_eq_nil_iff.mp pending.symm
    simp only [nothing, List.count_cons, List.count_nil] at once ⊢
    omega

theorem drain (traced : Traced hand sent reaped d) :
    ∃ reads : List Sent, d.parked.toList = reads.map Sent.urb ∧
      (∀ read ∈ reads, Pipe.ofAddress? read.address = some .bulkIn) ∧
      Traced (reads ++ hand) sent reaped { d with parked := .empty } := by
  obtain ⟨sources, trace⟩ := traced
  refine ⟨sources.parked, trace.parked, trace.reads, { sources with parked := [] },
    { trace with parked := rfl, reads := List.forall_mem_nil _, once := fun other => ?_ }⟩
  have once := trace.once other
  simp only [List.count_append, List.count_nil]
  omega

theorem pull (traced : Traced hand sent reaped d) {id : Nat} {urb : Urb} {rest : Urb.Queue}
    (removed : d.parked.remove? id = some (urb, rest)) :
    ∃ one : Sent, one.urb = urb ∧ Traced (one :: hand) sent reaped { d with parked := rest } := by
  obtain ⟨sources, trace⟩ := traced
  obtain ⟨before, after, split, left, -, -⟩ := Urb.Queue.remove?_split removed
  rw [trace.parked] at split
  obtain ⟨front, back, parts, fronts, backs⟩ := List.map_eq_append_iff.mp split
  obtain ⟨one, behind, rfl, same, behinds⟩ := List.map_eq_cons_iff.mp backs
  refine ⟨one, same, { sources with parked := front ++ behind },
    { trace with parked := ?_, reads := ?_, once := fun other => ?_ }⟩
  · rw [left, List.map_append, fronts, behinds]
  · intro read member
    refine trace.reads read ?_
    rw [parts]
    rcases List.mem_append.mp member with earlier | later
    · exact List.mem_append_left _ earlier
    · exact List.mem_append_right _ (List.mem_cons_of_mem _ later)
  · have once := trace.once other
    simp only [parts, List.count_cons, List.count_append] at once ⊢
    omega

theorem pull_reset (traced : Traced hand sent reaped d) {urb : Urb}
    (waits : d.pendingReset = some urb) :
    ∃ one : Sent, one.urb = urb ∧
      Traced (one :: hand) sent reaped { d with pendingReset := none } := by
  obtain ⟨sources, trace⟩ := traced
  have pending : sources.pending.map Sent.urb = [urb] := by rw [← trace.pending, waits]; rfl
  obtain ⟨one, only, same⟩ := List.map_eq_singleton_iff.mp pending
  refine ⟨one, same, { sources with pending := [] },
    { trace with pending := rfl, resets := List.forall_mem_nil _, once := fun other => ?_ }⟩
  have once := trace.once other
  simp only [only, List.count_cons, List.count_nil] at once ⊢
  omega

theorem reap (traced : Traced hand sent reaped d) {outgoing : List Urb} {rest : Urb.Queue}
    (done : d.done.toList = outgoing ++ rest.toList) :
    Traced hand sent (reaped ++ outgoing) { d with done := rest } := by
  obtain ⟨sources, trace⟩ := traced
  refine ⟨sources, { trace with returned := ?_ }⟩
  rw [List.append_assoc, ← done]
  exact trace.returned

theorem reset (traced : Traced hand sent reaped d) (kind : Reset) :
    Traced hand sent reaped (d.finishReset kind) := by
  obtain ⟨sources, trace⟩ := traced
  refine ⟨⟨[], [], sources.returned ++ sources.parked ++ sources.pending⟩, ?_⟩
  rw [Device.finishReset_eq]
  refine
    { parked := rfl, pending := rfl, returned := ?_, reads := List.forall_mem_nil _
      resets := List.forall_mem_nil _, once := fun other => ?_ }
  · simp only [trace.parked, List.map_map, ← List.append_assoc]
    refine List.rel_append (List.rel_append trace.returned ?_) ?_
    · rw [List.forall₂_map_right_iff, List.forall₂_same]
      exact fun read _ => Sent.returnedAs_failed (by decide)
    · rw [trace.pending, List.map_map, List.forall₂_map_right_iff, List.forall₂_same]
      intro request member
      exact Sent.returnedAs_reset (trace.resets request member)
  · have once := trace.once other
    simp only [List.count_append, List.count_nil]
    omega

end Traced

namespace Device

variable {hand sent : List Sent} {reaped : List Urb} {one : Sent} {d : Device}

def Frames (d : Device) (one : Sent) : Disposition → Prop
  | .complete moved => one.ReturnedAs (moved.finished .ok)
  | .stall same _ => same = one.urb
  | .park same => same = one.urb ∧ Pipe.ofAddress? one.address = some .bulkIn
  | .hold same => same = one.urb ∧ d.pendingReset = none ∧
    one.urb.Requests one.address .bulkOnlyReset
  | .reconfigure same _ => same = one.urb ∧ one.ReturnedAs (one.urb.finished .ok)
  | .fault => True

theorem stall_traced (traced : Traced (one :: hand) sent reaped d) (halting : List Pipe) :
    Traced hand sent reaped (d.stall one.urb halting) := by
  have halted : Traced (one :: hand) sent reaped
      { d with
        halts := d.halts.raise halting
        statistics.stalls := d.statistics.stalls + 1 } := traced.still rfl rfl rfl
  exact halted.finish (Sent.returnedAs_failed (by decide))

theorem resetAs_traced (traced : Traced hand sent reaped d) (kind : Reset) :
    Traced hand sent reaped (d.resetAs kind) := by
  have abandoned : Traced hand sent reaped d.abandon := by
    unfold abandon
    split
    · exact traced.still rfl rfl rfl
    · exact traced
  exact abandoned.reset kind

theorem apply_traced (traced : Traced (one :: hand) sent reaped d) {disposition : Disposition}
    (frames : d.Frames one disposition) :
    Traced hand sent reaped (d.apply disposition).1 := by
  cases disposition with
  | complete moved => exact traced.finish frames
  | stall same halting =>
    cases frames
    exact stall_traced traced halting
  | park same =>
    obtain ⟨rfl, reads⟩ := frames
    exact traced.park reads
  | hold same =>
    obtain ⟨rfl, free, requests⟩ := frames
    exact traced.hold free requests
  | reconfigure same value =>
    obtain ⟨rfl, returns⟩ := frames
    exact (resetAs_traced traced _).finish returns
  | fault => exact traced.drop

theorem sendStatus_frames (one : Sent) (reads : Pipe.ofAddress? one.address = some .bulkIn)
    (d : Device) (t : Transaction) :
    (d.sendStatus t one.urb).1.Frames one (d.sendStatus t one.urb).2 := by
  unfold sendStatus
  split
  · rfl
  next enough =>
    refine Sent.returnedAs_read reads ?_
    rw [StatusWrapper.length_encode]
    omega

theorem bulkIn_frames (one : Sent) (reads : Pipe.ofAddress? one.address = some .bulkIn)
    (d : Device) :
    (d.bulkIn one.urb).1.Frames one (d.bulkIn one.urb).2 := by
  unfold bulkIn
  split
  · rfl
  split
  · rfl
  split
  · exact ⟨rfl, reads⟩
  next t _ =>
    unfold sendData
    split
    · rfl
    · refine Sent.returnedAs_read reads ?_
      rw [Transaction.length_chunk]
      exact Nat.min_le_right _ _
  · exact sendStatus_frames one reads d _
  · unfold sendEarlyStatus
    split
    · rfl
    dsimp only
    split
    · exact sendStatus_frames one reads _ _
    · exact ⟨rfl, reads⟩
  · rfl

theorem bulkOut_frames (one : Sent) (writes : Pipe.ofAddress? one.address = some .bulkOut)
    (d : Device) :
    (d.bulkOut one.urb).1.Frames one (d.bulkOut one.urb).2 := by
  rcases bulkOut_decides d one.urb with ⟨halting, stalled⟩ | completed
  · rw [stalled]
    rfl
  · rw [completed]
    exact Sent.returnedAs_written writes

theorem bulkOnlyReset_frames (one : Sent)
    (requests : one.urb.Requests one.address .bulkOnlyReset) (d : Device) :
    (d.bulkOnlyReset one.urb).1.Frames one (d.bulkOnlyReset one.urb).2 := by
  unfold bulkOnlyReset
  dsimp only
  split
  · split
    next => rfl
    next free => exact ⟨rfl, by simpa [log] using free, requests⟩
  · exact Sent.returnedAs_reset requests

theorem bulkOnlyReset_traced (traced : Traced hand sent reaped d) (urb : Urb) :
    Traced hand sent reaped (d.bulkOnlyReset urb).1 := by
  unfold bulkOnlyReset
  dsimp only
  split
  · split
    · exact traced.still rfl rfl rfl
    · exact traced.still rfl rfl rfl
  · have logged : Traced hand sent reaped (d.log .bulkOnlyReset) := traced.still rfl rfl rfl
    exact logged.reset .bulkOnly

theorem control_traced (traced : Traced hand sent reaped d) (urb : Urb) :
    Traced hand sent reaped (d.control urb).1 := by
  rcases control_cases d urb with replied | ⟨e, task, done, resets⟩
  · exact traced.still replied.task.parked replied.task.pendingReset replied.done
  · rw [resets]
    exact bulkOnlyReset_traced (traced.still task.parked task.pendingReset done) urb

theorem handle_traced (traced : Traced hand sent reaped d) (address : UInt8) (urb : Urb) :
    Traced hand sent reaped (d.handle address urb).1 := by
  unfold handle
  split
  · exact control_traced traced urb
  · have same := bulkOut_frame d urb
    exact traced.still same.parked same.pendingReset same.done
  · have same := bulkIn_frame d urb
    exact traced.still same.parked same.pendingReset same.done
  · exact traced.still rfl rfl rfl

theorem control_frames {address : UInt8} (control : Pipe.ofAddress? address = some .control)
    (d : Device) (urb : Urb) :
    (d.control urb).1.Frames ⟨d, address, urb⟩ (d.control urb).2 := by
  unfold Device.control
  dsimp only
  split
  · rfl
  next setup parsed =>
    split
    · rfl
    next request known =>
      by_cases reset : request = .bulkOnlyReset
      · rw [reset] at known ⊢
        have requests : urb.Requests address .bulkOnlyReset :=
          ⟨control, by rw [parsed]; exact known⟩
        exact bulkOnlyReset_frames ⟨d, address, urb⟩ requests _
      · cases replies : d.reply? request with
        | some reply =>
          rw [serve_of_reply replies]
          exact Sent.returnedAs_answered control parsed known replies
        | none =>
          have ordered : Sent.ReturnedAs ⟨d, address, urb⟩ (urb.finished .ok) :=
            Sent.returnedAs_ordered control parsed known replies
          cases direction : request.direction with
          | toHost =>
            rcases serve_of_missing direction replies setup urb (.controlRequest setup) with
              failed | ⟨-, stalled⟩
            · rw [failed]
              trivial
            · rw [stalled]
              rfl
          | toDevice =>
            rcases serve_of_order direction reset (log { d with
              halts := d.halts.set .control false } (.controlRequest setup)) setup urb with
              completed | ⟨value, reconfigures⟩
            · rw [completed]
              exact ordered
            · rw [reconfigures]
              exact ⟨rfl, ordered⟩

theorem handle_frames (d : Device) (address : UInt8) (urb : Urb) :
    (d.handle address urb).1.Frames ⟨d, address, urb⟩ (d.handle address urb).2 := by
  unfold handle
  split
  next control => exact control_frames control d urb
  next writes => exact bulkOut_frames ⟨d, address, urb⟩ writes d
  next reads => exact bulkIn_frames ⟨d, address, urb⟩ reads d
  next => rfl

theorem dispatch_traced {address : UInt8} {urb : Urb}
    (traced : Traced (⟨d, address, urb⟩ :: hand) sent reaped d) :
    Traced hand sent reaped (d.dispatch address urb).1 :=
  apply_traced (handle_traced traced address urb) (handle_frames d address urb)

theorem foldl_resume_traced {reads : List Sent} (traced : Traced (reads ++ hand) sent reaped d)
    (read : ∀ one ∈ reads, Pipe.ofAddress? one.address = some .bulkIn) :
    Traced hand sent reaped ((reads.map Sent.urb).foldl resume d) := by
  induction reads generalizing d with
  | nil => exact traced
  | cons one rest ih =>
    obtain ⟨first, others⟩ := List.forall_mem_cons.mp read
    have same := bulkIn_frame d one.urb
    refine ih ?_ others
    exact apply_traced (traced.still same.parked same.pendingReset same.done)
      (bulkIn_frames one first d)

theorem resumeParked_traced (traced : Traced hand sent reaped d) :
    Traced hand sent reaped d.resumeParked := by
  obtain ⟨reads, parked, read, drained⟩ := traced.drain
  rw [resumeParked, parked]
  exact foldl_resume_traced drained read

theorem settle_traced (traced : Traced hand sent reaped d) (command : Command)
    (completion : Completion) : Traced hand sent reaped (d.settle command completion) := by
  by_cases executing : d.slot = .executing command.generation
  · have back := takenBack_frame { d with events := d.events ++ completion.events command }
      (completion.returned command).transaction (completion.outcome command)
    have resumed := resumeParked_traced (traced.still back.parked back.pendingReset back.done)
    rw [settle_executing completion executing, concluded_eq]
    split
    · exact resumed.reset .bulkOnly
    · exact resumed
  · rw [settle_stale completion executing]
    exact traced.still rfl rfl rfl

theorem finishCancelled_traced (traced : Traced (one :: hand) sent reaped d) :
    Traced hand sent reaped (d.finishCancelled one.urb) := by
  have counted : Traced (one :: hand) sent reaped
      { d with
        statistics.cancelled := d.statistics.cancelled + 1
        events := d.events ++ [.cancelling one.urb.id] } := traced.still rfl rfl rfl
  exact counted.finish (Sent.returnedAs_failed (by decide))

theorem cancel_traced (traced : Traced hand sent reaped d) (id : Nat) :
    Traced hand sent reaped (d.cancel id) := by
  unfold cancel
  split
  next urb rest removed =>
    obtain ⟨one, rfl, pulled⟩ := traced.pull removed
    exact finishCancelled_traced pulled
  next =>
    split
    next => exact traced.still rfl rfl rfl
    next urb waits =>
      split
      next =>
        obtain ⟨one, rfl, pulled⟩ := traced.pull_reset waits
        exact finishCancelled_traced pulled
      next => exact traced.still rfl rfl rfl

end Device

def Operation.sent (d : Device) : Operation → List Sent
  | .device (.dispatch address urb) => [⟨d, address, urb⟩]
  | _ => []

theorem Operation.map_urb_sent (d : Device) (operation : Operation) :
    (operation.sent d).map Sent.urb = operation.dispatched := by
  cases operation with
  | device operation => cases operation <;> rfl
  | complete _ _ | remove => rfl

def System.sent (s : System) : List Turn → List Sent
  | [] => []
  | turn :: rest => turn.operation.sent s.device ++ (s.turn turn).system.sent rest

namespace Device

variable {sent : List Sent} {reaped : List Urb} {d : Device}

theorem operate_traced (traced : Traced [] sent reaped d) (operation : Device.Operation) :
    Traced [] (sent ++ (Operation.device operation).sent d)
      (reaped ++ (d.operate operation).2.handedBack) (d.operate operation).1 := by
  have quiet {e : Device} (traced : Traced [] sent reaped e) :
      Traced [] (sent ++ []) (reaped ++ []) e := by simpa only [List.append_nil] using traced
  cases operation with
  | dispatch address urb =>
    rw [show (d.operate (.dispatch address urb)).2.handedBack = [] from rfl, List.append_nil]
    exact dispatch_traced (traced.send [⟨d, address, urb⟩])
  | cancel id => exact quiet (cancel_traced traced id)
  | reset =>
    have logged : Traced [] sent reaped (d.log .deviceReset) := traced.still rfl rfl rfl
    exact quiet (resetAs_traced logged .device)
  | setConfiguration value =>
    refine quiet ?_
    simp only [operate, setConfiguration]
    split
    · exact resetAs_traced traced _
    · exact traced.still rfl rfl rfl
  | clearHalt address =>
    refine quiet ?_
    simp only [operate, clearHalt]
    split
    · exact traced.still rfl rfl rfl
    · exact traced
  | reap | poll =>
    simp only [operate]
    split
    next urb e taken =>
      obtain ⟨rest, order, rfl⟩ := reap?_eq_some_iff.mp taken
      have left : d.done.toList = [urb] ++ rest.toList := order
      exact (traced.reap left).unsent []
    next => exact quiet traced
  | reapAll =>
    have left : d.done.toList = d.done.toList ++ Urb.Queue.empty.toList :=
      (List.append_nil _).symm
    exact (traced.reap left).unsent []
  | stream polls =>
    simp only [operate, handedBack_stream]
    have left : d.done.toList = d.done.toList.take polls ++
        (Urb.Queue.mk (d.done.toList.drop polls)).toList :=
      (List.take_append_drop polls d.done.toList).symm
    exact (traced.reap left).unsent []
  | save =>
    simp only [operate]
    split <;> exact quiet traced
  | restore saved =>
    simp only [operate]
    split
    next restored =>
      obtain ⟨slot, -, -, rfl⟩ := restore_eq_ok_iff.mp restored
      exact quiet (traced.still rfl rfl rfl)
    next => exact quiet traced
  | wakeUp | isHalted _ | isIdle | setDescriptors _ | describe =>
    exact quiet (traced.still rfl rfl rfl)

end Device

namespace System

open Device

variable {s : System} {sent : List Sent} {reaped : List Urb}

theorem release_traced (traced : Traced [] sent reaped s.device) (answer : Answer) :
    Traced [] sent reaped (s.release answer).system.device := by
  have durable : Durable (Traced [] sent reaped) fun _ => True :=
    { told := fun d events traced => traced.still rfl rfl rfl
      drained := fun d traced => traced.still rfl rfl rfl
      issued := fun _ _ _ _ => trivial
      ended := fun d command completion _ traced => settle_traced traced command completion }
  exact (durable.release traced (fun _ _ => trivial) answer).1

theorem perform_traced (traced : Traced [] sent reaped s.device) (operation : Operation) :
    Traced [] (sent ++ operation.sent s.device)
      (reaped ++ (s.perform operation).answer.handedBack) (s.perform operation).system.device := by
  have silent {e : Device} (traced : Traced [] sent reaped e) :
      Traced [] (sent ++ operation.sent s.device) (reaped ++ []) e := by
    rw [List.append_nil]
    exact traced.unsent _
  rcases perform_cases s operation with ⟨asked, rfl, -, performed⟩ |
    ⟨index, completion, command, -, -, -, performed⟩ | unheard
  · rw [performed]
    exact release_traced (operate_traced traced asked) _
  · rw [performed]
    exact silent (release_traced (settle_traced traced command completion) .done)
  · rw [unheard.device, unheard.handedBack]
    exact silent traced

theorem play_traced (traced : Traced [] sent reaped s.device) (turns : List Turn) :
    Traced [] (sent ++ s.sent turns) (reaped ++ s.reaped turns) (s.play turns).device := by
  induction turns generalizing s sent reaped with
  | nil => simpa only [System.sent, System.reaped, reports, List.flatMap_nil, List.append_nil]
  | cons turn rest ih =>
    have first := perform_traced (s := { s with target := turn.target }) traced turn.operation
    have later := ih first
    rw [List.append_assoc, List.append_assoc] at later
    exact later

theorem map_urb_sent (s : System) (turns : List Turn) :
    (s.sent turns).map Sent.urb = dispatched turns := by
  induction turns generalizing s with
  | nil => rfl
  | cons turn rest ih =>
    rw [System.sent, List.map_append, Operation.map_urb_sent, ih]
    rfl

end System

structure Framed (start : System) (turns : List Turn) : Prop where
  sources : ∃ sources : List Sent, sources.Subperm (start.sent turns) ∧
    List.Forall₂ Sent.ReturnedAs sources (start.returned turns)
  by_id : ((dispatched turns).map Urb.id).Nodup → ∀ one ∈ start.sent turns,
    ∀ urb ∈ start.returned turns, urb.id = one.urb.id → one.ReturnedAs urb

namespace System

open Device

theorem transfers_framed (settings : Settings) (location : String) (target : Target)
    (turns : List Turn) : Framed (create settings location target) turns := by
  have created : Traced [] [] [] (create settings location target).device :=
    ⟨⟨[], [], []⟩, rfl, rfl, .nil, List.forall_mem_nil _, List.forall_mem_nil _, fun _ => by simp⟩
  obtain ⟨sources, trace⟩ := play_traced created turns
  have once : sources.returned.Subperm ((create settings location target).sent turns) := by
    refine List.subperm_ext_iff.mpr fun one _ => ?_
    have once := trace.once one
    rw [List.nil_append] at once
    omega
  refine ⟨⟨sources.returned, once, trace.returned⟩, fun distinct one sent urb back same => ?_⟩
  obtain ⟨source, member, returns⟩ := Sent.exists_source trace.returned back
  have ids : (((create settings location target).sent turns).map fun one => one.urb.id).Nodup := by
    rw [← map_urb_sent, List.map_map] at distinct
    exact distinct
  have equal : source = one := by
    refine List.inj_on_of_nodup_map ids (once.subset member) sent ?_
    rw [← same, returns.frame]
  rw [← equal]
  exact returns

theorem transfers_framed_parkedReads :
    ((dispatched parkedReads).map Urb.id).Nodup ∧
      ((create {} "lun0" .holds).returned parkedReads).map Urb.status =
        [.ok, .cancelled, .ok, .ok] ∧
      ∀ one ∈ (create {} "lun0" .holds).sent parkedReads,
        ∀ urb ∈ (create {} "lun0" .holds).returned parkedReads, urb.id = one.urb.id →
          one.ReturnedAs urb := by
  have distinct : ((dispatched parkedReads).map Urb.id).Nodup := by decide
  exact ⟨distinct, by decide,
    (transfers_framed {} "lun0" .holds parkedReads).by_id distinct⟩

end System

end BulkOnly
