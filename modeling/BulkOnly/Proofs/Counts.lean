import BulkOnly.Proofs.Conservation
import BulkOnly.Proofs.Issues
import BulkOnly.Proofs.Restart

set_option autoImplicit false

namespace BulkOnly

def Urb.request? (urb : Urb) (address : UInt8) : Option ControlRequest :=
  if Pipe.ofAddress? address = some .control then
    (Setup.parse? urb.payload).bind ControlRequest.ofSetup?
  else none

theorem Urb.request?_eq_some_iff {urb : Urb} {address : UInt8} {request : ControlRequest} :
    urb.request? address = some request ↔ urb.Requests address request := by
  constructor
  · intro found
    unfold request? at found
    split at found
    next reaches => exact ⟨reaches, found⟩
    next => cases found
  · rintro ⟨reaches, asks⟩
    rw [request?, if_pos reaches, asks]

def withStatus (status : Urb.Status) (urbs : List Urb) : Nat :=
  urbs.countP fun urb => urb.status = status

theorem withStatus_append (status : Urb.Status) (urbs rest : List Urb) :
    withStatus status (urbs ++ rest) = withStatus status urbs + withStatus status rest :=
  List.countP_append

@[simp] theorem withStatus_finished (status other : Urb.Status) (urbs : List Urb) :
    withStatus status (urbs.map (·.finished other)) =
      if other = status then urbs.length else 0 := by
  induction urbs with
  | nil => simp [withStatus]
  | cons urb rest ih =>
    unfold withStatus at ih ⊢
    rw [List.map_cons, List.countP_cons, ih]
    by_cases same : other = status <;> simp [same, Urb.finished]

def Disposition.reconfigures : Disposition → Bool
  | .reconfigure .. => true
  | _ => false

namespace Device

variable {d e f : Device}

-- Whether an operation brings a reset to its end. A bulk-only reset ends at once only if no command
-- executes.
def finishesReset (d : Device) : Device.Operation → Bool
  | .reset => true
  | .setConfiguration value => value = d.configuration
  | .dispatch address urb =>
    urb.request? address = some (.configure d.configuration) ||
      urb.request? address = some .bulkOnlyReset && !d.slot.isExecuting
  | _ => false

theorem finishesReset_iff {operation : Device.Operation} :
    d.finishesReset operation = true ↔ ∃ kind requester, d.Resets operation kind requester := by
  constructor
  · intro finishes
    cases operation with
    | reset => exact ⟨_, _, .bus⟩
    | setConfiguration value =>
      obtain rfl : value = d.configuration := of_decide_eq_true finishes
      exact ⟨_, _, .framework⟩
    | dispatch address urb =>
      simp only [finishesReset, Bool.or_eq_true, Bool.and_eq_true, decide_eq_true_eq,
        Bool.not_eq_true', Urb.request?_eq_some_iff] at finishes
      rcases finishes with requests | ⟨requests, idle⟩
      · exact ⟨_, _, .configure requests⟩
      · exact ⟨_, _, .bulkOnly requests idle⟩
    | _ => cases finishes
  · rintro ⟨kind, requester, resets⟩
    cases resets with
    | bus => rfl
    | framework => simp [finishesReset]
    | configure requests => simp [finishesReset, Urb.request?_eq_some_iff.mpr requests]
    | bulkOnly requests idle => simp [finishesReset, Urb.request?_eq_some_iff.mpr requests, idle]

-- Between `before` and `after` the `outgoing` transfers have left those that are done, and as many
-- resets as given have ended.
structure Counted (outgoing : List Urb) (resets : Nat) (before after : Device) : Prop where
  stalls : after.statistics.stalls + withStatus .stall before.done.toList =
    before.statistics.stalls + withStatus .stall (outgoing ++ after.done.toList)
  cancelled : after.statistics.cancelled + withStatus .cancelled before.done.toList =
    before.statistics.cancelled + withStatus .cancelled (outgoing ++ after.done.toList)
  resets : after.statistics.resets = before.statistics.resets + resets

namespace Counted

theorem still (statistics : e.statistics.stalls = d.statistics.stalls ∧
    e.statistics.cancelled = d.statistics.cancelled ∧ e.statistics.resets = d.statistics.resets)
    (done : e.done = d.done) : Counted [] 0 d e := by
  obtain ⟨stalls, cancelled, resets⟩ := statistics
  exact ⟨by rw [stalls, done]; rfl, by rw [cancelled, done]; rfl, resets⟩

theorem refl (d : Device) : Counted [] 0 d d := still ⟨rfl, rfl, rfl⟩ rfl

theorem trans {outgoing outgoing' : List Urb} {resets resets' : Nat}
    (first : Counted outgoing resets d e) (second : Counted outgoing' resets' e f) :
    Counted (outgoing ++ outgoing') (resets + resets') d f := by
  obtain ⟨stalls, cancelled, ended⟩ := first
  obtain ⟨stalls', cancelled', ended'⟩ := second
  simp only [withStatus_append] at stalls cancelled stalls' cancelled'
  refine ⟨?_, ?_, ?_⟩
  · simp only [withStatus_append]
    omega
  · simp only [withStatus_append]
    omega
  · omega

theorem after_still {outgoing : List Urb} {resets : Nat} (first : Counted [] 0 d e)
    (second : Counted outgoing resets e f) : Counted outgoing resets d f := by
  simpa only [List.nil_append, Nat.zero_add] using first.trans second

theorem then_still {outgoing : List Urb} {resets : Nat} (first : Counted outgoing resets d e)
    (second : Counted [] 0 e f) : Counted outgoing resets d f := by
  simpa only [List.append_nil, Nat.add_zero] using first.trans second

end Counted

theorem SameSurroundings.counted (same : SameSurroundings d e) : Counted [] 0 d e :=
  .still ⟨by rw [same.statistics], by rw [same.statistics], same.resets⟩ same.done

theorem Restarted.counted {kind : Reset} {requester : Option Urb}
    (restarted : d.Restarted kind requester e) : Counted [] 1 d e := by
  rw [restarted.rest]
  exact ⟨by simp [withStatus_append], by simp [withStatus_append], rfl⟩

theorem finish_counted (d : Device) (urb : Urb) {status : Urb.Status} (stalled : status ≠ .stall)
    (cancelled : status ≠ .cancelled) : Counted [] 0 d (d.finish urb status) := by
  refine ⟨?_, ?_, rfl⟩
  · simp [finish, withStatus, Urb.finished, stalled]
  · simp [finish, withStatus, Urb.finished, cancelled]

theorem stall_counted (d : Device) (urb : Urb) (halting : List Pipe) :
    Counted [] 0 d (d.stall urb halting) := by
  refine ⟨?_, ?_, rfl⟩
  · simp [Device.stall, finish, withStatus, Urb.finished]
    omega
  · simp [Device.stall, finish, withStatus, Urb.finished]

theorem finishCancelled_counted (d : Device) (urb : Urb) :
    Counted [] 0 d (d.finishCancelled urb) := by
  refine ⟨?_, ?_, rfl⟩
  · simp [finishCancelled, finish, withStatus, Urb.finished]
  · simp [finishCancelled, finish, withStatus, Urb.finished]
    omega

theorem finishReset_counted (d : Device) (kind : Reset) : Counted [] 1 d (d.finishReset kind) := by
  rw [finishReset_eq]
  exact ⟨by simp [withStatus_append], by simp [withStatus_append], rfl⟩

theorem apply_counted (d : Device) {disposition : Disposition}
    (settled : disposition.reconfigures = false) :
    Counted [] 0 d (d.apply disposition).1 := by
  cases disposition with
  | complete urb => exact finish_counted d urb nofun nofun
  | stall urb halting => exact stall_counted d urb halting
  | reconfigure urb value => cases settled
  | park urb | hold urb | fault => exact .still ⟨rfl, rfl, rfl⟩ rfl

structure OnlyAnswers (d : Device) (handled : Device × Disposition) : Prop where
  counted : Counted [] 0 d handled.1
  settled : handled.2.reconfigures = false

theorem OnlyAnswers.apply {handled : Device × Disposition} (answers : d.OnlyAnswers handled) :
    Counted [] 0 d (handled.1.apply handled.2).1 :=
  answers.counted.after_still (apply_counted _ answers.settled)

theorem OnlyAnswers.after_still {handled : Device × Disposition} (first : Counted [] 0 d e)
    (answers : e.OnlyAnswers handled) : d.OnlyAnswers handled :=
  ⟨first.after_still answers.counted, answers.settled⟩

theorem bulkOnlyReset_counted (executing : d.slot.isExecuting = true) (urb : Urb) :
    d.OnlyAnswers (d.bulkOnlyReset urb) := by
  have busy : (d.log .bulkOnlyReset).slot.isExecuting = true := executing
  unfold bulkOnlyReset
  dsimp only
  rw [if_pos busy]
  split
  · exact ⟨.still ⟨rfl, rfl, rfl⟩ rfl, rfl⟩
  · exact ⟨.still ⟨rfl, rfl, rfl⟩ rfl, rfl⟩

theorem serve_counted {request : ControlRequest}
    (waits : request = .bulkOnlyReset → d.slot.isExecuting = true)
    (changes : request ≠ .configure d.configuration) (setup : Setup) (urb : Urb) :
    d.OnlyAnswers (d.serve request setup urb) := by
  cases request with
  | bulkOnlyReset => exact bulkOnlyReset_counted (waits rfl) urb
  | descriptor kind index language =>
    simp only [serve]
    split <;> exact ⟨.still ⟨rfl, rfl, rfl⟩ rfl, rfl⟩
  | configure value =>
    simp only [serve]
    split
    next active => exact absurd (congrArg _ active) changes
    next => exact ⟨.still ⟨rfl, rfl, rfl⟩ rfl, rfl⟩
  | maxLun | deviceStatus | haltStatus _ | haltFeature _ _ _ | remoteWakeup | configuration
  | interface | selectInterface => exact ⟨.still ⟨rfl, rfl, rfl⟩ rfl, rfl⟩

theorem control_counted {urb : Urb}
    (waits : (Setup.parse? urb.payload).bind ControlRequest.ofSetup? = some .bulkOnlyReset →
      d.slot.isExecuting = true)
    (changes : (Setup.parse? urb.payload).bind ControlRequest.ofSetup? ≠
      some (.configure d.configuration)) : d.OnlyAnswers (d.control urb) := by
  unfold control
  dsimp only
  split
  · exact ⟨.still ⟨rfl, rfl, rfl⟩ rfl, rfl⟩
  next setup parsed =>
    rw [parsed, Option.bind_some] at waits changes
    split
    · exact ⟨.still ⟨rfl, rfl, rfl⟩ rfl, rfl⟩
    next request known =>
      refine .after_still (e := log { d with halts := d.halts.set .control false }
        (.controlRequest setup)) (.still ⟨rfl, rfl, rfl⟩ rfl) (serve_counted ?_ ?_ setup urb)
      · exact fun same => waits (known.trans (congrArg some same))
      · exact fun same => changes (known.trans (congrArg some same))

theorem bulkIn_counted (d : Device) (urb : Urb) : d.OnlyAnswers (d.bulkIn urb) := by
  refine ⟨(bulkIn_frame d urb).counted, ?_⟩
  rcases bulkIn_decides d urb with ⟨halting, stalled⟩ | ⟨bytes, completed⟩ | parked
  · rw [stalled]
    rfl
  · rw [completed]
    rfl
  · rw [parked]
    rfl

theorem bulkOut_counted (d : Device) (urb : Urb) : d.OnlyAnswers (d.bulkOut urb) := by
  refine ⟨(bulkOut_frame d urb).counted, ?_⟩
  rcases bulkOut_decides d urb with ⟨halting, stalled⟩ | completed
  · rw [stalled]
    rfl
  · rw [completed]
    rfl

theorem handle_counted {address : UInt8} {urb : Urb}
    (waits : urb.request? address = some .bulkOnlyReset → d.slot.isExecuting = true)
    (changes : urb.request? address ≠ some (.configure d.configuration)) :
    d.OnlyAnswers (d.handle address urb) := by
  unfold handle
  split
  next reaches =>
    rw [Urb.request?, if_pos reaches] at waits changes
    exact control_counted waits changes
  · exact bulkOut_counted d urb
  · exact bulkIn_counted d urb
  · exact ⟨.still ⟨rfl, rfl, rfl⟩ rfl, rfl⟩

theorem cancel_counted (d : Device) (id : Nat) : Counted [] 0 d (d.cancel id) := by
  unfold cancel
  split
  next urb rest removed =>
    have pulled : Counted [] 0 d { d with parked := rest } := .still ⟨rfl, rfl, rfl⟩ rfl
    exact pulled.after_still (finishCancelled_counted _ urb)
  split
  · exact .still ⟨rfl, rfl, rfl⟩ rfl
  next urb waits =>
    split
    · have pulled : Counted [] 0 d { d with pendingReset := none } := .still ⟨rfl, rfl, rfl⟩ rfl
      exact pulled.after_still (finishCancelled_counted _ urb)
    · exact .still ⟨rfl, rfl, rfl⟩ rfl

theorem Counted.reaped {outgoing : List Urb} (statistics : e.statistics = d.statistics)
    (done : d.done.toList = outgoing ++ e.done.toList) : Counted outgoing 0 d e :=
  ⟨by rw [statistics, done], by rw [statistics, done], by rw [statistics]; rfl⟩

theorem operate_finishing {operation : Device.Operation}
    (finishes : d.finishesReset operation = true) :
    Counted (d.operate operation).2.handedBack 1 d (d.operate operation).1 := by
  obtain ⟨kind, requester, resets⟩ := finishesReset_iff.mp finishes
  obtain ⟨e, operated, restarted⟩ := operate_restarted resets
  have nothing : (if requester.isSome then Answer.dispatched .completed else .done).handedBack =
      [] := by
    split <;> rfl
  rw [operated, nothing]
  exact restarted.counted

theorem operate_unfinishing {operation : Device.Operation}
    (goesOn : d.finishesReset operation = false) :
    Counted (d.operate operation).2.handedBack 0 d (d.operate operation).1 := by
  by_cases steers : (Operation.device operation).steers = true
  case neg =>
    obtain ⟨rest, same, taken, -⟩ := operate_looks (Bool.eq_false_iff.mpr steers) d
    rw [same]
    exact .reaped rfl taken.symm
  cases operation with
  | dispatch address urb =>
    refine (handle_counted ?_ ?_).apply
    · intro requests
      simpa [finishesReset, requests] using goesOn
    · intro requests
      simp [finishesReset, requests] at goesOn
  | cancel id => exact cancel_counted d id
  | reset => cases goesOn
  | setConfiguration value =>
    have other : d.configuration ≠ value := fun same => of_decide_eq_false goesOn same.symm
    simp only [operate, setConfiguration, if_neg other]
    exact .still ⟨rfl, rfl, rfl⟩ rfl
  | clearHalt address =>
    simp only [operate, clearHalt]
    split <;> exact .still ⟨rfl, rfl, rfl⟩ rfl
  | restore saved =>
    simp only [operate]
    split
    next restored =>
      obtain ⟨slot, -, -, rfl⟩ := restore_eq_ok_iff.mp restored
      exact .still ⟨rfl, rfl, rfl⟩ rfl
    next => exact .refl d
  | setDescriptors table => exact .still ⟨rfl, rfl, rfl⟩ rfl
  | wakeUp | isHalted _ | isIdle | reap | poll | reapAll | stream _ | save | describe =>
    cases steers

theorem operate_counted (d : Device) (operation : Device.Operation) :
    Counted (d.operate operation).2.handedBack (if d.finishesReset operation then 1 else 0) d
      (d.operate operation).1 := by
  by_cases finishes : d.finishesReset operation = true
  · rw [if_pos finishes]
    exact operate_finishing finishes
  · rw [if_neg finishes]
    exact operate_unfinishing (Bool.eq_false_iff.mpr finishes)

theorem resume_counted (d : Device) (urb : Urb) : Counted [] 0 d (d.resume urb) :=
  (bulkIn_counted d urb).apply

theorem foldl_resume_counted (d : Device) (urbs : List Urb) :
    Counted [] 0 d (urbs.foldl resume d) := by
  induction urbs generalizing d with
  | nil => exact .refl d
  | cons urb rest ih => exact (resume_counted d urb).after_still (ih (d.resume urb))

def endsReset (d : Device) (command : Command) : Bool :=
  d.slot = .executing command.generation && d.pendingReset.isSome

theorem caughtUp_counted (d : Device) (command : Command) (completion : Completion)
    (reads : List Urb) : Counted [] 0 d (d.caughtUp command completion reads) := by
  have emptied : Counted [] 0 d { d.heard command completion with parked := .empty } :=
    (d.heard_frame command completion).counted.after_still (.still ⟨rfl, rfl, rfl⟩ rfl)
  exact emptied.after_still (foldl_resume_counted _ reads)

theorem settle_counted (d : Device) (command : Command) (completion : Completion) :
    Counted [] (if d.endsReset command then 1 else 0) d (d.settle command completion) := by
  by_cases executing : d.slot = .executing command.generation
  · have caughtUp := d.caughtUp_counted command completion d.parked.toList
    have ends : d.endsReset command = d.pendingReset.isSome := by simp [endsReset, executing]
    rw [settle_eq completion executing, ends]
    split
    · exact caughtUp.after_still (finishReset_counted _ .bulkOnly)
    · exact caughtUp
  · have stale : d.endsReset command = false := by simp [endsReset, executing]
    rw [settle_stale completion executing, stale]
    exact .still ⟨rfl, rfl, rfl⟩ rfl

-- A command is issued only by a device that is idle, and no reset waits in it then.
theorem operate_issues_nothing_waits (operation : Device.Operation) (released : d.submissions = [])
    (idle : d.slot.generation? = none → d.pendingReset = none) :
    (d.operate operation).1.submissions = [] ∨ (d.operate operation).1.pendingReset = none := by
  rcases operate_issues d operation with same | ⟨address, urb, rfl, taken⟩
  · exact .inl (same.trans released)
  rcases dispatch_handover d address urb with same | ⟨t, unoccupied⟩ | ⟨generation, -, -, -, same⟩
  · exact .inl (same.submissions.trans released)
  · right
    cases taken with
    | completed e frame same =>
      simp only [operate, same]
      exact frame.pendingReset.trans (idle unoccupied)
    | parked e frame same =>
      simp only [operate, same]
      exact frame.pendingReset.trans (idle unoccupied)
  · exact .inl (same.trans released)

end Device

namespace System

open Device

variable {s : System}

theorem release_counted (s : System)
    (waits : s.device.submissions = [] ∨ s.device.pendingReset = none) (answer : Answer) :
    Counted [] 0 s.device (s.release answer).system.device := by
  rcases waits with nothing | nothing
  · rw [release_nothing nothing]
    exact .still ⟨rfl, rfl, rfl⟩ rfl
  have durable : Durable (fun e => Counted [] 0 s.device e ∧ e.pendingReset = none)
      fun _ => True :=
    { told := fun d events ⟨counted, nothing⟩ =>
        ⟨counted.then_still (.still ⟨rfl, rfl, rfl⟩ rfl), nothing⟩
      drained := fun d ⟨counted, nothing⟩ =>
        ⟨counted.then_still (.still ⟨rfl, rfl, rfl⟩ rfl), nothing⟩
      issued := fun _ _ _ _ => trivial
      ended := fun d command completion _ ⟨counted, nothing⟩ => by
        have settled := d.settle_counted command completion
        have unfinished : d.endsReset command = false := by simp [endsReset, nothing]
        rw [unfinished] at settled
        exact ⟨counted.then_still settled, (settle_no_reset_waits nothing command completion).1⟩ }
  exact (durable.release ⟨.refl s.device, nothing⟩ (fun _ _ => trivial) answer).1.1

def finishesReset (s : System) (turn : Turn) : Bool :=
  s.condition = .working &&
    match turn.operation with
    | .device operation => s.device.finishesReset operation
    | .complete index _ => s.waiting[index]?.any s.device.endsReset
    | .remove => false

def finishedResets (s : System) : List Turn → Nat
  | [] => 0
  | turn :: rest =>
    (if s.finishesReset turn then 1 else 0) + (s.turn turn).system.finishedResets rest

theorem not_finishesReset_of_unheard {turn : Turn}
    (unheard : Unheard { s with target := turn.target } turn.operation) :
    s.finishesReset turn = false := by
  obtain ⟨operation, target⟩ := turn
  by_cases working : s.condition = .working
  · cases operation with
    | device operation => exact absurd rfl (unheard.asks working operation)
    | complete index completion =>
      have missing : s.waiting[index]? = none := unheard.ends working index completion rfl
      simp [finishesReset, missing]
    | remove => simp [finishesReset]
  · simp [finishesReset, working]

theorem turn_counted (reached : s.condition = .working → s.Reached) (turn : Turn) :
    Counted (s.turn turn).answer.handedBack (if s.finishesReset turn then 1 else 0) s.device
      (s.turn turn).system.device := by
  rcases perform_cases { s with target := turn.target } turn.operation with
    ⟨operation, asked, working, performed⟩ |
    ⟨index, completion, command, asked, working, found, performed⟩ | unheard
  · have working : s.condition = .working := working
    have finishes : s.finishesReset turn = s.device.finishesReset operation := by
      simp [finishesReset, working, asked]
    have waits := operate_issues_nothing_waits operation (reached working).released
      (reached working).no_reset_waits
    have operated := s.device.operate_counted operation
    have released := release_counted
      { s with
        target := turn.target
        device := (s.device.operate operation).1
        condition := if (s.device.operate operation).2 = .dispatched .faulted then .broken
          else s.condition }
      waits (s.device.operate operation).2
    have report : s.turn turn = _ := performed
    rw [report, finishes]
    exact operated.then_still released
  · have working : s.condition = .working := working
    have found : s.waiting[index]? = some command := found
    have finishes : s.finishesReset turn = s.device.endsReset command := by
      simp [finishesReset, working, asked, found]
    have settled := s.device.settle_counted command completion
    have nothing : (s.device.settle command completion).submissions = [] :=
      (settle_submissions _ _ _).trans (reached working).released
    have released := release_counted
      { s with
        target := turn.target
        device := s.device.settle command completion
        waiting := s.waiting.eraseIdx index }
      (.inl nothing) .done
    have report : s.turn turn = _ := performed
    rw [report, finishes]
    exact settled.then_still released
  · rw [not_finishesReset_of_unheard unheard]
    have device : (s.turn turn).system.device = s.device := unheard.device
    have handedBack : (s.turn turn).answer.handedBack = [] := unheard.handedBack
    rw [device, handedBack]
    exact .refl s.device

theorem play_counted (reached : s.condition = .working → s.Reached) (turns : List Turn) :
    Counted (s.reaped turns) (s.finishedResets turns) s.device (s.play turns).device := by
  induction turns generalizing s with
  | nil => exact .refl s.device
  | cons turn rest ih =>
    exact (turn_counted reached turn).trans (ih (Reached.turn reached))

end System

namespace Device

variable {d : Device}

structure SameCounts (d e : Device) : Prop where
  stalls : e.statistics.stalls = d.statistics.stalls
  cancelled : e.statistics.cancelled = d.statistics.cancelled
  resets : e.statistics.resets = d.statistics.resets

def Operation.countsNothing : Device.Operation → Bool
  | .dispatch .. | .cancel _ | .reset | .setConfiguration _ => false
  | _ => true

theorem operate_sameCounts {operation : Device.Operation}
    (nothing : operation.countsNothing = true) :
    (d.operate operation).1.statistics = d.statistics := by
  by_cases steers : (Operation.device operation).steers = true
  case neg =>
    obtain ⟨rest, same, -⟩ := operate_looks (Bool.eq_false_iff.mpr steers) d
    rw [same]
  cases operation with
  | dispatch _ _ | cancel _ | reset | setConfiguration _ => cases nothing
  | clearHalt address =>
    simp only [operate, clearHalt]
    split <;> rfl
  | restore saved =>
    simp only [operate]
    split
    next restored =>
      obtain ⟨slot, -, -, rfl⟩ := restore_eq_ok_iff.mp restored
      rfl
    next => rfl
  | setDescriptors table => rfl
  | wakeUp | isHalted _ | isIdle | reap | poll | reapAll | stream _ | save | describe =>
    cases steers

end Device

namespace System

open Device

variable {s : System}

theorem turn_sameCounts (released : s.condition = .working → s.device.submissions = [])
    {operation : Device.Operation} (nothing : operation.countsNothing = true) (target : Target) :
    s.device.SameCounts (s.turn ⟨.device operation, target⟩).system.device := by
  rcases perform_cases { s with target } (.device operation) with
    ⟨asked, same, working, performed⟩ | ⟨index, completion, command, same, -⟩ | unheard
  · cases same
    have statistics := operate_sameCounts (d := s.device) nothing
    have unissued : (s.device.operate operation).1.submissions = [] := by
      rcases operate_issues s.device operation with same | ⟨address, urb, rfl, -⟩
      · exact same.trans (released working)
      · cases nothing
    have report : s.turn ⟨.device operation, target⟩ = _ := performed
    rw [report, release_nothing unissued]
    exact ⟨congrArg _ statistics, congrArg _ statistics, congrArg _ statistics⟩
  · cases same
  · have device : (s.turn ⟨.device operation, target⟩).system.device = s.device := unheard.device
    rw [device]
    exact ⟨rfl, rfl, rfl⟩

theorem turn_late_sameCounts (released : s.condition = .working → s.device.submissions = [])
    {index : Nat} (late : s.condition = .working → ∀ command, s.waiting[index]? = some command →
      s.device.slot ≠ .executing command.generation)
    (completion : Completion) (target : Target) :
    s.device.SameCounts (s.turn ⟨.complete index completion, target⟩).system.device := by
  rcases perform_cases { s with target } (.complete index completion) with
    ⟨asked, same, -⟩ | ⟨index', completion', command, same, working, found, -⟩ | unheard
  · cases same
  · cases same
    rw [turn_completing (s := s) found working (released working),
      settle_stale completion (late working command found)]
    exact ⟨rfl, rfl, rfl⟩
  · have device : (s.turn ⟨.complete index completion, target⟩).system.device = s.device :=
      unheard.device
    rw [device]
    exact ⟨rfl, rfl, rfl⟩

structure CountsUp (start : System) (turns : List Turn) : Prop where
  stalls : (start.play turns).device.statistics.stalls = withStatus .stall (start.returned turns)
  cancelled :
    (start.play turns).device.statistics.cancelled = withStatus .cancelled (start.returned turns)
  resets : (start.play turns).device.statistics.resets = start.finishedResets turns
  spared : ∀ operation target, operation.countsNothing = true →
    (start.play turns).device.SameCounts
      ((start.play turns).turn ⟨.device operation, target⟩).system.device
  late : ∀ index command completion target, (start.play turns).waiting[index]? = some command →
    command.generation ∈ start.abandoned turns →
    (start.play turns).device.SameCounts
      ((start.play turns).turn ⟨.complete index completion, target⟩).system.device

theorem statistics_count (settings : Settings) (location : String) (target : Target)
    (turns : List Turn) : CountsUp (create settings location target) turns := by
  have fresh : (create settings location target).Reached :=
    ⟨settings, location, target, [], rfl, rfl⟩
  have released (working : ((create settings location target).play turns).condition = .working) :
      ((create settings location target).play turns).device.submissions = [] :=
    (fresh.play working).released
  obtain ⟨stalls, cancelled, resets⟩ := play_counted (fun _ => fresh) turns
  have none_done (status : Urb.Status) :
      withStatus status (create settings location target).device.done.toList = 0 := rfl
  rw [none_done] at stalls cancelled
  refine ⟨stalls.trans (Nat.zero_add _), cancelled.trans (Nat.zero_add _),
    resets.trans (Nat.zero_add _), ?_, ?_⟩
  · intro operation target' nothing
    exact turn_sameCounts released nothing target'
  · intro index command completion target' found given
    refine turn_late_sameCounts released ?_ completion target'
    intro working other same executing
    rw [found] at same
    cases same
    have ledger := play_ledger settings location target turns working
    exact (ledger.executing_own executing).2 given

example :
    ((create {} "lun0" .holds).play (readAndResetWait ++ [{ operation := .device .reset },
      { operation := .complete 0 {} }])).device.statistics.resets = 1 := by decide

end System

end BulkOnly
