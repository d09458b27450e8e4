import BulkOnly.Proofs.Conservation
import BulkOnly.Proofs.ParkedReads
import BulkOnly.Proofs.Requests

set_option autoImplicit false

namespace BulkOnly

theorem Halts.raise_halted {halts : Halts} {pipe : Pipe} (halted : halts.get pipe = true) :
    halts.raise [pipe] = halts := by
  obtain ⟨control, bulkIn, bulkOut⟩ := halts
  cases pipe <;> simp_all [Halts.get, Halts.raise, Halts.set]

namespace Device

variable {d e f : Device} {pipe : Pipe}

def TurnsAway (d : Device) (urbs : List Urb) (e : Device) : Prop :=
  e = { d with
    done := ⟨d.done.toList ++ urbs.map (·.finished .stall)⟩
    statistics.stalls := d.statistics.stalls + urbs.length
    limiter := e.limiter
    events := e.events }

theorem TurnsAway.trans {urbs later : List Urb} (first : d.TurnsAway urbs e)
    (second : e.TurnsAway later f) : d.TurnsAway (urbs ++ later) f := by
  unfold TurnsAway at first second ⊢
  rw [second, first]
  simp [Nat.add_assoc]

theorem stall_turnsAway {halting : List Pipe} (same : d.halts.raise halting = d.halts)
    (about : Complaint) (urb : Urb) : d.TurnsAway [urb] ((d.complain about).stall urb halting) := by
  unfold TurnsAway stall
  rw [show (d.complain about).halts = d.halts from rfl, same]
  rfl

theorem bulkIn_halted (halted : d.halts.bulkIn = true) (urb : Urb) :
    ∃ about halting, d.bulkIn urb = (d.complain about, .stall urb halting) ∧
      d.halts.raise halting = d.halts := by
  unfold bulkIn
  by_cases wrong : urb.direction ≠ .toHost
  · rw [if_pos wrong]
    exact ⟨_, _, rfl, Halts.raise_halted halted⟩
  · rw [if_neg wrong, if_pos halted]
    exact ⟨_, _, rfl, rfl⟩

theorem bulkOut_halted (halted : d.halts.bulkOut = true) (urb : Urb) :
    ∃ about halting, d.bulkOut urb = (d.complain about, .stall urb halting) ∧
      d.halts.raise halting = d.halts := by
  unfold bulkOut
  by_cases wrong : urb.direction ≠ .toDevice
  · rw [if_pos wrong]
    exact ⟨_, _, rfl, Halts.raise_halted halted⟩
  · rw [if_neg wrong, if_pos halted]
    exact ⟨_, _, rfl, rfl⟩

theorem dispatch_halted (bulk : pipe ≠ .control) (halted : d.halts.get pipe = true)
    {address : UInt8} (reaches : Pipe.ofAddress? address = some pipe) (urb : Urb) :
    d.TurnsAway [urb] (d.dispatch address urb).1 ∧ (d.dispatch address urb).2 = .stalled := by
  unfold dispatch handle
  rw [reaches]
  cases pipe with
  | control => exact absurd rfl bulk
  | bulkIn =>
    obtain ⟨about, halting, refused, same⟩ := bulkIn_halted halted urb
    rw [refused]
    exact ⟨stall_turnsAway same about urb, rfl⟩
  | bulkOut =>
    obtain ⟨about, halting, refused, same⟩ := bulkOut_halted halted urb
    rw [refused]
    exact ⟨stall_turnsAway same about urb, rfl⟩

theorem TurnsAway.halts {urbs : List Urb} (away : d.TurnsAway urbs e) : e.halts = d.halts := by
  rw [away]

theorem foldl_resume_halted (halted : d.halts.bulkIn = true) (urbs : List Urb) :
    d.TurnsAway urbs (urbs.foldl resume d) := by
  have reaches : Pipe.ofAddress? Pipe.bulkIn.address = some .bulkIn := rfl
  induction urbs generalizing d with
  | nil => simp [TurnsAway]
  | cons urb rest ih =>
    have first : d.TurnsAway [urb] (d.resume urb) :=
      (dispatch_halted (show Pipe.bulkIn ≠ .control by decide) halted reaches urb).1
    have still : (d.resume urb).halts.bulkIn = true := by rw [first.halts, halted]
    exact first.trans (ih still)

-- The first read to find the pipe halted is the first of all that are turned away.
theorem settle_halted {command : Command} (completion : Completion)
    (executing : d.slot = .executing command.generation) {earlier later : List Urb}
    (parked : d.parked.toList = earlier ++ later)
    (halted : (d.caughtUp command completion earlier).halts.bulkIn = true) :
    ∃ e, (d.caughtUp command completion earlier).TurnsAway later e ∧
      d.settle command completion =
        if d.pendingReset.isSome then e.finishReset .bulkOnly else e := by
  refine ⟨_, foldl_resume_halted halted later, ?_⟩
  rw [settle_eq completion executing, parked, caughtUp, List.foldl_append]
  rfl

theorem running_of_complete {address : UInt8} {urb moved : Urb} (bulk : pipe ≠ .control)
    (reaches : Pipe.ofAddress? address = some pipe)
    (completes : (d.handle address urb).2 = .complete moved) : d.halts.get pipe = false := by
  rw [← Bool.not_eq_true]
  intro halted
  have refused := (dispatch_halted bulk halted reaches urb).2
  rw [dispatch, completes] at refused
  cases refused

inductive Releases (d : Device) (pipe : Pipe) : Device.Operation → Prop where
  | clearHalt {address : UInt8} (reaches : Pipe.ofAddress? address = some pipe) :
    d.Releases pipe (.clearHalt address)
  | feature {address named : UInt8} {urb : Urb}
    (requests : urb.Requests address (.haltFeature pipe named false)) :
    d.Releases pipe (.dispatch address urb)
  | restore {saved : SavedState} {restored : Device} (accepted : d.restore saved = .ok restored) :
    d.Releases pipe (.restore saved)

structure Lasts (pipe : Pipe) (d e : Device) : Prop where
  resets : d.statistics.resets ≤ e.statistics.resets
  halted : e.statistics.resets = d.statistics.resets → d.halts.get pipe = true →
    e.halts.get pipe = true

namespace Lasts

theorem of_halted (resets : e.statistics.resets = d.statistics.resets)
    (halted : d.halts.get pipe = true → e.halts.get pipe = true) : Lasts pipe d e :=
  ⟨Nat.le_of_eq resets.symm, fun _ => halted⟩

theorem still (resets : e.statistics.resets = d.statistics.resets) (halts : e.halts = d.halts) :
    Lasts pipe d e := .of_halted resets (by rw [halts]; exact id)

theorem refl (d : Device) : Lasts pipe d d := .still rfl rfl

theorem of_reset (resets : d.statistics.resets < e.statistics.resets) : Lasts pipe d e :=
  ⟨Nat.le_of_lt resets, fun same => absurd same (Nat.ne_of_gt resets)⟩

theorem trans (first : Lasts pipe d e) (second : Lasts pipe e f) : Lasts pipe d f := by
  have up := first.resets
  have up' := second.resets
  refine ⟨Nat.le_trans up up', fun same halted => ?_⟩
  exact second.halted (by omega) (first.halted (by omega) halted)

end Lasts

theorem SameSurroundings.lasts (same : SameSurroundings d e) : Lasts pipe d e :=
  .still (by rw [same.statistics]) same.halts

theorem stall_lasts (d : Device) (urb : Urb) (halting : List Pipe) :
    Lasts pipe d (d.stall urb halting) := by
  refine .of_halted rfl fun halted => ?_
  change (d.halts.raise halting).get pipe = true
  rw [Halts.get_raise, halted, Bool.true_or]

theorem finishReset_lasts (d : Device) (kind : Reset) : Lasts pipe d (d.finishReset kind) := by
  rw [finishReset_eq]
  exact .of_reset (Nat.lt_succ_self _)

theorem resetAs_lasts (d : Device) (kind : Reset) : Lasts pipe d (d.resetAs kind) := by
  have abandoned : Lasts pipe d d.abandon := by
    unfold abandon
    split <;> exact .still rfl rfl
  exact abandoned.trans (finishReset_lasts _ kind)

theorem apply_lasts (d : Device) (disposition : Disposition) :
    Lasts pipe d (d.apply disposition).1 := by
  cases disposition with
  | stall urb halting => exact stall_lasts d urb halting
  | reconfigure urb value => exact (resetAs_lasts d _).trans (.still rfl rfl)
  | complete _ | park _ | hold _ | fault => exact .still rfl rfl

theorem bulkOnlyReset_lasts (d : Device) (urb : Urb) : Lasts pipe d (d.bulkOnlyReset urb).1 := by
  have began : Lasts pipe d (d.log .bulkOnlyReset) := .still rfl rfl
  simp only [bulkOnlyReset]
  split
  · split <;> exact .still rfl rfl
  · exact began.trans (finishReset_lasts _ _)

theorem serve_lasts (d : Device) {request : ControlRequest}
    (keeps : ∀ named, request ≠ .haltFeature pipe named false) (setup : Setup) (urb : Urb) :
    Lasts pipe d (d.serve request setup urb).1 := by
  cases request with
  | bulkOnlyReset => exact bulkOnlyReset_lasts d urb
  | haltFeature other named halt =>
    refine .of_halted rfl fun halted => ?_
    change (d.halts.set other halt).get pipe = true
    rw [Halts.get_set]
    split
    next same =>
      subst same
      cases halt with
      | true => rfl
      | false => exact absurd rfl (keeps named)
    next => exact halted
  | descriptor kind index language =>
    simp only [serve]
    split <;> exact .still rfl rfl
  | configure value =>
    simp only [serve]
    split <;> exact .still rfl rfl
  | maxLun | deviceStatus | haltStatus _ | remoteWakeup | configuration | interface
  | selectInterface => exact .refl d

theorem control_lasts (bulk : pipe ≠ .control) {urb : Urb}
    (keeps : ∀ named, (Setup.parse? urb.payload).bind ControlRequest.ofSetup? ≠
      some (.haltFeature pipe named false)) :
    Lasts pipe d (d.control urb).1 := by
  have running : Lasts pipe d { d with halts := d.halts.set .control false } := by
    refine .of_halted rfl fun halted => ?_
    rw [Halts.get_set, if_neg bulk, halted]
  have asked (setup : Setup) : Lasts pipe d
      (log { d with halts := d.halts.set .control false } (.controlRequest setup)) :=
    running.trans (.still rfl rfl)
  simp only [control]
  split
  · exact running.trans (.still rfl rfl)
  next setup parsed =>
    split
    · exact (asked setup).trans (.still rfl rfl)
    next request known =>
      refine (asked setup).trans (serve_lasts _ (fun named same => ?_) setup urb)
      exact keeps named (by rw [parsed, Option.bind_some, known, same])

theorem dispatch_lasts (bulk : pipe ≠ .control) {address : UInt8} {urb : Urb}
    (keeps : ¬ d.Releases pipe (.dispatch address urb)) :
    Lasts pipe d (d.dispatch address urb).1 := by
  have handled : Lasts pipe d (d.handle address urb).1 := by
    simp only [handle]
    split
    next reaches =>
      exact control_lasts bulk fun named asks => keeps (.feature ⟨reaches, asks⟩)
    next => exact (bulkOut_frame d urb).lasts
    next => exact (bulkIn_frame d urb).lasts
    next => exact .still rfl rfl
  exact handled.trans (apply_lasts _ _)

theorem resume_lasts (d : Device) (urb : Urb) : Lasts pipe d (d.resume urb) :=
  (bulkIn_frame d urb).lasts.trans (apply_lasts _ _)

theorem foldl_resume_lasts (d : Device) (urbs : List Urb) :
    Lasts pipe d (urbs.foldl resume d) := by
  induction urbs generalizing d with
  | nil => exact .refl d
  | cons urb rest ih => exact (resume_lasts d urb).trans (ih _)

theorem settle_lasts (d : Device) (command : Command) (completion : Completion) :
    Lasts pipe d (d.settle command completion) := by
  by_cases executing : d.slot = .executing command.generation
  · have back : Lasts pipe d (d.heard command completion) := (d.heard_frame _ _).lasts
    have emptied : Lasts pipe (d.heard command completion)
        { d.heard command completion with parked := .empty } := .still rfl rfl
    have resumed : Lasts pipe d (d.caughtUp command completion d.parked.toList) :=
      (back.trans emptied).trans (foldl_resume_lasts _ _)
    rw [settle_eq completion executing]
    split
    · exact resumed.trans (finishReset_lasts _ _)
    · exact resumed
  · rw [settle_stale completion executing]
    exact .still rfl rfl

theorem cancel_lasts (d : Device) (id : Nat) : Lasts pipe d (d.cancel id) := by
  simp only [cancel]
  split
  · exact .still rfl rfl
  split
  · exact .still rfl rfl
  split <;> exact .still rfl rfl

theorem operate_lasts (bulk : pipe ≠ .control) {operation : Device.Operation}
    (keeps : ¬ d.Releases pipe operation) : Lasts pipe d (d.operate operation).1 := by
  cases operation with
  | dispatch address urb => exact dispatch_lasts bulk keeps
  | cancel id => exact cancel_lasts d id
  | reset =>
    have began : Lasts pipe d (d.log .deviceReset) := .still rfl rfl
    exact began.trans (resetAs_lasts _ .device)
  | setConfiguration value =>
    simp only [operate, setConfiguration]
    split
    · exact resetAs_lasts d _
    · exact .still rfl rfl
  | clearHalt address =>
    simp only [operate, clearHalt]
    split
    next other reaches =>
      refine .of_halted rfl fun halted => ?_
      have unlike : pipe ≠ other := by
        rintro rfl
        exact keeps (.clearHalt reaches)
      change (d.halts.set other false).get pipe = true
      rw [Halts.get_set, if_neg unlike, halted]
    next => exact .refl d
  | restore saved =>
    cases accepted : d.restore saved with
    | ok e => exact absurd (.restore accepted) keeps
    | error cause =>
      simp only [operate, accepted]
      exact .refl d
  | reap | poll =>
    simp only [operate]
    split
    next taken =>
      obtain ⟨rest, -, rfl⟩ := reap?_eq_some_iff.mp taken
      exact .still rfl rfl
    next => exact .refl d
  | save =>
    simp only [operate]
    split <;> exact .refl d
  | wakeUp | isHalted _ | isIdle | reapAll | stream _ | setDescriptors _ | describe =>
    exact .still rfl rfl

end Device

namespace System

open Device

variable {s : System} {pipe : Pipe}

theorem release_lasts (s : System) (answer : Answer) :
    Lasts pipe s.device (s.release answer).system.device := by
  have durable : Durable (Lasts pipe s.device) fun _ => True :=
    { told := fun d events lasts => lasts.trans (.still rfl rfl)
      drained := fun d lasts => lasts.trans (.still rfl rfl)
      issued := fun _ _ _ _ => trivial
      ended := fun d command completion _ lasts => lasts.trans (settle_lasts d command completion) }
  exact (durable.release (.refl s.device) (fun _ _ => trivial) answer).1

def Releases (s : System) (pipe : Pipe) (turn : Turn) : Prop :=
  (∃ operation, turn.operation = .device operation ∧ s.device.Releases pipe operation) ∨
    s.device.statistics.resets < (s.turn turn).system.device.statistics.resets

theorem perform_lasts (bulk : pipe ≠ .control) {operation : Operation}
    (keeps : ∀ asked, operation = .device asked → ¬ s.device.Releases pipe asked) :
    Lasts pipe s.device (s.perform operation).system.device := by
  rcases perform_cases s operation with ⟨asked, rfl, -, performed⟩ |
    ⟨index, completion, command, -, -, -, performed⟩ | unheard
  · rw [performed]
    refine .trans ?_ (release_lasts _ _)
    exact operate_lasts bulk (keeps asked rfl)
  · rw [performed]
    refine .trans ?_ (release_lasts _ _)
    exact settle_lasts s.device command completion
  · rw [unheard.device]
    exact .refl _

theorem turn_lasts (bulk : pipe ≠ .control) {turn : Turn}
    (keeps : ∀ operation, turn.operation = .device operation →
      ¬ s.device.Releases pipe operation) :
    Lasts pipe s.device (s.turn turn).system.device :=
  perform_lasts (s := { s with target := turn.target }) bulk keeps

theorem turn_keeps_halted (bulk : pipe ≠ .control) {turn : Turn} (keeps : ¬ s.Releases pipe turn)
    (halted : s.device.halts.get pipe = true) :
    (s.turn turn).system.device.halts.get pipe = true := by
  obtain ⟨operation, resets⟩ := not_or.mp keeps
  have lasts := turn_lasts bulk fun other same clears => operation ⟨other, same, clears⟩
  exact lasts.halted (Nat.le_antisymm (Nat.not_lt.mp resets) lasts.resets) halted

theorem play_keeps_halted (bulk : pipe ≠ .control) {turns : List Turn}
    (keeps : ∀ earlier turn later, turns = earlier ++ turn :: later →
      ¬ (s.play earlier).Releases pipe turn)
    (halted : s.device.halts.get pipe = true) :
    (s.play turns).device.halts.get pipe = true := by
  induction turns generalizing s with
  | nil => exact halted
  | cons turn rest ih =>
    have next := turn_keeps_halted bulk (keeps [] turn rest rfl) halted
    refine ih (fun earlier other later split => ?_) next
    exact keeps (turn :: earlier) other later (by rw [split, List.cons_append])

structure TurnsAway (s : System) (urb : Urb) (report : Report) : Prop where
  answer : report.answer = .dispatched .stalled
  submitted : report.submitted = []
  waiting : report.system.waiting = s.waiting
  device : s.device.TurnsAway [urb] report.system.device

theorem turn_halted (reached : s.Reached) (bulk : pipe ≠ .control)
    (halted : s.device.halts.get pipe = true) {address : UInt8}
    (reaches : Pipe.ofAddress? address = some pipe) (urb : Urb) (target : Target) :
    s.TurnsAway urb (s.turn ⟨.device (.dispatch address urb), target⟩) := by
  have released := reached.released
  have working := reached.working
  obtain ⟨away, stalled⟩ := dispatch_halted bulk halted reaches urb
  have nothing : (s.device.dispatch address urb).1.submissions = [] :=
    (congrArg submissions away).trans released
  rw [turn_dispatch working (by rw [stalled]; nofun) nothing, stalled]
  refine ⟨rfl, rfl, rfl, ?_⟩
  unfold Device.TurnsAway at away ⊢
  dsimp only
  rw [← released, away]

structure HoldsHalt (s : System) (pipe : Pipe) : Prop where
  lasting : ∀ turns : List Turn,
    (∀ earlier turn later, turns = earlier ++ turn :: later →
      ¬ (s.play earlier).Releases pipe turn) →
    s.device.halts.get pipe = true → (s.play turns).device.halts.get pipe = true
  dispatched : s.device.halts.get pipe = true →
    ∀ address urb target, Pipe.ofAddress? address = some pipe →
      s.TurnsAway urb (s.turn ⟨.device (.dispatch address urb), target⟩)
  -- A target may end a command in the turn that submits it, so here and below the device is any.
  resumed : pipe = .bulkIn → ∀ (d : Device) command completion earlier later,
    d.slot = .executing command.generation → d.parked.toList = earlier ++ later →
    (d.caughtUp command completion earlier).halts.bulkIn = true →
    ∃ e, (d.caughtUp command completion earlier).TurnsAway later e ∧
      d.settle command completion =
        if d.pendingReset.isSome then e.finishReset .bulkOnly else e
  completes : ∀ (d : Device) address urb moved, Pipe.ofAddress? address = some pipe →
    (d.handle address urb).2 = .complete moved → d.halts.get pipe = false

theorem halts_hold (reached : s.Reached) (bulk : pipe ≠ .control) : s.HoldsHalt pipe where
  lasting _ keeps halted := play_keeps_halted bulk keeps halted
  dispatched halted _ urb target reaches := turn_halted reached bulk halted reaches urb target
  resumed _ _ _ completion _ _ executing parked halted :=
    settle_halted completion executing parked halted
  completes _ _ _ _ reaches completes := running_of_complete bulk reaches completes

def haltedReads : List Turn :=
  [sendReadSix 1, readBulk 2 4, readBulk 3 13,
    { operation := .device (.dispatch 0x00 (.control 4
        { requestType := 0x02, request := 0x03, value := 0, index := 0x81, length := 0 } [])) }]

theorem halts_hold_haltedReads :
    ((create {} "lun0" .holds).play haltedReads).Reached ∧
      ((create {} "lun0" .holds).play haltedReads).device.halts.bulkIn = true ∧
      ((create {} "lun0" .holds).play haltedReads).device.parked.size = 2 ∧
      ((create {} "lun0" .holds).play haltedReads).HoldsHalt .bulkIn := by
  have reached : ((create {} "lun0" .holds).play haltedReads).Reached :=
    ⟨{}, "lun0", .holds, haltedReads, rfl, by decide⟩
  exact ⟨reached, by decide, by decide, halts_hold reached (by decide)⟩

end System

end BulkOnly
