import BulkOnly.Proofs.Isolation
import BulkOnly.Proofs.Past

set_option autoImplicit false

namespace BulkOnly

def Turn.read (target : Target) (urb : Urb) : Turn :=
  ⟨.device (.dispatch Pipe.bulkIn.address urb), target⟩

def Completion.ended (completion : Completion) (command : Command) : Transaction :=
  (completion.returned command).transaction.finished (completion.outcome command)

namespace Device

variable {d : Device}

theorem dispatch_read (d : Device) (urb : Urb) :
    d.dispatch Pipe.bulkIn.address urb = (d.bulkIn urb).1.apply (d.bulkIn urb).2 := rfl

theorem dispatch_executing (executing : d.slot.isExecuting = true)
    (running : d.halts.bulkIn = false) {urb : Urb} (direction : urb.direction = .toHost) :
    d.dispatch Pipe.bulkIn.address urb = ({ d with parked := d.parked.append urb }, .queued) := by
  have waits : d.bulkIn urb = (d, .park urb) := by
    cases slot : d.slot with
    | executing generation => simp [bulkIn, direction, running, slot]
    | vacant | held _ _ => simp [slot, Slot.isExecuting] at executing
  rw [dispatch_read, waits]
  rfl

def heard (d : Device) (command : Command) (completion : Completion) : Device :=
  takenBack { d with events := d.events ++ completion.events command }
    (completion.returned command).transaction (completion.outcome command)

theorem heard_eq (d : Device) (command : Command) (completion : Completion) :
    ∃ events, d.heard command completion =
      { d with
        slot := .held (completion.ended command).phaseAfter (completion.ended command)
        events } := by
  unfold heard takenBack
  split <;> exact ⟨_, rfl⟩

theorem heard_parked (d : Device) (command : Command) (completion : Completion)
    (parked : Urb.Queue) :
    heard { d with parked } command completion = { d.heard command completion with parked } := by
  unfold heard takenBack
  split <;> rfl

theorem heard_calm (d : Device) (command : Command) (completion : Completion) :
    (d.heard command completion).slot.Calm :=
  ⟨_, _, rfl, Transaction.phaseAfter_ne_dataFromHost _⟩

theorem heard_frame (d : Device) (command : Command) (completion : Completion) :
    SameSurroundings d (d.heard command completion) := by
  have told : SameSurroundings d { d with events := d.events ++ completion.events command } :=
    ⟨rfl, rfl, rfl, rfl, rfl, rfl, rfl, rfl⟩
  exact told.trans (takenBack_frame _ _ _)

variable {command : Command}

def caughtUp (d : Device) (command : Command) (completion : Completion) (reads : List Urb) :
    Device :=
  reads.foldl resume { d.heard command completion with parked := .empty }

theorem caughtUp_calm (d : Device) (command : Command) (completion : Completion)
    (reads : List Urb) :
    (d.caughtUp command completion reads).slot.Calm ∧
      (d.caughtUp command completion reads).parked = .empty ∧
      (d.caughtUp command completion reads).pendingReset = d.pendingReset := by
  have resumed := foldl_resume_calm (d := { d.heard command completion with parked := .empty })
    (d.heard_calm command completion) reads
  exact ⟨resumed.calm, resumed.parked,
    resumed.pendingReset.trans (d.heard_frame command completion).pendingReset⟩

theorem settle_eq (completion : Completion) (executing : d.slot = .executing command.generation) :
    d.settle command completion =
      if d.pendingReset.isSome then
        (d.caughtUp command completion d.parked.toList).finishReset .bulkOnly
      else d.caughtUp command completion d.parked.toList := by
  have frame := d.heard_frame command completion
  have resumed : (d.heard command completion).resumeParked =
      d.caughtUp command completion d.parked.toList := by
    rw [resumeParked, frame.parked]
    rfl
  obtain ⟨-, -, waits⟩ := d.caughtUp_calm command completion d.parked.toList
  rw [settle_executing completion executing, concluded_eq, ← heard, resumed, waits]

theorem settle_resumes (completion : Completion)
    (executing : d.slot = .executing command.generation) (nothing : d.pendingReset = none) :
    d.settle command completion =
      d.parked.toList.foldl resume { d.heard command completion with parked := .empty } := by
  rw [settle_eq completion executing, nothing]
  rfl

theorem settle_no_reset_waits (nothing : d.pendingReset = none) (command : Command)
    (completion : Completion) :
    (d.settle command completion).pendingReset = none ∧
      (d.settle command completion).statistics.resets = d.statistics.resets := by
  by_cases executing : d.slot = .executing command.generation
  · refine ⟨(settle_concludes completion executing).pendingReset, ?_⟩
    rw [settle_resumes completion executing nothing, foldl_resume_resets]
    exact (heard_frame d command completion).resets
  · rw [settle_stale completion executing]
    exact ⟨nothing, rfl⟩

theorem settle_parked (completion : Completion)
    (executing : d.slot = .executing command.generation) (nothing : d.pendingReset = none)
    (urbs : List Urb) :
    settle { d with parked := ⟨d.parked.toList ++ urbs⟩ } command completion =
      urbs.foldl resume (d.settle command completion) := by
  rw [settle_resumes completion executing nothing,
    settle_resumes (d := { d with parked := ⟨d.parked.toList ++ urbs⟩ }) completion executing
      nothing,
    heard_parked, List.foldl_append]

-- Between two operations the log is told. That is all in which reads differ from parked reads.
theorem foldl_resume_told (d : Device) (urbs : List Urb) :
    urbs.foldl resume d =
      withPast (urbs.foldl resume { d with events := [] }) d.events 0 := by
  rw [← foldl_resume_withPast, withPast_events]

end Device

namespace System

open Device

variable {s : System}

theorem turn_read_parked (working : s.condition = .working)
    (executing : s.device.slot.isExecuting = true) (running : s.device.halts.bulkIn = false)
    (released : s.device.submissions = []) {urb : Urb} (direction : urb.direction = .toHost)
    (target : Target) :
    s.turn (.read target urb) =
      { system := { s with
          target
          device := { s.device with
            parked := s.device.parked.append urb, submissions := [], events := [] } }
        answer := .dispatched .queued
        events := s.device.events } := by
  have queued := dispatch_executing executing running direction
  simp [turn, Turn.read, perform, working, operate, Device.operate, queued, release, released]

theorem turn_read_resumed (working : s.condition = .working) (calm : s.device.slot.Calm)
    (released : s.device.submissions = []) (target : Target) (urb : Urb) :
    (s.turn (.read target urb)).system =
        { s with target, device := { s.device.resume urb with events := [] } } ∧
      (s.turn (.read target urb)).submitted = [] ∧
      (s.turn (.read target urb)).events = (s.device.resume urb).events := by
  have nothing : (s.device.resume urb).submissions = [] :=
    (resume_calm calm urb).same.submissions.trans released
  have fine : (s.device.dispatch Pipe.bulkIn.address urb).2 ≠ .faulted := by
    rw [dispatch_read]
    rcases bulkIn_decides s.device urb with ⟨halting, stalled⟩ | ⟨bytes, completed⟩ | parked
    · rw [stalled]
      nofun
    · rw [completed]
      nofun
    · rw [parked]
      nofun
  rw [Turn.read, turn_dispatch working fine nothing]
  refine ⟨?_, rfl, rfl⟩
  rw [← nothing]
  rfl

theorem play_reads_parked {target : Target} (working : s.condition = .working)
    (executing : s.device.slot.isExecuting = true) (running : s.device.halts.bulkIn = false)
    (released : s.device.submissions = []) (silent : s.device.events = [])
    (same : s.target = target) {urbs : List Urb}
    (reads : ∀ urb ∈ urbs, urb.direction = .toHost) :
    s.play (urbs.map (.read target)) =
        { s with device.parked := ⟨s.device.parked.toList ++ urbs⟩ } ∧
      s.outcomes (urbs.map (.read target)) = List.replicate urbs.length .queued ∧
      s.submitted (urbs.map (.read target)) = [] ∧
      s.told (urbs.map (.read target)) = [] := by
  induction urbs generalizing s with
  | nil => simp [outcomes, submitted, told, reports]
  | cons urb rest ih =>
    obtain ⟨direction, others⟩ := List.forall_mem_cons.mp reads
    have first := turn_read_parked working executing running released direction target
    obtain ⟨played, outcomes, submitted, told⟩ := ih
      (s := { s with
        target
        device := { s.device with
          parked := s.device.parked.append urb, submissions := [], events := [] } })
      working executing running rfl rfl rfl others
    rw [List.map_cons, play_cons, outcomes_cons, submitted_cons, told_cons, first]
    refine ⟨?_, ?_, submitted, ?_⟩
    · rw [played, ← same, ← released, ← silent]
      simp
    · rw [outcomes]
      rfl
    · rw [told, silent]
      rfl

-- Each read finds the device as it would have found it in the queue, but for the log.
theorem play_reads_resumed {target : Target} (working : s.condition = .working)
    (calm : s.device.slot.Calm) (released : s.device.submissions = [])
    (silent : s.device.events = []) (same : s.target = target) (urbs : List Urb) :
    s.play (urbs.map (.read target)) =
        { s with device := { urbs.foldl resume s.device with events := [] } } ∧
      s.submitted (urbs.map (.read target)) = [] ∧
      s.told (urbs.map (.read target)) = (urbs.foldl resume s.device).events := by
  induction urbs generalizing s with
  | nil => simp [submitted, told, reports, ← silent]
  | cons urb rest ih =>
    obtain ⟨system, submitted, events⟩ := turn_read_resumed working calm released target urb
    have stays := resume_calm calm urb
    obtain ⟨played, submitted', told⟩ := ih
      (s := { s with target, device := { s.device.resume urb with events := [] } })
      working stays.calm (stays.same.submissions.trans released) rfl rfl
    have later := foldl_resume_told (s.device.resume urb) rest
    rw [List.map_cons, play_cons, submitted_cons, told_cons, system, submitted, events, played,
      submitted', told, List.foldl_cons, later]
    refine ⟨?_, rfl, rfl⟩
    rw [← same]
    simp [withPast]

structure Unnoticed (s : System) (reads : List Turn) (ended : Turn) : Prop where
  queued : s.outcomes reads = List.replicate reads.length .queued
  system : s.play (reads ++ [ended]) = s.play (ended :: reads)
  submitted : s.submitted (reads ++ [ended]) = s.submitted (ended :: reads)
  told : s.told (reads ++ [ended]) = s.told (ended :: reads)

theorem reads_wait_unnoticed {s : System} (reached : s.Reached) {index : Nat} {command : Command}
    (found : s.waiting[index]? = some command)
    (executing : s.device.slot = .executing command.generation)
    (running : s.device.halts.bulkIn = false) (nothing : s.device.pendingReset = none)
    {urbs : List Urb} (reads : ∀ urb ∈ urbs, urb.direction = .toHost) (completion : Completion)
    (target : Target) :
    s.Unnoticed (urbs.map (.read target)) ⟨.complete index completion, target⟩ := by
  have released := reached.released
  have silent := reached.told
  obtain ⟨-, -, -, -, -, working⟩ := reached
  have busy : s.device.slot.isExecuting = true := by rw [executing]; rfl
  let here : System := { s with target }
  have same : here.Unnoticed (urbs.map (.read target)) ⟨.complete index completion, target⟩ := by
    have concluded := settle_concludes completion executing
    have nothing_left := concluded.submissions.trans released
    obtain ⟨parked, outcomes, submitted, told⟩ :=
      play_reads_parked (s := here) working busy running released silent rfl reads
    have late := turn_completing (s := { here with
      device.parked := ⟨s.device.parked.toList ++ urbs⟩ }) found working released completion target
    have early := turn_completing (s := here) found working released completion target
    obtain ⟨resumed, submitted', told'⟩ := play_reads_resumed
      (s := { here with
        device := { s.device.settle command completion with events := [] }
        waiting := s.waiting.eraseIdx index })
      working concluded.calm nothing_left rfl (show here.target = target from rfl) urbs
    have steps := foldl_resume_told (s.device.settle command completion) urbs
    rw [settle_parked completion executing nothing] at late
    constructor
    case queued => rw [outcomes, List.length_map]
    case system =>
      rw [play_append, parked, play_cons, play_nil, late, play_cons, early, resumed, steps]
      simp [withPast, here]
    case submitted =>
      rw [submitted_append, submitted, parked, submitted_cons, late, submitted_cons, early,
        submitted']
      rfl
    case told =>
      rw [told_append, told, parked, told_cons, late, told_cons, early, told', steps]
      exact List.append_nil _
  cases urbs with
  | nil => exact ⟨rfl, same.system, same.submitted, same.told⟩
  | cons urb rest => exact ⟨same.queued, same.system, same.submitted, same.told⟩

def oneReadAhead : List Turn := [sendReadSix 1, readBulk 2 2]

def laterReads : List Urb := [.bulkIn 3 8, .bulkIn 4 13, .bulkIn 5 13]

def threeBytes : Completion :=
  { data := [1, 2, 3], ending := .ended Scsi.Status.good (some 3) false }

theorem reads_wait_unnoticed_threeBytes :
    ((create {} "lun0" .holds).play oneReadAhead).Reached ∧
      ((create {} "lun0" .holds).play oneReadAhead).device.slot = .executing 0 ∧
      ((create {} "lun0" .holds).play oneReadAhead).Unnoticed (laterReads.map (.read .holds))
        ⟨.complete 0 threeBytes, .holds⟩ := by
  have reached : ((create {} "lun0" .holds).play oneReadAhead).Reached :=
    ⟨{}, "lun0", .holds, oneReadAhead, rfl, by decide⟩
  have found : ((create {} "lun0" .holds).play oneReadAhead).waiting[0]? =
      some ⟨0, ((({} : Transaction).opened readSix).started 4)⟩ := by decide
  refine ⟨reached, by decide, ?_⟩
  exact reads_wait_unnoticed reached found (by decide) (by decide) (by decide) (by decide)
    threeBytes .holds

end System

end BulkOnly
