import BulkOnly.Proofs.ParkedReads
import BulkOnly.Proofs.Requests

set_option autoImplicit false

namespace BulkOnly

theorem Halts.ext_get {halts other : Halts} (same : ∀ pipe, halts.get pipe = other.get pipe) :
    halts = other := by
  obtain ⟨control, bulkIn, bulkOut⟩ := halts
  obtain ⟨control', bulkIn', bulkOut'⟩ := other
  exact Halts.mk.injEq .. ▸ ⟨same .control, same .bulkIn, same .bulkOut⟩

theorem Halts.raise_set_control (halts : Halts) (control : Bool) (pipes : List Pipe) :
    (halts.set .control control).raise pipes =
      (halts.raise pipes).set .control (control || decide (Pipe.control ∈ pipes)) := by
  refine ext_get fun pipe => ?_
  rw [get_raise, get_set, get_set, get_raise]
  split
  next same => rw [same]
  next => rfl

def Disposition.OnBulk : Disposition → Prop
  | .complete _ | .stall .. | .park _ => True
  | .hold _ | .reconfigure .. | .fault => False

def Pipe.BulkAddress (address : UInt8) : Prop :=
  ofAddress? address = some .bulkIn ∨ ofAddress? address = some .bulkOut

def Turn.OnBulk (turn : Turn) : Prop :=
  ∃ address urb, turn.operation = .device (.dispatch address urb) ∧ Pipe.BulkAddress address

namespace Device

variable {d e : Device} {urb : Urb}

theorem handle_onBulk (d : Device) {address : UInt8} (bulk : Pipe.BulkAddress address)
    (other : Urb) : (d.handle address other).2.OnBulk := by
  unfold handle
  rcases bulk with reaches | reaches
  · rw [reaches]
    rcases bulkIn_decides d other with ⟨halting, stalled⟩ | ⟨bytes, completed⟩ | parked
    · exact stalled ▸ trivial
    · exact completed ▸ trivial
    · exact parked ▸ trivial
  · rw [reaches]
    rcases bulkOut_decides d other with ⟨halting, stalled⟩ | completed
    · exact stalled ▸ trivial
    · exact completed ▸ trivial

theorem Unseen.handle {change : Device → Device} (unseen : Unseen change) (d : Device)
    {address : UInt8} (bulk : Pipe.BulkAddress address) (other : Urb) :
    (change d).handle address other = (d.handle address other).map change id := by
  unfold Device.handle
  rcases bulk with reaches | reaches
  · rw [reaches]
    exact unseen.bulkIn d other
  · rw [reaches]
    exact unseen.bulkOut d other

def deferring (d : Device) (urb : Urb) (control : Bool) : Device :=
  { d with pendingReset := some urb, halts := d.halts.set .control control }

theorem deferring_unseen (urb : Urb) (control : Bool) : Unseen (deferring · urb control) where
  settings _ := rfl
  slot _ := rfl
  haltedIn _ := rfl
  haltedOut _ := rfl
  held _ _ _ := rfl
  log _ _ := rfl
  complain _ _ := rfl
  startCommand d t length := by
    unfold startCommand
    split <;> rfl

def Defers (urb : Urb) (d e : Device) : Prop := ∃ control, e = d.deferring urb control

theorem apply_defers (defers : Defers urb d e) {disposition : Disposition}
    (bulk : disposition.OnBulk) :
    Defers urb (d.apply disposition).1 (e.apply disposition).1 ∧
      (e.apply disposition).2 = (d.apply disposition).2 := by
  obtain ⟨control, rfl⟩ := defers
  cases disposition with
  | complete moved => exact ⟨⟨control, rfl⟩, rfl⟩
  | stall other halting =>
    refine ⟨⟨control || decide (Pipe.control ∈ halting), ?_⟩, rfl⟩
    simp only [apply, stall, deferring, Halts.raise_set_control]
    rfl
  | park other => exact ⟨⟨control, rfl⟩, rfl⟩
  | hold _ | reconfigure _ _ | fault => exact bulk.elim

theorem dispatch_defers (defers : Defers urb d e) {address : UInt8}
    (bulk : Pipe.BulkAddress address) (other : Urb) :
    Defers urb (d.dispatch address other).1 (e.dispatch address other).1 ∧
      (e.dispatch address other).2 = (d.dispatch address other).2 := by
  obtain ⟨control, rfl⟩ := defers
  simp only [dispatch, (deferring_unseen urb control).handle d bulk other]
  exact apply_defers ⟨control, rfl⟩ (handle_onBulk d bulk other)

theorem foldl_resume_defers (defers : Defers urb d e) (reads : List Urb) :
    Defers urb (reads.foldl resume d) (reads.foldl resume e) := by
  have bulk : Pipe.BulkAddress Pipe.bulkIn.address := .inl rfl
  induction reads generalizing d e with
  | nil => exact defers
  | cons read rest ih => exact ih (dispatch_defers defers bulk read).1

theorem caughtUp_defers (defers : Defers urb d e) (command : Command) (completion : Completion)
    (reads : List Urb) :
    Defers urb (d.caughtUp command completion reads) (e.caughtUp command completion reads) := by
  obtain ⟨control, rfl⟩ := defers
  refine foldl_resume_defers ⟨control, ?_⟩ reads
  unfold heard takenBack
  split <;> rfl

theorem finishReset_deferring (control : Bool) (nothing : d.pendingReset = none)
    (parked : d.parked = .empty) :
    (d.deferring urb control).finishReset .bulkOnly = (d.finishReset .bulkOnly).finish urb .ok := by
  simp [finishReset_eq, deferring, finish, nothing, parked, Urb.Queue.empty, Urb.Queue.append]

-- The reads that wait for the command are processed before the reset is.
theorem settle_defers (defers : Defers urb d e) {command : Command} (completion : Completion)
    (executing : d.slot = .executing command.generation) (nothing : d.pendingReset = none) :
    e.settle command completion =
      ((d.settle command completion).finishReset .bulkOnly).finish urb .ok := by
  have concluded := settle_concludes completion executing
  have settled : d.settle command completion = d.caughtUp command completion d.parked.toList := by
    rw [settle_eq completion executing, nothing]
    rfl
  obtain ⟨control, resumed⟩ := caughtUp_defers defers command completion d.parked.toList
  obtain ⟨control', rfl⟩ := defers
  rw [settle_eq (d := d.deferring urb control') completion executing]
  change (caughtUp _ command completion d.parked.toList).finishReset .bulkOnly = _
  rw [resumed, ← settled, finishReset_deferring control concluded.pendingReset concluded.parked]

structure StillExecutes (d e : Device) : Prop where
  slot : e.slot = d.slot
  pendingReset : e.pendingReset = d.pendingReset
  submissions : e.submissions = d.submissions

theorem dispatch_executes (executing : d.slot.isExecuting = true) {address : UInt8}
    (bulk : Pipe.BulkAddress address) (other : Urb) :
    StillExecutes d (d.dispatch address other).1 ∧ (d.dispatch address other).2 ≠ .faulted := by
  obtain ⟨generation, slot⟩ : ∃ generation, d.slot = .executing generation := by
    cases slot : d.slot with
    | executing generation => exact ⟨generation, rfl⟩
    | vacant | held _ _ => simp [slot, Slot.isExecuting] at executing
  unfold dispatch handle
  rcases bulk with reaches | reaches
  · rw [reaches]
    simp only [bulkIn, slot]
    split
    · exact ⟨⟨rfl, rfl, rfl⟩, Dispatched.noConfusion⟩
    split
    · exact ⟨⟨rfl, rfl, rfl⟩, Dispatched.noConfusion⟩
    · exact ⟨⟨rfl, rfl, rfl⟩, Dispatched.noConfusion⟩
  · rw [reaches]
    simp only [bulkOut, slot]
    split
    · exact ⟨⟨rfl, rfl, rfl⟩, Dispatched.noConfusion⟩
    split
    · exact ⟨⟨rfl, rfl, rfl⟩, Dispatched.noConfusion⟩
    · exact ⟨⟨rfl, rfl, rfl⟩, Dispatched.noConfusion⟩

theorem dispatch_reset_executing {address : UInt8} (requests : urb.Requests address .bulkOnlyReset)
    (executing : d.slot.isExecuting = true) (nothing : d.pendingReset = none) :
    ∃ events, d.dispatch address urb = ({ d.deferring urb false with events }, .queued) := by
  obtain ⟨events, handled⟩ := handle_reset_executing requests executing nothing
  exact ⟨events, by simp [dispatch, handled, apply, deferring]⟩

theorem dispatch_reset_idle {address : UInt8} (requests : urb.Requests address .bulkOnlyReset)
    (idle : d.slot.isExecuting = false) :
    ∃ events, d.dispatch address urb =
      ({ (d.finishReset .bulkOnly).finish urb .ok with events }, .completed) := by
  obtain ⟨events, handled⟩ := handle_reset_idle requests idle
  exact ⟨_, by simp only [dispatch, handled, apply, finishReset_eq]; rfl⟩

end Device

namespace System

open Device

variable {s : System} {e : Device} {urb : Urb}

structure StillExecutes (s r : System) : Prop where
  device : s.device.StillExecutes r.device
  waiting : r.waiting = s.waiting
  condition : r.condition = s.condition

theorem turn_executes (working : s.condition = .working)
    (executing : s.device.slot.isExecuting = true) (released : s.device.submissions = [])
    {turn : Turn} (bulk : turn.OnBulk) :
    s.StillExecutes (s.turn turn).system ∧ (s.turn turn).submitted = [] := by
  obtain ⟨operation, target⟩ := turn
  obtain ⟨address, other, rfl, bulk⟩ := bulk
  obtain ⟨still, fine⟩ := dispatch_executes executing bulk other
  rw [turn_dispatch working fine (still.submissions.trans released)]
  exact ⟨⟨⟨still.slot, still.pendingReset, released.symm⟩, rfl, rfl⟩, rfl⟩

theorem play_executes (working : s.condition = .working)
    (executing : s.device.slot.isExecuting = true) (released : s.device.submissions = [])
    {turns : List Turn} (bulk : ∀ turn ∈ turns, turn.OnBulk) :
    s.StillExecutes (s.play turns) ∧ s.submitted turns = [] := by
  induction turns generalizing s with
  | nil => exact ⟨⟨⟨rfl, rfl, rfl⟩, rfl, rfl⟩, rfl⟩
  | cons turn rest ih =>
    obtain ⟨now, later⟩ := List.forall_mem_cons.mp bulk
    obtain ⟨first, nothing⟩ := turn_executes working executing released now
    obtain ⟨others, nothing'⟩ := ih (first.condition.trans working)
      (by rw [first.device.slot, executing]) (first.device.submissions.trans released) later
    rw [submitted_cons, nothing, nothing']
    exact ⟨⟨⟨others.device.slot.trans first.device.slot,
      others.device.pendingReset.trans first.device.pendingReset,
      others.device.submissions.trans first.device.submissions⟩,
      others.waiting.trans first.waiting, others.condition.trans first.condition⟩, rfl⟩

theorem turn_defers (working : s.condition = .working)
    (executing : s.device.slot.isExecuting = true) (released : s.device.submissions = [])
    (defers : Defers urb s.device e) {turn : Turn} (bulk : turn.OnBulk) :
    ∃ e', Defers urb (s.turn turn).system.device e' ∧
      System.turn { s with device := e } turn =
        { s.turn turn with system := { (s.turn turn).system with device := e' } } := by
  obtain ⟨operation, target⟩ := turn
  obtain ⟨address, other, rfl, bulk⟩ := bulk
  obtain ⟨still, fine⟩ := dispatch_executes executing bulk other
  obtain ⟨⟨control, device⟩, outcome⟩ := dispatch_defers defers bulk other
  have nothing := still.submissions.trans released
  have nothing' : (e.dispatch address other).1.submissions = [] := by
    rw [device]
    exact nothing
  rw [turn_dispatch working fine nothing,
    turn_dispatch (s := { s with device := e }) working (outcome ▸ fine) nothing']
  refine ⟨_, ⟨control, rfl⟩, ?_⟩
  simp only [outcome, device]
  rfl

-- Neither the host nor the target can tell that the reset waits.
theorem play_defers (working : s.condition = .working)
    (executing : s.device.slot.isExecuting = true) (released : s.device.submissions = [])
    (defers : Defers urb s.device e) {turns : List Turn} (bulk : ∀ turn ∈ turns, turn.OnBulk) :
    ∃ e', Defers urb (s.play turns).device e' ∧
      play { s with device := e } turns = { s.play turns with device := e' } ∧
      outcomes { s with device := e } turns = s.outcomes turns ∧
      submitted { s with device := e } turns = s.submitted turns := by
  induction turns generalizing s e with
  | nil => exact ⟨e, defers, rfl, rfl, rfl⟩
  | cons turn rest ih =>
    obtain ⟨now, later⟩ := List.forall_mem_cons.mp bulk
    obtain ⟨still, -⟩ := turn_executes working executing released now
    obtain ⟨e₁, first, same⟩ := turn_defers working executing released defers now
    obtain ⟨e', last, played, outcomes, submitted⟩ := ih (still.condition.trans working)
      (by rw [still.device.slot, executing]) (still.device.submissions.trans released) first later
    refine ⟨e', last, ?_, ?_, ?_⟩
    · rw [play_cons, play_cons, same, played]
    · rw [outcomes_cons, outcomes_cons, same, outcomes]
    · rw [submitted_cons, submitted_cons, same, submitted]

theorem turn_reset_waits (working : s.condition = .working)
    (executing : s.device.slot.isExecuting = true) (released : s.device.submissions = [])
    (silent : s.device.events = []) (nothing : s.device.pendingReset = none) {address : UInt8}
    (requests : urb.Requests address .bulkOnlyReset) (target : Target) :
    ∃ events, s.turn ⟨.device (.dispatch address urb), target⟩ =
      { system := { s with target, device := s.device.deferring urb false }
        answer := .dispatched .queued, events } := by
  obtain ⟨events, waits⟩ := dispatch_reset_executing requests executing nothing
  have fine : (s.device.dispatch address urb).2 ≠ .faulted := by
    rw [waits]
    nofun
  rw [turn_dispatch working fine (by rw [waits]; exact released), waits, ← released, ← silent]
  exact ⟨_, rfl⟩

theorem turn_reset_idle (working : s.condition = .working)
    (idle : s.device.slot.isExecuting = false) (released : s.device.submissions = [])
    {address : UInt8} (requests : urb.Requests address .bulkOnlyReset) (target : Target) :
    ∃ events, s.turn ⟨.device (.dispatch address urb), target⟩ =
      { system := { s with
          target
          device := { (s.device.finishReset .bulkOnly).finish urb .ok with
            submissions := [], events := [] } }
        answer := .dispatched .completed, events } := by
  obtain ⟨events, resets⟩ := dispatch_reset_idle requests idle
  have fine : (s.device.dispatch address urb).2 ≠ .faulted := by
    rw [resets]
    nofun
  have nothing : (s.device.dispatch address urb).1.submissions = [] := by
    rw [resets, finishReset_eq]
    exact released
  rw [turn_dispatch working fine nothing, resets]
  exact ⟨_, rfl⟩

structure EndsAlike (urb : Urb) (deferred ended reset : Report) : Prop where
  system : deferred.system = reset.system
  submitted : deferred.submitted = [] ∧ ended.submitted = [] ∧ reset.submitted = []
  silent : deferred.answer.outcome? = none ∧ ended.answer.outcome? = none
  completed : reset.answer.outcome? = some .completed
  done : reset.system.device.done = ended.system.device.done.append (urb.finished .ok)
  ready : ∃ t, reset.system.device.slot = .held .ready t ∧ t.offset = 0
  halts : reset.system.device.halts = {}
  statistics : reset.system.device.statistics =
    { ended.system.device.statistics with
      resets := ended.system.device.statistics.resets + 1 }

theorem turns_endAlike (working : s.condition = .working) (released : s.device.submissions = [])
    {index : Nat} {command : Command} (found : s.waiting[index]? = some command)
    (executing : s.device.slot = .executing command.generation)
    (nothing : s.device.pendingReset = none) (defers : Defers urb s.device e) {address : UInt8}
    (requests : urb.Requests address .bulkOnlyReset) (completion : Completion) (target : Target) :
    EndsAlike urb (System.turn { s with device := e } ⟨.complete index completion, target⟩)
      (s.turn ⟨.complete index completion, target⟩)
      ((s.turn ⟨.complete index completion, target⟩).system.turn
        ⟨.device (.dispatch address urb), target⟩) := by
  have concluded := settle_concludes completion executing
  have settled := settle_defers defers completion executing nothing
  have nothing_left := concluded.submissions.trans released
  have idle : (s.device.settle command completion).slot.isExecuting = false := by
    rw [Slot.isExecuting_eq_isSome, concluded.calm.idle]
    rfl
  have released' : e.submissions = [] := by
    obtain ⟨control, rfl⟩ := defers
    exact released
  rw [turn_completing (s := { s with device := e }) found working released',
    turn_completing found working released]
  obtain ⟨events, reset⟩ := turn_reset_idle (s := { s with
      target
      device := { s.device.settle command completion with events := [] }
      waiting := s.waiting.eraseIdx index }) working idle nothing_left requests target
  obtain ⟨phase, t, held, -⟩ := concluded.calm
  rw [reset, settled]
  constructor
  case system => simp only [finishReset_eq, finish, nothing_left]
  case submitted => exact ⟨rfl, rfl, rfl⟩
  case silent => exact ⟨rfl, rfl⟩
  case completed => rfl
  case done => simp [finishReset_eq, finish, concluded.parked, concluded.pendingReset,
    Urb.Queue.empty, Urb.Queue.append]
  case ready => exact ⟨t.rewound, by simp [finishReset_eq, finish, held, Slot.rewound], rfl⟩
  case halts => simp only [finishReset_eq, finish]
  case statistics => simp only [finishReset_eq, finish]

structure ActsAfter (s : System) (turns : List Turn) (reset ended : Turn) (urb : Urb) : Prop where
  system : s.play (reset :: turns ++ [ended]) = s.play (turns ++ [ended, reset])
  early : s.outcomes (reset :: turns ++ [ended]) = .queued :: s.outcomes turns
  late : s.outcomes (turns ++ [ended, reset]) = s.outcomes turns ++ [.completed]
  submitted : s.submitted (reset :: turns ++ [ended]) = [] ∧
    s.submitted (turns ++ [ended, reset]) = []
  done : (s.play (turns ++ [ended, reset])).device.done =
    (s.play (turns ++ [ended])).device.done.append (urb.finished .ok)
  ready : ∃ t, (s.play (turns ++ [ended, reset])).device.slot = .held .ready t ∧ t.offset = 0
  halts : (s.play (turns ++ [ended, reset])).device.halts = {}
  statistics : (s.play (turns ++ [ended, reset])).device.statistics =
    { (s.play (turns ++ [ended])).device.statistics with
      resets := (s.play (turns ++ [ended])).device.statistics.resets + 1 }

theorem reset_waits_unnoticed (reached : s.Reached) {index : Nat} {command : Command}
    (found : s.waiting[index]? = some command)
    (executing : s.device.slot = .executing command.generation)
    (nothing : s.device.pendingReset = none) {address : UInt8}
    (requests : urb.Requests address .bulkOnlyReset) {turns : List Turn}
    (bulk : ∀ turn ∈ turns, turn.OnBulk) (completion : Completion) (target : Target) :
    s.ActsAfter turns ⟨.device (.dispatch address urb), target⟩ ⟨.complete index completion, target⟩
      urb := by
  -- The first turn says how the target behaves from then on.
  let here : System := { s with target }
  let waits : System := { here with device := s.device.deferring urb false }
  let reset : Turn := ⟨.device (.dispatch address urb), target⟩
  let ended : Turn := ⟨.complete index completion, target⟩
  have released := reached.released
  have silent := reached.told
  have working := reached.working
  have busy : s.device.slot.isExecuting = true := by rw [executing]; rfl
  have same : here.ActsAfter turns reset ended urb := by
    obtain ⟨events, first⟩ : ∃ events, here.turn reset =
        { system := waits, answer := .dispatched .queued, events } :=
      turn_reset_waits (s := here) working busy released silent nothing requests target
    obtain ⟨still, unsubmitted⟩ := play_executes (s := here) working busy released bulk
    obtain ⟨e, defers, played, outcomes, submitted⟩ :
        ∃ e, Defers urb (here.play turns).device e ∧
          waits.play turns = { here.play turns with device := e } ∧
          waits.outcomes turns = here.outcomes turns ∧
          waits.submitted turns = here.submitted turns :=
      play_defers (s := here) working busy released ⟨false, rfl⟩ bulk
    have ends := turns_endAlike (still.condition.trans working)
      (still.device.submissions.trans released) (still.waiting ▸ found)
      (still.device.slot.trans executing) (still.device.pendingReset.trans nothing) defers requests
      completion target
    have early : here.play (reset :: turns ++ [ended]) =
        (System.turn { here.play turns with device := e } ended).system := by
      rw [List.cons_append, play_cons, first, play_append, played]
      rfl
    have late : here.play (turns ++ [ended, reset]) =
        (((here.play turns).turn ended).system.turn reset).system := play_append here turns _
    have between : here.play (turns ++ [ended]) = ((here.play turns).turn ended).system :=
      play_append here turns _
    constructor
    case system => rw [early, late, ends.system]
    case early =>
      rw [List.cons_append, outcomes_cons, first, outcomes_append, outcomes, played, outcomes_cons,
        ends.silent.1]
      exact congrArg (Dispatched.queued :: ·) (List.append_nil _)
    case late =>
      rw [outcomes_append, outcomes_cons, outcomes_cons, ends.silent.2, ends.completed]
      rfl
    case submitted =>
      constructor
      · rw [List.cons_append, submitted_cons, first, submitted_append, submitted, unsubmitted,
          played, submitted_cons, ends.submitted.1]
        rfl
      · rw [submitted_append, unsubmitted, submitted_cons, submitted_cons, ends.submitted.2.1,
          ends.submitted.2.2]
        rfl
    case done => rw [late, between, ends.done]
    case ready =>
      rw [late]
      exact ends.ready
    case halts => rw [late, ends.halts]
    case statistics => rw [late, between, ends.statistics]
  cases turns with
  | nil => exact ⟨same.system, same.early, same.late, same.submitted, same.done, same.ready,
      same.halts, same.statistics⟩
  | cons turn rest => exact ⟨same.system, same.early, same.late, same.submitted, same.done,
      same.ready, same.halts, same.statistics⟩

def oneReadParked : List Turn := [sendReadSix 1, readBulk 2 4]

def resetSetup : Setup :=
  { requestType := 0x21, request := 0xff, value := 0, index := 0, length := 0 }

theorem reset_waits_unnoticed_oneReadParked :
    ((create {} "lun0" .holds).play oneReadParked).Reached ∧
      ((create {} "lun0" .holds).play oneReadParked).device.slot = .executing 0 ∧
      ((create {} "lun0" .holds).play oneReadParked).ActsAfter [sendReadSix 3, readBulk 4 8]
        ⟨.device (.dispatch 0x00 (.control 5 resetSetup [])), .holds⟩
        ⟨.complete 0 { data := [1, 2, 3, 4] }, .holds⟩ (.control 5 resetSetup []) := by
  have reached : ((create {} "lun0" .holds).play oneReadParked).Reached :=
    ⟨{}, "lun0", .holds, oneReadParked, rfl, by decide⟩
  have found : ((create {} "lun0" .holds).play oneReadParked).waiting[0]? =
      some ⟨0, ((({} : Transaction).opened readSix).started 4)⟩ := by decide
  have requests : (Urb.control 5 resetSetup []).Requests 0x00 .bulkOnlyReset :=
    ⟨by decide, by decide⟩
  have bulk : ∀ turn ∈ [sendReadSix 3, readBulk 4 8], turn.OnBulk := by
    intro turn member
    rcases List.mem_pair.mp member with rfl | rfl
    · exact ⟨_, _, rfl, .inr rfl⟩
    · exact ⟨_, _, rfl, .inl rfl⟩
  refine ⟨reached, by decide, ?_⟩
  exact reset_waits_unnoticed reached found (by decide) (by decide) requests bulk _ .holds

end System

end BulkOnly
