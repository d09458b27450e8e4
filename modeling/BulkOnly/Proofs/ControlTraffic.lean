import BulkOnly.Proofs.Conservation
import BulkOnly.Proofs.ControlEffects
import BulkOnly.Proofs.Deferral
import BulkOnly.Proofs.Isolation
import BulkOnly.Proofs.Issues
import BulkOnly.Proofs.Restart

set_option autoImplicit false

namespace BulkOnly

theorem Command.alike_zero_iff {c c' : Command} : Command.Alike 0 0 c c' ↔ c = c' := by
  constructor
  · rintro ⟨⟨since, these, those⟩, transaction⟩
    obtain ⟨generation, t⟩ := c
    obtain ⟨generation', t'⟩ := c'
    dsimp only at these those transaction
    rw [these, those, transaction]
  · rintro rfl
    exact ⟨⟨c.generation, by omega, by omega⟩, rfl⟩

namespace Device

-- `Alike` counts generations from a common past. Here that past is a new device, so that both
-- devices have the same generations.
def origin (done : Urb.Queue) : Device := { done }

variable {d e : Device}

def Level (d e : Device) : Prop := Alike (origin d.done) (origin e.done) d e

theorem Alike.level {done done' : Urb.Queue} (alike : Alike (origin done) (origin done') d e) :
    Level d e :=
  { alike with returned := ⟨[], (List.append_nil _).symm, (List.append_nil _).symm⟩ }

theorem Level.refl (released : d.submissions = []) : Level d d where
  settings := .refl d.settings
  descriptors := rfl
  configuration := rfl
  bulkIn := rfl
  bulkOut := rfl
  parked := rfl
  pendingReset := rfl
  slot := by
    cases slot : d.slot with
    | vacant => exact .retained Scsi.Sense.zero rfl rfl fun _ _ => rfl
    | held phase t => exact .held phase t rfl rfl
    | executing generation => exact .executing generation (by simp [origin]) (by simp [origin])
  issued := ⟨d.nextGeneration, by simp [origin], by simp [origin]⟩
  submissions := by
    rw [released]
    exact .nil
  returned := ⟨[], (List.append_nil _).symm, (List.append_nil _).symm⟩

theorem Level.released (level : d.Level e) (released : e.submissions = []) :
    d.submissions = [] := by
  have submissions := level.submissions
  rw [released] at submissions
  exact List.forall₂_nil_right_iff.mp submissions

theorem OnlyChanges.level {f : Device} {halts : Halts} {returned : List Urb}
    (changes : d.OnlyChanges halts d.configuration returned e) (level : d.Level f)
    (bulkIn : halts.bulkIn = d.halts.bulkIn) (bulkOut : halts.bulkOut = d.halts.bulkOut)
    (released : f.submissions = []) : Level { e with submissions := [], events := [] } f := by
  rw [changes.rest]
  exact
    { level with
      bulkIn := bulkIn.trans level.bulkIn
      bulkOut := bulkOut.trans level.bulkOut
      submissions := by
        rw [released]
        exact .nil
      returned := ⟨[], (List.append_nil _).symm, (List.append_nil _).symm⟩ }

theorem OnlyChanges.released {halts : Halts} {configuration : UInt8} {returned : List Urb}
    (changes : d.OnlyChanges halts configuration returned e) (released : d.submissions = []) :
    d.OnlyChanges halts configuration returned { e with submissions := [], events := [] } :=
  ⟨by rw [changes.rest, ← released]⟩

theorem dispatch_control_submissions {address : UInt8}
    (control : Pipe.ofAddress? address = some .control) (d : Device) (urb : Urb) :
    (d.dispatch address urb).1.submissions = d.submissions := by
  simp only [dispatch, apply_submissions, handle, control]
  exact (control_sameCommand d urb).submissions

end Device

def Report.seen (report : Report) : Option Dispatched × List Transaction :=
  (report.answer.outcome?, report.submitted.map Command.transaction)

namespace System

open Device

variable {s r : System}

structure Level (s r : System) : Prop where
  device : s.device.Level r.device
  condition : s.condition = r.condition
  waiting : s.waiting = r.waiting
  released : r.device.submissions = []

theorem Level.refl (reached : s.Reached) : s.Level s :=
  ⟨Device.Level.refl reached.released, rfl, rfl, reached.released⟩

theorem Level.inStep (level : s.Level r) :
    InStep (origin s.device.done) (origin r.device.done) 0 s r where
  device := level.device
  condition := level.condition
  waiting := by
    refine ⟨[], s.waiting, rfl, rfl, nofun, ?_⟩
    rw [level.waiting]
    exact List.forall₂_same.mpr fun command _ => Command.alike_zero_iff.mpr rfl

theorem InStep.level {done done' : Urb.Queue} (inStep : InStep (origin done) (origin done') 0 s r)
    (released : r.device.submissions = []) : s.Level r where
  device := inStep.device.level
  condition := inStep.condition
  waiting := by
    obtain ⟨late, fresh, split, count, -, alike⟩ := inStep.waiting
    rw [List.length_eq_zero_iff.mp count, List.nil_append] at split
    rw [split]
    have same := alike.imp fun _ _ => Command.alike_zero_iff.mp
    rwa [List.forall₂_eq_eq_eq] at same
  released := released

structure SameStep (s r : System) (these those : Report) : Prop where
  level : these.system.Level those.system
  seen : these.seen = those.seen
  returned : ∃ ended,
    these.answer.handedBack ++ these.system.device.done.toList = s.device.done.toList ++ ended ∧
    those.answer.handedBack ++ those.system.device.done.toList = r.device.done.toList ++ ended

theorem Matched.sameStep {these those : Report}
    (matched : Matched (origin s.device.done) (origin r.device.done) 0 these those)
    (nothing : these.answer.handedBack = []) (nothing' : those.answer.handedBack = []) :
    SameStep s r these those where
  level := matched.inStep.level matched.released
  seen := Prod.ext matched.outcome matched.submitted
  returned := by
    obtain ⟨ended, these, those⟩ := matched.inStep.device.returned
    rw [nothing, nothing']
    exact ⟨ended, these, those⟩

theorem handedBack_of_steers {operation : Operation} (steers : operation.steers = true)
    (s : System) : (s.perform operation).answer.handedBack = [] := by
  rcases perform_cases s operation with
    ⟨asked, rfl, -, performed⟩ | ⟨index, completion, command, rfl, -, -, performed⟩ | unheard
  · rw [performed]
    change (s.device.operate asked).2.handedBack = []
    cases asked with
    | restore saved =>
      simp only [Device.operate]
      split <;> rfl
    | dispatch _ _ | cancel _ | reset | setConfiguration _ | clearHalt _ | setDescriptors _ => rfl
    | wakeUp | isHalted _ | isIdle | reap | poll | reapAll | stream _ | save | describe =>
      cases steers
  · rw [performed]
    rfl
  · exact unheard.handedBack

theorem perform_deaf (deaf : s.condition ≠ .working) (operation : Device.Operation) :
    (s.perform (.device operation)).system = s := by
  cases condition : s.condition with
  | working => exact absurd condition deaf
  | broken =>
    simp only [perform, condition]
    exact condition_operateBroken s operation
  | removed => simp only [perform, condition]

theorem turn_looks (released : s.device.submissions = []) {operation : Device.Operation}
    (looks : (Operation.device operation).steers = false) (target : Target) :
    ∃ rest events, (s.turn ⟨.device operation, target⟩).system =
        { s with target, device := { s.device with done := rest, events } } ∧
      (s.turn ⟨.device operation, target⟩).answer.handedBack ++ rest.toList =
        s.device.done.toList ∧
      (s.turn ⟨.device operation, target⟩).seen = (none, []) := by
  by_cases working : s.condition = .working
  · obtain ⟨rest, same, taken, silent⟩ := operate_looks looks s.device
    have fine : (s.device.operate operation).2 ≠ .dispatched .faulted := by
      intro faulted
      rw [faulted] at silent
      cases silent
    have nothing : (s.device.operate operation).1.submissions = [] := by
      rw [same]
      exact released
    rw [turn_operation working fine nothing]
    refine ⟨rest, [], ?_, taken, Prod.ext silent rfl⟩
    rw [same, ← released]
  · have unheard := unheard_device (s := { s with target }) working operation
    have system : (s.turn ⟨.device operation, target⟩).system = { s with target } :=
      perform_deaf (s := { s with target }) working operation
    refine ⟨s.device.done, s.device.events, system, ?_, Prod.ext ?_ ?_⟩
    · exact congrArg (· ++ s.device.done.toList) unheard.handedBack
    · have undispatched := unheard.undispatched
      change (System.perform { s with target } (.device operation)).answer.outcome? = none
      cases answer : (System.perform { s with target } (.device operation)).answer with
      | dispatched result => exact absurd answer (undispatched result)
      | _ => rfl
    · exact congrArg (List.map Command.transaction) unheard.submitted

theorem Level.looks (level : s.Level r) {operation : Device.Operation}
    (looks : (Operation.device operation).steers = false) (target : Target) :
    SameStep s r (s.turn ⟨.device operation, target⟩) (r.turn ⟨.device operation, target⟩) := by
  obtain ⟨rest, events, system, taken, seen⟩ :=
    turn_looks (level.device.released level.released) looks target
  obtain ⟨rest', events', system', taken', seen'⟩ := turn_looks level.released looks target
  refine ⟨?_, seen.trans seen'.symm, [], ?_, ?_⟩
  · rw [system, system']
    refine ⟨?_, level.condition, level.waiting, level.released⟩
    exact { level.device with
      returned := ⟨[], (List.append_nil _).symm, (List.append_nil _).symm⟩ }
  · rw [system, List.append_nil]
    exact taken
  · rw [system', List.append_nil]
    exact taken'

theorem Level.turn (level : s.Level r) (turn : Turn) :
    SameStep s r (s.turn turn) (r.turn turn) := by
  obtain ⟨operation, target⟩ := turn
  have inStep := level.inStep.retargeted target
  cases operation with
  | remove =>
    exact ⟨⟨level.device, rfl, level.waiting, level.released⟩, rfl, [],
      (List.append_nil _).symm, (List.append_nil _).symm⟩
  | complete index completion =>
    have matched := newer_matched inStep rfl level.released (Nat.zero_le index) completion
    exact matched.sameStep (handedBack_of_steers rfl _) (handedBack_of_steers rfl _)
  | device operation =>
    by_cases steers : (Operation.device operation).steers = true
    · have matched := operation_matched inStep rfl level.released steers
      exact matched.sameStep (handedBack_of_steers steers _) (handedBack_of_steers steers _)
    · exact level.looks (Bool.eq_false_iff.mpr steers) target

theorem turn_control (working : s.condition = .working) (released : s.device.submissions = [])
    {address : UInt8} (control : Pipe.ofAddress? address = some .control) (urb : Urb)
    (target : Target) :
    s.turn ⟨.device (.dispatch address urb), target⟩ =
      { system := { s with
          target
          device := { (s.device.dispatch address urb).1 with submissions := [], events := [] }
          condition := if (s.device.dispatch address urb).2 = .faulted then .broken else .working }
        answer := .dispatched (s.device.dispatch address urb).2
        events := (s.device.dispatch address urb).1.events } := by
  have nothing : (s.device.dispatch address urb).1.submissions = [] :=
    (dispatch_control_submissions control s.device urb).trans released
  have same : (Answer.dispatched (s.device.dispatch address urb).2 = .dispatched .faulted) =
      ((s.device.dispatch address urb).2 = .faulted) := by simp
  simp only [turn, perform, working, operate_eq, Device.operate, same]
  exact release_nothing
    (s := { s with
      target
      device := (s.device.dispatch address urb).1
      condition := if (s.device.dispatch address urb).2 = .faulted then .broken else .working })
    nothing _

-- A control transfer that makes none of the requests which change a device, and on which the source
-- of descriptors does not fail.
def OrdinaryControl (s : System) (turn : Turn) : Prop :=
  ∃ address urb, turn.operation = .device (.dispatch address urb) ∧
    Pipe.ofAddress? address = some .control ∧ s.device.Ordinary urb ∧
    (s.turn turn).answer ≠ .dispatched .faulted

structure Beside (s r : System) (turn : Turn) (report : Report) : Prop where
  level : report.system.Level r
  submitted : report.submitted = []
  returned : ∃ added, report.answer.handedBack ++ report.system.device.done.toList =
      s.device.done.toList ++ added ∧
    (added.map Urb.id).Sublist (turn.operation.dispatched.map Urb.id)

theorem Level.beside (level : s.Level r) {turn : Turn} (ordinary : s.OrdinaryControl turn) :
    Beside s r turn (s.turn turn) := by
  obtain ⟨operation, target⟩ := turn
  obtain ⟨address, urb, rfl, control, ordinary, fine⟩ := ordinary
  by_cases working : s.condition = .working
  · have released := level.device.released level.released
    obtain ⟨returned, changes, ids⟩ := dispatch_ordinary control ordinary
    rw [turn_control working released control] at fine ⊢
    have whole : (s.device.dispatch address urb).2 ≠ .faulted :=
      fun faulted => fine (congrArg Answer.dispatched faulted)
    refine ⟨⟨?_, ?_, level.waiting, level.released⟩, rfl, returned, ?_, ?_⟩
    · exact changes.level level.device rfl rfl level.released
    · rw [if_neg whole, ← level.condition, working]
    · exact congrArg (fun e => e.done.toList) changes.rest
    · rw [ids whole]
      exact List.Sublist.refl _
  · have unheard := unheard_device (s := { s with target }) working (.dispatch address urb)
    have system : (s.turn ⟨.device (.dispatch address urb), target⟩).system = { s with target } :=
      perform_deaf (s := { s with target }) working _
    refine ⟨?_, unheard.submitted, [], ?_, List.nil_sublist _⟩
    · rw [system]
      exact ⟨level.device, level.condition, level.waiting, level.released⟩
    · rw [system, List.append_nil]
      exact congrArg (· ++ s.device.done.toList) unheard.handedBack

end System

def wholeRun (items : List (Turn × Bool)) : List Turn := items.map Prod.fst

def originalRun (items : List (Turn × Bool)) : List Turn :=
  (items.filter fun item => !item.2).map Prod.fst

def addedTurns (items : List (Turn × Bool)) : List Turn :=
  (items.filter fun item => item.2).map Prod.fst

section

variable (turn : Turn) (rest : List (Turn × Bool))

theorem wholeRun_cons (added : Bool) :
    wholeRun ((turn, added) :: rest) = turn :: wholeRun rest := rfl

theorem originalRun_kept : originalRun ((turn, false) :: rest) = turn :: originalRun rest := rfl

theorem originalRun_added : originalRun ((turn, true) :: rest) = originalRun rest := rfl

theorem addedTurns_kept : addedTurns ((turn, false) :: rest) = addedTurns rest := rfl

theorem dispatched_added : dispatched (addedTurns ((turn, true) :: rest)) =
    turn.operation.dispatched ++ dispatched (addedTurns rest) := rfl

end

namespace System

open Device

variable {s r : System}

def AddsOrdinary (s : System) : List (Turn × Bool) → Prop
  | [] => True
  | (turn, added) :: rest =>
    (added = true → s.OrdinaryControl turn) ∧ (s.turn turn).system.AddsOrdinary rest

def originals (s : System) : List (Turn × Bool) → List Report
  | [] => []
  | (turn, added) :: rest =>
    (if added then [] else [s.turn turn]) ++ (s.turn turn).system.originals rest

theorem returned_cons {turn : Turn} {rest : List Turn} {ended later : List Urb}
    (first : (s.turn turn).answer.handedBack ++ (s.turn turn).system.device.done.toList =
      s.device.done.toList ++ ended)
    (others : (s.turn turn).system.returned rest =
      (s.turn turn).system.device.done.toList ++ later) :
    s.returned (turn :: rest) = s.device.done.toList ++ (ended ++ later) := by
  have split : s.returned (turn :: rest) =
      (s.turn turn).answer.handedBack ++ (s.turn turn).system.returned rest := by
    simp [returned, reaped, reports]
  rw [split, others, ← List.append_assoc, first, List.append_assoc]

structure PlaysBeside (s r : System) (items : List (Turn × Bool)) : Prop where
  level : (s.play (wholeRun items)).Level (r.play (originalRun items))
  seen : (s.originals items).map Report.seen =
    (r.reports (originalRun items)).map Report.seen
  submitted : (s.submitted (wholeRun items)).map Command.transaction =
    (r.submitted (originalRun items)).map Command.transaction
  returned : ∃ here there added, s.returned (wholeRun items) = s.device.done.toList ++ here ∧
    r.returned (originalRun items) = r.device.done.toList ++ there ∧
    there.Sublist here ∧ here.Perm (there ++ added) ∧
    (added.map Urb.id).Sublist ((dispatched (addedTurns items)).map Urb.id)

theorem PlaysBeside.kept {turn : Turn} {rest : List (Turn × Bool)}
    (step : SameStep s r (s.turn turn) (r.turn turn))
    (later : PlaysBeside (s.turn turn).system (r.turn turn).system rest) :
    PlaysBeside s r ((turn, false) :: rest) := by
  obtain ⟨-, seen, ended, these, those⟩ := step
  obtain ⟨here, there, added, whole, original, part, parts, ids⟩ := later.returned
  refine ⟨later.level, congrArg₂ List.cons seen later.seen, ?_, ended ++ here, ended ++ there,
    added, returned_cons these whole, returned_cons those original, part.append_left ended, ?_, ?_⟩
  · rw [wholeRun_cons, originalRun_kept, submitted_cons, submitted_cons, List.map_append,
      List.map_append, later.submitted]
    exact congrArg (· ++ _) (congrArg Prod.snd seen)
  · rw [List.append_assoc]
    exact parts.append_left ended
  · rw [addedTurns_kept]
    exact ids

theorem PlaysBeside.added {turn : Turn} {rest : List (Turn × Bool)}
    (beside : Beside s r turn (s.turn turn))
    (later : PlaysBeside (s.turn turn).system r rest) : PlaysBeside s r ((turn, true) :: rest) := by
  obtain ⟨-, nothing, more, these, id⟩ := beside
  obtain ⟨here, there, added, whole, original, part, parts, ids⟩ := later.returned
  refine ⟨later.level, later.seen, ?_, more ++ here, there, more ++ added,
    returned_cons these whole, original, part.trans (List.sublist_append_right more here), ?_, ?_⟩
  · rw [wholeRun_cons, originalRun_added, submitted_cons, nothing]
    exact later.submitted
  · exact (parts.append_left more).trans (List.perm_append_comm_assoc more there added)
  · rw [dispatched_added, List.map_append, List.map_append]
    exact id.append ids

theorem Level.play (level : s.Level r) {items : List (Turn × Bool)}
    (ordinary : s.AddsOrdinary items) : PlaysBeside s r items := by
  -- A kept turn moves both systems, an added one moves `s` alone. Either way they stay level.
  induction items generalizing s r with
  | nil =>
    exact ⟨level, rfl, rfl, [], [], [], (List.append_nil _).symm, (List.append_nil _).symm,
      .slnil, .nil, .slnil⟩
  | cons item rest ih =>
    obtain ⟨turn, added⟩ := item
    obtain ⟨first, others⟩ := ordinary
    cases added with
    | false =>
      have step := level.turn turn
      exact .kept step (ih step.level others)
    | true =>
      have beside := level.beside (first rfl)
      exact .added beside (ih beside.level others)

structure ComesAside (s : System) (urb : Urb) (halts : Halts) (configuration : UInt8)
    (report : Report) : Prop where
  device : ∃ returned, s.device.OnlyChanges halts configuration returned report.system.device ∧
    (report.answer ≠ .dispatched .faulted → returned.map Urb.id = [urb.id])
  submitted : report.submitted = []
  waiting : report.system.waiting = s.waiting
  condition : report.system.condition =
    if report.answer = .dispatched .faulted then .broken else .working

section

variable {address : UInt8} {urb : Urb}

theorem Reached.turn_control (reached : s.Reached)
    (control : Pipe.ofAddress? address = some .control) (urb : Urb) (target : Target) :
    (s.turn ⟨.device (.dispatch address urb), target⟩).answer =
        .dispatched (s.device.dispatch address urb).2 ∧
      (s.turn ⟨.device (.dispatch address urb), target⟩).system.device =
        { (s.device.dispatch address urb).1 with submissions := [], events := [] } := by
  rw [System.turn_control reached.working reached.released control]
  exact ⟨rfl, rfl⟩

theorem Reached.comesAside (reached : s.Reached)
    (control : Pipe.ofAddress? address = some .control) {halts : Halts} {configuration : UInt8}
    (comes : s.device.Comes urb halts configuration (s.device.dispatch address urb))
    (target : Target) :
    s.ComesAside urb halts configuration (s.turn ⟨.device (.dispatch address urb), target⟩) := by
  obtain ⟨returned, changes, ids⟩ := comes
  rw [System.turn_control reached.working reached.released control]
  exact ⟨⟨returned, changes.released reached.released,
    fun fine => ids fun faulted => fine (congrArg Answer.dispatched faulted)⟩, rfl, rfl, by simp⟩

end

theorem turn_isHalted (working : s.condition = .working) (released : s.device.submissions = [])
    (address : UInt8) (target : Target) :
    (s.turn ⟨.device (.isHalted address), target⟩).answer =
      .flag (s.device.halts.isHalted address) := by
  have fine : (s.device.operate (.isHalted address)).2 ≠ .dispatched .faulted := nofun
  exact congrArg Report.answer (turn_operation working fine released target)

structure RunsAside (s : System) (items : List (Turn × Bool)) : Prop where
  seen : (s.originals items).map Report.seen = (s.reports (originalRun items)).map Report.seen
  submitted : (s.submitted (wholeRun items)).map Command.transaction =
    (s.submitted (originalRun items)).map Command.transaction
  returned : (s.returned (originalRun items)).Sublist (s.returned (wholeRun items))
  added : ∃ added, (s.returned (wholeRun items)).Perm (s.returned (originalRun items) ++ added) ∧
    (added.map Urb.id).Sublist ((dispatched (addedTurns items)).map Urb.id)
  level : (s.play (wholeRun items)).Level (s.play (originalRun items))

theorem PlaysBeside.runsAside {items : List (Turn × Bool)} (plays : PlaysBeside s s items) :
    s.RunsAside items := by
  obtain ⟨level, seen, submitted, here, there, added, whole, original, part, parts, ids⟩ := plays
  refine ⟨seen, submitted, ?_, ⟨added, ?_, ids⟩, level⟩
  · rw [whole, original]
    exact part.append_left _
  · rw [whole, original, List.append_assoc]
    exact parts.append_left _

structure ControlAside (s : System) : Prop where
  ordinary : ∀ address urb target, Pipe.ofAddress? address = some .control →
    s.device.Ordinary urb →
    let report := s.turn ⟨.device (.dispatch address urb), target⟩
    s.ComesAside urb { s.device.halts with control := report.system.device.halts.control }
      s.device.configuration report
  haltFeature : ∀ address urb target setup, Pipe.ofAddress? address = some .control →
    Setup.parse? urb.payload = some setup → setup.ChangesHalt →
    s.ComesAside urb (setup.haltsAfter s.device.halts) s.device.configuration
      (s.turn ⟨.device (.dispatch address urb), target⟩)
  configure : ∀ address urb target setup, Pipe.ofAddress? address = some .control →
    Setup.parse? urb.payload = some setup → setup.SetsConfiguration →
    setup.value.toUInt8 ≠ s.device.configuration →
    s.ComesAside urb (s.device.halts.set .control false) setup.value.toUInt8
      (s.turn ⟨.device (.dispatch address urb), target⟩)
  halted : ∀ address urb target, Pipe.ofAddress? address = some .control →
    let report := s.turn ⟨.device (.dispatch address urb), target⟩
    report.system.device.halts.control = true ↔
      report.answer = .dispatched .stalled ∨
        ∃ setup, Setup.parse? urb.payload = some setup ∧ setup.HaltsControl
  status : ∀ address urb target setup pipe, Pipe.ofAddress? address = some .control →
    Setup.parse? urb.payload = some setup → setup.AsksForHalt →
    Pipe.ofAddress? setup.index.toUInt8 = some pipe →
    let report := s.turn ⟨.device (.dispatch address urb), target⟩
    report.answer = .dispatched .completed ∧
      ∃ answered flag, report.system.device.done = s.device.done.append answered ∧
        answered.id = urb.id ∧ answered.status = .ok ∧
        (report.system.turn ⟨.device (.isHalted setup.index.toUInt8), target⟩).answer =
          .flag flag ∧
        answered.response = [if flag then 1 else 0, 0].take
          (min (urb.data.length - Setup.encodedLength) setup.length.toNat)
  runs : ∀ items, s.AddsOrdinary items → s.RunsAside items

theorem control_traffic_aside (reached : s.Reached) : s.ControlAside where
  ordinary address urb target control ordinary := by
    have comes := dispatch_ordinary control ordinary
    obtain ⟨-, device⟩ := reached.turn_control control urb target
    simp only [device]
    exact reached.comesAside control comes target
  haltFeature address urb target setup control parsed changes :=
    reached.comesAside control (dispatch_haltFeature control parsed changes s.device) target
  configure address urb target setup control parsed sets other :=
    reached.comesAside control (dispatch_newConfiguration control parsed sets other) target
  halted address urb target control := by
    obtain ⟨answer, device⟩ := reached.turn_control control urb target
    simp only [answer, device, Answer.dispatched.injEq]
    exact dispatch_control_halted control s.device urb
  status address urb target setup pipe control parsed asks named := by
    obtain ⟨answer, device⟩ := reached.turn_control control urb target
    obtain ⟨moved, dispatched, same, response⟩ :=
      dispatch_status control parsed asks named s.device
    refine ⟨answer.trans (by rw [dispatched]), moved.finished .ok,
      (s.device.dispatch address urb).1.halts.isHalted setup.index.toUInt8, ?_, same, rfl, ?_,
      response⟩
    · rw [device, dispatched]
      rfl
    · rw [System.turn_control reached.working reached.released control]
      exact turn_isHalted (by rw [dispatched]; rfl) rfl _ target
  runs items ordinary := (Level.play (.refl reached) ordinary).runsAside

def askHaltOfBulkIn : Setup :=
  { requestType := 0x82, request := 0x00, value := 0, index := 0x81, length := 2 }

def askedMeanwhile : List (Turn × Bool) :=
  [({ operation := .device (.dispatch 0x80 (.control 4 askHaltOfBulkIn [])) }, true),
    ({ operation := .device (.dispatch 0x00 (.control 5 resetSetup [])) }, true),
    ({ operation := .complete 0 { data := [1, 2, 3, 4] } }, false),
    ({ operation := .device .reapAll }, false)]

theorem control_traffic_aside_readAndResetWait :
    ((create {} "lun0" .holds).play readAndResetWait).Reached ∧
      ((create {} "lun0" .holds).play readAndResetWait).ControlAside ∧
      ((create {} "lun0" .holds).play readAndResetWait).AddsOrdinary askedMeanwhile := by
  have reached : ((create {} "lun0" .holds).play readAndResetWait).Reached :=
    ⟨{}, "lun0", .holds, readAndResetWait, rfl, by decide⟩
  have asks : ((create {} "lun0" .holds).play readAndResetWait).OrdinaryControl
      { operation := .device (.dispatch 0x80 (.control 4 askHaltOfBulkIn [])) } :=
    ⟨0x80, _, rfl, by decide, by decide, by decide⟩
  have resets : (((create {} "lun0" .holds).play readAndResetWait).turn
        { operation := .device (.dispatch 0x80 (.control 4 askHaltOfBulkIn [])) }
      ).system.OrdinaryControl
      { operation := .device (.dispatch 0x00 (.control 5 resetSetup [])) } :=
    ⟨0x00, _, rfl, by decide, by decide, by decide⟩
  exact ⟨reached, control_traffic_aside reached, fun _ => asks, fun _ => resets, nofun, nofun,
    trivial⟩

end System

end BulkOnly
