import BulkOnly.System
import Mathlib.Data.List.Induction

set_option autoImplicit false

namespace BulkOnly

-- A target may treat every command as it likes, so each turn says anew how it behaves.
structure Turn where
  operation : Operation
  target : Target := .holds
  deriving DecidableEq, Repr

def Report.said (report : Report) : Answer × List Command × List Event :=
  (report.answer, report.submitted, report.events)

namespace System

def turn (s : System) (turn : Turn) : Report :=
  { s with target := turn.target }.perform turn.operation

def play (s : System) (turns : List Turn) : System :=
  turns.foldl (fun s turn => (s.turn turn).system) s

def reports (s : System) : List Turn → List Report
  | [] => []
  | turn :: rest => s.turn turn :: (s.turn turn).system.reports rest

@[simp] theorem play_nil (s : System) : s.play [] = s := rfl

@[simp] theorem play_cons (s : System) (turn : Turn) (rest : List Turn) :
    s.play (turn :: rest) = (s.turn turn).system.play rest := rfl

theorem play_append (s : System) (earlier later : List Turn) :
    s.play (earlier ++ later) = (s.play earlier).play later := by
  simp only [play, List.foldl_append]

theorem reports_append (s : System) (earlier later : List Turn) :
    s.reports (earlier ++ later) = s.reports earlier ++ (s.play earlier).reports later := by
  induction earlier generalizing s with
  | nil => rfl
  | cons turn rest ih => simp only [List.cons_append, reports, play_cons, ih]

def submitted (s : System) (turns : List Turn) : List Command :=
  (s.reports turns).flatMap Report.submitted

theorem submitted_append (s : System) (earlier later : List Turn) :
    s.submitted (earlier ++ later) = s.submitted earlier ++ (s.play earlier).submitted later := by
  simp only [submitted, reports_append, List.flatMap_append]

def told (s : System) (turns : List Turn) : List Event :=
  (s.reports turns).flatMap Report.events

theorem told_cons (s : System) (turn : Turn) (rest : List Turn) :
    s.told (turn :: rest) = (s.turn turn).events ++ (s.turn turn).system.told rest := rfl

theorem told_append (s : System) (earlier later : List Turn) :
    s.told (earlier ++ later) = s.told earlier ++ (s.play earlier).told later := by
  simp only [told, reports_append, List.flatMap_append]

def said (s : System) (turns : List Turn) : List (Answer × List Command × List Event) :=
  (s.reports turns).map Report.said

theorem said_cons (s : System) (turn : Turn) (rest : List Turn) :
    s.said (turn :: rest) = (s.turn turn).said :: (s.turn turn).system.said rest := rfl

theorem said_append (s : System) (earlier later : List Turn) :
    s.said (earlier ++ later) = s.said earlier ++ (s.play earlier).said later := by
  simp only [said, reports_append, List.map_append]

theorem play_retargeted (s : System) (target : Target) (turns : List Turn) :
    ∃ target', System.play { s with target } turns = { s.play turns with target := target' } := by
  cases turns with
  | nil => exact ⟨target, rfl⟩
  | cons turn rest => exact ⟨_, rfl⟩

theorem said_retargeted (s : System) (target : Target) (turns : List Turn) :
    System.said { s with target } turns = s.said turns := by
  cases turns <;> rfl

theorem exists_play_eq_run (s : System) (operations : List Operation) :
    ∃ turns : List Turn,
      turns.map Turn.operation = operations ∧ s.play turns = s.run operations := by
  induction operations generalizing s with
  | nil => exact ⟨[], rfl, rfl⟩
  | cons operation rest ih =>
    obtain ⟨turns, same, played⟩ := ih (s.perform operation).system
    refine ⟨⟨operation, s.target⟩ :: turns, ?_, ?_⟩
    · simp only [List.map_cons, same]
    · simpa only [play_cons, turn, run, List.foldl_cons] using played

theorem exists_play_eq_performDuring (s : System) (index : Nat) (completion : Completion)
    (operation : Device.Operation) :
    ∃ turns, s.play turns = (s.performDuring index completion operation).system := by
  simp only [performDuring]
  split
  · exact ⟨[], rfl⟩
  · exact ⟨[], rfl⟩
  · obtain ⟨turns, -, played⟩ :=
      exists_play_eq_run s [.complete index completion, .device operation]
    exact ⟨turns, played⟩

theorem condition_submit (s : System) (command : Command) :
    (s.submit command).condition = s.condition := by
  simp only [submit]
  split <;> rfl

theorem condition_submits (s : System) (commands : List Command) :
    (commands.foldl submit s).condition = s.condition := by
  induction commands generalizing s with
  | nil => rfl
  | cons command rest ih => rw [List.foldl_cons, ih, condition_submit]

@[simp] theorem condition_release (s : System) (answer : Answer) :
    (s.release answer).system.condition = s.condition := condition_submits _ _

theorem release_nothing {s : System} (nothing : s.device.submissions = []) (answer : Answer) :
    s.release answer =
      { system := { s with device := { s.device with submissions := [], events := [] } }
        answer, events := s.device.events } := by
  simp [release, nothing]

theorem condition_of_pick? {s rest : System} {index : Nat} {command : Command}
    (picked : s.pick? index = some (command, rest)) : rest.condition = s.condition := by
  obtain ⟨found, -, pair⟩ := Option.map_eq_some_iff.mp picked
  obtain ⟨-, rfl⟩ := Prod.mk.inj pair
  rfl

theorem condition_completeUnheard (s : System) (index : Nat) (completion : Completion)
    (event : Event) :
    (s.completeUnheard index completion event).system.condition = s.condition := by
  simp only [completeUnheard]
  split
  next picked => exact condition_of_pick? picked
  next => rfl

theorem condition_operateBroken (s : System) (operation : Device.Operation) :
    (s.operateBroken operation).system = s := by
  cases operation <;> simp only [operateBroken]
  split <;> rfl

-- Nothing mends a device, so only a working one can leave a working one behind.
theorem working_of_turn {s : System} {turn : Turn}
    (working : (s.turn turn).system.condition = .working) : s.condition = .working := by
  cases now : s.condition with
  | working => rfl
  | broken =>
    exfalso
    simp only [System.turn, perform, now] at working
    split at working
    all_goals simp_all [condition_operateBroken, condition_completeUnheard]
  | removed =>
    exfalso
    simp only [System.turn, perform, now] at working
    split at working
    all_goals simp_all [condition_completeUnheard]

theorem working_of_play {s : System} {turns : List Turn}
    (working : (s.play turns).condition = .working) : s.condition = .working := by
  induction turns generalizing s with
  | nil => exact working
  | cons turn rest ih => exact working_of_turn (ih working)

theorem play_induction {start : System} (holds : List Turn → System → Prop)
    (created : holds [] start)
    (kept : ∀ turns turn, holds turns (start.play turns) →
      (start.play turns).condition = .working →
      ((start.play turns).turn turn).system.condition = .working →
      holds (turns ++ [turn]) ((start.play turns).turn turn).system)
    (turns : List Turn) (working : (start.play turns).condition = .working) :
    holds turns (start.play turns) := by
  induction turns using List.reverseRecOn with
  | nil => exact created
  | append_singleton turns turn ih =>
    rw [play_append, play_cons, play_nil] at working ⊢
    have before := working_of_turn working
    exact kept turns turn (ih before) before working

theorem turn_cases {s : System} {turn : Turn} (before : s.condition = .working)
    (after : (s.turn turn).system.condition = .working) :
    (∃ operation, turn.operation = .device operation ∧
      (s.device.operate operation).2 ≠ .dispatched .faulted ∧
      s.turn turn = release
        { s with target := turn.target, device := (s.device.operate operation).1 }
        (s.device.operate operation).2) ∨
    (∃ index completion command, turn.operation = .complete index completion ∧
      s.waiting[index]? = some command ∧
      s.turn turn = release
        { s with
          target := turn.target
          device := s.device.settle command completion
          waiting := s.waiting.eraseIdx index } .done) ∨
    (∃ index completion, turn.operation = .complete index completion ∧
      s.waiting[index]? = none ∧
      s.turn turn = { system := { s with target := turn.target }, answer := .noCommand }) := by
  obtain ⟨operation, target⟩ := turn
  cases operation with
  | device operation =>
    refine .inl ⟨operation, rfl, ?_⟩
    simp only [System.turn, perform, before, operate] at after ⊢
    split at after
    next => simp at after
    next fine operated =>
      rw [operated]
      exact ⟨fine, rfl⟩
  | complete index completion =>
    refine .inr ?_
    cases found : s.waiting[index]? with
    | none =>
      refine .inr ⟨index, completion, rfl, found, ?_⟩
      simp [System.turn, perform, before, complete, pick?, found]
    | some command =>
      refine .inl ⟨index, completion, command, rfl, found, ?_⟩
      simp [System.turn, perform, before, complete, pick?, found]
  | remove => simp [System.turn, perform] at after

theorem turn_releasing_nothing {s : System} {turn : Turn} {operation : Device.Operation}
    {e : Device} {answer : Answer} (working : s.condition = .working)
    (operates : turn.operation = .device operation)
    (operated : s.device.operate operation = (e, answer))
    (fine : answer ≠ .dispatched .faulted) (nothing : e.submissions = []) :
    s.turn turn =
      { system := { s with
          target := turn.target
          device := { e with submissions := [], events := [] } }
        answer, events := e.events } := by
  have performed : s.turn turn = operate { s with target := turn.target } operation := by
    simp only [System.turn, perform, operates, working]
  have released : s.turn turn = release { s with target := turn.target, device := e } answer := by
    rw [performed]
    unfold operate
    rw [operated]
    split
    next same => exact absurd (Prod.mk.inj same).2 fine
    next same =>
      obtain ⟨rfl, rfl⟩ := Prod.mk.inj same
      rfl
  rw [released, release_nothing (s := { s with target := turn.target, device := e }) nothing]

theorem turn_operation {s : System} (working : s.condition = .working)
    {operation : Device.Operation} (fine : (s.device.operate operation).2 ≠ .dispatched .faulted)
    (nothing : (s.device.operate operation).1.submissions = []) (target : Target) :
    s.turn ⟨.device operation, target⟩ =
      { system := { s with
          target
          device := { (s.device.operate operation).1 with submissions := [], events := [] } }
        answer := (s.device.operate operation).2
        events := (s.device.operate operation).1.events } :=
  turn_releasing_nothing working rfl rfl fine nothing

theorem operate_eq (s : System) (operation : Device.Operation) :
    s.operate operation =
      release
        { s with
          device := (s.device.operate operation).1
          condition := if (s.device.operate operation).2 = .dispatched .faulted then .broken
            else s.condition }
        (s.device.operate operation).2 := by
  simp only [operate]
  split
  next operated => simp [operated]
  next device answer fine operated =>
    have other : answer ≠ .dispatched .faulted := by
      rintro rfl
      exact fine rfl
    simp [operated, other]

theorem answer_turn {s : System} (working : s.condition = .working) (operation : Device.Operation)
    (target : Target) :
    (s.turn ⟨.device operation, target⟩).answer = (s.device.operate operation).2 := by
  simp only [turn, perform, working, operate_eq]
  rfl

theorem dispatch_of_answer {s : System} (working : s.condition = .working) {address : UInt8}
    {urb : Urb} {target : Target} {result : Dispatched}
    (answered : (s.turn ⟨.device (.dispatch address urb), target⟩).answer = .dispatched result) :
    (s.device.dispatch address urb).2 = result := by
  rw [answer_turn working] at answered
  exact Answer.dispatched.inj answered

theorem turn_dispatch {s : System} (working : s.condition = .working) {address : UInt8}
    {urb : Urb} (fine : (s.device.dispatch address urb).2 ≠ .faulted)
    (nothing : (s.device.dispatch address urb).1.submissions = []) (target : Target) :
    s.turn ⟨.device (.dispatch address urb), target⟩ =
      { system := { s with
          target
          device := { (s.device.dispatch address urb).1 with submissions := [], events := [] } }
        answer := .dispatched (s.device.dispatch address urb).2
        events := (s.device.dispatch address urb).1.events } :=
  turn_releasing_nothing working rfl rfl (fun faulted => fine (Answer.dispatched.inj faulted))
    nothing

theorem perform_complete_missing {s : System} {index : Nat} (missing : s.waiting[index]? = none)
    (completion : Completion) :
    s.perform (.complete index completion) = { system := s, answer := .noCommand } := by
  cases condition : s.condition <;>
    simp [perform, condition, complete, completeUnheard, pick?, missing]

theorem perform_complete_heard {s : System} {index : Nat} {command : Command}
    (found : s.waiting[index]? = some command) (working : s.condition = .working)
    (completion : Completion) :
    s.perform (.complete index completion) =
      release
        { s with
          device := s.device.settle command completion
          waiting := s.waiting.eraseIdx index } .done := by
  simp [perform, working, complete, pick?, found]

theorem perform_complete_unheard {s : System} {index : Nat} {command : Command}
    (found : s.waiting[index]? = some command) (deaf : s.condition ≠ .working)
    (completion : Completion) :
    ∃ events, s.perform (.complete index completion) =
      { system := { s with waiting := s.waiting.eraseIdx index }, answer := .done, events } := by
  cases condition : s.condition with
  | working => exact absurd condition deaf
  | broken | removed => exact ⟨_, by simp [perform, condition, completeUnheard, pick?, found]; rfl⟩

-- What a device keeps while commands that are `good` are submitted and end.
structure Durable (holds : Device → Prop) (good : Command → Prop) : Prop where
  told (d : Device) (events : List Event) : holds d → holds { d with events }
  drained (d : Device) : holds d → holds { d with submissions := [] }
  issued (d : Device) : holds d → ∀ command ∈ d.submissions, good command
  ended (d : Device) (command : Command) (completion : Completion) : good command → holds d →
    holds (d.settle command completion)

namespace Durable

variable {holds : Device → Prop} {good : Command → Prop} {s : System}

theorem submit (durable : Durable holds good) (device : holds s.device)
    (waiting : ∀ command ∈ s.waiting, good command) {command : Command} (submitted : good command) :
    holds (s.submit command).device ∧ ∀ other ∈ (s.submit command).waiting, good other := by
  have logged (event : Event) : holds (s.device.log event) := durable.told s.device _ device
  simp only [System.submit]
  split
  · refine ⟨logged _, ?_⟩
    intro other member
    rcases List.mem_append.mp member with old | new
    · exact waiting other old
    · rw [List.mem_singleton.mp new]
      exact submitted
  · exact ⟨durable.ended _ command _ submitted (logged _), waiting⟩

theorem submits (durable : Durable holds good) (device : holds s.device)
    (waiting : ∀ command ∈ s.waiting, good command) {commands : List Command}
    (submitted : ∀ command ∈ commands, good command) :
    holds (commands.foldl System.submit s).device ∧
      ∀ other ∈ (commands.foldl System.submit s).waiting, good other := by
  induction commands generalizing s with
  | nil => exact ⟨device, waiting⟩
  | cons command rest ih =>
    obtain ⟨first, others⟩ := List.forall_mem_cons.mp submitted
    obtain ⟨next, left⟩ := durable.submit device waiting first
    exact ih next left others

theorem release (durable : Durable holds good) (device : holds s.device)
    (waiting : ∀ command ∈ s.waiting, good command) (answer : Answer) :
    holds (s.release answer).system.device ∧
      ∀ command ∈ (s.release answer).system.waiting, good command := by
  have emptied : holds { s.device with submissions := [] } := durable.drained _ device
  obtain ⟨submitted, left⟩ := durable.submits (s := { s with device.submissions := [] }) emptied
    waiting (durable.issued _ device)
  exact ⟨durable.told _ [] submitted, left⟩

theorem turn (durable : Durable holds good) {turn : Turn} (before : s.condition = .working)
    (after : (s.turn turn).system.condition = .working) (device : holds s.device)
    (waiting : ∀ command ∈ s.waiting, good command)
    (operated : ∀ operation, turn.operation = .device operation →
      holds (s.device.operate operation).1) :
    holds (s.turn turn).system.device ∧
      ∀ command ∈ (s.turn turn).system.waiting, good command := by
  rcases turn_cases before after with ⟨operation, same, -, report⟩ |
    ⟨index, completion, command, -, found, report⟩ | ⟨index, completion, -, -, report⟩
  · rw [report]
    have held := operated operation same
    exact durable.release
      (s := { s with target := turn.target, device := (s.device.operate operation).1 })
      held waiting _
  · rw [report]
    have picked := waiting command (List.mem_of_getElem? found)
    refine durable.release (durable.ended _ command completion picked device) ?_ _
    exact fun other member => waiting other (List.mem_of_mem_eraseIdx member)
  · rw [report]
    exact ⟨device, waiting⟩

end Durable

end System

inductive SavedState.Genuine : SavedState → Prop where
  | saved (settings : Settings) (location : String) (target : Target) (turns : List Turn)
    (state : SavedState)
    (restored : ∀ turn ∈ turns, ∀ earlier, turn.operation = .device (.restore earlier) →
      Genuine earlier)
    (working : ((System.create settings location target).play turns).condition = .working)
    (answer : ((System.create settings location target).play turns).device.save = .ok state) :
    Genuine state

def Turn.Genuine (turn : Turn) : Prop :=
  ∀ state, turn.operation = .device (.restore state) → state.Genuine

theorem SavedState.genuine_fresh : SavedState.Genuine {} :=
  .saved {} "lun0" .holds [] {} (by simp) rfl rfl

def readSix : CommandWrapper :=
  { tag := 7, transferLength := 4, flags := 0x80, blockLength := 6
    block := Bytes.padded 16 [0x08] }

def sendReadSix (id : Nat) : Turn :=
  { operation := .device (.dispatch 0x02 (.bulkOut id readSix.encode)) }

def readBulk (id length : Nat) : Turn :=
  { operation := .device (.dispatch 0x81 (.bulkIn id length)) }

end BulkOnly
