import BulkOnly.Proofs.Conservation
import BulkOnly.Proofs.Isolation
import BulkOnly.Proofs.Issues
import BulkOnly.Proofs.Writing

set_option autoImplicit false

namespace BulkOnly

theorem Target.eq_holds_of_take {target : Target} (keeps : target.take.2 = none) :
    target = .holds := by
  cases target with
  | holds => rfl
  | drops => cases keeps
  | answers next later => cases later <;> cases keeps

namespace Device

variable {d : Device}

theorem operate_submits (operation : Device.Operation) (released : d.submissions = []) :
    (d.operate operation).1.submissions = [] ∨
      ∃ address urb command, operation = .dispatch address urb ∧
        (d.dispatch address urb).1.submissions = [command] ∧
        d.TakesUp urb (d.dispatch address urb) := by
  rcases operate_issues d operation with same | ⟨address, urb, rfl, taken⟩
  · exact .inl (same.trans released)
  rcases dispatch_handover d address urb with same | ⟨t, -, -, -, single⟩ |
    ⟨generation, -, -, -, same⟩
  · exact .inl (same.submissions.trans released)
  · rw [released] at single
    exact .inr ⟨address, urb, ⟨d.nextGeneration, t⟩, rfl, single, taken⟩
  · exact .inl (same.trans released)

theorem TakesUp.fine {urb : Urb} {dispatched : Device × Dispatched}
    (taken : d.TakesUp urb dispatched) : dispatched.2 ≠ .faulted := by
  cases taken with
  | completed e frame same =>
    rw [same]
    nofun
  | parked e frame same =>
    rw [same]
    nofun

end Device

namespace System

open Device

variable {s : System} {command : Command} {completion : Completion}

theorem release_kept (single : s.device.submissions = [command]) (keeps : s.target.take.2 = none)
    (answer : Answer) :
    s.release answer =
      { system := { s with
          target := s.target.take.1
          device := { s.device with submissions := [], events := [] }
          waiting := s.waiting ++ [command] }
        answer
        submitted := [command]
        events := s.device.events ++
          [.submitting command.generation command.block command.direction command.length] } := by
  simp [release, single, submit, keeps, log]

-- The target ends the command with the device that it would find afterwards, but for the log.
theorem release_ended (single : s.device.submissions = [command])
    (ends : s.target.take.2 = some completion) (answer : Answer) :
    let after := settle { s.device with submissions := [], events := [] } command completion
    s.release answer =
      { system := { s with
          target := s.target.take.1
          device := { after with events := [] } }
        answer
        submitted := [command]
        events := s.device.events ++
          [.submitting command.generation command.block command.direction command.length] ++
          after.events } := by
  intro after
  have settled : (log { s.device with submissions := [] }
      (.submitting command.generation command.block command.direction command.length)).settle
        command completion = after.withPast (s.device.events ++
          [.submitting command.generation command.block command.direction command.length]) 0 := by
    rw [← settle_withPast]
    simp [withPast, log]
  simp only [release, single, List.foldl_cons, List.foldl_nil, submit, ends, settled]
  simp [withPast]

theorem turn_working (working : s.condition = .working) {operation : Device.Operation}
    (fine : (s.device.operate operation).2 ≠ .dispatched .faulted) (target : Target) :
    s.turn ⟨.device operation, target⟩ =
      release { s with target, device := (s.device.operate operation).1 }
        (s.device.operate operation).2 := by
  simp only [turn, perform, working, operate_eq, if_neg fine]

theorem release_retargeted (nothing : s.device.submissions = []) (answer : Answer)
    (target : Target) :
    release { s with target } answer =
      { s.release answer with system := { (s.release answer).system with target } } := by
  rw [release_nothing nothing, release_nothing (s := { s with target }) nothing]

theorem perform_deaf_retargeted (deaf : s.condition ≠ .working) (operation : Operation)
    (target : Target) :
    System.perform { s with target } operation =
      { s.perform operation with
        system := { (s.perform operation).system with target } } := by
  obtain ⟨device, before, condition, waiting⟩ := s
  cases condition with
  | working => exact absurd rfl deaf
  | removed =>
    cases operation with
    | device asked | remove => rfl
    | complete index completion =>
      simp only [perform, completeUnheard, pick?]
      cases waiting[index]? <;> rfl
  | broken =>
    cases operation with
    | remove => rfl
    | complete index completion =>
      simp only [perform, completeUnheard, pick?]
      cases waiting[index]? <;> rfl
    | device asked =>
      cases asked <;> simp only [perform, operateBroken]
      split <;> rfl

theorem perform_retargeted {operation : Operation} (nothing : (s.perform operation).submitted = [])
    (target : Target) :
    System.perform { s with target } operation =
      { s.perform operation with
        system := { (s.perform operation).system with target } } := by
  by_cases working : s.condition = .working
  case neg => exact perform_deaf_retargeted working operation target
  cases operation with
  | remove => rfl
  | device asked =>
    simp only [perform, working, operate_eq] at nothing ⊢
    exact release_retargeted
      (s := { s with
        device := (s.device.operate asked).1
        condition := if (s.device.operate asked).2 = .dispatched .faulted then .broken
          else .working }) nothing _ target
  | complete index completion =>
    cases found : s.waiting[index]? with
    | none =>
      rw [perform_complete_missing found, perform_complete_missing (s := { s with target }) found]
    | some command =>
      rw [perform_complete_heard found working] at nothing ⊢
      rw [perform_complete_heard (s := { s with target }) found working]
      exact release_retargeted
        (s := { s with
          device := s.device.settle command completion
          waiting := s.waiting.eraseIdx index }) nothing _ target

theorem turn_retargeted {operation : Operation} {target : Target}
    (nothing : (s.turn ⟨operation, target⟩).submitted = []) (other : Target) :
    s.turn ⟨operation, other⟩ =
      { s.turn ⟨operation, target⟩ with
        system := { (s.turn ⟨operation, target⟩).system with target := other } } :=
  perform_retargeted (s := { s with target }) nothing other

variable {address : UInt8} {urb : Urb}

theorem turn_submits (reached : s.condition = .working → s.Reached) (operation : Operation)
    (target : Target) :
    (s.turn ⟨operation, target⟩).submitted = [] ∨
      s.Reached ∧ ∃ address urb command, operation = .device (.dispatch address urb) ∧
        (s.device.dispatch address urb).1.submissions = [command] ∧
        s.device.TakesUp urb (s.device.dispatch address urb) := by
  rcases perform_cases { s with target } operation with
    ⟨asked, rfl, working, performed⟩ |
    ⟨index, completion, command, rfl, working, found, performed⟩ | unheard
  · have report : s.turn ⟨.device asked, target⟩ = _ := performed
    rw [report]
    rcases operate_submits asked (reached working).released with nothing |
      ⟨address, urb, command, rfl, single, taken⟩
    · exact .inl nothing
    · exact .inr ⟨reached working, address, urb, command, rfl, single, taken⟩
  · left
    rw [turn_completing (s := s) found working (reached working).released]
  · exact .inl unheard.submitted

def keeping (s : System) (address : UInt8) (urb : Urb) (command : Command) : System :=
  { s with
    target := .holds
    device := { (s.device.dispatch address urb).1 with submissions := [], events := [] }
    waiting := s.waiting ++ [command] }

variable (working : s.condition = .working)
  (single : (s.device.dispatch address urb).1.submissions = [command])
  (taken : s.device.TakesUp urb (s.device.dispatch address urb))

include working single taken

theorem turn_command_kept :
    s.turn ⟨.device (.dispatch address urb), .holds⟩ =
      { system := s.keeping address urb command
        answer := .dispatched (s.device.dispatch address urb).2
        submitted := [command]
        events := (s.device.dispatch address urb).1.events ++
          [.submitting command.generation command.block command.direction command.length] } := by
  have fine : (s.device.operate (.dispatch address urb)).2 ≠ .dispatched .faulted :=
    fun faulted => taken.fine (Answer.dispatched.inj faulted)
  rw [turn_working working fine]
  exact release_kept
    (s := { s with target := .holds, device := (s.device.dispatch address urb).1 }) single rfl _

theorem turn_command_ended {target : Target} (ends : target.take.2 = some completion) :
    let after := (s.keeping address urb command).device.settle command completion
    s.turn ⟨.device (.dispatch address urb), target⟩ =
      { system := { s with target := target.take.1, device := { after with events := [] } }
        answer := .dispatched (s.device.dispatch address urb).2
        submitted := [command]
        events := (s.device.dispatch address urb).1.events ++
          [.submitting command.generation command.block command.direction command.length] ++
          after.events } := by
  have fine : (s.device.operate (.dispatch address urb)).2 ≠ .dispatched .faulted :=
    fun faulted => taken.fine (Answer.dispatched.inj faulted)
  intro after
  rw [turn_working working fine]
  exact release_ended
    (s := { s with target, device := (s.device.dispatch address urb).1 }) single ends _

omit single taken in
theorem turn_kept_ending (address : UInt8) (urb : Urb) (command : Command)
    (completion : Completion) :
    let after := (s.keeping address urb command).device.settle command completion
    (s.keeping address urb command).turn ⟨.complete s.waiting.length completion, .holds⟩ =
      { system := { s with target := .holds, device := { after with events := [] } }
        answer := .done, events := after.events } := by
  have found : (s.keeping address urb command).waiting[s.waiting.length]? = some command := by
    simp [keeping]
  intro after
  rw [turn_completing found working rfl]
  simp [keeping, after, List.eraseIdx_append_of_length_le]

omit working single taken

def Placed (s r : System) (urb : Urb) (answer : Answer) : Prop :=
  (answer = .dispatched .completed ∧ r.device.done = s.device.done.append (urb.finished .ok) ∧
      r.device.parked = s.device.parked) ∨
    answer = .dispatched .queued ∧ r.device.parked = s.device.parked.append urb ∧
      r.device.done = s.device.done

theorem placed_keeping (taken : s.device.TakesUp urb (s.device.dispatch address urb))
    (command : Command) :
    s.Placed (s.keeping address urb command) urb
      (.dispatched (s.device.dispatch address urb).2) := by
  cases taken with
  | completed e frame same =>
    left
    simp only [keeping, same]
    exact ⟨trivial, congrArg (·.append (urb.finished .ok)) frame.done, frame.parked⟩
  | parked e frame same =>
    right
    simp only [keeping, same]
    exact ⟨trivial, congrArg (·.append urb) frame.parked, frame.done⟩

structure EndsRightAfter (s : System) (urb : Urb) (completion : Completion)
    (atOnce kept after : Report) : Prop where
  answer : atOnce.answer = kept.answer
  submitted : atOnce.submitted = kept.submitted
  unsubmitted : kept.submitted = [] →
    atOnce.system = { kept.system with target := atOnce.system.target } ∧
      atOnce.events = kept.events
  ended : kept.submitted ≠ [] → after.answer = .done ∧ after.submitted = [] ∧
    atOnce.system = { after.system with target := atOnce.system.target } ∧
    atOnce.events = kept.events ++ after.events
  placed : kept.submitted ≠ [] → s.Placed kept.system urb kept.answer
  device : ∀ command ∈ kept.submitted, atOnce.system.device =
    { kept.system.device.settle command completion with events := [] }

theorem turn_endsRightAfter (reached : s.Reached) (address : UInt8) (urb : Urb) {target : Target}
    (ends : target.take.2 = some completion) :
    s.EndsRightAfter urb completion
      (s.turn ⟨.device (.dispatch address urb), target⟩)
      (s.turn ⟨.device (.dispatch address urb), .holds⟩)
      ((s.turn ⟨.device (.dispatch address urb), .holds⟩).system.turn
        ⟨.complete s.waiting.length completion, .holds⟩) := by
  rcases turn_submits (fun _ => reached) (.device (.dispatch address urb)) .holds with nothing |
    ⟨-, address', urb', command, same, single, taken⟩
  · rw [turn_retargeted nothing target]
    exact ⟨rfl, rfl, fun _ => ⟨rfl, rfl⟩, fun some => absurd nothing some,
      fun some => absurd nothing some, by rw [nothing]; nofun⟩
  · cases same
    rw [turn_command_kept reached.working single taken,
      turn_command_ended reached.working single taken ends, turn_kept_ending reached.working]
    refine ⟨rfl, rfl, nofun, fun _ => ⟨rfl, rfl, rfl, rfl⟩, fun _ => ?_, ?_⟩
    · exact placed_keeping taken command
    · rintro other member
      rw [List.mem_singleton.mp member]

-- The turns in which a command that would end at once ends right after its submission instead.
def postponed (s : System) (turn : Turn) : List Turn :=
  ⟨turn.operation, .holds⟩ ::
    if (s.turn ⟨turn.operation, .holds⟩).submitted = [] then []
    else turn.target.take.2.toList.map fun completion =>
      ⟨.complete s.waiting.length completion, .holds⟩

def postponing (s : System) : List Turn → List Turn
  | [] => []
  | turn :: rest => s.postponed turn ++ (s.play (s.postponed turn)).postponing rest

def gathered (s : System) (turn : Turn) : Answer × List Command × List Event :=
  ((s.turn ⟨turn.operation, .holds⟩).answer, s.submitted (s.postponed turn),
    s.told (s.postponed turn))

def saidPostponing (s : System) : List Turn → List (Answer × List Command × List Event)
  | [] => []
  | turn :: rest => s.gathered turn :: (s.play (s.postponed turn)).saidPostponing rest

theorem turn_postponed (reached : s.condition = .working → s.Reached) (turn : Turn) :
    (s.turn turn).system =
        { s.play (s.postponed turn) with target := (s.turn turn).system.target } ∧
      (s.turn turn).said = s.gathered turn := by
  obtain ⟨operation, target⟩ := turn
  have alone (same : s.postponed ⟨operation, target⟩ = [⟨operation, .holds⟩]) :
      s.play (s.postponed ⟨operation, target⟩) = (s.turn ⟨operation, .holds⟩).system ∧
        s.gathered ⟨operation, target⟩ = (s.turn ⟨operation, .holds⟩).said := by
    simp [gathered, same, Report.said, submitted, told, reports]
  by_cases nothing : (s.turn ⟨operation, .holds⟩).submitted = []
  · obtain ⟨played, gathered⟩ := alone (by simp only [postponed, if_pos nothing])
    rw [played, gathered, turn_retargeted nothing target]
    exact ⟨rfl, rfl⟩
  rcases turn_submits reached operation .holds with none_submitted |
    ⟨reached, address, urb, command, rfl, single, taken⟩
  · exact absurd none_submitted nothing
  cases ends : target.take.2 with
  | none =>
    obtain rfl := Target.eq_holds_of_take ends
    obtain ⟨played, gathered⟩ := alone (by simp [postponed, ends])
    rw [played, gathered]
    exact ⟨rfl, rfl⟩
  | some completion =>
    have kept := turn_command_kept reached.working single taken
    have ending := turn_kept_ending reached.working address urb command completion
    have both : s.postponed ⟨.device (.dispatch address urb), target⟩ =
        [⟨.device (.dispatch address urb), .holds⟩,
          ⟨.complete s.waiting.length completion, .holds⟩] := by
      simp only [postponed, if_neg nothing, ends]
      rfl
    rw [gathered, both, turn_command_ended reached.working single taken ends]
    simp [play_cons, submitted, told, reports, Report.said, kept, ending]

theorem play_postponing (reached : s.condition = .working → s.Reached) (turns : List Turn) :
    s.play turns = { s.play (s.postponing turns) with target := (s.play turns).target } ∧
      s.said turns = s.saidPostponing turns := by
  induction turns generalizing s with
  | nil => exact ⟨rfl, rfl⟩
  | cons turn rest ih =>
    obtain ⟨system, said⟩ := turn_postponed reached turn
    have later := ih (s := s.play (s.postponed turn)) fun working =>
      (reached (working_of_play working)).play working
    obtain ⟨target, played⟩ :=
      play_retargeted (s.play (s.postponed turn)) (s.turn turn).system.target rest
    rw [← system] at played
    constructor
    · rw [postponing, play_append, play_cons, played, later.1]
    · rw [said_cons, saidPostponing, said, ← later.2, system, said_retargeted]

structure InsideAsRightAfter (s : System) : Prop where
  dispatch : ∀ address urb target completion, target.take.2 = some completion →
    s.EndsRightAfter urb completion
      (s.turn ⟨.device (.dispatch address urb), target⟩)
      (s.turn ⟨.device (.dispatch address urb), .holds⟩)
      ((s.turn ⟨.device (.dispatch address urb), .holds⟩).system.turn
        ⟨.complete s.waiting.length completion, .holds⟩)
  play : ∀ turns,
    s.play turns = { s.play (s.postponing turns) with target := (s.play turns).target }
  said : ∀ turns, s.said turns = s.saidPostponing turns

theorem inside_as_right_after (reached : s.Reached) : s.InsideAsRightAfter where
  dispatch address urb _ _ ends := turn_endsRightAfter reached address urb ends
  play turns := (play_postponing (fun _ => reached) turns).1
  said turns := (play_postponing (fun _ => reached) turns).2

-- Two of the eight bytes of a write have come in when the host reads the status.
def twoOfEight : List Turn :=
  [.send (.bulkOut 1 writeEight.encode), .send (.bulkOut 2 [1, 2])]

theorem inside_as_right_after_twoOfEight :
    ((create {} "lun0" .holds).play twoOfEight).Reached ∧
      ((create {} "lun0" .holds).play twoOfEight).InsideAsRightAfter ∧
      ((create {} "lun0" .holds).play twoOfEight).postponed
          ⟨.device (.dispatch 0x81 (.bulkIn 3 13)), .drops⟩ =
        [⟨.device (.dispatch 0x81 (.bulkIn 3 13)), .holds⟩,
          ⟨.complete 0 { ending := .dropped }, .holds⟩] := by
  have reached : ((create {} "lun0" .holds).play twoOfEight).Reached :=
    ⟨{}, "lun0", .holds, twoOfEight, rfl, by decide⟩
  exact ⟨reached, inside_as_right_after reached, by decide⟩

end System

end BulkOnly
