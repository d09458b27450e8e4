import BulkOnly.Proofs.Conservation
import BulkOnly.Proofs.History
import BulkOnly.Proofs.ParkedReads

set_option autoImplicit false

namespace BulkOnly

namespace Device

inductive Step where
  | operate (operation : Device.Operation)
  | hear (command : Command) (completion : Completion)
  | resume (urb : Urb)
  | finishReset
  deriving DecidableEq, Repr

def step (d : Device) : Step → Device
  | .operate operation => (d.operate operation).1
  | .hear command completion =>
    if d.slot = .executing command.generation then
      { d.heard command completion with parked := .empty }
    else d.settle command completion
  | .resume urb => d.resume urb
  | .finishReset => d.finishReset .bulkOnly

def settleSteps (d : Device) (command : Command) (completion : Completion) : List Step :=
  .hear command completion ::
    if d.slot = .executing command.generation then
      d.parked.toList.map .resume ++ if d.pendingReset.isSome then [.finishReset] else []
    else []

theorem foldl_step_resume (d : Device) (urbs : List Urb) :
    (urbs.map Step.resume).foldl step d = urbs.foldl resume d := by
  rw [List.foldl_map]
  rfl

theorem settle_eq_steps (d : Device) (command : Command) (completion : Completion) :
    d.settle command completion = (d.settleSteps command completion).foldl step d := by
  by_cases executing : d.slot = .executing command.generation
  · rw [settle_eq completion executing, settleSteps, if_pos executing, List.foldl_cons,
      List.foldl_append, foldl_step_resume, step, if_pos executing]
    split
    next => rfl
    next => rfl
  · rw [settleSteps, if_neg executing, List.foldl_cons, List.foldl_nil, step, if_neg executing]

end Device

structure Moment where
  before : Device
  step : Device.Step

namespace Moment

def after (moment : Moment) : Device := moment.before.step moment.step

-- Whatever was submitted earlier has been released by then.
def submitted (moment : Moment) : List Command := moment.after.submissions

end Moment

def Device.momentsOf : Device → List Device.Step → List Moment
  | _, [] => []
  | d, step :: rest => ⟨d, step⟩ :: (d.step step).momentsOf rest

theorem Device.momentsOf_append (d : Device) (earlier later : List Device.Step) :
    d.momentsOf (earlier ++ later) =
      d.momentsOf earlier ++ (earlier.foldl Device.step d).momentsOf later := by
  induction earlier generalizing d with
  | nil => rfl
  | cons step rest ih =>
    simp only [List.cons_append, momentsOf, ih, List.foldl_cons]

namespace System

open Device

def submitMoments (s : System) (command : Command) : List Moment :=
  match s.target.take.2 with
  | none => []
  | some completion =>
    let told := s.device.log (.submitting command.generation command.block command.direction
      command.length)
    told.momentsOf (told.settleSteps command completion)

def submitsMoments : System → List Command → List Moment
  | _, [] => []
  | s, command :: rest => s.submitMoments command ++ (s.submit command).submitsMoments rest

def releaseMoments (s : System) : List Moment :=
  submitsMoments { s with device.submissions := [] } s.device.submissions

def performMoments (s : System) (operation : Operation) : List Moment :=
  match operation, s.condition with
  | .device operation, .working =>
    ⟨s.device, .operate operation⟩ :: (s.operated operation).releaseMoments
  | .complete index completion, .working =>
    match s.pick? index with
    | some (command, s) => s.device.momentsOf (s.device.settleSteps command completion)
    | none => []
  | _, _ => []

theorem performMoments_unheard {s : System} {operation : Operation}
    (unheard : s.Unheard operation) : s.performMoments operation = [] := by
  cases condition : s.condition with
  | broken | removed => simp only [performMoments, condition]
  | working =>
    cases operation with
    | device asked => exact absurd rfl (unheard.asks condition asked)
    | complete index completion =>
      simp [performMoments, condition, pick?, unheard.ends condition index completion rfl]
    | remove => simp only [performMoments]

def moments (s : System) : List Turn → List Moment
  | [] => []
  | turn :: rest =>
    performMoments { s with target := turn.target } turn.operation ++
      (s.turn turn).system.moments rest

end System

namespace Device

def Step.Follows (step : Step) (earlier : List Moment) (d : Device) : Prop :=
  match step with
  | .operate operation => ∀ saved, operation ≠ .restore saved
  | .hear command _ => command ∈ earlier.flatMap Moment.submitted
  | .resume _ | .finishReset => d.slot.Calm

-- From one moment to the next only the log and the submissions are taken away.
inductive Path (start : Device) : List Moment → Device → Prop where
  | start : Path start [] start
  | told {moments : List Moment} {d : Device} (events : List Event) :
    Path start moments d → Path start moments { d with events }
  | released {moments : List Moment} {d : Device} :
    Path start moments d → Path start moments { d with submissions := [] }
  | step {moments : List Moment} {d : Device} {step : Step} :
    Path start moments d → d.submissions = [] → step.Follows moments d →
      Path start (moments ++ [⟨d, step⟩]) (d.step step)

namespace Path

variable {start d : Device} {moments : List Moment}

theorem last {moment : Moment} (path : Path start (moments ++ [moment]) d) :
    Path start moments moment.before ∧ moment.before.submissions = [] ∧
      moment.step.Follows moments moment.before ∧
      ∃ events submissions, d = { moment.after with events, submissions } := by
  generalize whole : moments ++ [moment] = all at path
  induction path with
  | start => simp at whole
  | told events path ih =>
    obtain ⟨earlier, released, follows, events, submissions, rfl⟩ := ih whole
    exact ⟨earlier, released, follows, _, _, rfl⟩
  | released path ih =>
    obtain ⟨earlier, released, follows, events, submissions, rfl⟩ := ih whole
    exact ⟨earlier, released, follows, _, _, rfl⟩
  | step path released follows ih =>
    obtain ⟨rfl, rfl⟩ := List.append_singleton_inj.mp whole
    exact ⟨path, released, follows, _, _, rfl⟩

theorem earlier {later : List Moment} (path : Path start (moments ++ later) d) :
    ∃ e, Path start moments e := by
  induction later using List.reverseRecOn generalizing d with
  | nil => exact ⟨d, by simpa using path⟩
  | append_singleton later moment ih =>
    rw [← List.append_assoc] at path
    exact ih path.last.1

theorem at_moment {moment : Moment} {later : List Moment}
    (path : Path start (moments ++ moment :: later) d) :
    Path start moments moment.before ∧ moment.before.submissions = [] ∧
      moment.step.Follows moments moment.before := by
  rw [← List.singleton_append, ← List.append_assoc] at path
  obtain ⟨e, upTo⟩ := path.earlier
  obtain ⟨before, released, follows, -⟩ := upTo.last
  exact ⟨before, released, follows⟩

end Path

end Device

namespace Device

variable {start d : Device} {moments : List Moment}

structure Path.Continues (start : Device) (moments later : List Moment) (e : Device) : Prop where
  path : Path start (moments ++ later) e
  released : e.submissions = []
  nothing : later.flatMap Moment.submitted = []

namespace Path.Continues

theorem refl (path : Path start moments d) (released : d.submissions = []) :
    Continues start moments [] d :=
  ⟨by simpa using path, released, rfl⟩

theorem trans {e : Device} {first second : List Moment} (these : Continues start moments first d)
    (those : Continues start (moments ++ first) second e) :
    Continues start moments (first ++ second) e where
  path := by
    rw [← List.append_assoc]
    exact those.path
  released := those.released
  nothing := by rw [List.flatMap_append, these.nothing, those.nothing, List.append_nil]

theorem step (step : Step) (path : Path start moments d) (released : d.submissions = [])
    (follows : step.Follows moments d) (nothing : (d.step step).submissions = []) :
    Continues start moments [⟨d, step⟩] (d.step step) :=
  ⟨path.step released follows, nothing, by simp [Moment.submitted, Moment.after, nothing]⟩

end Path.Continues

open Device.Path

theorem continues_resumes (urbs : List Urb) (path : Path start moments d)
    (released : d.submissions = []) (calm : d.slot.Calm) :
    Continues start moments (d.momentsOf (urbs.map .resume)) (urbs.foldl resume d) := by
  induction urbs generalizing d moments with
  | nil => exact .refl path released
  | cons urb rest ih =>
    have next := resume_calm calm urb
    have nothing : (d.resume urb).submissions = [] := next.same.submissions.trans released
    have first := Continues.step (.resume urb) path released calm nothing
    exact first.trans (ih first.path nothing next.calm)

theorem continues_settle (path : Path start moments d) (released : d.submissions = [])
    {command : Command} (submitted : command ∈ moments.flatMap Moment.submitted)
    (completion : Completion) :
    Continues start moments (d.momentsOf (d.settleSteps command completion))
      (d.settle command completion) := by
  by_cases executing : d.slot = .executing command.generation
  · have heard : d.step (.hear command completion) =
        { d.heard command completion with parked := .empty } := if_pos executing
    have calm : (d.step (.hear command completion)).slot.Calm := by
      rw [heard]
      exact d.heard_calm command completion
    have nothing : (d.step (.hear command completion)).submissions = [] := by
      obtain ⟨events, same⟩ := d.heard_eq command completion
      rw [heard, same]
      exact released
    have first := Continues.step (.hear command completion) path released submitted nothing
    have reads := continues_resumes d.parked.toList first.path nothing calm
    have after := foldl_resume_calm calm d.parked.toList
    rw [settle_eq_steps, settleSteps, if_pos executing, momentsOf, List.foldl_cons,
      momentsOf_append, List.foldl_append, foldl_step_resume, ← List.singleton_append]
    refine first.trans (reads.trans ?_)
    split
    next =>
      refine .step .finishReset reads.path reads.released after.calm ?_
      exact (finishReset_sameCommand _ .bulkOnly).submissions.trans reads.released
    next => exact .refl reads.path reads.released
  · have nothing : (d.step (.hear command completion)).submissions = [] := by
      rw [step, if_neg executing, settle_submissions]
      exact released
    rw [settle_eq_steps, settleSteps, if_neg executing]
    exact .step (.hear command completion) path released submitted nothing

end Device

namespace System

open Device Device.Path

variable {start : Device} {moments : List Moment} {s : System}

structure Follows (start : Device) (moments : List Moment) (s : System) : Prop where
  path : Path start moments s.device
  released : s.device.submissions = []
  waiting : ∀ command ∈ s.waiting, command ∈ moments.flatMap Moment.submitted

theorem mem_later {later : List Moment} {command : Command}
    (member : command ∈ moments.flatMap Moment.submitted) :
    command ∈ (moments ++ later).flatMap Moment.submitted := by
  rw [List.flatMap_append]
  exact List.mem_append_left _ member

theorem Follows.continued (follows : Follows start moments s) {r : System} {later : List Moment}
    (device : Continues start moments later r.device)
    (waiting : ∀ command ∈ r.waiting, command ∈ s.waiting ∨
      command ∈ moments.flatMap Moment.submitted) : Follows start (moments ++ later) r where
  path := device.path
  released := device.released
  waiting command member := by
    rcases waiting command member with old | new
    · exact mem_later (follows.waiting command old)
    · exact mem_later new

theorem submit_follows (follows : Follows start moments s) {command : Command}
    (submitted : command ∈ moments.flatMap Moment.submitted) :
    Follows start (moments ++ s.submitMoments command) (s.submit command) ∧
      (s.submitMoments command).flatMap Moment.submitted = [] := by
  have path (event : Event) : Path start moments (s.device.log event) := follows.path.told _
  have released (event : Event) : (s.device.log event).submissions = [] := follows.released
  cases taken : s.target.take.2 with
  | none =>
    simp only [submitMoments, submit, taken]
    refine ⟨follows.continued (.refl (path _) (released _)) ?_, rfl⟩
    intro other member
    rcases List.mem_append.mp member with old | new
    · exact .inl old
    · rw [List.mem_singleton.mp new]
      exact .inr submitted
  | some completion =>
    have settled := continues_settle (path (.submitting command.generation command.block
      command.direction command.length)) (released _) submitted completion
    simp only [submitMoments, submit, taken]
    exact ⟨follows.continued settled fun other member => .inl member, settled.nothing⟩

theorem submits_follows {commands : List Command} (follows : Follows start moments s)
    (submitted : ∀ command ∈ commands, command ∈ moments.flatMap Moment.submitted) :
    Follows start (moments ++ s.submitsMoments commands) (commands.foldl submit s) ∧
      (s.submitsMoments commands).flatMap Moment.submitted = [] := by
  induction commands generalizing s moments with
  | nil => exact ⟨by simpa [submitsMoments] using follows, rfl⟩
  | cons command rest ih =>
    obtain ⟨first, others⟩ := List.forall_mem_cons.mp submitted
    obtain ⟨next, nothing⟩ := submit_follows follows first
    obtain ⟨onward, nothing'⟩ := ih next fun other member => mem_later (others other member)
    rw [submitsMoments, ← List.append_assoc, List.flatMap_append, nothing, nothing']
    exact ⟨onward, rfl⟩

theorem Follows.told (follows : Follows start moments s) (events : List Event) :
    Follows start moments { s with device := { s.device with events } } :=
  ⟨follows.path.told events, follows.released, follows.waiting⟩

theorem Follows.cleared (follows : Follows start moments s) :
    Follows start moments { s with device := { s.device with submissions := [] } } :=
  ⟨follows.path.released, rfl, follows.waiting⟩

theorem release_follows (path : Path start moments s.device)
    (waiting : ∀ command ∈ s.waiting, command ∈ moments.flatMap Moment.submitted)
    (submitted : ∀ command ∈ s.device.submissions, command ∈ moments.flatMap Moment.submitted)
    (answer : Answer) :
    Follows start (moments ++ s.releaseMoments) (s.release answer).system ∧
      s.releaseMoments.flatMap Moment.submitted = [] := by
  have drained : Follows start moments { s with device.submissions := [] } :=
    ⟨path.released, rfl, waiting⟩
  obtain ⟨onward, nothing⟩ := submits_follows drained submitted
  exact ⟨onward.told [], nothing⟩

structure Led (start : Device) (moments later : List Moment) (report : Report) : Prop where
  follows : Follows start (moments ++ later) report.system
  submitted : report.submitted = later.flatMap Moment.submitted

theorem Led.idle (follows : Follows start moments s) {report : Report}
    (system : report.system.device = s.device) (waiting : report.system.waiting ⊆ s.waiting)
    (nothing : report.submitted = []) : Led start moments [] report := by
  refine ⟨follows.continued (.refl ?_ ?_) fun command member => .inl (waiting member), nothing⟩
  · rw [system]
    exact follows.path
  · rw [system]
    exact follows.released

theorem operate_led (follows : Follows start moments s) {operation : Device.Operation}
    (fresh : ∀ saved, operation ≠ .restore saved) :
    Led start moments (⟨s.device, .operate operation⟩ :: (s.operated operation).releaseMoments)
      (s.operate operation) := by
  let now : Moment := ⟨s.device, .operate operation⟩
  have possible : now.step.Follows moments s.device := fresh
  have path : Path start (moments ++ [now]) (s.device.operate operation).1 :=
    follows.path.step follows.released possible
  have submitted : ∀ command ∈ (s.device.operate operation).1.submissions,
      command ∈ (moments ++ [now]).flatMap Moment.submitted := by
    intro command member
    rw [List.flatMap_append]
    exact List.mem_append_right _
      (List.mem_flatMap.mpr ⟨now, List.mem_singleton_self now, member⟩)
  obtain ⟨onward, nothing⟩ := release_follows (s := s.operated operation) path
    (fun command member => mem_later (follows.waiting command member)) submitted
    (s.device.operate operation).2
  rw [operate_eq]
  constructor
  · rw [← List.singleton_append, ← List.append_assoc]
    exact onward
  · rw [List.flatMap_cons, nothing, List.append_nil]
    rfl

theorem complete_led (follows : Follows start moments s) {index : Nat} {command : Command}
    (found : s.waiting[index]? = some command) (completion : Completion) :
    Led start moments (s.device.momentsOf (s.device.settleSteps command completion))
      (release
        { s with
          device := s.device.settle command completion
          waiting := s.waiting.eraseIdx index } .done) := by
  have submitted := follows.waiting command (List.mem_of_getElem? found)
  have settled := continues_settle follows.path follows.released submitted completion
  have after : Follows start
      (moments ++ s.device.momentsOf (s.device.settleSteps command completion))
      { s with
        device := s.device.settle command completion
        waiting := s.waiting.eraseIdx index } :=
    follows.continued settled fun other member => .inl (List.mem_of_mem_eraseIdx member)
  rw [release_nothing settled.released]
  refine ⟨?_, settled.nothing.symm⟩
  exact (after.told []).cleared

theorem follows_created (settings : Settings) (location : String) (target : Target) :
    Follows (create settings location target).device [] (create settings location target) :=
  ⟨.start, rfl, nofun⟩

theorem perform_led (follows : Follows start moments s) {operation : Operation}
    (fresh : ∀ saved, operation ≠ .device (.restore saved)) :
    Led start moments (s.performMoments operation) (s.perform operation) := by
  rcases perform_cases s operation with ⟨asked, rfl, working, -⟩ |
    ⟨index, completion, command, rfl, working, found, performed⟩ | unheard
  · have other : ∀ saved, asked ≠ .restore saved := by
      rintro saved rfl
      exact fresh saved rfl
    simp only [performMoments, perform, working]
    exact operate_led follows other
  · have steps : s.performMoments (.complete index completion) =
        s.device.momentsOf (s.device.settleSteps command completion) := by
      simp [performMoments, working, pick?, found]
    rw [performed, steps]
    exact complete_led follows found completion
  · rw [performMoments_unheard unheard]
    exact .idle follows unheard.device unheard.waiting unheard.submitted

theorem play_follows (follows : Follows start moments s) {turns : List Turn}
    (fresh : ∀ turn ∈ turns, ∀ saved, turn.operation ≠ .device (.restore saved)) :
    Follows start (moments ++ s.moments turns) (s.play turns) ∧
      s.submitted turns = (s.moments turns).flatMap Moment.submitted := by
  induction turns generalizing s moments with
  | nil => exact ⟨by simpa [System.moments] using follows, rfl⟩
  | cons turn rest ih =>
    obtain ⟨now, later⟩ := List.forall_mem_cons.mp fresh
    have retargeted : Follows start moments { s with target := turn.target } :=
      ⟨follows.path, follows.released, follows.waiting⟩
    have first : Led start moments
        (performMoments { s with target := turn.target } turn.operation) (s.turn turn) :=
      perform_led retargeted now
    obtain ⟨onward, submitted⟩ := ih first.follows later
    rw [System.moments, ← List.append_assoc, List.flatMap_append, submitted_cons, submitted]
    exact ⟨onward, congrArg (· ++ _) first.submitted⟩

end System

end BulkOnly
