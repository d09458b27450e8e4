import BulkOnly.Proofs.Isolation
import BulkOnly.Proofs.Past

set_option autoImplicit false

namespace BulkOnly

namespace Device

def unreclaimed (d : Device) : Device := { d with statistics.reclaimed := 0 }

theorem withPast_unreclaimed (d : Device) :
    d.unreclaimed.withPast [] d.statistics.reclaimed = d := rfl

theorem operate_unreclaimed (d : Device) (operation : Device.Operation) :
    (d.operate operation).1.unreclaimed = (d.unreclaimed.operate operation).1.unreclaimed ∧
      (d.operate operation).2 = (d.unreclaimed.operate operation).2 := by
  have moved := operate_withPast d.unreclaimed [] d.statistics.reclaimed operation
  rw [withPast_unreclaimed] at moved
  rw [moved]
  exact ⟨rfl, rfl⟩

theorem settle_unreclaimed (d : Device) (command : Command) (completion : Completion) :
    (d.settle command completion).unreclaimed =
      (d.unreclaimed.settle command completion).unreclaimed := by
  have moved := settle_withPast d.unreclaimed [] d.statistics.reclaimed command completion
  rw [withPast_unreclaimed] at moved
  rw [moved]
  rfl

end Device

-- What a turn shows. It leaves out the count of late ends, and the commands that wait, for not all
-- of them are the device's own.
structure Showing where
  answer : Answer
  submitted : List Command
  events : List Event
  device : Device
  condition : Condition

def Report.shown (report : Report) : Showing where
  answer := report.answer
  submitted := report.submitted
  events := report.events
  device := report.system.device.unreclaimed
  condition := report.system.condition

-- The only command that a device heeds is the one that it waits for, wherever that stands among
-- those that wait.
def Turn.placeless (turn : Turn) : Turn :=
  match turn.operation with
  | .complete _ completion => { turn with operation := .complete 0 completion }
  | _ => turn

namespace System

open Device

def heeds (s : System) (command : Command) : Bool :=
  s.condition = .working && s.device.slot = .executing command.generation

def unheeded (s : System) (turn : Turn) : Bool :=
  match turn.operation with
  | .complete index _ => s.waiting[index]?.all fun command => !s.heeds command
  | _ => false

def heeded (s : System) : List Turn → List (Turn × Report)
  | [] => []
  | turn :: rest =>
    if s.unheeded turn then (s.turn turn).system.heeded rest
    else (turn, s.turn turn) :: (s.turn turn).system.heeded rest

def script (s : System) (turns : List Turn) : List Turn :=
  (s.heeded turns).map fun (turn, _) => turn.placeless

def shown (s : System) (turns : List Turn) : List Showing :=
  (s.heeded turns).map fun (_, report) => report.shown

def core (s : System) : System where
  device := s.device.unreclaimed
  condition := s.condition
  waiting := s.waiting.filter s.heeds

variable {s r : System}

theorem heeds_iff {command : Command} :
    s.heeds command = true ↔
      s.condition = .working ∧ s.device.slot = .executing command.generation := by
  simp [heeds]

-- The systems differ in late ends only, and have got the same commands since `these` and `those`.
structure SameBut (these those : List Command) (s r : System) : Prop where
  device : s.device.unreclaimed = r.device.unreclaimed
  target : s.target = r.target
  condition : s.condition = r.condition
  waiting : ∃ added, s.waiting = these ++ added ∧ r.waiting = those ++ added

structure ShowsSame (these those : List Command) (report report' : Report) : Prop where
  shown : report.shown = report'.shown
  system : SameBut these those report.system report'.system

variable {these those : List Command}

theorem submit_sameBut (same : SameBut these those s r) (command : Command) :
    SameBut these those (s.submit command) (r.submit command) := by
  obtain ⟨device, target, condition, added, waiting, waiting'⟩ := same
  have logged (event : Event) :
      (s.device.log event).unreclaimed = (r.device.log event).unreclaimed :=
    congrArg (log · event) device
  simp only [submit]
  rw [target]
  split
  · refine ⟨logged _, rfl, condition, added ++ [command], ?_, ?_⟩
    · simp only [waiting, List.append_assoc]
    · simp only [waiting', List.append_assoc]
  · refine ⟨?_, rfl, condition, added, waiting, waiting'⟩
    dsimp only
    rw [settle_unreclaimed, logged, ← settle_unreclaimed]

theorem submits_sameBut (same : SameBut these those s r) (commands : List Command) :
    SameBut these those (commands.foldl submit s) (commands.foldl submit r) := by
  induction commands generalizing s r with
  | nil => exact same
  | cons command rest ih => exact ih (submit_sameBut same command)

theorem release_showsSame (same : SameBut these those s r) (answer : Answer) :
    ShowsSame these those (s.release answer) (r.release answer) := by
  have submitted : s.device.submissions = r.device.submissions :=
    (congrArg Device.submissions same.device :)
  have emptied : SameBut these those { s with device.submissions := [] }
      { r with device.submissions := [] } :=
    ⟨congrArg (fun d => { d with submissions := [] }) same.device, same.target, same.condition,
      same.waiting⟩
  have after := submits_sameBut emptied r.device.submissions
  have silent := congrArg (fun d => { d with events := [] }) after.device
  constructor
  case shown =>
    have told := (congrArg Device.events after.device :)
    simp only [release, Report.shown, submitted, Showing.mk.injEq]
    exact ⟨trivial, trivial, told, silent, after.condition⟩
  case system =>
    simp only [release, submitted]
    exact ⟨silent, after.target, after.condition, after.waiting⟩

theorem operation_showsSame (same : SameBut these those s r) (operation : Device.Operation) :
    ShowsSame these those (s.perform (.device operation)) (r.perform (.device operation)) := by
  have idle (answer : Answer) (events : List Event) :
      ShowsSame these those { system := s, answer, events } { system := r, answer, events } :=
    ⟨by simp only [Report.shown, same.device, same.condition], same⟩
  cases condition : r.condition with
  | working =>
    obtain ⟨device, answer⟩ := operate_unreclaimed s.device operation
    obtain ⟨device', answer'⟩ := operate_unreclaimed r.device operation
    rw [same.device, ← answer'] at answer
    rw [same.device, ← device'] at device
    simp only [perform, same.condition, condition]
    rw [operate_eq, operate_eq, answer, same.condition]
    refine release_showsSame ?_ _
    exact ⟨device, same.target, rfl, same.waiting⟩
  | broken =>
    simp only [perform, same.condition, condition]
    cases operation with
    | restore saved =>
      simp only [operateBroken]
      split <;> exact idle _ _
    | _ => exact idle _ _
  | removed =>
    simp only [perform, same.condition, condition]
    exact idle _ _

theorem not_heeds_of_abandoned {submitted : List Command} {abandoned : List Nat}
    (ledger : s.condition = .working → Ledger s.device s.waiting submitted abandoned)
    {command : Command} (given : command.generation ∈ abandoned) : s.heeds command = false := by
  rw [Bool.eq_false_iff, ne_eq, heeds_iff]
  rintro ⟨working, executing⟩
  exact ((ledger working).executing_own executing).2 given

theorem heeded_before (reached : s.condition = .working → s.Reached) {turn : Turn}
    {command : Command} (present : command ∈ s.waiting)
    (heeded : (s.turn turn).system.heeds command = true) : s.heeds command = true := by
  have after := (heeds_iff.mp heeded).1
  have before := working_of_turn after
  obtain ⟨submitted, abandoned, ledger⟩ := (reached before).ledger
  by_contra ignored
  rw [heeds_iff, not_and] at ignored
  have given := ledger.abandoned_of_ne present (ignored before)
  have still := not_heeds_of_abandoned (fun _ => turn_ledger ledger before after)
    (List.mem_append_left _ given)
  rw [still] at heeded
  cases heeded

theorem core_eq_core {after after' : System}
    (before : ∀ command ∈ s.waiting, after.heeds command = true → s.heeds command = true)
    (same : SameBut s.waiting s.core.waiting after after') : after.core = after'.core := by
  obtain ⟨device, -, condition, added, waiting, waiting'⟩ := same
  have slot : after.device.slot = after'.device.slot := (congrArg Device.slot device :)
  have heeds : after'.heeds = after.heeds := by
    funext command
    simp only [System.heeds, slot, condition]
  have twice : s.waiting.filter after.heeds =
      (s.waiting.filter s.heeds).filter after.heeds := by
    rw [List.filter_filter]
    refine List.filter_congr fun command present => ?_
    rw [Bool.eq_iff_iff, Bool.and_eq_true]
    exact ⟨fun heeded => ⟨heeded, before command present heeded⟩, And.left⟩
  have filtered : after.waiting.filter after.heeds = after'.waiting.filter after'.heeds := by
    rw [waiting, waiting', heeds, List.filter_append, List.filter_append, twice]
    rfl
  simp only [core, device, condition, filtered]

theorem filter_eraseIdx_of_neg {α : Type} {holds : α → Bool} {all : List α} {index : Nat} {a : α}
    (found : all[index]? = some a) (fails : holds a = false) :
    (all.eraseIdx index).filter holds = all.filter holds := by
  obtain ⟨short, rfl⟩ := List.getElem?_eq_some_iff.mp found
  have split : all.filter holds = (all.take index ++ all[index] :: all.drop (index + 1)).filter
      holds := by
    rw [List.getElem_cons_drop, List.take_append_drop]
  rw [split, List.eraseIdx_eq_take_drop_succ, List.filter_append, List.filter_append,
    List.filter_cons_of_neg (Bool.eq_false_iff.mp fails)]

structure EndsLate (s : System) (index : Nat) (command : Command) (completion : Completion)
    (target : Target) : Prop where
  unheeded : s.unheeded ⟨.complete index completion, target⟩ = true
  counted : s.condition = .working →
    s.turn ⟨.complete index completion, target⟩ =
      { system := { s with
          target
          device.statistics.reclaimed := s.device.statistics.reclaimed + 1
          waiting := s.waiting.eraseIdx index }
        answer := .done
        events := completion.events command ++ [.reclaimed command.generation] }
  unheard : s.condition ≠ .working →
    (s.turn ⟨.complete index completion, target⟩).system =
      { s with target, waiting := s.waiting.eraseIdx index }

theorem ends_late (reached : s.condition = .working → s.Reached) {index : Nat} {command : Command}
    (found : s.waiting[index]? = some command) (late : s.heeds command = false)
    (completion : Completion) (target : Target) : s.EndsLate index command completion target := by
  constructor
  case unheeded => simp [System.unheeded, found, late]
  case counted =>
    intro working
    have stale : s.device.slot ≠ .executing command.generation := by
      intro executing
      rw [heeds_iff.mpr ⟨working, executing⟩] at late
      cases late
    have told := (reached working).told
    rw [turn_completing found working (reached working).released, settle_stale completion stale,
      reclaimed, log, told]
    simp [← told]
  case unheard =>
    intro deaf
    have unheard := perform_complete_unheard (s := { s with target }) found deaf completion
    obtain ⟨events, report⟩ := unheard
    rw [turn, report]

theorem turn_unheeded (reached : s.condition = .working → s.Reached) {turn : Turn}
    (unheeded : s.unheeded turn = true) : (s.turn turn).system.core = s.core := by
  obtain ⟨operation, target⟩ := turn
  cases operation with
  | device | remove => cases unheeded
  | complete index completion =>
    cases found : s.waiting[index]? with
    | none =>
      have missing := perform_complete_missing (s := { s with target }) found completion
      rw [System.turn, missing]
      rfl
    | some command =>
      have late : s.heeds command = false := by simpa [System.unheeded, found] using unheeded
      have ends := ends_late reached found late completion target
      have fewer := filter_eraseIdx_of_neg found late
      by_cases working : s.condition = .working
      · rw [ends.counted working]
        simp only [core, ← fewer]
        rfl
      · rw [ends.unheard working]
        simp only [core, ← fewer]
        rfl

theorem waiting_core (reached : s.Reached) {command : Command} (present : command ∈ s.waiting)
    (heeded : s.heeds command = true) : s.core.waiting = [command] := by
  obtain ⟨working, executing⟩ := heeds_iff.mp heeded
  obtain ⟨submitted, abandoned, ledger⟩ := reached.ledger
  have once := ledger.executing_waits executing
  have same : s.waiting.countP (fun other => other.generation = command.generation) =
      s.waiting.countP s.heeds := by
    refine List.countP_congr fun other _ => ?_
    rw [heeds_iff, executing]
    simp [working, eq_comm]
  rw [same, List.countP_eq_length_filter] at once
  obtain ⟨only, single⟩ := List.length_eq_one_iff.mp once
  have member : command ∈ s.waiting.filter s.heeds := List.mem_filter.mpr ⟨present, heeded⟩
  rw [single, List.mem_singleton] at member
  rw [member]
  exact single

theorem core_of_calm (calm : s.device.slot.Calm) :
    s.core = { device := s.device.unreclaimed, condition := s.condition } := by
  obtain ⟨phase, t, held, -⟩ := calm
  have nothing : s.waiting.filter s.heeds = [] := by
    refine List.filter_eq_nil_iff.mpr fun command _ => ?_
    rw [heeds_iff, held]
    rintro ⟨-, impossible⟩
    cases impossible
  rw [core, nothing]

theorem turn_heeded_end (reached : s.Reached) {index : Nat} {command : Command}
    (found : s.waiting[index]? = some command) (heeded : s.heeds command = true)
    (completion : Completion) (target : Target) :
    (s.turn ⟨.complete index completion, target⟩).shown =
        (s.core.turn ⟨.complete 0 completion, target⟩).shown ∧
      (s.turn ⟨.complete index completion, target⟩).system.core =
        (s.core.turn ⟨.complete 0 completion, target⟩).system.core := by
  obtain ⟨working, executing⟩ := heeds_iff.mp heeded
  have released := reached.released
  have found' : s.core.waiting[0]? = some command := by
    rw [waiting_core reached (List.mem_of_getElem? found) heeded]
    rfl
  have device := settle_unreclaimed s.device command completion
  have silent := congrArg (fun d => { d with events := [] }) device
  rw [turn_completing found working released,
    turn_completing (s := s.core) found' working released]
  constructor
  · have told := (congrArg Device.events device :)
    simp only [Report.shown, Showing.mk.injEq]
    exact ⟨trivial, trivial, told, silent, rfl⟩
  · have calm := (settle_concludes completion executing).calm
    have calm' := (settle_concludes (d := s.device.unreclaimed) completion executing).calm
    rw [core_of_calm calm, core_of_calm calm']
    exact congrArg (System.mk · .holds s.condition []) silent

theorem turn_heeded (reached : s.condition = .working → s.Reached) {turn : Turn}
    (heeded : s.unheeded turn = false) :
    (s.turn turn).shown = (s.core.turn turn.placeless).shown ∧
      (s.turn turn).system.core = (s.core.turn turn.placeless).system.core := by
  obtain ⟨operation, target⟩ := turn
  have before (command : Command) (present : command ∈ s.waiting) :
      (s.turn ⟨operation, target⟩).system.heeds command = true → s.heeds command = true :=
    heeded_before reached present
  have same : SameBut s.waiting s.core.waiting { s with target } { s.core with target } :=
    ⟨rfl, rfl, rfl, [], (List.append_nil _).symm, (List.append_nil _).symm⟩
  cases operation with
  | device operation =>
    obtain ⟨shown, after⟩ := operation_showsSame same operation
    exact ⟨shown, core_eq_core before after⟩
  | complete index completion =>
    cases found : s.waiting[index]? with
    | none => simp [System.unheeded, found] at heeded
    | some command =>
      have heeds : s.heeds command = true := by simpa [System.unheeded, found] using heeded
      exact turn_heeded_end (reached (heeds_iff.mp heeds).1) found heeds completion target
  | remove =>
    refine ⟨rfl, core_eq_core before ?_⟩
    exact ⟨rfl, rfl, rfl, same.waiting⟩

def retrace (s : System) : List Turn → List Showing × System
  | [] => ([], s)
  | turn :: rest =>
    let later := (s.turn turn).system.core.retrace rest
    ((s.turn turn).shown :: later.1, later.2)

theorem retrace_script (reached : s.condition = .working → s.Reached) (turns : List Turn) :
    s.core.retrace (s.script turns) = (s.shown turns, (s.play turns).core) := by
  induction turns generalizing s with
  | nil => rfl
  | cons turn rest ih =>
    have later := ih (s := (s.turn turn).system) (Reached.turn reached)
    by_cases unheeded : s.unheeded turn = true
    · rw [turn_unheeded reached unheeded] at later
      simp only [script, shown, heeded, if_pos unheeded] at later ⊢
      exact later
    · obtain ⟨shown, core⟩ := turn_heeded reached (Bool.eq_false_iff.mpr unheeded)
      simp only [script, System.shown, heeded, if_neg unheeded, List.map_cons] at later ⊢
      rw [retrace, ← core, later, ← shown]
      rfl

theorem late_ends_unnoticed (settings : Settings) (location : String) (target : Target)
    {turns turns' : List Turn}
    (same : (create settings location target).script turns =
      (create settings location target).script turns') :
    (∀ index command completion target',
      ((create settings location target).play turns).waiting[index]? = some command →
      command.generation ∈ (create settings location target).abandoned turns →
      ((create settings location target).play turns).EndsLate index command completion target') ∧
    (create settings location target).shown turns =
      (create settings location target).shown turns' ∧
    ((create settings location target).play turns).core =
      ((create settings location target).play turns').core := by
  have fresh : (create settings location target).Reached :=
    ⟨settings, location, target, [], rfl, rfl⟩
  have these := retrace_script (fun _ => fresh) turns
  have those := retrace_script (fun _ => fresh) turns'
  rw [same] at these
  obtain ⟨shown, core⟩ := Prod.mk.inj (these.symm.trans those)
  refine ⟨?_, shown, core⟩
  intro index command completion target' found given
  exact ends_late (fun working => ⟨settings, location, target, turns, rfl, working⟩) found
    (not_heeds_of_abandoned (play_ledger settings location target turns) given) completion target'

def usedReadsAfterLateEnd : List Turn :=
  [sendReadSix 1, { operation := .device .reset }, sendReadSix 2,
    { operation := .complete 0 { sense := [0x70], ending := .dropped } },
    { operation := .complete 0 { data := [1, 2, 3, 4] } }, readBulk 3 4, readBulk 4 13]

theorem late_ends_unnoticed_usedReads :
    (create {} "lun0" .holds).script usedReads =
        (create {} "lun0" .holds).script usedReadsAfterLateEnd ∧
      (create {} "lun0" .holds).shown usedReads =
        (create {} "lun0" .holds).shown usedReadsAfterLateEnd ∧
      ((create {} "lun0" .holds).play usedReads).EndsLate 0
        ⟨0, ({} : Transaction).opened readSix |>.started 4⟩ { ending := .dropped } .holds := by
  have same : (create {} "lun0" .holds).script usedReads =
      (create {} "lun0" .holds).script usedReadsAfterLateEnd := by decide
  obtain ⟨late, shown, -⟩ := late_ends_unnoticed {} "lun0" .holds same
  exact ⟨same, shown, late 0 _ { ending := .dropped } .holds (by decide) (by decide)⟩

end System

end BulkOnly
