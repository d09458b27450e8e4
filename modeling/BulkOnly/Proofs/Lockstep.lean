import BulkOnly.Proofs.Alike
import BulkOnly.Proofs.Run

set_option autoImplicit false

namespace BulkOnly

def Operation.drives : Operation → Bool
  | .device (.dispatch ..) | .device (.cancel _) | .device .reset | .device (.setConfiguration _)
  | .device (.clearHalt _) | .complete .. => true
  | .device _ | .remove => false

def Operation.steers : Operation → Bool
  | .device (.restore _) | .device (.setDescriptors _) => true
  | operation => operation.drives

theorem Operation.steers_of_drives {operation : Operation} (drives : operation.drives = true) :
    operation.steers = true := by
  unfold steers
  split
  next => rfl
  next => rfl
  next => exact drives

def Answer.outcome? : Answer → Option Dispatched
  | .dispatched result => some result
  | _ => none

def System.outcomes (s : System) (turns : List Turn) : List Dispatched :=
  (s.reports turns).filterMap fun report => report.answer.outcome?

-- The turns without those that end one of the `old` commands that wait already. The commands that
-- are submitted meanwhile are counted from zero then.
def newer : Nat → List Turn → List Turn
  | _, [] => []
  | old, turn :: rest =>
    match turn.operation with
    | .complete index completion =>
      if index < old then newer (old - 1) rest
      else { turn with operation := .complete (index - old) completion } :: newer old rest
    | _ => turn :: newer old rest

namespace Device

variable {d₀ e₀ d e : Device}

theorem restore_alike (alike : Alike d₀ e₀ d e) (saved : SavedState) :
    Agree d₀ e₀ (d.operate (.restore saved)) (e.operate (.restore saved)) := by
  simp only [operate, restore, alike.slot.isExecuting]
  cases accepted : saved.slot with
  | error flaw => exact ⟨alike, rfl⟩
  | ok slot =>
    cases e.slot.isExecuting with
    | true => exact ⟨alike, rfl⟩
    | false =>
      have same : Slot.Alike d₀.nextGeneration e₀.nextGeneration
          (d.settings.SameRoom e.settings) slot slot := by
        cases slot with
        | vacant => exact .retained Scsi.Sense.zero rfl rfl (alike.settings.room 0)
        | held phase t => exact .held phase t rfl rfl
        | executing generation => cases SavedState.idle_of_slot accepted
      exact ⟨{ alike with configuration := rfl, bulkIn := rfl, bulkOut := rfl, slot := same }, rfl⟩

theorem operate_alike (alike : Alike d₀ e₀ d e) {operation : Device.Operation}
    (steers : (Operation.device operation).steers = true) :
    Agree d₀ e₀ (d.operate operation) (e.operate operation) := by
  cases operation with
  | dispatch address urb =>
    obtain ⟨device, verdict⟩ := dispatch_alike alike address urb
    exact ⟨device, congrArg Answer.dispatched verdict⟩
  | cancel id => exact ⟨cancel_alike alike id, rfl⟩
  | reset => exact ⟨(alike.log _ _).resetAs .device, rfl⟩
  | setConfiguration value => exact ⟨setConfiguration_alike alike value, rfl⟩
  | clearHalt address => exact ⟨clearHalt_alike alike address, rfl⟩
  | setDescriptors table => exact ⟨{ alike with descriptors := rfl }, rfl⟩
  | restore saved => exact restore_alike alike saved
  | wakeUp | isHalted _ | isIdle | reap | poll | reapAll | stream _ | save | describe =>
    cases steers

theorem settle_submissions (d : Device) (command : Command) (completion : Completion) :
    (d.settle command completion).submissions = d.submissions := by
  by_cases executing : d.slot = .executing command.generation
  · exact (settle_concludes completion executing).submissions
  · rw [settle_stale completion executing]
    rfl

end Device

namespace System

open Device

variable {d₀ e₀ : Device} {old : Nat} {s r : System}

-- The first system may have `old` commands more, from before the comparison.
structure InStep (d₀ e₀ : Device) (old : Nat) (s r : System) : Prop where
  device : Alike d₀ e₀ s.device r.device
  condition : s.condition = r.condition
  waiting : ∃ late fresh, s.waiting = late ++ fresh ∧ late.length = old ∧
    (∀ command ∈ late, command.generation < d₀.nextGeneration) ∧
    List.Forall₂ (Command.Alike d₀.nextGeneration e₀.nextGeneration) fresh r.waiting

theorem submit_inStep (inStep : InStep d₀ e₀ old s r) (target : s.target = r.target)
    {c c' : Command} (same : Command.Alike d₀.nextGeneration e₀.nextGeneration c c') :
    InStep d₀ e₀ old (s.submit c) (r.submit c') ∧ (s.submit c).target = (r.submit c').target := by
  have logged (event event' : Event) := inStep.device.log event event'
  obtain ⟨late, fresh, split, count, before, alike⟩ := inStep.waiting
  simp only [submit]
  rw [target]
  split
  · refine ⟨⟨logged _ _, inStep.condition, late, fresh ++ [c], ?_, count, before, ?_⟩, rfl⟩
    · simp only [split, List.append_assoc]
    · exact List.rel_append alike (.cons same .nil)
  · exact ⟨⟨settle_alike (logged _ _) same _, inStep.condition, inStep.waiting⟩, rfl⟩

theorem submits_inStep (inStep : InStep d₀ e₀ old s r) (target : s.target = r.target)
    {commands commands' : List Command}
    (same : List.Forall₂ (Command.Alike d₀.nextGeneration e₀.nextGeneration) commands commands') :
    InStep d₀ e₀ old (commands.foldl submit s) (commands'.foldl submit r) := by
  induction same generalizing s r with
  | nil => exact inStep
  | cons first rest ih =>
    obtain ⟨next, target'⟩ := submit_inStep inStep target first
    exact ih next target'

theorem submissions_submits (s : System) (commands : List Command) :
    (commands.foldl submit s).device.submissions = s.device.submissions := by
  induction commands generalizing s with
  | nil => rfl
  | cons command rest ih =>
    rw [List.foldl_cons, ih]
    simp only [submit]
    split
    · rfl
    · exact settle_submissions _ command _

structure Matched (d₀ e₀ : Device) (old : Nat) (these those : Report) : Prop where
  inStep : InStep d₀ e₀ old these.system those.system
  released : those.system.device.submissions = []
  outcome : these.answer.outcome? = those.answer.outcome?
  submitted : these.submitted.map Command.transaction = those.submitted.map Command.transaction

theorem release_matched (inStep : InStep d₀ e₀ old s r) (target : s.target = r.target)
    (answer : Answer) : Matched d₀ e₀ old (s.release answer) (r.release answer) := by
  have emptied : InStep d₀ e₀ old { s with device.submissions := [] }
      { r with device.submissions := [] } :=
    ⟨{ inStep.device with submissions := .nil }, inStep.condition, inStep.waiting⟩
  have submitted := submits_inStep emptied target inStep.device.submissions
  refine ⟨⟨{ submitted.device with }, submitted.condition, submitted.waiting⟩, ?_, rfl, ?_⟩
  · exact submissions_submits _ _
  · have transactions {commands commands' : List Command}
        (alike : List.Forall₂ (Command.Alike d₀.nextGeneration e₀.nextGeneration) commands
          commands') : commands.map Command.transaction = commands'.map Command.transaction := by
      induction alike with
      | nil => rfl
      | cons first rest ih => rw [List.map_cons, List.map_cons, first.transaction, ih]
    exact transactions inStep.device.submissions

theorem operation_matched (inStep : InStep d₀ e₀ old s r) (target : s.target = r.target)
    (released : r.device.submissions = []) {operation : Device.Operation}
    (steers : (Operation.device operation).steers = true) :
    Matched d₀ e₀ old (s.perform (.device operation)) (r.perform (.device operation)) := by
  cases condition : r.condition with
  | working =>
    obtain ⟨device, verdict⟩ := operate_alike inStep.device steers
    simp only [perform, inStep.condition, condition]
    rw [operate_eq, operate_eq, verdict, inStep.condition]
    have next : InStep d₀ e₀ old
        { s with
          device := (s.device.operate operation).1
          condition := if (r.device.operate operation).2 = .dispatched .faulted then .broken
            else r.condition }
        { r with
          device := (r.device.operate operation).1
          condition := if (r.device.operate operation).2 = .dispatched .faulted then .broken
            else r.condition } := ⟨device, rfl, inStep.waiting⟩
    exact release_matched next target _
  | broken =>
    simp only [perform, inStep.condition, condition]
    cases operation with
    | restore saved =>
      simp only [operateBroken]
      split
      next => exact ⟨inStep, released, rfl, rfl⟩
      next => exact ⟨inStep, released, rfl, rfl⟩
    | _ => exact ⟨inStep, released, rfl, rfl⟩
  | removed =>
    simp only [perform, inStep.condition, condition]
    exact ⟨inStep, released, rfl, rfl⟩

theorem forall₂_getElem? {α β : Type} {same : α → β → Prop} {these : List α} {those : List β}
    (all : List.Forall₂ same these those) (index : Nat) :
    (these[index]? = none ∧ those[index]? = none) ∨
      ∃ this that, these[index]? = some this ∧ those[index]? = some that ∧ same this that ∧
        List.Forall₂ same (these.eraseIdx index) (those.eraseIdx index) := by
  induction all generalizing index with
  | nil => exact .inl ⟨rfl, rfl⟩
  | @cons this that these those first rest ih =>
    cases index with
    | zero => exact .inr ⟨this, that, rfl, rfl, first, rest⟩
    | succ index =>
      rcases ih index with missing | ⟨this', that', found, found', both, others⟩
      · exact .inl missing
      · exact .inr ⟨this', that', found, found', both, .cons first others⟩

theorem turn_completing {s : System} {index : Nat} {command : Command}
    (found : s.waiting[index]? = some command) (working : s.condition = .working)
    (released : s.device.submissions = []) (completion : Completion) (target : Target) :
    s.turn ⟨.complete index completion, target⟩ =
      { system := { s with
          target
          device := { s.device.settle command completion with events := [] }
          waiting := s.waiting.eraseIdx index }
        answer := .done, events := (s.device.settle command completion).events } := by
  have nothing : (s.device.settle command completion).submissions = [] :=
    (settle_submissions s.device command completion).trans released
  rw [turn, perform_complete_heard (s := { s with target }) found working, release_nothing nothing,
    ← nothing]

theorem newer_matched (inStep : InStep d₀ e₀ old s r) (target : s.target = r.target)
    (released : r.device.submissions = []) {index : Nat} (later : old ≤ index)
    (completion : Completion) :
    Matched d₀ e₀ old (s.perform (.complete index completion))
      (r.perform (.complete (index - old) completion)) := by
  obtain ⟨late, fresh, split, count, before, alike⟩ := inStep.waiting
  have there : s.waiting[index]? = fresh[index - old]? := by
    rw [split, List.getElem?_append_right (by omega), count]
  have rest : s.waiting.eraseIdx index = late ++ fresh.eraseIdx (index - old) := by
    rw [split, List.eraseIdx_append_of_length_le (by omega), count]
  rcases forall₂_getElem? alike (index - old) with ⟨missing, missing'⟩ |
    ⟨c, c', found, found', same, others⟩
  · rw [perform_complete_missing (there.trans missing), perform_complete_missing missing']
    exact ⟨inStep, released, rfl, rfl⟩
  have next {d e : Device} (device : Alike d₀ e₀ d e) :
      InStep d₀ e₀ old { s with device := d, waiting := s.waiting.eraseIdx index }
        { r with device := e, waiting := r.waiting.eraseIdx (index - old) } :=
    ⟨device, inStep.condition, late, _, rest, count, before, others⟩
  by_cases working : r.condition = .working
  · rw [perform_complete_heard (there.trans found) (inStep.condition.trans working),
      perform_complete_heard found' working]
    exact release_matched (next (settle_alike inStep.device same completion)) target _
  · obtain ⟨events, unheard⟩ := perform_complete_unheard (there.trans found)
      (inStep.condition.trans_ne working) completion
    obtain ⟨events', unheard'⟩ := perform_complete_unheard found' working completion
    rw [unheard, unheard']
    exact ⟨next inStep.device, released, rfl, rfl⟩

theorem late_silent (inStep : InStep d₀ e₀ old s r) (released : r.device.submissions = [])
    {index : Nat} (earlier : index < old) (completion : Completion) :
    InStep d₀ e₀ (old - 1) (s.perform (.complete index completion)).system r ∧
      (s.perform (.complete index completion)).answer.outcome? = none ∧
      (s.perform (.complete index completion)).submitted = [] := by
  obtain ⟨late, fresh, split, count, before, alike⟩ := inStep.waiting
  have inside : index < late.length := by omega
  have there : s.waiting[index]? = some late[index] := by
    rw [split, List.getElem?_append_left inside]
    exact List.getElem?_eq_getElem inside
  have next {d : Device} (device : Alike d₀ e₀ d r.device) :
      InStep d₀ e₀ (old - 1) { s with device := d, waiting := s.waiting.eraseIdx index } r := by
    refine ⟨device, inStep.condition, late.eraseIdx index, fresh, ?_, ?_, ?_, alike⟩
    · simp only [split, List.eraseIdx_append_of_lt_length inside]
    · rw [List.length_eraseIdx_of_lt inside, count]
    · exact fun command member => before command (List.mem_of_mem_eraseIdx member)
  by_cases working : r.condition = .working
  · have stale : s.device.slot ≠ .executing late[index].generation := by
      have bound := before late[index] (List.getElem_mem inside)
      intro executing
      cases inStep.device.slot with
      | retained sense these those room => simp [executing, Slot.retained?] at these
      | held phase t these => simp [executing] at these
      | executing since these =>
        have same := Slot.executing.inj (these.symm.trans executing)
        omega
    have nothing : (s.device.settle late[index] completion).submissions = [] := by
      have submissions := inStep.device.submissions
      rw [released] at submissions
      rw [settle_submissions]
      exact List.forall₂_nil_right_iff.mp submissions
    have reclaimed : Alike d₀ e₀ (s.device.settle late[index] completion) r.device := by
      rw [settle_stale completion stale]
      exact { inStep.device with }
    rw [perform_complete_heard there (inStep.condition.trans working), release_nothing nothing]
    exact ⟨next { reclaimed with submissions := by rw [released]; exact .nil }, rfl, rfl⟩
  · obtain ⟨events, unheard⟩ := perform_complete_unheard there (inStep.condition.trans_ne working)
      completion
    rw [unheard]
    exact ⟨next inStep.device, rfl, rfl⟩

theorem InStep.retargeted (inStep : InStep d₀ e₀ old s r) (target : Target) :
    InStep d₀ e₀ old { s with target } { r with target } :=
  ⟨inStep.device, inStep.condition, inStep.waiting⟩

theorem outcomes_cons (s : System) (turn : Turn) (rest : List Turn) :
    s.outcomes (turn :: rest) =
      (s.turn turn).answer.outcome?.toList ++ (s.turn turn).system.outcomes rest := by
  simp only [outcomes]
  rw [reports, List.filterMap_cons]
  cases (s.turn turn).answer.outcome? <;> rfl

theorem outcomes_append (s : System) (earlier later : List Turn) :
    s.outcomes (earlier ++ later) = s.outcomes earlier ++ (s.play earlier).outcomes later := by
  simp only [outcomes, reports_append, List.filterMap_append]

theorem submitted_cons (s : System) (turn : Turn) (rest : List Turn) :
    s.submitted (turn :: rest) =
      (s.turn turn).submitted ++ (s.turn turn).system.submitted rest := rfl

structure SeenAlike (s : System) (turns : List Turn) (r : System) (turns' : List Turn) : Prop where
  outcomes : s.outcomes turns = r.outcomes turns'
  submitted : (s.submitted turns).map Command.transaction =
    (r.submitted turns').map Command.transaction

theorem Matched.seen_cons {turn turn' : Turn} {rest rest' : List Turn}
    (matched : Matched d₀ e₀ old (s.turn turn) (r.turn turn'))
    (seen : SeenAlike (s.turn turn).system rest (r.turn turn').system rest') :
    SeenAlike s (turn :: rest) r (turn' :: rest') where
  outcomes := by rw [outcomes_cons, outcomes_cons, matched.outcome, seen.outcomes]
  submitted := by
    rw [submitted_cons, submitted_cons, List.map_append, List.map_append, matched.submitted,
      seen.submitted]

theorem play_inStep (inStep : InStep d₀ e₀ old s r) (released : r.device.submissions = [])
    {turns : List Turn} (steers : ∀ turn ∈ turns, turn.operation.steers = true) :
    (∃ left, InStep d₀ e₀ left (s.play turns) (r.play (newer old turns))) ∧
      SeenAlike s turns r (newer old turns) := by
  induction turns generalizing old s r with
  | nil => exact ⟨⟨old, inStep⟩, rfl, rfl⟩
  | cons turn rest ih =>
    obtain ⟨first, others⟩ := List.forall_mem_cons.mp steers
    obtain ⟨operation, target⟩ := turn
    cases operation with
    | device operation =>
      have matched : Matched d₀ e₀ old (s.turn ⟨.device operation, target⟩)
          (r.turn ⟨.device operation, target⟩) :=
        operation_matched (inStep.retargeted target) rfl released first
      obtain ⟨left, seen⟩ := ih matched.inStep matched.released others
      exact ⟨left, matched.seen_cons seen⟩
    | complete index completion =>
      by_cases earlier : index < old
      · obtain ⟨silent, outcome, submitted⟩ :=
          late_silent (s := { s with target }) ⟨inStep.device, inStep.condition, inStep.waiting⟩
            released earlier completion
        obtain ⟨left, seen⟩ := ih silent released others
        have skipped : newer old (⟨.complete index completion, target⟩ :: rest) =
            newer (old - 1) rest := if_pos earlier
        rw [skipped]
        refine ⟨left, ?_, ?_⟩
        · rw [outcomes_cons, turn, outcome]
          exact seen.outcomes
        · rw [submitted_cons, turn, submitted]
          exact seen.submitted
      · have matched : Matched d₀ e₀ old (s.turn ⟨.complete index completion, target⟩)
            (r.turn ⟨.complete (index - old) completion, target⟩) :=
          newer_matched (inStep.retargeted target) rfl released (Nat.not_lt.mp earlier) completion
        obtain ⟨left, seen⟩ := ih matched.inStep matched.released others
        have counted : newer old (⟨.complete index completion, target⟩ :: rest) =
            ⟨.complete (index - old) completion, target⟩ :: newer old rest := if_neg earlier
        rw [counted]
        exact ⟨left, matched.seen_cons seen⟩
    | remove => cases first

-- Nothing that a host or a target is shown tells the two runs apart.
structure Indistinguishable (s : System) (turns : List Turn) (r : System) (turns' : List Turn) :
    Prop where
  seen : SeenAlike s turns r turns'
  returned : ∃ urbs, (s.play turns).device.done.toList = s.device.done.toList ++ urbs ∧
    (r.play turns').device.done.toList = r.device.done.toList ++ urbs
  configuration : (s.play turns).device.configuration = (r.play turns').device.configuration
  bulkIn : (s.play turns).device.halts.bulkIn = (r.play turns').device.halts.bulkIn
  bulkOut : (s.play turns).device.halts.bulkOut = (r.play turns').device.halts.bulkOut
  condition : (s.play turns).condition = (r.play turns').condition

namespace Indistinguishable

variable {turns turns' turns'' : List Turn} {t : System}

theorem symm (same : Indistinguishable s turns r turns') : Indistinguishable r turns' s turns where
  seen := ⟨same.seen.outcomes.symm, same.seen.submitted.symm⟩
  returned := by
    obtain ⟨urbs, these, those⟩ := same.returned
    exact ⟨urbs, those, these⟩
  configuration := same.configuration.symm
  bulkIn := same.bulkIn.symm
  bulkOut := same.bulkOut.symm
  condition := same.condition.symm

theorem trans (first : Indistinguishable s turns r turns')
    (second : Indistinguishable r turns' t turns'') : Indistinguishable s turns t turns'' where
  seen := ⟨first.seen.outcomes.trans second.seen.outcomes,
    first.seen.submitted.trans second.seen.submitted⟩
  returned := by
    obtain ⟨urbs, these, those⟩ := first.returned
    obtain ⟨urbs', these', those'⟩ := second.returned
    have same : urbs = urbs' := List.append_cancel_left (those.symm.trans these')
    exact ⟨urbs, these, by rw [those', same]⟩
  configuration := first.configuration.trans second.configuration
  bulkIn := first.bulkIn.trans second.bulkIn
  bulkOut := first.bulkOut.trans second.bulkOut
  condition := first.condition.trans second.condition

end Indistinguishable

theorem indistinguishable_of_alike (alike : Alike s.device r.device s.device r.device)
    (condition : s.condition = r.condition) (released : r.device.submissions = [])
    (below : ∀ command ∈ s.waiting, command.generation < s.device.nextGeneration)
    (nothing : r.waiting = []) {turns : List Turn}
    (steers : ∀ turn ∈ turns, turn.operation.steers = true) :
    Indistinguishable s turns r (newer s.waiting.length turns) := by
  have inStep : InStep s.device r.device s.waiting.length s r := by
    refine ⟨alike, condition, s.waiting, [], (List.append_nil _).symm, rfl, below, ?_⟩
    rw [nothing]
    exact .nil
  obtain ⟨⟨left, after⟩, seen⟩ := play_inStep inStep released steers
  exact ⟨seen, after.device.returned, after.device.configuration, after.device.bulkIn,
    after.device.bulkOut, after.condition⟩

end System

end BulkOnly
