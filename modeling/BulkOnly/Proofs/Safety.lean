import BulkOnly.Proofs.Checked
import BulkOnly.Proofs.Conservation
import BulkOnly.Proofs.Lockstep

set_option autoImplicit false

namespace BulkOnly

def Turn.Addressable (turn : Turn) : Prop := ∀ urb ∈ turn.operation.dispatched, urb.Addressable

instance (turn : Turn) : Decidable turn.Addressable :=
  inferInstanceAs (Decidable (∀ urb ∈ turn.operation.dispatched, urb.Addressable))

namespace System

-- To report a command takes its block, and the target may look at its data at once.
def submit? (s : System) (command : Command) : Option System := do
  let block ← Checked.block command
  let _ ← Checked.data command
  let device := s.device.log
    (.submitting command.generation block command.direction command.length)
  let taken := s.target.take
  match taken.2 with
  | none => some { s with device, target := taken.1, waiting := s.waiting ++ [command] }
  | some completion => do
    let device ← device.settle? command completion
    some { s with device, target := taken.1 }

def release? (s : System) (answer : Answer) : Option Report := do
  let submitted := s.device.submissions
  let s ← submitted.foldlM submit? { s with device.submissions := [] }
  some { system := { s with device.events := [] }, answer, submitted, events := s.device.events }

def complete? (s : System) (index : Nat) (completion : Completion) : Option Report :=
  match s.pick? index with
  | some (command, s) => do
    let device ← s.device.settle? command completion
    release? { s with device } .done
  | none => some { system := s, answer := .noCommand }

-- The target writes into the command all the same.
def completeUnheard? (s : System) (index : Nat) (completion : Completion) (event : Event) :
    Option Report :=
  match s.pick? index with
  | some (command, s) => do
    let _ ← Checked.returned completion command
    some { system := s, answer := .done, events := completion.events command ++ [event] }
  | none => some { system := s, answer := .noCommand }

def operate? (s : System) (operation : Device.Operation) : Option Report := do
  match ← s.device.operate? operation with
  | (device, .dispatched .faulted) =>
    release? { s with device, condition := .broken } (.dispatched .faulted)
  | (device, answer) => release? { s with device } answer

def perform? (s : System) (operation : Operation) : Option Report :=
  match operation, s.condition with
  | .device operation, .working => s.operate? operation
  | .complete index completion, .working => s.complete? index completion
  | .complete index completion, .broken =>
    s.completeUnheard? index completion .endedWithBrokenDevice
  | .complete index completion, .removed =>
    s.completeUnheard? index completion .endedWithoutDevice
  | other, _ => some (s.perform other)

def play? (s : System) (turns : List Turn) : Option System :=
  turns.foldlM (fun s turn => ({ s with target := turn.target }.perform? turn.operation).map
    Report.system) s

variable {s : System}

theorem submit?_eq (sound : s.device.Sound) {command : Command}
    (opened : command.transaction.Sound) : s.submit? command = some (s.submit command) := by
  have logged (event : Event) : (s.device.log event).Sound := sound.kept rfl rfl
  unfold submit? submit
  rw [Checked.block_eq, Option.bind_eq_bind, Option.bind_some, Checked.data_eq opened.wellFormed,
    Option.bind_eq_bind, Option.bind_some]
  dsimp only
  cases s.target.take.2 with
  | none => rfl
  | some completion =>
    dsimp only
    rw [Device.settle?_eq (logged _) opened]
    rfl

theorem submits?_eq (sound : s.Sound) {commands : List Command}
    (opened : ∀ command ∈ commands, command.transaction.Sound) :
    commands.foldlM submit? s = some (commands.foldl submit s) := by
  induction commands generalizing s with
  | nil => rfl
  | cons command rest ih =>
    obtain ⟨first, others⟩ := List.forall_mem_cons.mp opened
    obtain ⟨device, waiting⟩ := durable_sound.submit sound.device sound.waiting first
    rw [List.foldlM_cons, submit?_eq sound.device first, Option.bind_eq_bind, Option.bind_some,
      ih ⟨device, waiting⟩ others, List.foldl_cons]

theorem release?_eq (sound : s.Sound) (answer : Answer) :
    s.release? answer = some (s.release answer) := by
  have emptied : System.Sound { s with device.submissions := [] } :=
    ⟨⟨sound.device.slot, nofun⟩, sound.waiting⟩
  rw [release?, submits?_eq emptied sound.device.submissions]
  rfl

structure Consistent (s : System) : Prop where
  sound : s.Sound
  released : s.device.submissions = []
  told : s.device.events = []

theorem release_consistent (sound : s.Sound) (answer : Answer) :
    (s.release answer).system.Consistent := by
  obtain ⟨device, waiting⟩ := durable_sound.release sound.device sound.waiting answer
  exact ⟨⟨device, waiting⟩, submissions_submits _ _, rfl⟩

theorem Consistent.left (consistent : s.Consistent) (index : Nat) :
    Consistent { s with waiting := s.waiting.eraseIdx index } := by
  obtain ⟨⟨device, waiting⟩, released, told⟩ := consistent
  exact ⟨⟨device, fun command member => waiting command (List.mem_of_mem_eraseIdx member)⟩,
    released, told⟩

structure Fine (s : System) (operation : Operation) : Prop where
  checked : s.perform? operation = some (s.perform operation)
  consistent : (s.perform operation).system.Consistent
  submitted : ∀ command ∈ (s.perform operation).submitted, command.transaction.Sound

theorem release_fine {operation : Operation} {t : System} (answer : Answer) (sound : t.Sound)
    (checked : s.perform? operation = t.release? answer)
    (same : s.perform operation = t.release answer) : Fine s operation := by
  rw [release?_eq sound, ← same] at checked
  refine ⟨checked, ?_, ?_⟩
  · rw [same]
    exact release_consistent sound answer
  · rw [same]
    exact sound.device.submissions

theorem operate?_eq_release {operation : Device.Operation} {result : Device × Answer}
    (operated : s.device.operate? operation = some result) :
    s.operate? operation =
      release?
        { s with
          device := result.1
          condition := if result.2 = .dispatched .faulted then .broken else s.condition }
        result.2 := by
  obtain ⟨device, answer⟩ := result
  rw [operate?, operated, Option.bind_eq_bind, Option.bind_some]
  split
  next same =>
    obtain ⟨rfl, rfl⟩ := Prod.mk.inj same
    simp
  next other answer fine same =>
    obtain ⟨rfl, rfl⟩ := Prod.mk.inj same
    have other : answer ≠ .dispatched .faulted := by
      rintro rfl
      exact fine rfl
    simp [other]

theorem operation_fine (consistent : s.Consistent) (working : s.condition = .working)
    {operation : Device.Operation}
    (addressable : ∀ address urb, operation = .dispatch address urb → urb.Addressable) :
    Fine s (.device operation) := by
  have operated := Device.operate?_eq consistent.sound.device.slot addressable
  have sound : System.Sound
      { s with
        device := (s.device.operate operation).1
        condition := if (s.device.operate operation).2 = .dispatched .faulted then .broken
          else s.condition } :=
    ⟨Device.operate_sound consistent.sound.device operation, consistent.sound.waiting⟩
  refine release_fine (s.device.operate operation).2 sound ?_ ?_
  · simp only [perform?, working]
    rw [operate?_eq_release operated, working]
  · simp only [perform, working]
    rw [operate_eq, working]

theorem completion_fine (consistent : s.Consistent) (index : Nat) (completion : Completion) :
    Fine s (.complete index completion) := by
  cases found : s.waiting[index]? with
  | none =>
    have missing := perform_complete_missing found completion
    refine ⟨?_, ?_, ?_⟩
    · rw [missing]
      cases condition : s.condition <;>
        simp [perform?, condition, complete?, completeUnheard?, pick?, found]
    · rw [missing]
      exact consistent
    · rw [missing]
      exact List.forall_mem_nil _
  | some command =>
    have opened := consistent.sound.waiting command (List.mem_of_getElem? found)
    have left := consistent.left index
    by_cases working : s.condition = .working
    · have settled : System.Sound
          { s with
            device := s.device.settle command completion
            waiting := s.waiting.eraseIdx index } :=
        ⟨Device.settle_sound consistent.sound.device opened completion, left.sound.waiting⟩
      refine release_fine .done settled ?_ (perform_complete_heard found working completion)
      simp [perform?, working, complete?, pick?, found,
        Device.settle?_eq consistent.sound.device opened]
    · obtain ⟨events, unheard⟩ := perform_complete_unheard found working completion
      refine ⟨?_, ?_, ?_⟩
      · cases condition : s.condition with
        | working => exact absurd condition working
        | broken | removed =>
          simp [perform?, perform, condition, completeUnheard?, completeUnheard, pick?, found,
            Checked.returned_eq opened.wellFormed]
      · rw [unheard]
        exact left
      · rw [unheard]
        exact List.forall_mem_nil _

theorem perform_fine (consistent : s.Consistent) {operation : Operation}
    (addressable : ∀ urb ∈ operation.dispatched, urb.Addressable) : Fine s operation := by
  cases operation with
  | complete index completion => exact completion_fine consistent index completion
  | remove =>
    have removed : Consistent { s with condition := .removed } :=
      ⟨⟨consistent.sound.device, consistent.sound.waiting⟩, consistent.released, consistent.told⟩
    exact ⟨rfl, removed, List.forall_mem_nil _⟩
  | device operation =>
    cases condition : s.condition with
    | working =>
      refine operation_fine consistent condition ?_
      rintro address urb rfl
      exact addressable urb (List.mem_singleton_self urb)
    | broken =>
      have same : s.perform (.device operation) = s.operateBroken operation := by
        simp only [perform, condition]
      refine ⟨by simp only [perform?, condition], ?_, ?_⟩
      · rw [same, condition_operateBroken]
        exact consistent
      · rw [same, submitted_operateBroken]
        exact List.forall_mem_nil _
    | removed =>
      have same : s.perform (.device operation) = { system := s, answer := .noDevice } := by
        simp only [perform, condition]
      refine ⟨by simp only [perform?, condition], ?_, ?_⟩
      · rw [same]
        exact consistent
      · rw [same]
        exact List.forall_mem_nil _

theorem play_fine (consistent : s.Consistent) {turns : List Turn}
    (addressable : ∀ turn ∈ turns, turn.Addressable) :
    s.play? turns = some (s.play turns) ∧ (s.play turns).Consistent ∧
      ∀ command ∈ s.submitted turns, command.transaction.Sound := by
  induction turns generalizing s with
  | nil => exact ⟨rfl, consistent, nofun⟩
  | cons turn rest ih =>
    obtain ⟨first, others⟩ := List.forall_mem_cons.mp addressable
    have aimed : Consistent { s with target := turn.target } :=
      ⟨⟨consistent.sound.device, consistent.sound.waiting⟩, consistent.released, consistent.told⟩
    have fine := perform_fine aimed first
    obtain ⟨checked, after, later⟩ := ih fine.consistent others
    refine ⟨?_, after, ?_⟩
    · rw [play?, List.foldlM_cons, fine.checked]
      exact checked
    · intro command member
      rw [submitted_cons] at member
      rcases List.mem_append.mp member with now | next
      · exact fine.submitted command now
      · exact later command next

theorem restore_refused (consistent : s.Consistent) {saved : SavedState} {cause : Error}
    (refused : (s.perform (.device (.restore saved))).answer = .error cause) :
    (s.perform (.device (.restore saved))).system = s := by
  cases condition : s.condition with
  | working =>
    simp only [perform, condition, operate, Device.operate] at refused ⊢
    cases restored : s.device.restore saved with
    | ok device =>
      rw [restored] at refused
      cases refused
    | error cause =>
      have nothing : (s.release (.error cause)).system = s := by
        rw [release_nothing consistent.released, ← consistent.released, ← consistent.told]
      rw [← condition]
      exact nothing
  | broken =>
    simp only [perform, condition]
    exact condition_operateBroken s _
  | removed => simp only [perform, condition]

structure Unfailing (start : System) (turns : List Turn) : Prop where
  checked : start.play? turns = some (start.play turns)
  held : ∀ phase t, (start.play turns).device.slot = .held phase t → t.WellFormed
  waiting : ∀ command ∈ (start.play turns).waiting, command.transaction.WellFormed
  submitted : ∀ command ∈ start.submitted turns, command.transaction.WellFormed
  released : (start.play turns).device.submissions = []
  refused : ∀ saved cause,
    ((start.play turns).perform (.device (.restore saved))).answer = .error cause →
      ((start.play turns).perform (.device (.restore saved))).system = start.play turns

theorem play_unfailing (settings : Settings) (location : String) (target : Target)
    {turns : List Turn} (addressable : ∀ turn ∈ turns, turn.Addressable) :
    Unfailing (create settings location target) turns := by
  have created : (create settings location target).Consistent :=
    ⟨⟨⟨nofun, by simp [create]⟩, by simp [create]⟩, rfl, rfl⟩
  obtain ⟨checked, consistent, submitted⟩ := play_fine created addressable
  refine ⟨checked, ?_, ?_, ?_, consistent.released, ?_⟩
  · exact fun phase t held => consistent.sound.device.slot.wellFormed held
  · exact fun command member => (consistent.sound.waiting command member).wellFormed
  · exact fun command member => (submitted command member).wellFormed
  · exact fun saved cause refused => restore_refused consistent refused

def mismatchedReads : List Turn :=
  [sendReadSix 1,
    { operation := .complete 0
        { data := [1, 2, 3, 4, 5, 6], ending := .ended Scsi.Status.good (some 9) false } },
    { operation := .device (.dispatch 0x81 { Urb.bulkIn 2 100 with data := [0, 0, 0] }) },
    readBulk 3 13]

theorem play_unfailing_mismatchedReads :
    (∀ turn ∈ mismatchedReads, turn.Addressable) ∧
      Unfailing (create {} "lun0" .holds) mismatchedReads := by
  have addressable : ∀ turn ∈ mismatchedReads, turn.Addressable := by decide
  exact ⟨addressable, play_unfailing {} "lun0" .holds addressable⟩

end System

end BulkOnly
