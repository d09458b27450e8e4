import BulkOnly.Proofs.Issues
import BulkOnly.Proofs.Verdicts

set_option autoImplicit false

namespace BulkOnly

def Event.kind? : Event → Option Complaint.Kind
  | .complaint about _ => some about.kind
  | _ => none

def Event.verdict? : Event → Option Bool
  | .complaint _ loud => some loud
  | _ => none

theorem Event.isSome_verdict? (event : Event) : event.verdict?.isSome = event.kind?.isSome := by
  cases event <;> rfl

theorem Event.severity_of_kind? {event : Event} {kind : Complaint.Kind} {loud : Bool}
    (complains : event.kind? = some kind) (judged : event.verdict? = some loud) :
    event.severity = if loud then .warn else .trace := by
  cases event with
  | complaint about _ =>
    cases judged
    rfl
  | _ => cases complains

def Uncomplaining (told : List Event) : Prop := ∀ event ∈ told, event.kind? = none

namespace Uncomplaining

theorem nil : Uncomplaining [] := List.forall_mem_nil _

theorem single {event : Event} (quiet : event.kind? = none) : Uncomplaining [event] :=
  List.forall_mem_singleton.mpr quiet

theorem append {told more : List Event} (first : Uncomplaining told)
    (second : Uncomplaining more) : Uncomplaining (told ++ more) :=
  List.forall_mem_append.mpr ⟨first, second⟩

end Uncomplaining

theorem Completion.events_uncomplaining (completion : Completion) (command : Command) :
    Uncomplaining (completion.events command) := by
  unfold Completion.events
  split
  · exact .single rfl
  · exact .nil

namespace Limiter

structure Judges (before : Limiter) (told : List Event) (left : Limiter) : Prop where
  verdicts : told.filterMap Event.verdict? = before.verdicts (told.filterMap Event.kind?)
  left : left = before.after (told.filterMap Event.kind?)

namespace Judges

variable {before between left : Limiter} {told more : List Event}

theorem unasked (limiter : Limiter) (quiet : Uncomplaining told) : limiter.Judges told limiter := by
  have kinds : told.filterMap Event.kind? = [] := List.filterMap_eq_nil_iff.mpr quiet
  have verdicts : told.filterMap Event.verdict? = [] := by
    refine List.filterMap_eq_nil_iff.mpr fun event member => ?_
    rw [← Option.isNone_iff_eq_none, ← Option.not_isSome, Event.isSome_verdict?, quiet event member]
    rfl
  exact ⟨by rw [verdicts, kinds]; rfl, by rw [kinds]; rfl⟩

theorem asked (limiter : Limiter) (about : Complaint) :
    limiter.Judges [.complaint about (limiter.allow about.kind).2]
      (limiter.allow about.kind).1 := ⟨rfl, rfl⟩

theorem append (first : before.Judges told between) (second : between.Judges more left) :
    before.Judges (told ++ more) left := by
  obtain ⟨verdicts, rfl⟩ := first
  obtain ⟨verdicts', rfl⟩ := second
  refine ⟨?_, ?_⟩
  · rw [List.filterMap_append, List.filterMap_append, verdicts_append, verdicts, verdicts']
  · rw [List.filterMap_append, after_append]

theorem length_verdicts (told : List Event) :
    (told.filterMap Event.verdict?).length = (told.filterMap Event.kind?).length := by
  simp only [List.length_filterMap_eq_countP, Event.isSome_verdict?]

theorem severity {limit : UInt32} {earlier later : List Event} {event : Event}
    {kind : Complaint.Kind} (judges : Judges { limit } (earlier ++ event :: later) left)
    (complains : event.kind? = some kind) :
    event.severity =
      if covers limit ((earlier.filterMap Event.kind?).count kind + 1) then .warn else .trace := by
  obtain ⟨loud, judged⟩ : ∃ loud, event.verdict? = some loud := by
    rw [← Option.isSome_iff_exists, event.isSome_verdict?, complains]
    rfl
  have verdicts := judges.verdicts
  rw [List.filterMap_append, List.filterMap_append, List.filterMap_cons_some complains,
    List.filterMap_cons_some judged] at verdicts
  have here := verdict_at limit (earlier.filterMap Event.kind?) (later.filterMap Event.kind?) kind
  rw [← verdicts, ← length_verdicts, List.getElem?_append_right (Nat.le_refl _), Nat.sub_self,
    List.getElem?_cons_zero] at here
  rw [Event.severity_of_kind? complains judged, Option.some.inj here]

end Judges

end Limiter

namespace Device

variable {d e f : Device}

def Journals (d e : Device) : Prop :=
  ∃ told, e.events = d.events ++ told ∧ d.limiter.Judges told e.limiter

namespace Journals

theorem refl (d : Device) : Journals d d :=
  ⟨[], (List.append_nil _).symm, .unasked _ .nil⟩

theorem trans (first : Journals d e) (second : Journals e f) : Journals d f := by
  obtain ⟨told, grown, judges⟩ := first
  obtain ⟨more, grown', judges'⟩ := second
  exact ⟨told ++ more, by rw [grown', grown, List.append_assoc], judges.append judges'⟩

theorem still (journals : Journals d e) (events : f.events = e.events)
    (limiter : f.limiter = e.limiter) : Journals d f := by
  obtain ⟨told, grown, judges⟩ := journals
  exact ⟨told, events.trans grown, limiter ▸ judges⟩

theorem tells (journals : Journals d e) {told : List Event} (quiet : Uncomplaining told)
    (events : f.events = e.events ++ told) (limiter : f.limiter = e.limiter) : Journals d f :=
  journals.trans ⟨told, events, limiter ▸ .unasked _ quiet⟩

theorem log (journals : Journals d e) {event : Event} (quiet : event.kind? = none) :
    Journals d (e.log event) :=
  journals.tells (.single quiet) rfl rfl

theorem complain (journals : Journals d e) (about : Complaint) : Journals d (e.complain about) :=
  journals.trans ⟨_, rfl, .asked e.limiter about⟩

theorem startCommand (journals : Journals d e) (t : Transaction) (length : Nat) :
    Journals d (e.startCommand t length) := by
  unfold Device.startCommand
  split
  · exact (journals.still rfl rfl).log rfl
  · exact journals.still rfl rfl

theorem finishReset (journals : Journals d e) (kind : Reset) :
    Journals d (e.finishReset kind) := by
  rw [finishReset_eq]
  have aborting : Uncomplaining
      (if e.parked.toList.isEmpty then [] else [.aborting e.parked.toList.length]) := by
    split
    · exact .nil
    · exact .single rfl
  have told : Uncomplaining [.resetDone kind] := .single rfl
  exact journals.tells (aborting.append told) (List.append_assoc _ _ _) rfl

theorem resetAs (journals : Journals d e) (kind : Reset) : Journals d (e.resetAs kind) := by
  refine Journals.finishReset ?_ kind
  unfold abandon
  split
  · exact (journals.still rfl rfl).log rfl
  · exact journals

end Journals

theorem sendStatus_journals (journals : Journals d e) (t : Transaction) (urb : Urb) :
    Journals d (e.sendStatus t urb).1 := by
  unfold sendStatus
  split
  · exact journals.complain _
  · exact (journals.still rfl rfl).log rfl

theorem sendEarlyStatus_journals (d : Device) (t : Transaction) (urb : Urb) :
    Journals d (d.sendEarlyStatus t urb).1 := by
  unfold sendEarlyStatus
  split
  · exact (Journals.refl d).complain _
  have logged : Journals d (d.log (.dataCutShort t.offset t.declared)) := (Journals.refl d).log rfl
  dsimp only
  split
  · exact sendStatus_journals logged _ urb
  · exact logged.startCommand t _

theorem bulkIn_journals (d : Device) (urb : Urb) : Journals d (d.bulkIn urb).1 := by
  unfold bulkIn
  split
  · exact (Journals.refl d).complain _
  split
  · exact (Journals.refl d).complain _
  split
  · exact .refl d
  · unfold sendData
    split
    · exact ((Journals.refl d).still rfl rfl).complain _
    · exact (Journals.refl d).still rfl rfl
  · exact sendStatus_journals (.refl d) _ urb
  · exact sendEarlyStatus_journals d _ urb
  · exact (Journals.refl d).complain _

theorem receiveCommand_journals (d : Device) (t : Transaction) (urb : Urb) :
    Journals d (d.receiveCommand t urb).1 := by
  unfold receiveCommand
  split
  · exact (Journals.refl d).complain _
  next wrapper parsed =>
    split
    · exact (Journals.refl d).complain _
    split
    · exact ((Journals.refl d).still rfl rfl).log rfl
    have logged : Journals d (d.log (.commandAccepted wrapper)) := (Journals.refl d).log rfl
    dsimp only
    split
    · exact logged.still rfl rfl
    · exact logged.startCommand _ _

theorem receiveData_journals (d : Device) (t : Transaction) (urb : Urb) :
    Journals d (d.receiveData t urb).1 := by
  unfold receiveData
  split
  · exact (Journals.refl d).complain _
  split
  · exact (Journals.refl d).startCommand _ _
  · exact (Journals.refl d).still rfl rfl

theorem bulkOut_journals (d : Device) (urb : Urb) : Journals d (d.bulkOut urb).1 := by
  unfold bulkOut
  split
  · exact (Journals.refl d).complain _
  split
  · exact (Journals.refl d).complain _
  split
  · exact receiveCommand_journals d _ urb
  · exact receiveCommand_journals d _ urb
  · exact receiveData_journals d _ urb
  · exact (Journals.refl d).complain _

theorem bulkOnlyReset_journals (journals : Journals d e) (urb : Urb) :
    Journals d (e.bulkOnlyReset urb).1 := by
  have logged : Journals d (e.log .bulkOnlyReset) := journals.log rfl
  unfold bulkOnlyReset
  dsimp only
  split
  · split
    · exact logged.complain _
    · exact logged.log rfl
  · exact logged.finishReset .bulkOnly

theorem serve_journals (journals : Journals d e) (request : ControlRequest) (setup : Setup)
    (urb : Urb) : Journals d (e.serve request setup urb).1 := by
  cases request with
  | bulkOnlyReset => exact bulkOnlyReset_journals journals urb
  | haltFeature pipe address halt => exact (journals.still rfl rfl).log rfl
  | descriptor kind index language =>
    simp only [serve]
    split
    · exact journals
    · exact journals
    · exact journals.complain _
  | configure value =>
    simp only [serve]
    split
    · exact journals
    · exact (journals.still rfl rfl).log rfl
  | maxLun | deviceStatus | haltStatus _ | remoteWakeup | configuration | interface
  | selectInterface => exact journals

theorem control_journals (d : Device) (urb : Urb) : Journals d (d.control urb).1 := by
  have running : Journals d { d with halts := d.halts.set .control false } :=
    (Journals.refl d).still rfl rfl
  unfold control
  dsimp only
  split
  · exact running.complain _
  next setup parsed =>
    have logged : Journals d
        (log { d with halts := d.halts.set .control false } (.controlRequest setup)) :=
      running.log rfl
    split
    · exact logged.complain _
    · exact serve_journals logged _ setup urb

theorem apply_journals (journals : Journals d e) (disposition : Disposition) :
    Journals d (e.apply disposition).1 := by
  cases disposition with
  | reconfigure urb value => exact (journals.resetAs _).still rfl rfl
  | complete urb | stall urb halting | park urb | hold urb => exact journals.still rfl rfl
  | fault => exact journals

theorem dispatch_journals (d : Device) (address : UInt8) (urb : Urb) :
    Journals d (d.dispatch address urb).1 := by
  unfold dispatch handle
  split
  · exact apply_journals (control_journals d urb) _
  · exact apply_journals (bulkOut_journals d urb) _
  · exact apply_journals (bulkIn_journals d urb) _
  · exact apply_journals ((Journals.refl d).complain _) _

theorem cancel_journals (d : Device) (id : Nat) : Journals d (d.cancel id) := by
  have pulled (urb : Urb) {e : Device} (journals : Journals d e) :
      Journals d (e.finishCancelled urb) := by
    have told : Uncomplaining [.cancelling urb.id] := .single rfl
    exact journals.tells told rfl rfl
  have nothing : Journals d (d.log (.nothingToCancel id)) := (Journals.refl d).log rfl
  unfold cancel
  split
  · exact pulled _ ((Journals.refl d).still rfl rfl)
  split
  · exact nothing
  split
  · exact pulled _ ((Journals.refl d).still rfl rfl)
  · exact nothing

theorem operate_journals (d : Device) (operation : Device.Operation) :
    Journals d (d.operate operation).1 := by
  by_cases steers : (Operation.device operation).steers = true
  case neg =>
    obtain ⟨rest, same, -⟩ := operate_looks (Bool.eq_false_iff.mpr steers) d
    rw [same]
    exact (Journals.refl d).still rfl rfl
  cases operation with
  | dispatch address urb => exact dispatch_journals d address urb
  | cancel id => exact cancel_journals d id
  | reset => exact ((Journals.refl d).log rfl).resetAs .device
  | setConfiguration value =>
    simp only [operate, setConfiguration]
    split
    · exact (Journals.refl d).resetAs _
    · exact (Journals.refl d).still rfl rfl
  | clearHalt address =>
    simp only [operate, clearHalt]
    split
    · exact ((Journals.refl d).still rfl rfl).log rfl
    · exact .refl d
  | restore saved =>
    simp only [operate]
    split
    next restored =>
      obtain ⟨slot, -, -, rfl⟩ := restore_eq_ok_iff.mp restored
      exact ((Journals.refl d).still rfl rfl).log rfl
    next => exact .refl d
  | setDescriptors table => exact (Journals.refl d).still rfl rfl
  | wakeUp | isHalted _ | isIdle | reap | poll | reapAll | stream _ | save | describe =>
    cases steers

theorem foldl_resume_journals (journals : Journals d e) (urbs : List Urb) :
    Journals d (urbs.foldl resume e) := by
  induction urbs generalizing e with
  | nil => exact journals
  | cons urb rest ih =>
    exact ih (journals.trans (apply_journals (bulkIn_journals e urb) _))

theorem concluded_journals (journals : Journals d e) (t : Transaction) (outcome : Scsi.Outcome) :
    Journals d (e.concluded t outcome) := by
  have back : Journals d (e.takenBack t outcome) := by
    unfold takenBack
    split
    · exact ((journals.log rfl).still rfl rfl).log rfl
    · exact (journals.still rfl rfl).log rfl
  have emptied : Journals d { e.takenBack t outcome with parked := .empty } := back.still rfl rfl
  have resumed : Journals d (e.takenBack t outcome).resumeParked :=
    foldl_resume_journals emptied _
  rw [concluded_eq]
  split
  · exact resumed.finishReset .bulkOnly
  · exact resumed

theorem settle_journals (d : Device) (command : Command) (completion : Completion) :
    Journals d (d.settle command completion) := by
  have told : Journals d { d with events := d.events ++ completion.events command } :=
    (Journals.refl d).tells (completion.events_uncomplaining command) rfl rfl
  unfold settle complete
  split
  · exact concluded_journals told _ _
  · exact (told.still rfl rfl).log rfl

end Device

namespace System

open Device

variable {s : System} {d : Device}

theorem submits_journals (journals : Journals d s.device) (commands : List Command) :
    Journals d (commands.foldl submit s).device := by
  induction commands generalizing s with
  | nil => exact journals
  | cons command rest ih =>
    refine ih ?_
    unfold submit
    dsimp only
    split
    · exact journals.log rfl
    · exact (journals.log rfl).trans (settle_journals _ command _)

-- Nothing was told before the operation, so what it reports is all that the log has grown by.
theorem release_judged (silent : d.events = []) (journals : Journals d s.device)
    (answer : Answer) :
    d.limiter.Judges (s.release answer).events (s.release answer).system.device.limiter := by
  have emptied : Journals d { s.device with submissions := [] } := journals.still rfl rfl
  obtain ⟨told, grown, judges⟩ := submits_journals
    (s := { s with device := { s.device with submissions := [] } }) emptied s.device.submissions
  rw [silent, List.nil_append] at grown
  have events : (s.release answer).events = told := grown
  rw [events]
  exact judges

theorem operateBroken_uncomplaining (s : System) (operation : Device.Operation) :
    Uncomplaining (s.operateBroken operation).events := by
  cases operation with
  | reset => exact .single rfl
  | restore saved =>
    simp only [operateBroken]
    split <;> exact .nil
  | _ => exact .nil

theorem completeUnheard_uncomplaining (s : System) (index : Nat) (completion : Completion)
    {event : Event} (quiet : event.kind? = none) :
    Uncomplaining (s.completeUnheard index completion event).events := by
  unfold completeUnheard
  split
  · exact (completion.events_uncomplaining _).append (.single quiet)
  · exact .nil

theorem Unheard.uncomplaining {operation : Operation} (unheard : s.Unheard operation) :
    Uncomplaining (s.perform operation).events := by
  cases operation with
  | remove =>
    cases condition : s.condition <;> exact .nil
  | device asked =>
    cases condition : s.condition with
    | working => exact absurd rfl (unheard.asks condition asked)
    | broken =>
      simp only [perform, condition]
      exact operateBroken_uncomplaining s asked
    | removed =>
      simp only [perform, condition]
      exact .nil
  | complete index completion =>
    cases condition : s.condition with
    | working =>
      rw [perform_complete_missing (unheard.ends condition index completion rfl)]
      exact .nil
    | broken | removed =>
      simp only [perform, condition]
      exact completeUnheard_uncomplaining s index completion rfl

theorem perform_judged (silent : s.device.events = []) (operation : Operation) :
    s.device.limiter.Judges (s.perform operation).events
      (s.perform operation).system.device.limiter := by
  rcases perform_cases s operation with ⟨asked, -, -, performed⟩ |
    ⟨index, completion, command, -, -, -, performed⟩ | unheard
  · rw [performed]
    exact release_judged silent (operate_journals s.device asked) _
  · rw [performed]
    exact release_judged silent (settle_journals s.device command completion) _
  · rw [unheard.device]
    exact .unasked _ unheard.uncomplaining

theorem perform_silent (silent : s.device.events = []) (operation : Operation) :
    (s.perform operation).system.device.events = [] := by
  rcases perform_cases s operation with ⟨asked, -, -, performed⟩ |
    ⟨index, completion, command, -, -, -, performed⟩ | unheard
  · rw [performed]
    rfl
  · rw [performed]
    rfl
  · rw [unheard.device]
    exact silent

theorem play_judged (silent : s.device.events = []) (turns : List Turn) :
    s.device.limiter.Judges (s.told turns) (s.play turns).device.limiter := by
  induction turns generalizing s with
  | nil => exact .unasked _ .nil
  | cons turn rest ih =>
    have first := perform_judged (s := { s with target := turn.target }) silent turn.operation
    have next := perform_silent (s := { s with target := turn.target }) silent turn.operation
    rw [told_cons, play_cons]
    exact first.append (ih next)

-- The first three are about a limiter by itself, the last about the log of a device. Complaints
-- of a kind are numbered from one.
structure WarnsPerKind (limit : UInt32) : Prop where
  numbered : ∀ (earlier later : List Complaint.Kind) (kind : Complaint.Kind),
    (Limiter.verdicts { limit } (earlier ++ kind :: later))[earlier.length]? =
      some (Limiter.covers limit (earlier.count kind + 1))
  alone : ∀ (kind : Complaint.Kind) (kinds : List Complaint.Kind),
    Limiter.verdictsOn { limit } kind kinds = Limiter.verdicts { limit } (kinds.filter (· = kind))
  stays : ∀ (earlier later : List Complaint.Kind) (kind : Complaint.Kind),
    ((Limiter.after { limit } earlier).allow kind).2 = false →
      ((Limiter.after { limit } (earlier ++ later)).allow kind).2 = false
  logged : ∀ (settings : Settings) (location : String) (target : Target) (turns : List Turn)
    (earlier later : List Event) (event : Event) (kind : Complaint.Kind),
    (create { settings with logLimit := limit } location target).told turns =
        earlier ++ event :: later →
      event.kind? = some kind →
      event.severity =
        if Limiter.covers limit ((earlier.filterMap Event.kind?).count kind + 1) then .warn
        else .trace

theorem warnings_limited (limit : UInt32) : WarnsPerKind limit := by
  refine ⟨?numbered, ?alone, ?stays, ?logged⟩
  case numbered => exact fun earlier later kind => Limiter.verdict_at limit earlier later kind
  case alone => exact fun kind kinds => Limiter.verdictsOn_eq rfl rfl kinds
  case stays => exact fun earlier later kind refused => Limiter.allow_after_stays refused later
  case logged =>
    intro settings location target turns earlier later event kind told complains
    have judged := play_judged
      (s := create { settings with logLimit := limit } location target) rfl turns
    rw [told] at judged
    exact judged.severity complains

example :
    ((create { logLimit := 1 } "lun0" .holds).told
      [readBulk 1 13, readBulk 2 13, readBulk 3 13]).map Event.severity =
      [.warn, .warn, .trace] := by decide

end System

end BulkOnly
