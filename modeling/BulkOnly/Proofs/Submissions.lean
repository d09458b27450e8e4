import BulkOnly.Proofs.Steps
import BulkOnly.Proofs.Writing

set_option autoImplicit false

namespace BulkOnly

namespace Moment

def accepted? (moment : Moment) : Option Urb :=
  moment.write?.bind fun urb =>
    match (moment.before.bulkOut urb).2 with
    | .complete moved => some moved
    | _ => none

def opened? (moment : Moment) : Option CommandWrapper :=
  if moment.before.slot.stage = .ready then
    moment.accepted?.bind fun urb => (CommandWrapper.parse urb.payload).toOption
  else none

def data (moment : Moment) : Bytes :=
  if moment.before.slot.stage = .ready then [] else (moment.accepted?.map Urb.payload).getD []

def next (known : Option (CommandWrapper × Bytes)) (moment : Moment) :
    Option (CommandWrapper × Bytes) :=
  match moment.opened? with
  | some wrapper => some (wrapper, [])
  | none => known.map fun (wrapper, data) => (wrapper, data ++ moment.data)

end Moment

def latest (moments : List Moment) : Option (CommandWrapper × Bytes) :=
  moments.foldl Moment.next none

theorem latest_append (moments : List Moment) (moment : Moment) :
    latest (moments ++ [moment]) = Moment.next (latest moments) moment :=
  List.foldl_append ..

structure Command.Conveys (command : Command) (wrapper : CommandWrapper) (data : Bytes) : Prop where
  asked : command.transaction.wrapper = wrapper
  block : command.block = wrapper.command
  direction : command.direction = wrapper.direction
  sense : command.transaction.sense = Scsi.Sense.zero
  bounded : command.length ≤ wrapper.transferLength.toNat
  reads : wrapper.direction = .toHost ∨ wrapper.transferLength = 0 →
    command.length = wrapper.transferLength.toNat ∧
      command.data = List.replicate wrapper.transferLength.toNat 0
  writes : wrapper.direction = .toDevice → wrapper.transferLength ≠ 0 →
    command.length = data.length ∧ command.data = data

namespace Transaction

variable {wrapper : CommandWrapper} {sense : Scsi.Sense} {data : Bytes}

theorem conveys_writing (writes : wrapper.direction = .toDevice)
    (some_data : wrapper.transferLength ≠ 0)
    (bounded : data.length ≤ wrapper.transferLength.toNat) (generation : Nat) :
    Command.Conveys ⟨generation, .writing wrapper sense data⟩ wrapper data where
  asked := rfl
  block := rfl
  direction := rfl
  sense := rfl
  bounded := bounded
  reads other := by
    rcases other with reads | nothing
    · rw [reads] at writes
      cases writes
    · exact absurd nothing some_data
  writes _ _ := ⟨rfl, data_writing generation⟩

theorem conveys_reading (reads : wrapper.direction = .toHost ∨ wrapper.transferLength = 0)
    (generation : Nat) :
    Command.Conveys ⟨generation,
      (filling wrapper sense []).started wrapper.transferLength.toNat⟩ wrapper [] where
  asked := rfl
  block := rfl
  direction := rfl
  sense := rfl
  bounded := Nat.le_refl _
  reads _ := by simp [Command.length, Command.data, started, filling]
  writes writes some_data := by
    rcases reads with towards | nothing
    · rw [towards] at writes
      cases writes
    · exact absurd nothing some_data

end Transaction

namespace Device

variable {d : Device} {wrapper : CommandWrapper} {sense : Scsi.Sense} {data : Bytes} {urb : Urb}

inductive AtReady (d : Device) (urb : Urb) : Prop where
  | refuses (halting : List Pipe) (decided : (d.bulkOut urb).2 = .stall urb halting)
    (aside : Aside d (d.bulkOut urb).1)
  | opens (wrapper : CommandWrapper) (sense : Scsi.Sense)
    (parsed : CommandWrapper.parse urb.payload = .ok wrapper) (allows : d.Allows wrapper)
    (decided : ∃ events, d.bulkOut urb =
      ({ d with slot := .held .dataFromHost (.filling wrapper sense []), events }, .complete urb))
  | starts (wrapper : CommandWrapper) (sense : Scsi.Sense)
    (parsed : CommandWrapper.parse urb.payload = .ok wrapper)
    (allowed : wrapper.transferLength ≤ d.settings.maxTransferLength)
    (reads : wrapper.direction = .toHost ∨ wrapper.transferLength = 0)
    (decided : ∃ events, d.bulkOut urb =
      (startCommand { d with events } (.filling wrapper sense []) wrapper.transferLength.toNat,
        .complete urb))

theorem receiveCommand_atReady (d : Device) (t : Transaction) (urb : Urb)
    (same : d.bulkOut urb = d.receiveCommand t urb) : d.AtReady urb := by
  cases parsed : CommandWrapper.parse urb.payload with
  | error reason =>
    have refused : d.bulkOut urb = (d.complain (.badWrapper reason), .stall urb [.bulkOut]) := by
      rw [same, receiveCommand, parsed]
    exact .refuses _ (by rw [refused]) (by rw [refused]; exact .of_same rfl rfl rfl)
  | ok wrapper =>
    rw [receiveCommand, parsed] at same
    dsimp only at same
    by_cases long : d.settings.maxTransferLength < wrapper.transferLength
    · rw [if_pos long] at same
      exact .refuses _ (by rw [same]) (by rw [same]; exact .of_same rfl rfl rfl)
    rw [if_neg long] at same
    by_cases refused : (!d.makesRoom wrapper.transferLength) = true
    · rw [if_pos refused] at same
      exact .refuses _ (by rw [same]) (by rw [same]; exact ⟨rfl, .inr rfl, rfl⟩)
    rw [if_neg refused, Transaction.opened_eq] at same
    by_cases writes : wrapper.direction = .toDevice ∧ wrapper.transferLength ≠ 0
    · rw [if_pos writes] at same
      exact .opens wrapper t.sense parsed ⟨writes.1, writes.2, UInt32.not_lt.mp long⟩ ⟨_, same⟩
    · rw [if_neg writes] at same
      refine .starts wrapper t.sense parsed (UInt32.not_lt.mp long) ?_ ⟨_, same⟩
      cases direction : wrapper.direction with
      | toHost => exact .inl rfl
      | toDevice =>
        by_contra other
        exact writes ⟨direction, fun nothing => other (.inr nothing)⟩

theorem bulkOut_atReady (ready : d.slot.stage = .ready) (urb : Urb) : d.AtReady urb := by
  by_cases why : urb.direction ≠ .toDevice ∨ d.halts.bulkOut = true
  · obtain ⟨halting, decided, works⟩ := d.bulkOut_refused why
    exact .refuses halting decided works.aside
  obtain ⟨direction, running⟩ := not_or.mp why
  cases slot : d.slot with
  | vacant =>
    refine receiveCommand_atReady d {} urb ?_
    rw [bulkOut, if_neg direction, if_neg running, slot]
  | executing generation =>
    rw [slot] at ready
    cases ready
  | held phase t =>
    cases phase with
    | ready =>
      refine receiveCommand_atReady d t urb ?_
      rw [bulkOut, if_neg direction, if_neg running, slot]
    | dataFromHost | dataToHost | status =>
      rw [slot] at ready
      cases ready

theorem bulkOut_unready (unready : d.slot.stage ≠ .ready)
    (other : ∀ t, d.slot ≠ .held .dataFromHost t) (urb : Urb) :
    ∃ halting, (d.bulkOut urb).2 = .stall urb halting ∧ Works d (d.bulkOut urb).1 := by
  by_cases why : urb.direction ≠ .toDevice ∨ d.halts.bulkOut = true
  · exact d.bulkOut_refused why
  obtain ⟨direction, running⟩ := not_or.mp why
  rw [bulkOut, if_neg direction, if_neg running]
  split
  next vacant => exact absurd (by rw [vacant]; rfl) unready
  next held => exact absurd (by rw [held]; rfl) unready
  next t held => exact absurd held (other t)
  next => exact ⟨_, rfl, complain_works d _⟩

inductive AtFilling (d : Device) (wrapper : CommandWrapper) (sense : Scsi.Sense) (data : Bytes)
    (urb : Urb) : Prop where
  | refuses (halting : List Pipe) (decided : (d.bulkOut urb).2 = .stall urb halting)
    (aside : Aside d (d.bulkOut urb).1)
  | part (less : data.length + urb.payload.length < wrapper.transferLength.toNat)
    (decided : d.bulkOut urb =
      ({ d with slot := .held .dataFromHost (.filling wrapper sense (data ++ urb.payload)) },
        .complete urb))
  | last (all : data.length + urb.payload.length = wrapper.transferLength.toNat)
    (decided : d.bulkOut urb =
      ({ d with
        slot := .executing d.nextGeneration
        nextGeneration := d.nextGeneration + 1
        statistics.commands := d.statistics.commands + 1
        submissions := d.submissions ++
          [⟨d.nextGeneration, .writing wrapper sense (data ++ urb.payload)⟩] },
        .complete urb))

theorem bulkOut_atFilling (slot : d.slot = .held .dataFromHost (.filling wrapper sense data))
    (allows : d.Allows wrapper) (urb : Urb) : d.AtFilling wrapper sense data urb := by
  by_cases why : urb.direction ≠ .toDevice ∨ d.halts.bulkOut = true
  · obtain ⟨halting, decided, works⟩ := d.bulkOut_refused why
    exact .refuses halting decided works.aside
  have direction : urb.direction = .toDevice := not_not.mp fun other => why (.inl other)
  have running : d.halts.bulkOut = false := eq_false_of_ne_true fun halted => why (.inr halted)
  rcases Nat.lt_trichotomy (data.length + urb.payload.length) wrapper.transferLength.toNat with
    less | all | more
  · exact .part less (bulkOut_data slot running direction less)
  · exact .last all (bulkOut_last_data slot running direction allows all)
  · have refused := bulkOut_overrun slot running direction more
    exact .refuses _ (by rw [refused]) (by rw [refused]; exact (complain_works d _).aside)

inductive EarlyRead (d : Device) (wrapper : CommandWrapper) (sense : Scsi.Sense) (data : Bytes)
    (urb : Urb) : Prop where
  | refuses (aside : Aside d (d.bulkIn urb).1)
  | submits (direction : urb.direction = .toHost) (running : d.halts.bulkIn = false)
    (exact : urb.requested = StatusWrapper.encodedLength) (begun : data ≠ [])
    (settings : (d.bulkIn urb).1.settings = d.settings)
    (slot : (d.bulkIn urb).1.slot = .executing d.nextGeneration)
    (submissions : (d.bulkIn urb).1.submissions =
      d.submissions ++ [⟨d.nextGeneration, .writing wrapper sense data⟩])

theorem bulkIn_atFilling (slot : d.slot = .held .dataFromHost (.filling wrapper sense data))
    (allows : d.Allows wrapper) (urb : Urb) : d.EarlyRead wrapper sense data urb := by
  by_cases why : urb.direction ≠ .toHost ∨ d.halts.bulkIn = true
  · obtain ⟨halting, -, works⟩ := d.bulkIn_refused why
    exact .refuses works.aside
  have direction : urb.direction = .toHost := not_not.mp fun other => why (.inl other)
  have running : d.halts.bulkIn = false := eq_false_of_ne_true fun halted => why (.inr halted)
  by_cases exact : urb.requested = StatusWrapper.encodedLength
  case neg =>
    refine .refuses ?_
    simp only [bulkIn, direction, running, slot, sendEarlyStatus, ne_eq, exact]
    exact (complain_works d _).aside
  by_cases begun : data = []
  · subst begun
    obtain ⟨t, events, decided⟩ := bulkIn_empty_read slot running direction exact
    refine .refuses ?_
    rw [decided]
    exact ⟨rfl, .inr rfl, rfl⟩
  · have decided := bulkIn_early_read slot running direction exact allows begun
    exact .submits direction running exact begun (by rw [decided]) (by rw [decided])
      (by rw [decided])

-- Anywhere else a read neither submits a command nor opens a write.
theorem bulkIn_unfilling (other : ∀ t, d.slot ≠ .held .dataFromHost t) (urb : Urb) :
    (d.bulkIn urb).1.submissions = d.submissions ∧
      ∀ t, (d.bulkIn urb).1.slot ≠ .held .dataFromHost t := by
  by_cases calm : d.slot.Calm
  · obtain ⟨stays, -⟩ := bulkIn_calm calm urb
    refine ⟨stays.same.submissions, ?_⟩
    obtain ⟨phase, t, held, past⟩ := stays.calm
    rintro t' filling
    rw [held] at filling
    cases filling
    exact past rfl
  · have same : (d.bulkIn urb).1.submissions = d.submissions ∧ (d.bulkIn urb).1.slot = d.slot := by
      unfold bulkIn
      split
      next => exact ⟨rfl, rfl⟩
      next =>
        split
        next => exact ⟨rfl, rfl⟩
        next =>
          split
          next => exact ⟨rfl, rfl⟩
          next t held => exact absurd ⟨_, t, held, nofun⟩ calm
          next t held => exact absurd ⟨_, t, held, nofun⟩ calm
          next t held => exact absurd held (other t)
          next => exact ⟨rfl, rfl⟩
    rw [same.1, same.2]
    exact ⟨rfl, other⟩

theorem startCommand_course (d : Device) (t : Transaction) (length : Nat) :
    (d.startCommand t length).settings = d.settings ∧
      (∀ t', (d.startCommand t length).slot ≠ .held .dataFromHost t') ∧
      ((d.startCommand t length).submissions = d.submissions ∨
        (d.startCommand t length).submissions =
          d.submissions ++ [⟨d.nextGeneration, t.started length⟩]) := by
  unfold startCommand
  split
  next =>
    refine ⟨rfl, ?_, .inl rfl⟩
    intro t' filling
    obtain ⟨phase, -⟩ := Slot.held.inj filling
    exact absurd phase (Transaction.phaseAfter_ne_dataFromHost _)
  next => exact ⟨rfl, nofun, .inr rfl⟩

end Device

-- What the device has of a write that comes in is what the history knows of it.
structure Device.Fills (d : Device) (settings : Settings)
    (known : Option (CommandWrapper × Bytes)) : Prop where
  settings : d.settings = settings
  filling : ∀ t, d.slot = .held .dataFromHost t → ∃ wrapper sense data,
    known = some (wrapper, data) ∧ t = .filling wrapper sense data ∧ d.Allows wrapper ∧
      data.length < wrapper.transferLength.toNat

theorem Device.Fills.of_same {d e : Device} {settings : Settings}
    {known : Option (CommandWrapper × Bytes)} (fills : d.Fills settings known)
    (same : e.settings = d.settings) (slot : e.slot = d.slot) : e.Fills settings known := by
  refine ⟨same.trans fills.settings, ?_⟩
  intro t filling
  obtain ⟨wrapper, sense, data, known, fill, allows, less⟩ := fills.filling t (slot ▸ filling)
  exact ⟨wrapper, sense, data, known, fill, { allows with allowed := same ▸ allows.allowed }, less⟩

theorem Moment.done_of_write {moment : Moment} {urb : Urb} (write : moment.write? = some urb) :
    moment.after.done = moment.before.done.append (urb.handedBack moment.accepted?) := by
  have same := (Device.bulkOut_frame moment.before urb).done
  rw [after_of_write write, accepted?, write, Option.bind_some]
  rcases Device.bulkOut_decides moment.before urb with ⟨halting, stalled⟩ | completed
  · rw [stalled]
    exact congrArg (·.append (urb.finished .stall)) same
  · rw [completed]
    exact congrArg (·.append (urb.finished .ok)) same

structure Moment.Faithful (moment : Moment) (settings : Settings)
    (known : Option (CommandWrapper × Bytes)) : Prop where
  once : moment.submitted.length ≤ 1
  conveys : ∀ command ∈ moment.submitted, ∃ wrapper data, known = some (wrapper, data) ∧
    command.Conveys wrapper data ∧ wrapper.transferLength ≤ settings.maxTransferLength

namespace Moment

open Device

variable {moment : Moment} {earlier : List Moment} {settings : Settings}
variable {known : Option (CommandWrapper × Bytes)}

theorem faithful_nothing (nothing : moment.submitted = []) : moment.Faithful settings known := by
  constructor
  · rw [nothing]
    exact Nat.zero_le _
  · rw [nothing]
    nofun

theorem faithful_single {command : Command} {wrapper : CommandWrapper} {data : Bytes}
    (single : moment.submitted = [command]) (same : known = some (wrapper, data))
    (conveys : command.Conveys wrapper data)
    (allowed : wrapper.transferLength ≤ settings.maxTransferLength) :
    moment.Faithful settings known := by
  constructor
  · rw [single]
    exact Nat.le_refl _
  · rw [single]
    intro other member
    rw [List.mem_singleton.mp member]
    exact ⟨wrapper, data, same, conveys, allowed⟩

theorem next_of_unaccepted (unaccepted : moment.accepted? = none) :
    next known moment = known := by
  have unopened : moment.opened? = none := by simp [opened?, unaccepted]
  have nothing : moment.data = [] := by simp [data, unaccepted]
  rw [next, unopened, nothing]
  cases known with
  | none => rfl
  | some both => simp

theorem fills_aside (fills : moment.before.Fills settings known)
    (unaccepted : moment.accepted? = none) (aside : Aside moment.before moment.after)
    (released : moment.before.submissions = []) :
    moment.after.Fills settings (next known moment) ∧
      moment.Faithful settings (next known moment) := by
  rw [next_of_unaccepted unaccepted]
  refine ⟨?_, faithful_nothing (aside.submissions.trans released)⟩
  rcases aside.slot with same | ready
  · exact fills.of_same aside.settings same
  · refine ⟨aside.settings.trans fills.settings, ?_⟩
    intro t filling
    rw [filling] at ready
    cases ready

theorem accepted?_of_stall {urb : Urb} {halting : List Pipe} (write : moment.write? = some urb)
    (decided : (moment.before.bulkOut urb).2 = .stall urb halting) : moment.accepted? = none := by
  rw [accepted?, write, Option.bind_some, decided]

theorem accepted?_of_complete {urb moved : Urb} (write : moment.write? = some urb)
    (decided : (moment.before.bulkOut urb).2 = .complete moved) :
    moment.accepted? = some moved := by
  rw [accepted?, write, Option.bind_some, decided]

theorem opened?_of_parsed {urb : Urb} {wrapper : CommandWrapper}
    (ready : moment.before.slot.stage = .ready) (accepted : moment.accepted? = some urb)
    (parsed : CommandWrapper.parse urb.payload = .ok wrapper) :
    moment.opened? = some wrapper := by
  rw [opened?, if_pos ready, accepted, Option.bind_some, parsed]
  rfl

theorem next_of_opened {wrapper : CommandWrapper} (opened : moment.opened? = some wrapper) :
    next known moment = some (wrapper, []) := by
  rw [next, opened]

theorem data_of_accepted {urb : Urb} (unready : moment.before.slot.stage ≠ .ready)
    (accepted : moment.accepted? = some urb) : moment.data = urb.payload := by
  rw [Moment.data, if_neg unready, accepted]
  rfl

theorem next_of_data {urb : Urb} {wrapper : CommandWrapper} {data : Bytes}
    (unready : moment.before.slot.stage ≠ .ready) (accepted : moment.accepted? = some urb)
    (same : known = some (wrapper, data)) :
    next known moment = some (wrapper, data ++ urb.payload) := by
  have unopened : moment.opened? = none := if_neg unready
  rw [next, unopened, same, data_of_accepted unready accepted]
  rfl

theorem fills_ready {urb : Urb} (fills : moment.before.Fills settings known)
    (released : moment.before.submissions = []) (write : moment.write? = some urb)
    (works : Works (moment.before.bulkOut urb).1 moment.after)
    (ready : moment.before.slot.stage = .ready) :
    moment.after.Fills settings (next known moment) ∧
      moment.Faithful settings (next known moment) := by
  cases bulkOut_atReady ready urb with
  | refuses halting decided aside =>
    exact fills_aside fills (accepted?_of_stall write decided) (aside.trans works.aside) released
  | opens wrapper sense parsed allows decided =>
    obtain ⟨events, decided⟩ := decided
    rw [decided] at works
    have accepted : moment.accepted? = some urb := accepted?_of_complete write (by rw [decided])
    rw [next_of_opened (opened?_of_parsed ready accepted parsed)]
    refine ⟨⟨works.settings.trans fills.settings, ?_⟩,
      faithful_nothing (works.submissions.trans released)⟩
    intro t filling
    obtain ⟨-, rfl⟩ := Slot.held.inj (works.slot.symm.trans filling)
    refine ⟨wrapper, sense, [], rfl, rfl, { allows with
      allowed := works.settings ▸ allows.allowed }, ?_⟩
    exact Nat.pos_of_ne_zero fun zero => allows.some_data (UInt32.toNat_inj.mp zero)
  | starts wrapper sense parsed allowed reads decided =>
    obtain ⟨events, decided⟩ := decided
    rw [decided] at works
    have accepted : moment.accepted? = some urb := accepted?_of_complete write (by rw [decided])
    rw [next_of_opened (opened?_of_parsed ready accepted parsed)]
    obtain ⟨same, unfilling, course⟩ := startCommand_course { moment.before with events }
      (.filling wrapper sense []) wrapper.transferLength.toNat
    refine ⟨⟨(works.settings.trans same).trans fills.settings, ?_⟩, ?_⟩
    · intro t filling
      exact absurd (works.slot.symm.trans filling) (unfilling t)
    rcases course with nothing | single
    · exact faithful_nothing ((works.submissions.trans nothing).trans released)
    · have submitted : moment.submitted = [⟨moment.before.nextGeneration,
          (Transaction.filling wrapper sense []).started wrapper.transferLength.toNat⟩] := by
        rw [Moment.submitted, works.submissions, single, released]
        rfl
      rw [fills.settings] at allowed
      exact faithful_single submitted rfl (Transaction.conveys_reading reads _) allowed

theorem fills_data {urb : Urb} {t : Transaction} (fills : moment.before.Fills settings known)
    (released : moment.before.submissions = []) (write : moment.write? = some urb)
    (works : Works (moment.before.bulkOut urb).1 moment.after)
    (slot : moment.before.slot = .held .dataFromHost t) :
    moment.after.Fills settings (next known moment) ∧
      moment.Faithful settings (next known moment) := by
  obtain ⟨wrapper, sense, data, same, rfl, allows, less⟩ := fills.filling t slot
  have unready : moment.before.slot.stage ≠ .ready := by
    rw [slot]
    nofun
  cases bulkOut_atFilling slot allows urb with
  | refuses halting decided aside =>
    exact fills_aside fills (accepted?_of_stall write decided) (aside.trans works.aside) released
  | part fits decided =>
    rw [decided] at works
    have accepted : moment.accepted? = some urb := accepted?_of_complete write (by rw [decided])
    rw [next_of_data unready accepted same]
    refine ⟨⟨works.settings.trans fills.settings, ?_⟩,
      faithful_nothing (works.submissions.trans released)⟩
    intro t filling
    obtain ⟨-, rfl⟩ := Slot.held.inj (works.slot.symm.trans filling)
    refine ⟨wrapper, sense, data ++ urb.payload, rfl, rfl, { allows with
      allowed := works.settings ▸ allows.allowed }, ?_⟩
    rw [List.length_append]
    exact fits
  | last all decided =>
    rw [decided] at works
    have accepted : moment.accepted? = some urb := accepted?_of_complete write (by rw [decided])
    rw [next_of_data unready accepted same]
    have submitted : moment.submitted = [⟨moment.before.nextGeneration,
        .writing wrapper sense (data ++ urb.payload)⟩] := by
      rw [Moment.submitted, works.submissions, released]
      rfl
    have bounded : (data ++ urb.payload).length ≤ wrapper.transferLength.toNat := by
      rw [List.length_append]
      exact Nat.le_of_eq all
    refine ⟨⟨works.settings.trans fills.settings, ?_⟩, ?_⟩
    · intro t filling
      have busy : Slot.executing moment.before.nextGeneration = .held .dataFromHost t :=
        works.slot.symm.trans filling
      cases busy
    · exact faithful_single submitted rfl
        (Transaction.conveys_writing allows.writes allows.some_data bounded _)
        (fills.settings ▸ allows.allowed)

theorem fills_read {urb : Urb} (fills : moment.before.Fills settings known)
    (released : moment.before.submissions = []) (write : moment.write? = none)
    (works : Works (moment.before.bulkIn urb).1 moment.after) :
    moment.after.Fills settings (next known moment) ∧
      moment.Faithful settings (next known moment) := by
  have unaccepted : moment.accepted? = none := by rw [accepted?, write, Option.bind_none]
  have settings_kept := (bulkIn_frame moment.before urb).settings
  by_cases filling : ∃ t, moment.before.slot = .held .dataFromHost t
  · obtain ⟨t, slot⟩ := filling
    obtain ⟨wrapper, sense, data, same, rfl, allows, less⟩ := fills.filling t slot
    cases bulkIn_atFilling slot allows urb with
    | refuses aside =>
      exact fills_aside fills unaccepted (aside.trans works.aside) released
    | submits direction running exact begun settings_same executing submissions =>
      rw [next_of_unaccepted unaccepted]
      have submitted : moment.submitted =
          [⟨moment.before.nextGeneration, .writing wrapper sense data⟩] := by
        rw [Moment.submitted, works.submissions, submissions, released]
        rfl
      refine ⟨⟨(works.settings.trans settings_same).trans fills.settings, ?_⟩, ?_⟩
      · intro t filling
        rw [works.slot, executing] at filling
        cases filling
      · exact faithful_single submitted same
          (Transaction.conveys_writing allows.writes allows.some_data (Nat.le_of_lt less) _)
          (fills.settings ▸ allows.allowed)
  · obtain ⟨nothing, unfilling⟩ :=
      bulkIn_unfilling (d := moment.before) (fun t slot => filling ⟨t, slot⟩) urb
    rw [next_of_unaccepted unaccepted]
    refine ⟨⟨(works.settings.trans settings_kept).trans fills.settings, ?_⟩,
      faithful_nothing ((works.submissions.trans nothing).trans released)⟩
    intro t filling
    exact absurd (works.slot.symm.trans filling) (unfilling t)

theorem fills_next (fills : moment.before.Fills settings known)
    (released : moment.before.submissions = [])
    (follows : moment.step.Follows earlier moment.before) :
    moment.after.Fills settings (next known moment) ∧
      moment.Faithful settings (next known moment) := by
  cases kind follows with
  | reads urb read write works => exact fills_read fills released write works
  | writes urb read write works =>
    by_cases ready : moment.before.slot.stage = .ready
    · exact fills_ready fills released write works ready
    by_cases filling : ∃ t, moment.before.slot = .held .dataFromHost t
    · obtain ⟨t, slot⟩ := filling
      exact fills_data fills released write works slot
    · obtain ⟨halting, decided, unmoved⟩ :=
        bulkOut_unready ready (fun t slot => filling ⟨t, slot⟩) urb
      exact fills_aside fills (accepted?_of_stall write decided)
        (unmoved.aside.trans works.aside) released
  | hears command completion step executing read write settings_kept slot submissions =>
    have unaccepted : moment.accepted? = none := by rw [accepted?, write, Option.bind_none]
    rw [next_of_unaccepted unaccepted]
    refine ⟨⟨settings_kept.trans fills.settings, ?_⟩,
      faithful_nothing (submissions.trans released)⟩
    intro t filling
    obtain ⟨phase, -⟩ := Slot.held.inj (slot.symm.trans filling)
    exact absurd phase (Transaction.phaseAfter_ne_dataFromHost _)
  | passes read write aside =>
    have unaccepted : moment.accepted? = none := by rw [accepted?, write, Option.bind_none]
    exact fills_aside fills unaccepted aside released

end Moment

def CommandWrapper.Writes (wrapper : CommandWrapper) : Prop :=
  wrapper.direction = .toDevice ∧ wrapper.transferLength ≠ 0

def Moment.ReadsEarly (moment : Moment) : Prop :=
  ∃ urb, moment.read? = some urb ∧ urb.direction = .toHost ∧
    urb.requested = StatusWrapper.encodedLength ∧ moment.before.halts.bulkIn = false ∧
    moment.before.slot.stage = .dataFromHost

structure Moment.Overruns (moment : Moment) (wrapper : CommandWrapper) (data : Bytes) (urb : Urb) :
    Prop where
  write : moment.write? = some urb
  direction : urb.direction = .toDevice
  running : moment.before.halts.bulkOut = false
  filling : moment.before.slot.stage = .dataFromHost
  more : wrapper.transferLength.toNat < data.length + urb.payload.length

namespace Moment

open Device

variable {moment : Moment} {earlier : List Moment} {settings : Settings}
variable {wrapper : CommandWrapper} {data : Bytes}

theorem slot_of_filling (filling : moment.before.slot.stage = .dataFromHost) :
    ∃ t, moment.before.slot = .held .dataFromHost t := by
  cases slot : moment.before.slot with
  | vacant | executing generation =>
    rw [slot] at filling
    cases filling
  | held phase t =>
    cases phase with
    | dataFromHost => exact ⟨t, rfl⟩
    | ready | dataToHost | status =>
      rw [slot] at filling
      cases filling

-- The bulk-out pipe completes nothing but wrappers and the data of a write.
theorem filling_of_accepted {urb : Urb} (accepted : moment.accepted? = some urb)
    (unready : moment.before.slot.stage ≠ .ready) :
    ∃ t, moment.before.slot = .held .dataFromHost t := by
  by_contra unfilling
  obtain ⟨other, write, -⟩ := Option.bind_eq_some_iff.mp accepted
  obtain ⟨halting, decided, -⟩ :=
    bulkOut_unready unready (fun t slot => unfilling ⟨t, slot⟩) other
  rw [accepted?_of_stall write decided] at accepted
  cases accepted

theorem filling_known (fills : moment.before.Fills settings (some (wrapper, data)))
    {t : Transaction} (slot : moment.before.slot = .held .dataFromHost t) :
    ∃ sense, moment.before.slot = .held .dataFromHost (.filling wrapper sense data) ∧
      moment.before.Allows wrapper ∧ data.length < wrapper.transferLength.toNat := by
  obtain ⟨wrapper', sense, data', same, rfl, allows, less⟩ := fills.filling t slot
  obtain ⟨rfl, rfl⟩ := Prod.mk.inj (Option.some.inj same)
  exact ⟨sense, slot, allows, less⟩

theorem submits_of_whole (fills : moment.before.Fills settings (some (wrapper, data)))
    (less : data.length < wrapper.transferLength.toNat)
    (whole : data.length + moment.data.length = wrapper.transferLength.toNat) :
    moment.submitted ≠ [] := by
  have unready : moment.before.slot.stage ≠ .ready := by
    intro ready
    rw [Moment.data, if_pos ready, List.length_nil] at whole
    omega
  cases accepted : moment.accepted? with
  | none =>
    rw [Moment.data, if_neg unready, accepted] at whole
    simp only [Option.map_none, Option.getD_none, List.length_nil] at whole
    omega
  | some urb =>
    have taken := data_of_accepted unready accepted
    obtain ⟨t, slot⟩ := filling_of_accepted accepted unready
    obtain ⟨sense, slot, allows, -⟩ := filling_known fills slot
    obtain ⟨other, write, -⟩ := Option.bind_eq_some_iff.mp accepted
    have works := works_of_write write
    cases bulkOut_atFilling slot allows other with
    | refuses halting decided =>
      rw [accepted?_of_stall write decided] at accepted
      cases accepted
    | part fits decided =>
      rw [accepted?_of_complete write (by rw [decided])] at accepted
      obtain rfl := Option.some.inj accepted
      rw [taken] at whole
      omega
    | last all decided =>
      rw [decided] at works
      rw [Moment.submitted, works.submissions]
      exact List.append_ne_nil_of_right_ne_nil _ (List.cons_ne_nil _ _)

theorem submits_of_readsEarly (fills : moment.before.Fills settings (some (wrapper, data)))
    (early : moment.ReadsEarly) (begun : 0 < data.length) : moment.submitted ≠ [] := by
  obtain ⟨urb, read, direction, exact, running, filling⟩ := early
  obtain ⟨t, slot⟩ := slot_of_filling filling
  obtain ⟨sense, slot, allows, -⟩ := filling_known fills slot
  have decided := bulkIn_early_read slot running direction exact allows
    (List.ne_nil_of_length_pos begun)
  have works := works_of_read read
  rw [decided] at works
  rw [Moment.submitted, works.submissions]
  exact List.append_ne_nil_of_right_ne_nil _ (List.cons_ne_nil _ _)

theorem aside_of_unopened {urb : Urb} (ready : moment.before.slot.stage = .ready)
    (write : moment.write? = some urb) (unopened : moment.opened? = none) :
    Aside moment.before (moment.before.bulkOut urb).1 := by
  cases bulkOut_atReady ready urb with
  | refuses halting decided aside => exact aside
  | opens wrapper sense parsed allows decided | starts wrapper sense parsed allowed reads decided =>
    obtain ⟨events, decided⟩ := decided
    have accepted := accepted?_of_complete write (by rw [decided])
    rw [opened?_of_parsed ready accepted parsed] at unopened
    cases unopened

theorem whole_or_early (fills : moment.before.Fills settings (some (wrapper, data)))
    (released : moment.before.submissions = [])
    (follows : moment.step.Follows earlier moment.before) (unopened : moment.opened? = none)
    (submits : moment.submitted ≠ []) :
    (data.length < wrapper.transferLength.toNat ∧
        data.length + moment.data.length = wrapper.transferLength.toNat) ∨
      (moment.ReadsEarly ∧ 0 < data.length ∧ data.length < wrapper.transferLength.toNat) := by
  have kept (same : moment.after.submissions = moment.before.submissions) : False :=
    submits (same.trans released)
  cases kind follows with
  | hears _ _ _ _ _ _ _ _ same => exact (kept same).elim
  | passes _ _ aside => exact (kept aside.submissions).elim
  | reads urb read write works =>
    by_cases filling : ∃ t, moment.before.slot = .held .dataFromHost t
    · obtain ⟨t, slot⟩ := filling
      obtain ⟨sense, slot, allows, less⟩ := filling_known fills slot
      cases bulkIn_atFilling slot allows urb with
      | refuses aside => exact (kept (works.submissions.trans aside.submissions)).elim
      | submits direction running exact begun =>
        refine .inr ⟨⟨urb, read, direction, exact, running, ?_⟩,
          List.length_pos_iff.mpr begun, less⟩
        rw [slot]
        rfl
    · obtain ⟨same, -⟩ :=
        bulkIn_unfilling (d := moment.before) (fun t slot => filling ⟨t, slot⟩) urb
      exact (kept (works.submissions.trans same)).elim
  | writes urb read write works =>
    by_cases ready : moment.before.slot.stage = .ready
    · have aside := aside_of_unopened ready write unopened
      exact (kept (works.submissions.trans aside.submissions)).elim
    by_cases filling : ∃ t, moment.before.slot = .held .dataFromHost t
    · obtain ⟨t, slot⟩ := filling
      obtain ⟨sense, slot, allows, less⟩ := filling_known fills slot
      cases bulkOut_atFilling slot allows urb with
      | refuses halting decided aside =>
        exact (kept (works.submissions.trans aside.submissions)).elim
      | part fits decided =>
        rw [decided] at works
        exact (kept works.submissions).elim
      | last all decided =>
        have accepted := accepted?_of_complete write (by rw [decided])
        rw [data_of_accepted ready accepted]
        exact .inl ⟨less, all⟩
    · obtain ⟨halting, -, unmoved⟩ := bulkOut_unready ready (fun t slot => filling ⟨t, slot⟩) urb
      exact (kept (works.submissions.trans unmoved.submissions)).elim

theorem overrun_refused {urb : Urb}
    (fills : moment.before.Fills settings (some (wrapper, data)))
    (released : moment.before.submissions = [])
    (overruns : moment.Overruns wrapper data urb) :
    (moment.before.bulkOut urb).2 = .stall urb [.bulkOut] ∧ moment.data = [] ∧
      moment.submitted = [] ∧ moment.after.slot = moment.before.slot := by
  obtain ⟨write, direction, running, filling, more⟩ := overruns
  obtain ⟨t, slot⟩ := slot_of_filling filling
  obtain ⟨sense, slot, -, -⟩ := filling_known fills slot
  have decided := bulkOut_overrun slot running direction more
  have unaccepted := accepted?_of_stall write (by rw [decided])
  have works := works_of_write write
  rw [decided] at works
  refine ⟨by rw [decided], ?_, works.submissions.trans released, works.slot⟩
  simp [Moment.data, unaccepted]

theorem opening_submits_nothing (released : moment.before.submissions = [])
    (opened : moment.opened? = some wrapper) (writes : wrapper.Writes) : moment.submitted = [] := by
  have ready : moment.before.slot.stage = .ready := by
    by_contra unready
    rw [opened?, if_neg unready] at opened
    cases opened
  have accepted := opened
  rw [opened?, if_pos ready] at accepted
  obtain ⟨urb, accepted, parsed⟩ := Option.bind_eq_some_iff.mp accepted
  obtain ⟨urb', write, -⟩ := Option.bind_eq_some_iff.mp accepted
  have works := works_of_write write
  cases bulkOut_atReady ready urb' with
  | refuses halting decided aside =>
    exact (works.submissions.trans aside.submissions).trans released
  | opens wrapper' sense parsed allows decided =>
    obtain ⟨events, decided⟩ := decided
    rw [decided] at works
    exact works.submissions.trans released
  | starts wrapper' sense parsed allowed reads decided =>
    obtain ⟨events, decided⟩ := decided
    have accepted := accepted?_of_complete write (by rw [decided])
    rw [opened?_of_parsed ready accepted parsed] at opened
    obtain rfl := Option.some.inj opened
    rcases reads with towards | nothing
    · rw [writes.1] at towards
      cases towards
    · exact absurd nothing writes.2

end Moment

namespace Device

variable {start d : Device} {moments : List Moment}

theorem Path.fills (path : Path start moments d) (vacant : start.slot = .vacant) :
    d.Fills start.settings (latest moments) := by
  induction path with
  | start =>
    refine ⟨rfl, ?_⟩
    intro t filling
    rw [vacant] at filling
    cases filling
  | told events path ih | released path ih => exact ih.of_same rfl rfl
  | @step moments d step path released follows ih =>
    have before : (Moment.mk d step).before.Fills start.settings (latest moments) := ih
    rw [latest_append]
    exact (Moment.fills_next before released follows).1

end Device

structure SubmitsFaithfully (settings : Settings) (history : List Moment) : Prop where
  faithful : ∀ earlier moment later, history = earlier ++ moment :: later →
    moment.Faithful settings (latest (earlier ++ [moment]))
  returned : ∀ moment ∈ history, ∀ urb, moment.write? = some urb →
    moment.after.done = moment.before.done.append (urb.handedBack moment.accepted?)
  opening : ∀ earlier moment later wrapper, history = earlier ++ moment :: later →
    moment.opened? = some wrapper → wrapper.Writes → moment.submitted = []
  when_whole : ∀ earlier moment later wrapper data, history = earlier ++ moment :: later →
    latest earlier = some (wrapper, data) → moment.opened? = none →
      (moment.submitted ≠ [] ↔
        (data.length < wrapper.transferLength.toNat ∧
            data.length + moment.data.length = wrapper.transferLength.toNat) ∨
          (moment.ReadsEarly ∧ 0 < data.length ∧ data.length < wrapper.transferLength.toNat))
  overrun : ∀ earlier moment later wrapper data urb, history = earlier ++ moment :: later →
    latest earlier = some (wrapper, data) → moment.Overruns wrapper data urb →
      (moment.before.bulkOut urb).2 = .stall urb [.bulkOut] ∧ moment.data = [] ∧
        moment.submitted = [] ∧ moment.after.slot = moment.before.slot

theorem Device.Path.submitsFaithfully {start d : Device} {moments : List Moment}
    (path : Path start moments d) (vacant : start.slot = .vacant) :
    SubmitsFaithfully start.settings moments := by
  constructor
  case faithful =>
    rintro earlier moment later rfl
    obtain ⟨before, released, follows⟩ := path.at_moment
    rw [latest_append]
    exact (Moment.fills_next (before.fills vacant) released follows).2
  case returned => exact fun moment _ urb write => Moment.done_of_write write
  case opening =>
    rintro earlier moment later wrapper rfl opened writes
    obtain ⟨before, released, follows⟩ := path.at_moment
    exact Moment.opening_submits_nothing released opened writes
  case when_whole =>
    rintro earlier moment later wrapper data rfl known unopened
    obtain ⟨before, released, follows⟩ := path.at_moment
    have fills := before.fills vacant
    rw [known] at fills
    constructor
    · exact Moment.whole_or_early fills released follows unopened
    · rintro (⟨less, whole⟩ | ⟨early, begun, -⟩)
      · exact Moment.submits_of_whole fills less whole
      · exact Moment.submits_of_readsEarly fills early begun
  case overrun =>
    rintro earlier moment later wrapper data urb rfl known overruns
    obtain ⟨before, released, follows⟩ := path.at_moment
    have fills := before.fills vacant
    rw [known] at fills
    exact Moment.overrun_refused fills released overruns

namespace System

theorem submissions_faithful (settings : Settings) (location : String) (target : Target)
    {turns : List Turn}
    (fresh : ∀ turn ∈ turns, ∀ saved, turn.operation ≠ .device (.restore saved)) :
    (create settings location target).submitted turns =
        ((create settings location target).moments turns).flatMap Moment.submitted ∧
      SubmitsFaithfully settings ((create settings location target).moments turns) := by
  obtain ⟨follows, submitted⟩ :=
    play_follows (follows_created settings location target) fresh
  exact ⟨submitted, follows.path.submitsFaithfully rfl⟩

def overrunWrite : List Turn :=
  [.send (.bulkOut 1 writeEight.encode), .send (.bulkOut 2 [1, 2]),
    .send (.bulkOut 3 [3, 4, 5, 6, 7, 8, 9]), { operation := .device (.clearHalt 0x02) },
    .send (.bulkOut 4 []), .send (.bulkOut 5 [3, 4, 5, 6, 7, 8])]

theorem submissions_faithful_overrunWrite :
    (∀ turn ∈ overrunWrite, ∀ saved, turn.operation ≠ .device (.restore saved)) ∧
      (create {} "lun0" .holds).submitted overrunWrite =
        ((create {} "lun0" .holds).moments overrunWrite).flatMap Moment.submitted ∧
      SubmitsFaithfully {} ((create {} "lun0" .holds).moments overrunWrite) ∧
      ((create {} "lun0" .holds).submitted overrunWrite).map Command.data =
        [[1, 2, 3, 4, 5, 6, 7, 8]] := by
  have fresh : ∀ turn ∈ overrunWrite, ∀ saved,
      turn.operation ≠ .device (.restore saved) := by simp [overrunWrite, Turn.send]
  obtain ⟨submitted, faithful⟩ := submissions_faithful {} "lun0" .holds fresh
  exact ⟨fresh, submitted, faithful, by decide⟩

end System

end BulkOnly
