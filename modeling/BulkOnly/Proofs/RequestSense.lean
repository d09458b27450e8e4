import BulkOnly.Proofs.ParkedReads
import BulkOnly.Proofs.RetainedSense

set_option autoImplicit false

namespace BulkOnly

def Turn.Sincere (turn : Turn) : Prop :=
  ∀ saved slot, turn.operation = .device (.restore saved) → saved.slot = .ok slot → slot.Sincere

def Target.news (target : Target) (submitted : List Command) : List News :=
  submitted.flatMap fun command => target.take.2.toList.map (.ended command)

namespace System

def news (s : System) (turn : Turn) : List News :=
  match turn.operation, s.condition with
  | .device operation, .working =>
    s.device.operateNews operation ++ turn.target.news (s.turn turn).submitted
  | .complete index completion, .working =>
    s.waiting[index]?.toList.flatMap fun command => s.device.settleNews command completion
  | _, _ => []

def chronicle (s : System) : List Turn → List News
  | [] => []
  | turn :: rest => s.news turn ++ (s.turn turn).system.chronicle rest

theorem chronicle_append (s : System) (earlier later : List Turn) :
    s.chronicle (earlier ++ later) = s.chronicle earlier ++ (s.play earlier).chronicle later := by
  induction earlier generalizing s with
  | nil => rfl
  | cons turn rest ih => simp only [List.cons_append, chronicle, play_cons, ih, List.append_assoc]

def retainedSense (s : System) (turns : List Turn) : Scsi.Sense :=
  (s.chronicle turns).foldl News.retained Scsi.Sense.zero

open Device

variable {s : System} {sense : Scsi.Sense}

theorem submit_keeps (keeps : s.device.Keeps sense) (command : Command)
    (executing : s.device.slot = .executing command.generation) :
    (s.submit command).device.Keeps ((s.target.news [command]).foldl News.retained sense) := by
  have logged (event : Event) : (s.device.log event).Keeps sense := keeps.same rfl rfl
  rw [Target.news, List.flatMap_singleton]
  simp only [submit]
  cases s.target.take.2 with
  | none => exact logged _
  | some completion =>
    have news (event : Event) : (s.device.log event).settleNews command completion =
        [.ended command completion] := if_pos executing
    have settled (event : Event) := settle_keeps (logged event) command completion
    simp only [news] at settled
    exact settled _

-- An operation submits one command at most, and that is the one that executes then.
theorem release_keeps {operation : Device.Operation}
    (keeps : (s.device.operate operation).1.Keeps sense)
    (released : s.device.submissions = []) (target : Target) (answer : Answer) :
    (release { s with target, device := (s.device.operate operation).1 }
      answer).system.device.Keeps
      ((target.news (s.device.operate operation).1.submissions).foldl News.retained sense) := by
  cases operate_handover s.device operation with
  | kept same =>
    have nothing := same.submissions.trans released
    rw [release_nothing nothing, nothing]
    exact keeps.same rfl nothing.symm
  | gaveUp generation slot idle next submissions =>
    have nothing := submissions.trans released
    rw [release_nothing nothing, nothing]
    exact keeps.same rfl nothing.symm
  | issued t idle slot next submissions =>
    rw [released, List.nil_append] at submissions
    have drained : Keeps sense { (s.device.operate operation).1 with submissions := [] } :=
      ⟨keeps.sense, keeps.sincere, List.forall_mem_nil _⟩
    obtain ⟨-, system⟩ := release_single
      (s := { s with target, device := (s.device.operate operation).1 }) submissions answer
    have submitted := submit_keeps
      (s := { s with
        target, device := { (s.device.operate operation).1 with submissions := [] } })
      drained ⟨s.device.nextGeneration, t⟩ slot
    rw [system, submissions]
    exact submitted.same rfl rfl

theorem turn_keeps (keeps : s.device.Keeps sense) (released : s.device.submissions = [])
    {turn : Turn} (sincere : turn.Sincere) (before : s.condition = .working)
    (after : (s.turn turn).system.condition = .working) :
    (s.turn turn).system.device.Keeps ((s.news turn).foldl News.retained sense) ∧
      ∀ command ∈ (s.turn turn).submitted, command.transaction.asksForSense = false := by
  rcases turn_cases before after with ⟨operation, same, -, report⟩ |
    ⟨index, completion, command, same, found, report⟩ | ⟨index, completion, same, found, report⟩
  · have operated : Keeps _ (s.device.operate operation).1 :=
      operate_keeps keeps fun saved slot restores =>
        sincere saved slot (same.trans (congrArg Operation.device restores))
    have released := release_keeps (s := s) operated released turn.target
      (s.device.operate operation).2
    simp only [System.news, same, before]
    rw [report, List.foldl_append]
    exact ⟨released, operated.submissions⟩
  · have settled := settle_keeps keeps command completion
    have nothing := (settle_submissions s.device command completion).trans released
    simp only [System.news, same, before, found]
    rw [report, release_nothing nothing]
    refine ⟨?_, List.forall_mem_nil _⟩
    rw [Option.toList_some, List.flatMap_singleton]
    exact settled.same rfl nothing.symm
  · simp only [System.news, same, before, found]
    rw [report]
    exact ⟨keeps, List.forall_mem_nil _⟩

theorem play_keeps {settings : Settings} {location : String} {target : Target} {turns : List Turn}
    (working : ((create settings location target).play turns).condition = .working)
    (sincere : ∀ turn ∈ turns, turn.Sincere) :
    ((create settings location target).play turns).device.Keeps
        ((create settings location target).retainedSense turns) ∧
      ∀ command ∈ (create settings location target).submitted turns,
        command.transaction.asksForSense = false := by
  refine play_induction (fun turns s => (∀ turn ∈ turns, turn.Sincere) →
    s.device.Keeps ((create settings location target).retainedSense turns) ∧
      ∀ command ∈ (create settings location target).submitted turns,
        command.transaction.asksForSense = false) ?_ ?_ turns working sincere
  · exact fun _ => ⟨⟨fun kept same => (Option.some.inj same).symm, Slot.sincere_vacant,
      List.forall_mem_nil _⟩, List.forall_mem_nil _⟩
  · intro turns turn ih before after sincere
    obtain ⟨keeps, earlier⟩ := ih fun turn member => sincere turn (List.mem_append_left _ member)
    have released := (play_ledger settings location target turns before).released
    have last : turn.Sincere := sincere turn (List.mem_append_right _ (List.mem_singleton.mpr rfl))
    obtain ⟨kept, new⟩ := turn_keeps keeps released last before after
    have chronicle : ((create settings location target).play turns).chronicle [turn] =
        ((create settings location target).play turns).news turn := List.append_nil _
    refine ⟨?_, ?_⟩
    · rw [retainedSense, chronicle_append, List.foldl_append, chronicle]
      exact kept
    · intro command member
      rw [submitted_append, submitted_cons] at member
      rcases List.mem_append.mp member with old | now
      · exact earlier command old
      · rw [submitted, reports, List.flatMap_nil, List.append_nil] at now
        exact new command now

end System

-- By induction on how the state came to be saved, as its run restored only states of this kind.
theorem SavedState.Genuine.sincere {state : SavedState} (genuine : state.Genuine) {slot : Slot}
    (accepted : state.slot = .ok slot) : slot.Sincere := by
  induction genuine generalizing slot with
  | saved settings location target turns state restored working answer ih =>
    rcases Device.slot_of_save answer accepted with rfl | rfl
    · exact Slot.sincere_vacant
    · have sincere (turn : Turn) (member : turn ∈ turns) : turn.Sincere :=
        fun saved slot restores accepted => ih turn member saved restores accepted
      exact (System.play_keeps working sincere).1.sincere

theorem Turn.Genuine.sincere {turn : Turn} (genuine : turn.Genuine) : turn.Sincere :=
  fun saved _ restores accepted => (genuine saved restores).sincere accepted

namespace CommandWrapper

def senseReply (wrapper : CommandWrapper) (sense : Scsi.Sense) : Bytes :=
  (if sense = Scsi.Sense.zero then Scsi.Sense.noSense else sense).toList.take
    (min wrapper.transferLength.toNat (wrapper.block.toList.getD 4 0).toNat)

def senseAnswered (wrapper : CommandWrapper) (sense : Scsi.Sense) : Transaction where
  wrapper
  buffer := wrapper.senseReply sense ++
    List.replicate (wrapper.transferLength.toNat - (wrapper.senseReply sense).length) 0
  direction := .toHost
  length := (wrapper.senseReply sense).length
  transferred := (wrapper.senseReply sense).length

end CommandWrapper

theorem Transaction.answeredSense_opened (t : Transaction) (wrapper : CommandWrapper) :
    (t.opened wrapper).answeredSense = wrapper.senseAnswered t.sense := by
  have allocated : wrapper.block.toList.getD 4 0 = wrapper.block[4] := by simp
  have reply : (t.opened wrapper).senseAnswer = wrapper.senseReply t.sense := by
    rw [CommandWrapper.senseReply, allocated]
    rfl
  have buffer : Bytes.overwrite (t.opened wrapper).buffer 0 (wrapper.senseReply t.sense) =
      (wrapper.senseAnswered t.sense).buffer := by
    simp [opened, Bytes.overwrite, CommandWrapper.senseAnswered]
  rw [answeredSense, reply, buffer]
  rfl

namespace CommandWrapper

variable (wrapper : CommandWrapper) (sense : Scsi.Sense)

theorem phaseAfter_senseAnswered :
    (wrapper.senseAnswered sense).phaseAfter =
      if wrapper.transferLength = 0 then .status else .dataToHost := by
  have declared : (wrapper.senseAnswered sense).declared = wrapper.transferLength.toNat := rfl
  rw [Transaction.phaseAfter, declared]
  by_cases nothing : wrapper.transferLength = 0
  · simp [nothing, senseAnswered]
  · have some_length : 0 < wrapper.transferLength.toNat :=
      Nat.pos_of_ne_zero fun zero => nothing (UInt32.toNat.inj zero)
    rw [if_pos ⟨rfl, some_length⟩, if_neg nothing]

theorem remaining_senseAnswered (sent : Nat) :
    ((wrapper.senseAnswered sense).advanced sent).remaining =
      (wrapper.senseReply sense).length - sent := by
  simp [Transaction.remaining, Transaction.advanced, senseAnswered]

theorem chunk_senseAnswered (sent room : Nat) :
    ((wrapper.senseAnswered sense).advanced sent).chunk room =
      ((wrapper.senseReply sense).drop sent).take room := by
  have offset : ((wrapper.senseAnswered sense).advanced sent).offset = sent := Nat.zero_add sent
  have left : min ((wrapper.senseReply sense).length - sent) room ≤
      ((wrapper.senseReply sense).drop sent).length := by
    rw [List.length_drop]
    exact Nat.min_le_left _ _
  rw [Transaction.chunk, remaining_senseAnswered, offset]
  change ((_ ++ _ : Bytes).drop sent).take _ = _
  rw [List.drop_append, List.take_append_of_le_length left, Nat.min_comm, ← List.length_drop,
    ← List.take_take, List.take_length]

theorem statusWrapper_senseAnswered (sent : Nat) :
    ((wrapper.senseAnswered sense).advanced sent).statusWrapper =
      { tag := wrapper.tag
        residue := UInt32.ofNat (wrapper.transferLength.toNat - sent)
        status := .passed } := by
  have residue : ((wrapper.senseAnswered sense).advanced sent).residue =
      wrapper.transferLength.toNat - sent := by
    change wrapper.transferLength.toNat - (0 + sent) = _
    rw [Nat.zero_add]
  rw [Transaction.statusWrapper, residue]
  rfl

end CommandWrapper

namespace Device

variable {d : Device} {sense : Scsi.Sense}

theorem receiveCommand_asks {t : Transaction} {urb : Urb} {wrapper : CommandWrapper}
    (parsed : CommandWrapper.parse urb.payload = .ok wrapper) (asks : wrapper.asksForSense = true)
    (completed : (d.receiveCommand t urb).2 = .complete urb) :
    (d.receiveCommand t urb).1 =
      { d with
        slot := .held (if wrapper.transferLength = 0 then .status else .dataToHost)
          (wrapper.senseAnswered t.sense)
        events := d.events ++ [.commandAccepted wrapper, .senseAnswered wrapper.tag] } := by
  have opened : (t.opened wrapper).asksForSense = true := asks
  have reads : ¬ (wrapper.direction = .toDevice ∧ wrapper.transferLength ≠ 0) := by
    intro writes
    rw [Transaction.asksForSense_opened writes] at opened
    cases opened
  unfold receiveCommand at completed ⊢
  rw [parsed] at completed ⊢
  dsimp only at completed ⊢
  split at completed
  · cases completed
  split at completed
  · cases completed
  next long memory =>
  rw [if_neg long, if_neg memory, if_neg reads, startCommand, if_pos opened,
    Transaction.answeredSense_opened, CommandWrapper.phaseAfter_senseAnswered]
  have tag : (t.opened wrapper).wrapper.tag = wrapper.tag := rfl
  simp [log, tag]

theorem bulkOut_asks (keeps : d.Keeps sense) (ready : d.slot.stage = .ready) {urb : Urb}
    {wrapper : CommandWrapper} (parsed : CommandWrapper.parse urb.payload = .ok wrapper)
    (asks : wrapper.asksForSense = true) (completed : (d.bulkOut urb).2 = .complete urb) :
    (d.bulkOut urb).1 =
      { d with
        slot := .held (if wrapper.transferLength = 0 then .status else .dataToHost)
          (wrapper.senseAnswered sense)
        events := d.events ++ [.commandAccepted wrapper, .senseAnswered wrapper.tag] } := by
  unfold bulkOut at completed ⊢
  split at completed
  · cases completed
  split at completed
  · cases completed
  next direction running =>
  rw [if_neg direction, if_neg running]
  cases held : d.slot with
  | vacant =>
    have zero : Scsi.Sense.zero = sense := keeps.sense _ (by rw [held]; rfl)
    rw [held] at completed
    rw [← zero]
    exact receiveCommand_asks (t := {}) parsed asks completed
  | executing generation =>
    rw [held] at ready
    cases ready
  | held phase t =>
    rw [held] at ready completed
    cases phase with
    | ready =>
      rw [← keeps.sense_eq held]
      exact receiveCommand_asks parsed asks completed
    | dataFromHost | dataToHost | status => cases ready

theorem dispatch_asks (keeps : d.Keeps sense) (ready : d.slot.stage = .ready) {urb : Urb}
    {wrapper : CommandWrapper} (parsed : CommandWrapper.parse urb.payload = .ok wrapper)
    (asks : wrapper.asksForSense = true)
    (completed : (d.dispatch Pipe.bulkOut.address urb).2 = .completed) :
    (d.dispatch Pipe.bulkOut.address urb).1 =
      { d with
        slot := .held (if wrapper.transferLength = 0 then .status else .dataToHost)
          (wrapper.senseAnswered sense)
        done := d.done.append (urb.finished .ok)
        events := d.events ++ [.commandAccepted wrapper, .senseAnswered wrapper.tag] } := by
  have dispatched : d.dispatch Pipe.bulkOut.address urb =
      (d.bulkOut urb).1.apply (d.bulkOut urb).2 := rfl
  rcases bulkOut_decides d urb with ⟨halting, stalled⟩ | accepted
  · rw [dispatched, stalled] at completed
    cases completed
  · rw [dispatched, accepted, bulkOut_asks keeps ready parsed asks accepted]
    rfl

def TellsStatus (d : Device) (wrapper : CommandWrapper) (sent : Nat) : Prop :=
  ∀ read : Urb, read.direction = .toHost → StatusWrapper.encodedLength ≤ read.requested →
    (read.shortNotOk = true → read.requested = StatusWrapper.encodedLength) →
    (d.dispatch Pipe.bulkIn.address read).2 = .completed ∧
      (d.dispatch Pipe.bulkIn.address read).1.done = d.done.append ((read.filled
        (StatusWrapper.encode ⟨wrapper.tag,
          UInt32.ofNat (wrapper.transferLength.toNat - sent), .passed⟩)).finished .ok) ∧
      (d.dispatch Pipe.bulkIn.address read).1.slot.retained? = some Scsi.Sense.zero

-- What the next read gets of an answer of which the host has had `sent` bytes.
structure TellsRest (d : Device) (wrapper : CommandWrapper) (sense : Scsi.Sense) (sent : Nat) :
    Prop where
  filled (read : Urb) : read.direction = .toHost →
    (read.shortNotOk = true → sent + read.requested ≤ (wrapper.senseReply sense).length) →
    let piece := ((wrapper.senseReply sense).drop sent).take read.requested
    (d.dispatch Pipe.bulkIn.address read).2 = .completed ∧
      (d.dispatch Pipe.bulkIn.address read).1.done =
        d.done.append ((read.filled piece).finished .ok) ∧
      (piece.length < read.requested ∨ wrapper.transferLength.toNat ≤ sent + piece.length →
        (d.dispatch Pipe.bulkIn.address read).1.TellsStatus wrapper (sent + piece.length))
  refused (read : Urb) : read.direction = .toHost → read.shortNotOk = true →
    (wrapper.senseReply sense).length < sent + read.requested →
    (d.dispatch Pipe.bulkIn.address read).2 = .stalled ∧
      (d.dispatch Pipe.bulkIn.address read).1.done = d.done.append (read.finished .stall) ∧
      ((d.dispatch Pipe.bulkIn.address read).1.clearHalt Pipe.bulkIn.address).TellsStatus wrapper
        sent

variable {wrapper : CommandWrapper} {sent : Nat} {read : Urb}

theorem tellsStatus_of_slot (sense : Scsi.Sense)
    (slot : d.slot = .held .status ((wrapper.senseAnswered sense).advanced sent))
    (running : d.halts.bulkIn = false) : d.TellsStatus wrapper sent := by
  intro read direction enough strict
  have fits : ¬ (read.requested < StatusWrapper.encodedLength ∨
      (StatusWrapper.encodedLength < read.requested ∧ read.shortNotOk)) := by
    rintro (short | ⟨long, whole⟩)
    · omega
    · have exact := strict whole
      omega
  have sends : d.bulkIn read = d.sendStatus ((wrapper.senseAnswered sense).advanced sent) read := by
    simp [bulkIn, direction, running, slot]
  rw [dispatch_read, sends, sendStatus, if_neg fits, CommandWrapper.statusWrapper_senseAnswered]
  exact ⟨rfl, rfl, rfl⟩

theorem bulkIn_filled
    (slot : d.slot = .held .dataToHost ((wrapper.senseAnswered sense).advanced sent))
    (running : d.halts.bulkIn = false) (direction : read.direction = .toHost)
    (within : sent ≤ (wrapper.senseReply sense).length)
    (enough : read.shortNotOk = true →
      sent + read.requested ≤ (wrapper.senseReply sense).length) :
    let piece := ((wrapper.senseReply sense).drop sent).take read.requested
    d.bulkIn read =
      ({ d with
        slot := .held
          (if piece.length < read.requested ∨
              wrapper.transferLength.toNat ≤ sent + piece.length then .status else .dataToHost)
          ((wrapper.senseAnswered sense).advanced (sent + piece.length)) },
        .complete (read.filled piece)) := by
  intro piece
  have sends : d.bulkIn read = d.sendData ((wrapper.senseAnswered sense).advanced sent) read := by
    simp [bulkIn, direction, running, slot]
  have fits : ¬ ((wrapper.senseReply sense).length - sent < read.requested ∧ read.shortNotOk) := by
    rintro ⟨short, strict⟩
    have bound := enough strict
    omega
  rw [sends, sendData, CommandWrapper.remaining_senseAnswered, if_neg fits,
    CommandWrapper.chunk_senseAnswered]
  simp only [Transaction.advanced, Transaction.declared, CommandWrapper.senseAnswered,
    Nat.zero_add, piece]

theorem tellsRest_of_slot
    (slot : d.slot = .held .dataToHost ((wrapper.senseAnswered sense).advanced sent))
    (running : d.halts.bulkIn = false) (within : sent ≤ (wrapper.senseReply sense).length) :
    d.TellsRest wrapper sense sent := by
  constructor
  case filled =>
    intro read direction enough piece
    rw [dispatch_read, bulkIn_filled slot running direction within enough]
    refine ⟨rfl, rfl, fun ends => tellsStatus_of_slot sense ?_ running⟩
    change Slot.held (if _ then _ else _) _ = _
    rw [if_pos ends]
  case refused =>
    intro read direction strict short
    have sends : d.bulkIn read =
        d.sendData ((wrapper.senseAnswered sense).advanced sent) read := by
      simp [bulkIn, direction, running, slot]
    have under : (wrapper.senseReply sense).length - sent < read.requested ∧ read.shortNotOk :=
      ⟨by omega, strict⟩
    rw [dispatch_read, sends, sendData, CommandWrapper.remaining_senseAnswered, if_pos under]
    exact ⟨rfl, rfl, tellsStatus_of_slot sense rfl rfl⟩

def asked (reads : List Urb) : Nat := (reads.map Urb.requested).sum

theorem foldl_resume_filled {reads : List Urb} (towards : ∀ read ∈ reads, read.direction = .toHost)
    (slot : d.slot = .held .dataToHost ((wrapper.senseAnswered sense).advanced sent))
    (running : d.halts.bulkIn = false)
    (within : sent + asked reads ≤ (wrapper.senseReply sense).length)
    (more : sent + asked reads < wrapper.transferLength.toNat) :
    (reads.foldl resume d).slot =
        .held .dataToHost ((wrapper.senseAnswered sense).advanced (sent + asked reads)) ∧
      (reads.foldl resume d).halts.bulkIn = false := by
  -- Each read is filled and leaves more to come, so that the next one finds the data phase open.
  induction reads generalizing d sent with
  | nil => exact ⟨slot, running⟩
  | cons read rest ih =>
    obtain ⟨direction, others⟩ := List.forall_mem_cons.mp towards
    have split : asked (read :: rest) = read.requested + asked rest := rfl
    rw [split, ← Nat.add_assoc] at within more ⊢
    have whole : (((wrapper.senseReply sense).drop sent).take read.requested).length =
        read.requested := by
      rw [List.length_take, List.length_drop]
      omega
    have filled := bulkIn_filled slot running direction (by omega) fun _ => by omega
    have resumed : d.resume read = ((d.bulkIn read).1.apply (d.bulkIn read).2).1 := rfl
    rw [filled, whole, if_neg (by omega)] at resumed
    refine ih others ?_ ?_ within more
    · rw [resumed]
      rfl
    · rw [resumed]
      exact running

end Device

namespace System

open Device

structure AnswersSense (s : System) (sense : Scsi.Sense) (urb : Urb) (wrapper : CommandWrapper)
    (target : Target) (report : Report) : Prop where
  answered : report =
    { system := { s with
        target
        device := { s.device with
          slot := .held (if wrapper.transferLength = 0 then .status else .dataToHost)
            (wrapper.senseAnswered sense)
          done := s.device.done.append (urb.finished .ok) } }
      answer := .dispatched .completed
      submitted := []
      events := [.commandAccepted wrapper, .senseAnswered wrapper.tag] }
  rest : report.system.device.halts.bulkIn = false → ∀ earlier : List Urb,
    (∀ read ∈ earlier, read.direction = .toHost) →
      asked earlier ≤ (wrapper.senseReply sense).length →
      asked earlier < wrapper.transferLength.toNat →
      (report.system.play (earlier.map (.read target))).device.TellsRest wrapper sense
        (asked earlier)
  status : report.system.device.halts.bulkIn = false → wrapper.transferLength = 0 →
    report.system.device.TellsStatus wrapper 0

variable {s : System} {sense : Scsi.Sense}

theorem turn_asks (reached : s.Reached) (keeps : s.device.Keeps sense)
    (ready : s.device.slot.stage = .ready) {urb : Urb} {wrapper : CommandWrapper}
    (parsed : CommandWrapper.parse urb.payload = .ok wrapper) (asks : wrapper.asksForSense = true)
    (target : Target)
    (accepted : (s.turn ⟨.device (.dispatch Pipe.bulkOut.address urb), target⟩).answer =
      .dispatched .completed) :
    s.turn ⟨.device (.dispatch Pipe.bulkOut.address urb), target⟩ =
      { system := { s with
          target
          device := { s.device with
            slot := .held (if wrapper.transferLength = 0 then .status else .dataToHost)
              (wrapper.senseAnswered sense)
            done := s.device.done.append (urb.finished .ok) } }
        answer := .dispatched .completed
        submitted := []
        events := [.commandAccepted wrapper, .senseAnswered wrapper.tag] } := by
  have released := reached.released
  have told := reached.told
  have working := reached.working
  have completed := dispatch_of_answer working accepted
  have device := dispatch_asks keeps ready parsed asks completed
  have nothing : (s.device.dispatch Pipe.bulkOut.address urb).1.submissions = [] := by
    rw [device]
    exact released
  rw [turn_dispatch working (by rw [completed]; decide) nothing, completed, device]
  simp [told, released]

theorem play_tellsRest {target : Target} {wrapper : CommandWrapper}
    (working : s.condition = .working) (released : s.device.submissions = [])
    (told : s.device.events = []) (same : s.target = target)
    (slot : s.device.slot = .held .dataToHost (wrapper.senseAnswered sense))
    (running : s.device.halts.bulkIn = false) {reads : List Urb}
    (towards : ∀ read ∈ reads, read.direction = .toHost)
    (within : asked reads ≤ (wrapper.senseReply sense).length)
    (more : asked reads < wrapper.transferLength.toNat) :
    (s.play (reads.map (.read target))).device.TellsRest wrapper sense (asked reads) := by
  have calm : s.device.slot.Calm := ⟨_, _, slot, by decide⟩
  obtain ⟨played, -, -⟩ := play_reads_resumed working calm released told same reads
  rw [← Nat.zero_add (asked reads)] at within more ⊢
  have begins : s.device.slot = .held .dataToHost ((wrapper.senseAnswered sense).advanced 0) := slot
  obtain ⟨still, open_pipe⟩ := foldl_resume_filled towards begins running within more
  rw [played]
  exact tellsRest_of_slot still open_pipe within

theorem turn_answersSense (reached : s.Reached) (keeps : s.device.Keeps sense)
    (ready : s.device.slot.stage = .ready) {urb : Urb} {wrapper : CommandWrapper}
    (parsed : CommandWrapper.parse urb.payload = .ok wrapper) (asks : wrapper.asksForSense = true)
    (target : Target)
    (accepted : (s.turn ⟨.device (.dispatch Pipe.bulkOut.address urb), target⟩).answer =
      .dispatched .completed) :
    s.AnswersSense sense urb wrapper target
      (s.turn ⟨.device (.dispatch Pipe.bulkOut.address urb), target⟩) := by
  have answered := turn_asks reached keeps ready parsed asks target accepted
  constructor
  case answered => exact answered
  case rest =>
    intro running earlier towards within more
    have some_length : wrapper.transferLength ≠ 0 := by
      intro nothing
      rw [nothing] at more
      exact Nat.not_lt_zero _ more
    rw [answered] at running ⊢
    refine play_tellsRest ?working ?released ?told rfl ?slot running towards within more
    case working => exact reached.working
    case released => exact reached.released
    case told => exact reached.told
    case slot =>
      change Slot.held (if _ then _ else _) _ = _
      rw [if_neg some_length]
  case status =>
    intro running nothing
    rw [answered] at running ⊢
    refine tellsStatus_of_slot sense ?_ running
    change Slot.held (if _ then _ else _) _ = _
    rw [if_pos nothing]
    rfl

theorem request_sense_answered (settings : Settings) (location : String) (target : Target)
    (turns : List Turn) (genuine : ∀ turn ∈ turns, turn.Genuine)
    (working : ((create settings location target).play turns).condition = .working)
    (ready : ((create settings location target).play turns).device.slot.stage = .ready)
    {urb : Urb} {wrapper : CommandWrapper}
    (parsed : CommandWrapper.parse urb.payload = .ok wrapper)
    (opcode : wrapper.opcode = Transaction.requestSense)
    (reads : wrapper.direction = .toHost ∨ wrapper.transferLength = 0) (target' : Target)
    (accepted : (((create settings location target).play turns).turn
      ⟨.device (.dispatch Pipe.bulkOut.address urb), target'⟩).answer = .dispatched .completed) :
    ((create settings location target).play turns).AnswersSense
        ((create settings location target).retainedSense turns) urb wrapper target'
        (((create settings location target).play turns).turn
          ⟨.device (.dispatch Pipe.bulkOut.address urb), target'⟩) ∧
      ∀ command ∈ (create settings location target).submitted turns,
        ¬ (command.opcode = Transaction.requestSense ∧
          (command.transaction.wrapper.direction = .toHost ∨
            command.transaction.wrapper.transferLength = 0)) := by
  obtain ⟨keeps, submitted⟩ := play_keeps working fun turn member => (genuine turn member).sincere
  have reached : ((create settings location target).play turns).Reached :=
    ⟨settings, location, target, turns, rfl, working⟩
  have asks : wrapper.asksForSense = true := by simp [CommandWrapper.asksForSense, opcode, reads]
  refine ⟨turn_answersSense reached keeps ready parsed asks target' accepted, ?_⟩
  rintro command member ⟨opcode, reads⟩
  have never := submitted command member
  have claimed : command.transaction.asksForSense = true := by
    have same : command.transaction.wrapper.opcode = Transaction.requestSense := opcode
    simp [Transaction.asksForSense, same, reads]
  rw [never] at claimed
  cases claimed

def failedRead : List Turn :=
  [{ operation := .device (.restore {}) }, sendReadSix 1,
    { operation := .complete 0
        { sense := [0x70, 0, 0x05], ending := .ended Scsi.Status.checkCondition (some 0) false } },
    readBulk 2 4, readBulk 3 13]

def askForSense : CommandWrapper :=
  { tag := 8, transferLength := 18, flags := 0x80, blockLength := 6
    block := Bytes.padded 16 [Transaction.requestSense, 0, 0, 0, 18] }

theorem request_sense_answered_failedRead :
    (∀ turn ∈ failedRead, turn.Genuine) ∧
      ((create {} "lun0" .holds).retainedSense failedRead).toList.take 3 = [0x70, 0, 0x05] ∧
      ((create {} "lun0" .holds).play failedRead).AnswersSense
        ((create {} "lun0" .holds).retainedSense failedRead) (.bulkOut 4 askForSense.encode)
        askForSense .holds
        (((create {} "lun0" .holds).play failedRead).turn
          ⟨.device (.dispatch 0x02 (.bulkOut 4 askForSense.encode)), .holds⟩) ∧
      ((((create {} "lun0" .holds).play failedRead).turn
          ⟨.device (.dispatch 0x02 (.bulkOut 4 askForSense.encode)), .holds⟩).system.play
        [.read .holds (.bulkIn 5 8)]).device.TellsRest askForSense
          ((create {} "lun0" .holds).retainedSense failedRead) 8 := by
  have genuine : ∀ turn ∈ failedRead, turn.Genuine := by
    simpa [failedRead, Turn.Genuine, sendReadSix, readBulk] using SavedState.genuine_fresh
  have parsed : CommandWrapper.parse (Urb.bulkOut 4 askForSense.encode).payload =
      .ok askForSense := by decide
  have answered := request_sense_answered {} "lun0" .holds failedRead genuine (by decide)
    (by decide) parsed (by decide) (by decide) .holds (by decide)
  refine ⟨genuine, by decide, answered.1, ?_⟩
  exact answered.1.rest (by decide) [.bulkIn 5 8] (by decide) (by decide) (by decide)

end System

end BulkOnly
