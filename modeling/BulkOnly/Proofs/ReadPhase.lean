import BulkOnly.Proofs.Agreement
import BulkOnly.Proofs.Submissions

set_option autoImplicit false

namespace BulkOnly

namespace Transaction

def supply (t : Transaction) : Bytes := t.buffer.take t.transferred

theorem remaining_eq (t : Transaction) : t.remaining = t.supply.length - t.offset := by
  simp only [remaining, supply, List.length_take]

theorem chunk_eq (t : Transaction) (room : Nat) :
    t.chunk room = (t.supply.drop t.offset).take room := by
  simp only [chunk, remaining, supply, List.drop_take, List.take_take]
  rw [List.take_eq_take_iff, List.length_drop]
  omega

end Transaction

namespace Device

variable {d : Device} {t : Transaction} {sent : Bytes} {urb : Urb}

structure Sending (d : Device) (t : Transaction) (sent : Bytes) : Prop where
  slot : d.slot = .held .dataToHost { t with offset := sent.length }
  front : sent <+: t.supply

theorem Sending.stage (sending : d.Sending t sent) : d.slot.stage = .dataToHost := by
  rw [sending.slot]
  rfl

inductive SendsOn (d : Device) (t : Transaction) (sent : Bytes) (urb : Urb) : Prop where
  | refuses (why : urb.direction ≠ .toHost ∨ d.halts.bulkIn = true) (halting : List Pipe)
    (decided : (d.bulkIn urb).2 = .stall urb halting) (slot : (d.bulkIn urb).1.slot = d.slot)
  | underruns (direction : urb.direction = .toHost) (running : d.halts.bulkIn = false)
    (whole : urb.shortNotOk = true) (short : t.supply.length < sent.length + urb.requested)
    (decided : (d.bulkIn urb).2 = .stall urb [.bulkIn])
    (slot : (d.bulkIn urb).1.slot = .held .status { t with offset := sent.length })
  | moves (bytes : Bytes) (direction : urb.direction = .toHost)
    (running : d.halts.bulkIn = false)
    (enough : urb.shortNotOk = true → sent.length + urb.requested ≤ t.supply.length)
    (chunk : bytes = (t.supply.drop sent.length).take urb.requested)
    (decided : (d.bulkIn urb).2 = .complete (urb.filled bytes))
    (slot : (d.bulkIn urb).1.slot =
      .held
        (if bytes.length < urb.requested ∨ t.declared ≤ (sent ++ bytes).length then .status
        else .dataToHost)
        { t with offset := (sent ++ bytes).length })

theorem bulkIn_sending (sending : d.Sending t sent) (urb : Urb) : d.SendsOn t sent urb := by
  by_cases why : urb.direction ≠ .toHost ∨ d.halts.bulkIn = true
  · obtain ⟨halting, decided, works⟩ := d.bulkIn_refused why
    exact .refuses why halting decided works.slot
  have direction : urb.direction = .toHost := not_not.mp fun other => why (.inl other)
  have running : d.halts.bulkIn = false := eq_false_of_ne_true fun halted => why (.inr halted)
  let now : Transaction := { t with offset := sent.length }
  have sends : d.bulkIn urb = d.sendData now urb := by
    simp [bulkIn, direction, running, sending.slot, now]
  have remaining : now.remaining = t.supply.length - sent.length := now.remaining_eq
  have chunk : now.chunk urb.requested = (t.supply.drop sent.length).take urb.requested :=
    now.chunk_eq urb.requested
  have bound := sending.front.length_le
  rw [sendData, remaining, chunk] at sends
  by_cases underrun : t.supply.length - sent.length < urb.requested ∧ urb.shortNotOk = true
  · rw [if_pos underrun] at sends
    refine .underruns direction running underrun.2 ?_ (by rw [sends]) (by rw [sends]; rfl)
    omega
  · rw [if_neg underrun] at sends
    refine .moves _ direction running ?_ rfl (by rw [sends]) ?_
    · intro whole
      have enough : ¬ t.supply.length - sent.length < urb.requested :=
        fun short => underrun ⟨short, whole⟩
      omega
    · rw [sends, List.length_append]
      rfl

end Device

namespace Moment

open Device

def returned? (moment : Moment) : Option Urb :=
  moment.read?.bind fun urb =>
    match (moment.before.bulkIn urb).2 with
    | .complete moved => some moved
    | _ => none

def delivered (moment : Moment) : Bytes := (moment.returned?.map Urb.payload).getD []

def readsOf (moments : List Moment) : List Urb := moments.flatMap fun moment => moment.read?.toList

-- A read that shows the host the end of the data: `supply` is all there is, `sent` went before.
inductive EndsPhase (moment : Moment) (supply sent : Bytes) (declared : Nat) : Prop where
  | short (urb moved : Urb) (read : moment.read? = some urb)
    (returned : moment.returned? = some moved) (fewer : moved.payload.length < urb.requested)
  | full (moved : Urb) (returned : moment.returned? = some moved)
    (all : (sent ++ moved.payload).length = declared)
  | underrun (urb : Urb) (read : moment.read? = some urb) (direction : urb.direction = .toHost)
    (running : moment.before.halts.bulkIn = false) (whole : urb.shortNotOk = true)
    (short : supply.length < sent.length + urb.requested)

def Gentle (moment : Moment) : Prop :=
  ∀ urb, moment.read? = some urb → urb.direction = .toHost ∧
    moment.before.halts.bulkIn = false ∧ urb.shortNotOk = false ∧ urb.requested ≠ 0

variable {moment : Moment} {earlier : List Moment} {t : Transaction} {sent : Bytes}

structure Sends (moment : Moment) (t : Transaction) (sent : Bytes) : Prop where
  ends : moment.after.slot.stage = .status ↔ moment.EndsPhase t.supply sent t.declared
  front : sent ++ moment.delivered <+: t.supply
  onward : moment.after.slot.stage = .dataToHost →
    moment.after.Sending t (sent ++ moment.delivered)

theorem returned?_of_stall {urb : Urb} {halting : List Pipe} (read : moment.read? = some urb)
    (decided : (moment.before.bulkIn urb).2 = .stall urb halting) : moment.returned? = none := by
  rw [returned?, read, Option.bind_some, decided]

theorem returned?_of_complete {urb moved : Urb} (read : moment.read? = some urb)
    (decided : (moment.before.bulkIn urb).2 = .complete moved) :
    moment.returned? = some moved := by
  rw [returned?, read, Option.bind_some, decided]

theorem done_of_read {urb : Urb} (sending : moment.before.Sending t sent)
    (read : moment.read? = some urb) :
    moment.after.done = moment.before.done.append (urb.handedBack moment.returned?) := by
  have same := (bulkIn_frame moment.before urb).done
  rw [after_of_read read]
  cases bulkIn_sending sending urb with
  | refuses _ halting decided | underruns _ _ _ _ decided =>
    rw [returned?_of_stall read decided, decided]
    exact congrArg (·.append (urb.finished .stall)) same
  | moves bytes _ _ _ _ decided =>
    rw [returned?_of_complete read decided, decided]
    exact congrArg (·.append ((urb.filled bytes).finished .ok)) same

theorem delivered_of_unreturned (unreturned : moment.returned? = none) :
    moment.delivered = [] := by
  rw [delivered, unreturned]
  rfl

theorem sends_nothing (sending : moment.before.Sending t sent)
    (unreturned : moment.returned? = none)
    (slot : moment.after.slot = moment.before.slot ∨ moment.after.slot.stage = .ready)
    (goes_on : ¬ moment.EndsPhase t.supply sent t.declared) : moment.Sends t sent := by
  have still : moment.after.slot.stage ≠ .status := by
    rcases slot with same | ready
    · rw [same, sending.stage]
      nofun
    · rw [ready]
      nofun
  constructor
  case ends => exact ⟨fun status => absurd status still, fun ends => absurd ends goes_on⟩
  case front =>
    rw [delivered_of_unreturned unreturned, List.append_nil]
    exact sending.front
  case onward =>
    intro stage
    rw [delivered_of_unreturned unreturned, List.append_nil]
    rcases slot with same | ready
    · exact ⟨same.trans sending.slot, sending.front⟩
    · rw [ready] at stage
      cases stage

theorem sends_aside (sending : moment.before.Sending t sent) (read : moment.read? = none)
    (aside : Aside moment.before moment.after) : moment.Sends t sent := by
  have unreturned : moment.returned? = none := by rw [returned?, read, Option.bind_none]
  refine sends_nothing sending unreturned aside.slot ?_
  intro ends
  cases ends with
  | short urb moved read' | underrun urb read' =>
    rw [read] at read'
    cases read'
  | full moved returned =>
    rw [unreturned] at returned
    cases returned

theorem sends_moved {urb : Urb} {bytes : Bytes} (sending : moment.before.Sending t sent)
    (bounded : t.supply.length ≤ t.declared) (read : moment.read? = some urb)
    (decided : (moment.before.bulkIn urb).2 = .complete (urb.filled bytes))
    (enough : urb.shortNotOk = true → sent.length + urb.requested ≤ t.supply.length)
    (chunk : bytes = (t.supply.drop sent.length).take urb.requested)
    (slot : moment.after.slot =
      .held
        (if bytes.length < urb.requested ∨ t.declared ≤ (sent ++ bytes).length then .status
        else .dataToHost)
        { t with offset := (sent ++ bytes).length }) : moment.Sends t sent := by
  have returned := returned?_of_complete read decided
  have payload : (urb.filled bytes).payload = bytes := urb.payload_filled bytes
  have delivers : moment.delivered = bytes := by
    rw [delivered, returned]
    exact payload
  have front : sent ++ bytes <+: t.supply := by
    obtain ⟨rest, whole⟩ := sending.front
    rw [chunk, ← whole, List.drop_left, List.prefix_append_right_inj]
    exact List.take_prefix _ _
  have total := front.length_le
  constructor
  case ends =>
    by_cases done : bytes.length < urb.requested ∨ t.declared ≤ (sent ++ bytes).length
    · rw [if_pos done] at slot
      rw [slot]
      refine ⟨fun _ => ?_, fun _ => rfl⟩
      rcases done with fewer | all
      · exact .short urb _ read returned (by rw [payload]; exact fewer)
      · exact .full _ returned (by rw [payload]; omega)
    · rw [if_neg done] at slot
      rw [slot]
      refine ⟨nofun, fun ends => absurd ?_ done⟩
      cases ends with
      | short urb' moved read' returned' fewer =>
        obtain rfl := Option.some.inj (read.symm.trans read')
        obtain rfl := Option.some.inj (returned.symm.trans returned')
        rw [payload] at fewer
        exact .inl fewer
      | full moved returned' all =>
        obtain rfl := Option.some.inj (returned.symm.trans returned')
        rw [payload] at all
        exact .inr (Nat.le_of_eq all.symm)
      | underrun urb' read' _ _ whole short =>
        obtain rfl := Option.some.inj (read.symm.trans read')
        have fits := enough whole
        omega
  case front =>
    rw [delivers]
    exact front
  case onward =>
    intro stage
    rw [delivers]
    by_cases done : bytes.length < urb.requested ∨ t.declared ≤ (sent ++ bytes).length
    · rw [slot, if_pos done] at stage
      cases stage
    · rw [if_neg done] at slot
      exact ⟨slot, front⟩

theorem sends_read {urb : Urb} (sending : moment.before.Sending t sent)
    (bounded : t.supply.length ≤ t.declared) (read : moment.read? = some urb)
    (works : Works (moment.before.bulkIn urb).1 moment.after) : moment.Sends t sent := by
  cases bulkIn_sending sending urb with
  | refuses why halting decided slot =>
    have unreturned := returned?_of_stall read decided
    refine sends_nothing sending unreturned (.inl (works.slot.trans slot)) ?_
    intro ends
    cases ends with
    | short urb' moved read' returned | full moved returned =>
      rw [unreturned] at returned
      cases returned
    | underrun urb' read' direction running =>
      obtain rfl := Option.some.inj (read.symm.trans read')
      rcases why with other | halted
      · exact absurd direction other
      · rw [running] at halted
        cases halted
  | underruns direction running whole short decided slot =>
    have unreturned := returned?_of_stall read decided
    have status : moment.after.slot.stage = .status := by
      rw [works.slot, slot]
      rfl
    constructor
    case ends =>
      rw [status]
      exact ⟨fun _ => .underrun urb read direction running whole short, fun _ => rfl⟩
    case front =>
      rw [delivered_of_unreturned unreturned, List.append_nil]
      exact sending.front
    case onward =>
      intro stage
      rw [status] at stage
      cases stage
  | moves bytes direction running enough chunk decided slot =>
    exact sends_moved sending bounded read decided enough chunk (works.slot.trans slot)

theorem sends_next (sending : moment.before.Sending t sent)
    (bounded : t.supply.length ≤ t.declared)
    (follows : moment.step.Follows earlier moment.before) : moment.Sends t sent := by
  cases kind follows with
  | reads urb read write works => exact sends_read sending bounded read works
  | writes urb read write works =>
    have unready : moment.before.slot.stage ≠ .ready := by
      rw [sending.stage]
      nofun
    have unfilling : ∀ other, moment.before.slot ≠ .held .dataFromHost other := by
      rw [sending.slot]
      nofun
    obtain ⟨halting, -, unmoved⟩ := bulkOut_unready unready unfilling urb
    exact sends_aside sending read (unmoved.aside.trans works.aside)
  | hears command completion step executing =>
    rw [sending.slot] at executing
    cases executing
  | passes read write aside => exact sends_aside sending read aside

theorem gentle_moves {urb : Urb} (sending : moment.before.Sending t sent)
    (gentle : moment.Gentle) (read : moment.read? = some urb) :
    ∃ moved, moment.returned? = some moved ∧
      moved.payload = (t.supply.drop sent.length).take urb.requested := by
  obtain ⟨direction, running, mayBeShort, -⟩ := gentle urb read
  cases bulkIn_sending sending urb with
  | refuses why =>
    rcases why with other | halted
    · exact absurd direction other
    · rw [running] at halted
      cases halted
  | underruns _ _ whole =>
    rw [mayBeShort] at whole
    cases whole
  | moves bytes _ _ _ chunk decided =>
    exact ⟨_, returned?_of_complete read decided, (urb.payload_filled bytes).trans chunk⟩

-- No gentle read is in vain as long as there is more to come.
theorem gentle_onward (sending : moment.before.Sending t sent)
    (bounded : t.supply.length ≤ t.declared)
    (follows : moment.step.Follows earlier moment.before) (gentle : moment.Gentle)
    (still : moment.after.slot.stage = .dataToHost) :
    moment.read?.toList.length ≤ moment.delivered.length := by
  cases read : moment.read? with
  | none => exact Nat.zero_le _
  | some urb =>
    obtain ⟨-, -, -, some_asked⟩ := gentle urb read
    obtain ⟨moved, returned, -⟩ := gentle_moves sending gentle read
    have full : ¬ moved.payload.length < urb.requested := by
      intro fewer
      have status := (sends_next sending bounded follows).ends.mpr
        (.short urb moved read returned fewer)
      rw [still] at status
      cases status
    rw [delivered, returned]
    change 1 ≤ moved.payload.length
    omega

theorem gentle_status (sending : moment.before.Sending t sent)
    (bounded : t.supply.length ≤ t.declared)
    (follows : moment.step.Follows earlier moment.before) (gentle : moment.Gentle)
    (status : moment.after.slot.stage = .status) : sent ++ moment.delivered = t.supply := by
  have sends := sends_next sending bounded follows
  refine sends.front.eq_of_length_le ?_
  cases sends.ends.mp status with
  | underrun urb read _ _ whole =>
    obtain ⟨-, -, mayBeShort, -⟩ := gentle urb read
    rw [mayBeShort] at whole
    cases whole
  | full moved returned all =>
    rw [delivered, returned]
    change t.supply.length ≤ (sent ++ moved.payload).length
    omega
  | short urb moved read returned fewer =>
    obtain ⟨moved', returned', payload⟩ := gentle_moves sending gentle read
    obtain rfl := Option.some.inj (returned.symm.trans returned')
    rw [delivered, returned, List.length_append]
    change t.supply.length ≤ sent.length + moved.payload.length
    rw [payload, List.length_take, List.length_drop] at fewer ⊢
    omega

theorem gentle_last {urb : Urb} (sending : moment.before.Sending t sent)
    (bounded : t.supply.length ≤ t.declared)
    (follows : moment.step.Follows earlier moment.before) (gentle : moment.Gentle)
    (read : moment.read? = some urb) (all : t.supply.length ≤ sent.length) :
    moment.after.slot.stage = .status := by
  obtain ⟨-, -, -, some_asked⟩ := gentle urb read
  obtain ⟨moved, returned, payload⟩ := gentle_moves sending gentle read
  refine (sends_next sending bounded follows).ends.mpr (.short urb moved read returned ?_)
  rw [payload, List.length_take, List.length_drop]
  omega

end Moment

namespace Device

open Moment

variable {start d : Device} {moments phase : List Moment} {ended : Moment} {t : Transaction}

-- The end of a command has brought `t` back, with nothing of it sent yet.
theorem Path.sending (path : Path start (moments ++ ended :: phase) d)
    (begun : ended.after.Sending t []) (bounded : t.supply.length ≤ t.declared)
    (during : ∀ moment ∈ phase, moment.before.slot.stage = .dataToHost)
    (still : d.slot.stage = .dataToHost) :
    d.Sending t (phase.flatMap Moment.delivered) := by
  induction phase using List.reverseRecOn generalizing d with
  | nil =>
    obtain ⟨-, -, -, events, submissions, rfl⟩ := path.last
    exact ⟨begun.slot, begun.front⟩
  | append_singleton phase last ih =>
    rw [← List.cons_append, ← List.append_assoc] at path
    obtain ⟨before, released, follows, events, submissions, rfl⟩ := path.last
    obtain ⟨during, now⟩ := List.forall_mem_append.mp during
    have sending := ih before during (now last (List.mem_singleton_self last))
    have onward := (sends_next sending bounded follows).onward still
    rw [List.flatMap_append, List.flatMap_singleton]
    exact ⟨onward.slot, onward.front⟩

theorem Path.counted (path : Path start (moments ++ ended :: phase) d)
    (begun : ended.after.Sending t []) (bounded : t.supply.length ≤ t.declared)
    (during : ∀ moment ∈ phase, moment.before.slot.stage = .dataToHost)
    (gentle : ∀ moment ∈ phase, moment.Gentle) (still : d.slot.stage = .dataToHost) :
    (readsOf phase).length ≤ (phase.flatMap Moment.delivered).length := by
  induction phase using List.reverseRecOn generalizing d with
  | nil => exact Nat.le_refl _
  | append_singleton phase last ih =>
    rw [← List.cons_append, ← List.append_assoc] at path
    obtain ⟨before, released, follows, events, submissions, rfl⟩ := path.last
    obtain ⟨during, now⟩ := List.forall_mem_append.mp during
    obtain ⟨gentle, gentle_now⟩ := List.forall_mem_append.mp gentle
    have stage := now last (List.mem_singleton_self last)
    have sending := before.sending begun bounded during stage
    have onward := gentle_onward sending bounded follows
      (gentle_now last (List.mem_singleton_self last)) still
    have earlier := ih before during gentle stage
    simp only [readsOf, List.flatMap_append, List.length_append, List.flatMap_singleton]
      at earlier ⊢
    omega

end Device

structure DeliversRead (bytes : Bytes) (declared : Nat) (phase : List Moment) : Prop where
  returned : ∀ earlier last urb, phase = earlier ++ [last] → last.read? = some urb →
    last.after.done = last.before.done.append (urb.handedBack last.returned?)
  front : phase.flatMap Moment.delivered <+: bytes
  ends : ∀ earlier last, phase = earlier ++ [last] →
    (last.after.slot.stage = .status ↔
      last.EndsPhase bytes (earlier.flatMap Moment.delivered) declared)
  whole : (∀ moment ∈ phase, moment.Gentle) → ∀ earlier last, phase = earlier ++ [last] →
    last.after.slot.stage = .status → phase.flatMap Moment.delivered = bytes
  bounded : (∀ moment ∈ phase, moment.Gentle) →
    (Moment.readsOf phase).length ≤ bytes.length + 1
  reached : (∀ moment ∈ phase, moment.Gentle) →
    (Moment.readsOf phase).length = bytes.length + 1 →
      ∃ earlier last, phase = earlier ++ [last] ∧ last.after.slot.stage = .status

theorem Device.Path.deliversRead {start d : Device} {moments phase : List Moment}
    {ended : Moment} {t : Transaction} (path : Path start (moments ++ ended :: phase) d)
    (begun : ended.after.Sending t []) (bounded : t.supply.length ≤ t.declared)
    (during : ∀ moment ∈ phase, moment.before.slot.stage = .dataToHost) :
    DeliversRead t.supply t.declared phase := by
  rcases List.eq_nil_or_concat phase with rfl | ⟨earlier, last, rfl⟩
  · constructor
    case front => exact List.nil_prefix
    case bounded => exact fun _ => Nat.zero_le _
    case returned | ends | whole | reached => simp [Moment.readsOf]
  · rw [List.concat_eq_append] at path during ⊢
    rw [← List.cons_append, ← List.append_assoc] at path
    obtain ⟨before, released, follows, events, submissions, rfl⟩ := path.last
    obtain ⟨during, now⟩ := List.forall_mem_append.mp during
    have stage := now last (List.mem_singleton_self last)
    have sending := before.sending begun bounded during stage
    have sends := Moment.sends_next sending bounded follows
    have counts (gentle : ∀ moment ∈ earlier ++ [last], moment.Gentle) :
        (Moment.readsOf earlier).length ≤ (earlier.flatMap Moment.delivered).length :=
      before.counted begun bounded during
        (fun moment member => gentle moment (List.mem_append_left _ member)) stage
    have total := sending.front.length_le
    have one_more : (Moment.readsOf (earlier ++ [last])).length =
        (Moment.readsOf earlier).length + last.read?.toList.length := by
      simp [Moment.readsOf]
    have gentle_now (gentle : ∀ moment ∈ earlier ++ [last], moment.Gentle) : last.Gentle :=
      gentle last (List.mem_append_right _ (List.mem_singleton_self last))
    constructor
    case returned =>
      intro earlier' last' urb same read
      obtain ⟨rfl, rfl⟩ := List.append_singleton_inj.mp same
      exact Moment.done_of_read sending read
    case front =>
      rw [List.flatMap_append, List.flatMap_singleton]
      exact sends.front
    case ends =>
      intro earlier' last' same
      obtain ⟨rfl, rfl⟩ := List.append_singleton_inj.mp same
      exact sends.ends
    case whole =>
      intro gentle earlier' last' same status
      obtain ⟨rfl, rfl⟩ := List.append_singleton_inj.mp same
      rw [List.flatMap_append, List.flatMap_singleton]
      exact Moment.gentle_status sending bounded follows (gentle_now gentle) status
    case bounded =>
      intro gentle
      have count := counts gentle
      have most : last.read?.toList.length ≤ 1 := by cases last.read? <;> simp
      omega
    case reached =>
      intro gentle many
      have count := counts gentle
      cases read : last.read? with
      | none =>
        rw [one_more, read, Option.toList_none, List.length_nil] at many
        omega
      | some urb =>
        rw [one_more, read, Option.toList_some, List.length_singleton] at many
        refine ⟨earlier, last, rfl, ?_⟩
        exact Moment.gentle_last sending bounded follows (gentle_now gentle) read (by omega)

def Completion.brought (completion : Completion) (command : Command) : Bytes :=
  (completion.returned command).transaction.buffer.take
    (min (completion.ending.reported command.transaction.declared) command.transaction.declared)

namespace Completion

variable {command : Command} {wrapper : CommandWrapper} {data : Bytes}

theorem buffer_returned (completion : Completion) (command : Command) :
    (completion.returned command).transaction.buffer.length =
      command.transaction.buffer.length := by
  have written := command.length_buffer_withData completion.data
  unfold returned
  split
  next => exact written
  next => exact written

theorem transferred_ended (completion : Completion) (command : Command) :
    (completion.ended command).transferred =
      min (completion.ending.reported command.length) command.length := by
  rw [← completion.transferred_outcome command]
  unfold ended returned
  split
  next => rfl
  next => rfl

theorem offset_ended (completion : Completion) (reads : command.direction = .toHost) :
    (completion.ended command).offset = 0 := by
  have kept : (completion.returned command).transaction.direction = .toHost := by
    rw [← reads]
    unfold returned
    split <;> rfl
  exact if_pos kept

theorem supply_ended (completion : Completion) (conveys : command.Conveys wrapper data)
    (reads : command.direction = .toHost) :
    (completion.ended command).supply = completion.brought command := by
  have length : command.length = command.transaction.declared := by
    obtain ⟨length, -⟩ := conveys.reads (.inl (conveys.direction.symm.trans reads))
    rw [length, Transaction.declared, conveys.asked]
  rw [Transaction.supply, transferred_ended, length]
  rfl

theorem length_brought (completion : Completion) (conveys : command.Conveys wrapper data)
    (reads : command.direction = .toHost) :
    (completion.brought command).length =
      min (completion.ending.reported command.transaction.declared)
        command.transaction.declared := by
  obtain ⟨length, zeros⟩ := conveys.reads (.inl (conveys.direction.symm.trans reads))
  have room : wrapper.transferLength.toNat ≤ command.transaction.buffer.length := by
    have same := congrArg List.length zeros
    rw [Command.data, List.length_take, List.length_replicate, length] at same
    omega
  rw [brought, List.length_take, buffer_returned, Transaction.declared, conveys.asked]
  omega

end Completion

theorem Device.Path.conveys {start d : Device} {moments : List Moment}
    (path : Path start moments d) (vacant : start.slot = .vacant) {command : Command}
    (submitted : command ∈ moments.flatMap Moment.submitted) :
    ∃ wrapper data, command.Conveys wrapper data := by
  obtain ⟨moment, member, submits⟩ := List.mem_flatMap.mp submitted
  obtain ⟨earlier, later, split⟩ := List.append_of_mem member
  obtain ⟨wrapper, data, -, conveys, -⟩ :=
    ((path.submitsFaithfully vacant).faithful earlier moment later split).conveys command submits
  exact ⟨wrapper, data, conveys⟩

theorem Moment.sending_ended {moment : Moment} {command : Command} {completion : Completion}
    (step : moment.step = .hear command completion)
    (executing : moment.before.slot = .executing command.generation)
    (reads : command.direction = .toHost) (some_data : 0 < command.transaction.declared) :
    moment.after.Sending (completion.ended command) [] := by
  have direction : (completion.ended command).direction = .toHost :=
    (completion.direction_ended command).trans reads
  have declared : (completion.ended command).declared = command.transaction.declared := by
    rw [Transaction.declared, completion.wrapper_ended]
    rfl
  have phase : (completion.ended command).phaseAfter = .dataToHost := by
    rw [Transaction.phaseAfter, if_pos ⟨direction, declared ▸ some_data⟩]
  have offset := completion.offset_ended reads
  obtain ⟨events, heard⟩ := moment.before.heard_eq command completion
  have after : moment.after = { moment.before.heard command completion with parked := .empty } := by
    rw [Moment.after, step, Device.step, if_pos executing]
  refine ⟨?_, List.nil_prefix⟩
  rw [after, heard, phase, List.length_nil, ← offset]

def DeliversReads (history : List Moment) : Prop :=
  ∀ earlier ended phase later command completion,
    history = earlier ++ ended :: (phase ++ later) → ended.step = .hear command completion →
      ended.before.slot = .executing command.generation → command.direction = .toHost →
      0 < command.transaction.declared →
      (∀ moment ∈ phase, moment.before.slot.stage = .dataToHost) →
        ended.after.slot.stage = .dataToHost ∧
          (completion.brought command).length =
            min (completion.ending.reported command.transaction.declared)
              command.transaction.declared ∧
          DeliversRead (completion.brought command) command.transaction.declared phase

namespace System

theorem read_phase_delivers (settings : Settings) (location : String) (target : Target)
    {turns : List Turn}
    (fresh : ∀ turn ∈ turns, ∀ saved, turn.operation ≠ .device (.restore saved)) :
    DeliversReads ((create settings location target).moments turns) := by
  intro earlier ended phase later command completion history step executing reads some_data during
  obtain ⟨follows, -⟩ := play_follows (follows_created settings location target) fresh
  have path := follows.path
  rw [List.nil_append, history, ← List.cons_append, ← List.append_assoc] at path
  obtain ⟨e, upTo⟩ := path.earlier
  obtain ⟨before, -, possible⟩ := upTo.at_moment
  have submitted : command ∈ earlier.flatMap Moment.submitted := by
    have hears := possible
    rw [step] at hears
    exact hears
  obtain ⟨wrapper, data, conveys⟩ := before.conveys rfl submitted
  have begun := Moment.sending_ended step executing reads some_data
  have supply := completion.supply_ended conveys reads
  have length := completion.length_brought conveys reads
  have declared : (completion.ended command).declared = command.transaction.declared := by
    rw [Transaction.declared, completion.wrapper_ended]
    rfl
  have bounded : (completion.ended command).supply.length ≤
      (completion.ended command).declared := by
    rw [supply, length, declared]
    exact Nat.min_le_right _ _
  have delivers := upTo.deliversRead begun bounded during
  rw [supply, declared] at delivers
  exact ⟨begun.stage, length, delivers⟩

def splitRead : List Turn :=
  [sendReadSix 1, readBulk 2 2, ⟨.complete 0 threeBytes, .holds⟩, readBulk 3 2, readBulk 4 13]

theorem read_phase_delivers_splitRead :
    (∀ turn ∈ splitRead, ∀ saved, turn.operation ≠ .device (.restore saved)) ∧
      DeliversReads ((create {} "lun0" .holds).moments splitRead) ∧
      DeliversRead [1, 2, 3] 4 ((((create {} "lun0" .holds).moments splitRead).drop 3).take 2) := by
  have fresh : ∀ turn ∈ splitRead, ∀ saved,
      turn.operation ≠ .device (.restore saved) := by simp [splitRead, sendReadSix, readBulk]
  have delivers := read_phase_delivers {} "lun0" .holds fresh
  refine ⟨fresh, delivers, ?_⟩
  let history := (create {} "lun0" .holds).moments splitRead
  let command : Command := ⟨0, (Transaction.filling readSix Scsi.Sense.zero []).started 4⟩
  have whole : history = history.take 2 ++ history.get ⟨2, by decide⟩ ::
      ((history.drop 3).take 2 ++ history.drop 5) := rfl
  have step : (history.get ⟨2, by decide⟩).step = .hear command threeBytes := by decide
  obtain ⟨-, -, delivered⟩ := delivers _ _ _ _ command threeBytes whole step (by decide) rfl
    (by decide) (by decide)
  exact delivered

end System

end BulkOnly
