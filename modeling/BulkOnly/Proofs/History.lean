import BulkOnly.Proofs.Conservation
import BulkOnly.Proofs.Frame
import BulkOnly.Proofs.Run
import Mathlib.Algebra.GroupWithZero.Nat

set_option autoImplicit false

namespace BulkOnly

inductive Deed where
  | moved (pipe : Pipe) (stage : Stage) (urb : Urb)
  | ended (length : Nat) (ending : Ending)
  | reset
  deriving DecidableEq, Repr

namespace Device

def moves (d : Device) (pipe : Pipe) : Disposition → List Deed
  | .complete urb => [.moved pipe d.slot.stage urb]
  | _ => []

-- The device itself counts the resets that it has finished.
def resetsTo (d e : Device) : List Deed :=
  List.replicate (e.statistics.resets - d.statistics.resets) .reset

def dispatchDeeds (d : Device) (address : UInt8) (urb : Urb) : List Deed :=
  match Pipe.ofAddress? address with
  | some .bulkOut => d.moves .bulkOut (d.bulkOut urb).2
  | some .bulkIn => d.moves .bulkIn (d.bulkIn urb).2
  | some .control | none => []

def operateDeeds (d : Device) (operation : Device.Operation) : List Deed :=
  (match operation with
    | .dispatch address urb => d.dispatchDeeds address urb
    | _ => []) ++ d.resetsTo (d.operate operation).1

def resumeDeeds : Device → List Urb → List Deed
  | _, [] => []
  | d, urb :: rest => d.moves .bulkIn (d.bulkIn urb).2 ++ (d.resume urb).resumeDeeds rest

-- The end of a command that a reset has given up is no part of any transaction.
def settleDeeds (d : Device) (command : Command) (completion : Completion) : List Deed :=
  if d.slot = .executing command.generation then
    let back := takenBack { d with events := d.events ++ completion.events command }
      (completion.returned command).transaction (completion.outcome command)
    .ended command.length completion.ending ::
      (resumeDeeds { back with parked := .empty } back.parked.toList ++
        d.resetsTo (d.settle command completion))
  else []

end Device

namespace System

def submitDeeds (s : System) (command : Command) : List Deed :=
  match s.target.take.2 with
  | none => []
  | some completion =>
    (s.device.log (.submitting command.generation command.block command.direction
      command.length)).settleDeeds command completion

def submitsDeeds : System → List Command → List Deed
  | _, [] => []
  | s, command :: rest => s.submitDeeds command ++ (s.submit command).submitsDeeds rest

def releaseDeeds (s : System) : List Deed :=
  submitsDeeds { s with device.submissions := [] } s.device.submissions

def operated (s : System) (operation : Device.Operation) : System :=
  { s with
    device := (s.device.operate operation).1
    condition := if (s.device.operate operation).2 = .dispatched .faulted then .broken
      else s.condition }

def performDeeds (s : System) (operation : Operation) : List Deed :=
  match operation, s.condition with
  | .device operation, .working =>
    s.device.operateDeeds operation ++ (s.operated operation).releaseDeeds
  | .complete index completion, .working =>
    match s.pick? index with
    | some (command, s) =>
      s.device.settleDeeds command completion ++
        releaseDeeds { s with device := s.device.settle command completion }
    | none => []
  | _, _ => []

theorem performDeeds_unheard {s : System} {operation : Operation}
    (unheard : s.Unheard operation) : s.performDeeds operation = [] := by
  cases condition : s.condition with
  | broken | removed => simp only [performDeeds, condition]
  | working =>
    cases operation with
    | device asked => exact absurd rfl (unheard.asks condition asked)
    | complete index completion =>
      simp [performDeeds, condition, pick?, unheard.ends condition index completion rfl]
    | remove => simp only [performDeeds]

theorem performDeeds_complete {s : System} {index : Nat} {command : Command}
    (found : s.waiting[index]? = some command) (working : s.condition = .working)
    (completion : Completion) :
    s.performDeeds (.complete index completion) =
      s.device.settleDeeds command completion ++
        releaseDeeds
          { s with
            device := s.device.settle command completion
            waiting := s.waiting.eraseIdx index } := by
  simp [performDeeds, working, pick?, found]

def deeds (s : System) : List Turn → List Deed
  | [] => []
  | turn :: rest =>
    performDeeds { s with target := turn.target } turn.operation ++
      (s.turn turn).system.deeds rest

end System

namespace Deed

def taken : Deed → Nat
  | moved .bulkOut .dataFromHost urb => urb.payload.length
  | _ => 0

def given : Deed → Nat
  | moved .bulkIn .dataToHost urb => urb.len
  | _ => 0

def ending? : Deed → Option (Nat × Ending)
  | ended length ending => some (length, ending)
  | _ => none

def opens : Deed → Bool
  | moved .bulkOut .ready _ => true
  | _ => false

-- A read that comes before any data of a write is answered with a status wrapper, too.
def closes : Deed → Bool
  | moved .bulkIn .status _ | moved .bulkIn .dataFromHost _ => true
  | _ => false

theorem opens_iff {deed : Deed} : deed.opens ↔ ∃ urb, deed = .moved .bulkOut .ready urb := by
  constructor
  · intro opens
    cases deed with
    | moved pipe stage urb =>
      cases pipe <;> cases stage <;> first | exact ⟨urb, rfl⟩ | cases opens
    | ended | reset => cases opens
  · rintro ⟨urb, rfl⟩
    rfl

end Deed

def takenBytes (deeds : List Deed) : Nat := (deeds.map Deed.taken).sum

def givenBytes (deeds : List Deed) : Nat := (deeds.map Deed.given).sum

namespace Ending

def isGood : Ending → Bool
  | dropped => false
  | ended status _ _ => status.isGood

def reported (length : Nat) : Ending → Nat
  | dropped => 0
  | ended _ transferred _ => transferred.getD length

def verdict (ending : Ending) (length : Nat) : CommandStatus :=
  if length < ending.reported length then .phaseError
  else if ending.isGood then .passed
  else .failed

end Ending

structure Account where
  wrapper : CommandWrapper
  deeds : List Deed := []

namespace Account

def declared (a : Account) : Nat := a.wrapper.transferLength.toNat

def received (a : Account) : Nat := takenBytes a.deeds

def sent (a : Account) : Nat := givenBytes a.deeds

def endings (a : Account) : List (Nat × Ending) := a.deeds.filterMap Deed.ending?

def commandLength (a : Account) : Nat :=
  match a.wrapper.direction with
  | .toHost => a.declared
  | .toDevice => a.received

def record (a : Account) (deed : Deed) : Account := { a with deeds := a.deeds ++ [deed] }

@[simp] theorem received_record (a : Account) (deed : Deed) :
    (a.record deed).received = a.received + deed.taken := by
  simp [received, record, takenBytes]

@[simp] theorem sent_record (a : Account) (deed : Deed) :
    (a.record deed).sent = a.sent + deed.given := by
  simp [sent, record, givenBytes]

@[simp] theorem endings_record (a : Account) (deed : Deed) :
    (a.record deed).endings = a.endings ++ deed.ending?.toList := by
  cases deed <;> simp [endings, record, Deed.ending?]

theorem mem_endings_iff {a : Account} {length : Nat} {ending : Ending} :
    (length, ending) ∈ a.endings ↔ .ended length ending ∈ a.deeds := by
  rw [endings, List.mem_filterMap]
  constructor
  · rintro ⟨deed, member, same⟩
    cases deed with
    | ended => cases same; exact member
    | moved | reset => cases same
  · exact fun member => ⟨_, member, rfl⟩

@[simp] theorem wrapper_record (a : Account) (deed : Deed) : (a.record deed).wrapper = a.wrapper :=
  rfl

structure Judged (a : Account) (status : CommandStatus) : Prop where
  ended : ∀ length ending, (length, ending) ∈ a.endings →
    length = a.commandLength ∧ status = ending.verdict length
  unended : a.endings = [] → status = .passed

structure Settled (a : Account) (residue : Nat) (status : CommandStatus) : Prop where
  judged : a.Judged status
  bounded : residue ≤ a.declared
  read : a.wrapper.direction = .toHost → residue + a.sent = a.declared
  supplied : a.wrapper.direction = .toHost → ∀ length ending, (length, ending) ∈ a.endings →
    a.sent ≤ ending.reported length
  written : a.wrapper.direction = .toDevice →
    (∀ length ending, (length, ending) ∈ a.endings → ending.isGood) →
    residue + a.received = a.declared
  failed : a.wrapper.direction = .toDevice → ∀ length ending, (length, ending) ∈ a.endings →
    ¬ ending.isGood → residue = a.declared - min a.received (ending.reported length)

def ClosedBy (a : Account) (urb : Urb) : Prop :=
  ∃ status : StatusWrapper, urb.payload = status.encode ∧ status.tag = a.wrapper.tag ∧
    a.Settled status.residue.toNat status.status

def next (account : Option Account) : Deed → Option Account
  | .moved .bulkOut .ready urb => (CommandWrapper.parse urb.payload).toOption.map fun wrapper =>
    { wrapper }
  | .moved .bulkIn .status _ | .moved .bulkIn .dataFromHost _ | .reset => none
  | deed => account.map fun a => a.record deed

def Allows (account : Option Account) : Deed → Prop
  | .moved .bulkOut .ready urb =>
    account = none ∧ ∃ wrapper, CommandWrapper.parse urb.payload = .ok wrapper
  | .moved .bulkIn .status urb | .moved .bulkIn .dataFromHost urb =>
    ∃ a, account = some a ∧ a.ClosedBy urb
  | _ => True

def Lawful : Option Account → List Deed → Prop
  | _, [] => True
  | account, deed :: rest => Allows account deed ∧ Lawful (next account deed) rest

theorem next_of_closes {deed : Deed} (closes : deed.closes) (account : Option Account) :
    next account deed = none := by
  cases deed with
  | moved pipe stage urb => cases pipe <;> cases stage <;> first | rfl | cases closes
  | ended | reset => cases closes

theorem next_of_else {deed : Deed} (opens : ¬ deed.opens) (closes : ¬ deed.closes)
    (other : deed ≠ .reset) (account : Option Account) :
    next account deed = account.map fun a => a.record deed := by
  cases deed with
  | moved pipe stage urb =>
    cases pipe <;> cases stage <;>
      first | rfl | exact absurd rfl opens | exact absurd rfl closes
  | ended => rfl
  | reset => exact absurd rfl other

theorem Allows.opened {account : Option Account} {deed : Deed} (allowed : Allows account deed)
    (opens : deed.opens) : account = none ∧ ∃ wrapper, next account deed = some { wrapper } := by
  obtain ⟨urb, rfl⟩ := Deed.opens_iff.mp opens
  obtain ⟨rfl, wrapper, parsed⟩ := allowed
  exact ⟨rfl, wrapper, by simp [next, parsed, Except.toOption]⟩

theorem Allows.closed {account : Option Account} {stage : Stage} {urb : Urb}
    (allowed : Allows account (.moved .bulkIn stage urb))
    (closes : (Deed.moved .bulkIn stage urb).closes) : ∃ a, account = some a ∧ a.ClosedBy urb := by
  cases stage <;> first | exact allowed | cases closes

theorem lawful_append {account : Option Account} {earlier later : List Deed} :
    Lawful account (earlier ++ later) ↔
      Lawful account earlier ∧ Lawful (earlier.foldl next account) later := by
  induction earlier generalizing account with
  | nil => simp [Lawful]
  | cons deed rest ih => simp [Lawful, ih, and_assoc]

theorem lawful_iff {account : Option Account} {deeds : List Deed} :
    Lawful account deeds ↔
      ∀ before deed after, deeds = before ++ deed :: after →
        Allows (before.foldl next account) deed := by
  constructor
  · rintro lawful before deed after rfl
    exact (lawful_append.mp lawful).2.1
  · intro allowed
    induction deeds generalizing account with
    | nil => trivial
    | cons deed rest ih =>
      refine ⟨allowed [] deed rest rfl, ih ?_⟩
      rintro before later after rfl
      exact allowed (deed :: before) later after rfl

theorem Allows.open_of_closes {account : Option Account} {deed : Deed}
    (allowed : Allows account deed) (closes : deed.closes) : ∃ a, account = some a := by
  cases deed with
  | moved pipe stage urb =>
    cases pipe with
    | bulkIn =>
      obtain ⟨a, same, -⟩ := allowed.closed closes
      exact ⟨a, same⟩
    | control | bulkOut => cases stage <;> cases closes
  | ended | reset => cases closes

theorem Lawful.unopened {deeds : List Deed} (lawful : Lawful none deeds)
    (quiet : ∀ deed ∈ deeds, ¬ deed.opens) :
    deeds.foldl next none = none ∧ deeds.countP Deed.closes = 0 := by
  induction deeds with
  | nil => exact ⟨rfl, rfl⟩
  | cons deed rest ih =>
    obtain ⟨first, others⟩ := List.forall_mem_cons.mp quiet
    obtain ⟨allowed, lawful⟩ := lawful
    have closes : ¬ deed.closes := by
      intro closes
      obtain ⟨a, impossible⟩ := allowed.open_of_closes closes
      cases impossible
    have still : next none deed = none := by
      by_cases reset : deed = .reset
      · rw [reset]
        rfl
      · rw [next_of_else first closes reset]
        rfl
    rw [still] at lawful
    obtain ⟨none_open, none_closes⟩ := ih lawful others
    rw [List.foldl_cons, still, List.countP_cons_of_neg closes]
    exact ⟨none_open, none_closes⟩

-- Either the transaction is still open, and all that has happened is on its account, or it was
-- closed once, by a status wrapper or by a reset.
theorem Lawful.opened {a : Account} {deeds : List Deed} (lawful : Lawful (some a) deeds)
    (quiet : ∀ deed ∈ deeds, ¬ deed.opens) :
    deeds.foldl next (some a) = some { a with deeds := a.deeds ++ deeds } ∨
      (deeds.foldl next (some a) = none ∧
        (deeds.countP Deed.closes = 1 ∨
          (deeds.countP Deed.closes = 0 ∧ Deed.reset ∈ deeds))) := by
  induction deeds generalizing a with
  | nil => simp
  | cons deed rest ih =>
    obtain ⟨first, others⟩ := List.forall_mem_cons.mp quiet
    obtain ⟨-, lawful⟩ := lawful
    rw [List.foldl_cons]
    by_cases closes : deed.closes
    · rw [next_of_closes closes] at lawful ⊢
      obtain ⟨none_open, none_closes⟩ := lawful.unopened others
      rw [List.countP_cons_of_pos closes, none_closes]
      exact .inr ⟨none_open, .inl rfl⟩
    rw [List.countP_cons_of_neg closes]
    by_cases reset : deed = .reset
    · subst reset
      obtain ⟨none_open, none_closes⟩ := Lawful.unopened lawful others
      exact .inr ⟨none_open, .inr ⟨none_closes, List.mem_cons_self⟩⟩
    rw [next_of_else first closes reset] at lawful ⊢
    rcases ih lawful others with still | ⟨closed, once⟩
    · exact .inl (by simpa [record] using still)
    · exact .inr ⟨closed, once.imp_right fun reset => ⟨reset.1, .tail _ reset.2⟩⟩

theorem exists_last_opening (deeds : List Deed) :
    (∀ deed ∈ deeds, ¬ deed.opens) ∨
      ∃ earlier command phase, deeds = earlier ++ .moved .bulkOut .ready command :: phase ∧
        ∀ deed ∈ phase, ¬ deed.opens := by
  induction deeds with
  | nil => exact .inl nofun
  | cons deed rest ih =>
    rcases ih with quiet | ⟨earlier, command, phase, rfl, quiet⟩
    · by_cases opens : deed.opens
      · obtain ⟨command, rfl⟩ := Deed.opens_iff.mp opens
        exact .inr ⟨[], command, rest, rfl, quiet⟩
      · exact .inl (List.forall_mem_cons.mpr ⟨opens, quiet⟩)
    · exact .inr ⟨deed :: earlier, command, phase, rfl, quiet⟩

theorem Lawful.exists_opening {before after : List Deed} {status : Deed}
    (lawful : Lawful none (before ++ status :: after)) (closes : status.closes) :
    ∃ earlier command phase, before = earlier ++ .moved .bulkOut .ready command :: phase ∧
      ∀ deed ∈ phase, ¬ deed.opens := by
  rcases exists_last_opening before with quiet | opening
  · obtain ⟨first, allowed, -⟩ := lawful_append.mp lawful
    obtain ⟨none_open, -⟩ := first.unopened quiet
    obtain ⟨a, still_open⟩ := allowed.open_of_closes closes
    cases none_open.symm.trans still_open
  · exact opening

theorem Lawful.settled {before phase after : List Deed} {command status : Urb} {stage : Stage}
    (lawful : Lawful none (before ++ .moved .bulkOut .ready command ::
      (phase ++ .moved .bulkIn stage status :: after)))
    (closes : (Deed.moved .bulkIn stage status).closes)
    (quiet : ∀ deed ∈ phase, ¬ deed.opens) :
    ∃ wrapper, CommandWrapper.parse command.payload = .ok wrapper ∧
      ClosedBy { wrapper, deeds := phase } status := by
  obtain ⟨⟨none_open, wrapper, parsed⟩, later⟩ := (lawful_append.mp lawful).2
  have opening : next (before.foldl next none) (.moved .bulkOut .ready command) =
      some { wrapper } := by simp [next, parsed, Except.toOption]
  rw [opening] at later
  obtain ⟨during, allowed, -⟩ := lawful_append.mp later
  obtain ⟨a, still_open, closed⟩ := allowed.closed closes
  rcases during.opened quiet with same | ⟨gone, -⟩
  · obtain rfl := Option.some.inj (same.symm.trans still_open)
    exact ⟨wrapper, parsed, closed⟩
  · cases gone.symm.trans still_open

end Account

end BulkOnly
