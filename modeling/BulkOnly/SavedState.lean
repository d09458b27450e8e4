import BulkOnly.Slot

set_option autoImplicit false

namespace BulkOnly

structure SavedTransaction where
  stage : Stage
  transaction : Transaction
  deriving DecidableEq, Repr

structure SavedState where
  configuration : UInt8 := 0
  bulkInHalted : Bool := false
  bulkOutHalted : Bool := false
  transaction : Option SavedTransaction := none
  deriving DecidableEq, Repr

inductive SavedState.Flaw where
  | stage
  | bufferLength
  | offset
  | blockLength
  | commandLength
  deriving DecidableEq, Repr

def SavedState.Flaw.message : SavedState.Flaw → String
  | .stage => "request state"
  | .bufferLength => "buffer length"
  | .offset => "data offset"
  | .blockLength => "command block length"
  | .commandLength => "SCSI transfer length"

namespace Transaction

def flaw? (t : Transaction) : Option SavedState.Flaw :=
  if t.buffer.length ≠ t.declared then some .bufferLength
  else if t.buffer.length < t.offset then some .offset
  else if ¬ t.wrapper.HasValidBlockLength then some .blockLength
  else if t.length < t.transferred ∨ t.buffer.length < t.length then some .commandLength
  else none

theorem flaw?_eq_none_iff {t : Transaction} :
    t.flaw? = none ↔ t.WellFormed ∧ t.wrapper.HasValidBlockLength := by
  constructor
  · intro sound
    unfold flaw? at sound
    split at sound
    · simp at sound
    next buffer =>
    split at sound
    · simp at sound
    next offset =>
    split at sound
    · simp at sound
    next block =>
    split at sound
    · simp at sound
    next lengths =>
    exact ⟨⟨by omega, by omega, by omega, by omega⟩, Classical.not_not.mp block⟩
  · rintro ⟨⟨buffer, offset, transferred, length⟩, block⟩
    simp [flaw?, buffer, block, Nat.not_lt.mpr offset, Nat.not_lt.mpr transferred,
      Nat.not_lt.mpr length]

end Transaction

namespace SavedTransaction

def slot (saved : SavedTransaction) : Except SavedState.Flaw Slot :=
  match saved.stage.phase? with
  | none => .error .stage
  | some phase =>
    match saved.transaction.flaw? with
    | some flaw => .error flaw
    | none => .ok (.held phase saved.transaction)

theorem slot_eq_ok_iff {saved : SavedTransaction} {slot : Slot} :
    saved.slot = .ok slot ↔
      ∃ phase, saved.stage = phase.stage ∧ slot = .held phase saved.transaction ∧
        saved.transaction.WellFormed ∧ saved.transaction.wrapper.HasValidBlockLength := by
  constructor
  · intro accepted
    unfold SavedTransaction.slot at accepted
    split at accepted
    · cases accepted
    next phase resting =>
      split at accepted
      · cases accepted
      next sound =>
        cases accepted
        exact ⟨phase, Stage.phase?_eq_some_iff.mp resting, rfl,
          Transaction.flaw?_eq_none_iff.mp sound⟩
  · rintro ⟨phase, resting, rfl, sound⟩
    simp [SavedTransaction.slot, Stage.phase?_eq_some_iff.mpr resting,
      Transaction.flaw?_eq_none_iff.mpr sound]

end SavedTransaction

namespace SavedState

def slot (saved : SavedState) : Except Flaw Slot :=
  match saved.transaction with
  | none => .ok .vacant
  | some transaction => transaction.slot

end SavedState

namespace Slot

-- A transaction that no command wrapper has opened yet carries nothing to go on with.
def saved : Slot → Option SavedTransaction
  | vacant | executing _ => none
  | held phase t => if t.wrapper.blockLength = 0 then none else some ⟨phase.stage, t⟩

end Slot

end BulkOnly
