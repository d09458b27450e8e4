import BulkOnly.Journal.Complaint

set_option autoImplicit false

namespace BulkOnly

def Complaint.Kind.index : Complaint.Kind → Fin 8
  | .badWrapper => 0
  | .wrongState => 1
  | .overrun => 2
  | .underrun => 3
  | .badStatusRead => 4
  | .unsupportedRequest => 5
  | .halted => 6
  | .resetRace => 7

theorem Complaint.Kind.index_inj {a b : Complaint.Kind} : a.index = b.index ↔ a = b := by
  cases a <;> cases b <;> decide

structure Limiter where
  limit : UInt32
  counts : Vector UInt32 8 := Vector.replicate 8 0
  deriving DecidableEq, Repr

namespace Limiter

def count (limiter : Limiter) (kind : Complaint.Kind) : UInt32 := limiter.counts[kind.index]

-- The count stays at the largest word rather than start again from zero.
def step (count : UInt32) : UInt32 := if count = 0xffffffff then count else count + 1

def recorded (limiter : Limiter) (kind : Complaint.Kind) : Limiter :=
  { limiter with counts := limiter.counts.set kind.index (step (limiter.count kind)) }

theorem count_recorded (limiter : Limiter) (kind other : Complaint.Kind) :
    (limiter.recorded kind).count other =
      if other = kind then step (limiter.count kind) else limiter.count other := by
  by_cases same : other = kind
  · subst same
    simp [recorded, count]
  · have apart : ¬ kind.index.val = other.index.val := fun h =>
      same (Complaint.Kind.index_inj.mp (Fin.ext h)).symm
    simp [recorded, count, same, apart]

theorem toNat_step (count : UInt32) : (step count).toNat = min (count.toNat + 1) 0xffffffff := by
  have bound := count.toNat_lt
  unfold step
  split
  case isTrue full =>
    subst full
    rfl
  case isFalse room =>
    have small : count.toNat ≠ 0xffffffff := fun h => room (UInt32.toNat_inj.mp h)
    simp only [UInt32.toNat_add, UInt32.toNat_one]
    omega

def allow (limiter : Limiter) (kind : Complaint.Kind) : Limiter × Bool :=
  let next := limiter.recorded kind
  (next, decide (next.count kind ≤ next.limit))

end Limiter

end BulkOnly
