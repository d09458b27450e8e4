import BulkOnly.Device.BulkIn
import BulkOnly.Device.BulkOut
import BulkOnly.Device.Control

set_option autoImplicit false

namespace BulkOnly

inductive Dispatched where
  | completed
  | stalled
  | queued
  | faulted
  deriving DecidableEq, Repr

namespace Device

def handle (d : Device) (address : UInt8) (urb : Urb) : Device × Disposition :=
  match Pipe.ofAddress? address with
  | some .control => d.control urb
  | some .bulkOut => d.bulkOut urb
  | some .bulkIn => d.bulkIn urb
  | none => (d.complain (.unknownEndpoint urb.id address), .stall urb [])

def apply (d : Device) (disposition : Disposition) : Device × Dispatched :=
  match disposition with
  | .complete urb => (d.finish urb .ok, .completed)
  | .stall urb halting => (d.stall urb halting, .stalled)
  | .park urb => ({ d with parked := d.parked.append urb }, .queued)
  | .hold urb => ({ d with pendingReset := some urb }, .queued)
  | .reconfigure urb value => ((d.resetAs (.configuration value)).finish urb .ok, .completed)
  | .fault => (d, .faulted)

def dispatch (d : Device) (address : UInt8) (urb : Urb) : Device × Dispatched :=
  let handled := d.handle address urb
  handled.1.apply handled.2

def finishCancelled (d : Device) (urb : Urb) : Device :=
  finish
    { d with
      statistics.cancelled := d.statistics.cancelled + 1
      events := d.events ++ [.cancelling urb.id] }
    urb .cancelled

def cancel (d : Device) (id : Nat) : Device :=
  match d.parked.remove? id with
  | some (urb, parked) => finishCancelled { d with parked } urb
  | none =>
    match d.pendingReset with
    | none => d.log (.nothingToCancel id)
    | some urb =>
      if urb.id = id then finishCancelled { d with pendingReset := none } urb
      else d.log (.nothingToCancel id)

def reap? (d : Device) : Option (Urb × Device) :=
  d.done.removeHead?.map fun (urb, done) => (urb, { d with done })

theorem reap?_eq_some_iff {d e : Device} {urb : Urb} :
    d.reap? = some (urb, e) ↔
      ∃ rest : Urb.Queue, d.done.toList = urb :: rest.toList ∧ e = { d with done := rest } := by
  simp only [reap?, Option.map_eq_some_iff, Prod.exists, Prod.mk.injEq,
    Urb.Queue.removeHead?_eq_some_iff]
  constructor
  · rintro ⟨head, rest, order, rfl, rfl⟩
    exact ⟨rest, order, rfl⟩
  · rintro ⟨rest, order, rfl⟩
    exact ⟨urb, rest, order, rfl, rfl⟩

def clearHalt (d : Device) (address : UInt8) : Device :=
  match Pipe.ofAddress? address with
  | some pipe => log { d with halts := d.halts.set pipe false } (.haltCleared address)
  | none => d

end Device

end BulkOnly
