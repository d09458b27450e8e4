import BulkOnly.Device.Save
import BulkOnly.Target
import BulkOnly.Text.Quoted

set_option autoImplicit false

namespace BulkOnly

inductive Device.Operation where
  | dispatch (address : UInt8) (urb : Urb)
  | cancel (id : Nat)
  | wakeUp
  | reset
  | setConfiguration (value : UInt8)
  | clearHalt (address : UInt8)
  | isHalted (address : UInt8)
  | isIdle
  | reap
  | poll
  | reapAll
  | stream (polls : Nat)
  | setDescriptors (table : Descriptors)
  | save
  | restore (saved : SavedState)
  | describe
  deriving DecidableEq, Repr

inductive Operation where
  | device (operation : Device.Operation)
  | complete (index : Nat) (completion : Completion)
  | remove
  deriving DecidableEq, Repr

inductive StreamItem where
  | transfer (urb : Urb)
  | pending
  | error (cause : Error)
  | finished
  deriving DecidableEq, Repr

inductive Answer where
  | done
  | dispatched (result : Dispatched)
  | flag (value : Bool)
  | reaped (urb : Option Urb)
  | polled (urb : Option Urb)
  | transfers (urbs : List Urb)
  | items (items : List StreamItem)
  | saved (state : SavedState)
  | text (value : String)
  | error (cause : Error)
  | noCommand
  | noDevice
  deriving DecidableEq, Repr

namespace Device

def stream (d : Device) (polls : Nat) : Device × List StreamItem :=
  let ready := d.done.toList.take polls
  ({ d with done := ⟨d.done.toList.drop polls⟩ },
    ready.map .transfer ++ if ready.length < polls then [.pending] else [])

def describe (d : Device) : String :=
  s!"MsdDevice \x7b location: {Text.quoted d.location}, state: {d.slot.stage.name} \x7d"

def operate (d : Device) : Device.Operation → Device × Answer
  | .dispatch address urb =>
    let result := d.dispatch address urb
    (result.1, .dispatched result.2)
  | .cancel id => (d.cancel id, .done)
  | .wakeUp => (d, .done)
  | .reset => (d.reset, .done)
  | .setConfiguration value => (d.setConfiguration value, .done)
  | .clearHalt address => (d.clearHalt address, .done)
  | .isHalted address => (d, .flag (d.halts.isHalted address))
  | .isIdle => (d, .flag (!d.slot.isExecuting))
  | .reap =>
    match d.reap? with
    | some (urb, d) => (d, .reaped (some urb))
    | none => (d, .reaped none)
  | .poll =>
    match d.reap? with
    | some (urb, d) => (d, .polled (some urb))
    | none => (d, .polled none)
  | .reapAll => ({ d with done := .empty }, .transfers d.done.toList)
  | .stream polls =>
    let streamed := d.stream polls
    (streamed.1, .items streamed.2)
  | .setDescriptors table => ({ d with descriptors := table }, .done)
  | .save =>
    match d.save with
    | .ok state => (d, .saved state)
    | .error cause => (d, .error cause)
  | .restore saved =>
    match d.restore saved with
    | .ok d => (d, .done)
    | .error cause => (d, .error cause)
  | .describe => (d, .text d.describe)

end Device

-- A device whose descriptor source has failed is broken: from then on it refuses to work.
inductive Condition where
  | working
  | broken
  | removed
  deriving DecidableEq, Repr

structure System where
  device : Device
  target : Target := .holds
  condition : Condition := .working
  waiting : List Command := []

structure Report where
  system : System
  answer : Answer
  submitted : List Command := []
  events : List Event := []

namespace System

def create (settings : Settings) (location : String) (target : Target) : System :=
  { device := { settings, location }, target }

def submit (s : System) (command : Command) : System :=
  let device := s.device.log
    (.submitting command.generation command.block command.direction command.length)
  let taken := s.target.take
  match taken.2 with
  | none => { s with device, target := taken.1, waiting := s.waiting ++ [command] }
  | some completion =>
    { s with device := device.settle command completion, target := taken.1 }

-- Ends an operation: what it has submitted goes to the target, and what it has to report is told.
def release (s : System) (answer : Answer) : Report :=
  let submitted := s.device.submissions
  let s := submitted.foldl submit { s with device.submissions := [] }
  { system := { s with device.events := [] }, answer, submitted, events := s.device.events }

def pick? (s : System) (index : Nat) : Option (Command × System) :=
  s.waiting[index]?.map fun command => (command, { s with waiting := s.waiting.eraseIdx index })

def complete (s : System) (index : Nat) (completion : Completion) : Report :=
  match s.pick? index with
  | some (command, s) => release { s with device := s.device.settle command completion } .done
  | none => { system := s, answer := .noCommand }

def completeUnheard (s : System) (index : Nat) (completion : Completion) (event : Event) :
    Report :=
  match s.pick? index with
  | some (command, s) =>
    { system := s, answer := .done, events := completion.events command ++ [event] }
  | none => { system := s, answer := .noCommand }

def operate (s : System) (operation : Device.Operation) : Report :=
  match s.device.operate operation with
  | (device, .dispatched .faulted) =>
    release { s with device, condition := .broken } (.dispatched .faulted)
  | (device, answer) => release { s with device } answer

def operateBroken (s : System) : Device.Operation → Report
  | .reset => { system := s, answer := .error .internal, events := [.deviceReset] }
  | .restore saved =>
    match saved.slot with
    | .error flaw => { system := s, answer := .error (.invalidSavedState flaw) }
    | .ok _ => { system := s, answer := .error .internal }
  | .stream polls =>
    { system := s, answer := .items ([.error .internal, .finished].take polls) }
  | .describe => { system := s, answer := .text "MsdDevice" }
  | _ => { system := s, answer := .error .internal }

def perform (s : System) (operation : Operation) : Report :=
  match operation, s.condition with
  | .device operation, .working => s.operate operation
  | .device operation, .broken => s.operateBroken operation
  | .device _, .removed => { system := s, answer := .noDevice }
  | .complete index completion, .working => s.complete index completion
  | .complete index completion, .broken =>
    s.completeUnheard index completion .endedWithBrokenDevice
  | .complete index completion, .removed =>
    s.completeUnheard index completion .endedWithoutDevice
  | .remove, _ => { system := { s with condition := .removed }, answer := .done }

-- An operation that waits while the target ends a command. The device sees the end of the command
-- first. Without that command the operation does not even begin.
def performDuring (s : System) (index : Nat) (completion : Completion)
    (operation : Device.Operation) : Report :=
  match s.condition, s.waiting[index]? with
  | .removed, _ => { system := s, answer := .noDevice }
  | _, none => { system := s, answer := .noCommand }
  | _, some _ =>
    let ended := s.perform (.complete index completion)
    let report := ended.system.perform (.device operation)
    { report with
      submitted := ended.submitted ++ report.submitted
      events := ended.events ++ report.events }

def run (s : System) (operations : List Operation) : System :=
  operations.foldl (fun s operation => (s.perform operation).system) s

end System

end BulkOnly
