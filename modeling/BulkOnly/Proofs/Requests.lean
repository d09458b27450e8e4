import BulkOnly.Device.Dispatch

set_option autoImplicit false

namespace BulkOnly

def ControlRequest.direction : ControlRequest → Direction
  | .maxLun | .deviceStatus | .haltStatus _ | .descriptor .. | .configuration | .interface =>
    .toHost
  | .bulkOnlyReset | .haltFeature .. | .remoteWakeup | .configure _ | .selectInterface =>
    .toDevice

-- The transfer goes to the control pipe, and its setup packet names the request.
structure Urb.Requests (urb : Urb) (address : UInt8) (request : ControlRequest) : Prop where
  reaches : Pipe.ofAddress? address = some .control
  asks : (Setup.parse? urb.payload).bind ControlRequest.ofSetup? = some request

namespace Device

variable {urb : Urb} {address : UInt8} {d : Device}

theorem handle_known {setup : Setup} {request : ControlRequest}
    (reaches : Pipe.ofAddress? address = some .control)
    (parsed : Setup.parse? urb.payload = some setup)
    (known : ControlRequest.ofSetup? setup = some request) (d : Device) :
    d.handle address urb =
      serve (log { d with halts := d.halts.set .control false } (.controlRequest setup)) request
        setup urb := by
  simp only [handle, reaches, control, parsed, known]

theorem handle_request {request : ControlRequest} (requests : urb.Requests address request)
    (d : Device) :
    ∃ setup, d.handle address urb =
      serve (log { d with halts := d.halts.set .control false } (.controlRequest setup)) request
        setup urb := by
  obtain ⟨setup, parsed, known⟩ := Option.bind_eq_some_iff.mp requests.asks
  exact ⟨setup, handle_known requests.reaches parsed known d⟩

theorem handle_reset_idle (requests : urb.Requests address .bulkOnlyReset)
    (idle : d.slot.isExecuting = false) :
    ∃ events, d.handle address urb =
      (finishReset { d with halts := d.halts.set .control false, events } .bulkOnly,
        .complete urb) := by
  obtain ⟨setup, handled⟩ := handle_request requests d
  refine ⟨d.events ++ [.controlRequest setup] ++ [.bulkOnlyReset], ?_⟩
  simp [handled, serve, bulkOnlyReset, log, idle]

theorem handle_reset_executing (requests : urb.Requests address .bulkOnlyReset)
    (executing : d.slot.isExecuting = true) (nothing : d.pendingReset = none) :
    ∃ events, d.handle address urb =
      ({ d with halts := d.halts.set .control false, events }, .hold urb) := by
  obtain ⟨setup, handled⟩ := handle_request requests d
  refine ⟨d.events ++ [.controlRequest setup] ++ [.bulkOnlyReset] ++ [.resetDeferred], ?_⟩
  simp [handled, serve, bulkOnlyReset, log, executing, nothing]

def reply? (d : Device) : ControlRequest → Option Bytes
  | .maxLun | .interface => some [0]
  | .deviceStatus => some [0, 0]
  | .haltStatus pipe => some [if (d.halts.set .control false).get pipe then 1 else 0, 0]
  | .descriptor kind index language =>
    match d.descriptors.lookup? kind index language with
    | some (.found data) => some data
    | some .fault | none => none
  | .configuration => some [d.configuration]
  | .bulkOnlyReset | .haltFeature .. | .remoteWakeup | .configure _ | .selectInterface => none

theorem serve_of_reply {request : ControlRequest} {reply : Bytes}
    (replies : d.reply? request = some reply) (setup : Setup) (urb : Urb) (event : Event) :
    serve (log { d with halts := d.halts.set .control false } event) request setup urb =
      (log { d with halts := d.halts.set .control false } event,
        .complete (urb.answered setup reply)) := by
  cases request with
  | bulkOnlyReset | haltFeature _ _ _ | remoteWakeup | configure _ | selectInterface =>
    cases replies
  | maxLun | deviceStatus | haltStatus _ | configuration | interface =>
    cases replies
    rfl
  | descriptor kind index language =>
    cases found : d.descriptors.lookup? kind index language with
    | none => simp [reply?, found] at replies
    | some descriptor =>
      cases descriptor with
      | fault => simp [reply?, found] at replies
      | found data =>
        have same : data = reply := by simpa [reply?, found] using replies
        simp [serve, log, found, same]

def Lacks (d : Device) : ControlRequest → Prop
  | .descriptor kind index language => d.descriptors.lookup? kind index language = none
  | _ => False

theorem serve_of_missing {request : ControlRequest} (asks : request.direction = .toHost)
    (missing : d.reply? request = none) (setup : Setup) (urb : Urb) (event : Event) :
    let served := serve (log { d with halts := d.halts.set .control false } event) request setup urb
    served.2 = .fault ∨ d.Lacks request ∧ served.2 = .stall urb [.control] := by
  cases request with
  | bulkOnlyReset | haltFeature _ _ _ | remoteWakeup | configure _ | selectInterface => cases asks
  | maxLun | deviceStatus | haltStatus _ | configuration | interface => cases missing
  | descriptor kind index language =>
    cases found : d.descriptors.lookup? kind index language with
    | none => exact .inr ⟨found, by simp [serve, log, found, refuse]⟩
    | some descriptor =>
      cases descriptor with
      | fault => exact .inl (by simp [serve, log, found])
      | found data => simp [reply?, found] at missing

theorem serve_of_order {request : ControlRequest} (orders : request.direction = .toDevice)
    (other : request ≠ .bulkOnlyReset) (d : Device) (setup : Setup) (urb : Urb) :
    (d.serve request setup urb).2 = .complete urb ∨
      ∃ value, (d.serve request setup urb).2 = .reconfigure urb value := by
  cases request with
  | bulkOnlyReset => exact absurd rfl other
  | maxLun | deviceStatus | haltStatus _ | descriptor _ _ _ | configuration | interface =>
    cases orders
  | haltFeature _ _ _ | remoteWakeup | selectInterface => exact .inl rfl
  | configure value =>
    by_cases active : value = d.configuration
    · exact .inr ⟨value, by simp [serve, active]⟩
    · exact .inl (by simp [serve, active])

end Device

namespace Setup

theorem length_of_parse? {data : Bytes} {setup : Setup} (parsed : parse? data = some setup) :
    encodedLength ≤ data.length := by
  unfold parse? at parsed
  split at parsed
  · cases parsed
  next long => exact Nat.not_lt.mp long

end Setup

namespace Urb

variable {urb : Urb} {setup : Setup}

theorem length_data_of_parse? (parsed : Setup.parse? urb.payload = some setup) :
    Setup.encodedLength ≤ urb.data.length := by
  have long := Setup.length_of_parse? parsed
  rw [length_payload, requested] at long
  omega

theorem response_answered (long : Setup.encodedLength ≤ urb.data.length) (setup : Setup)
    (answer : Bytes) :
    (urb.answered setup answer).response =
      answer.take (min (urb.data.length - Setup.encodedLength) setup.length.toNat) := by
  simp only [response, payload, answered]
  rw [List.drop_take, Bytes.drop_overwrite long, Nat.add_sub_cancel_left, List.take_left]

end Urb

end BulkOnly
