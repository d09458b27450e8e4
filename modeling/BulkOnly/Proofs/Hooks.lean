import BulkOnly.Proofs.ControlEffects
import BulkOnly.Proofs.Issues
import BulkOnly.Proofs.Restart

set_option autoImplicit false

namespace BulkOnly

structure Setup.Selects (setup : Setup) (value : UInt8) : Prop where
  requestType : setup.requestType = 0x00
  request : setup.request = 0x09
  value : setup.value.toUInt8 = value

structure Setup.ClearsHalt (setup : Setup) (endpoint : UInt8) : Prop where
  requestType : setup.requestType = 0x02
  request : setup.request = 0x01
  value : setup.value = 0
  index : setup.index.toUInt8 = endpoint

theorem Setup.Selects.ofSetup? {setup : Setup} {value : UInt8} (selects : setup.Selects value) :
    ControlRequest.ofSetup? setup = some (.configure value) := by
  obtain ⟨requestType, request, rfl⟩ := selects
  have standard : setup.typeBits = 0x00 := by rw [Setup.typeBits, requestType]; rfl
  have recipient : setup.recipient = 0 := by rw [Setup.recipient, requestType]; rfl
  exact Setup.ofSetup?_configure ⟨standard, recipient, request⟩

theorem Setup.ClearsHalt.ofSetup? {setup : Setup} {endpoint : UInt8} {pipe : Pipe}
    (clears : setup.ClearsHalt endpoint) (named : Pipe.ofAddress? endpoint = some pipe) :
    ControlRequest.ofSetup? setup = some (.haltFeature pipe endpoint false) := by
  obtain ⟨requestType, request, value, rfl⟩ := clears
  have standard : setup.typeBits = 0x00 := by rw [Setup.typeBits, requestType]; rfl
  have recipient : setup.recipient = 2 := by rw [Setup.recipient, requestType]; rfl
  rw [Setup.ofSetup?_haltFeature ⟨standard, recipient, .inl request, value⟩, named, request]
  rfl

namespace Device

variable {d : Device} {urb : Urb} {address : UInt8}

def withServed (d : Device) (urb : Urb) : Device :=
  { d with
    halts := d.halts.set .control false
    done := d.done.append (urb.finished .ok) }

-- A reset clears all halts, so it does not matter how they were before it.
theorem resetAs_told (d : Device) (kind : Reset) (halts : Halts) (events : List Event) :
    ∃ events', resetAs { d with halts, events } kind =
      { d.resetAs kind with events := events' } := by
  unfold resetAs
  cases slot : d.slot with
  | executing generation => exact ⟨_, by simp [abandon, slot, finishReset_eq, log]; rfl⟩
  | vacant | held _ _ => exact ⟨_, by simp [abandon, slot, finishReset_eq]; rfl⟩

theorem halts_resetAs (d : Device) (kind : Reset) : (d.resetAs kind).halts = {} := by
  rw [resetAs, finishReset_eq]

theorem dispatch_configure {value : UInt8} (requests : urb.Requests address (.configure value)) :
    ∃ events, d.dispatch address urb =
      ({ (d.setConfiguration value).withServed urb with events }, .completed) := by
  obtain ⟨setup, handled⟩ := handle_request requests d
  unfold dispatch
  rw [handled]
  rcases eq_or_ne value d.configuration with rfl | other
  · obtain ⟨events, reset⟩ := resetAs_told d (.configuration d.configuration)
      (d.halts.set .control false) (d.events ++ [.controlRequest setup])
    have running : (d.resetAs (.configuration d.configuration)).halts.set .control false =
        (d.resetAs (.configuration d.configuration)).halts := by
      rw [halts_resetAs]
      rfl
    refine ⟨events, ?_⟩
    simp only [serve, log, if_true, apply, setConfiguration, withServed, finish]
    rw [reset, running]
  · refine ⟨d.events ++ [.controlRequest setup] ++ [.configured value], ?_⟩
    simp only [serve, log, other, if_false, apply, setConfiguration, withServed, finish, other.symm]

theorem dispatch_clearHalt {endpoint : UInt8} {pipe : Pipe}
    (named : Pipe.ofAddress? endpoint = some pipe)
    (requests : urb.Requests address (.haltFeature pipe endpoint false)) :
    ∃ events, d.dispatch address urb =
      ({ (d.clearHalt endpoint).withServed urb with events }, .completed) := by
  obtain ⟨setup, handled⟩ := handle_request requests d
  have order : (d.halts.set .control false).set pipe false =
      (d.halts.set pipe false).set .control false := by
    cases pipe <;> rfl
  refine ⟨d.events ++ [.controlRequest setup] ++ [.haltFeature endpoint false], ?_⟩
  unfold dispatch
  rw [handled]
  simp only [serve, log, apply, clearHalt, named, withServed, finish, order]

theorem submissions_setConfiguration (d : Device) (value : UInt8) :
    (d.setConfiguration value).submissions = d.submissions := by
  unfold setConfiguration
  split
  · exact resetAs_submissions d _
  · rfl

theorem submissions_clearHalt (d : Device) (endpoint : UInt8) :
    (d.clearHalt endpoint).submissions = d.submissions := by
  unfold clearHalt
  split <;> rfl

end Device

namespace System

open Device

variable {s : System} {urb : Urb} {address : UInt8}

def withServed (s : System) (urb : Urb) : System := { s with device := s.device.withServed urb }

structure ActsAs (s : System) (address : UInt8) (urb : Urb) (operation : Device.Operation) :
    Prop where
  answer (target : Target) :
    (s.turn ⟨.device (.dispatch address urb), target⟩).answer = .dispatched .completed
  submitted (target : Target) :
    (s.turn ⟨.device (.dispatch address urb), target⟩).submitted =
      (s.turn ⟨.device operation, target⟩).submitted
  system (target : Target) :
    (s.turn ⟨.device (.dispatch address urb), target⟩).system =
      (s.turn ⟨.device operation, target⟩).system.withServed urb

theorem actsAs_of_dispatch (reached : s.Reached) {operation : Device.Operation}
    (quiet : (s.device.operate operation).1.submissions = s.device.submissions)
    (fine : (s.device.operate operation).2 ≠ .dispatched .faulted)
    (dispatched : ∃ events, s.device.dispatch address urb =
      ({ (s.device.operate operation).1.withServed urb with events }, .completed)) :
    s.ActsAs address urb operation := by
  have working := reached.working
  have nothing := quiet.trans reached.released
  obtain ⟨events, dispatched⟩ := dispatched
  have returns : (s.device.dispatch address urb).2 ≠ .faulted := by rw [dispatched]; nofun
  have silent : (s.device.dispatch address urb).1.submissions = [] := by
    rw [dispatched]
    exact nothing
  have asked := turn_dispatch working returns silent
  have hooked := turn_operation working fine nothing
  rw [dispatched] at asked
  refine ⟨fun target => ?_, fun target => ?_, fun target => ?_⟩
  · rw [asked]
  · rw [asked, hooked]
  · rw [asked, hooked]
    rfl

theorem requests_act_as_hooks (reached : s.Reached)
    (control : Pipe.ofAddress? address = some .control) {setup : Setup}
    (parsed : Setup.parse? urb.payload = some setup) :
    (∀ value, setup.Selects value → s.ActsAs address urb (.setConfiguration value)) ∧
      ∀ endpoint, (Pipe.ofAddress? endpoint).isSome → setup.ClearsHalt endpoint →
        s.ActsAs address urb (.clearHalt endpoint) := by
  refine ⟨fun value selects => ?_, fun endpoint known clears => ?_⟩
  · have requests : urb.Requests address (.configure value) :=
      ⟨control, by rw [parsed]; exact selects.ofSetup?⟩
    exact actsAs_of_dispatch reached (submissions_setConfiguration s.device value) nofun
      (dispatch_configure requests)
  · obtain ⟨pipe, named⟩ := Option.isSome_iff_exists.mp known
    have requests : urb.Requests address (.haltFeature pipe endpoint false) :=
      ⟨control, by rw [parsed]; exact clears.ofSetup? named⟩
    exact actsAs_of_dispatch reached (submissions_clearHalt s.device endpoint) nofun
      (dispatch_clearHalt named requests)

def clearBulkIn : Setup :=
  { requestType := 0x02, request := 0x01, value := 0, index := 0x81, length := 0 }

theorem requests_act_as_hooks_readAndResetWait :
    ((create {} "lun0" .holds).play readAndResetWait).Reached ∧ selectAnew.Selects 0 ∧
      clearBulkIn.ClearsHalt 0x81 ∧
      ((create {} "lun0" .holds).play readAndResetWait).ActsAs 0x00 (.control 4 selectAnew [])
        (.setConfiguration 0) ∧
      ((create {} "lun0" .holds).play readAndResetWait).ActsAs 0x80 (.control 4 clearBulkIn [])
        (.clearHalt 0x81) := by
  have reached : ((create {} "lun0" .holds).play readAndResetWait).Reached :=
    ⟨{}, "lun0", .holds, readAndResetWait, rfl, by decide⟩
  have selects : selectAnew.Selects 0 := ⟨rfl, rfl, rfl⟩
  have clears : clearBulkIn.ClearsHalt 0x81 := ⟨rfl, rfl, rfl, rfl⟩
  have selecting : Setup.parse? (Urb.control 4 selectAnew []).payload = some selectAnew := by decide
  have clearing : Setup.parse? (Urb.control 4 clearBulkIn []).payload = some clearBulkIn := by
    decide
  have zero : Pipe.ofAddress? 0x00 = some .control := by decide
  have zeroIn : Pipe.ofAddress? 0x80 = some .control := by decide
  obtain ⟨configuration, -⟩ := requests_act_as_hooks reached zero selecting
  obtain ⟨-, halt⟩ := requests_act_as_hooks reached zeroIn clearing
  exact ⟨reached, selects, clears, configuration 0 selects, halt 0x81 (by decide) clears⟩

end System

end BulkOnly
