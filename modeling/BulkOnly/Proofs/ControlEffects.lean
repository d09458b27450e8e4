import BulkOnly.Proofs.Directions
import BulkOnly.Proofs.Reset

set_option autoImplicit false

namespace BulkOnly

namespace Setup

variable {setup : Setup}

def AsksForReset (setup : Setup) : Prop :=
  setup.requestType = 0x21 ∧ setup.request = 0xff ∧ setup.value = 0 ∧ setup.length = 0

def SetsConfiguration (setup : Setup) : Prop :=
  setup.typeBits = 0x00 ∧ setup.recipient = 0 ∧ setup.request = 0x09

def ChangesHalt (setup : Setup) : Prop :=
  setup.typeBits = 0x00 ∧ setup.recipient = 2 ∧
    (setup.request = 0x01 ∨ setup.request = 0x03) ∧ setup.value = 0

def HaltsControl (setup : Setup) : Prop :=
  setup.ChangesHalt ∧ setup.request = 0x03 ∧
    Pipe.ofAddress? setup.index.toUInt8 = some .control

-- The halts that a request for another halt leaves. Like every request it ends a halt of the
-- control pipe first, and it is stalled if its index names no pipe.
def haltsAfter (setup : Setup) (halts : Halts) : Halts :=
  match Pipe.ofAddress? setup.index.toUInt8 with
  | some pipe => (halts.set .control false).set pipe (setup.request = 0x03)
  | none => { halts with control := true }

def AsksForHalt (setup : Setup) : Prop :=
  setup.typeBits = 0x00 ∧ setup.recipient = 2 ∧ setup.request = 0x00

instance (setup : Setup) : Decidable setup.AsksForReset :=
  inferInstanceAs (Decidable (_ ∧ _ ∧ _ ∧ _))

instance (setup : Setup) : Decidable setup.SetsConfiguration :=
  inferInstanceAs (Decidable (_ ∧ _ ∧ _))

instance (setup : Setup) : Decidable setup.ChangesHalt :=
  inferInstanceAs (Decidable (_ ∧ _ ∧ (_ ∨ _) ∧ _))

theorem asksForReset_of_known (known : ControlRequest.ofSetup? setup = some .bulkOnlyReset) :
    setup.AsksForReset := by
  rcases ofClass?_eq_some_iff.mp (class_of_reset known) with
    ⟨requestType, code, value, length, -⟩ | ⟨-, -, -, -, lun⟩
  · exact ⟨requestType, code, value, length⟩
  · cases lun

theorem setsConfiguration_of_known {value : UInt8}
    (known : ControlRequest.ofSetup? setup = some (.configure value)) :
    setup.SetsConfiguration := by
  have ofEndpoint : ControlRequest.ofEndpoint? setup ≠ some (.configure value) := by
    unfold ControlRequest.ofEndpoint?
    cases Pipe.ofAddress? setup.index.toUInt8 with
    | none => nofun
    | some pipe => grind
  unfold ControlRequest.ofSetup? ControlRequest.ofClass? ControlRequest.ofDevice?
    ControlRequest.ofInterface? at known
  unfold SetsConfiguration
  grind

theorem ofSetup?_configure (sets : setup.SetsConfiguration) :
    ControlRequest.ofSetup? setup = some (.configure setup.value.toUInt8) := by
  obtain ⟨standard, recipient, code⟩ := sets
  simp [ControlRequest.ofSetup?, ControlRequest.ofDevice?, standard, recipient, code]

theorem ofSetup?_endpoint (standard : setup.typeBits = 0x00) (recipient : setup.recipient = 2) :
    ControlRequest.ofSetup? setup = ControlRequest.ofEndpoint? setup := by
  simp [ControlRequest.ofSetup?, standard, recipient]

theorem ofSetup?_haltFeature (changes : setup.ChangesHalt) :
    ControlRequest.ofSetup? setup = (Pipe.ofAddress? setup.index.toUInt8).map fun pipe =>
      .haltFeature pipe setup.index.toUInt8 (setup.request = 0x03) := by
  obtain ⟨standard, recipient, code, value⟩ := changes
  rw [ofSetup?_endpoint standard recipient, ControlRequest.ofEndpoint?]
  cases Pipe.ofAddress? setup.index.toUInt8 with
  | none => rfl
  | some pipe => rcases code with code | code <;> simp [code, value]

theorem ofSetup?_haltStatus (asks : setup.AsksForHalt) :
    ControlRequest.ofSetup? setup =
      (Pipe.ofAddress? setup.index.toUInt8).map .haltStatus := by
  obtain ⟨standard, recipient, code⟩ := asks
  rw [ofSetup?_endpoint standard recipient, ControlRequest.ofEndpoint?]
  cases Pipe.ofAddress? setup.index.toUInt8 <;> simp [code]

theorem changesHalt_of_known {pipe : Pipe} {address : UInt8} {halt : Bool}
    (known : ControlRequest.ofSetup? setup = some (.haltFeature pipe address halt)) :
    setup.ChangesHalt ∧ Pipe.ofAddress? setup.index.toUInt8 = some pipe ∧
      (halt = true ↔ setup.request = 0x03) := by
  have ofEndpoint
      (same : ControlRequest.ofEndpoint? setup = some (.haltFeature pipe address halt)) :
      (setup.request = 0x01 ∨ setup.request = 0x03) ∧ setup.value = 0 ∧
        Pipe.ofAddress? setup.index.toUInt8 = some pipe ∧ (halt = true ↔ setup.request = 0x03) := by
    unfold ControlRequest.ofEndpoint? at same
    cases found : Pipe.ofAddress? setup.index.toUInt8 with
    | none => simp [found] at same
    | some pipe =>
      rw [found, Option.bind_some] at same
      grind
  have standard : setup.typeBits = 0x00 ∧ setup.recipient = 2 ∧
      ControlRequest.ofEndpoint? setup = some (.haltFeature pipe address halt) := by
    unfold ControlRequest.ofSetup? ControlRequest.ofClass? ControlRequest.ofDevice?
      ControlRequest.ofInterface? at known
    grind
  obtain ⟨typeBits, recipient, same⟩ := standard
  obtain ⟨code, value, found, halts⟩ := ofEndpoint same
  exact ⟨⟨typeBits, recipient, code, value⟩, found, halts⟩

end Setup

namespace Device

variable {d : Device} {address : UInt8} {urb : Urb} {setup : Setup}

-- Everything that is not named is as it was before.
structure OnlyChanges (d : Device) (halts : Halts) (configuration : UInt8) (returned : List Urb)
    (e : Device) : Prop where
  rest : e = { d with
    halts
    configuration
    done := ⟨d.done.toList ++ returned⟩
    statistics.stalls := e.statistics.stalls
    limiter := e.limiter
    events := e.events }

def Comes (d : Device) (urb : Urb) (halts : Halts) (configuration : UInt8)
    (applied : Device × Dispatched) : Prop :=
  ∃ returned, d.OnlyChanges halts configuration returned applied.1 ∧
    (applied.2 ≠ .faulted → returned.map Urb.id = [urb.id])

theorem comes_completed {moved : Urb} (same : moved.id = urb.id) (d : Device) (halts : Halts)
    (configuration : UInt8) (limiter : Limiter) (events : List Event) :
    d.Comes urb halts configuration
      (apply { d with halts, configuration, limiter, events } (.complete moved)) :=
  ⟨[moved.finished .ok], ⟨rfl⟩, fun _ => congrArg (fun id => [id]) same⟩

theorem comes_stalled (d : Device) (urb : Urb) (halts : Halts) (limiter : Limiter)
    (events : List Event) :
    d.Comes urb { halts with control := true } d.configuration
      (apply { d with halts, limiter, events } (.stall urb [.control])) :=
  ⟨[urb.finished .stall], ⟨rfl⟩, fun _ => rfl⟩

def Ordinary (d : Device) (urb : Urb) : Prop :=
  ∀ setup ∈ Setup.parse? urb.payload, ¬ setup.SetsConfiguration ∧ ¬ setup.ChangesHalt ∧
    (setup.AsksForReset → d.slot.isExecuting = true ∧ d.pendingReset.isSome = true)

instance (d : Device) (urb : Urb) : Decidable (d.Ordinary urb) :=
  inferInstanceAs (Decidable (∀ setup ∈ Setup.parse? urb.payload, ¬ _ ∧ ¬ _ ∧ (_ → _ ∧ _)))

theorem serve_ordinary {request : ControlRequest}
    (configures : ∀ value, request ≠ .configure value)
    (changesHalt : ∀ pipe address halt, request ≠ .haltFeature pipe address halt)
    (resets : request = .bulkOnlyReset → d.slot.isExecuting = true ∧ d.pendingReset.isSome = true)
    (setup : Setup) (urb : Urb) (event : Event) :
    let served := serve (log { d with halts := d.halts.set .control false } event) request setup urb
    let applied := served.1.apply served.2
    d.Comes urb { d.halts with control := applied.1.halts.control } d.configuration applied := by
  cases request with
  | configure value => exact absurd rfl (configures value)
  | haltFeature pipe address halt => exact absurd rfl (changesHalt pipe address halt)
  | bulkOnlyReset =>
    obtain ⟨executing, waits⟩ := resets rfl
    simp only [serve, bulkOnlyReset, log, executing, waits, if_true]
    exact comes_stalled d urb (d.halts.set .control false) _ _
  | descriptor kind index language =>
    simp only [serve]
    split
    · exact comes_completed rfl d (d.halts.set .control false) _ _ _
    · exact ⟨[], ⟨by simp [apply, log, Halts.set]⟩, fun fine => absurd rfl fine⟩
    · exact comes_stalled d urb (d.halts.set .control false) _ _
  | maxLun | deviceStatus | haltStatus _ | remoteWakeup | configuration | interface
  | selectInterface => exact comes_completed rfl d (d.halts.set .control false) _ _ _

theorem dispatch_ordinary (control : Pipe.ofAddress? address = some .control)
    (ordinary : d.Ordinary urb) :
    d.Comes urb { d.halts with control := (d.dispatch address urb).1.halts.control }
      d.configuration (d.dispatch address urb) := by
  cases parsed : Setup.parse? urb.payload with
  | none =>
    simp only [dispatch, handle, control, Device.control, parsed]
    exact comes_stalled d urb (d.halts.set .control false) _ _
  | some setup =>
    cases known : ControlRequest.ofSetup? setup with
    | none =>
      rw [show d.dispatch address urb = _ from denies_unknown control parsed known]
      exact comes_stalled d urb d.halts _ _
    | some request =>
      obtain ⟨configures, changesHalt, resets⟩ := ordinary setup parsed
      rw [dispatch_known control parsed known]
      refine serve_ordinary ?_ ?_ ?_ setup urb _
      · rintro value rfl
        exact configures (Setup.setsConfiguration_of_known known)
      · rintro pipe index halt rfl
        exact changesHalt (Setup.changesHalt_of_known known).1
      · rintro rfl
        exact resets (Setup.asksForReset_of_known known)

theorem dispatch_haltFeature (control : Pipe.ofAddress? address = some .control)
    (parsed : Setup.parse? urb.payload = some setup) (changes : setup.ChangesHalt) (d : Device) :
    d.Comes urb (setup.haltsAfter d.halts) d.configuration (d.dispatch address urb) := by
  have known := Setup.ofSetup?_haltFeature changes
  rw [Setup.haltsAfter]
  cases named : Pipe.ofAddress? setup.index.toUInt8 with
  | none =>
    rw [named] at known
    rw [show d.dispatch address urb = _ from denies_unknown control parsed known]
    exact comes_stalled d urb d.halts _ _
  | some pipe =>
    rw [named] at known
    rw [dispatch_known control parsed known]
    exact comes_completed rfl d _ _ _ _

theorem dispatch_newConfiguration (control : Pipe.ofAddress? address = some .control)
    (parsed : Setup.parse? urb.payload = some setup) (sets : setup.SetsConfiguration)
    (other : setup.value.toUInt8 ≠ d.configuration) :
    d.Comes urb (d.halts.set .control false) setup.value.toUInt8 (d.dispatch address urb) := by
  rw [dispatch_known control parsed (Setup.ofSetup?_configure sets)]
  simp only [serve]
  split
  next active => exact absurd active other
  next => exact comes_completed rfl d (d.halts.set .control false) _ _ _

theorem serve_control_halted {e : Device} (running : e.halts.control = false)
    (request : ControlRequest) (setup : Setup) (urb : Urb) :
    let applied := (e.serve request setup urb).1.apply (e.serve request setup urb).2
    applied.1.halts.control = true ↔
      applied.2 = .stalled ∨ ∃ address, request = .haltFeature .control address true := by
  cases request with
  | bulkOnlyReset =>
    simp only [serve, bulkOnlyReset]
    split
    · split
      · simp [apply, Device.stall, finish, Halts.raise, Halts.set]
      · simp [apply, log, running]
    · simp [apply, finish, finishReset_eq]
  | descriptor kind index language =>
    simp only [serve]
    split
    · simp [apply, finish, running]
    · simp [apply, running]
    · simp [refuse, apply, Device.stall, finish, Halts.raise, Halts.set]
  | configure value =>
    simp only [serve]
    split
    · simp [apply, finish, resetAs, finishReset_eq]
    · simp [apply, finish, log, running]
  | haltFeature pipe address halt =>
    cases pipe <;> simp [serve, apply, finish, log, Halts.set, running]
  | maxLun | deviceStatus | haltStatus _ | remoteWakeup | configuration | interface
  | selectInterface => simp [serve, apply, finish, running]

theorem dispatch_control_halted (control : Pipe.ofAddress? address = some .control) (d : Device)
    (urb : Urb) :
    (d.dispatch address urb).1.halts.control = true ↔
      (d.dispatch address urb).2 = .stalled ∨
        ∃ setup, Setup.parse? urb.payload = some setup ∧ setup.HaltsControl := by
  cases parsed : Setup.parse? urb.payload with
  | none =>
    simp [dispatch, handle, control, Device.control, parsed, apply, Device.stall, finish,
      Halts.raise, Halts.set]
  | some setup =>
    cases known : ControlRequest.ofSetup? setup with
    | none =>
      rw [show d.dispatch address urb = _ from denies_unknown control parsed known]
      simp [Device.stall, finish, Halts.raise, Halts.set]
    | some request =>
      have halted := serve_control_halted
        (e := log { d with halts := d.halts.set .control false } (.controlRequest setup)) rfl
        request setup urb
      rw [dispatch_known control parsed known]
      refine halted.trans (or_congr_right ?_)
      constructor
      · rintro ⟨index, rfl⟩
        obtain ⟨changes, named, halts⟩ := Setup.changesHalt_of_known known
        exact ⟨setup, rfl, changes, halts.mp rfl, named⟩
      · rintro ⟨other, same, changes, code, named⟩
        cases same
        rw [Setup.ofSetup?_haltFeature changes, named] at known
        exact ⟨setup.index.toUInt8, by simpa [code, eq_comm] using known⟩

theorem dispatch_status (control : Pipe.ofAddress? address = some .control)
    (parsed : Setup.parse? urb.payload = some setup) (asks : setup.AsksForHalt) {pipe : Pipe}
    (named : Pipe.ofAddress? setup.index.toUInt8 = some pipe) (d : Device) :
    ∃ moved, d.dispatch address urb =
        ((log { d with halts := d.halts.set .control false } (.controlRequest setup)).finish moved
          .ok, .completed) ∧
      moved.id = urb.id ∧
      moved.response =
        [if (d.dispatch address urb).1.halts.isHalted setup.index.toUInt8 then 1 else 0, 0].take
          (min (urb.data.length - Setup.encodedLength) setup.length.toNat) := by
  have known := Setup.ofSetup?_haltStatus asks
  rw [named] at known
  have dispatched := dispatch_answered (d := d) control parsed known rfl
  refine ⟨_, dispatched, rfl, ?_⟩
  rw [dispatched, Urb.response_answered (Urb.length_data_of_parse? parsed)]
  simp [Halts.isHalted, named, finish, log]

end Device

end BulkOnly
