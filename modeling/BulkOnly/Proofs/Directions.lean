import BulkOnly.Proofs.Requests

set_option autoImplicit false

namespace BulkOnly

def Direction.bit : Direction → UInt8
  | .toHost => 0x80
  | .toDevice => 0x00

theorem Direction.request_type_parts (requestType : UInt8) (direction : Direction) :
    let turned := requestType &&& 0x7f ||| direction.bit
    turned &&& 0x60 = requestType &&& 0x60 ∧ turned &&& 0x1f = requestType &&& 0x1f ∧
      ofBits turned = direction ∧
      requestType &&& 0x7f ||| (ofBits requestType).bit = requestType := by
  obtain ⟨bits⟩ := requestType
  revert bits
  cases direction <;> decide +kernel

namespace Setup

variable {setup : Setup} {request : ControlRequest}

def directed (setup : Setup) (direction : Direction) : Setup :=
  { setup with requestType := setup.requestType &&& 0x7f ||| direction.bit }

def Names (setup : Setup) (request : ControlRequest) : Prop :=
  ControlRequest.ofSetup? (setup.directed request.direction) = some request

instance (setup : Setup) (request : ControlRequest) : Decidable (setup.Names request) :=
  inferInstanceAs (Decidable (_ = _))

@[simp] theorem typeBits_directed (setup : Setup) (direction : Direction) :
    (setup.directed direction).typeBits = setup.typeBits :=
  (Direction.request_type_parts setup.requestType direction).1

@[simp] theorem recipient_directed (setup : Setup) (direction : Direction) :
    (setup.directed direction).recipient = setup.recipient :=
  (Direction.request_type_parts setup.requestType direction).2.1

@[simp] theorem direction_directed (setup : Setup) (direction : Direction) :
    (setup.directed direction).direction = direction :=
  (Direction.request_type_parts setup.requestType direction).2.2.1

theorem directed_direction (setup : Setup) : setup.directed setup.direction = setup := by
  have same : setup.requestType &&& 0x7f ||| setup.direction.bit = setup.requestType :=
    (Direction.request_type_parts setup.requestType setup.direction).2.2.2
  rw [directed, same]

theorem names_of_known (known : ControlRequest.ofSetup? setup = some request)
    (right : request.direction = setup.direction) : setup.Names request := by
  rw [Names, right, directed_direction]
  exact known

theorem ofClass?_eq_some_iff : ControlRequest.ofClass? setup = some request ↔
    (setup.requestType = 0x21 ∧ setup.request = 0xff ∧ setup.value = 0 ∧ setup.length = 0 ∧
      request = .bulkOnlyReset) ∨
    (setup.requestType = 0xa1 ∧ setup.request = 0xfe ∧ setup.value = 0 ∧ 1 ≤ setup.length ∧
      request = .maxLun) := by
  unfold ControlRequest.ofClass?
  split
  next reset =>
    obtain ⟨requestType, code, value, length⟩ := reset
    simp [requestType, code, value, length, eq_comm]
  next other =>
    split
    next lun =>
      obtain ⟨requestType, code, value, length⟩ := lun
      simp [requestType, code, value, length, eq_comm]
    next => grind

theorem direction_of_class (known : ControlRequest.ofClass? setup = some request) :
    request.direction = setup.direction := by
  rcases ofClass?_eq_some_iff.mp known with
    ⟨requestType, -, -, -, rfl⟩ | ⟨requestType, -, -, -, rfl⟩
  · rw [direction, requestType]
    rfl
  · rw [direction, requestType]
    rfl

theorem class_of_reset (known : ControlRequest.ofSetup? setup = some .bulkOnlyReset) :
    ControlRequest.ofClass? setup = some .bulkOnlyReset := by
  have ofEndpoint : ControlRequest.ofEndpoint? setup ≠ some .bulkOnlyReset := by
    unfold ControlRequest.ofEndpoint?
    cases Pipe.ofAddress? setup.index.toUInt8 with
    | none => nofun
    | some pipe => grind
  unfold ControlRequest.ofSetup? ControlRequest.ofDevice? ControlRequest.ofInterface? at known
  grind

theorem ofSetup?_class (ofClass : setup.typeBits = 0x20) :
    ControlRequest.ofSetup? setup = ControlRequest.ofClass? setup := by
  simp [ControlRequest.ofSetup?, ofClass]

theorem ofSetup?_directed (standard : setup.typeBits ≠ 0x20) (direction : Direction) :
    ControlRequest.ofSetup? (setup.directed direction) = ControlRequest.ofSetup? setup := by
  simp only [ControlRequest.ofSetup?, typeBits_directed, recipient_directed, standard, if_false]
  rfl

theorem Names.unknown_or_known (names : setup.Names request)
    (wrong : setup.direction ≠ request.direction) :
    ControlRequest.ofSetup? setup = none ∨ ControlRequest.ofSetup? setup = some request := by
  by_cases ofClass : setup.typeBits = 0x20
  · left
    have meant : ControlRequest.ofClass? (setup.directed request.direction) = some request := by
      rw [← ofSetup?_class (by rw [typeBits_directed, ofClass])]
      exact names
    rw [ofSetup?_class ofClass, Option.eq_none_iff_forall_ne_some]
    intro other known
    -- The code alone tells the class requests apart.
    have same : other = request := by
      have code : (setup.directed request.direction).request = setup.request := rfl
      rcases ofClass?_eq_some_iff.mp known with ⟨-, here, -, -, rfl⟩ | ⟨-, here, -, -, rfl⟩ <;>
        rcases ofClass?_eq_some_iff.mp meant with ⟨-, there, -, -, rfl⟩ | ⟨-, there, -, -, rfl⟩
      · rfl
      · rw [code, here] at there
        cases there
      · rw [code, here] at there
        cases there
      · rfl
    exact wrong (by rw [← direction_of_class known, same])
  · right
    rw [← ofSetup?_directed ofClass]
    exact names

theorem names_of_misdirected (known : ControlRequest.ofSetup? setup = some request)
    (wrong : request.direction ≠ setup.direction) : setup.Names request := by
  by_cases ofClass : setup.typeBits = 0x20
  · rw [ofSetup?_class ofClass] at known
    exact absurd (direction_of_class known) wrong
  · rw [Names, ofSetup?_directed ofClass]
    exact known

theorem parse?_control (id : Nat) (setup : Setup) (payload : Bytes) :
    parse? (Urb.control id setup payload).payload = some setup := by
  rw [Urb.payload, Urb.control, List.take_length, Urb.controlData]
  exact parse?_encode_append setup _

end Setup

theorem Urb.response_control {setup : Setup} (id : Nat) (toHost : setup.direction = .toHost)
    (payload reply : Bytes) :
    (((Urb.control id setup payload).answered setup reply).finished .ok).response =
      reply.take setup.length.toNat := by
  have room : (Urb.control id setup payload).data.length =
      Setup.encodedLength + setup.length.toNat := by
    simp [control, controlData, toHost]
  have long : Setup.encodedLength ≤ (Urb.control id setup payload).data.length := by omega
  have response := response_answered long setup reply
  rw [room, Nat.add_sub_cancel_left, Nat.min_self] at response
  exact response

namespace Device

variable {d : Device} {address : UInt8} {urb : Urb} {id : Nat} {setup : Setup} {payload : Bytes}

def Denies (d : Device) (address : UInt8) (setup : Setup) (urb : Urb) : Prop :=
  d.dispatch address urb =
    (((d.log (.controlRequest setup)).complain (.unsupportedRequest setup)).stall urb [.control],
      .stalled)

def Untouched (urb : Urb) (d : Device) : Dispatched → Prop
  | .completed => d.done.toList.getLast? = some (urb.finished .ok)
  | .stalled => d.done.toList.getLast? = some (urb.finished .stall)
  | .queued => d.pendingReset = some urb
  | .faulted => False

-- What a host may expect of a control transfer, if its direction bit matters.
structure KeepsDirections (d : Device) (address : UInt8) (id : Nat) (setup : Setup)
    (payload : Bytes) : Prop where
  served : (d.dispatch address (.control id setup payload)).2 = .completed →
    ∃ request, setup.Names request ∧ setup.direction = request.direction
  refused : ∀ request, setup.Names request → setup.direction ≠ request.direction →
    d.Denies address setup (.control id setup payload)
  sent : setup.direction = .toDevice →
    Untouched (.control id setup payload) (d.dispatch address (.control id setup payload)).1
      (d.dispatch address (.control id setup payload)).2
  received : setup.direction = .toHost →
    (d.dispatch address (.control id setup payload)).2 = .completed →
    ∃ request reply returned, setup.Names request ∧ d.reply? request = some reply ∧
      (d.dispatch address (.control id setup payload)).1.done.toList.getLast? = some returned ∧
      returned.response = reply.take setup.length.toNat

theorem dispatch_known {request : ControlRequest}
    (control : Pipe.ofAddress? address = some .control)
    (parsed : Setup.parse? urb.payload = some setup)
    (known : ControlRequest.ofSetup? setup = some request) (d : Device) :
    d.dispatch address urb =
      let served := serve (log { d with halts := d.halts.set .control false }
        (.controlRequest setup)) request setup urb
      served.1.apply served.2 := by
  rw [dispatch, handle_known control parsed known]

theorem denies_unknown (control : Pipe.ofAddress? address = some .control)
    (parsed : Setup.parse? urb.payload = some setup)
    (unknown : ControlRequest.ofSetup? setup = none) : d.Denies address setup urb := by
  unfold Denies dispatch handle
  simp only [control, Device.control, parsed, unknown]
  rfl

theorem denies_lacking {request : ControlRequest}
    (control : Pipe.ofAddress? address = some .control)
    (parsed : Setup.parse? urb.payload = some setup)
    (known : ControlRequest.ofSetup? setup = some request) (lacks : d.Lacks request) :
    d.Denies address setup urb := by
  cases request with
  | descriptor kind index language =>
    have missing : d.descriptors.lookup? kind index language = none := lacks
    rw [Denies, dispatch_known control parsed known]
    simp only [serve, log, missing]
    rfl
  | _ => exact lacks.elim

theorem Denies.keepsDirections (denies : d.Denies address setup (.control id setup payload)) :
    d.KeepsDirections address id setup payload := by
  have dispatched := denies
  unfold Denies at dispatched
  constructor
  case served =>
    rw [dispatched]
    nofun
  case refused => exact fun _ _ _ => denies
  case sent =>
    intro _
    rw [dispatched]
    exact List.getLast?_concat
  case received =>
    rw [dispatched]
    nofun

theorem serve_untouched {request : ControlRequest} (orders : request.direction = .toDevice)
    (d : Device) (setup : Setup) (urb : Urb) :
    let served := d.serve request setup urb
    Untouched urb (served.1.apply served.2).1 (served.1.apply served.2).2 := by
  by_cases reset : request = .bulkOnlyReset
  · rw [reset]
    simp only [serve, bulkOnlyReset]
    split
    · split
      · exact List.getLast?_concat
      · rfl
    · exact List.getLast?_concat
  · intro served
    rcases serve_of_order orders reset d setup urb with completed | ⟨value, reconfigures⟩
    · rw [show served.2 = _ from completed]
      exact List.getLast?_concat
    · rw [show served.2 = _ from reconfigures]
      exact List.getLast?_concat

theorem dispatch_answered {request : ControlRequest} {reply : Bytes}
    (control : Pipe.ofAddress? address = some .control)
    (parsed : Setup.parse? urb.payload = some setup)
    (known : ControlRequest.ofSetup? setup = some request)
    (replies : d.reply? request = some reply) :
    d.dispatch address urb =
      ((log { d with halts := d.halts.set .control false } (.controlRequest setup)).finish
        (urb.answered setup reply) .ok, .completed) := by
  rw [dispatch_known control parsed known]
  simp only [serve_of_reply replies]
  rfl

theorem lacks_of_stalled {request : ControlRequest}
    (control : Pipe.ofAddress? address = some .control)
    (parsed : Setup.parse? urb.payload = some setup)
    (known : ControlRequest.ofSetup? setup = some request) (other : request ≠ .bulkOnlyReset)
    (stalled : (d.dispatch address urb).2 = .stalled) : d.Lacks request := by
  cases direction : request.direction with
  | toDevice =>
    rw [dispatch_known control parsed known] at stalled
    dsimp only at stalled
    rcases serve_of_order direction other (log { d with halts := d.halts.set .control false }
      (.controlRequest setup)) setup urb with completed | ⟨value, reconfigures⟩
    · rw [completed] at stalled
      cases stalled
    · rw [reconfigures] at stalled
      cases stalled
  | toHost =>
    cases replies : d.reply? request with
    | some reply =>
      rw [dispatch_answered control parsed known replies] at stalled
      cases stalled
    | none =>
      rw [dispatch_known control parsed known] at stalled
      dsimp only at stalled
      rcases serve_of_missing direction replies setup urb (.controlRequest setup) with
        failed | ⟨lacks, -⟩
      · rw [failed] at stalled
        cases stalled
      · exact lacks

theorem keepsDirections_of_right {request : ControlRequest}
    (control : Pipe.ofAddress? address = some .control)
    (known : ControlRequest.ofSetup? setup = some request)
    (right : request.direction = setup.direction) :
    d.KeepsDirections address id setup payload := by
  have parsed := Setup.parse?_control id setup payload
  have names := Setup.names_of_known known right
  constructor
  case served => exact fun _ => ⟨request, names, right.symm⟩
  case refused =>
    intro other meant wrong
    rcases meant.unknown_or_known wrong with unknown | same
    · rw [known] at unknown
      cases unknown
    · rw [known] at same
      cases same
      exact absurd right.symm wrong
  case sent =>
    intro toDevice
    rw [dispatch_known control parsed known]
    exact serve_untouched (right.trans toDevice) _ setup _
  case received =>
    intro toHost completed
    cases replies : d.reply? request with
    | some reply =>
      rw [dispatch_answered control parsed known replies]
      refine ⟨request, reply, _, names, replies, List.getLast?_concat, ?_⟩
      exact Urb.response_control id toHost payload reply
    | none =>
      exfalso
      rw [dispatch_known control parsed known] at completed
      dsimp only at completed
      rcases serve_of_missing (right.trans toHost) replies setup (.control id setup payload)
        (.controlRequest setup) with failed | ⟨-, stalled⟩
      · rw [failed] at completed
        cases completed
      · rw [stalled] at completed
        cases completed

theorem keepsDirections_iff (control : Pipe.ofAddress? address = some .control) :
    d.KeepsDirections address id setup payload ↔
      ∀ request, ControlRequest.ofSetup? setup = some request →
        request.direction = setup.direction ∨ d.Lacks request := by
  have parsed := Setup.parse?_control id setup payload
  constructor
  · intro keeps request known
    by_cases right : request.direction = setup.direction
    · exact .inl right
    right
    have other : request ≠ .bulkOnlyReset := by
      rintro rfl
      exact right (Setup.direction_of_class (Setup.class_of_reset known))
    have denies := keeps.refused request (Setup.names_of_misdirected known right)
      (Ne.symm right)
    exact lacks_of_stalled control parsed known other (congrArg Prod.snd denies)
  · intro right
    cases known : ControlRequest.ofSetup? setup with
    | none => exact (denies_unknown control parsed known).keepsDirections
    | some request =>
      rcases right request known with direction | lacks
      · exact keepsDirections_of_right control known direction
      · exact (denies_lacking control parsed known lacks).keepsDirections

def statusToHost : Setup :=
  { requestType := 0x80, request := 0x00, value := 0, index := 0, length := 2 }

theorem keepsDirections_iff_statusToHost :
    Pipe.ofAddress? 0x80 = some .control ∧
      KeepsDirections {} 0x80 1 statusToHost [] := by
  have control : Pipe.ofAddress? 0x80 = some .control := by decide
  refine ⟨control, (keepsDirections_iff control).mpr fun request known => .inl ?_⟩
  have status : ControlRequest.ofSetup? statusToHost = some .deviceStatus := by decide
  rw [status] at known
  cases known
  rfl

def statusToDevice : Setup := statusToHost.directed .toDevice

theorem status_overwrites_payload :
    statusToDevice.Names .deviceStatus ∧ statusToDevice.direction = .toDevice ∧
      (dispatch {} 0x00 (.control 1 statusToDevice [1, 2])).2 = .completed ∧
      (dispatch {} 0x00 (.control 1 statusToDevice [1, 2])).1.done.toList.map Urb.data =
        [statusToDevice.encode ++ [0, 0]] ∧
      ¬ KeepsDirections {} 0x00 1 statusToDevice [1, 2] := by
  have completed : (dispatch {} 0x00 (.control 1 statusToDevice [1, 2])).2 = .completed := by
    decide
  refine ⟨by decide, by decide, completed, by decide, fun keeps => ?_⟩
  have untouched := keeps.sent (by decide)
  rw [completed, Untouched] at untouched
  revert untouched
  decide

end Device

end BulkOnly
