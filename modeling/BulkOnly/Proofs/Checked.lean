import BulkOnly.Proofs.Access

set_option autoImplicit false

namespace BulkOnly

theorem Slot.Sound.wellFormed {slot : Slot} (sound : slot.Sound) {phase : Phase} {t : Transaction}
    (held : slot = .held phase t) : t.WellFormed := by
  rcases sound phase t held with opened | ⟨-, rfl⟩
  · exact opened.wellFormed
  · exact Transaction.wellFormed_empty

namespace Device

variable {d : Device} {t : Transaction} {urb : Urb}

-- Only the local answer touches bytes.
def startCommand? (d : Device) (t : Transaction) (length : Nat) : Option Device :=
  if t.asksForSense then do
    let answered ← Checked.answeredSense t
    some (log { d with slot := .held answered.phaseAfter answered } (.senseAnswered t.wrapper.tag))
  else some (d.startCommand t length)

theorem startCommand?_eq (well : t.WellFormed) (length : Nat) :
    d.startCommand? t length = some (d.startCommand t length) := by
  unfold startCommand?
  split
  next asks =>
    rw [Checked.answeredSense_eq well, startCommand, if_pos asks]
    rfl
  next => rfl

def receiveCommand? (d : Device) (t : Transaction) (urb : Urb) : Option (Device × Disposition) := do
  let bytes ← Checked.payload urb
  match ← Checked.commandWrapper bytes with
  | .error reason => some (d.complain (.badWrapper reason), .stall urb [.bulkOut])
  | .ok wrapper =>
    if d.settings.maxTransferLength < wrapper.transferLength then
      some (d.complain (.longTransfer wrapper.transferLength d.settings.maxTransferLength),
        .stall urb [.bulkOut])
    else if !d.makesRoom wrapper.transferLength then
      some (log { d with slot := .held .ready t } (.outOfMemory wrapper.transferLength),
        .stall urb [.bulkIn, .bulkOut])
    else
      let d := d.log (.commandAccepted wrapper)
      if wrapper.direction = .toDevice ∧ wrapper.transferLength ≠ 0 then
        some ({ d with slot := .held .dataFromHost (t.opened wrapper) }, .complete urb)
      else do
        let d ← d.startCommand? (t.opened wrapper) wrapper.transferLength.toNat
        some (d, .complete urb)

theorem receiveCommand?_eq (d : Device) (t : Transaction) (urb : Urb) :
    d.receiveCommand? t urb = some (d.receiveCommand t urb) := by
  unfold receiveCommand? receiveCommand
  rw [Checked.payload_eq, Option.bind_eq_bind, Option.bind_some, Checked.commandWrapper_eq,
    Option.bind_eq_bind, Option.bind_some]
  cases CommandWrapper.parse urb.payload with
  | error reason => rfl
  | ok wrapper =>
    dsimp only
    split
    · rfl
    split
    · rfl
    split
    · rfl
    · rw [startCommand?_eq (t.wellFormed_opened wrapper)]
      rfl

def receiveData? (d : Device) (t : Transaction) (urb : Urb) : Option (Device × Disposition) := do
  let bytes ← Checked.payload urb
  match ← Checked.received t bytes with
  | none => some (d.complain (.overrun urb.len t.offset t.declared), .stall urb [.bulkOut])
  | some next =>
    if next.isComplete then do
      let d ← d.startCommand? next next.declared
      some (d, .complete urb)
    else some ({ d with slot := .held .dataFromHost next }, .complete urb)

theorem receiveData?_eq (well : t.WellFormed) (addressable : urb.Addressable) :
    d.receiveData? t urb = some (d.receiveData t urb) := by
  have short : urb.payload.length < 2 ^ 63 := by
    rw [urb.length_payload]
    exact Nat.lt_of_le_of_lt (Checked.requested_le urb) addressable
  unfold receiveData? receiveData
  rw [Checked.payload_eq, Option.bind_eq_bind, Option.bind_some, Checked.received_eq well short,
    Option.bind_eq_bind, Option.bind_some]
  cases taken : t.received? urb.payload with
  | none => rfl
  | some next =>
    dsimp only
    split
    · rw [startCommand?_eq (well.received taken)]
      rfl
    · rfl

def bulkOut? (d : Device) (urb : Urb) : Option (Device × Disposition) :=
  if urb.direction ≠ .toDevice then
    some (d.complain (.wrongDirection .bulkOut urb.id), .stall urb [.bulkOut])
  else if d.halts.bulkOut then
    some (d.complain (.halted .bulkOut urb.id), .stall urb [])
  else match d.slot with
    | .vacant => d.receiveCommand? {} urb
    | .held .ready t => d.receiveCommand? t urb
    | .held .dataFromHost t => d.receiveData? t urb
    | slot => some (d.complain (.unexpected .bulkOut urb.id slot.stage), .stall urb [.bulkOut])

theorem bulkOut?_eq (sound : d.slot.Sound) (addressable : urb.Addressable) :
    d.bulkOut? urb = some (d.bulkOut urb) := by
  unfold bulkOut? bulkOut
  split
  · rfl
  split
  · rfl
  cases held : d.slot with
  | vacant => exact receiveCommand?_eq d {} urb
  | executing generation => rfl
  | held phase t =>
    cases phase with
    | ready => exact receiveCommand?_eq d t urb
    | dataFromHost => exact receiveData?_eq (sound.wellFormed held) addressable
    | dataToHost | status => rfl

def sendData? (d : Device) (t : Transaction) (urb : Urb) : Option (Device × Disposition) :=
  if t.remaining < urb.requested ∧ urb.shortNotOk then
    some (complain { d with slot := .held .status t } (.underrun urb.requested t.remaining),
      .stall urb [.bulkIn])
  else do
    let room ← Checked.slice? urb.data 0 urb.requested
    let (next, count, filled) ← Checked.delivered t room
    let data ← Checked.patch? urb.data 0 urb.requested filled
    let phase : Phase :=
      if count < urb.requested ∨ next.declared ≤ next.offset then .status else .dataToHost
    some ({ d with slot := .held phase next }, .complete { urb with data, len := count })

theorem sendData?_eq (well : t.WellFormed) : d.sendData? t urb = some (d.sendData t urb) := by
  have inside := Checked.requested_le urb
  have room : (urb.data.take urb.requested).length = urb.requested := List.length_take_of_le inside
  have fits : (t.chunk urb.requested).length ≤ urb.requested := by
    rw [t.length_chunk]
    exact Nat.min_le_right _ _
  have filled : (Bytes.overwrite (urb.data.take urb.requested) 0
      (t.chunk urb.requested)).length = urb.requested := by
    rw [Bytes.length_overwrite (by omega), room]
  unfold sendData? sendData
  split
  · rfl
  · rw [Checked.slice?_front inside, Option.bind_eq_bind, Option.bind_some,
      Checked.delivered_eq well, room, Option.bind_eq_bind, Option.bind_some]
    dsimp only
    rw [Checked.patch?_eq inside (by omega), Bytes.overwrite_take_overwrite fits inside]
    rfl

def sendStatus? (d : Device) (t : Transaction) (urb : Urb) : Option (Device × Disposition) :=
  if urb.requested < StatusWrapper.encodedLength ∨
      (StatusWrapper.encodedLength < urb.requested ∧ urb.shortNotOk) then
    some (d.complain (.badStatusRead urb.requested), .stall urb [.bulkIn])
  else do
    let wrapper ← Checked.statusWrapper t
    let data ← Checked.patch? urb.data 0 StatusWrapper.encodedLength wrapper.encode
    some (log { d with slot := .held .ready t.rewound } (.statusSent wrapper),
      .complete { urb with data, len := StatusWrapper.encodedLength })

theorem sendStatus?_eq (well : t.WellFormed) :
    d.sendStatus? t urb = some (d.sendStatus t urb) := by
  unfold sendStatus? sendStatus
  split
  · rfl
  next fits =>
    have inside : StatusWrapper.encodedLength ≤ urb.data.length := by
      have requested := Checked.requested_le urb
      omega
    rw [Checked.statusWrapper_eq well, Option.bind_eq_bind, Option.bind_some,
      Checked.patch?_eq inside (by rw [StatusWrapper.length_encode, Nat.zero_add])]
    simp [Urb.filled]

def sendEarlyStatus? (d : Device) (t : Transaction) (urb : Urb) : Option (Device × Disposition) :=
  if urb.requested ≠ StatusWrapper.encodedLength then
    some (d.complain (.duringDataOut urb.id urb.requested), .stall urb [.bulkIn])
  else
    let d := d.log (.dataCutShort t.offset t.declared)
    if t.offset = 0 then
      d.sendStatus? ((t.started 0).finished (Scsi.Outcome.good 0)) urb
    else do
      let length ← Checked.word? t.offset
      let d ← d.startCommand? t length
      some (d, .park urb)

theorem sendEarlyStatus?_eq (well : t.WellFormed) :
    d.sendEarlyStatus? t urb = some (d.sendEarlyStatus t urb) := by
  have small : t.offset < 2 ^ 32 := Nat.lt_of_le_of_lt well.offset_le t.declared_lt
  unfold sendEarlyStatus? sendEarlyStatus
  split
  · rfl
  dsimp only
  split
  · exact sendStatus?_eq ((well.started (Nat.zero_le _)).finished _)
  · rw [Checked.word?_eq small, Option.bind_eq_bind, Option.bind_some, startCommand?_eq well]
    rfl

def bulkIn? (d : Device) (urb : Urb) : Option (Device × Disposition) :=
  if urb.direction ≠ .toHost then
    some (d.complain (.wrongDirection .bulkIn urb.id), .stall urb [.bulkIn])
  else if d.halts.bulkIn then
    some (d.complain (.halted .bulkIn urb.id), .stall urb [])
  else match d.slot with
    | .executing _ => some (d, .park urb)
    | .held .dataToHost t => d.sendData? t urb
    | .held .status t => d.sendStatus? t urb
    | .held .dataFromHost t => d.sendEarlyStatus? t urb
    | slot => some (d.complain (.unexpected .bulkIn urb.id slot.stage), .stall urb [.bulkIn])

theorem bulkIn?_eq (sound : d.slot.Sound) (urb : Urb) : d.bulkIn? urb = some (d.bulkIn urb) := by
  unfold bulkIn? bulkIn
  split
  · rfl
  split
  · rfl
  cases held : d.slot with
  | vacant | executing generation => rfl
  | held phase t =>
    cases phase with
    | ready => rfl
    | dataFromHost => exact sendEarlyStatus?_eq (sound.wellFormed held)
    | dataToHost => exact sendData?_eq (sound.wellFormed held)
    | status => exact sendStatus?_eq (sound.wellFormed held)

def serve? (d : Device) (request : ControlRequest) (setup : Setup) (urb : Urb) :
    Option (Device × Disposition) :=
  let reply (answer : Bytes) := (Checked.answered urb setup answer).map fun urb =>
    (d, Disposition.complete urb)
  match request with
  | .maxLun | .interface => reply [0]
  | .deviceStatus => reply [0, 0]
  | .haltStatus pipe => reply [if d.halts.get pipe then 1 else 0, 0]
  | .descriptor kind index language =>
    match d.descriptors.lookup? kind index language with
    | some (.found data) => reply data
    | some .fault => some (d, .fault)
    | none => some (d.refuse setup urb)
  | .configuration => reply [d.configuration]
  | other => some (d.serve other setup urb)

theorem serve?_eq (addressable : urb.Addressable)
    (long : Setup.encodedLength ≤ urb.data.length) (request : ControlRequest) (setup : Setup) :
    d.serve? request setup urb = some (d.serve request setup urb) := by
  have reply (answer : Bytes) : (Checked.answered urb setup answer).map (fun urb =>
      (d, Disposition.complete urb)) = some (d, .complete (urb.answered setup answer)) := by
    rw [Checked.answered_eq addressable long, Option.map_some]
  unfold serve?
  dsimp only
  cases request with
  | descriptor kind index language =>
    cases found : d.descriptors.lookup? kind index language with
    | none => simp only [serve, found]
    | some descriptor =>
      cases descriptor with
      | found data => simp only [serve, found, reply]
      | fault => simp only [serve, found]
  | _ => first | rfl | exact reply _

def control? (d : Device) (urb : Urb) : Option (Device × Disposition) := do
  let d := { d with halts := d.halts.set .control false }
  let bytes ← Checked.payload urb
  match ← Checked.setup bytes with
  | none => some (d.complain (.missingSetup urb.id), .stall urb [.control])
  | some setup =>
    let d := d.log (.controlRequest setup)
    match ControlRequest.ofSetup? setup with
    | none => some (d.refuse setup urb)
    | some request => d.serve? request setup urb

theorem control?_eq (addressable : urb.Addressable) : d.control? urb = some (d.control urb) := by
  unfold control? control
  rw [Checked.payload_eq, Option.bind_eq_bind, Option.bind_some, Checked.setup_eq,
    Option.bind_eq_bind, Option.bind_some]
  cases parsed : Setup.parse? urb.payload with
  | none => rfl
  | some setup =>
    have long : Setup.encodedLength ≤ urb.data.length := by
      unfold Setup.parse? at parsed
      split at parsed
      · cases parsed
      next covered =>
        rw [urb.length_payload] at covered
        exact Nat.le_trans (Nat.not_lt.mp covered) (Checked.requested_le urb)
    dsimp only
    cases ControlRequest.ofSetup? setup with
    | none => rfl
    | some request => exact serve?_eq addressable long request setup

def handle? (d : Device) (address : UInt8) (urb : Urb) : Option (Device × Disposition) :=
  match Pipe.ofAddress? address with
  | some .control => d.control? urb
  | some .bulkOut => d.bulkOut? urb
  | some .bulkIn => d.bulkIn? urb
  | none => some (d.complain (.unknownEndpoint urb.id address), .stall urb [])

theorem handle?_eq (sound : d.slot.Sound) (address : UInt8) (addressable : urb.Addressable) :
    d.handle? address urb = some (d.handle address urb) := by
  unfold handle? handle
  cases Pipe.ofAddress? address with
  | none => rfl
  | some pipe =>
    cases pipe with
    | control => exact control?_eq addressable
    | bulkIn => exact bulkIn?_eq sound urb
    | bulkOut => exact bulkOut?_eq sound addressable

def resume? (d : Device) (urb : Urb) : Option Device :=
  (d.bulkIn? urb).map fun handled => (handled.1.apply handled.2).1

def resumeParked? (d : Device) : Option Device :=
  d.parked.toList.foldlM resume? { d with parked := .empty }

theorem foldlM_resume?_eq (sound : d.Sound) (urbs : List Urb) :
    urbs.foldlM resume? d = some (urbs.foldl resume d) := by
  induction urbs generalizing d with
  | nil => rfl
  | cons urb rest ih =>
    have first : d.resume? urb = some (d.resume urb) := by
      rw [resume?, bulkIn?_eq sound.slot]
      rfl
    have next : (d.resume urb).Sound := apply_sound (bulkIn_sound sound urb) _
    rw [List.foldlM_cons, first, List.foldl_cons, Option.bind_eq_bind, Option.bind_some, ih next]

def concluded? (d : Device) (t : Transaction) (outcome : Scsi.Outcome) : Option Device := do
  let resumed ← (d.takenBack t outcome).resumeParked?
  some (if resumed.pendingReset.isSome then resumed.finishReset .bulkOnly else resumed)

theorem takenBack_sound (sound : d.Sound) (opened : t.Sound) (outcome : Scsi.Outcome) :
    (d.takenBack t outcome).Sound := by
  refine ⟨Slot.sound_held (opened.finished outcome), ?_⟩
  rw [(takenBack_sameCommand d t outcome).submissions]
  exact sound.submissions

theorem concluded?_eq (sound : d.Sound) (opened : t.Sound) (outcome : Scsi.Outcome) :
    d.concluded? t outcome = some (d.concluded t outcome) := by
  have emptied : Sound { d.takenBack t outcome with parked := .empty } :=
    (takenBack_sound sound opened outcome).kept rfl rfl
  rw [concluded?, resumeParked?, foldlM_resume?_eq emptied, concluded_eq]
  rfl

def settle? (d : Device) (command : Command) (completion : Completion) : Option Device := do
  let back ← Checked.returned completion command
  let d := { d with events := d.events ++ completion.events command }
  if d.slot = .executing back.generation then
    d.concluded? back.transaction (completion.outcome command)
  else some (d.reclaimed back.generation)

theorem settle?_eq (sound : d.Sound) {command : Command} (opened : command.transaction.Sound)
    (completion : Completion) :
    d.settle? command completion = some (d.settle command completion) := by
  have heard : Sound { d with events := d.events ++ completion.events command } :=
    sound.kept rfl rfl
  unfold settle? settle complete
  rw [Checked.returned_eq opened.wellFormed, Option.bind_eq_bind, Option.bind_some]
  dsimp only
  split
  · exact concluded?_eq heard (completion.sound_returned opened) _
  · rfl

def operate? (d : Device) : Device.Operation → Option (Device × Answer)
  | .dispatch address urb => (d.handle? address urb).map fun handled =>
    let result := handled.1.apply handled.2
    (result.1, .dispatched result.2)
  | other => some (d.operate other)

theorem operate?_eq (sound : d.slot.Sound) {operation : Device.Operation}
    (addressable : ∀ address urb, operation = .dispatch address urb → urb.Addressable) :
    d.operate? operation = some (d.operate operation) := by
  cases operation with
  | dispatch address urb =>
    rw [operate?, handle?_eq sound address (addressable address urb rfl)]
    rfl
  | _ => rfl

end Device

end BulkOnly
