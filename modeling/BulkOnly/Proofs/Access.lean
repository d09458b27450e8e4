import BulkOnly.Proofs.Soundness
import Mathlib.Algebra.GroupWithZero.Nat

set_option autoImplicit false

namespace BulkOnly

-- No object takes up more than half of the address space.
def Urb.Addressable (urb : Urb) : Prop := urb.data.length < 2 ^ 63

instance (urb : Urb) : Decidable urb.Addressable := inferInstanceAs (Decidable (_ < _))

theorem Transaction.declared_lt (t : Transaction) : t.declared < 2 ^ 32 :=
  t.wrapper.transferLength.toNat_lt

theorem Bytes.overwrite_take_overwrite {bytes patch : Bytes} {n : Nat} (fits : patch.length ≤ n)
    (inside : n ≤ bytes.length) :
    overwrite bytes 0 (overwrite (bytes.take n) 0 patch) = overwrite bytes 0 patch := by
  have rest : (bytes.take n).drop patch.length ++ bytes.drop n = bytes.drop patch.length := by
    rw [← List.drop_append_of_le_length, List.take_append_drop]
    simpa [inside] using fits
  have whole : patch.length + (n - patch.length) = n := by omega
  simp [overwrite, Nat.min_eq_left inside, whole, rest]

namespace Checked

def sum? (a b : Nat) : Option Nat := if a + b < 2 ^ 64 then some (a + b) else none

def word? (n : Nat) : Option Nat := if n < 2 ^ 32 then some n else none

def slice? (bytes : Bytes) (lower upper : Nat) : Option Bytes :=
  if lower ≤ upper ∧ upper ≤ bytes.length then some ((bytes.drop lower).take (upper - lower))
  else none

def patch? (bytes : Bytes) (lower upper : Nat) (patch : Bytes) : Option Bytes :=
  if lower ≤ upper ∧ upper ≤ bytes.length ∧ patch.length = upper - lower then
    some (Bytes.overwrite bytes lower patch)
  else none

def read? (bytes : Bytes) (offset width : Nat) : Option Nat :=
  (slice? bytes offset (offset + width)).map Bytes.ofLittleEndian

theorem sum?_eq {a b : Nat} (small : a + b < 2 ^ 64) : sum? a b = some (a + b) := if_pos small

theorem word?_eq {n : Nat} (small : n < 2 ^ 32) : word? n = some n := if_pos small

theorem slice?_eq {bytes : Bytes} {lower upper : Nat} (le : lower ≤ upper)
    (inside : upper ≤ bytes.length) :
    slice? bytes lower upper = some ((bytes.drop lower).take (upper - lower)) :=
  if_pos ⟨le, inside⟩

theorem slice?_front {bytes : Bytes} {n : Nat} (inside : n ≤ bytes.length) :
    slice? bytes 0 n = some (bytes.take n) := slice?_eq (Nat.zero_le n) inside

theorem patch?_eq {bytes patch : Bytes} {lower upper : Nat} (inside : upper ≤ bytes.length)
    (same : lower + patch.length = upper) :
    patch? bytes lower upper patch = some (Bytes.overwrite bytes lower patch) :=
  if_pos ⟨by omega, inside, by omega⟩

theorem read?_eq {bytes : Bytes} {offset width : Nat} (inside : offset + width ≤ bytes.length) :
    read? bytes offset width = some (Bytes.word bytes offset width) := by
  rw [read?, slice?_eq (Nat.le_add_right _ _) inside, Nat.add_sub_cancel_left]
  rfl

theorem byte_eq {bytes : Bytes} {index : Nat} (inside : index < bytes.length) :
    bytes[index]? = some (bytes.getD index 0) := by
  simp [inside]

def payload (urb : Urb) : Option Bytes := slice? urb.data 0 urb.requested

theorem requested_le (urb : Urb) : urb.requested ≤ urb.data.length := Nat.min_le_right _ _

theorem payload_eq (urb : Urb) : payload urb = some urb.payload := by
  rw [payload, slice?_front (requested_le urb)]
  simp [Urb.payload, Urb.requested]

def setup (data : Bytes) : Option (Option Setup) :=
  if data.length < Setup.encodedLength then some none
  else do
    let packet ← slice? data 0 Setup.encodedLength
    let requestType ← packet[0]?
    let request ← packet[1]?
    let value ← read? packet 2 2
    let index ← read? packet 4 2
    let length ← read? packet 6 2
    some <| some
      { requestType, request
        value := UInt16.ofNat value
        index := UInt16.ofNat index
        length := UInt16.ofNat length }

theorem setup_eq (data : Bytes) : setup data = some (Setup.parse? data) := by
  unfold setup Setup.parse?
  split
  · rfl
  next long =>
    have inside : Setup.encodedLength ≤ data.length := Nat.not_lt.mp long
    have length : (data.take Setup.encodedLength).length = Setup.encodedLength :=
      List.length_take_of_le inside
    have byte (index : Nat) (small : index < Setup.encodedLength) :
        (data.take Setup.encodedLength)[index]? = some (data.getD index 0) := by
      rw [List.getElem?_take_of_lt small]
      exact byte_eq (Nat.lt_of_lt_of_le small inside)
    have field (offset : Nat) (small : offset + 2 ≤ Setup.encodedLength) :
        read? (data.take Setup.encodedLength) offset 2 = some (Bytes.word data offset 2) := by
      rw [read?_eq (by rw [length]; exact small), Bytes.word_take small]
    rw [slice?_front inside, Option.bind_eq_bind, Option.bind_some, byte 0 (by decide),
      byte 1 (by decide), field 2 (by decide), field 4 (by decide), field 6 (by decide)]
    rfl

def answered (urb : Urb) (setup : Setup) (answer : Bytes) : Option Urb := do
  let room := min (urb.data.length - Setup.encodedLength) setup.length.toNat
  let count := min answer.length room
  let upper ← sum? Setup.encodedLength count
  let part ← slice? answer 0 count
  let data ← patch? urb.data Setup.encodedLength upper part
  some { urb with data, len := upper }

theorem answered_eq {urb : Urb} (addressable : urb.Addressable)
    (long : Setup.encodedLength ≤ urb.data.length) (setup : Setup) (answer : Bytes) :
    answered urb setup answer = some (urb.answered setup answer) := by
  let room := min (urb.data.length - Setup.encodedLength) setup.length.toNat
  have fits : Setup.encodedLength + min answer.length room ≤ urb.data.length := by omega
  have short : Setup.encodedLength + min answer.length room < 2 ^ 64 := by
    have bound : urb.data.length < 2 ^ 63 := addressable
    omega
  have part : answer.take (min answer.length room) = answer.take room := by
    rw [Nat.min_comm, ← List.take_eq_take_min]
  have length : (answer.take room).length = min answer.length room := by
    rw [List.length_take, Nat.min_comm]
  simp [answered, Urb.answered, room, sum?_eq short, slice?_front (Nat.min_le_left _ _), part,
    patch?_eq fits (by rw [length]), length]

def commandWrapper (data : Bytes) : Option (Except CommandWrapper.Rejection CommandWrapper) :=
  if data.length ≤ CommandWrapper.headerLength ∨ CommandWrapper.encodedLength < data.length then
    some (.error (.size data.length))
  else do
    let found ← read? data 0 4
    if found ≠ CommandWrapper.signature then some (.error (.signature found))
    else do
      let tag ← read? data 4 4
      let transferLength ← read? data 8 4
      let flags ← data[12]?
      let lun ← data[13]?
      let blockLength ← data[14]?
      if lun &&& 0x1f ≠ 0 then some (.error (.lun (lun &&& 0x1f)))
      else if blockLength = 0 ∨ 16 < blockLength then some (.error (.blockLength blockLength))
      else if data.length < CommandWrapper.headerLength + blockLength.toNat then
        some (.error (.size data.length))
      else do
        let sent ← slice? data CommandWrapper.headerLength data.length
        let copied ← patch? (List.replicate 16 0) 0 sent.length sent
        let unused ← slice? copied blockLength.toNat 16
        let block ← patch? copied blockLength.toNat 16 (List.replicate unused.length 0)
        some <| .ok
          { tag := UInt32.ofNat tag
            transferLength := UInt32.ofNat transferLength
            flags, lun, blockLength
            block := Bytes.padded 16 block }

theorem length_copied {sent : Bytes} (fits : sent.length ≤ 16) :
    (Bytes.overwrite (List.replicate 16 0) 0 sent).length = 16 := by
  have room : 0 + sent.length ≤ (List.replicate 16 (0 : UInt8)).length := by simpa using fits
  rw [Bytes.length_overwrite room, List.length_replicate]

-- Whatever is sent past the block length is overwritten again.
theorem padded_cleared {sent : Bytes} {n : Nat} (some_used : n ≤ sent.length)
    (fits : sent.length ≤ 16) :
    Bytes.padded 16
        (Bytes.overwrite (Bytes.overwrite (List.replicate 16 0) 0 sent) n
          (List.replicate (16 - n) 0)) =
      Bytes.padded 16 (sent.take n) := by
  have small : n ≤ 16 := Nat.le_trans some_used fits
  have whole : n + (16 - n) = 16 := by omega
  have used : (Bytes.overwrite (List.replicate 16 0) 0 sent).take n = sent.take n := by
    simp [Bytes.overwrite, List.take_append_of_le_length some_used]
  have nothing : (Bytes.overwrite (List.replicate 16 0) 0 sent).drop 16 = [] :=
    List.drop_eq_nil_of_le (Nat.le_of_eq (length_copied fits))
  apply Vector.toList_inj.mp
  rw [Bytes.toList_padded, Bytes.toList_padded, Bytes.overwrite, used, List.length_replicate,
    whole, nothing]
  have all : (sent.take n ++ List.replicate (16 - n) (0 : UInt8)).length ≤ 16 := by simp; omega
  simp [some_used, List.take_of_length_le all, List.take_take, Nat.min_eq_right small, whole]

theorem commandWrapper_eq (data : Bytes) :
    commandWrapper data = some (CommandWrapper.parse data) := by
  unfold commandWrapper CommandWrapper.parse
  dsimp only
  split
  · rfl
  next size =>
  obtain ⟨long, short⟩ : 15 < data.length ∧ data.length ≤ 31 := by
    rw [not_or, Nat.not_le, Nat.not_lt] at size
    exact size
  have word (offset : Nat) (inside : offset + 4 ≤ 15) :
      read? data offset 4 = some (Bytes.word data offset 4) :=
    read?_eq (Nat.le_trans inside (Nat.le_of_lt long))
  have byte (index : Nat) (inside : index < 15) : data[index]? = some (data.getD index 0) :=
    byte_eq (Nat.lt_trans inside long)
  rw [word 0 (by decide), word 4 (by decide), word 8 (by decide), byte 12 (by decide),
    byte 13 (by decide), byte 14 (by decide)]
  simp only [Option.bind_eq_bind, Option.bind_some]
  split
  · rfl
  split
  · rfl
  split
  · rfl
  next valid =>
  split
  · rfl
  next covered =>
  have sent : slice? data CommandWrapper.headerLength data.length =
      some (data.drop CommandWrapper.headerLength) := by
    have header : CommandWrapper.headerLength ≤ data.length := Nat.le_of_lt long
    rw [slice?_eq header (Nat.le_refl _), ← List.length_drop, List.take_length]
  have length : (data.drop CommandWrapper.headerLength).length = data.length - 15 :=
    List.length_drop
  have fits : (data.drop CommandWrapper.headerLength).length ≤ 16 := by omega
  have used : (data.getD 14 0).toNat ≤ (data.drop CommandWrapper.headerLength).length := by
    rw [length]
    exact Nat.le_sub_of_add_le' (Nat.not_lt.mp covered)
  have copied := length_copied fits
  have small : (data.getD 14 0).toNat ≤ 16 := Nat.le_trans used fits
  rw [sent]
  simp only [Option.bind_some]
  rw [patch?_eq (by simpa using fits) (Nat.zero_add _)]
  simp only [Option.bind_some]
  rw [slice?_eq small (Nat.le_of_eq copied.symm)]
  simp only [Option.bind_some, List.length_take, List.length_drop, copied, Nat.min_self]
  rw [patch?_eq (Nat.le_of_eq copied.symm) (by rw [List.length_replicate]; omega)]
  simp only [Option.bind_some, padded_cleared used fits]

def received (t : Transaction) (data : Bytes) : Option (Option Transaction) := do
  let upper ← sum? t.offset data.length
  if t.declared < upper then some none
  else do
    let buffer ← patch? t.buffer t.offset upper data
    some (some { t with buffer, offset := upper })

theorem received_eq {t : Transaction} (well : t.WellFormed) {data : Bytes}
    (addressable : data.length < 2 ^ 63) : received t data = some (t.received? data) := by
  have start := well.offset_le
  have bound := t.declared_lt
  have small : t.offset + data.length < 2 ^ 64 := by omega
  unfold received Transaction.received?
  rw [sum?_eq small]
  simp only [Option.bind_eq_bind, Option.bind_some]
  by_cases fits : t.offset + data.length ≤ t.declared
  · rw [if_neg (Nat.not_lt.mpr fits), if_pos fits,
      patch?_eq (by rw [well.buffer_length]; exact fits) rfl]
    rfl
  · rw [if_pos (Nat.not_le.mp fits), if_neg fits]

def answeredSense (t : Transaction) : Option Transaction := do
  let retained := t.reportedSense.toList
  let count := min (min t.declared (t.wrapper.block.get 4).toNat) retained.length
  let answer ← slice? retained 0 count
  let buffer ← patch? t.buffer 0 count answer
  let length ← word? count
  some { t with
    buffer
    offset := 0
    direction := .toHost
    length
    status := Scsi.Status.good
    transferred := length
    phaseError := false
    sense := Scsi.Sense.zero }

theorem answeredSense_eq {t : Transaction} (well : t.WellFormed) :
    answeredSense t = some t.answeredSense := by
  let count := min (min t.declared (t.wrapper.block.get 4).toNat) t.reportedSense.toList.length
  have answer : t.reportedSense.toList.take count = t.senseAnswer :=
    (List.take_eq_take_min ..).symm
  have length : t.senseAnswer.length = count := List.length_take ..
  have fits : count ≤ t.buffer.length := by
    rw [well.buffer_length, ← length]
    exact t.length_senseAnswer_le
  have small : count < 2 ^ 32 := by
    have bound := t.declared_lt
    rw [well.buffer_length] at fits
    omega
  have copied : patch? t.buffer 0 count t.senseAnswer =
      some (Bytes.overwrite t.buffer 0 t.senseAnswer) := patch?_eq fits (by omega)
  unfold answeredSense
  dsimp only
  rw [slice?_front (Nat.min_le_right _ _)]
  change (some (t.reportedSense.toList.take count)).bind _ = _
  rw [answer, Option.bind_some, copied, word?_eq small]
  simp [Transaction.answeredSense, length]

def delivered (t : Transaction) (room : Bytes) : Option (Transaction × Nat × Bytes) := do
  let count := min t.remaining room.length
  let upper ← sum? t.offset count
  let chunk ← slice? t.buffer t.offset upper
  let filled ← patch? room 0 count chunk
  some ({ t with offset := upper }, count, filled)

theorem delivered_eq {t : Transaction} (well : t.WellFormed) (room : Bytes) :
    delivered t room =
      some (t.advanced (t.chunk room.length).length, (t.chunk room.length).length,
        Bytes.overwrite room 0 (t.chunk room.length)) := by
  have start := well.offset_le
  have bound := t.declared_lt
  have buffer := well.buffer_length
  have fits : t.offset + min t.remaining room.length ≤ t.buffer.length := by
    simp only [Transaction.remaining]
    omega
  have small : t.offset + min t.remaining room.length < 2 ^ 64 := by omega
  have chunk : (t.buffer.drop t.offset).take
      (t.offset + min t.remaining room.length - t.offset) = t.chunk room.length := by
    rw [Nat.add_sub_cancel_left]
    rfl
  have length := t.length_chunk room.length
  unfold delivered
  dsimp only
  rw [sum?_eq small, Option.bind_eq_bind, Option.bind_some, slice?_eq (Nat.le_add_right _ _) fits,
    chunk, Option.bind_eq_bind, Option.bind_some,
    patch?_eq (Nat.min_le_right _ _) (by rw [length, Nat.zero_add]), ← length]
  rfl

def statusWrapper (t : Transaction) : Option StatusWrapper := do
  let moved ← word? t.moved
  some
    { tag := t.wrapper.tag
      residue := UInt32.ofNat (t.declared - moved)
      status := t.commandStatus }

theorem statusWrapper_eq {t : Transaction} (well : t.WellFormed) :
    statusWrapper t = some t.statusWrapper := by
  have start := well.offset_le
  have bound := t.declared_lt
  have small : t.moved < 2 ^ 32 := by
    unfold Transaction.moved
    split
    · omega
    split <;> omega
  rw [statusWrapper, word?_eq small]
  rfl

def data (command : Command) : Option Bytes :=
  slice? command.transaction.buffer 0 command.length

def block (command : Command) : Option Bytes :=
  let wrapper := command.transaction.wrapper
  slice? wrapper.block.toList 0 (min wrapper.blockLength.toNat 16)

theorem data_eq {command : Command} (well : command.transaction.WellFormed) :
    data command = some command.data := by
  have inside : command.length ≤ command.transaction.buffer.length := by
    rw [well.buffer_length]
    exact well.length_le
  rw [data, slice?_front inside]
  rfl

theorem block_eq (command : Command) : block command = some command.block := by
  have length : command.transaction.wrapper.block.toList.length = 16 := by simp
  have cut := List.take_eq_take_min (i := command.transaction.wrapper.blockLength.toNat)
    (l := command.transaction.wrapper.block.toList)
  rw [length] at cut
  unfold block
  dsimp only
  rw [slice?_front (by rw [length]; exact Nat.min_le_right _ _), ← cut]
  rfl

def written (completion : Completion) (command : Command) : Option Command := do
  let room ← data command
  let left := completion.data.take room.length ++ room.drop completion.data.length
  let buffer ← patch? command.transaction.buffer 0 command.length left
  some (Command.withSense { command with transaction.buffer := buffer } completion.sense)

def returned (completion : Completion) (command : Command) : Option Command := do
  let command ← written completion command
  match completion.ending with
  | .dropped => some { command with transaction.sense := Scsi.Sense.abortedCommand }
  | .ended .. => some command

theorem written_eq {command : Command} (well : command.transaction.WellFormed)
    (completion : Completion) : written completion command = some (completion.written command) := by
  have inside : command.length ≤ command.transaction.buffer.length := by
    rw [well.buffer_length]
    exact well.length_le
  have room : command.data.length = command.length := List.length_take_of_le inside
  let front := completion.data.take command.length
  have fits : front.length ≤ command.length := List.length_take_le ..
  have whole : front ++ command.data.drop completion.data.length =
      Bytes.overwrite command.data 0 front := by
    have dropped : command.data.drop front.length = command.data.drop completion.data.length := by
      rw [List.length_take]
      by_cases short : completion.data.length ≤ command.length
      · rw [Nat.min_eq_right short]
      · rw [Nat.min_eq_left (Nat.le_of_not_le short), List.drop_eq_nil_of_le (Nat.le_of_eq room),
          List.drop_eq_nil_of_le (by omega)]
    simp [Bytes.overwrite, dropped]
  have length : (Bytes.overwrite command.data 0 front).length = command.length := by
    rw [Bytes.length_overwrite (by omega), room]
  unfold written
  rw [data_eq well]
  simp only [Option.bind_eq_bind, Option.bind_some, room]
  rw [whole, patch?_eq inside (by omega), Command.data,
    Bytes.overwrite_take_overwrite fits inside]
  simp only [Option.bind_some, Completion.written, Command.withData, room]
  rfl

theorem returned_eq {command : Command} (well : command.transaction.WellFormed)
    (completion : Completion) :
    returned completion command = some (completion.returned command) := by
  rw [returned, written_eq well, Option.bind_eq_bind, Option.bind_some]
  unfold Completion.returned
  cases completion.ending <;> rfl

end Checked

end BulkOnly
