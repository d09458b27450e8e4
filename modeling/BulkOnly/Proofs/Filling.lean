import BulkOnly.Command

set_option autoImplicit false

namespace BulkOnly.Transaction

-- The transaction after the host has sent `data` for its wrapper.
def filling (wrapper : CommandWrapper) (sense : Scsi.Sense) (data : Bytes) : Transaction where
  wrapper := wrapper
  buffer := data ++ List.replicate (wrapper.transferLength.toNat - data.length) 0
  offset := data.length
  direction := wrapper.direction
  sense := sense

variable {wrapper : CommandWrapper} {sense : Scsi.Sense} {data more : Bytes}

theorem opened_eq (t : Transaction) (wrapper : CommandWrapper) :
    t.opened wrapper = filling wrapper t.sense [] := by
  simp [opened, filling]

theorem overwrite_zeros (data more : Bytes) (room : Nat) :
    Bytes.overwrite (data ++ List.replicate room 0) data.length more =
      data ++ more ++ List.replicate (room - more.length) 0 := by
  simp [Bytes.overwrite, List.drop_append]

theorem received?_filling :
    (filling wrapper sense data).received? more =
      if data.length + more.length ≤ wrapper.transferLength.toNat then
        some (filling wrapper sense (data ++ more))
      else none := by
  simp only [received?, filling, declared, overwrite_zeros, List.length_append, Nat.sub_sub]

theorem isComplete_filling :
    (filling wrapper sense data).isComplete =
      decide (data.length = wrapper.transferLength.toNat) := rfl

theorem asksForSense_filling (sense : Scsi.Sense) (data : Bytes)
    (writes : wrapper.direction = .toDevice) (some_data : wrapper.transferLength ≠ 0) :
    (filling wrapper sense data).asksForSense = false := by
  simp [asksForSense, filling, writes, some_data]

def writing (wrapper : CommandWrapper) (sense : Scsi.Sense) (data : Bytes) : Transaction :=
  (filling wrapper sense data).started data.length

theorem data_writing (generation : Nat) :
    Command.data ⟨generation, writing wrapper sense data⟩ = data := by
  simp [Command.data, Command.length, writing, started, filling]

end BulkOnly.Transaction
