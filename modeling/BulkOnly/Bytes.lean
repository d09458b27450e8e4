set_option autoImplicit false

namespace BulkOnly

abbrev Bytes := List UInt8

namespace Bytes

def littleEndian : (width : Nat) → Nat → Bytes
  | 0, _ => []
  | width + 1, n => UInt8.ofNat n :: littleEndian width (n / 256)

def ofLittleEndian : Bytes → Nat
  | [] => 0
  | b :: rest => b.toNat + 256 * ofLittleEndian rest

@[simp] theorem length_littleEndian (width n : Nat) : (littleEndian width n).length = width := by
  induction width generalizing n with
  | zero => rfl
  | succ width ih => simp [littleEndian, ih]

theorem ofLittleEndian_littleEndian (width n : Nat) :
    ofLittleEndian (littleEndian width n) = n % Nat.pow 256 width := by
  induction width generalizing n with
  | zero => simp [littleEndian, ofLittleEndian, Nat.mod_one]
  | succ width ih =>
    have digit : (UInt8.ofNat n).toNat = n % 256 := by simp
    have step : Nat.pow 256 (width + 1) = 256 * Nat.pow 256 width := Nat.mul_comm _ _
    simp only [littleEndian, ofLittleEndian, ih, digit]
    rw [step, Nat.mod_mul]

theorem littleEndian_ofLittleEndian (bytes : Bytes) :
    littleEndian bytes.length (ofLittleEndian bytes) = bytes := by
  induction bytes with
  | nil => rfl
  | cons b rest ih =>
    have small := b.toNat_lt
    have low : UInt8.ofNat (b.toNat + 256 * ofLittleEndian rest) = b := by
      apply UInt8.toNat_inj.mp
      simp only [UInt8.toNat_ofNat']
      omega
    have high : (b.toNat + 256 * ofLittleEndian rest) / 256 = ofLittleEndian rest := by omega
    simp [littleEndian, ofLittleEndian, low, high, ih]

theorem ofLittleEndian_lt (bytes : Bytes) :
    ofLittleEndian bytes < Nat.pow 256 bytes.length := by
  induction bytes with
  | nil => simp [ofLittleEndian]
  | cons b rest ih =>
    have small := b.toNat_lt
    have step : Nat.pow 256 (rest.length + 1) = Nat.pow 256 rest.length * 256 := rfl
    rw [List.length_cons, step, ofLittleEndian]
    omega

def word (bytes : Bytes) (offset width : Nat) : Nat :=
  ofLittleEndian ((bytes.drop offset).take width)

theorem word_append (front field rest : Bytes) :
    word (front ++ (field ++ rest)) front.length field.length = ofLittleEndian field := by
  simp [word]

theorem word_littleEndian {front rest : Bytes} {offset width n : Nat}
    (place : front.length = offset) (small : n < Nat.pow 256 width) :
    word (front ++ (littleEndian width n ++ rest)) offset width = n := by
  have field := word_append front (littleEndian width n) rest
  rw [length_littleEndian, place, ofLittleEndian_littleEndian, Nat.mod_eq_of_lt small] at field
  exact field

theorem word_take {bytes : Bytes} {n offset width : Nat} (inside : offset + width ≤ n) :
    word (bytes.take n) offset width = word bytes offset width := by
  have short : min width (n - offset) = width := by omega
  rw [word, List.drop_take, List.take_take, short, word]

theorem word_lt (bytes : Bytes) (offset width : Nat) :
    word bytes offset width < Nat.pow 256 width := by
  have bound := ofLittleEndian_lt ((bytes.drop offset).take width)
  refine Nat.lt_of_lt_of_le bound (Nat.pow_le_pow_right (by decide) ?_)
  exact List.length_take_le _ _

theorem littleEndian_word {bytes : Bytes} {offset width : Nat}
    (inside : offset + width ≤ bytes.length) :
    littleEndian width (word bytes offset width) = (bytes.drop offset).take width := by
  have length : ((bytes.drop offset).take width).length = width := by
    rw [List.length_take, List.length_drop]
    omega
  have field := littleEndian_ofLittleEndian ((bytes.drop offset).take width)
  rwa [length] at field

theorem littleEndian_front_iff {bytes : Bytes} {width n : Nat} (long : width ≤ bytes.length)
    (small : n < Nat.pow 256 width) : littleEndian width n <+: bytes ↔ word bytes 0 width = n := by
  have front : littleEndian width (word bytes 0 width) = bytes.take width :=
    littleEndian_word (by omega)
  rw [List.prefix_iff_eq_take, length_littleEndian, ← front]
  constructor
  · intro same
    have word := congrArg ofLittleEndian same
    rwa [ofLittleEndian_littleEndian, ofLittleEndian_littleEndian, Nat.mod_eq_of_lt small,
      Nat.mod_eq_of_lt (word_lt bytes 0 width), eq_comm] at word
  · rintro rfl
    rfl

theorem take_add_word {bytes : Bytes} (start width : Nat)
    (inside : start + width ≤ bytes.length) :
    bytes.take (start + width) =
      bytes.take start ++ littleEndian width (word bytes start width) := by
  rw [List.take_add, littleEndian_word inside]

theorem take_add_one {bytes : Bytes} {index : Nat} (inside : index < bytes.length) :
    bytes.take (index + 1) = bytes.take index ++ [bytes.getD index 0] := by
  rw [List.take_succ_eq_append_getElem inside, List.getD_eq_getElem?_getD,
    List.getElem?_eq_getElem inside, Option.getD_some]

theorem getD_take {bytes : Bytes} {n index : Nat} (early : index < n) :
    (bytes.take n).getD index 0 = bytes.getD index 0 := by
  rw [List.getD_eq_getElem?_getD, List.getElem?_take_of_lt early, List.getD_eq_getElem?_getD]

-- The first `n` of the bytes, filled up with zeros.
def padded (n : Nat) (bytes : Bytes) : Vector UInt8 n :=
  ⟨(bytes.take n ++ List.replicate (n - bytes.length) 0).toArray, by simp; omega⟩

@[simp] theorem toList_padded (n : Nat) (bytes : Bytes) :
    (padded n bytes).toList = bytes.take n ++ List.replicate (n - bytes.length) 0 := by
  simp [padded, Vector.toList]

def overwrite (bytes : Bytes) (offset : Nat) (patch : Bytes) : Bytes :=
  bytes.take offset ++ (patch ++ bytes.drop (offset + patch.length))

theorem length_overwrite {bytes : Bytes} {offset : Nat} {patch : Bytes}
    (fits : offset + patch.length ≤ bytes.length) :
    (overwrite bytes offset patch).length = bytes.length := by
  simp [overwrite]
  omega

theorem take_overwrite {bytes patch : Bytes} {offset : Nat} (inside : offset ≤ bytes.length) :
    (overwrite bytes offset patch).take offset = bytes.take offset := by
  have front : (bytes.take offset).length = offset := List.length_take_of_le inside
  rw [overwrite, List.take_append_of_le_length (Nat.le_of_eq front.symm),
    List.take_of_length_le (Nat.le_of_eq front)]

theorem drop_overwrite {bytes patch : Bytes} {offset : Nat} (inside : offset ≤ bytes.length) :
    (overwrite bytes offset patch).drop offset =
      patch ++ bytes.drop (offset + patch.length) := by
  have front : (bytes.take offset).length = offset := List.length_take_of_le inside
  rw [overwrite, List.drop_append_of_le_length (Nat.le_of_eq front.symm),
    List.drop_of_length_le (Nat.le_of_eq front)]
  rfl

theorem drop_overwrite_after {bytes patch : Bytes} {offset : Nat} (inside : offset ≤ bytes.length) :
    (overwrite bytes offset patch).drop (offset + patch.length) =
      bytes.drop (offset + patch.length) := by
  rw [← List.drop_drop, drop_overwrite inside, List.drop_left]

@[simp] theorem overwrite_nil (bytes : Bytes) (offset : Nat) :
    overwrite bytes offset [] = bytes := by
  simp [overwrite]

end Bytes

end BulkOnly
