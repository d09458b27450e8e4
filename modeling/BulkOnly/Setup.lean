import BulkOnly.Bytes
import BulkOnly.Pipe

set_option autoImplicit false

namespace BulkOnly

structure Setup where
  requestType : UInt8
  request : UInt8
  value : UInt16
  index : UInt16
  length : UInt16
  deriving DecidableEq, Repr

namespace Setup

def encodedLength : Nat := 8

def direction (setup : Setup) : Direction := Direction.ofBits setup.requestType

-- 0x00 for a standard request, 0x20 for a class request.
def typeBits (setup : Setup) : UInt8 := setup.requestType &&& 0x60

-- 0 for the device, 1 for an interface, 2 for an endpoint.
def recipient (setup : Setup) : UInt8 := setup.requestType &&& 0x1f

def encode (setup : Setup) : Bytes :=
  [setup.requestType, setup.request]
    ++ (Bytes.littleEndian 2 setup.value.toNat
    ++ (Bytes.littleEndian 2 setup.index.toNat
    ++ Bytes.littleEndian 2 setup.length.toNat))

@[simp] theorem length_encode (setup : Setup) : setup.encode.length = encodedLength := by
  simp [encode, encodedLength]

def parse? (data : Bytes) : Option Setup :=
  if data.length < encodedLength then none
  else some
    { requestType := data.getD 0 0
      request := data.getD 1 0
      value := UInt16.ofNat (Bytes.word data 2 2)
      index := UInt16.ofNat (Bytes.word data 4 2)
      length := UInt16.ofNat (Bytes.word data 6 2) }

theorem parse?_encode_append (setup : Setup) (rest : Bytes) :
    parse? (setup.encode ++ rest) = some setup := by
  have long : ¬ (setup.encode ++ rest).length < encodedLength := by
    simp only [List.length_append, length_encode]
    omega
  have field (front back : Bytes) (n offset : Nat) (small : n < 65536)
      (place : front.length = offset)
      (shape : setup.encode ++ rest = front ++ (Bytes.littleEndian 2 n ++ back)) :
      Bytes.word (setup.encode ++ rest) offset 2 = n := by
    rw [shape]
    exact Bytes.word_littleEndian place small
  let head : Bytes := [setup.requestType, setup.request]
  let value := Bytes.littleEndian 2 setup.value.toNat
  let index := Bytes.littleEndian 2 setup.index.toNat
  let length := Bytes.littleEndian 2 setup.length.toNat
  have valueField := field head (index ++ (length ++ rest)) setup.value.toNat 2
    setup.value.toNat_lt rfl (by simp [encode, head, index, length])
  have indexField := field (head ++ value) (length ++ rest) setup.index.toNat 4
    setup.index.toNat_lt (by simp [head, value]) (by simp [encode, head, value, length])
  have lengthField := field (head ++ (value ++ index)) rest setup.length.toNat 6
    setup.length.toNat_lt (by simp [head, value, index]) (by simp [encode, head, value, index])
  have requestType : (setup.encode ++ rest).getD 0 0 = setup.requestType := rfl
  have request : (setup.encode ++ rest).getD 1 0 = setup.request := rfl
  simp only [parse?, long, valueField, indexField, lengthField, requestType, request]
  simp

def describe (setup : Setup) : String :=
  s!"SetupPacket \x7b request_type: {setup.requestType.toNat}, request: {setup.request.toNat}, "
    ++ s!"value: {setup.value.toNat}, index: {setup.index.toNat}, length: {setup.length.toNat} \x7d"

end Setup

end BulkOnly
