import BulkOnly.Bytes

set_option autoImplicit false

namespace BulkOnly

-- A `fault` stands for a source that breaks down when it is asked.
inductive Descriptor where
  | found (data : Bytes)
  | fault
  deriving DecidableEq, Repr

structure Descriptor.Entry where
  kind : UInt8
  index : UInt8
  language : Option UInt16 := none
  descriptor : Descriptor
  deriving DecidableEq, Repr

abbrev Descriptors := List Descriptor.Entry

namespace Descriptors

def serves (entry : Descriptor.Entry) (kind index : UInt8) (language : UInt16) : Bool :=
  entry.kind = kind && entry.index = index && entry.language.all (· = language)

def lookup? (table : Descriptors) (kind index : UInt8) (language : UInt16) : Option Descriptor :=
  (table.find? (serves · kind index language)).map Descriptor.Entry.descriptor

end Descriptors

end BulkOnly
