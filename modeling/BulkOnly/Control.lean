import BulkOnly.Setup

set_option autoImplicit false

namespace BulkOnly

inductive ControlRequest where
  | bulkOnlyReset
  | maxLun
  | deviceStatus
  | haltStatus (pipe : Pipe)
  | haltFeature (pipe : Pipe) (address : UInt8) (halt : Bool)
  | remoteWakeup
  | descriptor (kind index : UInt8) (language : UInt16)
  | configuration
  | configure (value : UInt8)
  | interface
  | selectInterface
  deriving DecidableEq, Repr

namespace ControlRequest

-- Class requests are recognised by the whole request type, direction included.
def ofClass? (setup : Setup) : Option ControlRequest :=
  if setup.requestType = 0x21 ∧ setup.request = 0xff ∧ setup.value = 0 ∧ setup.length = 0 then
    some bulkOnlyReset
  else if setup.requestType = 0xa1 ∧ setup.request = 0xfe ∧ setup.value = 0 ∧ 1 ≤ setup.length then
    some maxLun
  else none

def ofDevice? (setup : Setup) : Option ControlRequest :=
  if setup.request = 0x00 then some deviceStatus
  else if (setup.request = 0x01 ∨ setup.request = 0x03) ∧ setup.value = 1 then some remoteWakeup
  else if setup.request = 0x06 then
    some (descriptor (setup.value >>> 8).toUInt8 setup.value.toUInt8 setup.index)
  else if setup.request = 0x08 then some configuration
  else if setup.request = 0x09 then some (configure setup.value.toUInt8)
  else none

def ofInterface? (setup : Setup) : Option ControlRequest :=
  if setup.request = 0x00 then some deviceStatus
  else if setup.request = 0x0a then some interface
  else if setup.request = 0x0b ∧ setup.value = 0 then some selectInterface
  else none

def ofEndpoint? (setup : Setup) : Option ControlRequest :=
  (Pipe.ofAddress? setup.index.toUInt8).bind fun pipe =>
    if setup.request = 0x00 then some (haltStatus pipe)
    else if setup.request = 0x01 ∧ setup.value = 0 then
      some (haltFeature pipe setup.index.toUInt8 false)
    else if setup.request = 0x03 ∧ setup.value = 0 then
      some (haltFeature pipe setup.index.toUInt8 true)
    else none

-- Standard requests are recognised by code and recipient, whatever the direction bit says.
def ofSetup? (setup : Setup) : Option ControlRequest :=
  if setup.typeBits = 0x20 then ofClass? setup
  else if setup.typeBits = 0x00 then
    if setup.recipient = 0 then ofDevice? setup
    else if setup.recipient = 1 then ofInterface? setup
    else if setup.recipient = 2 then ofEndpoint? setup
    else none
  else none

end ControlRequest

end BulkOnly
