import Mathlib.Data.List.Basic

/-!
# IND$FILE messages

A message is a sub-command and a payload.  It travels in a structured field of
its own type.
-/

namespace Pure3270

/-- The ASCII bytes of a text, or nothing for a text with other characters. -/
def asciiEncode (text : String) : Option (List UInt8) :=
  if text.toList.all (·.toNat < 128) then
    some (text.toList.map fun char => UInt8.ofNat char.toNat)
  else none

structure IndFileMessage where
  subCommand : UInt8
  payload : List UInt8
  deriving DecidableEq, Repr

namespace IndFileMessage

def createUploadRequest (filename : String) : Option IndFileMessage :=
  (asciiEncode filename).map fun filenameBytes => ⟨0x00, filenameBytes ++ [0x00]⟩

def createDownloadRequest (filename : String) : Option IndFileMessage :=
  (asciiEncode filename).map fun filenameBytes => ⟨0x01, filenameBytes ++ [0x00]⟩

def createData (data : List UInt8) : IndFileMessage := ⟨0x02, data⟩

def createEof : IndFileMessage := ⟨0x03, []⟩

def createError (errorMsg : String) : Option IndFileMessage :=
  (asciiEncode errorMsg).map fun errorBytes => ⟨0x04, errorBytes⟩

def toBytes (message : IndFileMessage) : List UInt8 :=
  message.subCommand :: message.payload

def fromBytes : List UInt8 → Option IndFileMessage
  | [] => none
  | subCommand :: payload => some ⟨subCommand, payload⟩

@[simp] theorem fromBytes_toBytes (message : IndFileMessage) :
    fromBytes message.toBytes = some message := rfl

/-- `_send_ind_file_message`: the structured field that goes to the session. -/
def structuredField (message : IndFileMessage) : List UInt8 :=
  let messageData := message.toBytes
  let length := messageData.length + 3
  [0x88, UInt8.ofNat ((length >>> 8) &&& 0xFF), UInt8.ofNat (length &&& 0xFF), 0xD0] ++
    messageData

end IndFileMessage

end Pure3270
