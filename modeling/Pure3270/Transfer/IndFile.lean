import Pure3270.Transfer.IndFileMessage

/-!
# File transfers

One transfer is active at a time.  The messages of the host end it while the
transfer runs; a transfer that goes on afterwards finds none active.
-/

namespace Pure3270

inductive TransferDirection where
  | upload
  | download
  deriving DecidableEq, Repr

structure IndFileTransfer where
  direction : TransferDirection
  /-- A file handle is open. -/
  fileHandle : Bool
  deriving DecidableEq, Repr

structure IndFile where
  activeTransfer : Option IndFileTransfer
  /-- `_transfer_complete_event`, if there is one, and whether it is set. -/
  transferCompleteEvent : Option Bool
  /-- The local file, if it exists. -/
  localFile : Option (List UInt8)
  deriving DecidableEq, Repr

namespace IndFile

/-- No transfer is active and none is waited for. -/
def idle (localFile : Option (List UInt8)) : IndFile where
  activeTransfer := none
  transferCompleteEvent := none
  localFile := localFile

/-- A transfer that opens the local file for writing. -/
def startDownload (indFile : IndFile) : IndFile :=
  { indFile with
    activeTransfer := some { direction := .download, fileHandle := true }
    localFile := some [] }

/-- A transfer whose file the caller opens. -/
def startUpload (indFile : IndFile) : IndFile :=
  { indFile with activeTransfer := some { direction := .upload, fileHandle := false } }

/-- `active_transfer.abort(…)` and `active_transfer = None`, if there is one: the
file of a download is removed. -/
def abort (indFile : IndFile) : IndFile :=
  match indFile.activeTransfer with
  | none => indFile
  | some transfer =>
      { indFile with
        activeTransfer := none
        localFile := if transfer.direction = .download then none else indFile.localFile }

/-- `active_transfer.finish()` and `active_transfer = None`. -/
def finish (indFile : IndFile) : IndFile :=
  { indFile with activeTransfer := none }

/-- Set the event, if there is one. -/
def signal (indFile : IndFile) : IndFile :=
  { indFile with
    transferCompleteEvent := indFile.transferCompleteEvent.map fun _ => true }

/-- `handle_incoming_message`.  `fails` says that the operation on the file that the
message leads to raises, which aborts the transfer; messages about requests of the
host are only logged. -/
def handleIncomingMessage (message : IndFileMessage) (fails : Bool) (indFile : IndFile) :
    IndFile :=
  match indFile.activeTransfer with
  | none => indFile
  | some transfer =>
      if message.subCommand = 0x02 then
        if transfer.fileHandle ∧ transfer.direction = .download then
          if fails then indFile.abort.signal
          else
            { indFile with
              localFile := indFile.localFile.map fun content => content ++ message.payload }
        else indFile
      else if message.subCommand = 0x03 then
        if transfer.fileHandle ∧ fails then indFile.abort.signal
        else indFile.signal.finish
      else if message.subCommand = 0x04 then indFile.abort.signal
      else indFile

theorem handleIncomingMessage_inactive {indFile : IndFile}
    (inactive : indFile.activeTransfer = none) (message : IndFileMessage) (fails : Bool) :
    indFile.handleIncomingMessage message fails = indFile := by
  unfold handleIncomingMessage
  rw [inactive]

end IndFile

end Pure3270
