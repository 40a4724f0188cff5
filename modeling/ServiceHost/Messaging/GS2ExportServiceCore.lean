import ServiceHost.Messaging.GS2MessageCore

/-!
`GS2ExportService.ProcessGS2Data`: the files of a folder are read in the order of their times,
sent as one message and then removed. What the file system and the receiver answer is given.
-/

namespace ServiceHost.Messaging

open Library

structure FileInfo where
  name : String
  lastWriteTimeUtc : Int
deriving DecidableEq, Repr

structure Surroundings where
  getFiles : Except SystemException (List FileInfo)
  readToEnd : FileInfo → Except SystemException Text
  sendEmbeddedTextMessage : Option SystemException
  processedPath : Option String
  remove : FileInfo → Option SystemException

/-- The messages that were sent, with their types, and the files that were removed, with the
folder they were moved to; without a folder they were deleted. -/
structure Spool where
  sent : List (Option Text × Text)
  removed : List (FileInfo × Option String)

namespace GS2ExportService

/-- `DateComparer` -/
def compare (file1 file2 : FileInfo) : Int :=
  if file1.lastWriteTimeUtc = file2.lastWriteTimeUtc then 0
  else if file1.lastWriteTimeUtc < file2.lastWriteTimeUtc then -1
  else 1

/-- `SortedList.Add` does not take a key that compares as equal with one that is there. -/
def addFile (file : FileInfo) : List FileInfo → Except SystemException (List FileInfo)
  | [] => pure [file]
  | other :: rest =>
      if compare file other = 0 then throw (.argument "Item has already been added.")
      else if compare file other < 0 then pure (file :: other :: rest)
      else do
        let rest ← addFile file rest
        return other :: rest

def sortFiles : List FileInfo → List FileInfo → Except SystemException (List FileInfo)
  | [], list => pure list
  | file :: files, list => do
      let list ← addFile file list
      sortFiles files list

section Process

variable {V : Type} (formats : Formats V) (culture : Culture) (around : Surroundings)

def appendFiles : List FileInfo → GS2Message → Except SystemException GS2Message
  | [], gs2 => pure gs2
  | file :: files, gs2 => do
      let fileText ← around.readToEnd file
      match appendGS2Message formats false (parse culture fileText) gs2 with
      | (.ok _, gs2) => appendFiles files gs2
      | (.error exception, _) => throw exception

def sendMessage (gs2 : GS2Message) : Program Spool SystemException Unit := do
  Program.call around.sendEmbeddedTextMessage
  Program.change fun spool => { spool with sent := spool.sent ++ [(gs2.messageType, gs2.toString)] }

def sendFilled (gs2 : GS2Message) : Program Spool SystemException Unit :=
  if gs2.objects.length = 0 then return () else sendMessage around gs2

def forwardFiles (id : Text) (now : UtcTime) : Program Spool SystemException (List FileInfo) := do
  let files ← Program.ofExcept around.getFiles
  let list ← Program.ofExcept (sortFiles files [])
  if list.length = 0 then return list
  else do
    let gs2 ← Program.ofExcept (appendFiles formats culture around list { GS2Message.default with id := some id, time := now })
    sendFilled around gs2
    return list

def removeFile (file : FileInfo) : Program Spool SystemException Unit := do
  Program.call (around.remove file)
  Program.change fun spool => { spool with removed := spool.removed ++ [(file, around.processedPath)] }

/-- `new GS2Message()` has the new id and the time of the call. -/
def processGS2Data (id : Text) (now : UtcTime) : Program Spool SystemException Bool := do
  let list ← forwardFiles formats culture around id now
  if list.length = 0 then return false
  else do
    Program.forEach (removeFile around) list
    return true

end Process

end GS2ExportService

end ServiceHost.Messaging
