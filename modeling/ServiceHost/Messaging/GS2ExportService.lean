import Mathlib.Data.List.Nodup
import ServiceHost.Messaging.GS2ExportServiceCore
import ServiceHost.Messaging.GS2Survival

/-!
The batch of files is forwarded before a file is removed. The batch takes the place of the first
object that it finds by its own start message, and two files of one time are refused.
-/

namespace ServiceHost.Messaging

open Library

namespace GS2ExportService

section Order

def inOrder (files : List FileInfo) : List FileInfo :=
  files.mergeSort fun file other => decide (file.lastWriteTimeUtc ≤ other.lastWriteTimeUtc)

def Ascending (list : List FileInfo) : Prop :=
  list.Pairwise fun file other => file.lastWriteTimeUtc < other.lastWriteTimeUtc

theorem addFile_ok {file : FileInfo} {list : List FileInfo} (ascending : Ascending list)
    (fresh : ∀ other ∈ list, file.lastWriteTimeUtc ≠ other.lastWriteTimeUtc) :
    ∃ later, addFile file list = .ok later ∧ later.Perm (file :: list) ∧ Ascending later := by
  induction list with
  | nil => exact ⟨[file], rfl, .refl _, List.pairwise_singleton _ _⟩
  | cons other rest ih =>
      obtain ⟨first, ascendingRest⟩ := List.pairwise_cons.mp ascending
      have different := fresh other List.mem_cons_self
      rw [addFile, compare, if_neg different]
      by_cases before : file.lastWriteTimeUtc < other.lastWriteTimeUtc
      · refine ⟨file :: other :: rest, ?_, .refl _, List.pairwise_cons.mpr ⟨fun third member => ?_, ascending⟩⟩
        · rw [if_pos before]
          rfl
        · rcases List.mem_cons.mp member with rfl | later
          · exact before
          · exact before.trans (first third later)
      · obtain ⟨later, added, perm, ascendingLater⟩ := ih ascendingRest
          fun third member => fresh third (List.mem_cons_of_mem other member)
        refine ⟨other :: later, ?_, ?_, List.pairwise_cons.mpr ⟨fun third member => ?_, ascendingLater⟩⟩
        · rw [if_neg before, added]
          rfl
        · exact (perm.cons other).trans (List.Perm.swap file other rest)
        · rcases List.mem_cons.mp (perm.mem_iff.mp member) with rfl | inRest
          · omega
          · exact first third inRest

theorem addFile_error {file other : FileInfo} {list : List FileInfo} (ascending : Ascending list) (member : other ∈ list)
    (same : file.lastWriteTimeUtc = other.lastWriteTimeUtc) : ∃ exception, addFile file list = .error exception := by
  induction list with
  | nil => cases member
  | cons head rest ih =>
      obtain ⟨first, ascendingRest⟩ := List.pairwise_cons.mp ascending
      rw [addFile, compare]
      by_cases equal : file.lastWriteTimeUtc = head.lastWriteTimeUtc
      · rw [if_pos equal]
        exact ⟨_, rfl⟩
      · have inRest : other ∈ rest := by
          rcases List.mem_cons.mp member with rfl | inRest
          · exact absurd same equal
          · exact inRest
        have behind := first other inRest
        obtain ⟨exception, failed⟩ := ih ascendingRest inRest
        have notBefore : ¬file.lastWriteTimeUtc < head.lastWriteTimeUtc := by omega
        rw [if_neg equal, if_neg notBefore, failed]
        exact ⟨exception, rfl⟩

theorem sortFiles_cases {files list : List FileInfo} (ascending : Ascending list) :
    (((list ++ files).map FileInfo.lastWriteTimeUtc).Nodup ∧ ∃ later, sortFiles files list = .ok later ∧
      later.Perm (list ++ files) ∧ Ascending later) ∨
    ¬((list ++ files).map FileInfo.lastWriteTimeUtc).Nodup ∧ ∃ exception, sortFiles files list = .error exception := by
  induction files generalizing list with
  | nil =>
      rw [List.append_nil]
      refine .inl ⟨?_, list, rfl, .refl _, ascending⟩
      exact (List.pairwise_map.mpr (ascending.imp fun before => ne_of_lt before) :)
  | cons file files ih =>
      by_cases fresh : ∀ other ∈ list, file.lastWriteTimeUtc ≠ other.lastWriteTimeUtc
      · obtain ⟨later, added, perm, ascendingLater⟩ := addFile_ok ascending fresh
        have moved : (later ++ files).Perm (list ++ file :: files) :=
          (perm.append_right files).trans List.perm_middle.symm
        rw [sortFiles, added, ok_bind, ← (moved.map FileInfo.lastWriteTimeUtc).nodup_iff]
        rcases ih ascendingLater with ⟨nodup, all, sorted, allPerm, ascendingAll⟩ | repeated
        · exact .inl ⟨nodup, all, sorted, allPerm.trans moved, ascendingAll⟩
        · exact .inr repeated
      · rw [not_forall] at fresh
        obtain ⟨other, again⟩ := fresh
        rw [Classical.not_imp, not_not] at again
        obtain ⟨exception, failed⟩ := addFile_error ascending again.1 again.2
        refine .inr ⟨fun nodup => ?_, exception, ?_⟩
        · rw [List.map_append, List.nodup_append] at nodup
          exact nodup.2.2 _ (List.mem_map_of_mem again.1) _ (List.mem_map_of_mem List.mem_cons_self) again.2.symm
        · rw [sortFiles, failed, error_bind]

theorem inOrder_perm (files : List FileInfo) : (inOrder files).Perm files := List.mergeSort_perm files _

theorem eq_inOrder {files later : List FileInfo} (nodup : (files.map FileInfo.lastWriteTimeUtc).Nodup)
    (perm : later.Perm files) (ascending : Ascending later) : later = inOrder files := by
  have ordered : (inOrder files).Pairwise fun file other => file.lastWriteTimeUtc ≤ other.lastWriteTimeUtc := by
    have sorted : (inOrder files).Pairwise fun file other =>
        decide (file.lastWriteTimeUtc ≤ other.lastWriteTimeUtc) := List.pairwise_mergeSort
      (fun a b c first second => by simpa using le_trans (by simpa using first) (by simpa using second))
      (fun a b => by simpa using le_total a.lastWriteTimeUtc b.lastWriteTimeUtc) files
    exact sorted.imp fun before => of_decide_eq_true before
  refine List.Perm.eq_of_pairwise (fun file other first second before after => ?_)
    (ascending.imp fun before => le_of_lt before) ordered (perm.trans (inOrder_perm files).symm)
  exact List.inj_on_of_nodup_map nodup (perm.mem_iff.mp first) ((inOrder_perm files).mem_iff.mp second)
    (le_antisymm before after)

theorem sortFiles_eq (files : List FileInfo) :
    ((files.map FileInfo.lastWriteTimeUtc).Nodup ∧ sortFiles files [] = .ok (inOrder files)) ∨
    ¬(files.map FileInfo.lastWriteTimeUtc).Nodup ∧ ∃ exception, sortFiles files [] = .error exception := by
  rcases @sortFiles_cases files [] List.Pairwise.nil with ⟨nodup, later, sorted, perm, ascending⟩ | repeated
  · exact .inl ⟨nodup, sorted.trans (congrArg Except.ok (eq_inOrder nodup perm ascending))⟩
  · exact .inr repeated

end Order

section Batch

variable {V : Type} (formats : Formats V) (culture : Culture) {message source : GS2Message}
  {first last : GS2MessageObject} {kept : List GS2MessageObject}

def isOther (messageObject : GS2MessageObject) : Bool :=
  decide (messageObject.type ≠ startMessage ∧ messageObject.type ≠ endMessage)

theorem appendTurn_filled (messageObject : GS2MessageObject) (objects : message.objects = first :: kept ++ [last]) :
    ∃ changed, appendTurn formats source messageObject message =
      (.ok changed, { message with objects := first :: (kept ++ [messageObject].filter isOther) ++ [last] }) := by
  have filled : message.objects ≠ [] := by
    rw [objects]
    exact List.cons_ne_nil _ _
  unfold appendTurn
  rw [Program.bind_of_ok (Program.read_run _ _), if_neg filled]
  by_cases other : messageObject.type ≠ startMessage ∧ messageObject.type ≠ endMessage
  · have inserted : message.objects.dropLast ++ messageObject :: message.objects.getLast?.toList =
        first :: (kept ++ [messageObject]) ++ [last] := by
      rw [objects, List.dropLast_concat, List.getLast?_concat, Option.toList_some]
      simp
    have insert : insertBeforeLast messageObject message =
        (.ok (), { message with objects := first :: (kept ++ [messageObject]) ++ [last] }) := by
      unfold insertBeforeLast
      rw [Program.bind_of_ok (Program.read_run _ _), if_neg filled, Program.change_run, inserted]
    have isIt : isOther messageObject = true := decide_eq_true other
    rw [if_pos other, Program.bind_of_ok insert, List.filter_cons_of_pos isIt]
    exact ⟨true, rfl⟩
  · have isNot : ¬isOther messageObject = true := fun isIt => other (of_decide_eq_true isIt)
    rw [if_neg other, List.filter_cons_of_neg isNot, List.filter_nil, List.append_nil, ← objects]
    exact ⟨false, rfl⟩

theorem appendLoop_filled (objects : List GS2MessageObject) (filled : message.objects = first :: kept ++ [last]) :
    appendLoop formats false source objects message =
      (.ok (), { message with objects := first :: (kept ++ objects.filter isOther) ++ [last] }) := by
  induction objects generalizing message kept with
  | nil =>
      rw [appendLoop, Program.pure_run, List.filter_nil, List.append_nil, ← filled]
  | cons messageObject rest ih =>
      obtain ⟨changed, turn⟩ := appendTurn_filled formats messageObject filled
      rw [appendLoop, Program.bind_of_ok turn, Bool.false_and, if_neg Bool.false_ne_true, ih rfl]
      dsimp only
      rw [List.append_assoc, ← List.filter_append]
      rfl

def headed (message source : GS2Message) : GS2Message :=
  { message with
    messageType := source.messageType
    «to» := source.«to»
    «from» := source.«from»
    gmtReference := source.gmtReference }

def batchObjects (message : GS2Message) (date : Text) (kept : List GS2MessageObject) : List GS2MessageObject :=
  ⟨startMessage, startText formats message date⟩ :: kept ++ [⟨endMessage, endText formats message.id⟩]

theorem append_first {messageObject : GS2MessageObject} {rest : List GS2MessageObject} (empty : message.objects = [])
    (objects : source.objects = messageObject :: rest) {date : Text} (dated : formats.toDateTime message.time = .ok date) :
    appendGS2Message formats false source message =
      (.ok (), { headed message source with
        objects := batchObjects formats (headed message source) date (rest.filter isOther) }) := by
  have turn : appendTurn formats source messageObject message =
      (.ok true, { headed message source with objects := batchObjects formats (headed message source) date [] }) := by
    have start : addStartMessage formats (headed message source) = (.ok (),
        { headed message source with objects := [⟨startMessage, startText formats (headed message source) date⟩] }) := by
      have none : (headed message source).objects = [] := empty
      unfold addStartMessage
      rw [Program.bind_of_ok (Program.read_run _ _)]
      have dateRun : (Program.ofExcept (formats.toDateTime (headed message source).time) : Gs2 Text) (headed message source) =
          (.ok date, headed message source) := by
        rw [Program.ofExcept_run]
        exact congrArg (·, headed message source) dated
      rw [Program.bind_of_ok dateRun, Program.change_run, none]
      rfl
    unfold appendTurn
    rw [Program.bind_of_ok (Program.read_run _ _), if_pos empty, Program.bind_of_ok (Program.change_run _ _)]
    have taken : { message with
        messageType := source.messageType, «to» := source.«to», «from» := source.«from»,
        gmtReference := source.gmtReference } = headed message source := rfl
    rw [taken, Program.bind_of_ok start]
    rfl
  unfold appendGS2Message
  rw [objects, appendLoop, Program.bind_of_ok turn, Bool.false_and, if_neg Bool.false_ne_true,
    appendLoop_filled formats rest rfl, List.nil_append]
  rfl

theorem append_nothing (nothing : source.objects = []) :
    appendGS2Message formats false source message = (.ok (), message) := by
  unfold appendGS2Message
  rw [nothing]
  rfl

theorem append_first_error {messageObject : GS2MessageObject} {rest : List GS2MessageObject} (empty : message.objects = [])
    (objects : source.objects = messageObject :: rest) {exception : SystemException}
    (undated : formats.toDateTime message.time = .error exception) :
    (appendGS2Message formats false source message).1 = .error exception := by
  have start : addStartMessage formats (headed message source) = (.error exception, headed message source) := by
    unfold addStartMessage
    rw [Program.bind_of_ok (Program.read_run _ _)]
    refine Program.bind_of_error ?_
    rw [Program.ofExcept_run]
    exact congrArg (·, headed message source) undated
  have turn : appendTurn formats source messageObject message = (.error exception, headed message source) := by
    unfold appendTurn
    rw [Program.bind_of_ok (Program.read_run _ _), if_pos empty, Program.bind_of_ok (Program.change_run _ _)]
    exact Program.bind_of_error start
  unfold appendGS2Message
  rw [objects, appendLoop, Program.bind_of_error turn]

end Batch

section Files

variable {V : Type} (formats : Formats V) (culture : Culture) (around : Surroundings)

def objectsOf (file : FileInfo) : List GS2MessageObject :=
  match around.readToEnd file with
  | .ok fileText => (parse culture fileText).objects
  | .error _ => []

def batchHeader (gs2 : GS2Message) : List FileInfo → GS2Message
  | [] => gs2
  | file :: files =>
      match around.readToEnd file with
      | .ok fileText =>
          if (parse culture fileText).objects.isEmpty then batchHeader gs2 files else headed gs2 (parse culture fileText)
      | .error _ => batchHeader gs2 files

def Readable (files : List FileInfo) : Prop := ∀ file ∈ files, ∃ fileText, around.readToEnd file = .ok fileText

variable {around} {files : List FileInfo} {message : GS2Message}

theorem objectsOf_ok {file : FileInfo} {fileText : Text} (read : around.readToEnd file = .ok fileText) :
    objectsOf culture around file = (parse culture fileText).objects := by
  rw [objectsOf, read]

theorem appendFiles_cons {file : FileInfo} {fileText : Text} (read : around.readToEnd file = .ok fileText)
    (files : List FileInfo) (gs2 : GS2Message) : appendFiles formats culture around (file :: files) gs2 =
      match appendGS2Message formats false (parse culture fileText) gs2 with
      | (.ok _, gs2) => appendFiles formats culture around files gs2
      | (.error exception, _) => throw exception := by
  rw [appendFiles, read]
  rfl

theorem Readable.tail {file : FileInfo} (readable : Readable around (file :: files)) : Readable around files :=
  fun other member => readable other (List.mem_cons_of_mem file member)

theorem appendFiles_filled {first last : GS2MessageObject} {kept : List GS2MessageObject} (readable : Readable around files)
    (filled : message.objects = first :: kept ++ [last]) : appendFiles formats culture around files message =
      .ok { message with
        objects := first :: (kept ++ (files.flatMap (objectsOf culture around)).filter isOther) ++ [last] } := by
  induction files generalizing message kept with
  | nil =>
      rw [appendFiles, List.flatMap_nil, List.filter_nil, List.append_nil, ← filled]
      rfl
  | cons file files ih =>
      obtain ⟨fileText, read⟩ := readable file List.mem_cons_self
      have appended := @appendLoop_filled V formats message (parse culture fileText) _ _ _ (parse culture fileText).objects filled
      rw [appendFiles_cons formats culture read, appendGS2Message, appended]
      dsimp only
      rw [ih readable.tail rfl, List.flatMap_cons, objectsOf_ok culture read, List.filter_append, List.append_assoc]

theorem appendFiles_empty (readable : Readable around files) (empty : message.objects = []) :
    (files.flatMap (objectsOf culture around) = [] → appendFiles formats culture around files message = .ok message) ∧
    ∀ first rest, files.flatMap (objectsOf culture around) = first :: rest →
      (∀ date, formats.toDateTime message.time = .ok date → appendFiles formats culture around files message =
        .ok { batchHeader culture around message files with
          objects := batchObjects formats (batchHeader culture around message files) date (rest.filter isOther) }) ∧
      ∀ exception, formats.toDateTime message.time = .error exception →
        appendFiles formats culture around files message = .error exception := by
  induction files with
  | nil => exact ⟨fun _ => rfl, fun first rest none => (nomatch none)⟩
  | cons file files ih =>
      obtain ⟨fileText, read⟩ := readable file List.mem_cons_self
      obtain ⟨without, some⟩ := ih readable.tail
      rw [appendFiles_cons formats culture read, List.flatMap_cons, objectsOf_ok culture read]
      cases objects : (parse culture fileText).objects with
      | nil =>
          have header : batchHeader culture around message (file :: files) = batchHeader culture around message files := by
            rw [batchHeader, read]
            dsimp only
            rw [objects]
            rfl
          rw [append_nothing formats objects, List.nil_append, header]
          exact ⟨without, some⟩
      | cons messageObject more =>
          have header : batchHeader culture around message (file :: files) = headed message (parse culture fileText) := by
            rw [batchHeader, read]
            dsimp only
            rw [objects]
            rfl
          refine ⟨fun none => (nomatch none), fun first rest split => ⟨fun date dated => ?_, fun exception undated => ?_⟩⟩
          · rw [append_first formats empty objects dated]
            dsimp only
            have filled := @appendFiles_filled V formats culture around files
              { headed message (parse culture fileText) with
                objects := batchObjects formats (headed message (parse culture fileText)) date (more.filter isOther) }
              _ _ _ readable.tail rfl
            have behind : more ++ files.flatMap (objectsOf culture around) = rest := (List.cons.inj split).2
            rw [filled, header, ← behind, List.filter_append]
            rfl
          · have failed := append_first_error formats empty objects undated
            cases run : appendGS2Message formats false (parse culture fileText) message with
            | mk outcome later =>
                rw [run] at failed
                dsimp only at failed
                rw [failed]
                rfl

theorem appendFiles_unreadable {file : FileInfo} (member : file ∈ files) {exception : SystemException}
    (unread : around.readToEnd file = .error exception) (message : GS2Message) :
    ∃ exception, appendFiles formats culture around files message = .error exception := by
  induction files generalizing message with
  | nil => cases member
  | cons other files ih =>
      cases read : around.readToEnd other with
      | error failure =>
          rw [appendFiles, read]
          exact ⟨failure, rfl⟩
      | ok fileText =>
          have later : file ∈ files := by
            rcases List.mem_cons.mp member with rfl | later
            · rw [unread] at read
              cases read
            · exact later
          rw [appendFiles_cons formats culture read]
          cases run : appendGS2Message formats false (parse culture fileText) message with
          | mk outcome gs2 =>
              cases outcome with
              | ok _ => exact ih later gs2
              | error failure => exact ⟨failure, rfl⟩

end Files

section Run

variable {V : Type} (formats : Formats V) (culture : Culture) (around : Surroundings) (id : Text) (now : UtcTime)

theorem removeFiles_run {list : List FileInfo} (removable : ∀ file ∈ list, around.remove file = none) (spool : Spool) :
    Program.forEach (removeFile around) list spool =
      (.ok (), { spool with removed := spool.removed ++ list.map fun file => (file, around.processedPath) }) := by
  induction list generalizing spool with
  | nil =>
      rw [Program.forEach, Program.pure_run, List.map_nil, List.append_nil]
  | cons file rest ih =>
      have first : removeFile around file spool =
          (.ok (), { spool with removed := spool.removed ++ [(file, around.processedPath)] }) := by
        unfold removeFile
        rw [removable file List.mem_cons_self, Program.bind_of_ok (Program.call_none _)]
        rfl
      rw [Program.forEach, Program.bind_of_ok first, ih fun other member => removable other (List.mem_cons_of_mem file member),
        List.map_cons, List.append_assoc]
      rfl

theorem removeFiles_ok {list : List FileInfo} {spool : Spool}
    (returned : (Program.forEach (removeFile around) list spool).1 = .ok ()) : ∀ file ∈ list, around.remove file = none := by
  induction list generalizing spool with
  | nil => exact fun _ none => nomatch none
  | cons file rest ih =>
      cases removed : around.remove file with
      | some exception =>
          have failed : removeFile around file spool = (.error exception, spool) := by
            unfold removeFile
            rw [removed]
            exact Program.bind_of_error (Program.call_some _ _)
          rw [Program.forEach, Program.bind_of_error failed] at returned
          cases returned
      | none =>
          have first : removeFile around file spool =
              (.ok (), { spool with removed := spool.removed ++ [(file, around.processedPath)] }) := by
            unfold removeFile
            rw [removed, Program.bind_of_ok (Program.call_none _)]
            rfl
          rw [Program.forEach, Program.bind_of_ok first] at returned
          intro other member
          rcases List.mem_cons.mp member with rfl | later
          · exact removed
          · exact ih returned other later

theorem forwardFiles_keeps : Program.Keeps Spool.removed (forwardFiles formats culture around id now) := by
  refine Program.Keeps.bind (Program.Keeps.ofExcept _) fun files => Program.Keeps.bind (Program.Keeps.ofExcept _) fun list => ?_
  split
  · exact Program.Keeps.pure list
  · refine Program.Keeps.bind (Program.Keeps.ofExcept _) fun gs2 => ?_
    refine Program.Keeps.bind ?_ fun _ => Program.Keeps.pure list
    unfold sendFilled
    split
    · exact Program.Keeps.pure ()
    · exact Program.Keeps.bind (Program.Keeps.call _) fun _ => Program.Keeps.change fun _ => rfl

def allObjects (files : List FileInfo) : List GS2MessageObject := (inOrder files).flatMap (objectsOf culture around)

structure Well (files : List FileInfo) : Prop where
  listed : around.getFiles = .ok files
  readable : Readable around files
  dated : allObjects culture around files ≠ [] → ∃ date, formats.toDateTime now = .ok date
  accepted : allObjects culture around files ≠ [] → around.sendEmbeddedTextMessage = none
  removable : ∀ file ∈ files, around.remove file = none

def batch (files : List FileInfo) : GS2Message :=
  batchHeader culture around { GS2Message.default with id := some id, time := now } (inOrder files)

def batchText (files : List FileInfo) (date : Text) (kept : List GS2MessageObject) : Text :=
  startText formats (batch culture around id now files) date ++ kept.flatMap GS2MessageObject.text ++
    endText formats (batch culture around id now files).id

variable {files : List FileInfo} {around}

theorem toString_batch (message : GS2Message) (date : Text) (kept : List GS2MessageObject) :
    ({ message with objects := batchObjects formats message date kept } : GS2Message).toString =
      startText formats message date ++ kept.flatMap GS2MessageObject.text ++ endText formats message.id := by
  rw [GS2Message.toString, batchObjects, List.cons_append, List.flatMap_cons, List.flatMap_append, List.flatMap_singleton,
    List.append_assoc]

theorem readable_inOrder (readable : Readable around files) : Readable around (inOrder files) :=
  fun file member => readable file ((inOrder_perm files).mem_iff.mp member)

theorem forwardFiles_well (well : Well formats culture around now files)
    (nodup : (files.map FileInfo.lastWriteTimeUtc).Nodup) :
    (allObjects culture around files = [] → forwardFiles formats culture around id now ⟨[], []⟩ = (.ok (inOrder files), ⟨[], []⟩)) ∧
    ∀ first rest date, allObjects culture around files = first :: rest → formats.toDateTime now = .ok date →
      forwardFiles formats culture around id now ⟨[], []⟩ = (.ok (inOrder files),
        ⟨[((batch culture around id now files).messageType, batchText formats culture around id now files date (rest.filter isOther))], []⟩) := by
  have sorted : sortFiles files [] = .ok (inOrder files) := by
    rcases sortFiles_eq files with ⟨_, sorted⟩ | ⟨repeated, _⟩
    · exact sorted
    · exact absurd nodup repeated
  have listed : (Program.ofExcept around.getFiles : Program Spool SystemException (List FileInfo)) ⟨[], []⟩ =
      (.ok files, ⟨[], []⟩) := by rw [Program.ofExcept_run, well.listed]
  have ordered : (Program.ofExcept (sortFiles files []) : Program Spool SystemException (List FileInfo)) ⟨[], []⟩ =
      (.ok (inOrder files), ⟨[], []⟩) := by rw [Program.ofExcept_run, sorted]
  obtain ⟨without, some⟩ := @appendFiles_empty V formats culture around (inOrder files)
    { GS2Message.default with id := some id, time := now } (readable_inOrder well.readable) rfl
  unfold forwardFiles
  rw [Program.bind_of_ok listed, Program.bind_of_ok ordered]
  constructor
  · intro none
    split
    · rfl
    · rw [without none]
      rfl
  · intro first rest date objects dated
    have filled : ¬(inOrder files).length = 0 := by
      intro empty
      have nothing : allObjects culture around files = [] := by
        rw [allObjects, List.length_eq_zero_iff.mp empty, List.flatMap_nil]
      rw [nothing] at objects
      cases objects
    have accepted := well.accepted (by rw [objects]; exact List.cons_ne_nil first rest)
    rw [if_neg filled, (some first rest objects).1 date dated]
    let gs2 : GS2Message :=
      { batch culture around id now files with
        objects := batchObjects formats (batch culture around id now files) date (rest.filter isOther) }
    have sent : sendFilled around gs2 ⟨[], []⟩ = (.ok (), ⟨[(gs2.messageType, gs2.toString)], []⟩) := by
      have full : ¬gs2.objects.length = 0 := by
        change ¬(_ + 1) = 0
        omega
      unfold sendFilled sendMessage
      rw [if_neg full, accepted, Program.bind_of_ok (Program.call_none _)]
      rfl
    have appended : (Program.ofExcept (.ok gs2) : Program Spool SystemException GS2Message) ⟨[], []⟩ =
        (.ok gs2, ⟨[], []⟩) := rfl
    have text : gs2.toString = batchText formats culture around id now files date (rest.filter isOther) :=
      toString_batch formats _ _ _
    rw [text] at sent
    exact (Program.bind_of_ok appended).trans (Program.bind_of_ok sent)

theorem ok_of_ofExcept {A : Type} {outcome : Except SystemException A} {value : A} {spool later : Spool}
    (returned : (Program.ofExcept outcome : Program Spool SystemException A) spool = (.ok value, later)) :
    outcome = .ok value ∧ later = spool := by
  obtain ⟨answer, same⟩ := Prod.mk.inj returned
  exact ⟨answer, same.symm⟩

theorem appendFiles_ok {gs2 : GS2Message} (empty : message.objects = [])
    (appended : appendFiles formats culture around files message = .ok gs2) :
    Readable around files ∧ (gs2.objects = [] ↔ files.flatMap (objectsOf culture around) = []) ∧
      (files.flatMap (objectsOf culture around) ≠ [] → ∃ date, formats.toDateTime message.time = .ok date) := by
  have readable : Readable around files := by
    intro file member
    cases read : around.readToEnd file with
    | ok fileText => exact ⟨fileText, rfl⟩
    | error exception =>
        obtain ⟨failure, unread⟩ := appendFiles_unreadable formats culture member read message
        rw [unread] at appended
        cases appended
  obtain ⟨without, some⟩ := appendFiles_empty formats culture readable empty
  refine ⟨readable, ?_⟩
  cases objects : files.flatMap (objectsOf culture around) with
  | nil =>
      rw [without objects] at appended
      obtain rfl := Except.ok.inj appended
      exact ⟨⟨fun _ => rfl, fun _ => empty⟩, fun none => absurd rfl none⟩
  | cons first rest =>
      cases dated : formats.toDateTime message.time with
      | error exception =>
          rw [(some first rest objects).2 exception dated] at appended
          cases appended
      | ok date =>
          rw [(some first rest objects).1 date dated] at appended
          obtain rfl := Except.ok.inj appended
          exact ⟨⟨fun none => (nomatch none), fun none => (nomatch none)⟩, fun _ => ⟨date, rfl⟩⟩

theorem well_of_returned {more : Bool} {spool : Spool}
    (returned : processGS2Data formats culture around id now ⟨[], []⟩ = (.ok more, spool)) :
    ∃ files, Well formats culture around now files ∧ (files.map FileInfo.lastWriteTimeUtc).Nodup := by
  unfold processGS2Data at returned
  obtain ⟨list, forwarded, run, removed⟩ := Program.ok_of_bind returned
  unfold forwardFiles at run
  obtain ⟨files, _, listing, run⟩ := Program.ok_of_bind run
  obtain ⟨listed, rfl⟩ := ok_of_ofExcept listing
  obtain ⟨ordered, _, sorting, run⟩ := Program.ok_of_bind run
  obtain ⟨sorted, rfl⟩ := ok_of_ofExcept sorting
  rcases sortFiles_eq files with ⟨nodup, sortedEq⟩ | ⟨_, exception, repeated⟩
  · rw [sortedEq] at sorted
    obtain rfl := Except.ok.inj sorted
    refine ⟨files, ?_, nodup⟩
    by_cases none : (inOrder files).length = 0
    · have noFiles : files = [] := by
        rw [← List.length_eq_zero_iff, ← (inOrder_perm files).length_eq]
        exact none
      have noObjects : allObjects culture around files = [] := by
        rw [allObjects, List.length_eq_zero_iff.mp none, List.flatMap_nil]
      rw [noFiles]
      rw [noFiles] at noObjects listed
      exact ⟨listed, fun _ absent => (nomatch absent), fun some => absurd noObjects some, fun some => absurd noObjects some,
        fun _ absent => (nomatch absent)⟩
    · rw [if_neg none] at run
      obtain ⟨gs2, _, appending, run⟩ := Program.ok_of_bind run
      obtain ⟨appended, rfl⟩ := ok_of_ofExcept appending
      obtain ⟨readable, filled, dated⟩ := @appendFiles_ok V formats culture around (inOrder files) _ gs2 rfl appended
      obtain ⟨_, sentSpool, sending, run⟩ := Program.ok_of_bind run
      obtain ⟨sameList, sameSpool⟩ := Prod.mk.inj run
      obtain rfl := Except.ok.inj sameList
      rw [if_neg none] at removed
      obtain ⟨_, _, removing, _⟩ := Program.ok_of_bind removed
      have removable := removeFiles_ok around (congrArg Prod.fst removing)
      refine ⟨listed, fun file member => readable file ((inOrder_perm files).mem_iff.mpr member), dated, ?_,
        fun file member => removable file ((inOrder_perm files).mem_iff.mpr member)⟩
      intro some
      have full : ¬gs2.objects.length = 0 := fun empty => some (filled.mp (List.length_eq_zero_iff.mp empty))
      unfold sendFilled sendMessage at sending
      rw [if_neg full] at sending
      obtain ⟨_, _, called, _⟩ := Program.ok_of_bind sending
      cases answer : around.sendEmbeddedTextMessage with
      | none => rfl
      | some exception =>
          rw [answer] at called
          cases called
  · rw [repeated] at sorted
    cases sorted

variable (files around)

structure ForwardsBatch : Prop where
  returned : ∀ more spool, processGS2Data formats culture around id now ⟨[], []⟩ = (.ok more, spool) →
    ∃ files, around.getFiles = .ok files ∧
      spool.removed = (inOrder files).map (fun file => (file, around.processedPath)) ∧
      (allObjects culture around files = [] → spool.sent = []) ∧
      (allObjects culture around files ≠ [] → ∃ date, formats.toDateTime now = .ok date ∧
        spool.sent = [((batch culture around id now files).messageType,
          batchText formats culture around id now files date ((allObjects culture around files).filter isOther))])
  failed : ∀ exception spool, forwardFiles formats culture around id now ⟨[], []⟩ = (.error exception, spool) →
    processGS2Data formats culture around id now ⟨[], []⟩ = (.error exception, spool) ∧ spool.removed = []
  goesWell : ∀ files, Well formats culture around now files →
    ∃ more spool, processGS2Data formats culture around id now ⟨[], []⟩ = (.ok more, spool)

def StartsBatch : Prop :=
  ∀ first, (allObjects culture around files).head? = some first → isOther first = false

variable {files around}

theorem processGS2Data_forwarded {sent : List (Option Text × Text)} (well : Well formats culture around now files)
    (forwarded : forwardFiles formats culture around id now ⟨[], []⟩ = (.ok (inOrder files), ⟨sent, []⟩)) :
    ∃ more, processGS2Data formats culture around id now ⟨[], []⟩ =
      (.ok more, ⟨sent, (inOrder files).map fun file => (file, around.processedPath)⟩) := by
  unfold processGS2Data
  rw [Program.bind_of_ok forwarded]
  by_cases none : (inOrder files).length = 0
  · rw [if_pos none, List.length_eq_zero_iff.mp none]
    exact ⟨false, rfl⟩
  · have removable : ∀ file ∈ inOrder files, around.remove file = Option.none :=
      fun file member => well.removable file ((inOrder_perm files).mem_iff.mp member)
    rw [if_neg none, Program.bind_of_ok (removeFiles_run around removable ⟨sent, []⟩)]
    exact ⟨true, rfl⟩

theorem cut_pieces_ne_nil {begins : Text → Bool} {value piece : Text} (member : piece ∈ (cut begins value).2) : piece ≠ [] := by
  induction value with
  | nil => cases member
  | cons unit value ih =>
      rw [cut] at member
      split at member
      · rcases List.mem_cons.mp member with rfl | later
        · exact List.cons_ne_nil _ _
        · exact ih later
      · exact ih member

theorem text_ne_nil {messageObject : GS2MessageObject} (member : messageObject ∈ allObjects culture around files) :
    messageObject.text ≠ [] := by
  obtain ⟨file, _, inFile⟩ := List.mem_flatMap.mp member
  have built (pieces : List Text) (message : GS2Message) : (pieces.foldl addObject message).objects =
      message.objects ++ pieces.map fun piece => ⟨regexMatch piece (text "##"), piece⟩ := by
    induction pieces generalizing message with
    | nil => exact (List.append_nil _).symm
    | cons piece rest ih => rw [List.foldl_cons, ih, addObject_objects, List.append_assoc, List.map_cons]; rfl
  unfold objectsOf at inFile
  split at inFile
  · rename_i fileText _
    rw [parse_eq, built] at inFile
    obtain ⟨piece, isPiece, rfl⟩ := List.mem_map.mp inFile
    exact cut_pieces_ne_nil isPiece
  · cases inFile

/-- A folder is forwarded as a whole when no two files have the same time and the first object of all is a start or an
end message, and otherwise not. -/
theorem processGS2Data_forwards_iff : ForwardsBatch formats culture around id now ↔
    ∀ files, Well formats culture around now files →
      (files.map FileInfo.lastWriteTimeUtc).Nodup ∧ StartsBatch culture around files := by
  constructor
  · intro forwards files well
    obtain ⟨more, spool, run⟩ := forwards.goesWell files well
    obtain ⟨same, wellSame, nodup⟩ := well_of_returned formats culture id now run
    obtain rfl : same = files := Except.ok.inj (wellSame.listed.symm.trans well.listed)
    refine ⟨nodup, fun first head => ?_⟩
    cases objects : allObjects culture around same with
    | nil =>
        rw [objects] at head
        cases head
    | cons other rest =>
        rw [objects] at head
        obtain rfl : other = first := Option.some.inj head
        obtain ⟨listed, answered, _, _, sent⟩ := forwards.returned more spool run
        obtain rfl : listed = same := Except.ok.inj (answered.symm.trans well.listed)
        obtain ⟨date, dated, told⟩ := sent (by rw [objects]; exact List.cons_ne_nil _ _)
        have forwarded := (forwardFiles_well formats culture id now well nodup).2 other rest date objects dated
        obtain ⟨_, ran⟩ := processGS2Data_forwarded formats culture id now well forwarded
        rw [run] at ran
        obtain rfl := (Prod.mk.inj ran).2
        -- the text that was sent lacks the first object
        have texts := (Prod.mk.inj (List.cons.inj told).1).2
        by_contra isIt
        rw [Bool.not_eq_false] at isIt
        unfold batchText at texts
        rw [objects, List.filter_cons_of_pos isIt, List.flatMap_cons] at texts
        have inside : other ∈ allObjects culture around listed := by
          rw [objects]
          exact List.mem_cons_self
        have nonempty := List.length_pos_of_ne_nil (text_ne_nil culture inside)
        have lengths := congrArg List.length texts
        simp only [List.length_append] at lengths
        omega
  · intro condition
    have run (files : List FileInfo) (well : Well formats culture around now files) : ∃ more spool,
        processGS2Data formats culture around id now ⟨[], []⟩ = (.ok more, spool) ∧
          spool.removed = (inOrder files).map (fun file => (file, around.processedPath)) ∧
          (allObjects culture around files = [] → spool.sent = []) ∧
          (allObjects culture around files ≠ [] → ∃ date, formats.toDateTime now = .ok date ∧
            spool.sent = [((batch culture around id now files).messageType,
              batchText formats culture around id now files date ((allObjects culture around files).filter isOther))]) := by
      obtain ⟨nodup, starts⟩ := condition files well
      obtain ⟨without, some⟩ := forwardFiles_well formats culture id now well nodup
      cases objects : allObjects culture around files with
      | nil =>
          obtain ⟨more, ran⟩ := processGS2Data_forwarded formats culture id now well (without objects)
          exact ⟨more, _, ran, rfl, fun _ => rfl, fun none => absurd rfl none⟩
      | cons first rest =>
          obtain ⟨date, dated⟩ := well.dated (by rw [objects]; exact List.cons_ne_nil _ _)
          obtain ⟨more, ran⟩ := processGS2Data_forwarded formats culture id now well (some first rest date objects dated)
          have other : ¬isOther first = true := by
            rw [starts first (by rw [objects]; rfl)]
            exact Bool.false_ne_true
          refine ⟨more, _, ran, rfl, fun none => (nomatch none), fun _ => ⟨date, dated, ?_⟩⟩
          rw [List.filter_cons_of_neg other]
    refine ⟨fun more spool ran => ?_, fun exception spool forwarded => ?_, fun files well => ?_⟩
    · obtain ⟨files, well, _⟩ := well_of_returned formats culture id now ran
      obtain ⟨_, _, again, told⟩ := run files well
      rw [ran] at again
      obtain ⟨_, rfl⟩ := Prod.mk.inj again
      exact ⟨files, well.listed, told⟩
    · refine ⟨?_, ?_⟩
      · unfold processGS2Data
        rw [Program.bind_of_error forwarded]
      · have kept := forwardFiles_keeps formats culture around id now ⟨[], []⟩
        rw [forwarded] at kept
        exact kept
    · obtain ⟨more, spool, ran, _⟩ := run files well
      exact ⟨more, spool, ran⟩

end Run

section Twins

def twinFiles : List FileInfo := [⟨"a.gs2", 638396640000000000⟩, ⟨"b.gs2", 638396640000000000⟩]

def twins : Surroundings where
  getFiles := .ok twinFiles
  readToEnd _ := .ok (text "##Start-message\r\n#Id=1\r\n")
  sendEmbeddedTextMessage := none
  processedPath := none
  remove _ := none

/-- Nothing else fails, but the second file is not taken into the list. -/
theorem twins_not_forwarded : ¬ForwardsBatch onlyOne ordinal twins (text "0f") firstInstant := by
  intro forwards
  have well : Well onlyOne ordinal twins firstInstant twinFiles :=
    ⟨rfl, fun _ _ => ⟨_, rfl⟩, fun _ => ⟨_, rfl⟩, fun _ => rfl, fun _ _ => rfl⟩
  obtain ⟨more, spool, run⟩ := forwards.goesWell twinFiles well
  obtain ⟨files, wellFiles, nodup⟩ := well_of_returned onlyOne ordinal (text "0f") firstInstant run
  obtain rfl : files = twinFiles := Except.ok.inj (wellFiles.listed.symm.trans well.listed)
  revert nodup
  decide

end Twins

end GS2ExportService

end ServiceHost.Messaging
