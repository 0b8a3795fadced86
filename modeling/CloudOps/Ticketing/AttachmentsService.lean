import CloudOps.ReadCommitted.Table
import CloudOps.ServiceError
import CloudOps.Ticketing.ObjectStorage
import CloudOps.Ticketing.Ticket

namespace CloudOps.Ticketing.Attachments

open CloudOps.Js.PosixPath CloudOps.Ticketing.ObjectStorage
open CloudOps.ReadCommitted (Table)

structure UploadableFile (Buffer : Type) where
  buffer : Buffer
  originalname : List Char
  size : Nat

-- A row of ticket_attachments.
structure AttachmentRow where
  tenantId : Uuid
  ticketId : Uuid
  ticketMessageId : Option Uuid
  fileName : List Char
  fileSizeBytes : Nat
  storagePath : List Char

-- A row of ticket_messages, as far as an upload reads it.
structure MessageRow where
  tenantId : Uuid
  ticketId : Uuid

structure AttachmentState (Buffer : Type) where
  disk : Disk Buffer
  rows : Table Uuid AttachmentRow
  messages : Table Uuid MessageRow

variable {Buffer : Type} (storage : LocalDiskStorage) (state : AttachmentState Buffer)

-- The file and its row, in a transaction that commits or not: the disk is not rolled back.
def saveWithRow (tenantId ticketId : Uuid) (messageId : Option Uuid) (file : UploadableFile Buffer) (uuid : RandomUUID)
    (newId : Uuid) (commits : Bool) : Except ServiceError AttachmentRow × AttachmentState Buffer :=
  match save storage state.disk file.buffer file.originalname uuid with
  | (.error error, disk) => (.error (.error error.message), { state with disk })
  | (.ok storagePath, disk) =>
      let row : AttachmentRow := ⟨tenantId, ticketId, messageId, file.originalname, file.size, storagePath⟩
      if newId ∈ state.rows ∨ commits = false then (.error (.error "the transaction is rolled back"), { state with disk })
      else (.ok row, { state with disk, rows := state.rows.insert newId row })

-- AttachmentsService.upload
def upload (tenantId ticketId messageId : Uuid) (file : UploadableFile Buffer) (uuid : RandomUUID) (newId : Uuid)
    (commits : Bool) : Except ServiceError AttachmentRow × AttachmentState Buffer :=
  match (state.messages.lookup messageId).filter fun message =>
      message.tenantId = tenantId ∧ message.ticketId = ticketId with
  | none => (.error (.notFound s!"Message {messageId} not found on ticket {ticketId}"), state)
  | some _ => saveWithRow storage state tenantId ticketId (some messageId) file uuid newId commits

-- FreshdeskMigrationService.persistAttachment, in the transaction of its ticket
def persistAttachment (tenantId ticketId : Uuid) (messageId : Option Uuid) (file : UploadableFile Buffer)
    (uuid : RandomUUID) (newId : Uuid) (commits : Bool) : Except ServiceError AttachmentRow × AttachmentState Buffer :=
  saveWithRow storage state tenantId ticketId messageId file uuid newId commits

-- AttachmentsService.getForDownload
def getForDownload (tenantId ticketId attachmentId : Uuid) : Except ServiceError AttachmentRow :=
  match (state.rows.lookup attachmentId).filter fun row => row.tenantId = tenantId ∧ row.ticketId = ticketId with
  | none => .error (.notFound s!"Attachment {attachmentId} not found")
  | some row => .ok row

-- AttachmentsController.download: the name and the size it announces, and what it streams.
def download (tenantId ticketId attachmentId : Uuid) :
    Except ServiceError (List Char × Nat × Except StorageError Buffer) := do
  let attachment ← getForDownload state tenantId ticketId attachmentId
  if «exists» storage state.disk attachment.storagePath then
    return (attachment.fileName, attachment.fileSizeBytes, readStream storage state.disk attachment.storagePath)
  else .error (.notFound s!"Attachment {attachmentId} file is missing from storage")

-- What happens to attachments: uploads, imports, the merge of a ticket into another, and
-- messages and rows that other requests write and remove.
inductive AttachmentEvent (Buffer : Type) where
  | upload (tenantId ticketId messageId : Uuid) (file : UploadableFile Buffer) (uuid : RandomUUID) (newId : Uuid)
      (commits : Bool)
  | persist (tenantId ticketId : Uuid) (messageId : Option Uuid) (file : UploadableFile Buffer) (uuid : RandomUUID)
      (newId : Uuid) (commits : Bool)
  | merge (tenantId primaryId sourceId : Uuid)
  | setMessages (messages : Table Uuid MessageRow)
  | removeRow (id : Uuid)

-- UPDATE ticket_attachments SET ticket_id = $1 WHERE ticket_id = $2
def AttachmentRow.moved (tenantId primaryId sourceId : Uuid) (row : AttachmentRow) : AttachmentRow :=
  if row.tenantId = tenantId ∧ row.ticketId = sourceId then { row with ticketId := primaryId } else row

def step : AttachmentEvent Buffer → AttachmentState Buffer
  | .upload tenantId ticketId messageId file uuid newId commits =>
      (upload storage state tenantId ticketId messageId file uuid newId commits).2
  | .persist tenantId ticketId messageId file uuid newId commits =>
      (persistAttachment storage state tenantId ticketId messageId file uuid newId commits).2
  | .merge tenantId primaryId sourceId =>
      { state with rows := state.rows.mapRows fun _ row => row.moved tenantId primaryId sourceId }
  | .setMessages messages => { state with messages }
  | .removeRow id => { state with rows := state.rows.erase id }

end CloudOps.Ticketing.Attachments

namespace CloudOps.Ticketing.Attachments

open CloudOps.Js.PosixPath CloudOps.Ticketing.ObjectStorage
open CloudOps.ReadCommitted (Table)

variable {Buffer : Type}

section Saving

variable {storage : LocalDiskStorage} {disk : Disk Buffer} {place : Location} {content : Buffer}

theorem keyOf_inj {uuid other : RandomUUID} {name otherName : List Char} (h : keyOf uuid name = keyOf other otherName) :
    uuid = other := by
  have htext : uuid.text = other.text :=
    (List.append_inj h (by rw [uuid.length_eq, other.length_eq])).1
  cases uuid
  cases other
  subst htext
  rfl

theorem mkdir_keeps (places : List Location) (hfile : disk place = some (.file content)) :
    disk.mkdir places place = some (.file content) := by
  unfold Disk.mkdir
  rw [hfile]
  split <;> rfl

theorem writeFile_eq_some {written : Disk Buffer} {buffer : Buffer} (h : disk.writeFile place buffer = some written) :
    written = Function.update disk place (some (.file buffer)) := by
  unfold Disk.writeFile at h
  split at h
  · split at h
    · cases h
    · exact (Option.some.inj h).symm
  · split at h
    · cases h
    · exact (Option.some.inj h).symm
  · cases h

theorem reaches_keyOf (disk : Disk Buffer) (uuid : RandomUUID) (name : List Char) :
    storage.reaches disk (keyOf uuid name) = !storage.refuses (storage.path (keyOf uuid name)) := by
  have hslash : (storage.path (keyOf uuid name)).getLast? ≠ some '/' :=
    getLast?_join_name _ (isName_keyOf uuid name)
  rw [LocalDiskStorage.reaches, decide_eq_false hslash, Bool.false_and, Bool.not_false, Bool.and_true]

-- A file that is saved is there under its key, which the system takes, and every file there
-- was is still there.
theorem save_ok {buffer : Buffer} {name key : List Char} {uuid : RandomUUID}
    (h : (save storage disk buffer name uuid).1 = .ok key) :
    key = keyOf uuid name ∧ storage.refuses (storage.path (keyOf uuid name)) = false ∧
      (save storage disk buffer name uuid).2 (keyOf uuid name :: storage.directory) = some (.file buffer) := by
  unfold save at h ⊢
  split at h
  · cases h
  · rename_i hroot
    dsimp only at h ⊢
    rw [if_neg hroot]
    split at h
    · cases h
    · rename_i hways
      rw [if_neg hways]
      cases hwritten : (disk.mkdir storage.ways).writeFile (storage.place (keyOf uuid name)) buffer with
      | none => simp [hwritten] at h
      | some written =>
          simp only [hwritten, Except.ok.injEq] at h ⊢
          refine ⟨h.symm, ?_, ?_⟩
          · rw [reaches_keyOf, Bool.not_not, Bool.or_eq_true, not_or] at hways
            exact Bool.eq_false_iff.mpr hways.2
          · rw [writeFile_eq_some hwritten, ← place_keyOf, Function.update_self]

theorem save_keeps {buffer : Buffer} {name other : List Char} {uuid : RandomUUID} (hne : other ≠ keyOf uuid name)
    (hfile : disk (other :: storage.directory) = some (.file content)) :
    (save storage disk buffer name uuid).2 (other :: storage.directory) = some (.file content) := by
  have hkept := mkdir_keeps storage.ways hfile
  unfold save
  split
  · exact hfile
  · dsimp only
    split
    · exact hkept
    · cases hwritten : (disk.mkdir storage.ways).writeFile (storage.place (keyOf uuid name)) buffer with
      | none => exact hkept
      | some written =>
          dsimp only
          rw [writeFile_eq_some hwritten, place_keyOf, Function.update_of_ne fun he => hne (List.cons.inj he).1]
          exact hkept

theorem read_of_file {uuid : RandomUUID} {name : List Char}
    (htaken : storage.refuses (storage.path (keyOf uuid name)) = false)
    (hfile : disk (keyOf uuid name :: storage.directory) = some (.file content)) :
    «exists» storage disk (keyOf uuid name) = true ∧ readStream storage disk (keyOf uuid name) = .ok content := by
  have hreaches : storage.reaches disk (keyOf uuid name) = true := by rw [reaches_keyOf, htaken, Bool.not_false]
  refine ⟨?_, ?_⟩
  · simp only [«exists», assertSafeKey_keyOf, hreaches, place_keyOf, hfile, Option.isSome_some, Bool.and_self]
  · simp only [readStream, assertSafeKey_keyOf, hreaches, place_keyOf, Disk.readFile, hfile, bind, Except.bind, if_true]

end Saving

section Runs

-- What an event writes to the disk, and for whom.
structure Stored (Buffer : Type) where
  tenantId : Uuid
  file : UploadableFile Buffer
  uuid : RandomUUID

def AttachmentEvent.stored : AttachmentEvent Buffer → Option (Stored Buffer)
  | .upload tenantId _ _ file uuid _ _ | .persist tenantId _ _ file uuid _ _ => some ⟨tenantId, file, uuid⟩
  | .merge .. | .setMessages _ | .removeRow _ => none

-- The random ids the events draw.
def uuids (events : List (AttachmentEvent Buffer)) : List RandomUUID :=
  events.filterMap fun event => event.stored.map Stored.uuid

-- The row is one of an event's, and its file is on the disk.
structure Holds (storage : LocalDiskStorage) (disk : Disk Buffer) (row : AttachmentRow) (stored : Stored Buffer) :
    Prop where
  tenant : row.tenantId = stored.tenantId
  name : row.fileName = stored.file.originalname
  size : row.fileSizeBytes = stored.file.size
  path : row.storagePath = keyOf stored.uuid stored.file.originalname
  taken : storage.refuses (storage.path row.storagePath) = false
  file : disk (row.storagePath :: storage.directory) = some (.file stored.file.buffer)

variable {storage : LocalDiskStorage} {state : AttachmentState Buffer}

theorem Holds.moved {disk : Disk Buffer} {row : AttachmentRow} {stored : Stored Buffer}
    (h : Holds storage disk row stored) (tenantId primaryId sourceId : Uuid) :
    Holds storage disk (row.moved tenantId primaryId sourceId) stored := by
  unfold AttachmentRow.moved
  split
  · exact ⟨h.tenant, h.name, h.size, h.path, h.taken, h.file⟩
  · exact h

-- Every row is one of these events'.
def HoldsAmong (storage : LocalDiskStorage) (events : List (AttachmentEvent Buffer)) (state : AttachmentState Buffer) :
    Prop :=
  ∀ id row, state.rows.lookup id = some row →
    ∃ event ∈ events, ∃ stored, event.stored = some stored ∧ Holds storage state.disk row stored

theorem saveWithRow_state (storage : LocalDiskStorage) (state : AttachmentState Buffer) (tenantId ticketId : Uuid)
    (messageId : Option Uuid) (file : UploadableFile Buffer) (uuid : RandomUUID) (newId : Uuid) (commits : Bool) :
    (saveWithRow storage state tenantId ticketId messageId file uuid newId commits).2.disk =
        (save storage state.disk file.buffer file.originalname uuid).2 ∧
      ((saveWithRow storage state tenantId ticketId messageId file uuid newId commits).2.rows = state.rows ∨
        ∃ key, (save storage state.disk file.buffer file.originalname uuid).1 = .ok key ∧
          (saveWithRow storage state tenantId ticketId messageId file uuid newId commits).2.rows =
            state.rows.insert newId ⟨tenantId, ticketId, messageId, file.originalname, file.size, key⟩) := by
  unfold saveWithRow
  cases hsave : save storage state.disk file.buffer file.originalname uuid with
  | mk result disk =>
      cases result with
      | error _ => exact ⟨rfl, .inl rfl⟩
      | ok key =>
          dsimp only
          split
          · exact ⟨rfl, .inl rfl⟩
          · exact ⟨rfl, .inr ⟨key, rfl, rfl⟩⟩

theorem holdsAmong_saveWithRow {events : List (AttachmentEvent Buffer)} (h : HoldsAmong storage events state)
    {event : AttachmentEvent Buffer} {tenantId ticketId newId : Uuid} {messageId : Option Uuid}
    {file : UploadableFile Buffer} {uuid : RandomUUID} {commits : Bool}
    (hstored : event.stored = some ⟨tenantId, file, uuid⟩) (hfresh : uuid ∉ uuids events) :
    HoldsAmong storage (events ++ [event])
      (saveWithRow storage state tenantId ticketId messageId file uuid newId commits).2 := by
  obtain ⟨hdisk, hrows⟩ := saveWithRow_state storage state tenantId ticketId messageId file uuid
    newId commits
  intro id row hrow
  rw [hdisk]
  -- a row there was: another event's, so its file is under another key
  have hold : state.rows.lookup id = some row → ∃ other ∈ events ++ [event], ∃ stored, other.stored = some stored ∧
      Holds storage (save storage state.disk file.buffer file.originalname uuid).2 row stored := by
    intro hlookup
    obtain ⟨other, hother, stored, hofOther, hholds⟩ := h id row hlookup
    refine ⟨other, List.mem_append_left _ hother, stored, hofOther, hholds.tenant, hholds.name, hholds.size, hholds.path,
      hholds.taken, save_keeps ?_ hholds.file⟩
    rw [hholds.path]
    intro hsame
    refine hfresh (List.mem_filterMap.mpr ⟨other, hother, ?_⟩)
    rw [hofOther, Option.map_some, keyOf_inj hsame]
  rcases hrows with hsame | ⟨key, hsaved, hinserted⟩
  · rw [hsame] at hrow
    exact hold hrow
  · rw [hinserted, Table.lookup_insert_eq] at hrow
    split at hrow
    · obtain rfl := Option.some.inj hrow
      obtain ⟨rfl, htaken, hfile⟩ := save_ok hsaved
      exact ⟨event, List.mem_append_right _ List.mem_cons_self, _, hstored, rfl, rfl, rfl, rfl, htaken, hfile⟩
    · exact hold hrow

theorem holdsAmong_step {events : List (AttachmentEvent Buffer)} (h : HoldsAmong storage events state)
    (event : AttachmentEvent Buffer) (hfresh : (uuids (events ++ [event])).Nodup) :
    HoldsAmong storage (events ++ [event]) (step storage state event) := by
  have hmore : ∀ {found : AttachmentState Buffer}, HoldsAmong storage events found →
      HoldsAmong storage (events ++ [event]) found := fun hfound id row hrow =>
    (hfound id row hrow).imp fun _ hevent => ⟨List.mem_append_left _ hevent.1, hevent.2⟩
  have hnew : ∀ {stored : Stored Buffer}, event.stored = some stored → stored.uuid ∉ uuids events := by
    intro stored hstored hmem
    rw [uuids, List.filterMap_append, List.filterMap_cons, List.filterMap_nil, hstored, Option.map_some] at hfresh
    exact (List.nodup_append.mp hfresh).2.2 _ hmem _ List.mem_cons_self rfl
  cases event with
  | upload tenantId ticketId messageId file uuid newId commits =>
      simp only [step, upload]
      split
      · exact hmore h
      · exact holdsAmong_saveWithRow h rfl (hnew rfl)
  | persist tenantId ticketId messageId file uuid newId commits => exact holdsAmong_saveWithRow h rfl (hnew rfl)
  | setMessages messages => exact hmore h
  | merge tenantId primaryId sourceId =>
      refine hmore fun id row hrow => ?_
      rw [step, Table.lookup_mapRows, Option.map_eq_some_iff] at hrow
      obtain ⟨old, hold, rfl⟩ := hrow
      obtain ⟨other, hother, stored, hstored, hholds⟩ := h id old hold
      exact ⟨other, hother, stored, hstored, hholds.moved tenantId primaryId sourceId⟩
  | removeRow removed =>
      refine hmore fun id row hrow => ?_
      by_cases hsame : id = removed
      · rw [step, hsame, AList.lookup_erase] at hrow
        cases hrow
      · rw [step, AList.lookup_erase_ne hsame] at hrow
        exact h id row hrow

theorem holdsAmong_run (start : AttachmentState Buffer) (hempty : start.rows = ∅)
    (events : List (AttachmentEvent Buffer)) (hfresh : (uuids events).Nodup) :
    HoldsAmong storage events (Runs.run (step storage) start events) := by
  induction events using List.reverseRecOn with
  | nil =>
      intro id row hrow
      rw [Runs.run_nil, hempty, AList.lookup_empty] at hrow
      cases hrow
  | append_singleton events event ih =>
      have hearlier : (uuids events).Nodup := by
        rw [uuids, List.filterMap_append] at hfresh
        exact (List.nodup_append.mp hfresh).1
      rw [Runs.run_append]
      exact holdsAmong_step (ih hearlier) event hfresh

-- However uploads, imports and merges of tickets follow each other, and whichever of them
-- are rolled back: an attachment that is found downloads, and what comes is the file that
-- was uploaded under its name for that tenant, byte for byte.
theorem downloads_are_uploads (storage : LocalDiskStorage) (start : AttachmentState Buffer) (hempty : start.rows = ∅)
    (events : List (AttachmentEvent Buffer)) (hfresh : (uuids events).Nodup) (tenantId ticketId attachmentId : Uuid)
    (row : AttachmentRow)
    (hfound : getForDownload (Runs.run (step storage) start events) tenantId ticketId attachmentId = .ok row) :
    ∃ event ∈ events, ∃ file uuid, event.stored = some ⟨tenantId, file, uuid⟩ ∧
      download storage (Runs.run (step storage) start events) tenantId ticketId attachmentId =
        .ok (file.originalname, file.size, .ok file.buffer) := by
  have hlookup : (Runs.run (step storage) start events).rows.lookup attachmentId = some row ∧ row.tenantId = tenantId := by
    unfold getForDownload at hfound
    split at hfound
    · cases hfound
    · rename_i found hrow
      obtain rfl := Except.ok.inj hfound
      obtain ⟨hlookup, howner⟩ := Option.filter_eq_some_iff.mp hrow
      exact ⟨hlookup, (of_decide_eq_true howner).1⟩
  obtain ⟨event, hevent, ⟨owner, file, uuid⟩, hstored, hholds⟩ := holdsAmong_run start hempty events hfresh _ _ hlookup.1
  obtain rfl : owner = tenantId := hholds.tenant.symm.trans hlookup.2
  have htaken := hholds.taken
  have hfile := hholds.file
  rw [hholds.path] at htaken hfile
  obtain ⟨hexists, hread⟩ := read_of_file htaken hfile
  refine ⟨event, hevent, file, uuid, hstored, ?_⟩
  simp only [download, hfound, bind, Except.bind, hholds.path, hexists, hread, hholds.name, hholds.size, if_true]
  rfl

section Examples

def zeros : RandomUUID := ⟨List.replicate 36 '0', List.length_replicate, fun c hc => by
  rw [List.eq_of_mem_replicate hc]
  decide⟩

def emptyState : AttachmentState Nat where
  disk := Function.update (fun _ => none) [] (some .directory)
  rows := ∅
  messages := (∅ : Table Uuid MessageRow).insert 3 ⟨1, 2⟩

-- A file of ticket 2, which is then merged into ticket 5.
def uploadThenMerge : List (AttachmentEvent Nat) :=
  [.upload 1 2 3 ⟨7, "a.txt".toList, 4⟩ zeros 9 true, .merge 1 5 2]

theorem uploadThenMerge_downloads : ∃ event ∈ uploadThenMerge, ∃ file uuid, event.stored = some ⟨1, file, uuid⟩ ∧
    download srvStorage (Runs.run (step srvStorage) emptyState uploadThenMerge) 1 5 9 =
      .ok (file.originalname, file.size, .ok file.buffer) :=
  downloads_are_uploads srvStorage emptyState rfl uploadThenMerge (List.nodup_singleton zeros) 1 5 9
    ⟨1, 5, some 3, "a.txt".toList, 4, keyOf zeros "a.txt".toList⟩ (by rfl)

end Examples

end Runs

end CloudOps.Ticketing.Attachments
