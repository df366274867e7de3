import Yappy.Forwarding
import Yappy.ReferenceCount
import Yappy.Runs

/-!
# Media and what refers to it

The table `media`, the columns of other tables that name its rows, and every statement that writes
either: the routes of `apps/api/src/routes` and `send` of `apps/api/src/services/messages.ts`, the trigger
`sync_media_refcount` of `packages/db/sql/0002_triggers.sql`, and the jobs of `apps/worker/src/jobs`. A route
that reads before it writes has its write underway in between. Times are in milliseconds.
-/
namespace Yappy.MediaReferences

open Forwarding (MediaStatus attachmentsPerMessage)
open Permissions (AppError Time Uuid conflict forbidden notFound unprocessable)

inductive Purpose
  | attachment | avatar | conversationAvatar | sticker | banner | voice | emoji | linkPreview
  deriving DecidableEq

inductive Bucket
  | publicObjects | mediaObjects
  deriving DecidableEq

def bucketFor : Purpose → Bucket
  | .avatar | .conversationAvatar | .sticker | .banner | .emoji => .publicObjects
  | _ => .mediaObjects

structure Media where
  id : Uuid
  ownerId : Option Uuid
  purpose : Purpose
  status : MediaStatus
  bucket : Bucket
  mimeType : String
  size : ℕ
  thumbnailKey : Option String
  checksum : Option String
  confirmedAt : Option Time
  refCount : ℕ
  createdAt : Time
  deletedAt : Option Time
  deriving DecidableEq

structure User where
  id : Uuid
  avatarMediaId : Option Uuid
  bannerMediaId : Option Uuid
  deletedAt : Option Time

structure Conversation where
  id : Uuid
  avatarMediaId : Option Uuid

structure Sticker where
  id : Uuid
  packId : Uuid
  mediaId : Uuid
  deletedAt : Option Time

structure Emoji where
  id : Uuid
  conversationId : Uuid
  mediaId : Uuid
  deletedAt : Option Time

structure Message where
  id : Uuid
  deletedAt : Option Time

structure Attachment where
  messageId : Uuid
  mediaId : Uuid
  deriving DecidableEq

/-- What `sendMessageBody` makes of the body of a send. -/
structure Payload where
  content : String
  attachmentIds : List Uuid

structure ScheduledMessage where
  id : Uuid
  senderId : Uuid
  payload : Payload
  sentMessageId : Option Uuid
  sentAt : Option Time
  cancelledAt : Option Time
  failedAt : Option Time

def ScheduledMessage.Pending (row : ScheduledMessage) : Prop :=
  row.sentMessageId = none ∧ row.sentAt = none ∧ row.cancelledAt = none ∧ row.failedAt = none

instance : DecidablePred ScheduledMessage.Pending := fun _ => inferInstanceAs (Decidable (_ ∧ _))

structure Tables where
  media : KeyedTable Media.id
  users : KeyedTable User.id
  conversations : KeyedTable Conversation.id
  stickers : KeyedTable Sticker.id
  emojis : KeyedTable Emoji.id
  messages : KeyedTable Message.id
  attachments : List Attachment
  scheduled : KeyedTable ScheduledMessage.id

def Tables.empty : Tables := ⟨.empty, .empty, .empty, .empty, .empty, .empty, [], .empty⟩

def refCount : Counter Media.id where
  count := Media.refCount
  set n m := { m with refCount := n }
  key_set _ _ := rfl
  count_set _ _ := rfl

/-! ## Statements -/

inductive Picture
  | avatar | banner
  deriving DecidableEq

inductive Use
  | sticker (id packId : Uuid)
  | picture (userId : Uuid) (column : Picture)
  deriving DecidableEq

inductive Write
  | insertMedia (row : Media) (use : Option Use)
  | confirmUpload (id : Uuid) (size : ℕ)
  | thumbnail (id : Uuid) (key : String)
  | ready (id : Uuid)
  | insertSticker (id packId mediaId : Uuid)
  | insertEmoji (id conversationId mediaId : Uuid)
  | setPicture (userId : Uuid) (column : Picture) (mediaId : Uuid)
  | insertMessage (id : Uuid) (attachmentIds : List Uuid)
  deriving DecidableEq

def Use.write (mediaId : Uuid) : Use → Write
  | .sticker id packId => .insertSticker id packId mediaId
  | .picture userId column => .setPicture userId column mediaId

structure System where
  db : Tables
  underway : List Write
  /-- The uploads that `media.process` is queued for. -/
  jobs : List Uuid

def System.empty : System := ⟨.empty, [], []⟩

/-- `{ ...(value !== undefined ? { column: value } : {}) }`. -/
def given (value : Option (Option Uuid)) (column : Option Uuid) : Option Uuid := value.getD column

section Statements
variable (db : Tables)

def setMedia (p : Media → Bool) (f : Media → Media) (hf : ∀ m, (f m).id = m.id) : Tables :=
  { db with media := db.media.update p f hf }

/-- `UPDATE users SET avatar_media_id, banner_media_id WHERE id`. -/
def setPictures (userId : Uuid) (avatar banner : Option (Option Uuid)) : Tables :=
  { db with
    users := db.users.update (fun u => u.id = userId)
      (fun u => { u with
        avatarMediaId := given avatar u.avatarMediaId, bannerMediaId := given banner u.bannerMediaId })
      fun _ => rfl }

/-- `UPDATE conversations SET avatar_media_id WHERE id`. -/
def setConversationAvatar (id : Uuid) (avatar : Option (Option Uuid)) : Tables :=
  { db with
    conversations := db.conversations.update (fun c => c.id = id)
      (fun c => { c with avatarMediaId := given avatar c.avatarMediaId }) fun _ => rfl }

/-- The transaction of `send` as far as media is concerned, with its trigger. The primary key and the
foreign key of `message_attachments` can refuse it. -/
def insertMessage (id : Uuid) (attachmentIds : List Uuid) : Option Tables :=
  if attachmentIds.Nodup ∧ (db.messages.find id).isNone ∧
      ∀ mediaId ∈ attachmentIds, (db.media.find mediaId).isSome then
    some { db with
      messages := db.messages.insertIgnore ⟨id, none⟩
      attachments := attachmentIds.map (Attachment.mk id) ++ db.attachments
      media := refCount.insertedAll db.media attachmentIds }
  else none

/-- The `WHERE` of `releaseUnusedMedia`. -/
def unused (now : Time) (m : Media) : Bool :=
  m.refCount = 0 ∧ m.deletedAt.isNone ∧ m.purpose = .attachment ∧
    m.confirmedAt.any fun confirmed => confirmed + 7 * 24 * 3600 * 1000 < now

def releaseUnusedMedia (now : Time) : Tables :=
  setMedia db (unused now) (fun m => { m with deletedAt := some now }) fun _ => rfl

/-- The `WHERE` of `sweepOrphanUploads`. -/
def orphan (now : Time) (m : Media) : Bool :=
  m.confirmedAt.isNone ∧ m.createdAt + 2 * 3600 * 1000 < now ∧
    db.stickers.rows.all fun s => s.mediaId ≠ m.id

/-- The foreign key of `message_attachments` refuses the whole statement, that of `custom_emojis` takes the
emoji along. -/
def sweepOrphanUploads (now : Time) : Option Tables :=
  if ∃ a ∈ db.attachments, (db.media.find a.mediaId).any (orphan db now) then none
  else
    some { db with
      media := db.media.delete (orphan db now)
      emojis := db.emojis.delete fun e => (db.media.find e.mediaId).any (orphan db now) }

end Statements

def perform (s : System) (now : Time) : Write → Option System
  | .insertMedia row use =>
    if (s.db.media.find row.id).isNone then
      some { s with
        db := { s.db with media := s.db.media.insertIgnore { row with createdAt := now } }
        underway := (use.map (Use.write row.id)).toList ++ s.underway }
    else none
  | .confirmUpload id size =>
    some { s with
      db := setMedia s.db (fun m => m.id = id)
        (fun m => { m with confirmedAt := some now, size := size, status := .processing }) fun _ => rfl
      jobs := id :: s.jobs }
  | .thumbnail id key =>
    some { s with
      db := setMedia s.db (fun m => m.id = id) (fun m => { m with thumbnailKey := some key }) fun _ => rfl }
  | .ready id =>
    some { s with
      db := setMedia s.db (fun m => m.id = id) (fun m => { m with status := .ready }) fun _ => rfl }
  | .insertSticker id packId mediaId =>
    if (s.db.media.find mediaId).isSome then
      some { s with db := { s.db with stickers := s.db.stickers.insertIgnore ⟨id, packId, mediaId, none⟩ } }
    else none
  | .insertEmoji id conversationId mediaId =>
    if (s.db.media.find mediaId).isSome then
      some { s with db := { s.db with emojis := s.db.emojis.insertIgnore ⟨id, conversationId, mediaId, none⟩ } }
    else none
  | .setPicture userId .avatar mediaId => some { s with db := setPictures s.db userId (some (some mediaId)) none }
  | .setPicture userId .banner mediaId => some { s with db := setPictures s.db userId none (some (some mediaId)) }
  | .insertMessage id attachmentIds =>
    (insertMessage s.db id attachmentIds).map fun db => { s with db := db }

/-! ## Routes and jobs that read first -/

def stickersPerPack : ℕ := 120
def maxEmojisPerConversation : ℕ := 50

structure UploadBody where
  purpose : Purpose
  mimeType : String
  size : ℕ
  checksum : Option String

structure StickerPack where
  authorId : Uuid
  stickerCount : ℕ

section Routes
variable (db : Tables) (actor : Uuid)

def existing (body : UploadBody) : Option Media :=
  body.checksum.bind fun checksum => db.media.rows.find? fun m =>
    m.checksum = some checksum ∧ m.status = .ready ∧ m.bucket = bucketFor body.purpose ∧ m.deletedAt.isNone

/-- `POST /media/uploads`. -/
def createUpload (body : UploadBody) (id : Uuid) (now : Time) : Write :=
  match existing db body with
  | some found =>
    .insertMedia
      { id := id, ownerId := some actor, purpose := body.purpose, status := .ready, bucket := found.bucket,
        mimeType := found.mimeType, size := found.size, thumbnailKey := found.thumbnailKey,
        checksum := body.checksum, confirmedAt := some now, refCount := 0, createdAt := now,
        deletedAt := none } none
  | none =>
    .insertMedia
      { id := id, ownerId := some actor, purpose := body.purpose, status := .pending,
        bucket := bucketFor body.purpose, mimeType := body.mimeType, size := body.size, thumbnailKey := none,
        checksum := body.checksum, confirmedAt := none, refCount := 0, createdAt := now,
        deletedAt := none } none

/-- `POST /portal/bugs/uploads`. -/
def createBugUpload (mimeType : String) (size : ℕ) (id : Uuid) (now : Time) : Write :=
  .insertMedia
    { id := id, ownerId := some actor, purpose := .attachment, status := .pending,
      bucket := bucketFor .attachment, mimeType := mimeType, size := size, thumbnailKey := none,
      checksum := none, confirmedAt := none, refCount := 0, createdAt := now, deletedAt := none } none

def owned (id : Uuid) : Option Media :=
  (db.media.find id).filter fun m => m.ownerId = some actor ∧ m.deletedAt.isNone

/-- `POST /media/:id/confirm`, and the portal's; `head` is the size storage has for the object. -/
def confirm (id : Uuid) (head : Option ℕ) : Except AppError (List Write) :=
  match owned db actor id with
  | none => .error (notFound "Upload")
  | some row =>
    if row.confirmedAt.isSome then .ok []
    else
      match head with
      | none => .error (unprocessable "The file was not uploaded")
      | some size => .ok [.confirmUpload id size]

def isThumbType (mimeType : String) : Bool := mimeType ∈ ["image/jpeg", "image/png", "image/webp"]

/-- `processMedia`; `thumbnail` is the key of what `generateThumbnail` has stored, if it has. -/
def processMedia (id : Uuid) (thumbnail : Option String) : List Write :=
  match db.media.find id with
  | none => []
  | some row =>
    if row.status = .quarantined then []
    else if row.status = .ready ∧ (row.thumbnailKey.isSome ∨ !isThumbType row.mimeType) then []
    else if isThumbType row.mimeType ∧ row.thumbnailKey.isNone then
      (thumbnail.map (Write.thumbnail id)).toList ++ [.ready id]
    else [.ready id]

/-- The rows `backfillThumbnails` looks for. -/
def thumbless (m : Media) : Bool := m.status = .ready ∧ m.thumbnailKey.isNone ∧ isThumbType m.mimeType

/-- `POST /stickers/packs/:id/stickers`, with the pack it finds. -/
def addSticker (pack : Option StickerPack) (packId mediaId id : Uuid) : Except AppError Write :=
  match pack with
  | none => .error (notFound "Sticker pack")
  | some pack =>
    if pack.authorId ≠ actor then .error (forbidden "You do not own this pack")
    else if stickersPerPack ≤ pack.stickerCount then .error (conflict "This pack is full")
    else .ok (.insertSticker id packId mediaId)

/-- `POST /conversations/:id/emojis`; `isDm` is what `requirePermission` says of the conversation. -/
def addEmoji (isDm : Except AppError Bool) (conversationId mediaId id : Uuid) : Except AppError Write :=
  match isDm with
  | .error e => .error e
  | .ok true => .error (unprocessable "Custom emoji live in groups and spaces")
  | .ok false =>
    match owned db actor mediaId with
    | none => .error (notFound "Media")
    | some upload =>
      if upload.status ≠ .ready ∧ upload.status ≠ .processing then
        .error (unprocessable "Upload has not completed")
      else if !upload.mimeType.startsWith "image/" then .error (unprocessable "An emoji is an image")
      else if 512 * 1024 < upload.size then .error (unprocessable "Emoji images are capped at 512 KB")
      else if maxEmojisPerConversation ≤
          (db.emojis.rows.filter fun e => e.conversationId = conversationId ∧ e.deletedAt.isNone).length then
        .error (unprocessable "A group can have at most 50 emoji")
      else .ok (.insertEmoji id conversationId mediaId)

def resolveAttachments (ids : List Uuid) : Except AppError Unit :=
  if ids = [] then .ok ()
  else if attachmentsPerMessage < ids.length then
    .error (unprocessable "At most 10 attachments per message")
  else
    let rows := db.media.rows.filter fun m => m.id ∈ ids ∧ m.ownerId = some actor ∧ m.deletedAt.isNone
    if rows.length ≠ ids.length then .error (notFound "Attachment")
    else if rows.any fun m => m.confirmedAt.isNone then
      .error (unprocessable "Attachment upload was never confirmed")
    else if rows.any fun m => m.status = .quarantined then
      .error (unprocessable "Attachment failed moderation")
    else if rows.any fun m => m.status = .failed then
      .error (unprocessable "Attachment failed processing")
    else .ok ()

/-- `send`, as far as its attachments go. -/
def send (id : Uuid) (attachmentIds : List Uuid) : Except AppError Write :=
  match resolveAttachments db actor attachmentIds with
  | .error e => .error e
  | .ok () => .ok (.insertMessage id attachmentIds)

def copyable (mediaId : Uuid) : Option Media :=
  (owned db actor mediaId).filter fun m =>
    m.confirmedAt.isSome ∧ m.status ≠ .failed ∧ m.status ≠ .quarantined ∧ m.mimeType.startsWith "image/"

/-- The copy, in the bucket of its purpose and for the account `owner`. -/
def copyOf (source : Media) (owner : Uuid) (purpose : Purpose) (id : Uuid) (now : Time) : Media :=
  { id := id, ownerId := some owner, purpose := purpose, status := .ready, bucket := bucketFor purpose,
    mimeType := source.mimeType, size := source.size, thumbnailKey := none, checksum := none,
    confirmedAt := some now, refCount := 0, createdAt := now, deletedAt := none }

def yapperSticker (source : Media) (id stickerId packId : Uuid) (now : Time) : Write :=
  .insertMedia (copyOf source actor .sticker id now) (some (.sticker stickerId packId))

/-- `/yapper avatar` and `/yapper banner`. -/
def yapperPicture (source : Media) (bot : Uuid) (column : Picture) (id : Uuid) (now : Time) : Write :=
  let purpose := match column with
    | .avatar => Purpose.avatar
    | .banner => Purpose.banner
  .insertMedia (copyOf source bot purpose id now) (some (.picture bot column))

def adoptProof (source : Media) (bot id : Uuid) (now : Time) : Write :=
  .insertMedia (copyOf source bot .attachment id now) none

def storePreviewImage (size : ℕ) (id : Uuid) (now : Time) : Write :=
  .insertMedia
    { id := id, ownerId := none, purpose := .linkPreview, status := .ready, bucket := .publicObjects,
      mimeType := "image/webp", size := size, thumbnailKey := none, checksum := none,
      confirmedAt := some now, refCount := 0, createdAt := now, deletedAt := none } none

end Routes

inductive Asks (db : Tables) (now : Time) : List Write → Prop
  | createUpload (actor : Uuid) (body : UploadBody) (id : Uuid) :
      Asks db now [createUpload db actor body id now]
  | createBugUpload (actor : Uuid) (mimeType : String) (size : ℕ) (id : Uuid) :
      Asks db now [createBugUpload actor mimeType size id now]
  | confirm {actor id : Uuid} {head : Option ℕ} {writes : List Write}
      (h : confirm db actor id head = .ok writes) : Asks db now writes
  | addSticker {actor packId mediaId id : Uuid} {pack : Option StickerPack} {write : Write}
      (h : addSticker actor pack packId mediaId id = .ok write) : Asks db now [write]
  | addEmoji {actor conversationId mediaId id : Uuid} {isDm : Except AppError Bool} {write : Write}
      (h : addEmoji db actor isDm conversationId mediaId id = .ok write) : Asks db now [write]
  | send {actor id : Uuid} {attachmentIds : List Uuid} {write : Write}
      (h : send db actor id attachmentIds = .ok write) : Asks db now [write]
  | yapperSticker {actor mediaId : Uuid} {source : Media} (h : copyable db actor mediaId = some source)
      (id stickerId packId : Uuid) : Asks db now [yapperSticker actor source id stickerId packId now]
  | yapperPicture {actor mediaId : Uuid} {source : Media} (h : copyable db actor mediaId = some source)
      (bot : Uuid) (column : Picture) (id : Uuid) : Asks db now [yapperPicture source bot column id now]
  | adoptProof {actor mediaId : Uuid} {source : Media} (h : owned db actor mediaId = some source)
      (hconfirmed : source.confirmedAt.isSome) (hstatus : source.status ≠ .failed ∧ source.status ≠ .quarantined)
      (bot id : Uuid) : Asks db now [adoptProof source bot id now]
  | storePreviewImage (size : ℕ) (id : Uuid) : Asks db now [storePreviewImage size id now]

/-! ## Runs -/

inductive Event
  | ask (writes : List Write)
  | processMedia (id : Uuid) (thumbnail : Option String)
  | backfillThumbnails (ids : List Uuid)
  | perform (write : Write)
  | lose (write : Write)
  | signUp (id : Uuid)
  /-- `PATCH /users/me`. -/
  | updateProfile (userId : Uuid) (avatar banner : Option (Option Uuid))
  | completeProfile (userId : Uuid) (avatar : Option Uuid)
  | deleteAccount (userId : Uuid)
  | createConversation (id : Uuid) (avatar : Option Uuid)
  | updateConversation (id : Uuid) (avatar : Option (Option Uuid))
  | removeSticker (packId stickerId : Uuid)
  | removeEmoji (conversationId emojiId : Uuid)
  | deleteMessages (which : Uuid → Bool)
  | quarantineMedia (id : Uuid)
  | schedule (id senderId : Uuid) (content : String)
  | cancelScheduled (id senderId : Uuid)
  | deliverScheduled (id messageId : Uuid)
  | failScheduled (id : Uuid)
  /-- `cited`: some link preview points at it. -/
  | sweepEphemeral (cited : Uuid → Bool)
  | purgeAccount (userId : Uuid)
  | releaseUnusedMedia
  | sweepOrphanUploads

def Write.names : Write → List Uuid
  | .insertMedia _ _ => []
  | .confirmUpload id _ | .thumbnail id _ | .ready id => [id]
  | .insertSticker _ _ mediaId | .insertEmoji _ _ mediaId | .setPicture _ _ mediaId => [mediaId]
  | .insertMessage _ attachmentIds => attachmentIds

def Tables.named (db : Tables) : List Uuid :=
  db.users.rows.flatMap (fun u => u.avatarMediaId.toList ++ u.bannerMediaId.toList) ++
    (db.conversations.rows.flatMap (fun c => c.avatarMediaId.toList) ++
      (db.stickers.rows.map Sticker.mediaId ++ db.emojis.rows.map Emoji.mediaId))

def System.names (s : System) : List Uuid :=
  s.db.named ++ (s.db.attachments.map Attachment.mediaId ++ (s.jobs ++ s.underway.flatMap Write.names))

/-- `newId` answers with an id that nothing refers to yet. -/
def Write.Fresh (s : System) : Write → Prop
  | .insertMedia row _ => row.id ∉ s.names
  | _ => True

section Updates
variable (db : Tables) (now : Time)

def deleteAccount (userId : Uuid) : Tables :=
  let db := setPictures db userId (some none) (some none)
  { db with
    users := db.users.update (fun u => u.id = userId) (fun u => { u with deletedAt := some now }) fun _ => rfl }

def removeSticker (packId stickerId : Uuid) : Tables :=
  { db with
    stickers := db.stickers.update (fun s => s.id = stickerId ∧ s.packId = packId)
      (fun s => { s with deletedAt := some now }) fun _ => rfl }

def removeEmoji (conversationId emojiId : Uuid) : Tables :=
  { db with
    emojis := db.emojis.update
      (fun e => e.id = emojiId ∧ e.conversationId = conversationId ∧ e.deletedAt.isNone)
      (fun e => { e with deletedAt := some now }) fun _ => rfl }

/-- A deletion for everyone, an expiry, a purge: some messages that are not deleted yet are. -/
def deleteMessages (which : Uuid → Bool) : Tables :=
  { db with
    messages := db.messages.update (fun m => which m.id ∧ m.deletedAt.isNone)
      (fun m => { m with deletedAt := some now }) fun _ => rfl }

def quarantineMedia (id : Uuid) : Tables :=
  deleteMessages (setMedia db (fun m => m.id = id) (fun m => { m with status := .quarantined }) fun _ => rfl) now
    fun messageId => ⟨messageId, id⟩ ∈ db.attachments

/-- `POST /community/scheduled`: `sendMessageBody` reads a text and nothing else. -/
def schedule (id senderId : Uuid) (content : String) : Tables :=
  { db with scheduled := db.scheduled.insertIgnore ⟨id, senderId, ⟨content, []⟩, none, none, none, none⟩ }

def cancelScheduled (id senderId : Uuid) : Tables :=
  { db with
    scheduled := db.scheduled.update
      (fun r => r.id = id ∧ r.senderId = senderId ∧ r.sentMessageId = none ∧ r.sentAt = none)
      (fun r => { r with cancelledAt := some now }) fun _ => rfl }

def deliverScheduled (id messageId : Uuid) : Tables :=
  { db with
    scheduled := db.scheduled.update (fun r => r.id = id ∧ r.Pending)
      (fun r => { r with sentMessageId := some messageId, sentAt := some now }) fun _ => rfl }

def failScheduled (id : Uuid) : Tables :=
  { db with
    scheduled := db.scheduled.update (fun r => r.id = id ∧ r.Pending)
      (fun r => { r with failedAt := some now }) fun _ => rfl }

def sweepEphemeral (cited : Uuid → Bool) : Tables :=
  setMedia db (fun m => m.purpose = .linkPreview ∧ m.deletedAt.isNone ∧ !cited m.id)
    (fun m => { m with deletedAt := some now }) fun _ => rfl

def purgeAccount (userId : Uuid) : Tables :=
  if db.users.rows.any fun u => u.id = userId ∧ u.deletedAt.any fun t => t + 29 * 24 * 3600 * 1000 < now then
    setMedia db (fun m => m.ownerId = some userId) (fun m => { m with deletedAt := some now }) fun _ => rfl
  else db

end Updates

inductive Step : System → Time × Event → System → Prop
  | ask {s : System} {now : Time} {writes : List Write} (h : Asks s.db now writes) :
      Step s (now, .ask writes) { s with underway := writes ++ s.underway }
  | processMedia {s : System} {now : Time} {id : Uuid} (thumbnail : Option String) (h : id ∈ s.jobs) :
      Step s (now, .processMedia id thumbnail)
        { s with underway := processMedia s.db id thumbnail ++ s.underway }
  | backfillThumbnails {s : System} {now : Time} {ids : List Uuid}
      (h : ∀ id ∈ ids, ∃ m ∈ s.db.media.rows, m.id = id ∧ thumbless m) :
      Step s (now, .backfillThumbnails ids) { s with jobs := ids ++ s.jobs }
  | perform {s s' : System} {now : Time} {write : Write} (h : write ∈ s.underway) (hnew : write.Fresh s)
      (hs : perform { s with underway := s.underway.erase write } now write = some s') :
      Step s (now, .perform write) s'
  | lose {s : System} {now : Time} {write : Write} (h : write ∈ s.underway) :
      Step s (now, .lose write) { s with underway := s.underway.erase write }
  | signUp {s : System} {now : Time} (id : Uuid) :
      Step s (now, .signUp id)
        { s with db := { s.db with users := s.db.users.insertIgnore ⟨id, none, none, none⟩ } }
  | updateProfile {s : System} {now : Time} (userId : Uuid) (avatar banner : Option (Option Uuid)) :
      Step s (now, .updateProfile userId avatar banner) { s with db := setPictures s.db userId avatar banner }
  | completeProfile {s : System} {now : Time} (userId : Uuid) (avatar : Option Uuid) :
      Step s (now, .completeProfile userId avatar) { s with db := setPictures s.db userId (some avatar) none }
  | deleteAccount {s : System} {now : Time} (userId : Uuid) :
      Step s (now, .deleteAccount userId) { s with db := deleteAccount s.db now userId }
  | createConversation {s : System} {now : Time} (id : Uuid) (avatar : Option Uuid) :
      Step s (now, .createConversation id avatar)
        { s with db := { s.db with conversations := s.db.conversations.insertIgnore ⟨id, avatar⟩ } }
  | updateConversation {s : System} {now : Time} (id : Uuid) (avatar : Option (Option Uuid)) :
      Step s (now, .updateConversation id avatar) { s with db := setConversationAvatar s.db id avatar }
  | removeSticker {s : System} {now : Time} (packId stickerId : Uuid) :
      Step s (now, .removeSticker packId stickerId) { s with db := removeSticker s.db now packId stickerId }
  | removeEmoji {s : System} {now : Time} (conversationId emojiId : Uuid) :
      Step s (now, .removeEmoji conversationId emojiId) { s with db := removeEmoji s.db now conversationId emojiId }
  | deleteMessages {s : System} {now : Time} (which : Uuid → Bool) :
      Step s (now, .deleteMessages which) { s with db := deleteMessages s.db now which }
  | quarantineMedia {s : System} {now : Time} (id : Uuid) :
      Step s (now, .quarantineMedia id) { s with db := quarantineMedia s.db now id }
  | schedule {s : System} {now : Time} (id senderId : Uuid) (content : String) :
      Step s (now, .schedule id senderId content) { s with db := schedule s.db id senderId content }
  | cancelScheduled {s : System} {now : Time} (id senderId : Uuid) :
      Step s (now, .cancelScheduled id senderId) { s with db := cancelScheduled s.db now id senderId }
  | deliverScheduled {s : System} {now : Time} (id messageId : Uuid) :
      Step s (now, .deliverScheduled id messageId) { s with db := deliverScheduled s.db now id messageId }
  | failScheduled {s : System} {now : Time} (id : Uuid) :
      Step s (now, .failScheduled id) { s with db := failScheduled s.db now id }
  | sweepEphemeral {s : System} {now : Time} (cited : Uuid → Bool) :
      Step s (now, .sweepEphemeral cited) { s with db := sweepEphemeral s.db now cited }
  | purgeAccount {s : System} {now : Time} (userId : Uuid) :
      Step s (now, .purgeAccount userId) { s with db := purgeAccount s.db now userId }
  | releaseUnusedMedia {s : System} {now : Time} :
      Step s (now, .releaseUnusedMedia) { s with db := releaseUnusedMedia s.db now }
  | sweepOrphanUploads {s : System} {now : Time} {db : Tables} (h : sweepOrphanUploads s.db now = some db) :
      Step s (now, .sweepOrphanUploads) { s with db := db }

end Yappy.MediaReferences
