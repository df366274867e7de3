import Yappy.MessageService
import Yappy.Statements

/-!
# The ways a message dies

The calls of `apps/api/src/services/messages.ts` and `apps/api/src/routes/messages.ts` that send,
edit, pin and remove messages, the worker's `sweepExpiredMessages` and `quarantineMedia`, and the
trigger `sync_thread_count`. Of a row they keep what these read or write.
-/
namespace Yappy.Deletion

open Markdown (Text)
open MessageService (Nonce batch)
open Permissions (Time Uuid)
open Tables (MessageType)
open ReadCommitted (put Rows)
open ReadCommitted.Sql

/-- `last_message_preview`: a stretch of text, or one of the fixed texts. -/
inductive Preview
  | text (t : Text)
  | fixed (s : String)

structure Conversation where
  messageSeq : ℕ
  lastMessageId : Option Uuid
  lastMessagePreview : Option Preview

structure Message where
  conversationId : Uuid
  seq : ℕ
  senderId : Option Uuid
  type : MessageType
  content : Option Text
  threadRootId : Option Uuid
  threadReplyCount : ℕ
  nonce : Option Nonce
  cardKey : Option String
  /-- `message_attachments`. -/
  mediaIds : List Uuid
  expiresAt : Option Time
  deletedAt : Option Time
  deletedById : Option Uuid

structure Pin where
  pinnedById : Uuid
  position : ℕ

inductive Key
  | conversation (id : Uuid)
  | message (id : Uuid)
  | pin (conversationId messageId : Uuid)
  deriving DecidableEq

abbrev Row : Key → Type
  | .conversation _ => Conversation
  | .message _ => Message
  | .pin .. => Pin

abbrev Database := Rows Row
abbrev Changes := ReadCommitted.Changes Row
abbrev Program := ReadCommitted.Program Row

/-! ## Sending -/

/-- `buildPreview`. `cardText` is the title or the description of the first embed. -/
def buildPreview (type : MessageType) (content : Option Text) (hasAttachments : Bool)
    (cardText : Option Text) : Preview :=
  if (content.getD []).any fun u => !Markdown.isSpace u then .text ((content.getD []).take 160)
  else if cardText.getD [] ≠ [] then .text ((cardText.getD []).take 160)
  else match type with
    | .image => .fixed "📷 Photo"
    | .video => .fixed "🎥 Video"
    | .audio => .fixed "🎤 Voice message"
    | .file => .fixed "📎 File"
    | .sticker => .fixed "Sticker"
    | .gif => .fixed "GIF"
    | .location => .fixed "📍 Location"
    | .contact => .fixed "👤 Contact"
    | .poll => .fixed "📊 Poll"
    | .call => .fixed "📞 Call"
    | .text | .system => .fixed (if hasAttachments then "Attachment" else "")

/-- Rows the unique indexes of `messages` would not have beside `m`. -/
def clashing (view : Database) (m : Message) : List Key :=
  view.select fun
    | .message _, (r : Message) =>
      (r.conversationId = m.conversationId ∧ r.seq = m.seq) ∨
        (m.nonce.isSome ∧ m.senderId.isSome ∧ r.senderId = m.senderId ∧ r.nonce = m.nonce) ∨
        (m.cardKey.isSome ∧ m.senderId.isSome ∧ r.conversationId = m.conversationId ∧
          r.senderId = m.senderId ∧ r.cardKey = m.cardKey)
    | _, _ => false

/-- Whether inserting `m` throws: a key that is taken, or a row missing that it refers to. Its own
id is new, so no client has named it as the root. -/
def violates (view : Database) (id : Uuid) (m : Message) : Bool :=
  (view (.message id)).isSome || !(clashing view m).isEmpty ||
    (view (.conversation m.conversationId)).isNone ||
    m.threadRootId.any fun root => (view (.message root)).isNone

def Message.replied (m : Message) : Message := { m with threadReplyCount := m.threadReplyCount + 1 }

/-- What the insert writes, `sync_thread_count` included. -/
def inserted (view : Database) (id : Uuid) (m : Message) : Changes :=
  let row : Changes := put (.message id) m
  match m.threadRootId with
  | none => row
  | some root =>
    match view (.message root) with
    | none => row
    | some r => ReadCommitted.andThen (put (.message root) r.replied) row

def insertMessage (id : Uuid) (m : Message) (next : Program) : Program :=
  .statement (fun view => if violates view id m then .empty else inserted view id m)
    fun view => if violates view id m then .fail else next

structure SendInput where
  actorId : Uuid
  conversationId : Uuid
  messageId : Uuid
  type : MessageType
  content : Option Text
  cardText : Option Text
  isEncrypted : Bool
  replyToId : Option Uuid
  threadRootId : Option Uuid
  mediaIds : List Uuid
  nonce : String
  cardKey : Option String
  expiresAt : Option Time

namespace SendInput
variable (input : SendInput)

def key : Nonce :=
  match input.cardKey with
  | none => .client input.nonce
  | some key => .card input.conversationId input.actorId key

def preview : Preview :=
  if input.isEncrypted then .fixed "Encrypted message"
  else buildPreview input.type input.content (input.mediaIds ≠ []) input.cardText

def message (root : Option Uuid) (seq : ℕ) : Message where
  conversationId := input.conversationId
  seq := seq
  senderId := some input.actorId
  type := input.type
  content := input.content
  threadRootId := root
  threadReplyCount := 0
  nonce := some input.key
  cardKey := input.cardKey
  mediaIds := input.mediaIds
  expiresAt := input.expiresAt
  deletedAt := none
  deletedById := none

end SendInput

def Conversation.stamped (messageId : Uuid) (preview : Preview) (c : Conversation) : Conversation :=
  { c with lastMessageId := some messageId, lastMessagePreview := some preview }

def Conversation.numbered (c : Conversation) : Conversation := { c with messageSeq := c.messageSeq + 1 }

def replayed (view : Database) (input : SendInput) : Bool :=
  !(view.select fun
    | .message _, (m : Message) => m.senderId = some input.actorId ∧ m.nonce = some input.key
    | _, _ => false).isEmpty

def sendInsert (input : SendInput) (root : Option Uuid) (seq : ℕ) : Program :=
  insertMessage input.messageId (input.message root seq) (.commit .done)

/-- The transaction of a send. `allocate_message_seq` stamps the conversation too. -/
def sendTransaction (input : SendInput) (root : Option Uuid) : Program :=
  update (.conversation input.conversationId)
    (fun c => (c.stamped input.messageId input.preview).numbered) fun
    | none => .fail
    | some c => sendInsert input root c.messageSeq

/-- `loadReplyTarget`. -/
def sendReply (input : SendInput) (target : Uuid) : Program :=
  read fun view =>
    match view (.message target) with
    | none => .fail
    | some m =>
      if m.conversationId ≠ input.conversationId then .fail
      else sendTransaction input (input.threadRootId.or (m.threadRootId.or (some target)))

section Calls
/- What the permission checks, and the other checks on a request, decide. -/
variable (permitted : Database → Uuid → Uuid → Bool)

def sendChecked (input : SendInput) : Program :=
  read fun view =>
    if !permitted view input.actorId input.conversationId then .fail
    else match input.replyToId with
      | none => sendTransaction input input.threadRootId
      | some target => sendReply input target

def send (input : SendInput) : Program :=
  read fun view => if replayed view input then .done else sendChecked permitted input

/-! ## Editing -/

def editPreview (row : Message) (content : Option Text) : Program :=
  update (.conversation row.conversationId)
    (fun c => { c with lastMessagePreview := some (buildPreview row.type content false none) })
    fun _ => .commit .done

/-- The transaction of an edit; `last` is the newest message when the conversation was read. -/
def editTransaction (messageId : Uuid) (row : Message) (last : Option Uuid)
    (content : Option Text) : Program :=
  update (.message messageId) (fun m => { m with content := content }) fun _ =>
    if last = some messageId then editPreview row content else .commit .done

def editChecked (actorId messageId : Uuid) (row : Message) (content : Option Text) : Program :=
  read fun view =>
    match view (.conversation row.conversationId) with
    | none => .fail
    | some c =>
      if !permitted view actorId row.conversationId then .fail
      else editTransaction messageId row c.lastMessageId content

/-- `edit`, with the content it leaves; `content` is none where the patch has none. -/
def edit (actorId messageId : Uuid) (content : Option (Option Text)) : Program :=
  read fun view =>
    match view (.message messageId) with
    | none => .fail
    | some row =>
      if row.deletedAt.isSome || row.senderId ≠ some actorId then .fail
      else editChecked permitted actorId messageId row (content.getD row.content)

/-! ## Removing -/

/-- A deleted card gives its name back. `row` is the message as it was read. -/
def Message.removed (row : Message) (actorId : Uuid) (clock : Time) (m : Message) : Message :=
  { m with
    deletedAt := some clock
    deletedById := some actorId
    cardKey := if row.cardKey.isSome then none else m.cardKey
    nonce := if row.cardKey.isSome then none else m.nonce }

def Message.unreplied (m : Message) : Message := { m with threadReplyCount := m.threadReplyCount - 1 }

def deletedPreview : Preview := .fixed "Message deleted"

def removePreview (row : Message) : Program :=
  update (.conversation row.conversationId)
    (fun c => { c with lastMessagePreview := some deletedPreview }) fun _ => .commit .done

def removeRest (messageId : Uuid) (row : Message) (last : Option Uuid) : Program :=
  if last = some messageId then removePreview row else .commit .done

def removeReply (messageId : Uuid) (row : Message) (last : Option Uuid) : Program :=
  match row.threadRootId with
  | none => removeRest messageId row last
  | some root => update (.message root) Message.unreplied fun _ => removeRest messageId row last

def pinsOf (messageId : Uuid) (view : Database) : List Key :=
  view.select fun
    | .pin _ m, _ => m = messageId
    | _, _ => false

def removePins (messageId : Uuid) (row : Message) (last : Option Uuid) : Program :=
  deleteAll (pinsOf messageId) (removeReply messageId row last)

def markDeleted (actorId messageId : Uuid) (row : Message) (last : Option Uuid) (clock : Time) :
    Program :=
  update (.message messageId) (row.removed actorId clock) fun _ => removePins messageId row last

def removeChecked (actorId messageId : Uuid) (row : Message) (clock : Time) : Program :=
  read fun view =>
    match view (.conversation row.conversationId) with
    | none => .fail
    | some c =>
      if !permitted view actorId row.conversationId then .fail
      else markDeleted actorId messageId row c.lastMessageId clock

/-- `remove`, for everyone. -/
def remove (actorId messageId : Uuid) (clock : Time) : Program :=
  read fun view =>
    match view (.message messageId) with
    | none => .fail
    | some row => removeChecked permitted actorId messageId row clock

/-! ## Pins -/

def systemMessage (conversationId : Uuid) (seq : ℕ) : Message where
  conversationId := conversationId
  seq := seq
  senderId := none
  type := .system
  content := none
  threadRootId := none
  threadReplyCount := 0
  nonce := none
  cardKey := none
  mediaIds := []
  expiresAt := none
  deletedAt := none
  deletedById := none

/-- The last statement of `writeSystemMessage`. -/
def stampSystem (conversationId systemId : Uuid) : Program :=
  update (.conversation conversationId) (Conversation.stamped systemId (.fixed "")) fun _ =>
    .commit .done

def insertSystem (conversationId systemId : Uuid) (seq : ℕ) : Program :=
  insertMessage systemId (systemMessage conversationId seq) (stampSystem conversationId systemId)

/-- `writeSystemMessage`: a pin is announced in the timeline. -/
def announcePin (conversationId systemId : Uuid) : Program :=
  update (.conversation conversationId) Conversation.numbered fun
    | none => .fail
    | some c => insertSystem conversationId systemId c.messageSeq

/-- `insert into pinned_messages … on conflict do nothing`, whose foreign keys throw. -/
def insertPin (conversationId messageId : Uuid) (p : Pin) (next : Program) : Program :=
  .statement
    (fun view => if (view (.pin conversationId messageId)).isSome ||
      (view (.message messageId)).isNone then .empty else put (.pin conversationId messageId) p)
    fun view => if (view (.message messageId)).isNone then .fail else next

def pinnedPerConversation : ℕ := 50

def pinCounted (actorId conversationId messageId systemId : Uuid) : Program :=
  read fun view =>
    let count := (view.select fun
      | .pin c _, _ => c = conversationId
      | _, _ => false).length
    if pinnedPerConversation ≤ count then .fail
    else insertPin conversationId messageId ⟨actorId, count⟩ (announcePin conversationId systemId)

def pinChecked (actorId conversationId messageId systemId : Uuid) : Program :=
  read fun view =>
    match view (.message messageId) with
    | none => .fail
    | some m =>
      if m.conversationId ≠ conversationId || m.deletedAt.isSome then .fail
      else pinCounted actorId conversationId messageId systemId

def pin (actorId conversationId messageId systemId : Uuid) : Program :=
  read fun view =>
    if !permitted view actorId conversationId then .fail
    else pinChecked actorId conversationId messageId systemId

def deletePin (conversationId messageId : Uuid) : Program :=
  deleteAll (fun view => if (view (.pin conversationId messageId)).isSome then
    [.pin conversationId messageId] else []) (.commit .done)

/-- `DELETE /:id/pins/:messageId`. -/
def unpin (actorId conversationId messageId : Uuid) : Program :=
  read fun view =>
    if !permitted view actorId conversationId then .fail else deletePin conversationId messageId

end Calls

/-! ## The worker -/

/-- One `update messages set deleted_at = now()`. -/
def buryAll (due : Database → List Key) (clock : Time) : Program :=
  updateAll due
    (fun
      | .message _, (m : Message) => { m with deletedAt := some clock }
      | _, r => r)
    (.commit .done)

def sweepExpiredMessages (clock : Time) : Program :=
  buryAll (fun view => (view.select fun
    | .message _, (m : Message) => m.expiresAt.any (fun t => t < clock) ∧ m.deletedAt.isNone
    | _, _ => false).take batch) clock

def quarantineMedia (mediaId : Uuid) (clock : Time) : Program :=
  buryAll (fun view => view.select fun
    | .message _, (m : Message) => mediaId ∈ m.mediaIds ∧ m.deletedAt.isNone
    | _, _ => false) clock

inductive Accepted (permitted : Database → Uuid → Uuid → Bool) : Program → Prop
  | send (input : SendInput) : Accepted permitted (send permitted input)
  | edit (actorId messageId : Uuid) (content : Option (Option Text)) :
      Accepted permitted (edit permitted actorId messageId content)
  | remove (actorId messageId : Uuid) (clock : Time) :
      Accepted permitted (remove permitted actorId messageId clock)
  | pin (actorId conversationId messageId systemId : Uuid) :
      Accepted permitted (pin permitted actorId conversationId messageId systemId)
  | unpin (actorId conversationId messageId : Uuid) :
      Accepted permitted (unpin permitted actorId conversationId messageId)
  | sweepExpiredMessages (clock : Time) : Accepted permitted (sweepExpiredMessages clock)
  | quarantineMedia (mediaId : Uuid) (clock : Time) :
      Accepted permitted (quarantineMedia mediaId clock)

end Yappy.Deletion
