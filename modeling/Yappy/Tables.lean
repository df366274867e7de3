import Yappy.PermissionDatabase
import Yappy.ReadCommitted

/-!
# The tables that messages and membership are written to

One row type for each table of `packages/db/src/schema` that the writers of messages and the
membership routes touch, under its primary key. Counters that only triggers keep, `member_count`
apart, and columns that no modelled statement reads or writes are left out.
-/
namespace Yappy.Tables

open Permissions (ConversationType MemberRole Time Uuid Mask)

structure Conversation where
  type : ConversationType
  parentId : Option Uuid
  title : Option String
  position : ℕ
  ownerId : Option Uuid
  createdById : Option Uuid
  memberCount : ℕ
  messageSeq : ℕ
  lastMessageId : Option Uuid
  lastMessageAt : Option Time
  lastMessagePreview : Option String
  lastMessageSenderId : Option Uuid
  basePermissions : Option Mask
  disappearingSeconds : ℕ
  slowModeSeconds : ℕ
  historyVisibility : String
  isPublic : Bool
  endsAt : Option Time
  endsWarnedAt : Option Time
  deletedAt : Option Time

/-- A conversation with every column that has a default at its default. -/
def Conversation.new (type : ConversationType) : Conversation where
  type := type
  parentId := none
  title := none
  position := 0
  ownerId := none
  createdById := none
  memberCount := 0
  messageSeq := 0
  lastMessageId := none
  lastMessageAt := none
  lastMessagePreview := none
  lastMessageSenderId := none
  basePermissions := none
  disappearingSeconds := 0
  slowModeSeconds := 0
  historyVisibility := "since_join"
  isPublic := false
  endsAt := none
  endsWarnedAt := none
  deletedAt := none

structure Member where
  role : MemberRole
  allow : Mask
  deny : Mask
  mutedUntil : Option Time
  nickname : Option String
  lastReadSeq : ℕ
  lastReadAt : Option Time
  lastDeliveredSeq : ℕ
  notificationLevel : Option String
  isPinned : Bool
  isArchived : Bool
  draft : Option String
  draftUpdatedAt : Option Time
  historyStartSeq : ℕ
  isAffiliate : Bool
  invitedById : Option Uuid
  joinedAt : Time
  leftAt : Option Time
  rejoinCount : ℕ

def Member.new (role : MemberRole) (joinedAt : Time) : Member where
  role := role
  allow := 0
  deny := 0
  mutedUntil := none
  nickname := none
  lastReadSeq := 0
  lastReadAt := none
  lastDeliveredSeq := 0
  notificationLevel := none
  isPinned := false
  isArchived := false
  draft := none
  draftUpdatedAt := none
  historyStartSeq := 0
  isAffiliate := false
  invitedById := none
  joinedAt := joinedAt
  leftAt := none
  rejoinCount := 0

inductive MessageType
  | text | image | video | audio | file | sticker | gif | poll | location | contact | call | system
  deriving DecidableEq

structure SystemPayload where
  event : String
  actorId : Option Uuid
  targetIds : List Uuid
  value : Option String

structure CallSummary where
  callId : Uuid
  outcome : String
  durationSeconds : ℕ

structure Message where
  conversationId : Uuid
  seq : ℕ
  senderId : Option Uuid
  type : MessageType
  nonce : Option String
  system : Option SystemPayload
  callSummary : Option CallSummary
  expiresAt : Option Time
  deletedAt : Option Time

structure Mention where
  conversationId : Uuid
  seq : ℕ
  isBroadcast : Bool

structure Pin where
  pinnedById : Option Uuid
  position : ℕ

inductive CallState
  | ringing | active | ended
  deriving DecidableEq

structure Call where
  conversationId : Option Uuid
  initiatorId : Option Uuid
  state : CallState
  startedAt : Option Time
  ringExpiresAt : Option Time
  endedAt : Option Time
  endReason : Option String
  durationSeconds : Option ℕ

structure Reminder where
  userId : Uuid
  conversationId : Uuid
  messageId : Option Uuid
  deliveredAt : Option Time
  cancelledAt : Option Time

structure ScheduledMessage where
  conversationId : Uuid
  senderId : Uuid
  sentAt : Option Time
  cancelledAt : Option Time
  failedAt : Option Time

structure PhotoWall where
  conversationId : Uuid
  creatorId : Uuid
  title : String

structure LiveLocation where
  conversationId : Uuid
  userId : Uuid
  expiresAt : Time
  endedAt : Option Time

structure User where
  suspendedUntil : Option Time
  deletedAt : Option Time

structure Ban where
  bannedById : Option Uuid
  reason : Option String
  expiresAt : Option Time

structure Invite where
  conversationId : Uuid
  createdById : Uuid
  roleId : Option Uuid
  maxUses : ℕ
  uses : ℕ
  expiresAt : Option Time
  revokedAt : Option Time
  deriving DecidableEq

structure Role where
  conversationId : Uuid
  permissions : Mask

structure MemberRoleRow where
  assignedById : Option Uuid

inductive Key
  | conversation (id : Uuid)
  | member (conversationId userId : Uuid)
  | message (id : Uuid)
  | mention (messageId userId : Uuid)
  | pin (conversationId messageId : Uuid)
  | call (id : Uuid)
  | reminder (id : Uuid)
  | scheduledMessage (id : Uuid)
  | photoWall (id : Uuid)
  | liveLocation (messageId : Uuid)
  | user (id : Uuid)
  | ban (conversationId userId : Uuid)
  | invite (code : String)
  | role (id : Uuid)
  | memberRole (conversationId userId roleId : Uuid)
  deriving DecidableEq

abbrev Row : Key → Type
  | .conversation _ => Conversation
  | .member .. => Member
  | .message _ => Message
  | .mention .. => Mention
  | .pin .. => Pin
  | .call _ => Call
  | .reminder _ => Reminder
  | .scheduledMessage _ => ScheduledMessage
  | .photoWall _ => PhotoWall
  | .liveLocation _ => LiveLocation
  | .user _ => User
  | .ban .. => Ban
  | .invite _ => Invite
  | .role _ => Role
  | .memberRole .. => MemberRoleRow

abbrev Database := ReadCommitted.Rows Row
abbrev Changes := ReadCommitted.Changes Row
abbrev Program := ReadCommitted.Program Row

open ReadCommitted (put)

namespace Statement

/-- `select`. -/
def read (next : Database → Program) : Program := .statement (fun _ => .empty) next

def insert (k : Key) (r : Row k) (next : Program) : Program :=
  .statement (fun view => if (view k).isSome then .empty else put k r)
    fun view => if (view k).isSome then .fail else next

/-- `insert … on conflict do nothing`, with whether a row was inserted. -/
def insertNew (k : Key) (r : Row k) (next : Bool → Program) : Program :=
  .statement (fun view => if (view k).isSome then .empty else put k r)
    fun view => next (view k).isNone

/-- `update … where … returning`, by primary key and a condition on the row. -/
def updateWhere (k : Key) (p : Row k → Bool) (f : Row k → Row k)
    (next : Option (Row k) → Program) : Program :=
  .statement
    (fun view => match (view k).filter p with
      | some r => put k (f r)
      | none => .empty)
    fun view => next (((view k).filter p).map f)

def update (k : Key) (f : Row k → Row k) (next : Option (Row k) → Program) : Program :=
  updateWhere k (fun _ => true) f next

end Statement

end Yappy.Tables
