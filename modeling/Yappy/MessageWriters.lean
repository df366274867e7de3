import Yappy.Tables

/-!
# The writers of messages

`allocate_message_seq` of `packages/db/sql/0003_functions.sql` and whatever inserts into or updates
`messages`: `MessageService.send`, `writeSystemMessage`, `endCall`, the worker's ring timeout, and
the sweeps of `apps/worker/src/jobs/maintenance.ts` that touch a table modelled here. Events and
notifications, which write no such table, are left out.
-/
namespace Yappy.Tables
open Permissions (Time Uuid)
open ReadCommitted (put Rows)
open Statement

/-- `allocate_message_seq`. The four-argument form stamps the last-message columns in the same
statement; the other stamps nothing. -/
def allocateMessageSeq (conversationId : Uuid) (stamp : Conversation → Conversation)
    (next : ℕ → Program) : Program :=
  update (.conversation conversationId)
    (fun c => { stamp c with messageSeq := c.messageSeq + 1 }) fun
    | some c => next c.messageSeq
    | none => .fail

/-- Rows the unique indexes of `messages` would not have beside `m`: the same number in the
conversation, or the same nonce of the same sender. -/
def clashing (view : Database) (m : Message) : List Key :=
  view.select fun
    | .message _, (r : Message) =>
      (r.conversationId = m.conversationId ∧ r.seq = m.seq) ∨
        (r.nonce.isSome ∧ r.senderId.isSome ∧ r.nonce = m.nonce ∧ r.senderId = m.senderId)
    | _, _ => false

/-- Whether inserting `m` throws: a key that is taken, or no conversation to refer to. -/
def violates (view : Database) (id : Uuid) (m : Message) : Bool :=
  (view (.message id)).isSome || !(clashing view m).isEmpty ||
    (view (.conversation m.conversationId)).isNone

def insertMessage (id : Uuid) (m : Message) (next : Program) : Program :=
  .statement (fun view => if violates view id m then .empty else put (.message id) m)
    fun view => if violates view id m then .fail else next

def Conversation.withLast (messageId : Uuid) (clock : Time) (preview : String) (c : Conversation) :
    Conversation :=
  { c with
    lastMessageId := some messageId
    lastMessageAt := some clock
    lastMessagePreview := some preview }

def systemMessage (conversationId : Uuid) (payload : SystemPayload) (seq : ℕ) : Message where
  conversationId := conversationId
  seq := seq
  senderId := none
  type := .system
  nonce := none
  system := some payload
  callSummary := none
  expiresAt := none
  deletedAt := none

/-- `writeSystemMessage`, inside the transaction of its caller. -/
def writeSystemMessage (conversationId id : Uuid) (payload : SystemPayload) (clock : Time)
    (next : Program) : Program :=
  allocateMessageSeq conversationId (fun c => c) fun seq =>
    insertMessage id (systemMessage conversationId payload seq) <|
      update (.conversation conversationId) (Conversation.withLast id clock "") fun _ => next

/-! ## `MessageService.send` -/

structure SendInput where
  actorId : Uuid
  conversationId : Uuid
  messageId : Uuid
  type : MessageType
  nonce : String
  preview : String
  expiresAt : Option Time
  liveUntil : Option Time
  mentionIds : List Uuid
  broadcast : Bool
  mentionRoleIds : List Uuid

def liveLocationMax : ℕ := 28800 * 1000

def replayed (view : Database) (input : SendInput) : Bool :=
  !(view.select fun
    | .message _, (r : Message) => r.senderId = some input.actorId ∧ r.nonce = some input.nonce
    | _, _ => false).isEmpty

def SendInput.message (input : SendInput) (seq : ℕ) : Message where
  conversationId := input.conversationId
  seq := seq
  senderId := some input.actorId
  type := input.type
  nonce := some input.nonce
  system := none
  callSummary := none
  expiresAt := input.expiresAt
  deletedAt := none

def SendInput.stamp (input : SendInput) (clock : Time) (c : Conversation) : Conversation :=
  { c.withLast input.messageId clock input.preview with
    lastMessageSenderId := some input.actorId }

def activeMembers (view : Database) (scope : Uuid) : List Uuid :=
  view.keys.filterMap fun
    | .member s user =>
      if s = scope ∧ (view (.member s user)).any (fun m => m.leftAt.isNone) then some user else none
    | _ => none

def holdsAny (view : Database) (scope : Uuid) (roleIds : List Uuid) (user : Uuid) : Bool :=
  roleIds.any fun role => (view (.memberRole scope user role)).isSome

/-- `insert into message_mentions … on conflict do nothing`, one statement for all of `users`. -/
def insertMentions (messageId : Uuid) (row : Mention) (users : Database → List Uuid)
    (next : Program) : Program :=
  .statement
    (fun view => Rows.on ((users view).map (Key.mention messageId)) fun
      | .mention m user => if (view (.mention m user)).isSome then none else some (some row)
      | _ => none)
    fun _ => next

def Member.sent (seq : ℕ) (clock : Time) (m : Member) : Member :=
  { m with lastReadSeq := seq, lastDeliveredSeq := seq, lastReadAt := some clock }

def materialiseChannelMember (conversationId user : Uuid) (clock : Time) (next : Program) :
    Program :=
  read fun view =>
    match (view (.conversation conversationId)).bind Conversation.parentId with
    | none => next
    | some parent =>
      match (view (.member parent user)).filter fun m => m.leftAt.isNone with
      | none => next
      | some m => insertNew (.member conversationId user) (Member.new m.role clock) fun _ => next

section Send
/- What `requirePermission` and the checks after it decide, and who can see a gated channel. How
either comes about makes no difference to what `send` writes. -/
variable (permitted : Database → SendInput → Bool) (sees : Database → Uuid → Uuid → Bool)

def shareLocation (input : SendInput) (clock : Time) (next : Program) : Program :=
  match input.liveUntil with
  | none => next
  | some requested =>
    let expiresAt := min requested (clock + liveLocationMax)
    if expiresAt ≤ clock then .fail
    else insert (.liveLocation input.messageId)
      ⟨input.conversationId, input.actorId, expiresAt, none⟩ next

/-- The transaction of `send`, from the number on. -/
def sendMessage (input : SendInput) (isVirtual : Bool) (scope : Uuid) (clock : Time) : Program :=
  allocateMessageSeq input.conversationId (input.stamp clock) fun seq =>
    insertMessage input.messageId (input.message seq) <|
      shareLocation input clock <|
      insertMentions input.messageId ⟨input.conversationId, seq, false⟩ (fun _ => input.mentionIds) <|
      insertMentions input.messageId ⟨input.conversationId, seq, true⟩
        (fun view => if input.broadcast then
          (activeMembers view scope).filter fun user =>
            user ≠ input.actorId ∧ sees view input.conversationId user
          else []) <|
      insertMentions input.messageId ⟨input.conversationId, seq, true⟩
        (fun view => (activeMembers view scope).filter fun user =>
          user ≠ input.actorId ∧ holdsAny view scope input.mentionRoleIds user ∧
            sees view input.conversationId user) <|
      (if isVirtual then materialiseChannelMember input.conversationId input.actorId clock else id) <|
      update (.member input.conversationId input.actorId) (Member.sent seq clock) fun _ =>
      .commit .done

def send (input : SendInput) (clock : Time) : Program :=
  read fun view =>
    if replayed view input then .done
    else read fun view =>
      if !permitted view input then .fail
      else
        let isVirtual := (view (.member input.conversationId input.actorId)).isNone
        let scope := ((view (.conversation input.conversationId)).bind Conversation.parentId).getD
          input.conversationId
        -- the account is locked until the message commits, or the send fails
        read fun view =>
          match view (.user input.actorId) with
          | none => .fail
          | some u =>
            if u.deletedAt.isSome || u.suspendedUntil.any (fun t => clock < t) then .fail
            else sendMessage sees input isVirtual scope clock

end Send

/-! ## Calls -/

def Call.ended (reason : String) (duration : ℕ) (clock : Time) (c : Call) : Call :=
  { c with
    state := .ended
    endedAt := some clock
    endReason := some reason
    durationSeconds := some duration }

def callMessage (call : Call) (conversationId : Uuid) (summary : CallSummary) (seq : ℕ) : Message where
  conversationId := conversationId
  seq := seq
  senderId := call.initiatorId
  type := .call
  nonce := none
  system := none
  callSummary := some summary
  expiresAt := none
  deletedAt := none

/-- The summary card, inside the transaction that ends the call. -/
def writeCallSummary (call : Call) (messageId : Uuid) (summary : CallSummary) (preview : String)
    (clock : Time) (next : Program) : Program :=
  match call.conversationId with
  | none => next
  | some conversationId =>
    allocateMessageSeq conversationId (fun c => c) fun seq =>
      insertMessage messageId (callMessage call conversationId summary seq) <|
        update (.conversation conversationId) (Conversation.withLast messageId clock preview)
          fun _ => next

def outcome (duration : ℕ) (reason : String) : String :=
  if 0 < duration then "completed"
  else if reason = "declined" then "declined"
  else if reason = "timeout" then "missed"
  else "cancelled"

/-- `endCall` of the API. -/
def endCall (callId messageId : Uuid) (reason : String) (clock : Time) : Program :=
  read fun view =>
    match view (.call callId) with
    | none => .done
    | some call =>
      if call.state = .ended then .done
      else
        let duration := call.startedAt.elim 0 fun t => (clock - t + 500) / 1000
        let result := outcome duration reason
        update (.call callId) (Call.ended reason duration clock) fun _ =>
          writeCallSummary call messageId ⟨callId, result, duration⟩
            (if result = "missed" then "📞 Missed call" else "📞 Call") clock (.commit .done)

def ringTimeout (callId messageId : Uuid) (clock : Time) : Program :=
  read fun view =>
    match view (.call callId) with
    | none => .done
    | some call =>
      if call.state ≠ .ringing ∨ call.ringExpiresAt.any (fun t => clock < t) then .done
      else updateWhere (.call callId) (fun c => c.state = .ringing) (Call.ended "timeout" 0 clock)
        fun _ => writeCallSummary call messageId ⟨callId, "missed", 0⟩ "📞 Missed call" clock
          (.commit .done)

/-! ## The sweeps of the worker -/

/-- One `update` of the rows of `keys`, those that satisfy its condition. -/
def updateAll (keys : Database → List Key) (f : (k : Key) → Row k → Row k) (next : Program) :
    Program :=
  .statement (fun view => Rows.on (keys view) fun k => (view k).map fun r => some (f k r)) fun _ =>
    next

def batch : ℕ := 5000

/-- The first `limit` rows of `messages` or `conversations` that satisfy a condition. -/
def due (limit : ℕ) (p : (k : Key) → Row k → Bool) (view : Database) : List Key :=
  (view.select p).take limit

def sweepExpiredMessages (clock : Time) : Program :=
  updateAll
    (due batch fun
      | .message _, (m : Message) => m.expiresAt.any (fun t => t < clock) ∧ m.deletedAt.isNone
      | _, _ => false)
    (fun
      | .message _, (m : Message) => { m with deletedAt := some clock }
      | _, r => r)
    (.commit .done)

def sweepLiveLocations (clock : Time) : Program :=
  updateAll
    (fun view => view.select fun
      | .liveLocation _, (l : LiveLocation) => l.endedAt.isNone ∧ l.expiresAt < clock
      | _, _ => false)
    (fun
      | .liveLocation _, (l : LiveLocation) => { l with endedAt := some clock }
      | _, r => r)
    (.commit .done)

/-- One conversation's warning: a statement that allocates and inserts, then the one that stamps
the conversation, each on its own. -/
def warnCampfire (conversationId messageId : Uuid) (clock : Time) (endsAt : String)
    (next : Program) : Program :=
  allocateMessageSeq conversationId (fun c => c) fun seq =>
    insertMessage messageId
      (systemMessage conversationId ⟨"campfire_ending", none, [], some endsAt⟩ seq) <|
      .commit <|
      update (.conversation conversationId)
        (Conversation.withLast messageId clock "This campfire is ending soon") fun _ =>
      .commit next

def warnCampfires (fresh : Uuid → Uuid) (clock : Time) (endsAt : Uuid → String) :
    List Key → Program → Program
  | .conversation id :: rest, next =>
    warnCampfire id (fresh id) clock (endsAt id) (warnCampfires fresh clock endsAt rest next)
  | _ :: rest, next => warnCampfires fresh clock endsAt rest next
  | [], next => next

def burnCampfires (clock : Time) (next : Program) : Program :=
  updateAll
    (due 200 fun
      | .conversation _, (c : Conversation) =>
        c.endsAt.any (fun t => t < clock) ∧ c.deletedAt.isNone
      | _, _ => false)
    (fun
      | .conversation _, (c : Conversation) => { c with deletedAt := some clock }
      | _, r => r)
    (.commit next)

def ending (clock : Time) (warning : ℕ) : Database → List Key :=
  due 200 fun
    | .conversation _, (c : Conversation) =>
      c.endsAt.any (fun t => clock < t ∧ t < clock + warning) ∧ c.endsWarnedAt.isNone ∧
        c.deletedAt.isNone
    | _, _ => false

def sweepCampfires (fresh : Uuid → Uuid) (clock : Time) (warning : ℕ) (endsAt : Uuid → String) :
    Program :=
  .statement
    (fun view => Rows.on (ending clock warning view) fun
      | .conversation id => (view (.conversation id)).map fun c =>
        some { c with endsWarnedAt := some clock }
      | _ => none)
    fun view => .commit <|
      warnCampfires fresh clock endsAt (ending clock warning view) (burnCampfires clock .done)

/-- What `purgeAccount` does to `messages`. -/
def purgeAccount (user : Uuid) : Program :=
  updateAll
    (fun view => view.select fun
      | .message _, (m : Message) => m.senderId = some user
      | _, _ => false)
    (fun
      | .message _, (m : Message) => { m with senderId := none }
      | _, r => r)
    (.commit .done)

def expireInvitesAndBans (clock : Time) : Program :=
  .statement
    (fun view => Rows.on (view.select fun
        | .ban .., (b : Ban) => b.expiresAt.any fun t => t < clock
        | _, _ => false) fun _ => some none)
    fun _ => .commit <|
      updateAll
        (fun view => view.select fun
          | .invite _, (i : Invite) => i.revokedAt.isNone ∧ i.expiresAt.any (fun t => t < clock)
          | _, _ => false)
        (fun
          | .invite _, (i : Invite) => { i with revokedAt := some clock }
          | _, r => r)
        (.commit .done)

end Yappy.Tables
