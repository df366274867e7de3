import Yappy.MessageDeletion
import Yappy.Pages
import Yappy.PermissionSql

/-!
# Reading messages

What the API answers to whoever reads messages: `history`, `catchUp` and `get` of
`apps/api/src/services/messages.ts`, the thread view, pins, media wall and gallery of
`apps/api/src/routes/messages.ts`, the saved messages of `apps/api/src/routes/users.ts`, and what
`apps/api/src/routes/community.ts` selects through `can_read_message`.
-/
namespace Yappy.Reads

open Deletion (Preview buildPreview)
open Markdown (Text)
open Pages (Query)
open Permissions (AppError Conversation ConversationMember MemberContext Time Uuid notFound)
open Tables (MessageType)

structure Attachment where
  mediaId : Uuid
  mimeType : String
  isSpoiler : Bool
  deletedAt : Option Time
  deriving DecidableEq

structure Message where
  id : Uuid
  conversationId : Uuid
  seq : ℕ
  senderId : Option Uuid
  type : MessageType
  content : Option Text
  isEncrypted : Bool
  replyToId : Option Uuid
  threadRootId : Option Uuid
  attachments : List Attachment
  createdAt : Time
  expiresAt : Option Time
  deletedAt : Option Time
  deriving DecidableEq

structure PinnedMessage where
  conversationId : Uuid
  messageId : Uuid
  position : ℕ
  pinnedAt : Time

def PinnedMessage.key (p : PinnedMessage) : Uuid × Uuid := (p.conversationId, p.messageId)

structure MessageMention where
  messageId : Uuid
  userId : Uuid
  conversationId : Uuid
  seq : ℕ

def MessageMention.key (x : MessageMention) : Uuid × Uuid := (x.messageId, x.userId)

structure SavedMessage where
  userId : Uuid
  messageId : Uuid
  savedAt : Time

def SavedMessage.key (s : SavedMessage) : Uuid × Uuid := (s.userId, s.messageId)

/-- A row of `community_reminders`; `eventTitle` is that of its event. -/
structure Reminder where
  id : Uuid
  userId : Uuid
  conversationId : Uuid
  messageId : Option Uuid
  eventTitle : Option String
  dueAt : Time
  deliveredAt : Option Time
  cancelledAt : Option Time

structure Notice where
  id : Uuid
  userId : Uuid
  targetId : Uuid
  readAt : Option Time
  createdAt : Time

structure Database where
  tables : Permissions.Database
  messages : KeyedTable Message.id
  /-- `message_deletions`: message and user. -/
  messageDeletions : List (Uuid × Uuid)
  pinnedMessages : KeyedTable PinnedMessage.key
  messageMentions : KeyedTable MessageMention.key
  savedMessages : KeyedTable SavedMessage.key
  reminders : KeyedTable Reminder.id
  notifications : KeyedTable Notice.id
  /-- `messages_conversation_seq_uq`. -/
  seq_unique : ∀ m ∈ messages.rows, ∀ m' ∈ messages.rows,
    m.conversationId = m'.conversationId → m.seq = m'.seq → m = m'
  mention_placed : ∀ x ∈ messageMentions.rows, ∃ m, messages.find x.messageId = some m ∧
    m.conversationId = x.conversationId ∧ m.seq = x.seq

/-! ## Hydration -/

structure Stub where
  id : Uuid
  seq : ℕ
  senderId : Option Uuid
  preview : Option Preview
  type : MessageType

structure Hydrated where
  message : Message
  replyTo : Option Stub

/-- `toMessage`: of a deleted message only its place is left. -/
def toMessage (m : Message) (replyTo : Option Stub) : Hydrated where
  message := if m.deletedAt.isSome then { m with content := none, attachments := [] } else m
  replyTo := replyTo

/-- The first `n` characters; one beyond the first plane takes two units. -/
def left : ℕ → Text → Text
  | 0, _ => []
  | _ + 1, [] => []
  | _ + 1, [u] => [u]
  | n + 1, u :: v :: rest =>
    if 0xD800 ≤ u ∧ u < 0xDC00 ∧ 0xDC00 ≤ v ∧ v < 0xE000 then u :: v :: left n rest
    else u :: left n (v :: rest)

structure Excerpt where
  messageId : Uuid
  conversationId : Uuid
  seq : ℕ
  body : Preview

def excerpt (length : ℕ) (fallback : String) (m : Message) : Excerpt where
  messageId := m.id
  conversationId := m.conversationId
  seq := m.seq
  body := if m.isEncrypted then .fixed "Encrypted message"
    else match m.content with
      | some t => .text (left length t)
      | none => .fixed fallback

/-! ## Queries -/

/-- `order by seq`. The id is there to break ties, of which there are none. -/
def oldestFirst (admitted : List Message) (limit : ℕ) : Query Message (List ℤ) :=
  ⟨admitted, fun m => [m.seq, m.id], limit⟩

def newestFirst (admitted : List Message) (limit : ℕ) : Query Message (List ℤ) :=
  ⟨admitted, fun m => [-m.seq, m.id], limit⟩

structure HistoryOptions where
  limit : ℕ
  before : Option ℕ
  after : Option ℕ
  around : Option ℕ
  includeDeleted : Bool

inductive Rest
  | history (hasMore : Bool) (floorSeq latestSeq : ℕ)
  | message
  | thread (hasMore : Bool)
  | pins (places : List (ℕ × Time))
  | gallery (nextCursor : Option ℕ)
  | media (hasMore : Bool)
  /-- `media` gives media, message and place; of the messages the first are the mentions. -/
  | catchUp (since upTo newMessages : ℕ) (capped : Bool) (participants : List (Uuid × ℕ))
      (media : List (Uuid × Uuid × ℕ)) (mentions : ℕ)
  | saved (savedAt : List Time) (hasMore : Bool)
  | savedItems (savedAt : List Time)
  | reminders (due : List (Uuid × Option Uuid × Option String × Time))
  | activity (notices : List Uuid)

structure Response where
  messages : List Hydrated
  excerpts : List Excerpt
  rest : Rest

inductive Operation
  | history (conversationId : Uuid) (opts : HistoryOptions)
  | get (messageId : Uuid)
  | thread (conversationId messageId : Uuid) (limit : ℕ) (after : Option ℕ)
  | pins (conversationId : Uuid)
  | gallery (conversationId : Uuid) (type : MessageType) (limit : ℕ) (before : Option ℕ)
  | mediaWall (conversationId : Uuid) (limit : ℕ) (before : Option ℕ)
  | catchUp (conversationId : Uuid)
  | saved (limit : ℕ)
  /-- `GET /community/saved`; what `chosen` stands for is the collection and the search text. -/
  | savedItems (chosen : SavedMessage → Message → Bool)
  | reminders
  | activity

def pageSizeMax : ℕ := 100
def pinnedPerConversation : ℕ := 50

def maxScan : ℕ := 500

namespace Database
variable (db : Database) (viewer : Uuid) (clock : Time)

def notDeletedForViewer (m : Message) : Bool := !db.messageDeletions.contains (m.id, viewer)

def select (p : Message → Bool) : List Message := db.messages.rows.filter p

/-- The quote of a reply, as `hydrateMany` looks it up. -/
def stub (m : Message) : Option Stub :=
  ((m.replyToId.bind db.messages.find).filter (db.notDeletedForViewer viewer)).map fun r =>
    ⟨r.id, r.seq, r.senderId,
      if r.deletedAt.isSome then none else some (buildPreview r.type r.content false none), r.type⟩

def hydrateMany (rows : List Message) : List Hydrated := rows.map fun m => toMessage m (db.stub viewer m)

/-! ### History -/

/-- `base`, without `extra`. -/
def historyBase (conversationId floor : ℕ) (includeDeleted : Bool) (m : Message) : Bool :=
  m.conversationId = conversationId && floor < m.seq && (includeDeleted || m.deletedAt.isNone) &&
    db.notDeletedForViewer viewer m

/-- The queries that `history` runs, and whether the rows of each are turned around. -/
def historyQueries (conversationId floor : ℕ) (opts : HistoryOptions) :
    List (Query Message (List ℤ) × Bool) :=
  let base (extra : Message → Bool) := db.select fun m =>
    db.historyBase viewer conversationId floor opts.includeDeleted m && extra m
  match opts.around with
  | some around =>
    [(newestFirst (base fun m => m.seq < around + 1) (opts.limit / 2 + 1), true),
      (oldestFirst (base fun m => around < m.seq) (opts.limit / 2), false)]
  | none =>
    match opts.after with
    | some after => [(oldestFirst (base fun m => after < m.seq) opts.limit, false)]
    | none => [(newestFirst (base fun m => opts.before.all fun b => m.seq < b) opts.limit, true)]

def historyRows (conversationId floor : ℕ) (opts : HistoryOptions) : List Message :=
  (db.historyQueries viewer conversationId floor opts).flatMap fun q =>
    if q.2 then q.1.run.reverse else q.1.run

def history (conversationId : Uuid) (opts : HistoryOptions) : Except AppError Response := do
  let ctx ← db.tables.requirePermission conversationId viewer Permissions.Permission.readHistory clock
  let rows := db.historyRows viewer conversationId ctx.member.historyStartSeq opts
  return ⟨db.hydrateMany viewer rows, [],
    .history (rows.length = opts.limit) ctx.member.historyStartSeq ctx.conversation.messageSeq⟩

/-! ### One message, a thread, the pins -/

def get (messageId : Uuid) : Except AppError Response := do
  match (db.messages.find messageId).filter (db.notDeletedForViewer viewer) with
  | none => .error (notFound "Message")
  | some row =>
    let _ ← db.tables.requirePermission row.conversationId viewer Permissions.Permission.readHistory clock
    return ⟨db.hydrateMany viewer [row], [], .message⟩

def threadQuery (conversationId messageId : Uuid) (limit : ℕ) (after : Option ℕ) :
    Query Message (List ℤ) :=
  oldestFirst (db.select fun m => m.conversationId = conversationId && m.threadRootId = some messageId &&
    m.deletedAt.isNone && db.notDeletedForViewer viewer m && after.all fun a => a < m.seq) limit

def thread (conversationId messageId : Uuid) (limit : ℕ) (after : Option ℕ) :
    Except AppError Response := do
  let _ ← db.tables.requirePermission conversationId viewer Permissions.Permission.readHistory clock
  let rows := (db.threadQuery viewer conversationId messageId limit after).run
  return ⟨db.hydrateMany viewer rows, [], .thread (rows.length = limit)⟩

def join {ρ : Type} (rows : List ρ) (messageId : ρ → Uuid) : List (ρ × Message) :=
  rows.flatMap fun r => ((db.messages.find (messageId r)).map fun m => (r, m)).toList

def pinsQuery (conversationId : Uuid) : Query (PinnedMessage × Message) (List ℤ) where
  admitted := (db.join db.pinnedMessages.rows PinnedMessage.messageId).filter fun r =>
    r.1.conversationId = conversationId && r.2.deletedAt.isNone && db.notDeletedForViewer viewer r.2
  order r := [r.1.position, -r.1.pinnedAt, r.1.messageId]
  limit := pinnedPerConversation

def pins (conversationId : Uuid) : Except AppError Response := do
  let _ ← db.tables.requirePermission conversationId viewer Permissions.Permission.viewConversation clock
  let rows := (db.pinsQuery viewer conversationId).run
  return ⟨db.hydrateMany viewer (rows.map Prod.snd), [],
    .pins (rows.map fun r => (r.1.position, r.1.pinnedAt))⟩

/-! ### Galleries -/

def galleryQuery (conversationId : Uuid) (type : MessageType) (limit : ℕ) (before : Option ℕ) :
    Query Message (List ℤ) :=
  newestFirst (db.select fun m => m.conversationId = conversationId && m.type = type &&
    m.deletedAt.isNone && db.notDeletedForViewer viewer m && before.all fun b => m.seq < b)
    (min limit pageSizeMax)

def gallery (conversationId : Uuid) (type : MessageType) (limit : ℕ) (before : Option ℕ) :
    Except AppError Response := do
  let _ ← db.tables.requirePermission conversationId viewer Permissions.Permission.readHistory clock
  let rows := (db.galleryQuery viewer conversationId type limit before).run
  return ⟨db.hydrateMany viewer rows, [], .gallery (rows.getLast?.map Message.seq)⟩

def isMedia (m : Message) : Bool :=
  m.type = .gif || m.attachments.any fun a =>
    "image/".isPrefixOf a.mimeType || "video/".isPrefixOf a.mimeType

def mediaQuery (conversationId floor : ℕ) (limit : ℕ) (before : Option ℕ) :
    Query Message (List ℤ) :=
  newestFirst (db.select fun m => m.conversationId = conversationId && m.deletedAt.isNone &&
    db.notDeletedForViewer viewer m && floor ≤ m.seq && (before.all fun b => m.seq < b) && isMedia m)
    limit

def mediaWall (conversationId : Uuid) (limit : ℕ) (before : Option ℕ) : Except AppError Response := do
  let ctx ← db.tables.requirePermission conversationId viewer Permissions.Permission.readHistory clock
  let rows := (db.mediaQuery viewer conversationId ctx.member.historyStartSeq limit before).run
  return ⟨db.hydrateMany viewer rows, [], .media (rows.length = limit)⟩

/-! ### Catching up -/

def countsQuery (conversationId scanFrom upTo : ℕ) : Query (Uuid × ℕ) (List ℤ) where
  admitted := groupBy id List.length ((db.select fun m => m.conversationId = conversationId &&
    scanFrom < m.seq && m.seq ≤ upTo && m.deletedAt.isNone).filterMap fun m =>
      m.senderId.filter fun s => s ≠ viewer)
  order r := [-r.2, r.1]
  limit := 8

def catchUpMediaQuery (conversationId scanFrom : ℕ) : Query (Message × Attachment) (List ℤ) where
  admitted := (db.messages.rows.flatMap fun m => m.attachments.map fun a => (m, a)).filter fun r =>
    r.1.conversationId = conversationId && scanFrom < r.1.seq && r.1.deletedAt.isNone &&
      r.2.deletedAt.isNone && (r.1.type = .image || r.1.type = .video) && !r.2.isSpoiler &&
      db.notDeletedForViewer viewer r.1
  order r := [-r.1.seq, r.2.mediaId]
  limit := 8

def mentionsQuery (conversationId since : ℕ) : Query MessageMention (List ℤ) where
  admitted := db.messageMentions.rows.filter fun x =>
    x.userId = viewer && x.conversationId = conversationId && since < x.seq
  order x := [-x.seq, x.messageId]
  limit := 5

def newPinsQuery (conversationId : Uuid) (lastReadAt : Option Time) : Query PinnedMessage (List ℤ) where
  admitted := db.pinnedMessages.rows.filter fun p =>
    p.conversationId = conversationId && lastReadAt.all fun t => t < p.pinnedAt
  order p := [-p.pinnedAt, p.messageId]
  limit := 3

def named {ρ : Type} (rows : List ρ) (messageId : ρ → Uuid) : List Message :=
  rows.filterMap fun r => db.messages.find (messageId r)

def catchUp (conversationId : Uuid) : Except AppError Response := do
  let ctx ← db.tables.requirePermission conversationId viewer Permissions.Permission.readHistory clock
  let since := max ctx.member.lastReadSeq ctx.member.historyStartSeq
  let upTo := ctx.conversation.messageSeq
  if upTo ≤ since then return ⟨[], [], .catchUp since upTo 0 false [] [] 0⟩
  let scanFrom := max since (upTo - maxScan)
  let counts := (db.countsQuery viewer conversationId scanFrom upTo).run
  let media := (db.catchUpMediaQuery viewer conversationId scanFrom).run
  let mentions := db.named (db.mentionsQuery viewer conversationId since).run MessageMention.messageId
  let pins := db.named (db.newPinsQuery conversationId ctx.member.lastReadAt).run PinnedMessage.messageId
  return ⟨db.hydrateMany viewer (mentions ++ pins), [],
    .catchUp since upTo (counts.map Prod.snd).sum (since < scanFrom)
      (counts.filter fun c => (db.tables.users.find c.1).isSome)
      (media.map fun r => (r.2.mediaId, r.1.id, r.1.seq)) mentions.length⟩

/-! ### Saved messages -/

/-- The join of `GET /users/me/saved`. The member row may be of somebody who left. -/
def savedQuery (limit : ℕ) : Query (SavedMessage × Message) (List ℤ) where
  admitted := (db.join db.savedMessages.rows SavedMessage.messageId).filter fun r =>
    r.1.userId = viewer && r.2.deletedAt.isNone && db.notDeletedForViewer viewer r.2 &&
      (db.tables.conversations.find r.2.conversationId).isSome &&
      (db.tables.memberRow r.2.conversationId viewer).isSome
  order r := [-r.1.savedAt, r.1.messageId]
  limit := limit

def saved (limit : ℕ) : Response :=
  let rows := (db.savedQuery viewer (min (max 1 limit) 100)).run
  ⟨db.hydrateMany viewer (rows.map Prod.snd), [],
    .saved (rows.map fun r => r.1.savedAt) (rows.length = min (max 1 limit) 100)⟩

/-- `can_read_message`, join by join. -/
def canReadMessage (messageId user : Uuid) : Bool :=
  (db.select fun m => m.id = messageId).any fun m =>
    (Permissions.Sql.ch db.tables m.conversationId).any fun c =>
      (leftJoin db.tables.conversationMembers.rows fun cm =>
        cm.key = (c.id, user) && cm.leftAt.isNone).any fun cm =>
        m.deletedAt.isNone && (m.expiresAt.all fun t => clock < t) &&
        ((Permissions.Sql.conversationPermissions db.tables c.id).any fun p =>
          p.1 = user && (p.2 &&& 3#64 = 3#64 || p.2 &&& 4611686018427387904#64 ≠ 0)) &&
        (cm.elim 0 ConversationMember.historyStartSeq) < m.seq &&
        !db.messageDeletions.contains (m.id, user)

def savedItemsQuery (chosen : SavedMessage → Message → Bool) : Query (SavedMessage × Message) (List ℤ) where
  admitted := (db.join db.savedMessages.rows SavedMessage.messageId).filter fun r =>
    r.1.userId = viewer && (db.tables.conversations.find r.2.conversationId).isSome &&
      db.canReadMessage clock r.2.id viewer && chosen r.1 r.2
  order r := [-r.1.savedAt, r.1.messageId]
  limit := 100

def savedItems (chosen : SavedMessage → Message → Bool) : Response :=
  let rows := (db.savedItemsQuery viewer clock chosen).run
  ⟨[], rows.map fun r => excerpt 600 "Saved attachment" r.2, .savedItems (rows.map fun r => r.1.savedAt)⟩

/-! ### Reminders and activity -/

def remindersQuery : Query Reminder (List ℤ) where
  admitted := db.reminders.rows.filter fun r =>
    r.userId = viewer && r.cancelledAt.isNone && r.deliveredAt.isNone &&
      Permissions.Sql.canViewConversation db.tables r.conversationId viewer &&
      r.messageId.all fun m => db.canReadMessage clock m viewer
  order r := [r.dueAt, r.id]
  limit := 100

def remindersOf : Response :=
  let rows := (db.remindersQuery viewer clock).run
  ⟨[], (rows.filter fun r => r.eventTitle.isNone).flatMap fun r =>
      ((r.messageId.bind db.messages.find).map (excerpt 180 "Message reminder")).toList,
    .reminders (rows.map fun r => (r.id, r.messageId, r.eventTitle, r.dueAt))⟩

def week : ℕ := 7 * 24 * 60 * 60 * 1000

/-- The first two parts of `activity`: messages that name the reader or answer one of theirs, and
new pins, with their times. -/
def activityMessages : List (Message × Time) :=
  (db.select fun m =>
    (db.messageMentions.rows.any (fun x => x.messageId = m.id && x.userId = viewer) ||
      (((m.replyToId.or m.threadRootId).bind db.messages.find).any fun parent =>
        parent.senderId = some viewer)) &&
    m.senderId ≠ some viewer &&
    ((db.tables.memberRow m.conversationId viewer).filter fun cm => cm.leftAt.isNone).elim 0
      ConversationMember.lastReadSeq < m.seq &&
    db.canReadMessage clock m.id viewer).map (fun m => (m, m.createdAt)) ++
  ((db.join db.pinnedMessages.rows PinnedMessage.messageId).filter fun r =>
    (((db.tables.memberRow r.1.conversationId viewer).filter fun cm => cm.leftAt.isNone).bind
      ConversationMember.lastReadAt).getD (clock - week) < r.1.pinnedAt &&
    db.canReadMessage clock r.2.id viewer).map fun r => (r.2, r.1.pinnedAt)

def activityNotices : List Notice :=
  db.notifications.rows.filter fun n => n.userId = viewer && n.readAt.isNone &&
    Permissions.Sql.canViewConversation db.tables n.targetId viewer &&
    (db.tables.conversations.find n.targetId).any fun c => c.deletedAt.isNone

def activityQuery : Query ((Message ⊕ Notice) × Time) (List ℤ) where
  admitted := ((db.activityMessages viewer clock).map fun r => (.inl r.1, r.2)) ++
    (db.activityNotices viewer).map fun n => (.inr n, n.createdAt)
  order r := [-r.2]
  limit := 60

def activity : Response :=
  let rows := (db.activityQuery viewer clock).run.map Prod.fst
  ⟨[], (rows.filterMap Sum.getLeft?).map (excerpt 300 "Sent an attachment"),
    .activity ((rows.filterMap Sum.getRight?).map Notice.id)⟩

lemma canReadMessage_iff {db : Database} {clock : Time} {m : Message} {user : Uuid}
    (hm : db.messages.find m.id = some m) :
    db.canReadMessage clock m.id user = true ↔
      ∃ c, db.tables.conversations.find m.conversationId = some c ∧ c.deletedAt = none ∧
        m.deletedAt = none ∧ (m.expiresAt.all fun t => clock < t) = true ∧
        (∃ p ∈ Permissions.Sql.conversationPermissions db.tables m.conversationId, p.1 = user ∧
          (p.2 &&& 3#64 = 3#64 ∨ p.2 &&& 4611686018427387904#64 ≠ 0)) ∧
        ((db.tables.memberRow m.conversationId user).filter fun cm => cm.leftAt.isNone).elim 0
          ConversationMember.historyStartSeq < m.seq ∧ db.notDeletedForViewer user m = true := by
  have hone : db.select (fun x => x.id = m.id) = [m] := by
    rw [select, KeyedTable.filter_key, hm, Option.toList_some]
  unfold canReadMessage
  rw [hone, List.any_cons, List.any_nil, Bool.or_false, List.any_eq_true]
  simp only [Permissions.Sql.mem_ch, KeyedTable.leftJoin_key_filter, List.any_cons, List.any_nil,
    Bool.or_false, Bool.and_eq_true, decide_eq_true_eq, List.any_eq_true, Bool.or_eq_true,
    Option.isNone_iff_eq_none]
  constructor
  · rintro ⟨c, ⟨hc, hlive⟩, ⟨⟨⟨⟨hdel, hexp⟩, hperm⟩, hseq⟩, hview⟩⟩
    have hid : c.id = m.conversationId := KeyedTable.find_key hc
    rw [hid] at hperm hseq
    exact ⟨c, hc, hlive, hdel, hexp, hperm, hseq, hview⟩
  · rintro ⟨c, hc, hlive, hdel, hexp, hperm, hseq, hview⟩
    have hid : c.id = m.conversationId := KeyedTable.find_key hc
    refine ⟨c, ⟨hc, hlive⟩, ⟨⟨⟨⟨hdel, hexp⟩, ?_⟩, ?_⟩, hview⟩⟩
    · rw [hid]
      exact hperm
    · rw [hid]
      exact hseq

def respond : Operation → Except AppError Response
  | .history conversationId opts => db.history viewer clock conversationId opts
  | .get messageId => db.get viewer clock messageId
  | .thread conversationId messageId limit after =>
    db.thread viewer clock conversationId messageId limit after
  | .pins conversationId => db.pins viewer clock conversationId
  | .gallery conversationId type limit before =>
    db.gallery viewer clock conversationId type limit before
  | .mediaWall conversationId limit before => db.mediaWall viewer clock conversationId limit before
  | .catchUp conversationId => db.catchUp viewer clock conversationId
  | .saved limit => .ok (db.saved viewer limit)
  | .savedItems chosen => .ok (db.savedItems viewer clock chosen)
  | .reminders => .ok (db.remindersOf viewer clock)
  | .activity => .ok (db.activity viewer clock)

end Database

end Yappy.Reads
