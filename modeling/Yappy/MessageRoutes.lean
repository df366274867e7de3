import Yappy.MessageReads
import Yappy.MessageService

/-!
# Requests about one message

The handlers of `apps/api/src/routes/messages.ts` that take a conversation and a message, with what
they call of `apps/api/src/lib/interactions.ts` and `apps/api/src/services/messages.ts`. The events
they publish and the jobs they enqueue are left out.
-/
namespace Yappy.MessageRoutes

open Deletion (Preview buildPreview)
open Markdown (CodeUnit Text)
open MessageService (Component Context Embed Message Patch Rewrite)
open Pages (Query)
open Permissions (AppError MemberContext Time Uuid conflict ensure forbidden has notFound unprocessable)
open Reads (PinnedMessage SavedMessage)
open Tables (MessageType)

/-- The columns of a message that the message service does not write. -/
structure Columns where
  seq : ℕ
  replyToId : Option Uuid
  threadRootId : Option Uuid
  isEncrypted : Bool

structure Reaction where
  messageId : Uuid
  userId : Uuid
  emoji : String
  createdAt : Time

def Reaction.key (r : Reaction) : Uuid × Uuid × String := (r.messageId, r.userId, r.emoji)

structure PollOption where
  id : Uuid
  label : String

structure PollVote where
  optionId : Uuid
  userId : Uuid

/-- A row of `polls` with those of `poll_options` and `poll_votes` that are its own. -/
structure Poll where
  id : Uuid
  messageId : Uuid
  question : String
  multiSelect : Bool
  isAnonymous : Bool
  closesAt : Option Time
  closedAt : Option Time
  options : List PollOption
  votes : List PollVote

/-- `vote_count`, as a trigger keeps it. -/
def Poll.tallies (p : Poll) : List (Uuid × ℕ) :=
  p.options.map fun o => (o.id, p.votes.countP fun v => v.optionId = o.id)

structure Envelope where
  messageId : Uuid
  deviceId : Uuid
  ciphertext : String

def Envelope.key (e : Envelope) : Uuid × Uuid := (e.messageId, e.deviceId)

structure Revision where
  messageId : Uuid
  content : Option Text
  editedAt : Time

structure Database where
  tables : Permissions.Database
  service : MessageService.Database
  columns : Uuid → Columns
  reactions : KeyedTable Reaction.key
  polls : KeyedTable Poll.messageId
  envelopes : KeyedTable Envelope.key
  /-- `message_previews`: message and address. -/
  previews : List (Uuid × String)
  pinnedMessages : KeyedTable PinnedMessage.key
  revisions : List Revision
  /-- `message_deletions`: message and user. -/
  messageDeletions : List (Uuid × Uuid)
  savedMessages : KeyedTable SavedMessage.key
  isBoard : Uuid → Bool
  isForum : Uuid → Bool
  badge : Uuid → Option String
  isStaff : Uuid → Bool

inductive ResponseKind
  | update | reply | ack | ephemeral

structure InteractionResponse where
  kind : ResponseKind
  content : Option (Option Text)
  embeds : Option (List Embed)
  components : Option (List Component)

structure Button where
  disabled : Bool
  onlyUserId : Option Uuid
  staffOnly : Bool
  requiredPermissions : Option ℕ

inductive Route
  | get
  | envelope
  | edit (patch : Patch)
  | remove (forEveryone : Bool)
  | thread (limit : ℕ) (after : Option ℕ)
  | save
  | unsave
  | removePreviews
  | translate (language : Option String)
  | react (key : String)
  | unreact (key : String)
  | press (customId : String)
  | callback (response : InteractionResponse)
  | reactions (emoji : Option String)
  | vote (optionIds : List Uuid)
  | closePoll
  | pin
  | unpin

structure Request where
  actor : Uuid
  deviceId : Uuid
  conversationId : Uuid
  messageId : Uuid
  clock : Time
  /-- An id that `newId` gives. -/
  newId : Uuid
  route : Route

structure Outside where
  wordish : CodeUnit → Bool
  /-- `translateText`, where translation is set up. -/
  translate : Option (Text → String → Option String)
  findButton : List Component → String → Option Button
  dispatch : Request → InteractionResponse
  /-- What slow mode, the attachments, the reply target or the account make of a send. -/
  refusal : Uuid → Uuid → Option AppError

/-! ## Hydration -/

structure PollView where
  poll : Poll
  tallies : List (Uuid × ℕ)
  myVotes : List Uuid

structure Stub where
  id : Uuid
  seq : ℕ
  senderId : Uuid
  preview : Option Preview
  type : MessageType

structure Hydrated where
  message : Message
  columns : Columns
  reactions : List String
  reactionCounts : List (String × ℕ)
  poll : Option PollView
  previews : List String
  isPinned : Bool
  replyTo : Option Stub

inductive Answer
  | message (h : Hydrated)
  | ciphertext (c : Option String)
  | messages (list : List Hydrated) (hasMore : Bool)
  | saved (saved : Bool)
  | deleted (forEveryone : Bool)
  | translation (text : String)
  | ok
  | reactions (list : List (String × Uuid × Time))
  | options (tallies : List (Uuid × ℕ))
  | closed
  | pinned (pinned : Bool)

def reactionsPerMessage : ℕ := 50
def pinnedPerConversation : ℕ := 50

def translateMaxChars : ℕ := 4000

namespace Database
variable (db : Database) (out : Outside) (req : Request)

def notDeletedForViewer (viewer : Uuid) (m : Message) : Bool := !db.messageDeletions.contains (m.id, viewer)

/-- `reaction_counts`, as a trigger keeps it. -/
def reactionCounts (messageId : Uuid) : List (String × ℕ) :=
  let emojis := (db.reactions.rows.filter fun r => r.messageId = messageId).map Reaction.emoji
  emojis.dedup.map fun e => (e, emojis.count e)

def stub (viewer : Uuid) (replyToId : Option Uuid) : Option Stub :=
  ((replyToId.bind db.service.messages.find).filter (db.notDeletedForViewer viewer)).map fun r =>
    ⟨r.id, (db.columns r.id).seq, r.senderId,
      if r.deletedAt.isSome then none else some (buildPreview r.type r.content false none), r.type⟩

/-- `hydrateOne`: of a deleted message only its place is left. -/
def hydrateOne (viewer : Uuid) (m : Message) : Hydrated where
  message := if m.deletedAt.isSome then
    { m with content := none, entities := none, embeds := [], components := [] } else m
  columns := db.columns m.id
  reactions := (db.reactions.rows.filter fun r => r.messageId = m.id && r.userId = viewer).map Reaction.emoji
  reactionCounts := db.reactionCounts m.id
  poll := (db.polls.find m.id).map fun p =>
    ⟨p, p.tallies, (p.votes.filter fun v => v.userId = viewer).map PollVote.optionId⟩
  previews := (db.previews.filter fun p => p.1 = m.id).map Prod.snd
  isPinned := db.pinnedMessages.rows.any fun p => p.messageId = m.id
  replyTo := db.stub viewer (db.columns m.id).replyToId

def requireMember (conversationId : Uuid) : Except AppError MemberContext :=
  db.tables.requireMember conversationId req.actor req.clock

def requirePermission (conversationId : Uuid) (permission : ℕ) : Except AppError MemberContext :=
  db.tables.requirePermission conversationId req.actor permission req.clock

def context (conversationId : Uuid) : Context where
  isBoard := db.isBoard conversationId
  isForum := db.isForum conversationId
  disappearingSeconds := (db.tables.conversations.find conversationId).elim 0
    Permissions.Conversation.disappearingSeconds
  permissions := (db.tables.loadMemberContext conversationId req.actor req.clock).map
    MemberContext.permissions
  isBot := (db.tables.users.find req.actor).any Permissions.User.isBot
  badge := db.badge req.actor
  refusal := out.refusal conversationId req.actor
  clock := req.clock

/-- The message, if it is in the conversation of the path, not deleted, and not by the caller. -/
def inPath (m : Message) : Bool :=
  m.conversationId = req.conversationId && m.deletedAt.isNone && db.notDeletedForViewer req.actor m

/-! ## The handlers -/

def get (messageId : Uuid) : Except AppError Answer :=
  match (db.service.messages.find messageId).filter (db.notDeletedForViewer req.actor) with
  | none => .error (notFound "Message")
  | some row => do
    let _ ← db.requirePermission req row.conversationId Permissions.Permission.readHistory
    return .message (db.hydrateOne req.actor row)

def envelope : Except AppError (Answer × Database) := do
  let _ ← db.requirePermission req req.conversationId Permissions.Permission.readHistory
  let row := ((db.service.messages.find req.messageId).filter fun m =>
    m.conversationId = req.conversationId).bind fun m => db.envelopes.find (m.id, req.deviceId)
  return (.ciphertext (row.map Envelope.ciphertext), db)

def edit (patch : Patch) : Except AppError (Answer × Database) :=
  match db.service.messages.find req.messageId with
  | none => .error (notFound "Message")
  | some row => do
    let service ← MessageService.edit db.service (db.context out req row.conversationId) req.actor
      req.messageId patch
    let after := { db with
      service := service
      -- a card never said anything, so nothing of it is kept
      revisions := if row.cardKey.isSome then db.revisions
        else ⟨row.id, row.content, req.clock⟩ :: db.revisions }
    return (.message (after.hydrateOne req.actor (patch.apply row req.clock row)), after)

def remove (forEveryone : Bool) : Except AppError (Answer × Database) :=
  match db.service.messages.find req.messageId with
  | none => .error (notFound "Message")
  | some row =>
    if forEveryone then do
      let service ← MessageService.remove db.service (db.context out req row.conversationId) req.actor
        req.messageId
      return (.deleted true, { db with
        service := service
        pinnedMessages := db.pinnedMessages.delete fun p => p.messageId = req.messageId })
    else do
      let _ ← db.requireMember req row.conversationId
      return (.deleted false, { db with
        messageDeletions := (req.messageId, req.actor) :: db.messageDeletions })

def threadQuery (limit : ℕ) (after : Option ℕ) : Query Message (List ℤ) where
  admitted := db.service.messages.rows.filter fun m =>
    m.conversationId = req.conversationId && (db.columns m.id).threadRootId = some req.messageId &&
      m.deletedAt.isNone && db.notDeletedForViewer req.actor m &&
      after.all fun a => a < (db.columns m.id).seq
  order m := [(db.columns m.id).seq, m.id]
  limit := limit

def thread (limit : ℕ) (after : Option ℕ) : Except AppError (Answer × Database) := do
  let _ ← db.requirePermission req req.conversationId Permissions.Permission.readHistory
  let rows := (db.threadQuery req limit after).run
  return (.messages (rows.map (db.hydrateOne req.actor)) (rows.length = limit), db)

def save : Except AppError (Answer × Database) := do
  let _ ← db.requireMember req req.conversationId
  match (db.service.messages.find req.messageId).filter (db.inPath req) with
  | none => .error (notFound "Message")
  | some _ =>
    return (.saved true, { db with
      savedMessages := db.savedMessages.insertIgnore ⟨req.actor, req.messageId, req.clock⟩ })

def unsave : Except AppError (Answer × Database) :=
  .ok (.saved false, { db with
    savedMessages := db.savedMessages.delete fun s => s.userId = req.actor && s.messageId = req.messageId })

def removePreviews : Except AppError (Answer × Database) :=
  match (db.service.messages.find req.messageId).filter fun m =>
      m.conversationId = req.conversationId && m.deletedAt.isNone with
  | none => .error (notFound "Message")
  | some row => do
    ensure (row.senderId = req.actor) (notFound "Message")
    let after := { db with previews := db.previews.filter fun p => p.1 ≠ req.messageId }
    return (.message (after.hydrateOne req.actor row), after)

def translate (language : Option String) : Except AppError (Answer × Database) :=
  match out.translate with
  | none => .error (unprocessable "Translation is not set up on this server")
  | some translateText => do
    let _ ← db.requireMember req req.conversationId
    match (db.service.messages.find req.messageId).filter (db.inPath req) with
    | none => .error (notFound "Message")
    | some row => do
      let text := row.content.getD []
      ensure (text.any fun u => !Markdown.isSpace u) (unprocessable "Nothing to translate")
      match translateText (text.take translateMaxChars) (language.getD "English") with
      | none => .error (unprocessable "Translation failed — try again in a moment")
      | some result => return (.translation result, db)

/-- What `PUT` of a reaction and of a pin ask of the message. -/
def placed (refusal : String) : Except AppError Unit :=
  match (db.service.messages.find req.messageId).filter fun m => m.conversationId = req.conversationId with
  | none => .error (notFound "Message")
  | some row => ensure row.deletedAt.isNone (unprocessable refusal)

def react (key : String) : Except AppError (Answer × Database) := do
  let _ ← db.requirePermission req req.conversationId Permissions.Permission.addReactions
  db.placed req "Cannot react to a deleted message"
  let distinct := (db.reactionCounts req.messageId).map Prod.fst
  ensure (key ∈ distinct || distinct.length < reactionsPerMessage)
    (conflict "This message has too many different reactions")
  return (.ok, { db with
    reactions := db.reactions.insertIgnore ⟨req.messageId, req.actor, key, req.clock⟩ })

def unreact (key : String) : Except AppError (Answer × Database) := do
  let _ ← db.requireMember req req.conversationId
  return (.ok, { db with reactions := db.reactions.delete fun r =>
    r.messageId = req.messageId && r.userId = req.actor && r.emoji = key })

def nextSeq (conversationId : Uuid) : ℕ :=
  (db.tables.conversations.find conversationId).elim 0 Permissions.Conversation.messageSeq + 1

def posted (service : MessageService.Database) : Database := { db with
  service := service
  tables := { db.tables with
    conversations := db.tables.conversations.update (fun c => c.id = req.conversationId)
      (fun c => { c with messageSeq := db.nextSeq req.conversationId }) fun _ => rfl
    one_level := db.tables.one_level.update (fun _ => rfl) fun _ => rfl }
  columns := Function.update db.columns req.newId ⟨db.nextSeq req.conversationId, none, none, false⟩ }

/-- `applyResponse`, for the bot and the reader the answer is rendered for. -/
def applyResponse (botId : Uuid) (response : InteractionResponse) : Except AppError (Answer × Database) :=
  match response.kind with
  | .update => do
    let patch : Rewrite := ⟨response.content, response.embeds, response.components⟩
    let service ← MessageService.rewriteBotMessage db.service botId req.messageId patch
    let after := { db with service := service }
    match service.messages.find req.messageId with
    | none => .error (notFound "Message")
    | some row => return (.message (after.hydrateOne botId row), after)
  | .reply => do
    let bot := { req with actor := botId }
    let sent ← MessageService.send out.wordish db.service (db.context out bot req.conversationId) botId
      req.conversationId req.newId {
        nonce := .client ("interaction_" ++ toString req.newId)
        type := .text
        content := response.content.getD none
        title := none
        entities := none
        inThread := false
        embeds := response.embeds
        components := response.components
        expiresInSeconds := none
        cardKey := none }
    let after := db.posted req sent.1
    return (.message (after.hydrateOne botId sent.2.1), after)
  | .ephemeral | .ack => do
    let answer ← db.get req req.messageId
    return (answer, db)

/-- `pressButton`. -/
def press (customId : String) : Except AppError (Answer × Database) :=
  match (db.service.messages.find req.messageId).filter fun m =>
      m.conversationId = req.conversationId && m.deletedAt.isNone with
  | none => .error (notFound "Message")
  | some row => do
    -- membership first: everything below leaks something about the message
    let _ ← db.requireMember req req.conversationId
    match out.findButton row.components customId with
    | none => .error (notFound "Button")
    | some button => do
      ensure (!button.disabled) (conflict "That button has already been used")
      ensure (button.onlyUserId.all fun u => u = req.actor) (forbidden "That button is not for you")
      ensure (!button.staffOnly || db.isStaff req.actor) (forbidden "That button is for yappy staff")
      match button.requiredPermissions with
      | none => pure ()
      | some bits =>
        let _ ← db.requirePermission req req.conversationId bits
      ensure ((db.tables.users.find row.senderId).any Permissions.User.isBot) (notFound "Button")
      db.applyResponse out req row.senderId (out.dispatch req)

def callback (response : InteractionResponse) : Except AppError (Answer × Database) := do
  ensure (db.tables.applications.rows.any fun a => a.botUserId = req.actor && a.revokedAt.isNone)
    (forbidden "This endpoint requires a bot token")
  db.applyResponse out req req.actor response

def reactionsQuery (emoji : Option String) : Query Reaction (List ℤ) where
  admitted := db.reactions.rows.filter fun r => r.messageId = req.messageId &&
    (db.tables.users.find r.userId).isSome && emoji.all fun e => r.emoji = e
  order r := [r.createdAt]
  limit := 200

def listReactions (emoji : Option String) : Except AppError (Answer × Database) := do
  let _ ← db.requireMember req req.conversationId
  return (.reactions ((db.reactionsQuery req emoji).run.map fun r => (r.emoji, r.userId, r.createdAt)), db)

def Poll.voted (actor : Uuid) (optionIds : List Uuid) (p : Poll) : Poll :=
  { p with votes := (p.votes.filter fun v => v.userId ≠ actor) ++ optionIds.map fun o => ⟨o, actor⟩ }

def vote (optionIds : List Uuid) : Except AppError (Answer × Database) := do
  let _ ← db.requirePermission req req.conversationId Permissions.Permission.sendPolls
  match db.polls.find req.messageId with
  | none => .error (notFound "Poll")
  | some poll => do
    ensure (poll.closedAt.isNone && poll.closesAt.all fun t => req.clock ≤ t) (conflict "This poll is closed")
    ensure (poll.multiSelect || optionIds.length ≤ 1) (unprocessable "This poll allows one answer")
    ensure (optionIds.all fun o => o ∈ poll.options.map PollOption.id) (unprocessable "Unknown option")
    -- one vote for an option, by its primary key
    ensure optionIds.Nodup (conflict "That already exists")
    return (.options (Poll.voted req.actor optionIds poll).tallies, { db with
      polls := db.polls.update (fun p => p.messageId = req.messageId) (Poll.voted req.actor optionIds)
        fun _ => rfl })

def closePoll : Except AppError (Answer × Database) := do
  let ctx ← db.requireMember req req.conversationId
  match (db.polls.find req.messageId).bind fun p =>
      (db.service.messages.find req.messageId).map fun m => (p, m.senderId) with
  | none => .error (notFound "Poll")
  | some row => do
    ensure (row.2 = req.actor || ctx.permissions &&& Permissions.Permission.manageConversation ≠ 0)
      (conflict "Only the author or a moderator can close this poll")
    return (.closed, { db with
      polls := db.polls.update (fun p => p.messageId = req.messageId)
        (fun p => { p with closedAt := some req.clock }) fun _ => rfl })

/-- A pin; the line that announces it is left out. -/
def pin : Except AppError (Answer × Database) := do
  let _ ← db.requirePermission req req.conversationId Permissions.Permission.pinMessages
  db.placed req "Cannot pin a deleted message"
  let count := db.pinnedMessages.rows.countP fun p => p.conversationId = req.conversationId
  ensure (count < pinnedPerConversation) (conflict "At most 50 pinned messages")
  return (.pinned true, { db with
    pinnedMessages := db.pinnedMessages.insertIgnore
      ⟨req.conversationId, req.messageId, count, req.clock⟩ })

def unpin : Except AppError (Answer × Database) := do
  let _ ← db.requirePermission req req.conversationId Permissions.Permission.pinMessages
  return (.pinned false, { db with pinnedMessages := db.pinnedMessages.delete fun p =>
    p.conversationId = req.conversationId && p.messageId = req.messageId })

def handle : Except AppError (Answer × Database) :=
  match req.route with
  | .get => do
    let answer ← db.get req req.messageId
    return (answer, db)
  | .envelope => db.envelope req
  | .edit patch => db.edit out req patch
  | .remove forEveryone => db.remove out req forEveryone
  | .thread limit after => db.thread req limit after
  | .save => db.save req
  | .unsave => db.unsave req
  | .removePreviews => db.removePreviews req
  | .translate language => db.translate out req language
  | .react key => db.react req key
  | .unreact key => db.unreact req key
  | .press customId => db.press out req customId
  | .callback response => db.callback out req response
  | .reactions emoji => db.listReactions req emoji
  | .vote optionIds => db.vote req optionIds
  | .closePoll => db.closePoll req
  | .pin => db.pin req
  | .unpin => db.unpin req

end Database

end Yappy.MessageRoutes
