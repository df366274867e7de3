import Yappy.MessageMarkdown
import Yappy.PermissionAccess
import Yappy.Runs
import Yappy.Tables

/-!
# Writing messages

The calls of `apps/api/src/services/messages.ts` that write the text of a message or its cards, one
after another, and the worker's sweep. Of a message they keep what these calls read or write.
-/
namespace Yappy.MessageService

open Markdown
open Permissions (AppError Time Uuid ensure notFound forbidden conflict unprocessable
  missingPermission has)
open Tables (MessageType)

/-- `messages.nonce`. A client's has at most 64 characters and a card's at least 79, so neither is
ever the other. -/
inductive Nonce
  | client (nonce : String)
  /-- `card:${conversationId}:${actorId}:${key}`. -/
  | card (conversationId actorId : Uuid) (key : String)
  deriving DecidableEq

structure Embed where
  kind : Option String
  rest : String

abbrev Component := String

structure Message where
  id : Uuid
  conversationId : Uuid
  senderId : Uuid
  type : MessageType
  content : Option Text
  title : Option String
  entities : Option (List Entity)
  nonce : Option Nonce
  cardKey : Option String
  embeds : List Embed
  components : List Component
  expiresAt : Option Time
  createdAt : Time
  editedAt : Option Time
  deletedAt : Option Time
  deletedById : Option Uuid

namespace Message

/-- `messages_sender_nonce_uq` would not have both. -/
def SharesNonce (a b : Message) : Prop :=
  a.nonce.isSome ∧ a.senderId = b.senderId ∧ a.nonce = b.nonce

/-- `messages_card_key_uq` would not have both. -/
def SharesCard (a b : Message) : Prop :=
  a.cardKey.isSome ∧ a.conversationId = b.conversationId ∧ a.senderId = b.senderId ∧
    a.cardKey = b.cardKey

instance (a b : Message) : Decidable (SharesNonce a b) := by
  unfold SharesNonce
  infer_instance

instance (a b : Message) : Decidable (SharesCard a b) := by
  unfold SharesCard
  infer_instance

end Message

structure Database where
  messages : KeyedTable Message.id
  nonces : messages.rows.Pairwise fun a b => ¬ a.SharesNonce b
  cards : messages.rows.Pairwise fun a b => ¬ a.SharesCard b

/-- An update that makes no two rows share anything: names and nonces are kept or given up. -/
structure Frees (f : Message → Message) : Prop where
  id : ∀ m, (f m).id = m.id
  conversationId : ∀ m, (f m).conversationId = m.conversationId
  senderId : ∀ m, (f m).senderId = m.senderId
  nonce : ∀ m, (f m).nonce = m.nonce ∨ (f m).nonce = none
  cardKey : ∀ m, (f m).cardKey = m.cardKey ∨ (f m).cardKey = none

namespace Frees
variable {f : Message → Message} {p : Message → Bool} {a b : Message}

lemma ite (h : Frees f) (p : Message → Bool) : Frees fun m => if p m then f m else m where
  id m := by
    split_ifs
    · exact h.id m
    · rfl
  conversationId m := by
    split_ifs
    · exact h.conversationId m
    · rfl
  senderId m := by
    split_ifs
    · exact h.senderId m
    · rfl
  nonce m := by
    split_ifs
    · exact h.nonce m
    · exact Or.inl rfl
  cardKey m := by
    split_ifs
    · exact h.cardKey m
    · exact Or.inl rfl

lemma sharesNonce (h : Frees f) (hs : (f a).SharesNonce (f b)) : a.SharesNonce b := by
  obtain ⟨hsome, hsender, hnonce⟩ := hs
  rw [h.senderId, h.senderId] at hsender
  rcases h.nonce a with ha | ha
  · rcases h.nonce b with hb | hb
    · rw [ha] at hsome
      rw [ha, hb] at hnonce
      exact ⟨hsome, hsender, hnonce⟩
    · rw [hnonce, hb] at hsome
      cases hsome
  · rw [ha] at hsome
    cases hsome

lemma sharesCard (h : Frees f) (hs : (f a).SharesCard (f b)) : a.SharesCard b := by
  obtain ⟨hsome, hconversation, hsender, hcard⟩ := hs
  rw [h.conversationId, h.conversationId] at hconversation
  rw [h.senderId, h.senderId] at hsender
  rcases h.cardKey a with ha | ha
  · rcases h.cardKey b with hb | hb
    · rw [ha] at hsome
      rw [ha, hb] at hcard
      exact ⟨hsome, hconversation, hsender, hcard⟩
    · rw [hcard, hb] at hsome
      cases hsome
  · rw [ha] at hsome
    cases hsome

end Frees

namespace Database
variable (db : Database)

def empty : Database := ⟨.empty, .nil, .nil⟩

/-- `update messages set … where …`. -/
def update (p : Message → Bool) (f : Message → Message) (h : Frees f) : Database where
  messages := db.messages.update p f h.id
  nonces := (List.pairwise_map.mpr (db.nonces.imp fun hn hs => hn ((h.ite p).sharesNonce hs)))
  cards := (List.pairwise_map.mpr (db.cards.imp fun hn hs => hn ((h.ite p).sharesCard hs)))

/-- `insert into messages`, or none where a unique index refuses. -/
def insert (m : Message) : Option Database :=
  if h : m.id ∉ db.messages.rows.map Message.id ∧
      (∀ r ∈ db.messages.rows, ¬ m.SharesNonce r) ∧ ∀ r ∈ db.messages.rows, ¬ m.SharesCard r then
    some ⟨⟨m :: db.messages.rows, List.nodup_cons.mpr ⟨h.1, db.messages.nodup⟩⟩,
      List.pairwise_cons.mpr ⟨h.2.1, db.nonces⟩, List.pairwise_cons.mpr ⟨h.2.2, db.cards⟩⟩
  else none

def first (p : Message → Bool) : Option Message := db.messages.rows.find? p

variable {db} {db' : Database} {m : Message}

lemma insert_rows (h : db.insert m = some db') :
    db'.messages.rows = m :: db.messages.rows ∧ ∀ r ∈ db.messages.rows, ¬ m.SharesNonce r := by
  unfold insert at h
  split_ifs at h with hfree
  obtain rfl := Option.some.inj h
  exact ⟨rfl, hfree.2.1⟩

lemma first_eq_some {p : Message → Bool} (h : db.first p = some m) :
    m ∈ db.messages.rows ∧ p m = true :=
  ⟨List.mem_of_find?_eq_some h, @List.find?_some _ p _ _ h⟩

lemma mem_update {p : Message → Bool} {f : Message → Message} {h : Frees f} :
    m ∈ (db.update p f h).messages.rows ↔
      ∃ r ∈ db.messages.rows, m = if p r then f r else r := by
  simp only [update, KeyedTable.update, List.mem_map, eq_comm]

end Database

/-! ## What the calls look up elsewhere -/

structure Context where
  isBoard : Bool
  isForum : Bool
  disappearingSeconds : ℕ
  permissions : Option ℕ
  isBot : Bool
  badge : Option String
  /-- What slow mode, the attachments, the reply target or the account make of a send. -/
  refusal : Option AppError
  clock : Time

namespace Context
variable (ctx : Context)

def requireMember : Except AppError ℕ :=
  match ctx.permissions with
  | none => .error (notFound "Conversation")
  | some permissions => .ok permissions

def requirePermission (permission : ℕ) : Except AppError Unit := do
  let permissions ← ctx.requireMember
  ensure (has permissions permission)
    (missingPermission ((Permissions.permissionNames permission).head?.getD "unknown"))

def mayMentionAll : Bool := ctx.permissions.any fun p => has p Permissions.Permission.mentionAll

end Context

/-! ## Spans -/

/-- The loop of `sanitiseEntities`, behind a span that ended at `last`. -/
def keepFrom (limit : ℤ) : ℤ → List Entity → List Entity
  | _, [] => []
  | last, e :: rest =>
    match e.offset, e.length with
    | some offset, some length =>
      if offset < 0 ∨ length ≤ 0 ∨ limit < offset + length ∨ offset < last then
        keepFrom limit last rest
      else e :: keepFrom limit (offset + length) rest
    | _, _ => keepFrom limit last rest

def sanitiseEntities (content : Option Text) (entities : Option (List Entity)) :
    Option (List Entity) :=
  match entities with
  | none => none
  | some [] => some []
  | some list => some (keepFrom (content.getD []).length 0 (sortByOffset list))

/-- Whether `extractMentions` refuses. -/
def mentionsAll (entities : Option (List Entity)) : Bool :=
  (entities.getD []).any fun e => e.kind = .mentionAll

def extractMentions (ctx : Context) (entities : Option (List Entity)) : Except AppError Unit :=
  ensure (!mentionsAll entities || ctx.mayMentionAll)
    (unprocessable "You cannot mention everyone in this conversation")

/-! ## The calls -/

structure SendInput where
  nonce : Nonce
  type : MessageType
  content : Option Text
  title : Option String
  entities : Option (List Entity)
  /-- Whether `threadRootId` or `replyToId` is given. -/
  inThread : Bool
  embeds : Option (List Embed)
  components : Option (List Component)
  expiresInSeconds : Option ℕ
  cardKey : Option String

def permissionForType : MessageType → ℕ
  | .image | .video | .file => Permissions.Permission.sendMedia
  | .audio => Permissions.Permission.sendVoiceNotes
  | .sticker => Permissions.Permission.sendStickers
  | .gif => Permissions.Permission.sendGifs
  | .poll => Permissions.Permission.sendPolls
  | _ => Permissions.Permission.sendMessages

structure Body where
  content : Option Text
  entities : Option (List Entity)

section Calls
variable (wordish : CodeUnit → Bool)

def boardPass (ctx : Context) (body : Body) : Body :=
  if ctx.isBoard then
    match markdownToEntities wordish body.content body.entities with
    | some parsed => ⟨some parsed.1, some parsed.2⟩
    | none => body
  else body

def fencePass (body : Body) : Body :=
  match codeBlocksToEntities body.content body.entities with
  | some fenced => ⟨some fenced.1, some fenced.2⟩
  | none => body

/-- `kind` is for bots with the staff badge. -/
def sanitiseEmbeds (ctx : Context) (embeds : List Embed) : List Embed :=
  if embeds.all fun e => e.kind.all String.isEmpty then embeds
  else if ctx.isBot && ctx.badge = some "staff" then embeds
  else embeds.map fun e => { e with kind := none }

def resolveExpiry (ctx : Context) (override : Option ℕ) : Option Time :=
  let seconds := override.getD ctx.disappearingSeconds
  if seconds = 0 then none else some (ctx.clock + seconds * 1000)

/-- Only bots send embeds or buttons. -/
def checkEmbeds (ctx : Context) (embeds : Option (List Embed)) (components : Option (List Component)) :
    Except AppError Unit :=
  if embeds.getD [] = [] ∧ components.getD [] = [] then .ok ()
  else ensure ctx.isBot (forbidden (if components.getD [] = [] then "Only bots can post rich embeds"
    else "Only bots can attach buttons"))

def SendInput.message (input : SendInput) (ctx : Context) (actorId conversationId messageId : Uuid) :
    Message :=
  let body := fencePass (boardPass wordish ctx ⟨input.content, input.entities⟩)
  { id := messageId
    conversationId := conversationId
    senderId := actorId
    type := input.type
    content := body.content
    title := input.title
    entities := sanitiseEntities body.content body.entities
    nonce := some input.nonce
    cardKey := input.cardKey
    embeds := sanitiseEmbeds ctx (input.embeds.getD [])
    components := input.components.getD []
    expiresAt := resolveExpiry ctx input.expiresInSeconds
    createdAt := ctx.clock
    editedAt := none
    deletedAt := none
    deletedById := none }

def checkTitle (ctx : Context) (input : SendInput) : Except AppError Unit :=
  if ctx.isForum && !input.inThread && input.title.isNone then
    .error (unprocessable "A forum post needs a title")
  else if input.title.isSome && (input.inThread || !ctx.isForum) then
    .error (unprocessable "Only a forum post can have a title")
  else .ok ()

/-- `send`: the rows after it, the message and whether it was created. -/
def send (db : Database) (ctx : Context) (actorId conversationId messageId : Uuid)
    (input : SendInput) : Except AppError (Database × Message × Bool) :=
  -- a retry must be cheap and must not re-check quotas
  match db.first fun m => m.senderId = actorId ∧ m.nonce = some input.nonce with
  | some m => .ok (db, m, false)
  | none => do
    ctx.requirePermission (permissionForType input.type)
    checkTitle ctx input
    checkEmbeds ctx input.embeds input.components
    let message := input.message wordish ctx actorId conversationId messageId
    extractMentions ctx message.entities
    match ctx.refusal with
    | some refusal => .error refusal
    | none =>
      match db.insert message with
      | none => .error (conflict "Conflict")
      | some db => .ok (db, message, true)

/-- What an edit changes: an absent field is left alone, and content that is given as null clears
the text. -/
structure Patch where
  content : Option (Option Text)
  entities : Option (List Entity)
  embeds : Option (List Embed)
  components : Option (List Component)

def editWindowSeconds : ℕ := 48 * 60 * 60

def Patch.text (patch : Patch) (row : Message) : Option Text := patch.content.getD row.content

def Patch.spans (patch : Patch) (row : Message) : Option (List Entity) :=
  match patch.entities with
  | some entities => sanitiseEntities (patch.text row) (some entities)
  | none => row.entities

/-- What an edit of `row` sets in it. -/
def Patch.apply (patch : Patch) (row : Message) (clock : Time) (m : Message) : Message :=
  { m with
    content := patch.text row
    entities := patch.spans row
    embeds := patch.embeds.getD m.embeds
    components := patch.components.getD m.components
    editedAt := some clock }

lemma Patch.apply_frees (patch : Patch) (row : Message) (clock : Time) :
    Frees (patch.apply row clock) where
  id _ := rfl
  conversationId _ := rfl
  senderId _ := rfl
  nonce _ := Or.inl rfl
  cardKey _ := Or.inl rfl

/-- The refusals of `edit` once the row is there. -/
def checkEdit (ctx : Context) (actorId : Uuid) (patch : Patch) (row : Message) :
    Except AppError Unit := do
  ensure row.deletedAt.isNone (unprocessable "Message was deleted")
  ensure (row.senderId = actorId) (notFound "Message")
  ctx.requirePermission Permissions.Permission.editOwnMessages
  -- a card's name is a standing promise that this slot holds the current value
  ensure (row.cardKey.isSome || ctx.clock - row.createdAt ≤ editWindowSeconds * 1000)
    (unprocessable "This message is too old to edit")
  if patch.entities.isSome then extractMentions ctx (patch.spans row)
  if patch.embeds.isSome || patch.components.isSome then
    ensure ctx.isBot (forbidden (if patch.components.isSome then "Only bots can attach buttons"
      else "Only bots can post rich embeds"))
  ensure (row.type = .text || patch.content.isNone || (patch.text row).any fun text => text ≠ [])
    (unprocessable "Only the caption of a media message can be edited")

def edit (db : Database) (ctx : Context) (actorId messageId : Uuid) (patch : Patch) :
    Except AppError Database :=
  match db.messages.find messageId with
  | none => .error (notFound "Message")
  | some row => do
    checkEdit ctx actorId patch row
    return db.update (fun m => m.id = messageId) (patch.apply row ctx.clock)
      (patch.apply_frees row ctx.clock)

structure Rewrite where
  content : Option (Option Text)
  embeds : Option (List Embed)
  components : Option (List Component)

def Rewrite.apply (patch : Rewrite) (m : Message) : Message :=
  { m with
    content := patch.content.getD m.content
    embeds := patch.embeds.getD m.embeds
    components := patch.components.getD m.components }

lemma Rewrite.apply_frees (patch : Rewrite) : Frees patch.apply where
  id _ := rfl
  conversationId _ := rfl
  senderId _ := rfl
  nonce _ := Or.inl rfl
  cardKey _ := Or.inl rfl

def rewriteBotMessage (db : Database) (botId messageId : Uuid) (patch : Rewrite) :
    Except AppError Database :=
  match db.messages.find messageId with
  | none => .error (notFound "Message")
  | some row => do
    ensure (row.senderId = botId) (forbidden "A bot can only rewrite its own messages")
    ensure row.deletedAt.isNone (unprocessable "Message was deleted")
    return db.update (fun m => m.id = messageId) patch.apply patch.apply_frees

structure CardInput where
  content : Option (Option Text)
  entities : Option (List Entity)
  embeds : Option (List Embed)
  components : Option (List Component)

/-- What `setCard` hands to `edit`. -/
def CardInput.patch (input : CardInput) : Patch :=
  match markdownToEntities wordish (input.content.getD none) input.entities with
  | some parsed => ⟨some (some parsed.1), some parsed.2, input.embeds, input.components⟩
  | none => ⟨input.content, input.entities, input.embeds, input.components⟩

/-- What it hands to `send`. -/
def CardInput.toSend (input : CardInput) (actorId conversationId : Uuid) (key : String) :
    SendInput where
  nonce := .card conversationId actorId key
  type := .text
  content := input.content.getD none
  title := none
  entities := input.entities
  inThread := false
  embeds := input.embeds
  components := input.components
  expiresInSeconds := none
  cardKey := some key

def Message.IsCard (conversationId actorId : Uuid) (key : String) (m : Message) : Bool :=
  m.conversationId = conversationId ∧ m.senderId = actorId ∧ m.cardKey = some key ∧
    m.deletedAt = none

def setCard (db : Database) (ctx : Context) (actorId conversationId messageId : Uuid) (key : String)
    (input : CardInput) : Except AppError Database :=
  match db.first (Message.IsCard conversationId actorId key) with
  | some existing => edit db ctx actorId existing.id (input.patch wordish)
  | none => do
    let sent ← send wordish db ctx actorId conversationId messageId
      (input.toSend actorId conversationId key)
    return sent.1

def Message.removed (row : Message) (actorId : Uuid) (clock : Time) (m : Message) : Message :=
  { m with
    deletedAt := some clock
    deletedById := some actorId
    cardKey := if row.cardKey.isSome then none else m.cardKey
    nonce := if row.cardKey.isSome then none else m.nonce }

lemma Message.removed_frees (row : Message) (actorId : Uuid) (clock : Time) :
    Frees (Message.removed row actorId clock) where
  id _ := rfl
  conversationId _ := rfl
  senderId _ := rfl
  nonce m := by
    unfold Message.removed
    split_ifs
    · exact Or.inr rfl
    · exact Or.inl rfl
  cardKey m := by
    unfold Message.removed
    split_ifs
    · exact Or.inr rfl
    · exact Or.inl rfl

def remove (db : Database) (ctx : Context) (actorId messageId : Uuid) : Except AppError Database :=
  match db.messages.find messageId with
  | none => .error (notFound "Message")
  | some row => do
    let permissions ← ctx.requireMember
    ensure (has permissions (if row.senderId = actorId then Permissions.Permission.deleteOwnMessages
      else Permissions.Permission.deleteAnyMessage)) (notFound "Message")
    return db.update (fun m => m.id = messageId) (row.removed actorId ctx.clock)
      (row.removed_frees actorId ctx.clock)

def deleteCard (db : Database) (ctx : Context) (actorId conversationId : Uuid) (key : String) :
    Except AppError Database :=
  match db.first (Message.IsCard conversationId actorId key) with
  | none => .error (notFound "Card")
  | some existing => remove db ctx actorId existing.id

def batch : ℕ := 5000

def Message.swept (clock : Time) (m : Message) : Message := { m with deletedAt := some clock }

lemma Message.swept_frees (clock : Time) : Frees (Message.swept clock) where
  id _ := rfl
  conversationId _ := rfl
  senderId _ := rfl
  nonce _ := Or.inl rfl
  cardKey _ := Or.inl rfl

/-- The worker's `sweepExpiredMessages`. -/
def sweepExpiredMessages (db : Database) (clock : Time) : Database :=
  let due := ((db.messages.rows.filter fun m =>
    m.expiresAt.any (fun t => t < clock) ∧ m.deletedAt = none).take batch).map Message.id
  db.update (fun m => m.id ∈ due) (Message.swept clock) (Message.swept_frees clock)

lemma mem_sweepExpiredMessages {db : Database} {clock : Time} {m : Message}
    (h : m ∈ (sweepExpiredMessages db clock).messages.rows) :
    ∃ r ∈ db.messages.rows, m = r ∨ m = r.swept clock :=
  @KeyedTable.mem_update _ _ _ _ _ _ (Message.swept_frees clock).id _ h

/-! ## Runs -/

/-- A call that succeeds, or a sweep. A client's send carries a nonce of its own and no card. -/
inductive Event
  | send (ctx : Context) (actorId conversationId messageId : Uuid) (nonce : String)
      (input : SendInput)
  | edit (ctx : Context) (actorId messageId : Uuid) (patch : Patch)
  | rewriteBotMessage (botId messageId : Uuid) (patch : Rewrite)
  | setCard (ctx : Context) (actorId conversationId messageId : Uuid) (key : String)
      (input : CardInput)
  | deleteCard (ctx : Context) (actorId conversationId : Uuid) (key : String)
  | remove (ctx : Context) (actorId messageId : Uuid)
  | sweepExpiredMessages (clock : Time)

def perform (db : Database) : Event → Except AppError Database
  | .send ctx actorId conversationId messageId nonce input => do
    let sent ← send wordish db ctx actorId conversationId messageId
      { input with nonce := .client nonce, cardKey := none }
    return sent.1
  | .edit ctx actorId messageId patch => edit db ctx actorId messageId patch
  | .rewriteBotMessage botId messageId patch => rewriteBotMessage db botId messageId patch
  | .setCard ctx actorId conversationId messageId key input =>
    setCard wordish db ctx actorId conversationId messageId key input
  | .deleteCard ctx actorId conversationId key => deleteCard db ctx actorId conversationId key
  | .remove ctx actorId messageId => remove db ctx actorId messageId
  | .sweepExpiredMessages clock => .ok (sweepExpiredMessages db clock)

def Step (db : Database) (event : Event) (db' : Database) : Prop :=
  perform wordish db event = .ok db'

end Calls

end Yappy.MessageService
