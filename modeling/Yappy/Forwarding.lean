import Yappy.Firsts
import Yappy.SendRetries

/-!
# Forwarding

`POST /messages/forward` of `apps/api/src/routes/messages.ts`: its sends one after another, each with the
attachments, slow mode and the rest of what `send` of `apps/api/src/services/messages.ts` checks. A message whose
`sender_id` is null is one of `nobody`.
-/
namespace Yappy.Forwarding

open Markdown (CodeUnit Entity Text)
open MessageService (Context Message Nonce SendInput permissionForType)
open Permissions (AppError Time Uuid bind_eq_ok conflict ensure ensure_eq_ok exists_unit has notFound unprocessable)
open Tables (MessageType)

/-! ## Names -/

def hexDigits (width n : ℕ) : List Char :=
  (List.range width).map fun i => Nat.digitChar (n / 16 ^ (width - 1 - i) % 16)

def uuidText (id : Uuid) : List Char :=
  let digits := hexDigits 32 id
  digits.take 8 ++ '-' :: (digits.drop 8).take 4 ++ '-' :: (digits.drop 12).take 4 ++
    '-' :: (digits.drop 16).take 4 ++ '-' :: digits.drop 20

def nonceOf (text : List Char) : Nonce := .client (String.ofList (text.take 64))

/-- `fwd_${source.id}_${targetId}`. -/
def forwardNonce (source target : Uuid) : Nonce :=
  nonceOf (['f', 'w', 'd', '_'] ++ uuidText source ++ '_' :: uuidText target)

/-- `fwdc_${newId()}`. -/
def commentNonce (id : Uuid) : Nonce := nonceOf (['f', 'w', 'd', 'c', '_'] ++ uuidText id)

/-! ## What a send reads and writes besides the message service -/

inductive MediaStatus
  | pending | processing | ready | failed | quarantined
  deriving DecidableEq

structure Media where
  id : Uuid
  ownerId : Uuid
  status : MediaStatus
  confirmedAt : Option Time
  deletedAt : Option Time

structure Location where
  latitude : String
  longitude : String
  liveUntil : Option (Option Time)

/-- The columns of a message that the message service does not write. -/
structure Columns where
  stickerId : Option Uuid
  gif : Option String
  location : Option Location
  contact : Option String
  /-- `forwarded_from_message_id` and `forwarded_from_user_id`. -/
  forwardedFrom : Option (Uuid × Uuid)
  silent : Bool

structure Database where
  service : MessageService.Database
  columns : Uuid → Columns
  /-- `message_attachments`: the media of each message by position. -/
  attachments : Uuid → List Uuid
  unique : ∀ messageId, (attachments messageId).Nodup
  media : KeyedTable Media.id
  /-- `message_deletions`: message and user. -/
  messageDeletions : List (Uuid × Uuid)

structure Call where
  target : Uuid
  input : SendInput
  attachmentIds : List Uuid
  unique : attachmentIds.Nodup
  columns : Columns
  messageId : Uuid
  clock : Time

structure Outside where
  wordish : CodeUnit → Bool
  /-- Of the actor in each conversation; the clock and the refusals of a send are those of the call. -/
  context : Uuid → Context
  slowModeSeconds : Uuid → ℕ
  /-- What the actor's account makes of a send: gone or suspended. -/
  account : Option AppError
  limited : Option AppError
  newId : ℕ → Uuid
  clock : ℕ → Time

def nobody : Uuid := 0

def attachmentsPerMessage : ℕ := 10
def liveLocationMaxSeconds : ℕ := 28800

section Send
variable (o : Outside) (actor : Uuid) (db : Database) (c : Call)

/-- `check_slow_mode`, in milliseconds. -/
def slowModeWait : Option ℕ :=
  let interval := o.slowModeSeconds c.target * 1000
  let recent := db.service.messages.rows.filter fun m =>
    m.conversationId = c.target ∧ m.senderId = actor ∧ c.clock < m.createdAt + interval
  (recent.map fun m => m.createdAt + interval - c.clock).min?

def assertSlowMode : Except AppError Unit :=
  if o.slowModeSeconds c.target = 0 then .ok ()
  else if (o.context c.target).permissions.any fun p =>
    has p Permissions.Permission.manageConversation then .ok ()
  else match slowModeWait o actor db c with
  | none => .ok ()
  | some wait =>
    let seconds := (wait + 999) / 1000
    .error (conflict s!"Slow mode: wait {seconds}s")

def resolveAttachments (ids : List Uuid) : Except AppError Unit :=
  if ids = [] then .ok ()
  else if attachmentsPerMessage < ids.length then
    .error (unprocessable "At most 10 attachments per message")
  else
    let rows := db.media.rows.filter fun m =>
      m.id ∈ ids ∧ m.ownerId = actor ∧ m.deletedAt.isNone
    if rows.length ≠ ids.length then .error (notFound "Attachment")
    else if rows.any fun m => m.confirmedAt.isNone then
      .error (unprocessable "Attachment upload was never confirmed")
    else if rows.any fun m => m.status = .quarantined then
      .error (unprocessable "Attachment failed moderation")
    else if rows.any fun m => m.status = .failed then
      .error (unprocessable "Attachment failed processing")
    else .ok ()

def needsAttachment : MessageType → Bool
  | .image | .video | .audio | .file => true
  | _ => false

def typeName : MessageType → String
  | .image => "image"
  | .video => "video"
  | .audio => "audio"
  | _ => "file"

def liveUntil : Option Time :=
  if c.input.type = .location then
    (c.columns.location.bind Location.liveUntil).map fun requested =>
      min (requested.getD 0) (c.clock + liveLocationMaxSeconds * 1000)
  else none

/-- What refuses the send besides permissions, titles, cards and mentions. -/
def checks : Except AppError Unit := do
  assertSlowMode o actor db c
  resolveAttachments actor db c.attachmentIds
  ensure (!needsAttachment c.input.type || !c.attachmentIds.isEmpty)
    (unprocessable ("A " ++ typeName c.input.type ++ " message needs at least one attachment"))
  match o.account with
  | some e => .error e
  | none =>
    ensure ((liveUntil c).all fun t => c.clock < t)
      (unprocessable "A live location has to end in the future")

def refusal : Option AppError :=
  match checks o actor db c with
  | .error e => some e
  | .ok () => none

def callContext (refusal : Option AppError) : Context :=
  { o.context c.target with clock := c.clock, refusal := refusal }

/-- The rows of `message_attachments` and the other columns of the message `c` has created. -/
def stored (service : MessageService.Database) : Database :=
  { db with
    service := service
    columns := Function.update db.columns c.messageId c.columns
    attachments := Function.update db.attachments c.messageId c.attachmentIds
    unique := fun id => by
      by_cases h : id = c.messageId
      · subst h
        rw [Function.update_self]
        exact c.unique
      · rw [Function.update_of_ne h]
        exact db.unique id }

/-- `send`: the tables after it and the id of the message it answers with. -/
def send : Except AppError (Database × Uuid) :=
  match MessageService.send o.wordish db.service (callContext o c (refusal o actor db c)) actor c.target c.messageId
    c.input with
  | .error e => .error e
  | .ok (service, m, created) =>
    .ok (if created then stored db c service else { db with service := service }, m.id)

end Send

/-! ## The route -/

structure ForwardBody where
  messageIds : List Uuid
  toConversationIds : List Uuid
  hideSender : Bool
  comment : Option Text

structure Item where
  target : Uuid
  source : Option Message

section Route
variable (o : Outside) (db : Database) (actor : Uuid) (body : ForwardBody)

def sources : List Message :=
  db.service.messages.rows.filter fun m =>
    m.id ∈ body.messageIds ∧ m.deletedAt.isNone ∧ (m.id, actor) ∉ db.messageDeletions

def ordered : List Message :=
  body.messageIds.filterMap fun id => (sources db actor body).find? fun m => m.id = id

/-- `body.comment`, where there is something to it. -/
def comments : List Text := body.comment.toList.filter fun text => text ≠ []

def itemsOf (target : Uuid) : List Item :=
  (ordered db actor body).map (fun source => ⟨target, some source⟩) ++
    (comments body).map fun _ => ⟨target, none⟩

def copiedType : MessageType → MessageType
  | .system | .call => .text
  | type => type

def plain (nonce : Nonce) (type : MessageType) (content : Option Text) (entities : Option (List Entity)) : SendInput where
  nonce := nonce
  type := type
  content := content
  title := none
  entities := entities
  inThread := false
  embeds := none
  components := none
  expiresInSeconds := none
  cardKey := none

/-- The `k`th send of the request. The media rows of a source are shared. -/
def Item.call (item : Item) (k : ℕ) : Call :=
  match item.source with
  | some source =>
    let columns := db.columns source.id
    { target := item.target
      input := plain (forwardNonce source.id item.target) (copiedType source.type) source.content source.entities
      attachmentIds := db.attachments source.id
      unique := db.unique source.id
      columns :=
        { columns with
          forwardedFrom := if !body.hideSender && source.senderId ≠ nobody
            then some (source.id, source.senderId) else none
          silent := false }
      messageId := o.newId (2 * k)
      clock := o.clock k }
  | none =>
    { target := item.target
      input := plain (commentNonce (o.newId (2 * k + 1))) .text body.comment none
      attachmentIds := []
      unique := List.nodup_nil
      columns := ⟨none, none, none, none, none, false⟩
      messageId := o.newId (2 * k)
      clock := o.clock k }

/-- What the items ask for, from the `k`th send on. -/
def calls (k : ℕ) (items : List Item) : List Call :=
  (items.zipIdx k).map fun job => job.1.call o db body job.2

/-- Sends one after another, into the tables `now`, with the ids of the messages they answer with. -/
def sendAll : Database → List Call → Except AppError (Database × List Uuid)
  | now, [] => .ok (now, [])
  | now, c :: rest =>
    match send o actor now c with
    | .error e => .error e
    | .ok (now, id) =>
      match sendAll now rest with
      | .error e => .error e
      | .ok (now, ids) => .ok (now, id :: ids)

/-- The loop through the targets, from the `k`th send on. What it copies was read before, and the answer names the
copies. -/
def sendTargets : ℕ → Database → List Uuid → Except AppError (Database × List (Uuid × List Uuid))
  | _, now, [] => .ok (now, [])
  | k, now, target :: rest =>
    let items := itemsOf db actor body target
    match sendAll o actor now (calls o db body k items) with
    | .error e => .error e
    | .ok (now, ids) =>
      match sendTargets (k + items.length) now rest with
      | .error e => .error e
      | .ok (now, results) => .ok (now, (target, ids.take (ordered db actor body).length) :: results)

def readable : List Uuid → Except AppError Unit
  | [] => .ok ()
  | c :: rest => do
    (o.context c).requirePermission Permissions.Permission.readHistory
    readable rest

/-- `POST /messages/forward`. -/
def forward : Except AppError (Database × List (Uuid × List Uuid)) :=
  match o.limited with
  | some e => .error e
  | none =>
    if sources db actor body = [] then .error (notFound "Message")
    else do
      readable o ((sources db actor body).map Message.conversationId).eraseDups
      sendTargets o db actor body 0 db body.toConversationIds

end Route

/-! ## What one send does -/

section Checks
variable {o : Outside} {actor : Uuid} {db : Database} {c : Call}

/-- Slow mode lets the call through: enough time has passed since what the actor has sent there. -/
def Paced (o : Outside) (actor : Uuid) (rows : List Message) (c : Call) : Prop :=
  o.slowModeSeconds c.target = 0 ∨
  ((o.context c.target).permissions.any fun p => has p Permissions.Permission.manageConversation) = true ∨
  ∀ m ∈ rows, m.conversationId = c.target → m.senderId = actor →
    m.createdAt + o.slowModeSeconds c.target * 1000 ≤ c.clock

/-- The actor's own media, confirmed and neither quarantined nor failed. -/
def Media.Usable (actor : Uuid) (m : Media) : Prop :=
  m.ownerId = actor ∧ m.deletedAt = none ∧ m.confirmedAt ≠ none ∧ m.status ≠ .quarantined ∧
    m.status ≠ .failed

lemma assertSlowMode_ok : assertSlowMode o actor db c = .ok () ↔ Paced o actor db.service.messages.rows c := by
  unfold assertSlowMode Paced
  split_ifs with hzero hexempt
  · exact iff_of_true rfl (Or.inl hzero)
  · exact iff_of_true rfl (Or.inr (Or.inl hexempt))
  · have hnone : slowModeWait o actor db c = none ↔ ∀ m ∈ db.service.messages.rows,
        m.conversationId = c.target → m.senderId = actor →
          m.createdAt + o.slowModeSeconds c.target * 1000 ≤ c.clock := by
      unfold slowModeWait
      dsimp only
      rw [List.min?_eq_none_iff, List.map_eq_nil_iff, List.filter_eq_nil_iff]
      simp
    rw [or_iff_right hzero, or_iff_right hexempt, ← hnone]
    cases slowModeWait o actor db c with
    | none => exact iff_of_true rfl rfl
    | some wait => exact iff_of_false nofun nofun

lemma found_all {p : Media → Bool} {ids : List Uuid} (hids : ids.Nodup) :
    (db.media.rows.filter fun m => m.id ∈ ids ∧ p m = true).length = ids.length ↔
      ∀ id ∈ ids, ∃ m ∈ db.media.rows, m.id = id ∧ p m = true := by
  have hsub : ((db.media.rows.filter fun m => m.id ∈ ids ∧ p m = true).map Media.id).Nodup :=
    db.media.nodup.sublist (List.filter_sublist.map _)
  have hmem : ∀ id, id ∈ (db.media.rows.filter fun m => m.id ∈ ids ∧ p m = true).map Media.id ↔
      id ∈ ids ∧ ∃ m ∈ db.media.rows, m.id = id ∧ p m = true := by
    intro id
    simp only [List.mem_map, List.mem_filter, decide_eq_true_eq]
    constructor
    · rintro ⟨m, ⟨hm, hin, hp⟩, rfl⟩
      exact ⟨hin, m, hm, rfl, hp⟩
    · rintro ⟨hin, m, hm, rfl, hp⟩
      exact ⟨m, ⟨hm, hin, hp⟩, rfl⟩
  rw [← List.length_map Media.id]
  constructor
  · intro hlen id hid
    have hperm := (List.subperm_of_subset hsub fun x hx => ((hmem x).mp hx).1).perm_of_length_le hlen.ge
    exact ((hmem id).mp (hperm.mem_iff.mpr hid)).2
  · intro hall
    refine ((List.perm_ext_iff_of_nodup hsub hids).mpr fun id => ?_).length_eq
    rw [hmem]
    exact and_iff_left_of_imp (hall id)

lemma resolveAttachments_ok {ids : List Uuid} (hids : ids.Nodup) :
    resolveAttachments actor db ids = .ok () ↔ ids.length ≤ attachmentsPerMessage ∧
      ∀ id ∈ ids, ∃ m ∈ db.media.rows, m.id = id ∧ m.Usable actor := by
  unfold resolveAttachments
  by_cases hnil : ids = []
  · subst hnil
    simp
  rw [if_neg hnil]
  by_cases hmany : attachmentsPerMessage < ids.length
  · rw [if_pos hmany]
    exact iff_of_false nofun fun h => absurd h.1 (not_le.mpr hmany)
  rw [if_neg hmany, and_iff_right (not_lt.mp hmany)]
  dsimp only
  have hfound := @found_all db (fun m => m.ownerId = actor ∧ m.deletedAt.isNone) ids hids
  simp only [decide_eq_true_eq] at hfound
  by_cases hlen : (db.media.rows.filter fun m =>
      m.id ∈ ids ∧ m.ownerId = actor ∧ m.deletedAt.isNone).length = ids.length
  · rw [if_neg (not_not.mpr hlen)]
    have hall := hfound.mp hlen
    have hrow : ∀ id ∈ ids, ∀ m ∈ db.media.rows, m.id = id → m ∈ db.media.rows.filter fun m =>
        m.id ∈ ids ∧ m.ownerId = actor ∧ m.deletedAt.isNone := by
      intro id hid m hm heq
      obtain ⟨m', hm', heq', hp⟩ := hall id hid
      obtain rfl := List.inj_on_of_nodup_map db.media.nodup hm hm' (heq.trans heq'.symm)
      exact List.mem_filter.mpr ⟨hm, decide_eq_true ⟨heq ▸ hid, hp⟩⟩
    have hiff : (∀ id ∈ ids, ∃ m ∈ db.media.rows, m.id = id ∧ m.Usable actor) ↔
        ∀ m ∈ db.media.rows.filter fun m => m.id ∈ ids ∧ m.ownerId = actor ∧ m.deletedAt.isNone,
          m.confirmedAt ≠ none ∧ m.status ≠ .quarantined ∧ m.status ≠ .failed := by
      constructor
      · intro h m hm
        obtain ⟨hm, hp⟩ := List.mem_filter.mp hm
        obtain ⟨hid, -⟩ := of_decide_eq_true hp
        obtain ⟨m', hm', heq, -, -, husable⟩ := h m.id hid
        obtain rfl := List.inj_on_of_nodup_map db.media.nodup hm' hm heq
        exact husable
      · intro h id hid
        obtain ⟨m, hm, heq, howner, hdeleted⟩ := hall id hid
        exact ⟨m, hm, heq, howner, Option.isNone_iff_eq_none.mp hdeleted,
          h m (hrow id hid m hm heq)⟩
    rw [hiff]
    split_ifs with hconfirmed hquarantined hfailed
    · obtain ⟨m, hm, hnone⟩ := List.any_eq_true.mp hconfirmed
      exact iff_of_false nofun fun h => (h m hm).1 (Option.isNone_iff_eq_none.mp hnone)
    · obtain ⟨m, hm, hstatus⟩ := List.any_eq_true.mp hquarantined
      exact iff_of_false nofun fun h => (h m hm).2.1 (of_decide_eq_true hstatus)
    · obtain ⟨m, hm, hstatus⟩ := List.any_eq_true.mp hfailed
      exact iff_of_false nofun fun h => (h m hm).2.2 (of_decide_eq_true hstatus)
    · refine iff_of_true rfl fun m hm => ⟨fun hnone => hconfirmed ?_, fun hs => hquarantined ?_,
        fun hs => hfailed ?_⟩
      · exact List.any_eq_true.mpr ⟨m, hm, Option.isNone_iff_eq_none.mpr hnone⟩
      · exact List.any_eq_true.mpr ⟨m, hm, decide_eq_true hs⟩
      · exact List.any_eq_true.mpr ⟨m, hm, decide_eq_true hs⟩
  · rw [if_pos hlen]
    refine iff_of_false nofun fun h => hlen (hfound.mpr fun id hid => ?_)
    obtain ⟨m, hm, heq, howner, hdeleted, -⟩ := h id hid
    exact ⟨m, hm, heq, howner, Option.isNone_iff_eq_none.mpr hdeleted⟩

/-- What the account, the media and the kind of the message make of a send. -/
structure Fit (o : Outside) (actor : Uuid) (media : List Media) (c : Call) : Prop where
  few : c.attachmentIds.length ≤ attachmentsPerMessage
  usable : ∀ id ∈ c.attachmentIds, ∃ m ∈ media, m.id = id ∧ m.Usable actor
  typed : needsAttachment c.input.type = true → c.attachmentIds ≠ []
  account : o.account = none
  live : ∀ t, liveUntil c = some t → c.clock < t

lemma checks_ok : checks o actor db c = .ok () ↔
    Paced o actor db.service.messages.rows c ∧ Fit o actor db.media.rows c := by
  unfold checks
  simp only [bind_eq_ok, exists_unit, ensure_eq_ok, assertSlowMode_ok, resolveAttachments_ok c.unique]
  refine and_congr_right fun _ => ?_
  have htyped : (!needsAttachment c.input.type || !c.attachmentIds.isEmpty) = true ↔
      (needsAttachment c.input.type = true → c.attachmentIds ≠ []) := by
    cases needsAttachment c.input.type <;> simp
  have hlive : ((liveUntil c).all fun t => decide (c.clock < t)) = true ↔
      ∀ t, liveUntil c = some t → c.clock < t := by
    cases liveUntil c <;> simp
  rw [htyped]
  cases ho : o.account with
  | some e =>
    refine iff_of_false (fun h => ?_) fun h => ?_
    · cases h.2.2
    · rw [h.account] at ho
      cases ho
  | none =>
    dsimp only
    rw [ensure_eq_ok, hlive]
    exact ⟨fun h => ⟨h.1.1, h.1.2, h.2.1, ho, h.2.2⟩, fun h => ⟨⟨h.few, h.usable⟩, h.typed, h.live⟩⟩

lemma refusal_none : refusal o actor db c = none ↔
    Paced o actor db.service.messages.rows c ∧ Fit o actor db.media.rows c := by
  rw [← checks_ok]
  unfold refusal
  cases checks o actor db c with
  | error e => exact iff_of_false nofun nofun
  | ok u => exact iff_of_true rfl rfl

end Checks

section Sends
variable {o : Outside} {actor : Uuid} {db db' : Database} {c : Call} {id : Uuid}

/-- The row `c` inserts. -/
def row (o : Outside) (actor : Uuid) (c : Call) : Message :=
  c.input.message o.wordish (callContext o c none) actor c.target c.messageId

structure Admitted (o : Outside) (actor : Uuid) (c : Call) : Prop where
  permission : (o.context c.target).requirePermission (permissionForType c.input.type) = .ok ()
  forum : (o.context c.target).isForum = false
  mentions : MessageService.mentionsAll (row o actor c).entities = true →
    (o.context c.target).mayMentionAll = true

structure Call.Plain (c : Call) : Prop where
  title : c.input.title = none
  inThread : c.input.inThread = false
  embeds : c.input.embeds = none
  components : c.input.components = none
  cardKey : c.input.cardKey = none

def Call.names (actor : Uuid) (c : Call) (m : Message) : Bool :=
  m.senderId = actor ∧ m.nonce = some c.input.nonce

lemma check_ok {m : Message} (hplain : c.Plain) :
    MessageService.Retries.check o.wordish ⟨actor, c.target, c.input⟩ (callContext o c (refusal o actor db c))
      c.messageId = .ok m ↔
    m = row o actor c ∧ Admitted o actor c ∧ Paced o actor db.service.messages.rows c ∧
      Fit o actor db.media.rows c := by
  have htitle : MessageService.checkTitle (callContext o c (refusal o actor db c)) c.input = .ok () ↔
      (o.context c.target).isForum = false := by
    unfold MessageService.checkTitle
    rw [hplain.title, hplain.inThread]
    change (if ((o.context c.target).isForum && true && true) = true then _ else _) = _ ↔ _
    cases (o.context c.target).isForum with
    | true => exact iff_of_false nofun nofun
    | false => exact iff_of_true rfl rfl
  have hembeds : MessageService.checkEmbeds (callContext o c (refusal o actor db c)) c.input.embeds
      c.input.components = .ok () := by
    rw [hplain.embeds, hplain.components]
    rfl
  have hmentions : MessageService.extractMentions (callContext o c (refusal o actor db c))
      (row o actor c).entities = .ok () ↔ (MessageService.mentionsAll (row o actor c).entities = true →
        (o.context c.target).mayMentionAll = true) := by
    unfold MessageService.extractMentions
    rw [ensure_eq_ok]
    change (!_ || (o.context c.target).mayMentionAll) = true ↔ _
    cases MessageService.mentionsAll (row o actor c).entities <;> simp
  have hmessage : c.input.message o.wordish (callContext o c (refusal o actor db c)) actor c.target
      c.messageId = row o actor c := rfl
  unfold MessageService.Retries.check
  dsimp only
  simp only [bind_eq_ok, exists_unit, hmessage, htitle, hembeds, hmentions, true_and]
  rw [← refusal_none]
  change (o.context c.target).requirePermission _ = _ ∧ _ ∧ _ ∧ (match refusal o actor db c with
    | some refusal => Except.error refusal
    | none => Except.ok (row o actor c) : Except AppError Message) = _ ↔ _
  cases refusal o actor db c with
  | some e => exact iff_of_false (fun h => by cases h.2.2.2) fun h => by cases h.2.2
  | none =>
    constructor
    · rintro ⟨hp, hf, hm, he⟩
      exact ⟨(Except.ok.inj he).symm, ⟨hp, hf, hm⟩, rfl⟩
    · rintro ⟨rfl, ⟨hp, hf, hm⟩, -⟩
      exact ⟨hp, hf, hm, rfl⟩

lemma send_eq : send o actor db c =
    match db.service.first (c.names actor) with
    | some m => .ok (db, m.id)
    | none => MessageService.Retries.check o.wordish ⟨actor, c.target, c.input⟩
        (callContext o c (refusal o actor db c)) c.messageId >>= fun m =>
      match db.service.insert m with
      | none => .error (conflict "Conflict")
      | some service => .ok (stored db c service, m.id) := by
  have hlookup : MessageService.Retries.lookup ⟨actor, c.target, c.input⟩ db.service =
      db.service.first (c.names actor) := rfl
  unfold send
  rw [MessageService.Retries.send_eq o.wordish ⟨actor, c.target, c.input⟩, hlookup]
  cases db.service.first (c.names actor) with
  | some m => rfl
  | none =>
    dsimp only
    cases MessageService.Retries.check o.wordish ⟨actor, c.target, c.input⟩
      (callContext o c (refusal o actor db c)) c.messageId with
    | error e => rfl
    | ok m =>
      have htransact : (Except.ok m >>= MessageService.Retries.transact db.service) =
          MessageService.Retries.transact db.service m := rfl
      rw [htransact]
      unfold MessageService.Retries.transact
      change _ = (match db.service.insert m with
        | none => Except.error (conflict "Conflict")
        | some service => .ok (stored db c service, m.id))
      cases db.service.insert m with
      | none => rfl
      | some service => rfl

lemma send_replayed {m : Message} (h : db.service.first (c.names actor) = some m) :
    send o actor db c = .ok (db, m.id) := by
  rw [send_eq, h]

lemma insert_row (hplain : c.Plain) (hid : ∀ m ∈ db.service.messages.rows, m.id ≠ c.messageId)
    (h : db.service.first (c.names actor) = none) :
    ∃ service, db.service.insert (row o actor c) = some service := by
  unfold MessageService.Database.insert
  rw [dif_pos]
  · exact ⟨_, rfl⟩
  · refine ⟨fun hin => ?_, fun r hr hs => ?_, fun r hr hs => ?_⟩
    · obtain ⟨m, hm, heq⟩ := List.mem_map.mp hin
      exact hid m hm heq
    · obtain ⟨-, hsender, hnonce⟩ := hs
      have hnone := List.find?_eq_none.mp h r hr
      refine hnone (decide_eq_true ⟨hsender.symm, ?_⟩)
      exact hnonce.symm
    · obtain ⟨hcard, -⟩ := hs
      change c.input.cardKey.isSome = true at hcard
      rw [hplain.cardKey] at hcard
      cases hcard

lemma send_new (hplain : c.Plain) (hid : ∀ m ∈ db.service.messages.rows, m.id ≠ c.messageId)
    (h : db.service.first (c.names actor) = none) :
    (∃ x, send o actor db c = .ok x) ↔ Admitted o actor c ∧ Paced o actor db.service.messages.rows c ∧
      Fit o actor db.media.rows c := by
  rw [send_eq, h]
  dsimp only
  constructor
  · rintro ⟨x, hx⟩
    obtain ⟨m, hm, -⟩ := bind_eq_ok.mp hx
    exact ((check_ok hplain).mp hm).2
  · intro hok
    obtain ⟨service, hs⟩ := @insert_row o actor db c hplain hid h
    refine ⟨(stored db c service, (row o actor c).id), bind_eq_ok.mpr ⟨_, (check_ok hplain).mpr ⟨rfl, hok⟩, ?_⟩⟩
    rw [hs]

lemma send_inserts (hplain : c.Plain) (h : db.service.first (c.names actor) = none)
    (hx : send o actor db c = .ok (db', id)) : id = c.messageId ∧
      ∃ service, db' = stored db c service ∧
        service.messages.rows = row o actor c :: db.service.messages.rows := by
  rw [send_eq, h] at hx
  dsimp only at hx
  obtain ⟨m, hm, hx⟩ := bind_eq_ok.mp hx
  obtain ⟨rfl, -⟩ := (check_ok hplain).mp hm
  cases hs : db.service.insert (row o actor c) with
  | none =>
    rw [hs] at hx
    cases hx
  | some service =>
    rw [hs] at hx
    obtain ⟨rfl, rfl⟩ := Prod.mk.inj (Except.ok.inj hx)
    exact ⟨rfl, service, rfl, (MessageService.Database.insert_rows hs).1⟩

end Sends

end Yappy.Forwarding
