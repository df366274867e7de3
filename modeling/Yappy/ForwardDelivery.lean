import Yappy.Forwarding

/-!
# What forwarding delivers

A forward request adds one message for each nonce that the actor has not used, as long as none of its sends is refused.
So it delivers exactly where no copy finds its nonce used, by an earlier forward or by another target of the request.
-/
namespace Yappy.Forwarding

open MessageService (Context Message Nonce SendInput permissionForType)
open Permissions (AppError Time Uuid bind_eq_ok)
open Tables (MessageType)

/-! ## Nonces -/

lemma length_hexDigits (width n : ℕ) : (hexDigits width n).length = width := by
  simp [hexDigits]

lemma length_uuidText (id : Uuid) : (uuidText id).length = 36 := by
  simp [uuidText, length_hexDigits]

lemma nonceOf_inj {a b : List Char} : nonceOf a = nonceOf b ↔ a.take 64 = b.take 64 := by
  unfold nonceOf
  rw [Nonce.client.injEq]
  exact ⟨fun h => by simpa using congrArg String.toList h, fun h => by rw [h]⟩

lemma commentNonce_text (id : Uuid) : (['f', 'w', 'd', 'c', '_'] ++ uuidText id).take 64 =
    ['f', 'w', 'd', 'c', '_'] ++ uuidText id := by
  refine List.take_of_length_le ?_
  simp [length_uuidText]

lemma commentNonce_inj {id id' : Uuid} (h : commentNonce id = commentNonce id') :
    uuidText id = uuidText id' := by
  unfold commentNonce at h
  rwa [nonceOf_inj, commentNonce_text, commentNonce_text, List.append_cancel_left_eq] at h

def isCommentNonce : Option Nonce → Bool
  | some (.client text) => text.toList.take 5 = ['f', 'w', 'd', 'c', '_']
  | _ => false

lemma isComment_forwardNonce (source target : Uuid) :
    isCommentNonce (some (forwardNonce source target)) = false := by
  unfold isCommentNonce forwardNonce nonceOf
  simp

lemma isComment_commentNonce (id : Uuid) : isCommentNonce (some (commentNonce id)) = true := by
  unfold isCommentNonce commentNonce nonceOf
  simp

/-! ## Many sends -/

def used (actor : Uuid) (rows : List Message) : List Nonce :=
  (rows.filter fun m => m.senderId = actor).filterMap Message.nonce

def Call.nonce (c : Call) : Nonce := c.input.nonce

def sends (actor : Uuid) (rows : List Message) (calls : List Call) : List Call :=
  firsts Call.nonce (used actor rows) calls

section Sends
variable {o : Outside} {actor : Uuid} {db db' : Database} {c c' : Call} {list list' : List Call} {ids : List Uuid}
  {rows : List Message}

lemma mem_used {nonce : Nonce} : nonce ∈ used actor rows ↔
    ∃ m ∈ rows, m.senderId = actor ∧ m.nonce = some nonce := by
  simp only [used, List.mem_filterMap, List.mem_filter, decide_eq_true_eq, and_assoc]

lemma first_names : db.service.first (c.names actor) = none ↔
    c.nonce ∉ used actor db.service.messages.rows := by
  rw [mem_used]
  unfold MessageService.Database.first Call.names Call.nonce
  rw [List.find?_eq_none]
  simp

lemma mem_used_of_first {m : Message} (h : db.service.first (c.names actor) = some m) :
    c.nonce ∈ used actor db.service.messages.rows := by
  by_contra hnot
  rw [first_names.mpr hnot] at h
  cases h

lemma used_row : used actor (row o actor c :: rows) = c.nonce :: used actor rows := by
  have hsender : decide ((row o actor c).senderId = actor) = true := decide_eq_true rfl
  have hnonce : (row o actor c).nonce = some c.nonce := rfl
  unfold used
  rw [@List.filter_cons_of_pos _ _ (row o actor c) _ hsender, List.filterMap_cons_some hnonce]

/-- Of two calls the second is not too soon after the first. -/
def Follows (o : Outside) (c c' : Call) : Prop :=
  c.target = c'.target → o.slowModeSeconds c'.target = 0 ∨
    ((o.context c'.target).permissions.any fun p => Permissions.has p Permissions.Permission.manageConversation) =
      true ∨ c.clock + o.slowModeSeconds c'.target * 1000 ≤ c'.clock

/-- No call is too soon after what was sent before, or after one of the calls. -/
def PacedAll (o : Outside) (actor : Uuid) (rows : List Message) (calls : List Call) : Prop :=
  (∀ c ∈ calls, Paced o actor rows c) ∧ calls.Pairwise (Follows o)

lemma paced_row : Paced o actor (row o actor c :: rows) c' ↔ Paced o actor rows c' ∧ Follows o c c' := by
  have hrow : (row o actor c).conversationId = c.target ∧ (row o actor c).senderId = actor ∧
      (row o actor c).createdAt = c.clock := ⟨rfl, rfl, rfl⟩
  unfold Paced Follows
  rw [List.forall_mem_cons, hrow.1, hrow.2.1, hrow.2.2]
  tauto

lemma pacedAll_cons : PacedAll o actor rows (c :: list) ↔
    Paced o actor rows c ∧ PacedAll o actor (row o actor c :: rows) list := by
  unfold PacedAll
  rw [List.forall_mem_cons, List.pairwise_cons]
  simp only [paced_row]
  constructor
  · rintro ⟨⟨hc, hl⟩, hf, hp⟩
    exact ⟨hc, fun c' hc' => ⟨hl c' hc', hf c' hc'⟩, hp⟩
  · rintro ⟨hc, hl, hp⟩
    exact ⟨⟨hc, fun c' hc' => (hl c' hc').1⟩, fun c' hc' => (hl c' hc').2, hp⟩

structure New (rows : List Message) (calls : List Call) : Prop where
  plain : ∀ c ∈ calls, c.Plain
  ids : ∀ c ∈ calls, ∀ m ∈ rows, m.id ≠ c.messageId
  nodup : (calls.map Call.messageId).Nodup

lemma New.tail (h : New rows (c :: list)) : New rows list where
  plain c' hc' := h.plain c' (List.mem_cons_of_mem _ hc')
  ids c' hc' := h.ids c' (List.mem_cons_of_mem _ hc')
  nodup := (List.nodup_cons.mp h.nodup).2

lemma New.row (h : New rows (c :: list)) : New (row o actor c :: rows) list where
  plain := h.tail.plain
  ids c' hc' m hm := by
    rcases List.mem_cons.mp hm with rfl | hm
    · intro he
      have he : c.messageId = c'.messageId := he
      exact (List.nodup_cons.mp h.nodup).1 (he ▸ List.mem_map_of_mem hc')
    · exact h.tail.ids c' hc' m hm
  nodup := h.tail.nodup

@[simp] lemma sends_nil : sends actor rows [] = [] := rfl

lemma sends_of_used (h : c.nonce ∈ used actor rows) : sends actor rows (c :: list) = sends actor rows list :=
  firsts_cons_of_mem h

lemma sends_of_unused (h : c.nonce ∉ used actor rows) :
    sends actor rows (c :: list) = c :: sends actor (row o actor c :: rows) list := by
  unfold sends
  rw [used_row, firsts_cons_of_not_mem h]

lemma sendAll_append : sendAll o actor db (list ++ list') =
    match sendAll o actor db list with
    | .error e => .error e
    | .ok (now, ids) =>
      match sendAll o actor now list' with
      | .error e => .error e
      | .ok (now, ids') => .ok (now, ids ++ ids') := by
  induction list generalizing db with
  | nil =>
    change sendAll o actor db list' = match sendAll o actor db list' with
      | .error e => .error e
      | .ok (now, ids') => .ok (now, ids')
    cases sendAll o actor db list' <;> rfl
  | cons c list ih =>
    rw [List.cons_append, sendAll, sendAll]
    cases send o actor db c with
    | error e => rfl
    | ok x =>
      obtain ⟨now, id⟩ := x
      dsimp only
      rw [ih]
      cases sendAll o actor now list with
      | error e => rfl
      | ok y =>
        obtain ⟨now', ids⟩ := y
        dsimp only
        cases sendAll o actor now' list' <;> rfl

lemma sendAll_ok (hnew : New db.service.messages.rows list) :
    (∃ x, sendAll o actor db list = .ok x) ↔
      (∀ c ∈ sends actor db.service.messages.rows list, Admitted o actor c ∧ Fit o actor db.media.rows c) ∧
        PacedAll o actor db.service.messages.rows (sends actor db.service.messages.rows list) := by
  induction list generalizing db with
  | nil =>
    rw [sends_nil]
    exact iff_of_true ⟨_, rfl⟩ ⟨List.forall_mem_nil _, List.forall_mem_nil _, .nil⟩
  | cons c list ih =>
    have hrest : ∀ {now : Database} {id : Uuid}, send o actor db c = .ok (now, id) →
        ((∃ x, sendAll o actor db (c :: list) = .ok x) ↔ ∃ x, sendAll o actor now list = .ok x) := by
      intro now id hs
      rw [sendAll, hs]
      dsimp only
      cases sendAll o actor now list with
      | error e => exact iff_of_false nofun nofun
      | ok x => exact iff_of_true ⟨_, rfl⟩ ⟨_, rfl⟩
    have hplain := hnew.plain c List.mem_cons_self
    cases hf : db.service.first (c.names actor) with
    | some m =>
      rw [hrest (send_replayed hf), ih hnew.tail, sends_of_used (mem_used_of_first hf)]
    | none =>
      have hsend := @send_new o actor db c hplain (hnew.ids c List.mem_cons_self) hf
      rw [sends_of_unused (o := o) (first_names.mp hf), List.forall_mem_cons, pacedAll_cons]
      cases hs : send o actor db c with
      | error e =>
        refine iff_of_false (fun ⟨x, hx⟩ => ?_) fun ⟨⟨hc, _⟩, hp, _⟩ => ?_
        · rw [sendAll, hs] at hx
          cases hx
        · obtain ⟨x, hx⟩ := hsend.mpr ⟨hc.1, hp, hc.2⟩
          rw [hs] at hx
          cases hx
      | ok x =>
        obtain ⟨now, id⟩ := x
        obtain ⟨hadmitted, hpaced, hfit⟩ := hsend.mp ⟨_, hs⟩
        obtain ⟨-, service, rfl, hrows⟩ := send_inserts hplain hf hs
        have hnow : (stored db c service).service.messages.rows = row o actor c :: db.service.messages.rows := hrows
        have ih := @ih (stored db c service) (hnow ▸ hnew.row)
        rw [hnow] at ih
        rw [hrest hs, ih]
        constructor
        · rintro ⟨hall, hp⟩
          exact ⟨⟨⟨hadmitted, hfit⟩, hall⟩, hpaced, hp⟩
        · rintro ⟨⟨-, hall⟩, -, hp⟩
          exact ⟨hall, hp⟩

structure Sent (o : Outside) (actor : Uuid) (db : Database) (list : List Call) (db' : Database) (ids : List Uuid) :
    Prop where
  rows : db'.service.messages.rows =
    ((sends actor db.service.messages.rows list).map (row o actor)).reverse ++ db.service.messages.rows
  attachments : ∀ c ∈ sends actor db.service.messages.rows list, db'.attachments c.messageId = c.attachmentIds
  apart : ∀ id, (∀ c ∈ list, c.messageId ≠ id) → db'.attachments id = db.attachments id
  ids : List.Forall₂ (fun c id => ∃ m ∈ db'.service.messages.rows, m.id = id ∧ c.names actor m = true) list ids

lemma sendAll_sent (hnew : New db.service.messages.rows list)
    (h : sendAll o actor db list = .ok (db', ids)) : Sent o actor db list db' ids := by
  induction list generalizing db ids with
  | nil =>
    obtain ⟨rfl, rfl⟩ := Prod.mk.inj (Except.ok.inj h)
    refine ⟨rfl, ?_, fun _ _ => rfl, .nil⟩
    rw [sends_nil]
    exact List.forall_mem_nil _
  | cons c list ih =>
    rw [sendAll] at h
    cases hs : send o actor db c with
    | error e =>
      rw [hs] at h
      cases h
    | ok x =>
      obtain ⟨now, id⟩ := x
      rw [hs] at h
      dsimp only at h
      cases hrest : sendAll o actor now list with
      | error e =>
        rw [hrest] at h
        cases h
      | ok y =>
        obtain ⟨last, ids'⟩ := y
        rw [hrest] at h
        obtain ⟨rfl, rfl⟩ := Prod.mk.inj (Except.ok.inj h)
        have hplain := hnew.plain c List.mem_cons_self
        cases hf : db.service.first (c.names actor) with
        | some m =>
          have hin := mem_used_of_first hf
          rw [send_replayed hf] at hs
          obtain ⟨rfl, rfl⟩ := Prod.mk.inj (Except.ok.inj hs)
          have hsent := ih hnew.tail hrest
          constructor
          · rw [sends_of_used hin]
            exact hsent.rows
          · rw [sends_of_used hin]
            exact hsent.attachments
          · exact fun id hid => hsent.apart id fun c' hc' => hid c' (List.mem_cons_of_mem _ hc')
          · obtain ⟨hm, hnames⟩ := MessageService.Database.first_eq_some hf
            refine .cons ⟨m, ?_, rfl, hnames⟩ hsent.ids
            rw [hsent.rows]
            exact List.mem_append_right _ hm
        | none =>
          obtain ⟨rfl, service, rfl, hrows⟩ := send_inserts hplain hf hs
          have hnow : (stored db c service).service.messages.rows =
            row o actor c :: db.service.messages.rows := hrows
          have hnew' : New (row o actor c :: db.service.messages.rows) list := hnew.row
          have hsent := ih (hnow ▸ hnew') hrest
          have hsends : sends actor db.service.messages.rows (c :: list) =
              c :: sends actor (row o actor c :: db.service.messages.rows) list :=
            sends_of_unused (first_names.mp hf)
          have hown : last.attachments c.messageId = c.attachmentIds := by
            refine (hsent.apart c.messageId fun c' hc' he => ?_).trans (Function.update_self ..)
            exact (List.nodup_cons.mp hnew.nodup).1 (he ▸ List.mem_map_of_mem hc')
          constructor
          · rw [hsent.rows, hnow, hsends]
            simp
          · rw [hsends, List.forall_mem_cons]
            have hrest' := hsent.attachments
            rw [hnow] at hrest'
            exact ⟨hown, hrest'⟩
          · intro id hid
            rw [hsent.apart id fun c' hc' => hid c' (List.mem_cons_of_mem _ hc')]
            exact Function.update_of_ne (hid c List.mem_cons_self).symm ..
          · refine .cons ⟨row o actor c, ?_, rfl, decide_eq_true ⟨rfl, rfl⟩⟩ hsent.ids
            rw [hsent.rows, hnow]
            exact List.mem_append_right _ List.mem_cons_self

end Sends

/-! ## The sends of a request -/

section Requests
variable (o : Outside) (db : Database) (actor : Uuid) (body : ForwardBody)

def items : List Item := body.toConversationIds.flatMap (itemsOf db actor body)

def added : List Call :=
  sends actor db.service.messages.rows (calls o db body 0 (items db actor body))

def jobKey (job : Item × ℕ) : Nonce := (job.1.call o db body job.2).nonce

def jobs : List (Item × ℕ) :=
  firsts (jobKey o db body) (used actor db.service.messages.rows) (items db actor body).zipIdx

/-- What the actor has of each source, as long as the request can tell them apart. -/
def distinctSources : List Message := firsts Message.id [] (ordered db actor body)

def gained (db db' : Database) (t : Uuid) : List Message :=
  (db'.service.messages.rows.filter fun m =>
    m.conversationId = t ∧ (∀ r ∈ db.service.messages.rows, r.id ≠ m.id) ∧ !isCommentNonce m.nonce).reverse

/-- An undeleted message with the text, the entities and the attachments of a source. -/
structure Copies (db db' : Database) (source m : Message) : Prop where
  deletedAt : m.deletedAt = none
  content : m.content = source.content
  entities : m.entities = source.entities
  attachments : db'.attachments m.id = db.attachments source.id

/-- The request succeeds, each target gains a copy of each source, in order, and the answer names messages of its
targets. -/
def Delivers : Prop := ∃ db' forwarded, forward o db actor body = .ok (db', forwarded) ∧
  (∀ t ∈ body.toConversationIds,
    List.Forall₂ (Copies db db') (distinctSources db actor body) (gained db db' t)) ∧
  ∀ r ∈ forwarded, ∀ id ∈ r.2, ∃ m ∈ db'.service.messages.rows, m.id = id ∧ m.conversationId = r.1

/-- Sources the actor may read, and targets where they may send every source's type. -/
structure Entitled : Prop where
  named : body.messageIds ≠ []
  sources : ∀ id ∈ body.messageIds, ∃ m ∈ db.service.messages.rows, m.id = id ∧ m.deletedAt = none ∧
    (id, actor) ∉ db.messageDeletions ∧
    (o.context m.conversationId).requirePermission Permissions.Permission.readHistory = .ok ()
  targets : ∀ m ∈ db.service.messages.rows, m.id ∈ body.messageIds → ∀ t ∈ body.toConversationIds,
    (o.context t).requirePermission (permissionForType m.type) = .ok ()

/-- What `newId` gives is new, in so far as the request takes it. -/
structure Fresh : Prop where
  distinct : ∀ n < 2 * (items db actor body).length, ∀ n' < 2 * (items db actor body).length,
    uuidText (o.newId n) = uuidText (o.newId n') → n = n'
  ids : ∀ n < 2 * (items db actor body).length, ∀ m ∈ db.service.messages.rows, m.id ≠ o.newId n
  nonces : ∀ n < 2 * (items db actor body).length, ∀ m ∈ db.service.messages.rows,
    m.nonce ≠ some (commentNonce (o.newId n))

/-- Sent to a target, the source stays as it is: neither pass finds anything to take out of its text, and its entities
are in order. -/
def Verbatim (source : Message) (t : Uuid) : Prop :=
  let passed := MessageService.fencePass
    (MessageService.boardPass o.wordish (o.context t) ⟨source.content, source.entities⟩)
  passed.content = source.content ∧
    MessageService.sanitiseEntities passed.content passed.entities = source.entities

structure Deliverable : Prop where
  allowed : o.limited = none
  unused : ∀ id ∈ body.messageIds, ∀ t ∈ body.toConversationIds,
    forwardNonce id t ∉ used actor db.service.messages.rows
  apart : ∀ id ∈ body.messageIds, ∀ t ∈ body.toConversationIds, ∀ id' ∈ body.messageIds,
    ∀ t' ∈ body.toConversationIds, forwardNonce id t = forwardNonce id' t' → id = id' ∧ t = t'
  forum : ∀ t ∈ body.toConversationIds, (o.context t).isForum = false
  comment : comments body ≠ [] → ∀ t ∈ body.toConversationIds,
    (o.context t).requirePermission (permissionForType .text) = .ok ()
  mentions : ∀ c ∈ added o db actor body, MessageService.mentionsAll (row o actor c).entities = true →
    (o.context c.target).mayMentionAll = true
  fit : ∀ c ∈ added o db actor body, Fit o actor db.media.rows c
  paced : PacedAll o actor db.service.messages.rows (added o db actor body)
  verbatim : ∀ source ∈ distinctSources db actor body, ∀ t ∈ body.toConversationIds, Verbatim o source t

end Requests

section Targets
variable {o : Outside} {db db' now : Database} {actor : Uuid} {body : ForwardBody} {k : ℕ}

lemma calls_append {list list' : List Item} : calls o db body k (list ++ list') =
    calls o db body k list ++ calls o db body (k + list.length) list' := by
  unfold calls
  rw [List.zipIdx_append, List.map_append]

lemma length_calls {list : List Item} : (calls o db body k list).length = list.length := by
  simp [calls]

@[simp] lemma call_target (item : Item) (n : ℕ) : (item.call o db body n).target = item.target := by
  unfold Item.call
  cases item.source <;> rfl

lemma mem_calls {list : List Item} {c : Call} (h : c ∈ calls o db body k list) :
    ∃ item n, (item, n) ∈ list.zipIdx k ∧ c = item.call o db body n := by
  obtain ⟨⟨item, n⟩, hjob, rfl⟩ := List.mem_map.mp h
  exact ⟨item, n, hjob, rfl⟩

lemma target_of_mem_itemsOf {item : Item} {t : Uuid} (h : item ∈ itemsOf db actor body t) : item.target = t := by
  rcases List.mem_append.mp h with h | h
  · obtain ⟨-, -, rfl⟩ := List.mem_map.mp h
    rfl
  · obtain ⟨-, -, rfl⟩ := List.mem_map.mp h
    rfl

lemma length_sendAll {list : List Call} {ids : List Uuid} (h : sendAll o actor now list = .ok (db', ids)) :
    ids.length = list.length := by
  induction list generalizing now ids with
  | nil =>
    obtain ⟨-, rfl⟩ := Prod.mk.inj (Except.ok.inj h)
    rfl
  | cons c list ih =>
    rw [sendAll] at h
    cases hs : send o actor now c with
    | error e =>
      rw [hs] at h
      cases h
    | ok x =>
      rw [hs] at h
      dsimp only at h
      cases hrest : sendAll o actor x.1 list with
      | error e =>
        rw [hrest] at h
        cases h
      | ok y =>
        rw [hrest] at h
        obtain ⟨rfl, rfl⟩ := Prod.mk.inj (Except.ok.inj h)
        rw [List.length_cons, List.length_cons, ih hrest]

def grouped (db : Database) (actor : Uuid) (body : ForwardBody) : List Uuid → List Uuid → List (Uuid × List Uuid)
  | [], _ => []
  | t :: rest, ids =>
    (t, ids.take (ordered db actor body).length) ::
      grouped db actor body rest (ids.drop (itemsOf db actor body t).length)

lemma sendTargets_eq {targets : List Uuid} : sendTargets o db actor body k now targets =
    match sendAll o actor now (calls o db body k (targets.flatMap (itemsOf db actor body))) with
    | .error e => .error e
    | .ok (db', ids) => .ok (db', grouped db actor body targets ids) := by
  induction targets generalizing k now with
  | nil => rfl
  | cons t rest ih =>
    rw [List.flatMap_cons, calls_append, sendAll_append, sendTargets]
    cases hs : sendAll o actor now (calls o db body k (itemsOf db actor body t)) with
    | error e => rfl
    | ok x =>
      obtain ⟨now', ids⟩ := x
      dsimp only
      rw [ih]
      cases sendAll o actor now' (calls o db body (k + (itemsOf db actor body t).length)
        (rest.flatMap (itemsOf db actor body))) with
      | error e => rfl
      | ok y =>
        obtain ⟨last, ids'⟩ := y
        have hlen : ids.length = (itemsOf db actor body t).length := (length_sendAll hs).trans length_calls
        have hle : (ordered db actor body).length ≤ ids.length := by
          rw [hlen, itemsOf, List.length_append, List.length_map]
          omega
        dsimp only [grouped]
        rw [List.take_append_of_le_length hle, ← hlen, List.drop_left]

lemma mem_grouped {R : Call → Uuid → Prop} {targets : List Uuid} {ids : List Uuid} {r : Uuid × List Uuid}
    {id : Uuid}
    (h : List.Forall₂ R (calls o db body k (targets.flatMap (itemsOf db actor body))) ids)
    (hr : r ∈ grouped db actor body targets ids) (hid : id ∈ r.2) :
    ∃ c ∈ calls o db body k (targets.flatMap (itemsOf db actor body)), c.target = r.1 ∧ R c id := by
  induction targets generalizing k ids with
  | nil => cases hr
  | cons t rest ih =>
    rw [List.flatMap_cons, calls_append] at h ⊢
    have hlen : (calls o db body k (itemsOf db actor body t)).length = (itemsOf db actor body t).length :=
      length_calls
    have hrest := List.forall₂_drop (itemsOf db actor body t).length h
    have hfirst := List.forall₂_take (itemsOf db actor body t).length h
    rw [← hlen, List.drop_left, hlen] at hrest
    rw [← hlen, List.take_left, hlen] at hfirst
    rcases List.mem_cons.mp hr with rfl | hr
    · have hle : (ordered db actor body).length ≤ (itemsOf db actor body t).length := by
        rw [itemsOf, List.length_append, List.length_map]
        omega
      have hin : id ∈ ids.take (itemsOf db actor body t).length :=
        (List.take_sublist_take_left hle).subset hid
      obtain ⟨n, hn, hget⟩ := List.mem_iff_getElem.mp hin
      have hn' : n < (calls o db body k (itemsOf db actor body t)).length := by
        rw [hfirst.length_eq]
        exact hn
      have hR := List.Forall₂.get hfirst hn' hn
      refine ⟨(calls o db body k (itemsOf db actor body t))[n], List.mem_append_left _ (List.getElem_mem hn'), ?_,
        ?_⟩
      · obtain ⟨item, m, hitem, hcall⟩ := mem_calls (List.getElem_mem hn')
        rw [hcall, call_target]
        exact target_of_mem_itemsOf (List.fst_mem_of_mem_zipIdx hitem)
      · rw [← hget]
        exact hR
    · obtain ⟨c, hc, ht, hR⟩ := ih hrest hr
      exact ⟨c, List.mem_append_right _ hc, ht, hR⟩

end Targets

/-! ## The sends that add a message -/

section Jobs
variable {o : Outside} {db db' : Database} {actor : Uuid} {body : ForwardBody} {t : Uuid} {job : Item × ℕ}
  {ids : List Uuid}

def isCopy (t : Uuid) (job : Item × ℕ) : Bool := job.1.target = t ∧ job.1.source.isSome

def Item.sourceId (item : Item) : Uuid := (item.source.map Message.id).getD nobody

lemma call_messageId (item : Item) (n : ℕ) : (item.call o db body n).messageId = o.newId (2 * n) := by
  unfold Item.call
  cases item.source <;> rfl

lemma call_plain (item : Item) (n : ℕ) : (item.call o db body n).Plain := by
  unfold Item.call
  cases item.source <;> exact ⟨rfl, rfl, rfl, rfl, rfl⟩

lemma jobKey_some {source : Message} (h : job.1.source = some source) :
    jobKey o db body job = forwardNonce source.id job.1.target := by
  unfold jobKey Item.call
  rw [h]
  rfl

lemma jobKey_none (h : job.1.source = none) :
    jobKey o db body job = commentNonce (o.newId (2 * job.2 + 1)) := by
  unfold jobKey Item.call
  rw [h]
  rfl

lemma jobKey_isCopy (h : isCopy t job = true) :
    jobKey o db body job = forwardNonce job.1.sourceId t := by
  obtain ⟨ht, hsome⟩ := of_decide_eq_true h
  obtain ⟨source, hsource⟩ := Option.isSome_iff_exists.mp hsome
  rw [jobKey_some hsource, Item.sourceId, hsource, ht]
  rfl

lemma isComment_jobKey : isCommentNonce (some (jobKey o db body job)) = job.1.source.isNone := by
  cases hsource : job.1.source with
  | none =>
    rw [jobKey_none hsource]
    exact isComment_commentNonce _
  | some source =>
    rw [jobKey_some hsource]
    exact isComment_forwardNonce _ _

lemma added_eq : added o db actor body = (jobs o db actor body).map fun job => job.1.call o db body job.2 :=
  firsts_map _ _

lemma mem_ordered {m : Message} (h : m ∈ ordered db actor body) :
    m ∈ db.service.messages.rows ∧ m.id ∈ body.messageIds := by
  obtain ⟨id, -, hfind⟩ := List.mem_filterMap.mp h
  obtain ⟨hm, hp⟩ := List.mem_filter.mp (List.mem_of_find?_eq_some hfind)
  exact ⟨hm, (of_decide_eq_true hp).1⟩

lemma source_of_mem_itemsOf {item : Item} {source : Message} (h : item ∈ itemsOf db actor body t)
    (hs : item.source = some source) : source ∈ ordered db actor body := by
  rcases List.mem_append.mp h with h | h
  · obtain ⟨m, hm, rfl⟩ := List.mem_map.mp h
    exact Option.some.inj hs ▸ hm
  · obtain ⟨-, -, rfl⟩ := List.mem_map.mp h
    cases hs

lemma mem_zipIdx_items (h : job ∈ (items db actor body).zipIdx) :
    job.1.target ∈ body.toConversationIds ∧ job.2 < (items db actor body).length ∧
      ∀ source, job.1.source = some source → source ∈ ordered db actor body := by
  have hin := List.fst_mem_of_mem_zipIdx h
  obtain ⟨t, ht, hitem⟩ := List.mem_flatMap.mp hin
  refine ⟨target_of_mem_itemsOf hitem ▸ ht, ?_, fun source hs => source_of_mem_itemsOf hitem hs⟩
  simpa using List.snd_lt_of_mem_zipIdx h

lemma sourceId_mem (h : job ∈ (items db actor body).zipIdx) (hcopy : isCopy t job = true) :
    ∃ source ∈ ordered db actor body, source.id = job.1.sourceId ∧ job.1 = ⟨t, some source⟩ := by
  obtain ⟨ht, hsome⟩ := of_decide_eq_true hcopy
  obtain ⟨source, hsource⟩ := Option.isSome_iff_exists.mp hsome
  refine ⟨source, (mem_zipIdx_items h).2.2 source hsource, ?_, ?_⟩
  · rw [Item.sourceId, hsource]
    rfl
  · rw [← ht, ← hsource]

lemma mem_jobs (h : job ∈ jobs o db actor body) : job ∈ (items db actor body).zipIdx :=
  mem_of_mem_firsts h

lemma job_unique {job' : Item × ℕ} (h : job ∈ (items db actor body).zipIdx)
    (h' : job' ∈ (items db actor body).zipIdx) (he : job.2 = job'.2) : job = job' := by
  have hget := List.mem_zipIdx_iff_getElem?.mp h
  have hget' := List.mem_zipIdx_iff_getElem?.mp h'
  rw [he] at hget
  exact Prod.ext (Option.some.inj (hget.symm.trans hget')) he

lemma new_calls (hfresh : Fresh o db actor body) :
    New db.service.messages.rows (calls o db body 0 (items db actor body)) where
  plain c hc := by
    obtain ⟨item, n, -, rfl⟩ := mem_calls hc
    exact call_plain item n
  ids c hc := by
    obtain ⟨item, n, hjob, rfl⟩ := mem_calls hc
    have hlt := (mem_zipIdx_items hjob).2.1
    rw [call_messageId]
    exact hfresh.ids _ (by omega)
  nodup := by
    unfold calls
    rw [List.map_map]
    refine List.Nodup.map_on (fun job hjob job' hjob' he => ?_) ?_
    · have hlt := (mem_zipIdx_items hjob).2.1
      have hlt' := (mem_zipIdx_items hjob').2.1
      have he : o.newId (2 * job.2) = o.newId (2 * job'.2) :=
        (call_messageId job.1 job.2).symm.trans (he.trans (call_messageId job'.1 job'.2))
      have hn := hfresh.distinct _ (by omega) _ (by omega) (congrArg uuidText he)
      exact job_unique hjob hjob' (by omega)
    · refine List.Nodup.of_map Prod.snd ?_
      rw [List.zipIdx_map_snd]
      exact List.nodup_range'

lemma comment_unique {job' : Item × ℕ} (hfresh : Fresh o db actor body)
    (h : job ∈ (items db actor body).zipIdx) (h' : job' ∈ (items db actor body).zipIdx)
    (hnone : job.1.source = none) (he : jobKey o db body job = jobKey o db body job') : job = job' := by
  have hnone' : job'.1.source = none := by
    have hcomment := @isComment_jobKey o db body job
    rw [he, isComment_jobKey, hnone] at hcomment
    exact Option.isNone_iff_eq_none.mp hcomment
  rw [jobKey_none hnone, jobKey_none hnone'] at he
  have hlt := (mem_zipIdx_items h).2.1
  have hlt' := (mem_zipIdx_items h').2.1
  have hn := hfresh.distinct _ (by omega) _ (by omega) (commentNonce_inj he)
  exact job_unique h h' (by omega)

lemma comment_unused (hfresh : Fresh o db actor body) (h : job ∈ (items db actor body).zipIdx)
    (hnone : job.1.source = none) : jobKey o db body job ∉ used actor db.service.messages.rows := by
  rw [jobKey_none hnone, mem_used]
  rintro ⟨m, hm, -, hnonce⟩
  have hlt := (mem_zipIdx_items h).2.1
  exact hfresh.nonces _ (by omega) m hm hnonce

lemma gained_eq (hfresh : Fresh o db actor body)
    (hsent : Sent o actor db (calls o db body 0 (items db actor body)) db' ids) :
    gained db db' t = ((jobs o db actor body).filter (isCopy t)).map fun job =>
      row o actor (job.1.call o db body job.2) := by
  have hold : (db.service.messages.rows.filter fun m => m.conversationId = t ∧
      (∀ r ∈ db.service.messages.rows, r.id ≠ m.id) ∧ !isCommentNonce m.nonce) = [] := by
    refine List.filter_eq_nil_iff.mpr fun m hm hp => ?_
    exact (of_decide_eq_true hp).2.1 m hm rfl
  have hnew : ((added o db actor body).map (row o actor)).filter (fun m => m.conversationId = t ∧
      (∀ r ∈ db.service.messages.rows, r.id ≠ m.id) ∧ !isCommentNonce m.nonce) =
      ((jobs o db actor body).filter (isCopy t)).map fun job => row o actor (job.1.call o db body job.2) := by
    rw [added_eq, List.map_map, List.filter_map]
    refine congrArg _ (List.filter_congr fun job hjob => ?_)
    have hnonce : (row o actor (job.1.call o db body job.2)).nonce = some (jobKey o db body job) := rfl
    have htarget : (row o actor (job.1.call o db body job.2)).conversationId = job.1.target :=
      call_target job.1 job.2
    have hlt := (mem_zipIdx_items (mem_jobs hjob)).2.1
    have hid : ∀ r ∈ db.service.messages.rows, r.id ≠ (row o actor (job.1.call o db body job.2)).id := by
      intro r hr
      have hmessage : (row o actor (job.1.call o db body job.2)).id = o.newId (2 * job.2) :=
        call_messageId job.1 job.2
      rw [hmessage]
      exact hfresh.ids _ (by omega) r hr
    unfold isCopy
    refine decide_eq_decide.mpr ?_
    dsimp only [Function.comp_apply]
    rw [htarget, hnonce, isComment_jobKey, and_iff_right hid]
    simp
  have hrows : db'.service.messages.rows =
      ((added o db actor body).map (row o actor)).reverse ++ db.service.messages.rows := hsent.rows
  unfold gained
  rw [hrows, List.filter_append, hold, List.append_nil, List.filter_reverse, List.reverse_reverse, hnew]

lemma filter_items : (items db actor body).filter (fun item => item.target = t ∧ item.source.isSome) =
    (body.toConversationIds.filter (· = t)).flatMap fun _ =>
      (ordered db actor body).map fun source => ⟨t, some source⟩ := by
  unfold items
  induction body.toConversationIds with
  | nil => rfl
  | cons t' rest ih =>
    have hcomments : (((comments body).map fun _ => (⟨t', none⟩ : Item)).filter fun item =>
        item.target = t ∧ item.source.isSome) = [] := by
      refine List.filter_eq_nil_iff.mpr fun item hitem hp => ?_
      obtain ⟨-, -, rfl⟩ := List.mem_map.mp hitem
      cases (of_decide_eq_true hp).2
    rw [List.flatMap_cons, List.filter_append, ih]
    by_cases ht : t' = t
    · subst ht
      rw [List.filter_cons_of_pos (by simp), List.flatMap_cons]
      refine congrArg (· ++ _) ?_
      unfold itemsOf
      rw [List.filter_append, hcomments, List.append_nil]
      refine List.filter_eq_self.mpr fun item hitem => ?_
      obtain ⟨-, -, rfl⟩ := List.mem_map.mp hitem
      simp
    · rw [List.filter_cons_of_neg (by simpa using ht)]
      refine (congrArg (· ++ _) (List.filter_eq_nil_iff.mpr fun item hitem hp => ?_)).trans (List.nil_append _)
      exact ht ((target_of_mem_itemsOf hitem).symm.trans (of_decide_eq_true hp).1)

end Jobs

/-! ## Delivery -/

section Delivery
variable {o : Outside} {db db' : Database} {actor : Uuid} {body : ForwardBody} {t : Uuid} {ids : List Uuid}

lemma ordered_ids (h : Entitled o db actor body) :
    (ordered db actor body).map Message.id = body.messageIds := by
  unfold ordered
  rw [List.map_filterMap]
  refine (List.filterMap_congr fun id hid => ?_).trans List.filterMap_some
  obtain ⟨m, hm, rfl, hdeleted, hhidden, -⟩ := h.sources id hid
  have hin : m ∈ sources db actor body :=
    List.mem_filter.mpr ⟨hm, decide_eq_true ⟨hid, Option.isNone_iff_eq_none.mpr hdeleted, hhidden⟩⟩
  cases hfind : (sources db actor body).find? fun r => r.id = m.id with
  | none => exact absurd (decide_eq_true rfl) (List.find?_eq_none.mp hfind m hin)
  | some r =>
    have hr : r.id = m.id := of_decide_eq_true (@List.find?_some _ (fun r : Message => decide (r.id = m.id)) _ _ hfind)
    rw [Option.map_some, hr]

lemma readable_ok {list : List Uuid} : readable o list = .ok () ↔
    ∀ c ∈ list, (o.context c).requirePermission Permissions.Permission.readHistory = .ok () := by
  induction list with
  | nil => exact iff_of_true rfl (List.forall_mem_nil _)
  | cons c rest ih =>
    rw [readable, bind_eq_ok, Permissions.exists_unit, ih, List.forall_mem_cons]

lemma forward_eq (h : Entitled o db actor body) (hallowed : o.limited = none) :
    forward o db actor body = sendTargets o db actor body 0 db body.toConversationIds := by
  have hsources : sources db actor body ≠ [] := by
    obtain ⟨id, hid⟩ := List.exists_mem_of_ne_nil _ h.named
    obtain ⟨m, hm, rfl, hdeleted, hhidden, -⟩ := h.sources id hid
    exact List.ne_nil_of_mem (List.mem_filter.mpr ⟨hm, decide_eq_true
      ⟨hid, Option.isNone_iff_eq_none.mpr hdeleted, hhidden⟩⟩)
  have hread : readable o ((sources db actor body).map Message.conversationId).eraseDups = .ok () := by
    refine readable_ok.mpr fun c hc => ?_
    obtain ⟨m, hm, rfl⟩ := List.mem_map.mp (List.mem_eraseDups.mp hc)
    obtain ⟨hm, hp⟩ := List.mem_filter.mp hm
    obtain ⟨m', hm', hid, -, -, hperm⟩ := h.sources m.id (of_decide_eq_true hp).1
    obtain rfl := List.inj_on_of_nodup_map db.service.messages.nodup hm' hm hid
    exact hperm
  unfold forward
  rw [hallowed]
  dsimp only
  rw [if_neg hsources, hread]
  rfl

lemma copies_eq (ht : t ∈ body.toConversationIds)
    (hunused : ∀ id ∈ body.messageIds, ∀ t ∈ body.toConversationIds,
      forwardNonce id t ∉ used actor db.service.messages.rows)
    (hapart : ∀ id ∈ body.messageIds, ∀ t ∈ body.toConversationIds, ∀ id' ∈ body.messageIds,
      ∀ t' ∈ body.toConversationIds, forwardNonce id t = forwardNonce id' t' → id = id' ∧ t = t') :
    ((jobs o db actor body).filter (isCopy t)).map Prod.fst =
      (distinctSources db actor body).map fun source => ⟨t, some source⟩ := by
  have hid : ∀ job ∈ (items db actor body).zipIdx, isCopy t job = true → job.1.sourceId ∈ body.messageIds := by
    intro job hjob hcopy
    obtain ⟨source, hsource, hid, -⟩ := sourceId_mem hjob hcopy
    exact hid ▸ (mem_ordered hsource).2
  have hfirsts : (jobs o db actor body).filter (isCopy t) =
      firsts (Item.sourceId ∘ Prod.fst) [] ((items db actor body).zipIdx.filter (isCopy t)) := by
    refine firsts_filter (fun job hjob hcopy => ?_) (fun job hjob job' hjob' hcopy hcopy' => ?_)
      fun job hjob job' hjob' hcopy hcopy' he => ?_
    · rw [jobKey_isCopy hcopy]
      exact iff_of_false (hunused _ (hid job hjob hcopy) t ht) List.not_mem_nil
    · rw [jobKey_isCopy hcopy, jobKey_isCopy hcopy']
      constructor
      · exact fun he => (hapart _ (hid job hjob hcopy) t ht _ (hid job' hjob' hcopy') t ht he).1
      · exact fun he => congrArg (forwardNonce · t) he
    · rw [jobKey_isCopy hcopy] at he
      cases hsource : job'.1.source with
      | none =>
        have hcomment := @isComment_jobKey o db body job'
        rw [← he, isComment_forwardNonce, hsource] at hcomment
        cases hcomment
      | some source =>
        obtain ⟨ht', -, hsources⟩ := mem_zipIdx_items hjob'
        rw [jobKey_some hsource] at he
        have htarget := (hapart _ (hid job hjob hcopy) t ht _ (mem_ordered (hsources source hsource)).2 _ ht' he).2
        rw [isCopy, hsource] at hcopy'
        simp [htarget] at hcopy'
  have hitems : ((items db actor body).zipIdx.filter (isCopy t)).map Prod.fst =
      (body.toConversationIds.filter (· = t)).flatMap fun _ =>
        (ordered db actor body).map fun source => ⟨t, some source⟩ := by
    rw [← filter_items, ← List.zipIdx_map_fst 0 (items db actor body), List.filter_map,
      List.zipIdx_map_fst 0 (items db actor body)]
    rfl
  have hne : body.toConversationIds.filter (· = t) ≠ [] :=
    List.ne_nil_of_mem (List.mem_filter.mpr ⟨ht, by simp⟩)
  rw [hfirsts, ← firsts_map, hitems, firsts_flatMap _ hne, firsts_map]
  rfl

lemma copied_all (hlen : ((jobs o db actor body).filter (isCopy t)).length =
      (distinctSources db actor body).length) {source : Message} (hs : source ∈ ordered db actor body) :
    ∃ job ∈ jobs o db actor body, isCopy t job = true ∧ job.1.sourceId = source.id := by
  let copied := ((jobs o db actor body).filter (isCopy t)).map fun job => job.1.sourceId
  have hnodup : copied.Nodup := by
    refine List.Nodup.of_map (forwardNonce · t) ?_
    have hkeys : copied.map (forwardNonce · t) =
        ((jobs o db actor body).filter (isCopy t)).map (jobKey o db body) := by
      rw [List.map_map]
      refine List.map_congr_left fun job hjob => ?_
      exact (jobKey_isCopy (List.mem_filter.mp hjob).2).symm
    rw [hkeys]
    exact firsts_nodup.sublist (List.filter_sublist.map _)
  have hsub : copied ⊆ (distinctSources db actor body).map Message.id := by
    intro id hid
    obtain ⟨job, hjob, rfl⟩ := List.mem_map.mp hid
    obtain ⟨hjob, hcopy⟩ := List.mem_filter.mp hjob
    obtain ⟨m, hm, hid, -⟩ := sourceId_mem (mem_jobs hjob) hcopy
    obtain ⟨d, hd, hd'⟩ : ∃ d ∈ distinctSources db actor body, d.id = m.id :=
      exists_mem_firsts hm List.not_mem_nil
    exact List.mem_map.mpr ⟨d, hd, hd'.trans hid⟩
  have hperm := (List.subperm_of_subset hnodup hsub).perm_of_length_le (by
    simp only [copied, List.length_map]
    exact hlen.ge)
  obtain ⟨d, hd, hd'⟩ : ∃ d ∈ distinctSources db actor body, d.id = source.id :=
    exists_mem_firsts hs List.not_mem_nil
  have hin : source.id ∈ copied := hperm.mem_iff.mpr (hd' ▸ List.mem_map_of_mem hd)
  obtain ⟨job, hjob, hid⟩ := List.mem_map.mp hin
  obtain ⟨hjob, hcopy⟩ := List.mem_filter.mp hjob
  exact ⟨job, hjob, hcopy, hid⟩

lemma copies_iff {source : Message} {n : ℕ}
    (hsent : Sent o actor db (calls o db body 0 (items db actor body)) db' ids)
    (hjob : (⟨t, some source⟩, n) ∈ jobs o db actor body) :
    Copies db db' source (row o actor (Item.call o db body ⟨t, some source⟩ n)) ↔ Verbatim o source t := by
  have hadded : Item.call o db body ⟨t, some source⟩ n ∈ added o db actor body := by
    rw [added_eq]
    exact List.mem_map.mpr ⟨_, hjob, rfl⟩
  have hattachments := hsent.attachments _ hadded
  exact ⟨fun h => ⟨h.content, h.entities⟩, fun h => ⟨rfl, h.1, h.2, hattachments⟩⟩

lemma permissionForType_copiedType (type : MessageType) :
    permissionForType (copiedType type) = permissionForType type := by
  cases type <;> rfl

lemma target_of_nonce (hfresh : Fresh o db actor body)
    (hapart : ∀ id ∈ body.messageIds, ∀ t ∈ body.toConversationIds, ∀ id' ∈ body.messageIds,
      ∀ t' ∈ body.toConversationIds, forwardNonce id t = forwardNonce id' t' → id = id' ∧ t = t')
    {job job' : Item × ℕ} (h : job ∈ (items db actor body).zipIdx) (h' : job' ∈ (items db actor body).zipIdx)
    (he : jobKey o db body job = jobKey o db body job') : job.1.target = job'.1.target := by
  cases hsource : job.1.source with
  | none => rw [comment_unique hfresh h h' hsource he]
  | some source =>
    cases hsource' : job'.1.source with
    | none => rw [comment_unique hfresh h' h hsource' he.symm]
    | some source' =>
      obtain ⟨ht, -, hs⟩ := mem_zipIdx_items h
      obtain ⟨ht', -, hs'⟩ := mem_zipIdx_items h'
      rw [jobKey_some hsource, jobKey_some hsource'] at he
      exact (hapart _ (mem_ordered (hs source hsource)).2 _ ht _ (mem_ordered (hs' source' hsource')).2 _ ht' he).2

lemma forall₂_copies {R : Message → Message → Prop} {f : Item × ℕ → Message} {list : List (Item × ℕ)}
    {sources : List Message} (h : list.map Prod.fst = sources.map fun source => ⟨t, some source⟩) :
    List.Forall₂ R sources (list.map f) ↔
      ∀ source n, (⟨t, some source⟩, n) ∈ list → R source (f (⟨t, some source⟩, n)) := by
  induction list generalizing sources with
  | nil =>
    cases sources with
    | nil => exact iff_of_true .nil fun _ _ hin => absurd hin List.not_mem_nil
    | cons source rest => cases h
  | cons job list ih =>
    cases sources with
    | nil => cases h
    | cons source rest =>
      obtain ⟨item, k⟩ := job
      obtain ⟨rfl, hrest⟩ := List.cons.inj h
      rw [List.map_cons, List.forall₂_cons, ih hrest]
      constructor
      · rintro ⟨hfirst, hall⟩ s n hin
        rcases List.mem_cons.mp hin with he | hin
        · cases he
          exact hfirst
        · exact hall s n hin
      · intro hall
        exact ⟨hall source k List.mem_cons_self, fun s n hin => hall s n (List.mem_cons_of_mem _ hin)⟩

end Delivery

section Equivalence
variable {o : Outside} {db db' : Database} {actor : Uuid} {body : ForwardBody}

lemma Deliverable.admitted (h : Deliverable o db actor body) (hin : Entitled o db actor body) :
    ∀ c ∈ added o db actor body, Admitted o actor c := by
  intro c hc
  have hmentions := h.mentions c hc
  rw [added_eq] at hc
  obtain ⟨job, hjob, rfl⟩ := List.mem_map.mp hc
  obtain ⟨ht, -, hsources⟩ := mem_zipIdx_items (mem_jobs hjob)
  refine ⟨?_, ?_, hmentions⟩
  · rw [call_target]
    cases hsource : job.1.source with
    | none =>
      have hcomments : comments body ≠ [] := by
        obtain ⟨t, -, hitem⟩ := List.mem_flatMap.mp (List.fst_mem_of_mem_zipIdx (mem_jobs hjob))
        rcases List.mem_append.mp hitem with hitem | hitem
        · obtain ⟨m, -, he⟩ := List.mem_map.mp hitem
          rw [← he] at hsource
          cases hsource
        · obtain ⟨text, htext, -⟩ := List.mem_map.mp hitem
          exact List.ne_nil_of_mem htext
      have htype : (job.1.call o db body job.2).input.type = .text := by
        unfold Item.call
        rw [hsource]
        rfl
      rw [htype]
      exact h.comment hcomments _ ht
    | some source =>
      have htype : (job.1.call o db body job.2).input.type = copiedType source.type := by
        unfold Item.call
        rw [hsource]
        rfl
      obtain ⟨hm, hid⟩ := mem_ordered (hsources source hsource)
      rw [htype, permissionForType_copiedType]
      exact hin.targets source hm hid _ ht
  · rw [call_target]
    exact h.forum _ ht

lemma Deliverable.delivers (h : Deliverable o db actor body) (hin : Entitled o db actor body)
    (hfresh : Fresh o db actor body) : Delivers o db actor body := by
  have hnew := new_calls hfresh
  have hok : ∃ x, sendAll o actor db (calls o db body 0 (items db actor body)) = .ok x :=
    (sendAll_ok hnew).mpr ⟨fun c hc => ⟨h.admitted hin c hc, h.fit c hc⟩, h.paced⟩
  obtain ⟨⟨db', ids⟩, hsendAll⟩ := hok
  have hsent := sendAll_sent hnew hsendAll
  refine ⟨db', grouped db actor body body.toConversationIds ids, ?_, fun t ht => ?_, fun r hr id hid => ?_⟩
  · rw [forward_eq hin h.allowed, sendTargets_eq]
    unfold items at hsendAll
    rw [hsendAll]
  · rw [gained_eq hfresh hsent]
    refine (forall₂_copies (copies_eq ht h.unused h.apart)).mpr fun source n hjob => ?_
    obtain ⟨hjob, hcopy⟩ := List.mem_filter.mp hjob
    have hsource : source ∈ distinctSources db actor body := by
      have hmap : (⟨t, some source⟩ : Item) ∈ ((jobs o db actor body).filter (isCopy t)).map Prod.fst :=
        List.mem_map.mpr ⟨_, List.mem_filter.mpr ⟨hjob, hcopy⟩, rfl⟩
      rw [copies_eq ht h.unused h.apart] at hmap
      obtain ⟨s, hs, he⟩ := List.mem_map.mp hmap
      cases he
      exact hs
    exact (copies_iff hsent hjob).mpr (h.verbatim source hsource t ht)
  · obtain ⟨c, hc, ht, m, hm, hmid, hnames⟩ := mem_grouped hsent.ids hr hid
    obtain ⟨item, n, hjob, rfl⟩ := mem_calls hc
    obtain ⟨hsender, hnonce⟩ := of_decide_eq_true hnames
    refine ⟨m, hm, hmid, ?_⟩
    rw [hsent.rows] at hm
    rcases List.mem_append.mp hm with hm | hm
    · obtain ⟨c', hc', rfl⟩ := List.mem_map.mp (List.mem_reverse.mp hm)
      have hc' : c' ∈ added o db actor body := hc'
      rw [added_eq] at hc'
      obtain ⟨job, hjob', rfl⟩ := List.mem_map.mp hc'
      have hkey : jobKey o db body job = jobKey o db body (item, n) := Option.some.inj hnonce
      have htarget := target_of_nonce hfresh h.apart (mem_jobs hjob') hjob hkey
      rw [call_target] at ht
      change (job.1.call o db body job.2).target = r.1
      rw [call_target, htarget]
      exact ht
    · -- nobody had used the nonce
      refine absurd (mem_used.mpr ⟨m, hm, hsender, hnonce⟩) ?_
      cases hsource : item.source with
      | none => exact comment_unused hfresh hjob hsource
      | some source =>
        obtain ⟨ht', -, hs⟩ := mem_zipIdx_items hjob
        change jobKey o db body (item, n) ∉ _
        rw [jobKey_some hsource]
        exact h.unused _ (mem_ordered (hs source hsource)).2 _ ht'

lemma Delivers.deliverable (h : Delivers o db actor body) (hin : Entitled o db actor body)
    (hfresh : Fresh o db actor body) : Deliverable o db actor body := by
  obtain ⟨db', forwarded, hforward, hgained, -⟩ := h
  have hallowed : o.limited = none := by
    unfold forward at hforward
    cases hl : o.limited with
    | none => rfl
    | some e =>
      rw [hl] at hforward
      cases hforward
  have hnew := new_calls (o := o) hfresh
  obtain ⟨ids, hsendAll⟩ : ∃ ids, sendAll o actor db (calls o db body 0 (items db actor body)) = .ok (db', ids) := by
    rw [forward_eq hin hallowed, sendTargets_eq] at hforward
    unfold items
    cases hs : sendAll o actor db
      (calls o db body 0 (body.toConversationIds.flatMap (itemsOf db actor body))) with
    | error e =>
      rw [hs] at hforward
      cases hforward
    | ok x =>
      rw [hs] at hforward
      obtain ⟨rfl, -⟩ := Prod.mk.inj (Except.ok.inj hforward)
      exact ⟨x.2, rfl⟩
  have hsent := sendAll_sent hnew hsendAll
  obtain ⟨hall, hpaced⟩ := (sendAll_ok hnew).mp ⟨_, hsendAll⟩
  -- every source has a send of its own to every target
  have hcopied : ∀ id ∈ body.messageIds, ∀ t ∈ body.toConversationIds,
      ∃ job ∈ jobs o db actor body, isCopy t job = true ∧ job.1.sourceId = id := by
    intro id hid t ht
    rw [← ordered_ids hin] at hid
    obtain ⟨source, hsource, rfl⟩ := List.mem_map.mp hid
    have hlen := (hgained t ht).length_eq
    rw [gained_eq hfresh hsent, List.length_map] at hlen
    exact copied_all hlen.symm hsource
  have hunused : ∀ id ∈ body.messageIds, ∀ t ∈ body.toConversationIds,
      forwardNonce id t ∉ used actor db.service.messages.rows := by
    intro id hid t ht
    obtain ⟨job, hjob, hcopy, rfl⟩ := hcopied id hid t ht
    rw [← @jobKey_isCopy o db body _ _ hcopy]
    exact unused_of_mem_firsts hjob
  have hapart : ∀ id ∈ body.messageIds, ∀ t ∈ body.toConversationIds, ∀ id' ∈ body.messageIds,
      ∀ t' ∈ body.toConversationIds, forwardNonce id t = forwardNonce id' t' → id = id' ∧ t = t' := by
    intro id hid t ht id' hid' t' ht' he
    obtain ⟨job, hjob, hcopy, rfl⟩ := hcopied id hid t ht
    obtain ⟨job', hjob', hcopy', rfl⟩ := hcopied id' hid' t' ht'
    rw [← @jobKey_isCopy o db body _ _ hcopy,
      ← @jobKey_isCopy o db body _ _ hcopy'] at he
    obtain rfl := firsts_inj hjob hjob' he
    exact ⟨rfl, (of_decide_eq_true hcopy).1.symm.trans (of_decide_eq_true hcopy').1⟩
  have hadded : ∀ job ∈ jobs o db actor body, job.1.call o db body job.2 ∈ added o db actor body := by
    intro job hjob
    rw [added_eq]
    exact List.mem_map.mpr ⟨job, hjob, rfl⟩
  constructor
  · exact hallowed
  · exact hunused
  · exact hapart
  · intro t ht
    obtain ⟨id, hid⟩ := List.exists_mem_of_ne_nil _ hin.named
    obtain ⟨job, hjob, hcopy, -⟩ := hcopied id hid t ht
    have hforum := (hall _ (hadded job hjob)).1.forum
    rwa [call_target, (of_decide_eq_true hcopy).1] at hforum
  · intro hcomments t ht
    obtain ⟨text, htext⟩ := List.exists_mem_of_ne_nil _ hcomments
    have hitem : (⟨t, none⟩ : Item) ∈ items db actor body :=
      List.mem_flatMap.mpr ⟨t, ht, List.mem_append_right _ (List.mem_map.mpr ⟨text, htext, rfl⟩)⟩
    rw [← List.zipIdx_map_fst 0 (items db actor body)] at hitem
    obtain ⟨⟨item, n⟩, hjob, rfl⟩ := List.mem_map.mp hitem
    obtain ⟨job, hjob', hkey⟩ : ∃ job ∈ firsts (jobKey o db body) (used actor db.service.messages.rows) _,
        jobKey o db body job = jobKey o db body (⟨t, none⟩, n) :=
      exists_mem_firsts hjob (comment_unused hfresh hjob rfl)
    obtain rfl := comment_unique hfresh hjob (mem_jobs hjob') rfl hkey.symm
    exact (hall _ (hadded _ hjob')).1.permission
  · exact fun c hc => (hall c hc).1.mentions
  · exact fun c hc => (hall c hc).2
  · exact hpaced
  · intro source hsource t ht
    have hcopies := hgained t ht
    rw [gained_eq hfresh hsent, forall₂_copies (copies_eq ht hunused hapart)] at hcopies
    have hmap : (⟨t, some source⟩ : Item) ∈ ((jobs o db actor body).filter (isCopy t)).map Prod.fst := by
      rw [copies_eq ht hunused hapart]
      exact List.mem_map.mpr ⟨source, hsource, rfl⟩
    obtain ⟨⟨item, n⟩, hjob, rfl⟩ := List.mem_map.mp hmap
    exact (copies_iff hsent (List.mem_filter.mp hjob).1).mp (hcopies source n hjob)

/-- Forwarding delivers exactly where every nonce is new and no send is refused or rewritten. -/
theorem delivers_iff (hin : Entitled o db actor body) (hfresh : Fresh o db actor body) :
    Delivers o db actor body ↔ Deliverable o db actor body :=
  ⟨fun h => h.deliverable hin hfresh, fun h => h.delivers hin hfresh⟩

end Equivalence

/-! ## Forwarded again -/

namespace Sample

def source : Message where
  id := 1
  conversationId := 10
  senderId := 7
  type := .text
  content := some [104, 105]
  title := none
  entities := none
  nonce := none
  cardKey := none
  embeds := []
  components := []
  expiresAt := none
  createdAt := 0
  editedAt := none
  deletedAt := none
  deletedById := none

def old : Message :=
  { source with id := 2, conversationId := 20, senderId := 8, nonce := some (forwardNonce 1 20), deletedAt := some 5 }

def tables (service : MessageService.Database) : Database where
  service := service
  columns _ := ⟨none, none, none, none, none, false⟩
  attachments _ := []
  unique _ := List.nodup_nil
  media := .empty
  messageDeletions := []

def before : Database := tables ⟨⟨[source], by decide⟩, by simp, by simp⟩

def again : Database :=
  tables ⟨⟨[old, source], by decide⟩, by simp [Message.SharesNonce, old, source],
    by simp [Message.SharesCard, old, source]⟩

def context : Context where
  isBoard := false
  isForum := false
  disappearingSeconds := 0
  permissions := some (Permissions.Permission.readHistory ||| Permissions.Permission.sendMessages)
  isBot := false
  badge := none
  refusal := none
  clock := 0

def outside : Outside where
  wordish _ := false
  context _ := context
  slowModeSeconds _ := 0
  account := none
  limited := none
  newId n := 100 + n
  clock n := 10 + n

def request : ForwardBody := ⟨[1], [20], false, none⟩

lemma before_entitled : Entitled outside before 8 request where
  named := by decide
  sources id hid := by
    obtain rfl := List.mem_singleton.mp hid
    exact ⟨source, List.mem_singleton_self _, rfl, rfl, List.not_mem_nil, rfl⟩
  targets m hm _ t _ := by
    obtain rfl := List.mem_singleton.mp hm
    rfl

lemma again_entitled : Entitled outside again 8 request where
  named := by decide
  sources id hid := by
    obtain rfl := List.mem_singleton.mp hid
    exact ⟨source, List.mem_cons_of_mem _ (List.mem_singleton_self _), rfl, rfl, List.not_mem_nil, rfl⟩
  targets m hm _ t _ := by
    rcases List.mem_cons.mp hm with rfl | hm
    · rfl
    · obtain rfl := List.mem_singleton.mp hm
      rfl

lemma before_items : items before 8 request = [⟨20, some source⟩] := rfl

lemma again_items : items again 8 request = [⟨20, some source⟩] := rfl

lemma newId_distinct : ∀ n < 2, ∀ n' < 2, uuidText (outside.newId n) = uuidText (outside.newId n') → n = n' := by
  decide

lemma before_fresh : Fresh outside before 8 request where
  distinct := by
    rw [before_items]
    exact newId_distinct
  ids n _ m hm := by
    obtain rfl := List.mem_singleton.mp hm
    exact Nat.ne_of_lt (Nat.lt_of_lt_of_le (by decide) (Nat.le_add_right 100 n))
  nonces n _ m hm := by
    obtain rfl := List.mem_singleton.mp hm
    exact nofun

lemma again_fresh : Fresh outside again 8 request where
  distinct := by
    rw [again_items]
    exact newId_distinct
  ids n _ m hm := by
    have hid : m.id < 100 := by
      rcases List.mem_cons.mp hm with rfl | hm
      · decide
      · obtain rfl := List.mem_singleton.mp hm
        decide
    exact Nat.ne_of_lt (Nat.lt_of_lt_of_le hid (Nat.le_add_right 100 n))
  nonces n _ m hm he := by
    have hcomment := isComment_commentNonce (outside.newId n)
    rw [← he] at hcomment
    rcases List.mem_cons.mp hm with rfl | hm
    · rw [show old.nonce = some (forwardNonce 1 20) from rfl, isComment_forwardNonce] at hcomment
      cases hcomment
    · obtain rfl := List.mem_singleton.mp hm
      cases hcomment

lemma before_added {c : Call} (h : c ∈ added outside before 8 request) :
    c = Item.call outside before request ⟨20, some source⟩ 0 :=
  List.mem_singleton.mp (@mem_of_mem_firsts _ _ _ Call.nonce (used 8 before.service.messages.rows) _ _ h)

lemma before_deliverable : Deliverable outside before 8 request where
  allowed := rfl
  unused _ _ _ _ := by
    rw [mem_used]
    rintro ⟨m, hm, hsender, -⟩
    obtain rfl := List.mem_singleton.mp hm
    cases hsender
  apart id hid t ht id' hid' t' ht' _ := by
    obtain rfl := List.mem_singleton.mp hid
    obtain rfl := List.mem_singleton.mp ht
    obtain rfl := List.mem_singleton.mp hid'
    obtain rfl := List.mem_singleton.mp ht'
    exact ⟨rfl, rfl⟩
  forum _ _ := rfl
  comment h := absurd rfl h
  mentions c hc h := by
    obtain rfl := before_added hc
    cases h
  fit c hc := by
    obtain rfl := before_added hc
    exact ⟨by decide, List.forall_mem_nil _, nofun, rfl, nofun⟩
  paced := by
    refine ⟨fun c hc => Or.inl rfl, ?_⟩
    exact List.pairwise_of_forall fun _ _ _ => Or.inl rfl
  verbatim s hs t _ := by
    have hs : s ∈ [source] := mem_of_mem_firsts hs
    obtain rfl := List.mem_singleton.mp hs
    exact ⟨rfl, rfl⟩

end Sample

open Sample in
/-- A message that has not been forwarded before is delivered. -/
theorem delivers_before : Delivers outside before 8 request :=
  (delivers_iff before_entitled before_fresh).mpr before_deliverable

open Sample in
/-- One whose copy has been deleted is not forwarded again. -/
theorem deleted_copy_not_replaced :
    Entitled outside again 8 request ∧ Fresh outside again 8 request ∧ ¬ Delivers outside again 8 request := by
  refine ⟨again_entitled, again_fresh, fun h => ?_⟩
  have hunused := (h.deliverable again_entitled again_fresh).unused 1 (by decide) 20 (by decide)
  exact hunused (mem_used.mpr ⟨old, List.mem_cons_self, rfl, rfl⟩)

end Yappy.Forwarding
