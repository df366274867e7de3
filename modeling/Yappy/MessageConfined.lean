import Yappy.MessageRoutes

/-!
# What a path confines

A request names a conversation and a message. Exactly when it keeps to a message of that
conversation, or to one whose own conversation lets its caller in.
-/
namespace Yappy.MessageRoutes

open MessageService (Message)
open Pages (Query)
open Permissions (AppError MemberContext Uuid has)
open Reads (PinnedMessage)

structure Attached where
  message : Option Message
  columns : Columns
  reactions : List Reaction
  poll : Option Poll
  envelopes : List Envelope
  previews : List (Uuid × String)
  pins : List PinnedMessage
  revisions : List Revision

namespace Database

def attached (db : Database) (m : Uuid) : Attached where
  message := db.service.messages.find m
  columns := db.columns m
  reactions := db.reactions.rows.filter fun r => r.messageId = m
  poll := db.polls.find m
  envelopes := db.envelopes.rows.filter fun e => e.messageId = m
  previews := db.previews.filter fun p => p.1 = m
  pins := db.pinnedMessages.rows.filter fun p => p.messageId = m
  revisions := db.revisions.filter fun r => r.messageId = m

/-- Two states that differ in nothing but what is attached to one message, which stays where it is,
whose it is and under the nonce it was sent with. -/
structure Apart (m : Uuid) (db db' : Database) : Prop where
  tables : db'.tables = db.tables
  place : (db'.service.messages.find m).map (fun x => (x.conversationId, x.senderId, x.nonce)) =
    (db.service.messages.find m).map fun x => (x.conversationId, x.senderId, x.nonce)
  messages : (db'.service.messages.rows.filter fun x => x.id ≠ m) =
    db.service.messages.rows.filter fun x => x.id ≠ m
  columns : ∀ id, id ≠ m → db'.columns id = db.columns id
  reactions : (db'.reactions.rows.filter fun r => r.messageId ≠ m) =
    db.reactions.rows.filter fun r => r.messageId ≠ m
  polls : (db'.polls.rows.filter fun p => p.messageId ≠ m) = db.polls.rows.filter fun p => p.messageId ≠ m
  envelopes : (db'.envelopes.rows.filter fun e => e.messageId ≠ m) =
    db.envelopes.rows.filter fun e => e.messageId ≠ m
  previews : (db'.previews.filter fun p => p.1 ≠ m) = db.previews.filter fun p => p.1 ≠ m
  pins : (db'.pinnedMessages.rows.filter fun p => p.messageId ≠ m) =
    db.pinnedMessages.rows.filter fun p => p.messageId ≠ m
  revisions : (db'.revisions.filter fun r => r.messageId ≠ m) = db.revisions.filter fun r => r.messageId ≠ m
  messageDeletions : db'.messageDeletions = db.messageDeletions
  savedMessages : db'.savedMessages = db.savedMessages
  isBoard : db'.isBoard = db.isBoard
  isForum : db'.isForum = db.isForum
  badge : db'.badge = db.badge
  isStaff : db'.isStaff = db.isStaff

/-- The answer does not depend on what is attached to the message, and nothing of it changes. -/
structure Confined (db : Database) (out : Outside) (req : Request) : Prop where
  answer : ∀ db', Apart req.messageId db db' →
    (db'.handle out req).map Prod.fst = (db.handle out req).map Prod.fst
  attached : ∀ answer after, db.handle out req = .ok (answer, after) →
    after.attached req.messageId = db.attached req.messageId

end Database

def Route.permission : Route → Option ℕ
  | .get | .envelope | .thread _ _ => some Permissions.Permission.readHistory
  | .edit _ => some Permissions.Permission.editOwnMessages
  | .react _ => some Permissions.Permission.addReactions
  | .vote _ => some Permissions.Permission.sendPolls
  | .pin | .unpin => some Permissions.Permission.pinMessages
  | _ => none

namespace Database
variable (db : Database) (req : Request)

def Member (conversationId : Uuid) : Prop := ∃ ctx, db.requireMember req conversationId = .ok ctx

def Allowed (conversationId : Uuid) (permission : ℕ) : Prop :=
  ∃ ctx, db.requirePermission req conversationId permission = .ok ctx

/-- The caller passes the check of the handler on the message's own conversation. -/
def Permitted (row : Message) : Prop :=
  ∃ ctx, db.requireMember req row.conversationId = .ok ctx ∧
    (req.route.permission.all fun permission => has ctx.permissions permission) = true ∧
    match req.route with
    | .closePoll => row.senderId = req.actor ∨
        ctx.permissions &&& Permissions.Permission.manageConversation ≠ 0
    | _ => True

/-- Being in a conversation does not let its caller touch a message of another. -/
def Contained (out : Outside) (row : Message) : Prop :=
  row.conversationId ≠ req.conversationId → ¬ db.Permitted req row → db.Confined out req

/-- What keeps a handler that has been sent a message of another conversation away from it. -/
def Careful (row : Message) : Prop :=
  match req.route with
  | .edit _ => False
  | .callback response => response.kind = .update →
      (db.tables.applications.rows.any fun a => a.botUserId = req.actor && a.revokedAt.isNone) = true →
        row.senderId ≠ req.actor
  | .unreact key => db.Member req req.conversationId →
      db.reactions.find (req.messageId, req.actor, key) = none
  | .reactions _ | .closePoll => ¬ db.Member req req.conversationId
  | .vote _ => ¬ db.Allowed req req.conversationId Permissions.Permission.sendPolls
  | .unpin => db.Allowed req req.conversationId Permissions.Permission.pinMessages →
      db.pinnedMessages.find (req.conversationId, req.messageId) = none
  | .thread limit after => db.Allowed req req.conversationId Permissions.Permission.readHistory →
      ∀ x ∈ (db.threadQuery req limit after).run, (db.columns x.id).replyToId = some req.messageId →
        db.notDeletedForViewer req.actor row = false
  | _ => True

/-- `newId` gives an id that nothing has. -/
def Fresh : Prop := ∀ x ∈ db.service.messages.rows, x.id ≠ req.newId ∧
  x.nonce ≠ some (.client ("interaction_" ++ toString req.newId))

end Database

/-! ## States apart -/

section Apart
variable {db db' : Database} {out : Outside} {req : Request} {m : Uuid} {row : Message}

lemma any_eq_filter {α : Type} {p : α → Bool} (l : List α) : l.any p = !(l.filter p).isEmpty := by
  induction l with
  | nil => rfl
  | cons a l ih =>
    rw [List.any_cons, List.filter_cons, ih]
    cases p a <;> rfl

lemma filter_apart {α : Type} {l l' : List α} {key : α → Uuid} {p p' : α → Bool}
    (h : (l'.filter fun x => key x ≠ m) = l.filter fun x => key x ≠ m)
    (hp : ∀ x ∈ l, p x = true → key x ≠ m) (hp' : ∀ x ∈ l', p' x = true → key x ≠ m)
    (hsame : ∀ x, key x ≠ m → p' x = p x) : l'.filter p' = l.filter p := by
  have hsplit : ∀ {l : List α} {p : α → Bool}, (∀ x ∈ l, p x = true → key x ≠ m) →
      l.filter p = (l.filter fun x => key x ≠ m).filter p := by
    intro l p hp
    rw [List.filter_filter]
    refine List.filter_congr fun x hx => ?_
    cases hpx : p x with
    | false => rfl
    | true => simp [hp x hx hpx]
  rw [hsplit hp', hsplit hp, h]
  refine List.filter_congr fun x hx => hsame x ?_
  simpa using (List.mem_filter.mp hx).2

lemma find_apart {ρ : Type} {key : ρ → Uuid} {t t' : KeyedTable key} {id : Uuid}
    (h : (t'.rows.filter fun x => key x ≠ m) = t.rows.filter fun x => key x ≠ m) (hid : id ≠ m) :
    t'.find id = t.find id := by
  have hone : ∀ x, decide (key x = id) = true → key x ≠ m := by
    intro x hx
    rw [of_decide_eq_true hx]
    exact hid
  have hfilter : (t'.rows.filter fun x => key x = id) = t.rows.filter fun x => key x = id :=
    filter_apart h (fun x _ => hone x) (fun x _ => hone x) fun _ _ => rfl
  rw [KeyedTable.filter_key, KeyedTable.filter_key] at hfilter
  cases ht' : t'.find id <;> cases ht : t.find id <;> simp_all

namespace Database

lemma Apart.refl (m : Uuid) (db : Database) : Apart m db db :=
  ⟨rfl, rfl, rfl, fun _ _ => rfl, rfl, rfl, rfl, rfl, rfl, rfl, rfl, rfl, rfl, rfl, rfl, rfl⟩

lemma Apart.stays (h : Apart m db db') (hrow : db.service.messages.find m = some row) :
    ∃ row', db'.service.messages.find m = some row' ∧ row'.conversationId = row.conversationId ∧
      row'.senderId = row.senderId ∧ row'.nonce = row.nonce := by
  have hplace := h.place
  rw [hrow, Option.map_some] at hplace
  obtain ⟨row', hrow', he⟩ := Option.map_eq_some_iff.mp hplace
  simp only [Prod.mk.injEq] at he
  exact ⟨row', hrow', he⟩

lemma Apart.notDeletedForViewer (h : Apart m db db') (viewer : Uuid) :
    db'.notDeletedForViewer viewer = db.notDeletedForViewer viewer := by
  funext x
  unfold Database.notDeletedForViewer
  rw [h.messageDeletions]

lemma Apart.context (h : Apart m db db') (conversationId : Uuid) :
    db'.context out req conversationId = db.context out req conversationId := by
  unfold Database.context
  rw [h.tables, h.isBoard, h.isForum, h.badge]

lemma Apart.hydrateOne (h : Apart m db db') (viewer : Uuid) {x : Message} (hx : x.id ≠ m)
    (hquote : (db.columns x.id).replyToId = some m → ∀ r, db.service.messages.find m = some r →
      db.notDeletedForViewer viewer r = false) :
    db'.hydrateOne viewer x = db.hydrateOne viewer x := by
  have hkeyed : ∀ (id : Uuid), decide (id = x.id) = true → id ≠ m := by
    intro id hid
    rw [of_decide_eq_true hid]
    exact hx
  have hreactions : (db'.reactions.rows.filter fun r => r.messageId = x.id && r.userId = viewer) =
      db.reactions.rows.filter fun r => r.messageId = x.id && r.userId = viewer :=
    filter_apart h.reactions (fun r _ hr => hkeyed _ (Bool.and_eq_true_iff.mp hr).1)
      (fun r _ hr => hkeyed _ (Bool.and_eq_true_iff.mp hr).1) fun _ _ => rfl
  have hcounts : (db'.reactions.rows.filter fun r => r.messageId = x.id) =
      db.reactions.rows.filter fun r => r.messageId = x.id :=
    filter_apart h.reactions (fun r _ hr => hkeyed _ hr) (fun r _ hr => hkeyed _ hr) fun _ _ => rfl
  have hpreviews : (db'.previews.filter fun p => p.1 = x.id) = db.previews.filter fun p => p.1 = x.id :=
    filter_apart h.previews (fun p _ hp => hkeyed _ hp) (fun p _ hp => hkeyed _ hp) fun _ _ => rfl
  have hpins : (db'.pinnedMessages.rows.filter fun p => p.messageId = x.id) =
      db.pinnedMessages.rows.filter fun p => p.messageId = x.id :=
    filter_apart h.pins (fun p _ hp => hkeyed _ hp) (fun p _ hp => hkeyed _ hp) fun _ _ => rfl
  have hpinned : (db'.pinnedMessages.rows.any fun p => p.messageId = x.id) =
      db.pinnedMessages.rows.any fun p => p.messageId = x.id := by
    rw [any_eq_filter, any_eq_filter, hpins]
  have hstub : db'.stub viewer (db.columns x.id).replyToId = db.stub viewer (db.columns x.id).replyToId := by
    unfold Database.stub
    cases hr : (db.columns x.id).replyToId with
    | none => rfl
    | some id =>
      rw [Option.bind_some, Option.bind_some, h.notDeletedForViewer]
      by_cases hid : id = m
      · subst hid
        have hgone : ∀ r : Message, r.id = id → (∃ r, db.service.messages.find id = some r) →
            db.notDeletedForViewer viewer r = false := by
          rintro r hrid ⟨r', hr'⟩
          have hhidden := hquote hr r' hr'
          have hrid' : r'.id = id := KeyedTable.find_key hr'
          unfold Database.notDeletedForViewer at hhidden ⊢
          rw [hrid, ← hrid']
          exact hhidden
        cases hf : db.service.messages.find id with
        | none =>
          have hplace := h.place
          rw [hf, Option.map_none, Option.map_eq_none_iff] at hplace
          rw [hplace]
          rfl
        | some r =>
          obtain ⟨r', hr', -⟩ := h.stays hf
          rw [hr', Option.filter_some, Option.filter_some,
            hgone r' (KeyedTable.find_key hr') ⟨r, hf⟩, hgone r (KeyedTable.find_key hf) ⟨r, hf⟩]
          rfl
      · rw [find_apart h.messages hid]
        cases hf : db.service.messages.find id with
        | none => rfl
        | some r =>
          have hrid : r.id = id := KeyedTable.find_key hf
          rw [Option.filter_some]
          split_ifs
          · rw [Option.map_some, Option.map_some, h.columns r.id (hrid ▸ hid)]
          · rfl
  unfold Database.hydrateOne Database.reactionCounts
  rw [h.columns x.id hx, hstub, hreactions, hcounts, hpreviews, hpinned, find_apart h.polls hx]

lemma Apart.requireMember (h : Apart m db db') (conversationId : Uuid) :
    db'.requireMember req conversationId = db.requireMember req conversationId := by
  unfold Database.requireMember
  rw [h.tables]

lemma Apart.requirePermission (h : Apart m db db') (conversationId : Uuid) (permission : ℕ) :
    db'.requirePermission req conversationId permission =
      db.requirePermission req conversationId permission := by
  unfold Database.requirePermission
  rw [h.tables]

/-! ## Who keeps to the path -/

def Settled (m : Uuid) (db : Database) (call : Database → Except AppError (Answer × Database)) : Prop :=
  (∃ e, ∀ db', Apart m db db' → call db' = .error e) ∨
    ∃ answer, (∀ db', Apart m db db' → ∃ after, call db' = .ok (answer, after)) ∧
      ∀ after, call db = .ok (answer, after) → after.attached m = db.attached m

lemma Settled.confined (h : Settled req.messageId db fun db' => db'.handle out req) :
    db.Confined out req := by
  rcases h with ⟨e, he⟩ | ⟨answer, hanswer, hsame⟩
  · refine ⟨fun db' h => ?_, fun answer after hok => ?_⟩
    · exact congrArg (Except.map Prod.fst) ((he db' h).trans (he db (Apart.refl _ _)).symm)
    · cases (he db (Apart.refl _ _)).symm.trans hok
  · obtain ⟨after, hok⟩ := hanswer db (Apart.refl _ _)
    refine ⟨fun db' h => ?_, fun answer' after' hok' => ?_⟩
    · obtain ⟨after', hok'⟩ := hanswer db' h
      rw [show db'.handle out req = .ok (answer, after') from hok',
        show db.handle out req = .ok (answer, after) from hok]
      rfl
    · obtain ⟨-, rfl⟩ := Prod.mk.inj (Except.ok.inj (hok.symm.trans hok'))
      exact hsame after hok

lemma not_member {conversationId : Uuid} (h : ¬ db.Member req conversationId) :
    ∃ e, db.requireMember req conversationId = .error e := by
  cases hm : db.requireMember req conversationId with
  | error e => exact ⟨e, rfl⟩
  | ok ctx => exact absurd ⟨ctx, hm⟩ h

lemma not_allowed {conversationId : Uuid} {permission : ℕ}
    (h : ¬ db.Allowed req conversationId permission) :
    ∃ e, db.requirePermission req conversationId permission = .error e := by
  cases hm : db.requirePermission req conversationId permission with
  | error e => exact ⟨e, rfl⟩
  | ok ctx => exact absurd ⟨ctx, hm⟩ h

lemma allowed_iff {conversationId : Uuid} {permission : ℕ} :
    db.Allowed req conversationId permission ↔
      ∃ ctx, db.requireMember req conversationId = .ok ctx ∧ has ctx.permissions permission = true := by
  unfold Database.Allowed Database.requirePermission Database.requireMember
  simp only [Permissions.Database.requirePermission_eq_ok, Permissions.Database.requireMember_eq_ok]

section Foreign
variable (hrow : db.service.messages.find req.messageId = some row)
  (hforeign : row.conversationId ≠ req.conversationId)
include hrow hforeign

lemma Apart.foreign (h : Apart req.messageId db db') {p : Message → Bool}
    (hp : ∀ x, p x = true → x.conversationId = req.conversationId) :
    (db'.service.messages.find req.messageId).filter p = none := by
  obtain ⟨row', hrow', hid, -⟩ := h.stays hrow
  rw [hrow', Option.filter_eq_none_iff]
  intro x hx hpx
  obtain rfl := Option.some.inj hx
  exact hforeign (hid.symm.trans (hp _ hpx))

lemma Apart.placed (h : Apart req.messageId db db') (refusal : String) :
    db'.placed req refusal = .error (Permissions.notFound "Message") := by
  unfold Database.placed
  rw [h.foreign hrow hforeign fun x hx => of_decide_eq_true hx]

omit hforeign in
lemma get_refused {e : AppError}
    (he : db.requirePermission req row.conversationId Permissions.Permission.readHistory = .error e) :
    ∃ e, ∀ db', Apart req.messageId db db' → db'.get req req.messageId = .error e := by
  refine ⟨if db.notDeletedForViewer req.actor row then e else Permissions.notFound "Message", fun db' h => ?_⟩
  obtain ⟨row', hrow', hid, -⟩ := h.stays hrow
  have hsame : db'.notDeletedForViewer req.actor row' = db.notDeletedForViewer req.actor row := by
    rw [h.notDeletedForViewer]
    unfold Database.notDeletedForViewer
    rw [KeyedTable.find_key hrow', KeyedTable.find_key hrow]
  unfold Database.get
  rw [hrow', Option.filter_some, hsame]
  split_ifs
  · dsimp only
    rw [hid, h.requirePermission, he]
    rfl
  · rfl

omit hforeign in
lemma remove_refused {forEveryone : Bool} {e : AppError}
    (he : db.requireMember req row.conversationId = .error e) :
    ∃ e, ∀ db', Apart req.messageId db db' → db'.remove out req forEveryone = .error e := by
  have hnone : db.tables.loadMemberContext row.conversationId req.actor req.clock = none := by
    unfold Database.requireMember Permissions.Database.requireMember at he
    cases hl : db.tables.loadMemberContext row.conversationId req.actor req.clock with
    | none => rfl
    | some ctx =>
      rw [hl] at he
      cases he
  refine ⟨Permissions.notFound "Conversation", fun db' h => ?_⟩
  obtain ⟨row', hrow', hid, -⟩ := h.stays hrow
  unfold Database.remove
  rw [hrow']
  dsimp only
  split_ifs
  · unfold MessageService.remove
    rw [hrow']
    dsimp only
    rw [hid, h.context]
    unfold MessageService.Context.requireMember Database.context
    dsimp only
    rw [hnone]
    rfl
  · rw [hid, h.requireMember]
    unfold Database.requireMember Permissions.Database.requireMember
    rw [hnone]
    rfl

lemma thread_rows (limit : ℕ) (after : Option ℕ) (h : Apart req.messageId db db') :
    (db'.threadQuery req limit after).run = (db.threadQuery req limit after).run ∧
      ∀ x ∈ (db.threadQuery req limit after).admitted, x.id ≠ req.messageId := by
  have hmine : ∀ {db₁ : Database}, Apart req.messageId db db₁ → ∀ x ∈ db₁.service.messages.rows,
      x.conversationId = req.conversationId → x.id ≠ req.messageId := by
    intro db₁ h₁ x hx hconv hid
    obtain ⟨row', hrow', hplace, -⟩ := h₁.stays hrow
    have hfind : db₁.service.messages.find req.messageId = some x := KeyedTable.find_eq_some.mpr ⟨hx, hid⟩
    rw [hrow'] at hfind
    obtain rfl := Option.some.inj hfind
    exact hforeign (hplace.symm.trans hconv)
  have hconv : ∀ {db₁ : Database} {x : Message}, (decide (x.conversationId = req.conversationId) &&
      decide ((db₁.columns x.id).threadRootId = some req.messageId) && x.deletedAt.isNone &&
      db₁.notDeletedForViewer req.actor x && after.all fun a => decide (a < (db₁.columns x.id).seq)) = true →
      x.conversationId = req.conversationId := by
    intro db₁ x hx
    simp only [Bool.and_eq_true, decide_eq_true_eq] at hx
    exact hx.1.1.1.1
  have hadmitted : (db'.threadQuery req limit after).admitted = (db.threadQuery req limit after).admitted := by
    refine filter_apart h.messages (fun x hx hp => hmine (Apart.refl _ _) x hx (hconv hp))
      (fun x hx hp => hmine h x hx (hconv hp)) fun x hx => ?_
    rw [h.columns x.id hx, h.notDeletedForViewer]
  have hothers : ∀ x ∈ (db.threadQuery req limit after).admitted, x.id ≠ req.messageId := fun x hx =>
    hmine (Apart.refl _ _) x (List.mem_filter.mp hx).1 (hconv (List.mem_filter.mp hx).2)
  refine ⟨?_, hothers⟩
  have hquery : db'.threadQuery req limit after = ⟨(db.threadQuery req limit after).admitted,
      (db'.threadQuery req limit after).order, limit⟩ := by
    rw [← hadmitted]
    rfl
  rw [hquery]
  refine @Query.run_congr _ _ _ (db.threadQuery req limit after) _ fun x hx => ?_
  unfold Database.threadQuery
  dsimp only
  rw [h.columns x.id (hothers x hx)]

lemma thread_settled {limit : ℕ} {after : Option ℕ}
    (hcareful : db.Allowed req req.conversationId Permissions.Permission.readHistory →
      ∀ x ∈ (db.threadQuery req limit after).run, (db.columns x.id).replyToId = some req.messageId →
        db.notDeletedForViewer req.actor row = false) :
    Settled req.messageId db fun db' => db'.thread req limit after := by
  by_cases hallowed : db.Allowed req req.conversationId Permissions.Permission.readHistory
  · obtain ⟨ctx, hctx⟩ := hallowed
    have hanswer : ∀ db', Apart req.messageId db db' → db'.thread req limit after =
        .ok (.messages ((db.threadQuery req limit after).run.map (db.hydrateOne req.actor))
          ((db.threadQuery req limit after).run.length = limit), db') := by
      intro db' h
      obtain ⟨hrun, hothers⟩ := thread_rows hrow hforeign limit after h
      have hhydrated : (db.threadQuery req limit after).run.map (db'.hydrateOne req.actor) =
          (db.threadQuery req limit after).run.map (db.hydrateOne req.actor) := by
        refine List.map_congr_left fun x hx =>
          h.hydrateOne req.actor (hothers x (Query.mem_of_mem_run hx)) ?_
        intro hquote r hr
        rw [hrow] at hr
        obtain rfl := Option.some.inj hr
        exact hcareful ⟨ctx, hctx⟩ x hx hquote
      unfold Database.thread
      rw [h.requirePermission, hctx]
      dsimp only [bind, Except.bind, pure, Except.pure]
      rw [hrun, hhydrated]
    refine Or.inr ⟨_, fun db' h => ⟨db', hanswer db' h⟩, fun after' hok => ?_⟩
    obtain ⟨-, rfl⟩ := Prod.mk.inj (Except.ok.inj ((hanswer db (Apart.refl _ _)).symm.trans hok))
    rfl
  · obtain ⟨e, he⟩ := not_allowed hallowed
    refine Or.inl ⟨e, fun db' h => ?_⟩
    change db'.thread req limit after = _
    unfold Database.thread
    rw [h.requirePermission, he]
    rfl

end Foreign

/-! ### A bot's reply -/

theorem send_fresh (wordish : Markdown.CodeUnit → Bool) (ctx : MessageService.Context)
    (actorId conversationId messageId : Uuid) (input : MessageService.SendInput)
    (hcard : input.cardKey = none) :
    (∃ e, ∀ service : MessageService.Database,
      (∀ x ∈ service.messages.rows, x.id ≠ messageId ∧ x.nonce ≠ some input.nonce) →
        MessageService.send wordish service ctx actorId conversationId messageId input = .error e) ∨
    ∃ message : Message, message.id = messageId ∧ ∀ service : MessageService.Database,
      (∀ x ∈ service.messages.rows, x.id ≠ messageId ∧ x.nonce ≠ some input.nonce) →
        ∃ service' : MessageService.Database,
          MessageService.send wordish service ctx actorId conversationId messageId input =
            .ok (service', message, true) ∧
          service'.messages.rows = message :: service.messages.rows := by
  have hfirst : ∀ service : MessageService.Database,
      (∀ x ∈ service.messages.rows, x.id ≠ messageId ∧ x.nonce ≠ some input.nonce) →
      (service.first fun m => m.senderId = actorId ∧ m.nonce = some input.nonce) = none := by
    intro service hfresh
    refine List.find?_eq_none.mpr fun x hx => ?_
    simp [(hfresh x hx).2]
  have hinsert : ∀ service : MessageService.Database,
      (∀ x ∈ service.messages.rows, x.id ≠ messageId ∧ x.nonce ≠ some input.nonce) →
      ∃ service' : MessageService.Database,
        service.insert (input.message wordish ctx actorId conversationId messageId) = some service' ∧
        service'.messages.rows =
          input.message wordish ctx actorId conversationId messageId :: service.messages.rows := by
    intro service hfresh
    have hfree : (input.message wordish ctx actorId conversationId messageId).id ∉
          service.messages.rows.map Message.id ∧
        (∀ r ∈ service.messages.rows,
          ¬ (input.message wordish ctx actorId conversationId messageId).SharesNonce r) ∧
        ∀ r ∈ service.messages.rows,
          ¬ (input.message wordish ctx actorId conversationId messageId).SharesCard r := by
      refine ⟨fun hmem => ?_, fun r hr hshares => ?_, fun r hr hshares => ?_⟩
      · obtain ⟨x, hx, hid⟩ := List.mem_map.mp hmem
        exact (hfresh x hx).1 hid
      · exact (hfresh r hr).2 hshares.2.2.symm
      · have hsome := hshares.1
        rw [show (input.message wordish ctx actorId conversationId messageId).cardKey = input.cardKey
          from rfl, hcard] at hsome
        cases hsome
    unfold MessageService.Database.insert
    rw [dif_pos hfree]
    exact ⟨_, rfl, rfl⟩
  cases hallowed : ctx.requirePermission (MessageService.permissionForType input.type) with
  | error e =>
    refine Or.inl ⟨e, fun service hfresh => ?_⟩
    unfold MessageService.send
    rw [hfirst service hfresh]
    dsimp only
    rw [hallowed]
    rfl
  | ok _ =>
  cases htitle : MessageService.checkTitle ctx input with
  | error e =>
    refine Or.inl ⟨e, fun service hfresh => ?_⟩
    unfold MessageService.send
    rw [hfirst service hfresh]
    dsimp only
    rw [hallowed, htitle]
    rfl
  | ok _ =>
  cases hembeds : MessageService.checkEmbeds ctx input.embeds input.components with
  | error e =>
    refine Or.inl ⟨e, fun service hfresh => ?_⟩
    unfold MessageService.send
    rw [hfirst service hfresh]
    dsimp only
    rw [hallowed, htitle, hembeds]
    rfl
  | ok _ =>
  cases hmentions : MessageService.extractMentions ctx
    (input.message wordish ctx actorId conversationId messageId).entities with
  | error e =>
    refine Or.inl ⟨e, fun service hfresh => ?_⟩
    unfold MessageService.send
    rw [hfirst service hfresh]
    dsimp only
    rw [hallowed, htitle, hembeds]
    dsimp only [bind, Except.bind]
    rw [hmentions]
  | ok _ =>
  cases hrefusal : ctx.refusal with
  | some refusal =>
    refine Or.inl ⟨refusal, fun service hfresh => ?_⟩
    unfold MessageService.send
    rw [hfirst service hfresh]
    dsimp only
    rw [hallowed, htitle, hembeds]
    dsimp only [bind, Except.bind]
    rw [hmentions, hrefusal]
  | none =>
    refine Or.inr ⟨input.message wordish ctx actorId conversationId messageId, rfl, fun service hfresh => ?_⟩
    obtain ⟨service', hinserted, hrows⟩ := hinsert service hfresh
    refine ⟨service', ?_, hrows⟩
    unfold MessageService.send
    rw [hfirst service hfresh]
    dsimp only
    rw [hallowed, htitle, hembeds]
    dsimp only [bind, Except.bind]
    rw [hmentions, hrefusal]
    dsimp only
    rw [hinserted]

lemma Apart.fresh (h : Apart req.messageId db db')
    (hrow : db.service.messages.find req.messageId = some row) (hfresh : db.Fresh req) : db'.Fresh req := by
  intro x hx
  by_cases hid : x.id = req.messageId
  · obtain ⟨row', hrow', -, -, hnonce⟩ := h.stays hrow
    have hfind : db'.service.messages.find req.messageId = some x := KeyedTable.find_eq_some.mpr ⟨hx, hid⟩
    rw [hrow'] at hfind
    obtain rfl := Option.some.inj hfind
    obtain ⟨hnewId, hnew⟩ := hfresh row (KeyedTable.find_eq_some.mp hrow).1
    rw [KeyedTable.find_key hrow] at hnewId
    exact ⟨hid ▸ hnewId, hnonce ▸ hnew⟩
  · have hothers : x ∈ db'.service.messages.rows.filter fun x => x.id ≠ req.messageId :=
      List.mem_filter.mpr ⟨hx, decide_eq_true hid⟩
    rw [h.messages] at hothers
    exact hfresh x (List.mem_filter.mp hothers).1

lemma find_cons {service service' : MessageService.Database} {message : Message}
    (hrows : service'.messages.rows = message :: service.messages.rows) (hne : message.id ≠ m) :
    service'.messages.find m = service.messages.find m := by
  unfold KeyedTable.find
  rw [hrows, List.find?_cons_of_neg (by simpa using hne)]

lemma posted_attached {service : MessageService.Database} {message : Message}
    (hrows : service.messages.rows = message :: db.service.messages.rows) (hne : message.id ≠ req.messageId)
    (hnew : req.newId ≠ req.messageId) :
    (db.posted req service).attached req.messageId = db.attached req.messageId := by
  unfold Database.attached Database.posted
  dsimp only
  rw [find_cons hrows hne, Function.update_of_ne (Ne.symm hnew)]

lemma Apart.posted {service service' : MessageService.Database} {message : Message}
    (h : Apart req.messageId db db') (hrows : service.messages.rows = message :: db.service.messages.rows)
    (hrows' : service'.messages.rows = message :: db'.service.messages.rows)
    (hne : message.id ≠ req.messageId) :
    Apart req.messageId (db.posted req service) (db'.posted req service') := by
  have hseq : db'.nextSeq req.conversationId = db.nextSeq req.conversationId := by
    unfold Database.nextSeq
    rw [h.tables]
  refine { h with tables := ?_, place := ?_, messages := ?_, columns := fun id hid => ?_ }
  · unfold Database.posted
    simp only [h.tables, hseq]
  · change (service'.messages.find req.messageId).map _ = (service.messages.find req.messageId).map _
    rw [find_cons hrows' hne, find_cons hrows hne]
    exact h.place
  · change (service'.messages.rows.filter _) = service.messages.rows.filter _
    rw [hrows, hrows', List.filter_cons, List.filter_cons, h.messages]
  · unfold Database.posted
    dsimp only
    rw [hseq]
    by_cases hnew : id = req.newId
    · rw [hnew, Function.update_self, Function.update_self]
    · rw [Function.update_of_ne hnew, Function.update_of_ne hnew, h.columns id hid]

lemma reply_settled {botId : Uuid} {response : InteractionResponse} (hkind : response.kind = .reply)
    (hrow : db.service.messages.find req.messageId = some row) (hfresh : db.Fresh req) :
    Settled req.messageId db fun db' => db'.applyResponse out req botId response := by
  have hne : req.newId ≠ req.messageId := by
    obtain ⟨hnewId, -⟩ := hfresh row (KeyedTable.find_eq_some.mp hrow).1
    rw [KeyedTable.find_key hrow] at hnewId
    exact Ne.symm hnewId
  rcases send_fresh out.wordish (db.context out { req with actor := botId } req.conversationId) botId
      req.conversationId req.newId {
        nonce := .client ("interaction_" ++ toString req.newId)
        type := .text
        content := response.content.getD none
        title := none
        entities := none
        inThread := false
        embeds := response.embeds
        components := response.components
        expiresInSeconds := none
        cardKey := none } rfl with ⟨e, he⟩ | ⟨message, hid, hsent⟩
  · refine Or.inl ⟨e, fun db' h => ?_⟩
    unfold Database.applyResponse
    rw [hkind]
    dsimp only
    rw [h.context, he db'.service (h.fresh hrow hfresh)]
    rfl
  · obtain ⟨service, hok, hrows⟩ := hsent db.service hfresh
    have hmid : message.id ≠ req.messageId := hid ▸ hne
    have hanswer : ∀ db', Apart req.messageId db db' → ∃ service' : MessageService.Database,
        service'.messages.rows = message :: db'.service.messages.rows ∧
        db'.applyResponse out req botId response =
          .ok (.message ((db.posted req service).hydrateOne botId message), db'.posted req service') := by
      intro db' h
      obtain ⟨service', hok', hrows'⟩ := hsent db'.service (h.fresh hrow hfresh)
      have hhydrated := (h.posted hrows hrows' hmid).hydrateOne botId hmid fun hquote => by
        have hnew : (db.posted req service).columns req.newId =
          ⟨db.nextSeq req.conversationId, none, none, false⟩ := Function.update_self _ _ _
        rw [hid, hnew] at hquote
        cases hquote
      refine ⟨service', hrows', ?_⟩
      rw [← hhydrated]
      unfold Database.applyResponse
      rw [hkind]
      dsimp only
      rw [h.context, hok']
      rfl
    refine Or.inr ⟨.message ((db.posted req service).hydrateOne botId message), fun db' h => ?_,
      fun after hok' => ?_⟩
    · obtain ⟨service', -, hok'⟩ := hanswer db' h
      exact ⟨_, hok'⟩
    · obtain ⟨service', hrows', hok''⟩ := hanswer db (Apart.refl _ _)
      obtain ⟨-, rfl⟩ := Prod.mk.inj (Except.ok.inj (hok''.symm.trans hok'))
      exact posted_attached hrows' hmid hne

lemma applyResponse_settled {response : InteractionResponse} {e : AppError}
    (hrow : db.service.messages.find req.messageId = some row) (hfresh : db.Fresh req)
    (hown : response.kind = .update → row.senderId ≠ req.actor)
    (he : db.requirePermission req row.conversationId Permissions.Permission.readHistory = .error e) :
    Settled req.messageId db fun db' => db'.applyResponse out req req.actor response := by
  have hget : (response.kind = .ack ∨ response.kind = .ephemeral) →
      Settled req.messageId db fun db' => db'.applyResponse out req req.actor response := by
    intro hkind
    obtain ⟨e', he'⟩ := get_refused hrow he
    refine Or.inl ⟨e', fun db' h => ?_⟩
    change db'.applyResponse out req req.actor response = _
    unfold Database.applyResponse
    rcases hkind with hkind | hkind
    all_goals
      rw [hkind]
      dsimp only
      rw [he' db' h]
      rfl
  cases hkind : response.kind with
  | update =>
    refine Or.inl ⟨Permissions.forbidden "A bot can only rewrite its own messages", fun db' h => ?_⟩
    obtain ⟨row', hrow', -, hsender, -⟩ := h.stays hrow
    change db'.applyResponse out req req.actor response = _
    unfold Database.applyResponse
    rw [hkind]
    dsimp only
    unfold MessageService.rewriteBotMessage
    rw [hrow']
    dsimp only
    rw [hsender]
    unfold Permissions.ensure
    rw [decide_eq_false (hown hkind)]
    rfl
  | reply => exact reply_settled hkind hrow hfresh
  | ack => exact hget (Or.inl hkind)
  | ephemeral => exact hget (Or.inr hkind)

lemma callback_settled {response : InteractionResponse} {e : AppError}
    (hrow : db.service.messages.find req.messageId = some row) (hfresh : db.Fresh req)
    (hown : response.kind = .update →
      (db.tables.applications.rows.any fun a => a.botUserId = req.actor && a.revokedAt.isNone) = true →
        row.senderId ≠ req.actor)
    (he : db.requirePermission req row.conversationId Permissions.Permission.readHistory = .error e) :
    Settled req.messageId db fun db' => db'.callback out req response := by
  cases htoken : db.tables.applications.rows.any fun a => a.botUserId = req.actor && a.revokedAt.isNone with
  | false =>
    refine Or.inl ⟨Permissions.forbidden "This endpoint requires a bot token", fun db' h => ?_⟩
    change db'.callback out req response = _
    unfold Database.callback
    rw [h.tables, htoken]
    rfl
  | true =>
    have hsettled := @applyResponse_settled db out req row response e hrow hfresh
      (fun hkind => hown hkind htoken) he
    have hcall : ∀ db', Apart req.messageId db db' →
        db'.callback out req response = db'.applyResponse out req req.actor response := by
      intro db' h
      unfold Database.callback
      rw [h.tables, htoken]
      rfl
    rcases hsettled with ⟨e, he⟩ | ⟨answer, hanswer, hsame⟩
    · exact Or.inl ⟨e, fun db' h => (hcall db' h).trans (he db' h)⟩
    · refine Or.inr ⟨answer, fun db' h => ?_, fun after hok => ?_⟩
      · obtain ⟨after, hok⟩ := hanswer db' h
        exact ⟨after, (hcall db' h).trans hok⟩
      · exact hsame after ((hcall db (Apart.refl _ _)).symm.trans hok)

lemma settled_of_notFound {check : Except AppError MemberContext}
    {call : Database → Except AppError (Answer × Database)}
    (hcall : ∀ db', Apart m db db' → call db' = do
      let _ ← check
      .error (Permissions.notFound "Message")) : Settled m db call := by
  cases hctx : check with
  | error e =>
    refine Or.inl ⟨e, fun db' h => ?_⟩
    rw [hcall db' h, hctx]
    rfl
  | ok ctx =>
    refine Or.inl ⟨Permissions.notFound "Message", fun db' h => ?_⟩
    rw [hcall db' h, hctx]
    rfl

lemma settled_of_answer {check : Except AppError MemberContext} {answer : Answer}
    {next : Database → Database} {call : Database → Except AppError (Answer × Database)}
    (hcall : ∀ db', Apart m db db' → call db' = do
      let _ ← check
      return (answer, next db'))
    (hsame : (∃ ctx, check = .ok ctx) → (next db).attached m = db.attached m) : Settled m db call := by
  cases hctx : check with
  | error e =>
    refine Or.inl ⟨e, fun db' h => ?_⟩
    rw [hcall db' h, hctx]
    rfl
  | ok ctx =>
    have hok : ∀ db', Apart m db db' → call db' = .ok (answer, next db') := by
      intro db' h
      rw [hcall db' h, hctx]
      rfl
    refine Or.inr ⟨answer, fun db' h => ⟨_, hok db' h⟩, fun after h => ?_⟩
    obtain ⟨-, rfl⟩ := Prod.mk.inj (Except.ok.inj ((hok db (Apart.refl _ _)).symm.trans h))
    exact hsame ⟨ctx, hctx⟩

lemma not_permitted {permission : ℕ} (hpermission : req.route.permission = some permission)
    (h : ¬ db.Permitted req row) : ∃ e, db.requirePermission req row.conversationId permission = .error e := by
  refine not_allowed fun hallowed => h ?_
  obtain ⟨ctx, hctx, hhas⟩ := allowed_iff.mp hallowed
  refine ⟨ctx, hctx, ?_, ?_⟩
  · rw [hpermission]
    exact hhas
  · unfold Route.permission at hpermission
    cases hroute : req.route with
    | closePoll =>
      rw [hroute] at hpermission
      cases hpermission
    | _ => trivial

lemma not_permitted_member (hpermission : req.route.permission = none) (hroute : req.route ≠ .closePoll)
    (h : ¬ db.Permitted req row) : ¬ db.Member req row.conversationId := by
  rintro ⟨ctx, hctx⟩
  refine h ⟨ctx, hctx, ?_, ?_⟩
  · rw [hpermission]
    rfl
  · cases hr : req.route with
    | closePoll => exact absurd hr hroute
    | _ => trivial

lemma filter_delete_of_find {ρ κ : Type} [DecidableEq κ] {key : ρ → κ} {t : KeyedTable key} {k : κ}
    {p q : ρ → Bool} (hp : ∀ r, p r = true → key r = k) (hk : t.find k = none) :
    (t.delete p).rows.filter q = t.rows.filter q := by
  have hrows : (t.delete p).rows = t.rows := by
    refine List.filter_eq_self.mpr fun r hr => ?_
    cases hpr : p r with
    | false => rfl
    | true => exact absurd (hp r hpr) (KeyedTable.find_eq_none.mp hk r hr)
  rw [hrows]

lemma inPath_conversation {x : Message} (h : db.inPath req x = true) :
    x.conversationId = req.conversationId := by
  unfold Database.inPath at h
  simp only [Bool.and_eq_true, decide_eq_true_eq] at h
  exact h.1.1

theorem careful_confined (hrow : db.service.messages.find req.messageId = some row)
    (hforeign : row.conversationId ≠ req.conversationId) (hfresh : db.Fresh req)
    (hpermitted : ¬ db.Permitted req row) (hcareful : db.Careful req row) : db.Confined out req := by
  have hread : ∀ {e : AppError}, db.requireMember req row.conversationId = .error e →
      db.requirePermission req row.conversationId Permissions.Permission.readHistory = .error e := by
    intro e he
    unfold Database.requirePermission Permissions.Database.requirePermission
    unfold Database.requireMember at he
    rw [he]
    rfl
  apply Settled.confined
  unfold Database.handle
  unfold Database.Careful at hcareful
  cases hroute : req.route with
  | get =>
    obtain ⟨e, he⟩ := not_permitted (show req.route.permission = _ by rw [hroute]; rfl) hpermitted
    obtain ⟨e', he'⟩ := get_refused hrow he
    refine Or.inl ⟨e', fun db' h => ?_⟩
    dsimp only
    rw [he' db' h]
    rfl
  | envelope =>
    refine @settled_of_answer db _ (db.requirePermission req req.conversationId
      Permissions.Permission.readHistory) (.ciphertext none) id _ (fun db' h => ?_) fun _ => rfl
    dsimp only
    unfold Database.envelope
    rw [h.requirePermission, h.foreign hrow hforeign fun x hx => of_decide_eq_true hx]
    rfl
  | edit patch =>
    rw [hroute] at hcareful
    exact hcareful.elim
  | remove forEveryone =>
    obtain ⟨e, he⟩ := not_member (not_permitted_member (show req.route.permission = none by rw [hroute]; rfl)
      (by rw [hroute]; exact Route.noConfusion) hpermitted)
    exact Or.inl (remove_refused hrow he)
  | thread limit after =>
    rw [hroute] at hcareful
    exact thread_settled hrow hforeign hcareful
  | save =>
    refine @settled_of_notFound db _ (db.requireMember req req.conversationId) _ fun db' h => ?_
    dsimp only
    unfold Database.save
    rw [h.requireMember, h.foreign hrow hforeign fun x hx => inPath_conversation hx]
  | unsave =>
    exact Or.inr ⟨.saved false, fun db' h => ⟨_, rfl⟩, fun after hok => by
      obtain ⟨-, rfl⟩ := Prod.mk.inj (Except.ok.inj hok)
      rfl⟩
  | removePreviews =>
    refine Or.inl ⟨Permissions.notFound "Message", fun db' h => ?_⟩
    dsimp only
    unfold Database.removePreviews
    rw [h.foreign hrow hforeign fun x hx => of_decide_eq_true (Bool.and_eq_true_iff.mp hx).1]
  | translate language =>
    cases htranslate : out.translate with
    | none =>
      refine Or.inl ⟨Permissions.unprocessable "Translation is not set up on this server", fun db' h => ?_⟩
      dsimp only
      unfold Database.translate
      rw [htranslate]
    | some translateText =>
      refine @settled_of_notFound db _ (db.requireMember req req.conversationId) _ fun db' h => ?_
      dsimp only
      unfold Database.translate
      rw [htranslate]
      dsimp only
      rw [h.requireMember, h.foreign hrow hforeign fun x hx => inPath_conversation hx]
  | react key =>
    refine @settled_of_notFound db _ (db.requirePermission req req.conversationId
      Permissions.Permission.addReactions) _ fun db' h => ?_
    dsimp only
    unfold Database.react
    rw [h.requirePermission, h.placed hrow hforeign]
    rfl
  | unreact key =>
    rw [hroute] at hcareful
    refine @settled_of_answer db _ (db.requireMember req req.conversationId) .ok (fun db' => { db' with
      reactions := db'.reactions.delete fun r =>
        r.messageId = req.messageId && r.userId = req.actor && r.emoji = key }) _ (fun db' h => ?_) fun hok => ?_
    · dsimp only
      unfold Database.unreact
      rw [h.requireMember]
    · unfold Database.attached
      dsimp only
      rw [filter_delete_of_find (fun r hr => ?_) (hcareful hok)]
      simp only [Bool.and_eq_true, decide_eq_true_eq] at hr
      unfold Reaction.key
      rw [hr.1.1, hr.1.2, hr.2]
  | press customId =>
    refine Or.inl ⟨Permissions.notFound "Message", fun db' h => ?_⟩
    dsimp only
    unfold Database.press
    rw [h.foreign hrow hforeign fun x hx => of_decide_eq_true (Bool.and_eq_true_iff.mp hx).1]
  | callback response =>
    rw [hroute] at hcareful
    obtain ⟨e, he⟩ := not_member (not_permitted_member (show req.route.permission = none by rw [hroute]; rfl)
      (by rw [hroute]; exact Route.noConfusion) hpermitted)
    exact callback_settled hrow hfresh hcareful (hread he)
  | reactions emoji =>
    rw [hroute] at hcareful
    obtain ⟨e, he⟩ := not_member hcareful
    refine Or.inl ⟨e, fun db' h => ?_⟩
    dsimp only
    unfold Database.listReactions
    rw [h.requireMember, he]
    rfl
  | vote optionIds =>
    rw [hroute] at hcareful
    obtain ⟨e, he⟩ := not_allowed hcareful
    refine Or.inl ⟨e, fun db' h => ?_⟩
    dsimp only
    unfold Database.vote
    rw [h.requirePermission, he]
    rfl
  | closePoll =>
    rw [hroute] at hcareful
    obtain ⟨e, he⟩ := not_member hcareful
    refine Or.inl ⟨e, fun db' h => ?_⟩
    dsimp only
    unfold Database.closePoll
    rw [h.requireMember, he]
    rfl
  | pin =>
    refine @settled_of_notFound db _ (db.requirePermission req req.conversationId
      Permissions.Permission.pinMessages) _ fun db' h => ?_
    dsimp only
    unfold Database.pin
    rw [h.requirePermission, h.placed hrow hforeign]
    rfl
  | unpin =>
    rw [hroute] at hcareful
    refine @settled_of_answer db _ (db.requirePermission req req.conversationId
      Permissions.Permission.pinMessages) (.pinned false) (fun db' => { db' with
        pinnedMessages := db'.pinnedMessages.delete fun p =>
          p.conversationId = req.conversationId && p.messageId = req.messageId }) _ (fun db' h => ?_) fun hok => ?_
    · dsimp only
      unfold Database.unpin
      rw [h.requirePermission]
    · unfold Database.attached
      dsimp only
      rw [filter_delete_of_find (fun p hp => ?_) (hcareful hok)]
      simp only [Bool.and_eq_true, decide_eq_true_eq] at hp
      unfold PinnedMessage.key
      rw [hp.1, hp.2]

/-! ### States to compare with -/

def setDeleted (m : Uuid) (deletedAt : Option Permissions.Time) (db : Database) : Database := { db with
  service := db.service.update (fun x => x.id = m) (fun x => { x with deletedAt := deletedAt })
    ⟨fun _ => rfl, fun _ => rfl, fun _ => rfl, fun _ => Or.inl rfl, fun _ => Or.inl rfl⟩ }

def setPoll (m : Uuid) (poll : Option Poll) (db : Database) : Database := { db with
  polls := poll.elim (db.polls.delete fun p => p.messageId = m)
    (db.polls.delete fun p => p.messageId = m).insertIgnore }

def setReaction (m : Uuid) (reaction : Option Reaction) (db : Database) : Database := { db with
  reactions := reaction.elim (db.reactions.delete fun r => r.messageId = m)
    (db.reactions.delete fun r => r.messageId = m).insertIgnore }

lemma find_setDeleted {deletedAt : Option Permissions.Time}
    (hrow : db.service.messages.find m = some row) :
    (db.setDeleted m deletedAt).service.messages.find m = some { row with deletedAt := deletedAt } := by
  unfold setDeleted MessageService.Database.update
  dsimp only
  rw [KeyedTable.find_update, hrow, Option.map_some, if_pos (decide_eq_true (KeyedTable.find_key hrow))]

lemma apart_setDeleted (m : Uuid) (deletedAt : Option Permissions.Time) (db : Database) :
    Apart m db (db.setDeleted m deletedAt) := by
  refine { Apart.refl m db with place := ?_, messages := ?_ }
  · unfold setDeleted MessageService.Database.update
    dsimp only
    rw [KeyedTable.find_update, Option.map_map]
    refine Option.map_congr fun x _ => ?_
    simp only [Function.comp_apply]
    split_ifs <;> rfl
  · change ((db.service.messages.rows.map fun x => if decide (x.id = m) = true then _ else x).filter _) = _
    rw [List.filter_map]
    have hsame : (db.service.messages.rows.filter ((fun x : Message => decide (x.id ≠ m)) ∘
        fun x => if decide (x.id = m) = true then { x with deletedAt := deletedAt } else x)) =
        db.service.messages.rows.filter fun x => x.id ≠ m := by
      refine List.filter_congr fun x _ => ?_
      simp only [Function.comp_apply]
      split_ifs <;> rfl
    rw [hsame]
    refine (List.map_congr_left fun x hx => ?_).trans (List.map_id _)
    have hx := (List.mem_filter.mp hx).2
    rw [if_neg (by simpa using hx)]
    rfl

lemma filter_replace {ρ κ : Type} [DecidableEq κ] {key : ρ → κ} {t : KeyedTable key} {messageId : ρ → Uuid}
    {r : Option ρ} (hr : ∀ x ∈ r, messageId x = m) :
    ((r.elim (t.delete fun x => messageId x = m) (t.delete fun x => messageId x = m).insertIgnore).rows.filter
      fun x => messageId x ≠ m) = t.rows.filter fun x => messageId x ≠ m := by
  have hdelete : ((t.delete fun x => messageId x = m).rows.filter fun x => messageId x ≠ m) =
      t.rows.filter fun x => messageId x ≠ m := by
    unfold KeyedTable.delete
    dsimp only
    rw [List.filter_filter]
    refine List.filter_congr fun x _ => ?_
    simp
  cases r with
  | none => exact hdelete
  | some x =>
    rw [Option.elim_some, ← hdelete]
    unfold KeyedTable.insertIgnore
    split_ifs
    · rfl
    · rw [List.filter_cons_of_neg (by simp [hr x rfl])]

lemma apart_setPoll {poll : Option Poll} (h : ∀ p ∈ poll, p.messageId = m) (db : Database) :
    Apart m db (db.setPoll m poll) := by
  refine { Apart.refl m db with polls := ?_ }
  exact filter_replace h

lemma apart_setReaction {reaction : Option Reaction} (h : ∀ r ∈ reaction, r.messageId = m) (db : Database) :
    Apart m db (db.setReaction m reaction) := by
  refine { Apart.refl m db with reactions := ?_ }
  exact filter_replace h

lemma find_setPoll {poll : Option Poll} (h : ∀ p ∈ poll, p.messageId = m) :
    (db.setPoll m poll).polls.find m = poll := by
  have hdelete : (db.polls.delete fun p => p.messageId = m).find m = none := by
    rw [KeyedTable.find_delete]
    cases hf : db.polls.find m with
    | none => rfl
    | some p =>
      rw [Option.filter_some, decide_eq_true (KeyedTable.find_key hf)]
      rfl
  cases poll with
  | none => exact hdelete
  | some p =>
    change (KeyedTable.insertIgnore _ p).find m = some p
    rw [KeyedTable.find_insertIgnore, if_pos (h p rfl), hdelete]
    rfl

lemma Confined.same (h : db.Confined out req) {db₁ db₂ : Database} (h₁ : Apart req.messageId db db₁)
    (h₂ : Apart req.messageId db db₂) :
    (db₁.handle out req).map Prod.fst = (db₂.handle out req).map Prod.fst :=
  (h.answer db₁ h₁).trans (h.answer db₂ h₂).symm

lemma edit_tells {patch : MessageService.Patch} (hroute : req.route = .edit patch)
    (hrow : db.service.messages.find req.messageId = some row) (hpermitted : ¬ db.Permitted req row) :
    ¬ db.Confined out req := by
  intro h
  have hsame := h.same (apart_setDeleted req.messageId (some 0) db) (apart_setDeleted req.messageId none db)
  have hgone : (db.setDeleted req.messageId (some 0)).handle out req =
      .error (Permissions.unprocessable "Message was deleted") := by
    unfold handle edit
    rw [hroute]
    dsimp only
    rw [find_setDeleted hrow]
    dsimp only
    unfold MessageService.edit
    rw [find_setDeleted hrow]
    rfl
  have hthere : ∃ e, (db.setDeleted req.messageId none).handle out req = .error e ∧ e.status ≠ 422 := by
    unfold handle edit
    rw [hroute]
    dsimp only
    rw [find_setDeleted hrow]
    dsimp only
    unfold MessageService.edit
    rw [find_setDeleted hrow]
    dsimp only
    unfold MessageService.checkEdit
    by_cases hown : row.senderId = req.actor
    · have hrefused : ∃ e, ((db.setDeleted req.messageId none).context out req row.conversationId
          ).requirePermission Permissions.Permission.editOwnMessages = .error e ∧ e.status ≠ 422 := by
        unfold MessageService.Context.requirePermission MessageService.Context.requireMember context
        dsimp only
        cases hl : db.tables.loadMemberContext row.conversationId req.actor req.clock with
        | none =>
          refine ⟨Permissions.notFound "Conversation", ?_, by decide⟩
          rw [show (db.setDeleted req.messageId none).tables = db.tables from rfl, hl]
          rfl
        | some ctx =>
          have hnot : has ctx.permissions Permissions.Permission.editOwnMessages = false := by
            rw [← Bool.not_eq_true]
            intro hhas
            refine hpermitted ⟨ctx, Permissions.Database.requireMember_eq_ok.mpr hl, ?_, ?_⟩
            · rw [hroute]
              exact hhas
            · rw [hroute]
              trivial
          refine ⟨Permissions.missingPermission ((Permissions.permissionNames
            Permissions.Permission.editOwnMessages).head?.getD "unknown"), ?_, ?_⟩
          · rw [show (db.setDeleted req.messageId none).tables = db.tables from rfl, hl]
            dsimp only [Option.map_some, bind, Except.bind]
            rw [hnot]
            rfl
          · unfold Permissions.missingPermission
            decide
      obtain ⟨e, he, hstatus⟩ := hrefused
      refine ⟨e, ?_, hstatus⟩
      dsimp only
      rw [decide_eq_true hown, he]
      rfl
    · refine ⟨Permissions.notFound "Message", ?_, by decide⟩
      dsimp only
      rw [decide_eq_false hown]
      rfl
  obtain ⟨e, he, hstatus⟩ := hthere
  rw [hgone, he] at hsame
  have heq := Except.error.inj hsame
  rw [← heq] at hstatus
  exact hstatus rfl

lemma callback_tells {response : InteractionResponse} (hroute : req.route = .callback response)
    (hrow : db.service.messages.find req.messageId = some row) (hkind : response.kind = .update)
    (htoken : (db.tables.applications.rows.any fun a => a.botUserId = req.actor && a.revokedAt.isNone) = true)
    (hown : row.senderId = req.actor) : ¬ db.Confined out req := by
  intro h
  have hsame := h.same (apart_setDeleted req.messageId (some 0) db) (apart_setDeleted req.messageId none db)
  have hcall : ∀ db' : Database, db'.tables = db.tables →
      db'.handle out req = db'.applyResponse out req req.actor response := by
    intro db' ht
    unfold handle callback
    rw [hroute]
    dsimp only
    rw [ht, htoken]
    rfl
  have hgone : ∃ e, (db.setDeleted req.messageId (some 0)).handle out req = .error e := by
    rw [hcall (db.setDeleted req.messageId (some 0)) rfl]
    unfold applyResponse
    rw [hkind]
    dsimp only
    unfold MessageService.rewriteBotMessage
    rw [find_setDeleted hrow]
    dsimp only
    rw [decide_eq_true hown]
    exact ⟨_, rfl⟩
  have hthere : ∃ answer after, (db.setDeleted req.messageId none).handle out req = .ok (answer, after) := by
    rw [hcall (db.setDeleted req.messageId none) rfl]
    unfold applyResponse
    rw [hkind]
    dsimp only
    unfold MessageService.rewriteBotMessage
    rw [find_setDeleted hrow]
    dsimp only
    rw [decide_eq_true hown]
    dsimp only [bind, Except.bind, Permissions.ensure, Option.isNone_none, pure, Except.pure]
    rw [if_pos rfl]
    dsimp only
    rw [if_pos rfl]
    dsimp only
    have hfind : ∀ f hf, ((db.setDeleted req.messageId none).service.update
        (fun x => decide (x.id = req.messageId)) f hf).messages.find req.messageId =
          some (f { row with deletedAt := none }) := by
      intro f hf
      unfold MessageService.Database.update
      dsimp only
      rw [KeyedTable.find_update, find_setDeleted hrow, Option.map_some,
        if_pos (decide_eq_true (KeyedTable.find_key hrow))]
    rw [hfind]
    exact ⟨_, _, rfl⟩
  obtain ⟨e, he⟩ := hgone
  obtain ⟨answer, after, hok⟩ := hthere
  rw [he, hok] at hsame
  cases hsame

lemma reactions_tell {emoji : Option String} (hroute : req.route = .reactions emoji)
    (hactor : (db.tables.users.find req.actor).isSome = true) (hmember : db.Member req req.conversationId) :
    ¬ db.Confined out req := by
  intro h
  obtain ⟨ctx, hctx⟩ := hmember
  let mine : Reaction := ⟨req.messageId, req.actor, emoji.getD "", 0⟩
  have hsame := h.same (@apart_setReaction req.messageId none (fun _ hr => by cases hr) db)
    (@apart_setReaction req.messageId (some mine) (fun r hr => by cases hr; rfl) db)
  have hlist : ∀ reaction : Option Reaction, (db.setReaction req.messageId reaction).handle out req =
      .ok (.reactions (((db.setReaction req.messageId reaction).reactionsQuery req emoji).run.map
        fun r => (r.emoji, r.userId, r.createdAt)), db.setReaction req.messageId reaction) := by
    intro reaction
    unfold handle listReactions
    rw [hroute]
    dsimp only
    rw [show (db.setReaction req.messageId reaction).requireMember req req.conversationId =
      db.requireMember req req.conversationId from rfl, hctx]
    rfl
  rw [hlist, hlist] at hsame
  have hrows := congrArg List.length (Answer.reactions.inj (Except.ok.inj hsame))
  rw [List.length_map, List.length_map] at hrows
  have hnone : ((db.setReaction req.messageId none).reactionsQuery req emoji).run = [] := by
    refine List.eq_nil_iff_forall_not_mem.mpr fun r hr => ?_
    obtain ⟨hrow, hp⟩ := List.mem_filter.mp (Query.mem_of_mem_run hr)
    have hkept := (List.mem_filter.mp hrow).2
    simp only [Bool.and_eq_true, decide_eq_true_eq] at hp
    simp [hp.1.1] at hkept
  have hsome : 0 < ((db.setReaction req.messageId (some mine)).reactionsQuery req emoji).run.length := by
    have hmine : mine ∈ ((db.setReaction req.messageId (some mine)).reactionsQuery req emoji).admitted := by
      refine List.mem_filter.mpr ⟨?_, ?_⟩
      · have hdelete : (db.reactions.delete fun r => r.messageId = req.messageId).find mine.key = none := by
          refine KeyedTable.find_eq_none.mpr fun r hr hk => ?_
          have hkept := (List.mem_filter.mp hr).2
          have hid : r.messageId = req.messageId := congrArg Prod.fst hk
          simp [hid] at hkept
        have hfind := KeyedTable.find_insertIgnore
          (db.reactions.delete fun r => r.messageId = req.messageId) mine mine.key
        rw [if_pos rfl, hdelete] at hfind
        exact (KeyedTable.find_eq_some.mp hfind).1
      · have husers : (db.setReaction req.messageId (some mine)).tables = db.tables := rfl
        rw [husers]
        simp only [Bool.and_eq_true, decide_eq_true_eq]
        refine ⟨⟨rfl, hactor⟩, ?_⟩
        cases emoji <;> simp [mine]
    have hlength := Query.length_run ((db.setReaction req.messageId (some mine)).reactionsQuery req emoji)
    have hpos := List.length_pos_of_mem hmine
    have hlimit : ((db.setReaction req.messageId (some mine)).reactionsQuery req emoji).limit = 200 := rfl
    omega
  rw [hnone, List.length_nil] at hrows
  omega

lemma vote_tells {optionIds : List Uuid} (hroute : req.route = .vote optionIds)
    (hallowed : db.Allowed req req.conversationId Permissions.Permission.sendPolls) :
    ¬ db.Confined out req := by
  intro h
  obtain ⟨ctx, hctx⟩ := hallowed
  let shut : Poll := ⟨0, req.messageId, "", false, false, none, some 0, [], []⟩
  have hsame := h.same (@apart_setPoll req.messageId none (fun _ hp => by cases hp) db)
    (@apart_setPoll req.messageId (some shut) (fun p hp => by cases hp; rfl) db)
  have hnone : (db.setPoll req.messageId none).handle out req = .error (Permissions.notFound "Poll") := by
    unfold handle vote
    rw [hroute]
    dsimp only
    rw [show (db.setPoll req.messageId none).requirePermission req req.conversationId
        Permissions.Permission.sendPolls =
      db.requirePermission req req.conversationId Permissions.Permission.sendPolls from rfl, hctx,
      find_setPoll (fun _ hp => by cases hp)]
    rfl
  have hshut : (db.setPoll req.messageId (some shut)).handle out req =
      .error (Permissions.conflict "This poll is closed") := by
    unfold handle vote
    rw [hroute]
    dsimp only
    rw [show (db.setPoll req.messageId (some shut)).requirePermission req req.conversationId
        Permissions.Permission.sendPolls =
      db.requirePermission req req.conversationId Permissions.Permission.sendPolls from rfl, hctx,
      find_setPoll (fun p hp => by cases hp; rfl)]
    rfl
  rw [hnone, hshut] at hsame
  have heq := congrArg AppError.status (Except.error.inj hsame)
  exact absurd heq (by decide)

lemma closePoll_tells (hroute : req.route = .closePoll)
    (hrow : db.service.messages.find req.messageId = some row) (hmember : db.Member req req.conversationId) :
    ¬ db.Confined out req := by
  intro h
  obtain ⟨ctx, hctx⟩ := hmember
  let poll : Poll := ⟨0, req.messageId, "", false, false, none, none, [], []⟩
  have hsame := h.same (@apart_setPoll req.messageId none (fun _ hp => by cases hp) db)
    (@apart_setPoll req.messageId (some poll) (fun p hp => by cases hp; rfl) db)
  have hnone : (db.setPoll req.messageId none).handle out req = .error (Permissions.notFound "Poll") := by
    unfold handle closePoll
    rw [hroute]
    dsimp only
    rw [show (db.setPoll req.messageId none).requireMember req req.conversationId =
      db.requireMember req req.conversationId from rfl, hctx, find_setPoll (fun _ hp => by cases hp)]
    rfl
  have hsome : ((db.setPoll req.messageId (some poll)).handle out req).map Prod.fst = .ok .closed ∨
      (db.setPoll req.messageId (some poll)).handle out req =
        .error (Permissions.conflict "Only the author or a moderator can close this poll") := by
    unfold handle closePoll
    rw [hroute]
    dsimp only
    rw [show (db.setPoll req.messageId (some poll)).requireMember req req.conversationId =
      db.requireMember req req.conversationId from rfl, hctx, find_setPoll (fun p hp => by cases hp; rfl),
      show (db.setPoll req.messageId (some poll)).service = db.service from rfl, hrow]
    dsimp only [Option.bind_some, Option.map_some, bind, Except.bind, Permissions.ensure]
    split_ifs
    · exact Or.inl rfl
    · exact Or.inr rfl
  rw [hnone] at hsame
  rcases hsome with hclosed | hrefused
  · rw [hclosed] at hsame
    cases hsame
  · rw [hrefused] at hsame
    have heq := congrArg AppError.status (Except.error.inj hsame)
    exact absurd heq (by decide)

lemma thread_tells {limit : ℕ} {after : Option ℕ} (hroute : req.route = .thread limit after)
    (hrow : db.service.messages.find req.messageId = some row)
    (hforeign : row.conversationId ≠ req.conversationId)
    (hallowed : db.Allowed req req.conversationId Permissions.Permission.readHistory) {x : Message}
    (hx : x ∈ (db.threadQuery req limit after).run)
    (hquote : (db.columns x.id).replyToId = some req.messageId)
    (hshown : db.notDeletedForViewer req.actor row = true) : ¬ db.Confined out req := by
  intro h
  obtain ⟨ctx, hctx⟩ := hallowed
  have hsame := h.same (apart_setDeleted req.messageId (some 0) db) (apart_setDeleted req.messageId none db)
  have hlist : ∀ deletedAt, (db.setDeleted req.messageId deletedAt).handle out req =
      .ok (.messages ((db.threadQuery req limit after).run.map
        ((db.setDeleted req.messageId deletedAt).hydrateOne req.actor))
          ((db.threadQuery req limit after).run.length = limit), db.setDeleted req.messageId deletedAt) := by
    intro deletedAt
    obtain ⟨hrun, -⟩ := thread_rows hrow hforeign limit after (apart_setDeleted req.messageId deletedAt db)
    unfold handle thread
    rw [hroute]
    dsimp only
    rw [show (db.setDeleted req.messageId deletedAt).requirePermission req req.conversationId
        Permissions.Permission.readHistory =
      db.requirePermission req req.conversationId Permissions.Permission.readHistory from rfl, hctx]
    dsimp only [bind, Except.bind, pure, Except.pure]
    rw [hrun]
  rw [hlist, hlist] at hsame
  have hrows := (Answer.messages.inj (Except.ok.inj hsame)).1
  have hstub := congrArg Hydrated.replyTo (List.map_inj_left.mp hrows x hx)
  have hquoted : ∀ deletedAt, ((db.setDeleted req.messageId deletedAt).hydrateOne req.actor x).replyTo =
      some ⟨row.id, (db.columns row.id).seq, row.senderId,
        if deletedAt.isSome then none else some (Deletion.buildPreview row.type row.content false none),
          row.type⟩ := by
    intro deletedAt
    change (db.setDeleted req.messageId deletedAt).stub req.actor (db.columns x.id).replyToId = _
    unfold stub
    rw [hquote, Option.bind_some, find_setDeleted hrow, Option.filter_some]
    rw [if_pos (show (db.setDeleted req.messageId deletedAt).notDeletedForViewer req.actor
      { row with deletedAt := deletedAt } = true from hshown)]
    rfl
  rw [hquoted, hquoted] at hstub
  have hpreview := congrArg Stub.preview (Option.some.inj hstub)
  cases hpreview

lemma filter_delete_ne {ρ κ : Type} [DecidableEq κ] {key : ρ → κ} {t : KeyedTable key} {k : κ} {r : ρ}
    {p q : ρ → Bool} (hr : t.find k = some r) (hp : p r = true) (hq : q r = true) :
    (t.delete p).rows.filter q ≠ t.rows.filter q := by
  intro heq
  have hmem : r ∈ t.rows.filter q := List.mem_filter.mpr ⟨(KeyedTable.find_eq_some.mp hr).1, hq⟩
  rw [← heq] at hmem
  have hkept := (List.mem_filter.mp (List.mem_filter.mp hmem).1).2
  rw [hp] at hkept
  cases hkept

lemma confined_careful (hrow : db.service.messages.find req.messageId = some row)
    (hforeign : row.conversationId ≠ req.conversationId)
    (hactor : (db.tables.users.find req.actor).isSome = true) (hpermitted : ¬ db.Permitted req row)
    (h : db.Confined out req) : db.Careful req row := by
  unfold Careful
  cases hroute : req.route with
  | edit patch => exact edit_tells hroute hrow hpermitted h
  | thread limit after =>
    intro hallowed x hx hquote
    rw [← Bool.not_eq_true]
    intro hshown
    exact thread_tells hroute hrow hforeign hallowed hx hquote hshown h
  | unreact key =>
    rintro ⟨ctx, hctx⟩
    cases hf : db.reactions.find (req.messageId, req.actor, key) with
    | none => rfl
    | some r =>
      exfalso
      have hkey : r.key = (req.messageId, req.actor, key) := KeyedTable.find_key hf
      obtain ⟨hid, huser, hemoji⟩ : r.messageId = req.messageId ∧ r.userId = req.actor ∧ r.emoji = key := by
        simpa [Reaction.key] using hkey
      have hok : db.handle out req = .ok (.ok, { db with reactions := db.reactions.delete fun r =>
          r.messageId = req.messageId && r.userId = req.actor && r.emoji = key }) := by
        unfold handle unreact
        rw [hroute]
        dsimp only
        rw [hctx]
        rfl
      exact filter_delete_ne hf (by simp [hid, huser, hemoji]) (decide_eq_true hid)
        (congrArg Attached.reactions (h.attached _ _ hok))
  | callback response =>
    intro hkind htoken hown
    exact callback_tells hroute hrow hkind htoken hown h
  | reactions emoji => exact fun hmember => reactions_tell hroute hactor hmember h
  | vote optionIds => exact fun hallowed => vote_tells hroute hallowed h
  | closePoll => exact fun hmember => closePoll_tells hroute hrow hmember h
  | unpin =>
    rintro ⟨ctx, hctx⟩
    cases hf : db.pinnedMessages.find (req.conversationId, req.messageId) with
    | none => rfl
    | some p =>
      exfalso
      have hkey : p.key = (req.conversationId, req.messageId) := KeyedTable.find_key hf
      obtain ⟨hconversation, hid⟩ : p.conversationId = req.conversationId ∧ p.messageId = req.messageId := by
        simpa [PinnedMessage.key] using hkey
      have hok : db.handle out req = .ok (.pinned false, { db with
          pinnedMessages := db.pinnedMessages.delete fun p =>
            p.conversationId = req.conversationId && p.messageId = req.messageId }) := by
        unfold handle unpin
        rw [hroute]
        dsimp only
        rw [hctx]
        rfl
      exact filter_delete_ne hf (by simp [hconversation, hid]) (decide_eq_true hid)
        (congrArg Attached.pins (h.attached _ _ hok))
  | _ => trivial

end Database
end Apart

/-- A request is contained exactly if the message is of its conversation, or its caller passes the
check there, or the handler is careful. -/
theorem contained_iff {db : Database} {out : Outside} {req : Request} {row : Message}
    (hrow : db.service.messages.find req.messageId = some row) (hfresh : db.Fresh req)
    (hactor : (db.tables.users.find req.actor).isSome = true) :
    db.Contained req out row ↔
      row.conversationId = req.conversationId ∨ db.Permitted req row ∨ db.Careful req row := by
  constructor
  · intro h
    by_cases hforeign : row.conversationId = req.conversationId
    · exact Or.inl hforeign
    · by_cases hpermitted : db.Permitted req row
      · exact Or.inr (Or.inl hpermitted)
      · exact Or.inr (Or.inr (Database.confined_careful hrow hforeign hactor hpermitted
          (h hforeign hpermitted)))
  · rintro (hhere | hpermitted | hcareful) hforeign hnot
    · exact absurd hhere hforeign
    · exact absurd hpermitted hnot
    · exact Database.careful_confined hrow hforeign hfresh hnot hcareful

namespace Sample

def message : Message := ⟨100, 2, 10, .poll, none, none, none, none, none, [], [], none, 0, none, none, none⟩

def poll : Poll := ⟨200, 100, "Lunch?", false, false, none, none, [], []⟩

def database : Database where
  tables := {
    conversations := ⟨[Permissions.Sample.conversation 1 .group none,
      Permissions.Sample.conversation 2 .group none], by decide⟩
    conversationMembers := ⟨[.new 1 12 .owner 0 0, .new 2 10 .owner 0 0], by decide⟩
    conversationRoles := .empty
    memberRoles := .empty
    conversationRoleOverwrites := .empty
    conversationBans := .empty
    users := ⟨[⟨10, false⟩, ⟨12, false⟩], Permissions.Sample.two_users⟩
    applications := .empty
    conversationApps := .empty
    invites := .empty
    assigned_exists := Permissions.Sample.none_assigned
    one_level := by unfold Permissions.OneLevel; decide }
  service := ⟨⟨[message], by decide⟩, by decide, by decide⟩
  columns := fun _ => ⟨1, none, none, false⟩
  reactions := .empty
  polls := ⟨[poll], by decide⟩
  envelopes := .empty
  previews := []
  pinnedMessages := .empty
  revisions := []
  messageDeletions := []
  savedMessages := .empty
  isBoard := fun _ => false
  isForum := fun _ => false
  badge := fun _ => none
  isStaff := fun _ => false

def outside : Outside where
  wordish := fun _ => false
  translate := none
  findButton := fun _ _ => none
  dispatch := fun _ => ⟨.ack, none, none, none⟩
  refusal := fun _ _ => none

def request (route : Route) : Request := ⟨12, 0, 1, 100, 5, 300, route⟩

lemma fresh (route : Route) : database.Fresh (request route) := by
  intro x hx
  obtain rfl := List.mem_singleton.mp hx
  exact ⟨show (100 : ℕ) ≠ 300 by decide, nofun⟩

lemma not_permitted (route : Route) : ¬ database.Permitted (request route) message := by
  rintro ⟨ctx, hctx, -⟩
  have hnone : (database.tables.requireMember 2 12 5).toOption.isNone = true := by decide
  rw [show database.tables.requireMember 2 12 5 = .ok ctx from hctx] at hnone
  cases hnone

end Sample

open Sample

/-- The ciphertext of a message of another group is not fetched. -/
theorem contained_iff_envelope : database.Contained (request .envelope) outside message :=
  (@contained_iff database outside (request .envelope) message rfl (fresh .envelope) rfl).mpr
    (Or.inr (Or.inr trivial))

/-- The owner of one group closes the poll of another. -/
theorem foreign_poll_closed :
    ¬ ∀ (db : Database) (out : Outside) (req : Request) (row : Message),
      db.service.messages.find req.messageId = some row → db.Fresh req →
      (db.tables.users.find req.actor).isSome = true → db.Contained req out row := by
  intro h
  have hconfined := h database outside (request .closePoll) message rfl (fresh .closePoll) rfl
    (by decide) (not_permitted .closePoll)
  cases hctx : database.tables.requireMember 1 12 5 with
  | error e =>
    have hsome : (database.tables.requireMember 1 12 5).toOption.isSome = true := by decide
    rw [hctx] at hsome
    cases hsome
  | ok ctx =>
    have hmember : database.Member (request .closePoll) 1 := ⟨ctx, hctx⟩
    exact Database.closePoll_tells rfl rfl hmember hconfined

end Yappy.MessageRoutes
