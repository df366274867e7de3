import Yappy.LazyMembership
import Yappy.PermissionRejoin

/-!
# The payload of a conversation

What `ConversationService.create` and `addMembers` of `apps/api/src/services/conversations.ts` publish with
`Event.ConversationCreate`: one `view`, of the actor, to everybody. `view` is the payload as one viewer sees it.
-/
namespace Yappy.Payloads

open LazyRows (NotificationLevel)
open Permissions (AppError Conversation ConversationMember ConversationType MemberRole SkipReason Time Uuid ensure
  conflict notFound)

/-- Columns of `conversation_members` that only their own user is shown. -/
structure Preferences where
  nickname : Option String
  notificationLevel : Option NotificationLevel
  isHidden : Bool

def Preferences.initial : Preferences := ⟨none, none, false⟩

structure Database where
  tables : Permissions.Database
  preferences : Uuid × Uuid → Preferences
  dmKey : Uuid → Option (Uuid × Uuid)

/-- `self` of a payload: "per-viewer state". -/
structure SelfState where
  role : MemberRole
  isAffiliate : Bool
  lastReadSeq : ℕ
  unreadCount : ℕ
  mentionCount : ℕ
  notificationLevel : NotificationLevel
  mutedUntil : Option Time
  isPinned : Bool
  isArchived : Bool
  isHidden : Bool
  nickname : Option String
  draft : Option String
  joinedAt : Time
  historyStartSeq : ℕ

/-- What depends on the viewer, and the conversation that it is about. -/
structure Payload where
  conversation : Conversation
  memberCount : ℕ
  parentTitle : Option String
  otherUser : Option Uuid
  permissions : ℕ
  canPost : Bool
  self : SelfState

/-- `dmKey`. -/
def buildDmKey (userA userB : Uuid) : Uuid × Uuid := if userA < userB then (userA, userB) else (userB, userA)

def selfOf (role : MemberRole) (m : ConversationMember) (preferences : Preferences) (messageSeq : ℕ) : SelfState where
  role := role
  isAffiliate := m.isAffiliate
  lastReadSeq := m.lastReadSeq
  unreadCount := messageSeq - m.lastReadSeq
  mentionCount := m.mentionCount
  notificationLevel := preferences.notificationLevel.getD .all
  mutedUntil := m.mutedUntil
  isPinned := m.isPinned
  isArchived := m.isArchived
  isHidden := preferences.isHidden
  nickname := preferences.nickname
  draft := m.draft
  joinedAt := m.joinedAt
  historyStartSeq := m.historyStartSeq

def numbered (c : Conversation) : Conversation := { c with messageSeq := c.messageSeq + 1 }

lemma insertRoot {conversations : KeyedTable Conversation.id} {c : Conversation}
    (h : Permissions.OneLevel conversations) (hroot : c.parentId = none) :
    Permissions.OneLevel (conversations.insertIgnore c) := by
  intro c' hc' p hp
  rcases KeyedTable.mem_insertIgnore hc' with rfl | hrow
  · rw [hroot] at hp
    exact absurd hp.symm (Option.some_ne_none p)
  · obtain ⟨hchannel, hspace⟩ := h c' hrow p hp
    refine ⟨hchannel, ?_⟩
    rw [KeyedTable.find_insertIgnore]
    cases hs : conversations.find p with
    | none => simp [hs] at hspace
    | some s =>
      rw [hs] at hspace
      split_ifs <;> exact hspace

namespace Database
variable (db : Database)

def thread (key : Uuid × Uuid) : Option Conversation :=
  db.tables.conversations.rows.find? fun c => db.dmKey c.id = some key

def openThread (key : Uuid × Uuid) : Option Conversation :=
  db.tables.conversations.rows.find? fun c => db.dmKey c.id = some key && c.deletedAt.isNone

/-- `notificationLevel`, `isHidden` and `nickname` of `ctx.member`: a row that is synthesised is the space's. -/
def preferencesOf (ctx : Permissions.MemberContext) (viewerId : Uuid) : Preferences :=
  db.preferences (if ctx.memberIsVirtual then ctx.conversation.scope else ctx.conversation.id, viewerId)

/-- The query for the other user of a thread; `users` is a foreign key, so that the join loses no row. -/
def otherUser (c : Conversation) (viewerId : Uuid) : Option Uuid :=
  if c.type = .dm then (db.tables.conversationMembers.rows.find? fun m =>
    m.conversationId = c.id && m.userId ≠ viewerId).map ConversationMember.userId
  else none

/-- `toConversation`, of the caller's context. -/
def toConversation (ctx : Permissions.MemberContext) (viewerId : Uuid) : Payload where
  conversation := ctx.conversation
  memberCount := db.tables.memberCount ctx.conversation.scope
  parentTitle := (ctx.conversation.parentId.bind db.tables.conversations.find).bind Conversation.title
  otherUser := db.otherUser ctx.conversation viewerId
  permissions := ctx.permissions
  canPost := Permissions.has ctx.permissions Permissions.Permission.sendMessages
  self := selfOf ctx.member.role ctx.member (db.preferencesOf ctx viewerId) ctx.conversation.messageSeq

def view (conversationId viewerId : Uuid) (clock : Time) : Except AppError Payload := do
  let ctx ← db.tables.requireMember conversationId viewerId clock
  return db.toConversation ctx viewerId

/-- The two inserts of a new conversation, which belongs to no space; none where a row or a key exists already. -/
def insert (c : Conversation) (hroot : c.parentId = none) (key : Option (Uuid × Uuid))
    (members : List ConversationMember) : Option Database :=
  if (db.tables.conversations.find c.id).isSome || key.any (fun k => (db.thread k).isSome) ||
      members.any (fun m => (db.tables.conversationMembers.find m.key).isSome) then none
  else some {
    tables := { db.tables with
      conversations := db.tables.conversations.insertIgnore c
      conversationMembers := members.foldl KeyedTable.insertIgnore db.tables.conversationMembers
      one_level := insertRoot db.tables.one_level hroot }
    preferences := fun k => if members.any fun m => m.key = k then .initial else db.preferences k
    dmKey := Function.update db.dmKey c.id key }

/-- `writeSystemMessage`: a message takes a number. -/
def announced (id : Uuid) : Database :=
  { db with
    tables := { db.tables with
      conversations := db.tables.conversations.update (fun c => c.id = id) numbered fun _ => rfl
      one_level := db.tables.one_level.update (fun _ => rfl) fun _ => rfl } }

def reopen (id : Uuid) : Database :=
  { db with
    tables := { db.tables with
      conversationMembers := db.tables.conversationMembers.update (fun m => m.conversationId = id)
        (fun m => { m with leftAt := none }) fun _ => rfl } }

end Database

def fresh (id : Uuid) (type : ConversationType) (disappearingSeconds : ℕ) : Conversation where
  id := id
  type := type
  title := none
  description := none
  avatarMediaId := none
  parentId := none
  ownerId := none
  messageSeq := 0
  basePermissions := none
  disappearingSeconds := disappearingSeconds
  slowModeSeconds := 0
  historyVisibility := "since_join"
  isPublic := false
  badge := none
  appearance := none
  deletedAt := none

/-- A body of `POST /conversations`. -/
structure CreateInput where
  type : ConversationType
  memberIds : List Uuid
  title : Option String
  description : Option String
  avatarMediaId : Option Uuid
  disappearingSeconds : ℕ
  pair : type = .dm → memberIds.length = 1

def CreateInput.otherId (input : CreateInput) (h : input.type = .dm) : Uuid :=
  input.memberIds.head (List.ne_nil_of_length_eq_add_one (input.pair h))

def newGroup (actor id : Uuid) (input : CreateInput) : Conversation :=
  { fresh id input.type input.disappearingSeconds with
    title := input.title, description := input.description, avatarMediaId := input.avatarMediaId, ownerId := some actor }

def founders (actor id : Uuid) (allowed : List Uuid) (clock : Time) : List ConversationMember :=
  .new id actor .owner clock 0 ::
    allowed.map fun userId => { ConversationMember.new id userId .member clock 0 with invitedById := some actor }

structure Outcome where
  db : Database
  delivered : List (Uuid × Payload)

structure Created extends Outcome where
  conversation : Payload
  created : Bool

structure Added extends Outcome where
  added : List Uuid
  skipped : List (Uuid × SkipReason)

def toUsers (userIds : List Uuid) (view : Payload) : List (Uuid × Payload) := userIds.map fun userId => (userId, view)

namespace Database
variable (db : Database)

/-- Refuse as `assertCanInitiate` does. -/
def assertCanInitiate (refusal : Uuid → Option AppError) (userId : Uuid) : Except AppError Unit :=
  match refusal userId with
  | some e => .error e
  | none => .ok ()

/-- The thread of two; `looked` is what the lookup before the transaction saw. -/
def createDm (looked : Database) (actor otherId id : Uuid) (disappearingSeconds : ℕ)
    (refusal : Uuid → Option AppError) (clock : Time) : Except AppError Created := do
  ensure (otherId ≠ actor) (conflict "You cannot DM yourself")
  assertCanInitiate refusal otherId
  let key := buildDmKey actor otherId
  match looked.openThread key with
  | some existing => do
    let db := db.reopen existing.id
    let view ← db.view existing.id actor clock
    return ⟨⟨db, []⟩, view, false⟩
  | none =>
    match db.insert (fresh id .dm disappearingSeconds) rfl (some key)
        [.new id actor .member clock 0, .new id otherId .member clock 0] with
    | some db => do
      let view ← db.view id actor clock
      return ⟨⟨db, toUsers [actor, otherId] view⟩, view, true⟩
    | none =>
      -- lost the race on the unique index: the winner's thread
      match db.thread key with
      | some row => do
        let view ← db.view row.id actor clock
        return ⟨⟨db, []⟩, view, false⟩
      | none => .error Permissions.internalError

def allowed (actor : Uuid) (memberIds : List Uuid) (refusal : Uuid → Option AppError) : List Uuid :=
  (memberIds.filter fun userId => userId ≠ actor).eraseDups.filter fun userId => (refusal userId).isNone

def createGroup (actor id : Uuid) (input : CreateInput) (refusal : Uuid → Option AppError) (clock : Time) :
    Except AppError Created := do
  ensure ((input.memberIds.filter fun userId => userId ≠ actor).eraseDups.length + 1 ≤ Permissions.groupMembersMax)
    (conflict "A conversation can hold at most 5000 members")
  let allowed := allowed actor input.memberIds refusal
  match db.insert (newGroup actor id input) rfl none (founders actor id allowed clock) with
  | some db => do
    let db := db.announced id
    let view ← db.view id actor clock
    return ⟨⟨db, toUsers (actor :: allowed) view⟩, view, true⟩
  | none => .error Permissions.internalError

/-- `create`, with the id that is drawn. -/
def create (looked : Database) (actor id : Uuid) (input : CreateInput) (refusal : Uuid → Option AppError) (clock : Time) :
    Except AppError Created :=
  if h : input.type = .dm then db.createDm looked actor (input.otherId h) id input.disappearingSeconds refusal clock
  else db.createGroup actor id input refusal clock

/-- The tables after the transaction of `addMembers`; a row that is new is at its defaults. -/
def joined (tables : Permissions.Database) (id : Uuid) (added : List Uuid) : Database :=
  { db with
    tables := tables
    preferences := fun k => if k.1 = id ∧ k.2 ∈ added ∧ db.tables.memberRow id k.2 = none then .initial
      else db.preferences k }

def addMembers (actor id : Uuid) (userIds : List Uuid) (refusal : Uuid → Option AppError) (clock : Time) :
    Except AppError Added := do
  let (tables, added, skipped) ← db.tables.addMembers actor id userIds (fun userId => (refusal userId).isNone) clock
  if added = [] then return ⟨⟨db, []⟩, added, skipped⟩
  else
    let db := (db.joined tables id added).announced id
    let view ← db.view id actor clock
    return ⟨⟨db, toUsers added view⟩, added, skipped⟩

/-! ### What is private to a member -/

end Database

/-- What a member row says that decides no permission. -/
structure PrivateState where
  preferences : Preferences
  isAffiliate : Bool
  lastReadSeq : ℕ
  mentionCount : ℕ
  isPinned : Bool
  isArchived : Bool
  draft : Option String

def PrivateState.set (state : Uuid → PrivateState) (m : ConversationMember) : ConversationMember :=
  { m with
    isAffiliate := (state m.conversationId).isAffiliate
    lastReadSeq := (state m.conversationId).lastReadSeq
    mentionCount := (state m.conversationId).mentionCount
    isPinned := (state m.conversationId).isPinned
    isArchived := (state m.conversationId).isArchived
    draft := (state m.conversationId).draft }

def withRows (tables : Permissions.Database) (actor : Uuid) (c : Conversation) (id : Uuid) (clock : Time)
    (added : List Uuid) : Permissions.Database :=
  { tables with conversationMembers := tables.addRows actor c id clock added }

def setPrivate (tables : Permissions.Database) (user : Uuid) (state : Uuid → PrivateState) : Permissions.Database :=
  { tables with
    conversationMembers := tables.conversationMembers.update (fun m => m.userId = user) (PrivateState.set state)
      fun _ => rfl }

def Database.withPrivate (db : Database) (user : Uuid) (state : Uuid → PrivateState) : Database :=
  { db with
    tables := setPrivate db.tables user state
    preferences := fun k => if k.2 = user then (state k.1).preferences else db.preferences k }

/-! ### Calls -/

inductive Call
  | create (looked : Database) (id : Uuid) (input : CreateInput)
  | addMembers (id : Uuid) (userIds : List Uuid)

namespace Call

def run (call : Call) (db : Database) (actor : Uuid) (refusal : Uuid → Option AppError) (clock : Time) :
    Except AppError Outcome :=
  match call with
  | create looked id input => Created.toOutcome <$> db.create looked actor id input refusal clock
  | addMembers id userIds => Added.toOutcome <$> db.addMembers actor id userIds refusal clock

def delivered (call : Call) (db : Database) (actor : Uuid) (refusal : Uuid → Option AppError) (clock : Time) :
    List (Uuid × Payload) :=
  match call.run db actor refusal clock with
  | .ok out => out.delivered
  | .error _ => []

/-- Every payload is its recipient's own, and says nothing of the actor to anybody else. -/
structure Own (call : Call) (db : Database) (actor : Uuid) (refusal : Uuid → Option AppError) (clock : Time) : Prop where
  view (out : Outcome) : call.run db actor refusal clock = .ok out → ∀ u payload, (u, payload) ∈ out.delivered →
    out.db.view payload.conversation.id u clock = .ok payload
  apart (state : Uuid → PrivateState) (u : Uuid) (payload : Payload) : u ≠ actor →
    ((u, payload) ∈ call.delivered (db.withPrivate actor state) actor refusal clock ↔
      (u, payload) ∈ call.delivered db actor refusal clock)

end Call

/-! ### Inserting -/

section Insert
variable {ρ κ : Type} [DecidableEq κ] {key : ρ → κ}

lemma find_insertAll {rows : List ρ} (hnodup : (rows.map key).Nodup) {t : KeyedTable key}
    (hnew : ∀ r ∈ rows, t.find (key r) = none) {r : ρ} (hr : r ∈ rows) :
    (rows.foldl KeyedTable.insertIgnore t).find (key r) = some r := by
  induction rows using List.reverseRecOn with
  | nil => exact absurd hr List.not_mem_nil
  | append_singleton rows x ih =>
    rw [List.map_append, List.nodup_append] at hnodup
    obtain ⟨hrows, -, hapart⟩ := hnodup
    rw [List.foldl_concat, KeyedTable.find_insertIgnore]
    rcases List.mem_append.mp hr with hr | hr
    · rw [if_neg (hapart _ (List.mem_map_of_mem hr) _ (List.mem_map_of_mem (List.mem_singleton_self x))).symm]
      exact ih hrows (fun r hr => hnew r (List.mem_append_left _ hr)) hr
    · obtain rfl := List.mem_singleton.mp hr
      rw [if_pos rfl]
      have hnone : ∀ rows' : List ρ, (∀ r' ∈ rows', key r' ≠ key r) →
          (rows'.foldl KeyedTable.insertIgnore t).find (key r) = none := by
        intro rows'
        induction rows' using List.reverseRecOn with
        | nil => exact fun _ => hnew r (List.mem_append_right _ (List.mem_singleton_self r))
        | append_singleton rows' y ih' =>
          intro hne
          rw [List.foldl_concat, KeyedTable.find_insertIgnore,
            if_neg (hne y (List.mem_append_right _ (List.mem_singleton_self y)))]
          exact ih' fun r' hr' => hne r' (List.mem_append_left _ hr')
      rw [hnone rows fun r' hr' => hapart _ (List.mem_map_of_mem hr') _ (List.mem_map_of_mem (List.mem_singleton_self r)),
        Option.getD_none]

end Insert

namespace Database
variable {db db' : Database} {c : Conversation} {hroot : c.parentId = none} {key : Option (Uuid × Uuid)}
  {members : List ConversationMember} {id u actor : Uuid} {clock : Time} {payload : Payload}

lemma insert_eq_some (h : db.insert c hroot key members = some db') :
    db.tables.conversations.find c.id = none ∧
      (∀ m ∈ members, db.tables.conversationMembers.find m.key = none) ∧
      db'.tables.conversations.find c.id = some c ∧
      db'.tables.conversationMembers = members.foldl KeyedTable.insertIgnore db.tables.conversationMembers := by
  unfold insert at h
  split_ifs at h with hnew
  obtain rfl := Option.some.inj h
  simp only [Bool.or_eq_true, not_or, Bool.not_eq_true, Option.isSome_eq_false_iff, Option.isNone_iff_eq_none,
    List.any_eq_false] at hnew
  obtain ⟨⟨hid, -⟩, hmembers⟩ := hnew
  refine ⟨hid, fun m hm => by simpa using hmembers m hm, ?_, rfl⟩
  change (db.tables.conversations.insertIgnore c).find c.id = some c
  rw [KeyedTable.find_insertIgnore, if_pos rfl, hid, Option.getD_none]

lemma find_announced (hfind : db.tables.conversations.find id = some c) :
    (db.announced id).tables.conversations.find id = some (numbered c) := by
  have hid : c.id = id := KeyedTable.find_key hfind
  have hupdate := KeyedTable.find_update db.tables.conversations (fun c => c.id = id) numbered (fun _ => rfl) id
  rw [hfind, Option.map_some, if_pos (decide_eq_true hid)] at hupdate
  exact hupdate

lemma view_eq_ok : db.view id u clock = .ok payload ↔
    ∃ ctx, db.tables.loadMemberContext id u clock = some ctx ∧ db.toConversation ctx u = payload := by
  simp only [view, Permissions.bind_eq_ok, Permissions.Database.requireMember_eq_ok]
  refine exists_congr fun ctx => and_congr_right fun _ => ?_
  exact ⟨Except.ok.inj, congrArg Except.ok⟩

lemma view_role (hfind : db.tables.conversations.find id = some c) (hroot : c.parentId = none)
    (hview : db.view id u clock = .ok payload) : ∃ m, db.tables.memberRow id u = some m ∧ payload.self.role = m.role := by
  obtain ⟨ctx, hctx, rfl⟩ := view_eq_ok.mp hview
  obtain ⟨c', a, hc', -, ha, -, -, hm, -⟩ := Permissions.Database.loadMemberContext_eq_some.mp hctx
  obtain rfl := Option.some.inj (hfind.symm.trans hc')
  unfold Permissions.Database.authority at ha
  rw [hroot] at ha
  have hid : c.id = id := KeyedTable.find_key hfind
  refine ⟨a, by rw [← hid]; exact ha, ?_⟩
  change ctx.member.role = a.role
  rw [hm]

lemma view_conversation (hview : db.view id u clock = .ok payload) : payload.conversation.id = id := by
  obtain ⟨ctx, hctx, rfl⟩ := view_eq_ok.mp hview
  obtain ⟨c', a, hc', -, -, -, hc, -⟩ := Permissions.Database.loadMemberContext_eq_some.mp hctx
  change ctx.conversation.id = id
  rw [hc]
  exact KeyedTable.find_key hc'

lemma view_otherUser (hview : db.view id u clock = .ok payload) (htype : payload.conversation.type = .dm) {x : Uuid}
    (hother : payload.otherUser = some x) : x ≠ u := by
  obtain ⟨ctx, -, rfl⟩ := view_eq_ok.mp hview
  change ctx.conversation.type = .dm at htype
  change db.otherUser ctx.conversation u = some x at hother
  rw [otherUser, if_pos htype] at hother
  obtain ⟨m, hm, rfl⟩ := Option.map_eq_some_iff.mp hother
  have hcond := List.find?_some hm
  simp only [Bool.and_eq_true, decide_eq_true_eq] at hcond
  exact hcond.2

end Database

/-! ### New conversations -/

section Create
variable {db looked : Database} {actor otherId id : Uuid} {disappearingSeconds : ℕ} {input : CreateInput}
  {refusal : Uuid → Option AppError} {clock : Time} {out : Created}

lemma createDm_ok (h : db.createDm looked actor otherId id disappearingSeconds refusal clock = .ok out) :
    otherId ≠ actor ∧ Database.assertCanInitiate refusal otherId = .ok () ∧
    ((out.delivered = [] ∧ ((looked.openThread (buildDmKey actor otherId)).isSome ∨
      (db.thread (buildDmKey actor otherId)).isSome)) ∨
    (looked.openThread (buildDmKey actor otherId) = none ∧
      db.insert (fresh id .dm disappearingSeconds) rfl (some (buildDmKey actor otherId))
        [.new id actor .member clock 0, .new id otherId .member clock 0] = some out.db ∧
      out.db.view id actor clock = .ok out.conversation ∧
      out.delivered = toUsers [actor, otherId] out.conversation)) := by
  unfold Database.createDm at h
  simp only [Permissions.bind_eq_ok, Permissions.exists_unit, Permissions.ensure_eq_ok, decide_eq_true_eq] at h
  obtain ⟨hself, hrefusal, h⟩ := h
  refine ⟨hself, hrefusal, ?_⟩
  cases hlooked : looked.openThread (buildDmKey actor otherId) with
  | some existing =>
    rw [hlooked] at h
    simp only [Permissions.bind_eq_ok] at h
    obtain ⟨view, -, h⟩ := h
    obtain rfl := Except.ok.inj h
    exact .inl ⟨rfl, .inl rfl⟩
  | none =>
    rw [hlooked] at h
    cases hinsert : db.insert (fresh id .dm disappearingSeconds) rfl (some (buildDmKey actor otherId))
        [.new id actor .member clock 0, .new id otherId .member clock 0] with
    | some db' =>
      rw [hinsert] at h
      simp only [Permissions.bind_eq_ok] at h
      obtain ⟨view, hview, h⟩ := h
      obtain rfl := Except.ok.inj h
      exact .inr ⟨rfl, rfl, hview, rfl⟩
    | none =>
      rw [hinsert] at h
      cases hthread : db.thread (buildDmKey actor otherId) with
      | none => simp [hthread] at h
      | some row =>
        rw [hthread] at h
        simp only [Permissions.bind_eq_ok] at h
        obtain ⟨view, -, h⟩ := h
        obtain rfl := Except.ok.inj h
        exact .inl ⟨rfl, .inr rfl⟩

lemma insert_taken {c : Conversation} {hroot : c.parentId = none} {key : Uuid × Uuid} {members : List ConversationMember}
    (h : (db.thread key).isSome) : db.insert c hroot (some key) members = none := by
  unfold Database.insert
  rw [if_pos]
  simp [h]

lemma createGroup_ok (h : db.createGroup actor id input refusal clock = .ok out) :
    ∃ db', db.insert (newGroup actor id input) rfl none
        (founders actor id (Database.allowed actor input.memberIds refusal) clock) = some db' ∧
      out.db = db'.announced id ∧ out.db.view id actor clock = .ok out.conversation ∧
      out.delivered = toUsers (actor :: Database.allowed actor input.memberIds refusal) out.conversation := by
  unfold Database.createGroup at h
  simp only [Permissions.bind_eq_ok, Permissions.exists_unit, Permissions.ensure_eq_ok] at h
  obtain ⟨-, h⟩ := h
  split at h
  · rename_i db' hinsert
    simp only [Permissions.bind_eq_ok] at h
    obtain ⟨view, hview, h⟩ := h
    obtain rfl := Except.ok.inj h
    exact ⟨db', hinsert, rfl, hview, rfl⟩
  · cases h

lemma nodup_eraseDups : ∀ ids : List Uuid, ids.eraseDups.Nodup
  | [] => List.nodup_nil
  | id :: ids => by
    rw [List.eraseDups_cons, List.nodup_cons, List.mem_eraseDups]
    exact ⟨by simp, nodup_eraseDups _⟩
termination_by ids => ids.length
decreasing_by exact Nat.lt_succ_of_le (List.length_filter_le _ _)

lemma allowed_nodup (memberIds : List Uuid) : (actor :: Database.allowed actor memberIds refusal).Nodup := by
  rw [List.nodup_cons]
  refine ⟨fun hmem => ?_, (nodup_eraseDups _).sublist List.filter_sublist⟩
  have hmem' := (List.mem_filter.mp hmem).1
  rw [List.mem_eraseDups] at hmem'
  simpa using (List.mem_filter.mp hmem').2

lemma dm_not_own (h : db.createDm looked actor otherId id disappearingSeconds refusal clock = .ok out)
    (hown : ∀ u payload, (u, payload) ∈ out.delivered → out.db.view payload.conversation.id u clock = .ok payload) :
    (looked.openThread (buildDmKey actor otherId)).isSome ∨ (db.thread (buildDmKey actor otherId)).isSome := by
  obtain ⟨hself, -, ⟨-, hthread⟩ | ⟨-, hinsert, hview, hdelivered⟩⟩ := createDm_ok h
  · exact hthread
  · exfalso
    have hother := hown otherId out.conversation (by simp [hdelivered, toUsers])
    obtain ⟨-, hnew, hfind, hmembers⟩ := Database.insert_eq_some hinsert
    have hrows : out.db.tables.conversationMembers.rows = .new id otherId .member clock 0 ::
        .new id actor .member clock 0 :: db.tables.conversationMembers.rows := by
      have hactor : (db.tables.conversationMembers.insertIgnore (.new id actor .member clock 0)).rows =
          .new id actor .member clock 0 :: db.tables.conversationMembers.rows :=
        KeyedTable.insertIgnore_rows (hnew _ (List.mem_cons_self))
      have hapart : ConversationMember.key (.new id actor .member clock 0) ≠
          ConversationMember.key (.new id otherId .member clock 0) := fun he => hself (congrArg Prod.snd he).symm
      rw [hmembers, List.foldl_cons, List.foldl_cons, List.foldl_nil, KeyedTable.insertIgnore_rows, hactor]
      rw [KeyedTable.find_insertIgnore, if_neg hapart]
      exact hnew _ (List.mem_cons_of_mem _ (List.mem_singleton_self _))
    obtain ⟨ctx, hctx, hpayload⟩ := Database.view_eq_ok.mp hview
    obtain ⟨c, a, hc, -, -, -, hcc, -⟩ := Permissions.Database.loadMemberContext_eq_some.mp hctx
    have hid : (fresh id .dm disappearingSeconds).id = id := rfl
    rw [hid] at hfind
    obtain rfl := Option.some.inj (hfind.symm.trans hc)
    have hconversation : out.conversation.conversation = fresh id .dm disappearingSeconds := by rw [← hpayload]; exact hcc
    have hotherUser : out.conversation.otherUser = some otherId := by
      rw [← hpayload]
      change out.db.otherUser ctx.conversation actor = some otherId
      rw [hcc]
      simp [Database.otherUser, fresh, hrows, ConversationMember.new, hself]
    exact Database.view_otherUser hother (by rw [hconversation]; rfl) hotherUser rfl

lemma founders_keys (memberIds : List Uuid) :
    ((founders actor id (Database.allowed actor memberIds refusal) clock).map ConversationMember.key).Nodup := by
  unfold founders
  rw [List.map_cons, List.map_map]
  have hinj : Function.Injective fun userId : Uuid => (id, userId) := fun a b he => congrArg Prod.snd he
  exact (@allowed_nodup actor refusal memberIds).map hinj

lemma group_not_own (h : db.createGroup actor id input refusal clock = .ok out)
    (hown : ∀ u payload, (u, payload) ∈ out.delivered → out.db.view payload.conversation.id u clock = .ok payload) :
    Database.allowed actor input.memberIds refusal = [] := by
  obtain ⟨db', hinsert, hdb, hview, hdelivered⟩ := createGroup_ok h
  rw [List.eq_nil_iff_forall_not_mem]
  intro u hu
  obtain ⟨-, hnew, hfind, hmembers⟩ := Database.insert_eq_some hinsert
  have hrow : ∀ m ∈ founders actor id (Database.allowed actor input.memberIds refusal) clock,
      out.db.tables.conversationMembers.find m.key = some m := by
    intro m hm
    rw [hdb]
    change db'.tables.conversationMembers.find m.key = some m
    rw [hmembers]
    exact find_insertAll (founders_keys input.memberIds) hnew hm
  have hfound : out.db.tables.conversations.find id = some (numbered (newGroup actor id input)) := by
    rw [hdb]
    exact Database.find_announced hfind
  have hother := hown u out.conversation (by
    rw [hdelivered]
    exact List.mem_map_of_mem (List.mem_cons_of_mem _ hu))
  rw [Database.view_conversation hview] at hother
  obtain ⟨m, hm, hrole⟩ := Database.view_role hfound rfl hother
  obtain ⟨o, ho, howner⟩ := Database.view_role hfound rfl hview
  have hmember := hrow { ConversationMember.new id u .member clock 0 with invitedById := some actor }
    (List.mem_cons_of_mem _ (List.mem_map_of_mem hu))
  have hactor := hrow _ List.mem_cons_self
  obtain rfl := Option.some.inj (hmember.symm.trans hm)
  obtain rfl := Option.some.inj (hactor.symm.trans ho)
  have hroles : Permissions.MemberRole.owner = .member := howner.symm.trans hrole
  exact absurd hroles (by decide)

end Create

end Yappy.Payloads
