import Yappy.MessageWithheld
import Yappy.OrderedMap

/-!
# Delta sync

`POST /sync` of `apps/api/src/routes/sync.ts`: what changed in a user's conversations since the
cursors that a client holds, and exactly when one conversation spoils the answer about all.
-/
namespace Yappy.Sync

open Pages (Query)
open Permissions (AppError Conversation ConversationMember Time Uuid effectivePermissions has)
open Reads (Hydrated HistoryOptions)

/-- `POST /sync` reads what readers of messages do, and three columns more. -/
structure Database where
  reads : Reads.Database
  isHidden : Uuid × Uuid → Bool
  updatedAt : Uuid → Time
  lastMessageAt : Uuid → Option Time

/-- `syncBody`. -/
structure Body where
  /-- The highest number that the client holds, for each conversation it knows. -/
  cursors : List (Uuid × ℕ)
  messagesPerConversation : ℕ
  since : Option Time
  cursors_le : cursors.length ≤ 1000
  messages_le : messagesPerConversation ≤ 100

namespace Body
variable (body : Body)

def cursorMap : OrderedMap Uuid ℕ :=
  body.cursors.foldl (fun map c => OrderedMap.set map c.1 c.2) ∅

def cursor (conversationId : Uuid) : Option ℕ := body.cursorMap.lookup conversationId

def gap (c : Conversation) : ℕ :=
  (body.cursor c.id).elim body.messagesPerConversation fun cursor => c.messageSeq - cursor

end Body

structure Slice where
  conversationId : Uuid
  messages : List Hydrated
  truncated : Bool

structure Response where
  conversations : List Uuid
  messages : List Slice
  removedConversations : List Uuid
  unread : List (Uuid × ℕ × ℕ)
  resyncRequired : Bool

/-- The states in which one call of `history` finds the permissions and the messages. -/
structure Reading where
  permissions : Reads.Database
  messages : Reads.Database
  clock : Time

/-- `history`, whose statements need not see one state. -/
def Reading.history (reading : Reading) (viewer conversationId : Uuid) (opts : HistoryOptions) :
    Except AppError Reads.Response := do
  let ctx ← reading.permissions.tables.requirePermission conversationId viewer
    Permissions.Permission.readHistory reading.clock
  let rows := reading.messages.historyRows viewer conversationId ctx.member.historyStartSeq opts
  return ⟨reading.messages.hydrateMany viewer rows, [],
    .history (rows.length = opts.limit) ctx.member.historyStartSeq ctx.conversation.messageSeq⟩

def slice (body : Body) (reading : Reading) (viewer : Uuid)
    (row : Conversation × ConversationMember) : Except AppError Slice :=
  if body.messagesPerConversation = 0 ∨ body.gap row.1 = 0 then .ok ⟨row.1.id, [], false⟩
  else do
    let cursor := body.cursor row.1.id
    let truncated := decide (body.messagesPerConversation < body.gap row.1)
    let result ← reading.history viewer row.1.id {
      limit := min (body.gap row.1) body.messagesPerConversation
      before := none
      after := if truncated then none else cursor.map fun seq => max seq row.2.historyStartSeq
      around := none
      includeDeleted := cursor.isSome }
    return ⟨row.1.id, result.messages, truncated⟩

namespace Database
variable (db : Database) (viewer : Uuid)

/-- The conversations, not hidden, that the user has a row in. -/
def memberships : List (Conversation × ConversationMember) :=
  (db.reads.tables.conversationMembers.rows.filter fun m =>
    m.userId = viewer && m.leftAt.isNone && !db.isHidden m.key).filterMap fun m =>
      ((db.reads.tables.conversations.find m.conversationId).filter fun c =>
        c.deletedAt.isNone).map fun c => (c, m)

def currentIds : List Uuid := (db.memberships viewer).map fun row => row.1.id

def removed (body : Body) : List Uuid :=
  body.cursorMap.oldest.filter fun id => id ∉ db.currentIds viewer

def changed (body : Body) : List (Conversation × ConversationMember) :=
  (db.memberships viewer).filter fun row =>
    match body.cursor row.1.id with
    -- the client has never seen it
    | none => true
    | some cursor => cursor < row.1.messageSeq ||
        body.since.any fun since => since < db.updatedAt row.1.id || since < row.2.joinedAt

def homeQuery : Query (Conversation × ConversationMember) (List ℤ) where
  admitted := (db.memberships viewer).filter fun row => row.1.parentId.isNone && !row.2.isArchived
  order row := (if row.2.isPinned then 0 else 1) ::
    (db.lastMessageAt row.1.id).elim [] fun at_ => [-(at_ : ℤ)]
  limit := 200

/-- `conversation_unread`. -/
def unread : List (Uuid × ℕ × ℕ) :=
  (db.reads.tables.conversationMembers.rows.filter fun m => m.userId = viewer && m.leftAt.isNone
    ).filterMap fun m => ((db.reads.tables.conversations.find m.conversationId).filter fun c =>
      c.deletedAt.isNone).map fun c => (c.id, c.messageSeq - m.lastReadSeq, m.mentionCount)

/-- `POST /sync`. The slices are read side by side, and the first failure is the answer. -/
def sync (body : Body) (readings : Uuid → Reading) : Except AppError Response := do
  let changed := db.changed viewer body
  let slices ← (changed.take 200).mapM fun row => slice body (readings row.1.id) viewer row
  let home := (db.homeQuery viewer).run.map fun row => row.1.id
  return {
    conversations := (changed.map fun row => row.1.id).filter fun id => id ∈ home
    messages := slices.filter fun s => !s.messages.isEmpty
    removedConversations := db.removed viewer body
    unread := db.unread viewer
    resyncRequired := 200 < changed.length }

def syncNow (body : Body) (clock : Time) : Except AppError Response :=
  db.sync viewer body fun _ => ⟨db.reads, db.reads, clock⟩

end Database

/-! ## When it succeeds -/

lemma mapM_eq_ok {ε α β : Type} {f : α → Except ε β} {l : List α} {r : List β} :
    l.mapM f = .ok r ↔ List.Forall₂ (fun a b => f a = .ok b) l r := by
  induction l generalizing r with
  | nil =>
    rw [List.mapM_nil, List.forall₂_nil_left_iff]
    exact ⟨fun h => (Except.ok.inj h).symm, fun h => congrArg Except.ok h.symm⟩
  | cons a l ih =>
    rw [List.mapM_cons, List.forall₂_cons_left_iff]
    constructor
    · intro h
      cases ha : f a with
      | error e =>
        rw [ha] at h
        cases h
      | ok b =>
        cases hl : l.mapM f with
        | error e =>
          rw [ha, hl] at h
          cases h
        | ok r' =>
          rw [ha, hl] at h
          exact ⟨b, r', rfl, ih.mp hl, (Except.ok.inj h).symm⟩
    · rintro ⟨b, r', ha, hl, rfl⟩
      rw [ha, ih.mpr hl]
      rfl

lemma mapM_succeeds {ε α β : Type} {f : α → Except ε β} {l : List α} :
    (∃ r, l.mapM f = .ok r) ↔ ∀ a ∈ l, ∃ b, f a = .ok b := by
  simp only [mapM_eq_ok]
  induction l with
  | nil => simp
  | cons a l ih =>
    rw [List.forall_mem_cons, ← ih]
    constructor
    · rintro ⟨r, h⟩
      obtain ⟨b, r', ha, hl, -⟩ := List.forall₂_cons_left_iff.mp h
      exact ⟨⟨b, ha⟩, r', hl⟩
    · rintro ⟨⟨b, ha⟩, r', hl⟩
      exact ⟨b :: r', List.Forall₂.cons ha hl⟩

namespace Database

/-- The scope of the conversation lets the user do something there. -/
def Grants (db : Database) (c : Conversation) (viewer : Uuid) (permission : ℕ) (clock : Time) : Prop :=
  ∃ authority, db.reads.tables.authority c viewer = some authority ∧ authority.leftAt = none ∧
    has (effectivePermissions (db.reads.tables.permissionInput c viewer authority) clock) permission = true

def Can (db : Database) (viewer conversationId : Uuid) (permission : ℕ) (clock : Time) : Prop :=
  ∃ ctx, db.reads.tables.requirePermission conversationId viewer permission clock = .ok ctx

def Hidden (db : Database) (viewer conversationId : Uuid) : Prop :=
  (db.reads.tables.memberRow conversationId viewer).isSome = true ∧
    db.isHidden (conversationId, viewer) = true

/-- The request succeeds, and of the conversations with cursors, hidden ones aside, it names as
removed those that its user cannot view. -/
def Sound (db : Database) (viewer : Uuid) (body : Body) (clock : Time) : Prop :=
  ∃ r, db.syncNow viewer body clock = .ok r ∧ ∀ id ∈ body.cursorMap, ¬ db.Hidden viewer id →
    (id ∈ r.removedConversations ↔ ¬ db.Can viewer id Permissions.Permission.viewConversation clock)

structure Current (db : Database) (viewer : Uuid) (body : Body) (clock : Time) : Prop where
  /-- Among the first two hundred that changed, the user may read the history of those that have
  messages for the client. -/
  readable : ∀ row ∈ (db.changed viewer body).take 200, 0 < body.messagesPerConversation →
    0 < body.gap row.1 → db.Grants row.1 viewer Permissions.Permission.readHistory clock
  /-- Where the client has a cursor and its user a row, the user is still in the scope and may view. -/
  kept : ∀ id ∈ body.cursorMap, ¬ db.Hidden viewer id → ∀ c,
    db.reads.tables.conversations.find id = some c → c.deletedAt = none →
      db.reads.tables.IsActiveMember id viewer → db.Grants c viewer Permissions.Permission.viewConversation clock
  /-- And where the user has no row, the scope does not let them view either. -/
  gone : ∀ id ∈ body.cursorMap, ¬ db.Hidden viewer id → ∀ c,
    db.reads.tables.conversations.find id = some c → c.deletedAt = none →
      ¬ db.reads.tables.IsActiveMember id viewer → ¬ db.Grants c viewer Permissions.Permission.viewConversation clock

section Sound
variable {db : Database} {viewer id : Uuid} {body : Body} {clock : Time} {permission : ℕ}

lemma can_iff : db.Can viewer id permission clock ↔
    ∃ c, db.reads.tables.conversations.find id = some c ∧ c.deletedAt = none ∧
      db.Grants c viewer permission clock := by
  unfold Can Grants
  simp only [Permissions.Database.requirePermission_eq_ok, Permissions.Database.loadMemberContext_eq_some]
  constructor
  · rintro ⟨ctx, ⟨c, authority, hc, hlive, hauth, hleft, -, -, -, hp⟩, hhas⟩
    exact ⟨c, hc, hlive, authority, hauth, hleft, hp ▸ hhas⟩
  · rintro ⟨c, hc, hlive, authority, hauth, hleft, hhas⟩
    exact ⟨⟨c, _, _, _⟩, ⟨c, authority, hc, hlive, hauth, hleft, rfl, rfl, rfl, rfl⟩, hhas⟩

lemma mem_memberships {row : Conversation × ConversationMember} :
    row ∈ db.memberships viewer ↔ db.reads.tables.conversations.find row.1.id = some row.1 ∧
      row.1.deletedAt = none ∧ db.reads.tables.memberRow row.1.id viewer = some row.2 ∧
      row.2.leftAt = none ∧ db.isHidden (row.1.id, viewer) = false := by
  obtain ⟨c, m⟩ := row
  unfold memberships Permissions.Database.memberRow
  simp only [List.mem_filterMap, List.mem_filter, Bool.and_eq_true, decide_eq_true_eq,
    Option.isNone_iff_eq_none, Bool.not_eq_true', Option.map_eq_some_iff, Option.filter_eq_some_iff,
    Prod.mk.injEq, KeyedTable.find_eq_some, ConversationMember.key]
  constructor
  · rintro ⟨m', ⟨hrow, ⟨hu, hleft⟩, hhidden⟩, c', ⟨⟨hc, hid⟩, hlive⟩, rfl, rfl⟩
    rw [← hid, hu] at hhidden
    exact ⟨⟨hc, trivial⟩, hlive, ⟨hrow, hid.symm, hu⟩, hleft, hhidden⟩
  · rintro ⟨⟨hc, -⟩, hlive, ⟨hrow, hid, hu⟩, hleft, hhidden⟩
    refine ⟨m, ⟨hrow, ⟨hu, hleft⟩, ?_⟩, c, ⟨⟨hc, hid.symm⟩, hlive⟩, rfl, rfl⟩
    rw [hid, hu]
    exact hhidden

lemma mem_currentIds : id ∈ db.currentIds viewer ↔
    (∃ c, db.reads.tables.conversations.find id = some c ∧ c.deletedAt = none) ∧
      db.reads.tables.IsActiveMember id viewer ∧ db.isHidden (id, viewer) = false := by
  unfold currentIds
  simp only [List.mem_map, mem_memberships]
  constructor
  · rintro ⟨row, ⟨hc, hlive, hm, hleft, hhidden⟩, rfl⟩
    exact ⟨⟨row.1, hc, hlive⟩, ⟨row.2, hm, hleft⟩, hhidden⟩
  · rintro ⟨⟨c, hc, hlive⟩, ⟨m, hm, hleft⟩, hhidden⟩
    obtain rfl := KeyedTable.find_key hc
    exact ⟨(c, m), ⟨hc, hlive, hm, hleft, hhidden⟩, rfl⟩

lemma mem_removed (hid : id ∈ body.cursorMap) :
    id ∈ db.removed viewer body ↔ id ∉ db.currentIds viewer := by
  unfold removed OrderedMap.oldest
  simp only [List.mem_filter, List.mem_reverse, decide_eq_true_eq]
  exact ⟨fun h => h.2, fun h => ⟨hid, h⟩⟩

lemma changed_mem {row : Conversation × ConversationMember} (h : row ∈ db.changed viewer body) :
    row ∈ db.memberships viewer := (List.mem_filter.mp h).1

lemma slice_succeeds {reading : Reading} {row : Conversation × ConversationMember} :
    (∃ s, slice body reading viewer row = .ok s) ↔
      (0 < body.messagesPerConversation → 0 < body.gap row.1 →
        ∃ ctx, reading.permissions.tables.requirePermission row.1.id viewer Permissions.Permission.readHistory
          reading.clock = .ok ctx) := by
  unfold slice
  split_ifs with h
  · constructor
    · intro _ hper hgap
      omega
    · intro _
      exact ⟨_, rfl⟩
  · have hper : 0 < body.messagesPerConversation := by omega
    have hgap : 0 < body.gap row.1 := by omega
    unfold Reading.history
    cases hctx : reading.permissions.tables.requirePermission row.1.id viewer Permissions.Permission.readHistory
      reading.clock with
    | error e =>
      constructor
      · rintro ⟨s, hs⟩
        cases hs
      · intro hok
        obtain ⟨ctx, hok⟩ := hok hper hgap
        cases hok
    | ok ctx => exact ⟨fun _ _ _ => ⟨ctx, rfl⟩, fun _ => ⟨_, rfl⟩⟩

lemma sync_succeeds {readings : Uuid → Reading} :
    (∃ r, db.sync viewer body readings = .ok r) ↔
      ∀ row ∈ (db.changed viewer body).take 200,
        ∃ s, slice body (readings row.1.id) viewer row = .ok s := by
  rw [← mapM_succeeds]
  unfold sync
  constructor
  · rintro ⟨r, hr⟩
    obtain ⟨slices, hslices, -⟩ := Permissions.bind_eq_ok.mp hr
    exact ⟨slices, hslices⟩
  · rintro ⟨slices, hslices⟩
    dsimp only
    rw [hslices]
    exact ⟨_, rfl⟩

lemma sync_removed {readings : Uuid → Reading} {r : Response}
    (h : db.sync viewer body readings = .ok r) : r.removedConversations = db.removed viewer body := by
  unfold sync at h
  obtain ⟨slices, -, hok⟩ := Permissions.bind_eq_ok.mp h
  obtain rfl := Except.ok.inj hok
  rfl

lemma changed_can {row : Conversation × ConversationMember} (h : row ∈ db.changed viewer body) :
    db.Can viewer row.1.id permission clock ↔ db.Grants row.1 viewer permission clock := by
  obtain ⟨hc, hlive, -⟩ := mem_memberships.mp (changed_mem h)
  rw [can_iff]
  constructor
  · rintro ⟨c, hc', -, hgrants⟩
    rw [hc] at hc'
    obtain rfl := Option.some.inj hc'
    exact hgrants
  · intro hgrants
    exact ⟨row.1, hc, hlive, hgrants⟩

end Sound

/-- A sync is sound exactly where the rows of its user are current. -/
theorem sound_iff (db : Database) (viewer : Uuid) (body : Body) (clock : Time) :
    db.Sound viewer body clock ↔ db.Current viewer body clock := by
  have hsucceeds : (∃ r, db.syncNow viewer body clock = .ok r) ↔
      ∀ row ∈ (db.changed viewer body).take 200, 0 < body.messagesPerConversation →
        0 < body.gap row.1 → db.Grants row.1 viewer Permissions.Permission.readHistory clock := by
    unfold syncNow
    rw [sync_succeeds]
    refine forall₂_congr fun row hrow => ?_
    rw [slice_succeeds]
    exact imp_congr_right fun _ => imp_congr_right fun _ => changed_can (List.mem_of_mem_take hrow)
  constructor
  · rintro ⟨r, hr, hremoved⟩
    have htold : ∀ id ∈ body.cursorMap, ¬ db.Hidden viewer id →
        (id ∈ db.currentIds viewer ↔ db.Can viewer id Permissions.Permission.viewConversation clock) := by
      intro id hid hh
      have h := hremoved id hid hh
      rw [sync_removed hr, mem_removed hid, not_iff_not] at h
      exact h
    refine ⟨hsucceeds.mp ⟨r, hr⟩, fun id hid hh c hc hlive hrow => ?_,
      fun id hid hh c hc hlive hrow hgrants => ?_⟩
    · have hshown : db.isHidden (id, viewer) = false := by
        obtain ⟨m, hm, -⟩ := hrow
        rw [← Bool.not_eq_true]
        exact fun hhidden => hh ⟨Option.isSome_iff_exists.mpr ⟨m, hm⟩, hhidden⟩
      obtain ⟨c', hc', -, hgrants⟩ :=
        can_iff.mp ((htold id hid hh).mp (mem_currentIds.mpr ⟨⟨c, hc, hlive⟩, hrow, hshown⟩))
      rw [hc] at hc'
      obtain rfl := Option.some.inj hc'
      exact hgrants
    · have hcan := can_iff.mpr ⟨c, hc, hlive, hgrants⟩
      exact hrow (mem_currentIds.mp ((htold id hid hh).mpr hcan)).2.1
  · intro h
    obtain ⟨r, hr⟩ := hsucceeds.mpr h.readable
    refine ⟨r, hr, fun id hid hh => ?_⟩
    rw [sync_removed hr, mem_removed hid, not_iff_not, mem_currentIds, can_iff]
    constructor
    · rintro ⟨⟨c, hc, hlive⟩, hrow, -⟩
      exact ⟨c, hc, hlive, h.kept id hid hh c hc hlive hrow⟩
    · rintro ⟨c, hc, hlive, hgrants⟩
      have hrow : db.reads.tables.IsActiveMember id viewer := by
        by_contra hnone
        exact h.gone id hid hh c hc hlive hnone hgrants
      refine ⟨⟨c, hc, hlive⟩, hrow, ?_⟩
      obtain ⟨m, hm, -⟩ := hrow
      rw [← Bool.not_eq_true]
      exact fun hhidden => hh ⟨Option.isSome_iff_exists.mpr ⟨m, hm⟩, hhidden⟩

end Database

namespace Sample

def tables : Permissions.Database where
  conversations := ⟨[Permissions.Sample.conversation 1 .space none,
    { Permissions.Sample.conversation 2 .channel (some 1) with messageSeq := 1 }], by decide⟩
  conversationMembers := ⟨[.new 1 10 .owner 0 0, { ConversationMember.new 1 12 .member 0 0 with
    leftAt := some 5 }, .new 2 12 .member 1 0], by decide⟩
  conversationRoles := .empty
  memberRoles := .empty
  conversationRoleOverwrites := .empty
  conversationBans := .empty
  users := ⟨[⟨10, false⟩, ⟨12, false⟩], Permissions.Sample.two_users⟩
  applications := .empty
  conversationApps := .empty
  invites := .empty
  assigned_exists := Permissions.Sample.none_assigned
  one_level := by unfold Permissions.OneLevel; decide

def database : Database where
  reads := {
    tables := tables
    messages := ⟨[{ Reads.Sample.message 100 1 .text with conversationId := 2 }], by decide⟩
    messageDeletions := []
    pinnedMessages := .empty
    messageMentions := .empty
    savedMessages := .empty
    reminders := .empty
    notifications := .empty
    seq_unique := by decide
    mention_placed := by decide }
  isHidden _ := false
  updatedAt _ := 0
  lastMessageAt _ := none

def fresh : Body := ⟨[], 30, none, by decide, by decide⟩

end Sample

/-- The row that outlived the membership fails the whole of every sync. -/
theorem outlived_row_fails :
    ¬ ∀ (db : Database) (viewer : Uuid) (body : Body) (clock : Time), db.Sound viewer body clock := by
  intro h
  obtain ⟨r, hr, -⟩ := h Sample.database 12 Sample.fresh 10
  have hfails : (match Sample.database.syncNow 12 Sample.fresh 10 with
    | .ok _ => true
    | .error _ => false) = false := by decide
  rw [hr] at hfails
  cases hfails

end Yappy.Sync
