import Yappy.MessageReadable
import Yappy.PermissionComposition
import Yappy.PermissionFastPath
import Yappy.SyncDelta

/-!
# A channel that is opened for the first time

What `materialiseChannelMember` of `apps/api/src/lib/access.ts` changes for the member whose row it inserts:
permissions, messages, counts, and whether `handleMessageFanout` of `apps/worker/src/jobs/push.ts` notifies them.
-/
namespace Yappy.LazyRows

open Permissions (AppError Conversation ConversationMember Time Uuid)
open Permissions.Sql (conversationIsGated conversationPermissions conversationViewers)

inductive NotificationLevel
  | all | mentions | nothing
  deriving DecidableEq

structure QuietHours where
  enabled : Bool
  start : ℕ
  stop : ℕ
  timezone : String

structure NotificationSettings where
  dm : Option NotificationLevel
  groups : Option NotificationLevel
  broadcastMentions : Option Bool
  quietHours : Option QuietHours

structure Account where
  id : Uuid
  deletedAt : Option Time
  notifications : NotificationSettings

structure Presence where
  deviceId : Uuid
  userId : Uuid
  status : String
  expiresAt : Time

structure Database where
  sync : Sync.Database
  /-- `conversation_members.notification_level`; null is to inherit. -/
  notificationLevel : Uuid × Uuid → Option NotificationLevel
  accounts : KeyedTable Account.id
  presence : KeyedTable Presence.deviceId

structure FanoutJob where
  messageId : Uuid
  conversationId : Uuid
  senderId : Uuid
  silent : Bool
  mentionIds : List Uuid
  broadcast : Bool
  mentionRoleIds : List Uuid

/-- `inQuietHours`; `zone` is the minute of the day in a time zone, if there is such a zone. -/
def inQuietHours (zone : String → Time → Option ℕ) (quiet : Option QuietHours) (now : Time) : Bool :=
  quiet.any fun q => q.enabled && (zone q.timezone now).any fun minutes =>
    if q.start ≤ q.stop then q.start ≤ minutes && minutes < q.stop else q.start ≤ minutes || minutes < q.stop

namespace Database
variable (db : Database)

def tables : Permissions.Database := db.sync.reads.tables

/-! ### Opening a channel -/

/-- `materialiseChannelMember`. The columns kept apart have their defaults in a row that is inserted. -/
def materialiseChannelMember (conversationId user : Uuid) (clock : Time) : Database :=
  let inserts := (db.tables.memberRow conversationId user).isNone
  { db with
    sync := { db.sync with
      reads := { db.sync.reads with tables := db.tables.materialiseChannelMember conversationId user clock }
      isHidden := if inserts then Function.update db.sync.isHidden (conversationId, user) false else db.sync.isHidden }
    notificationLevel := if inserts then Function.update db.notificationLevel (conversationId, user) none
      else db.notificationLevel }

/-! ### Counts -/

abbrev Counts := ℕ × ℕ

/-- `self` of the conversation that the API answers. -/
def selfCounts (conversationId user : Uuid) (clock : Time) : Option Counts :=
  (db.tables.loadMemberContext conversationId user clock).map fun ctx =>
    (ctx.conversation.messageSeq - ctx.member.lastReadSeq, ctx.member.mentionCount)

def channelCounts (c : Conversation) (user : Uuid) : Counts :=
  (c.messageSeq - (db.tables.memberRow c.id user).elim 0 ConversationMember.lastReadSeq,
    (db.tables.memberRow c.id user).elim 0 ConversationMember.mentionCount)

/-- What `conversation_unread` says of a conversation; where it says nothing there is nothing to count. -/
def unreadCounts (conversationId user : Uuid) : Counts :=
  ((db.sync.unread user).lookup conversationId).getD (0, 0)

/-- `badge` of a push. -/
def badge (c : Conversation) (user : Uuid) : ℕ :=
  c.messageSeq - (db.tables.memberRow c.id user).elim 0 ConversationMember.lastReadSeq

/-! ### Fan-out -/

section Fanout
variable (zone : String → Time → Option ℕ) (job : FanoutJob) (now : Time) (c : Conversation) (am : ConversationMember)

/-- `coalesce(cm.notification_level, am.notification_level, 'all')`. -/
def level : NotificationLevel :=
  (((db.tables.memberRow c.id am.userId).bind fun cm => db.notificationLevel cm.key).or
    (db.notificationLevel am.key)).getD .all

/-- `coalesce(cm.is_hidden, am.is_hidden, false)`. -/
def hidden : Bool :=
  ((db.tables.memberRow c.id am.userId).map fun cm => db.sync.isHidden cm.key).getD (db.sync.isHidden am.key)

def holdsRole : Bool := db.tables.memberRoles.rows.any fun mr =>
  mr.conversationId = am.conversationId && mr.userId = am.userId && mr.roleId ∈ job.mentionRoleIds

def called (settings : NotificationSettings) : Bool :=
  am.userId ∈ job.mentionIds ||
    settings.broadcastMentions ≠ some false && (job.broadcast || db.holdsRole job am)

/-- Every condition on a member but that of `is_hidden`. -/
def wanted : Bool :=
  am.userId ≠ job.senderId && (db.sync.reads.messages.find job.messageId).isSome &&
  (db.accounts.find am.userId).any fun u =>
    let account := (if c.type = .dm then u.notifications.dm else u.notifications.groups).getD .all
    u.deletedAt.isNone && db.level c am ≠ .nothing && account ≠ .nothing &&
    (account = .all || db.called job am u.notifications) &&
    am.mutedUntil.all (· < now) &&
    ((db.tables.memberRow c.id am.userId).bind ConversationMember.mutedUntil).all (· < now) &&
    (db.level c am = .all || db.called job am u.notifications) &&
    (!db.presence.rows.any fun p => p.userId = am.userId && now < p.expiresAt && p.status = "online") &&
    !inQuietHours zone u.notifications.quietHours now

def audience : Bool :=
  am.conversationId = c.scope && am.leftAt.isNone && (!conversationIsGated db.tables c.id ||
    (conversationViewers db.tables c.id).any fun v => v = am.userId)

/-- Whom `handleMessageFanout` notifies, before a limit that keeps any five thousand of them. -/
def recipients : List Uuid :=
  if job.silent then []
  else (db.tables.conversations.rows.filter fun c => c.id = job.conversationId).flatMap fun c =>
    (db.tables.conversationMembers.rows.filter fun am =>
      db.audience c am && db.wanted zone job now c am && !db.hidden c am).map ConversationMember.userId

end Fanout

end Database

/-! ### The tables -/

/-- A channel that an active member of its space has no row in. -/
structure Unopened (db : Permissions.Database) (c : Conversation) (user parentId : Uuid) (am : ConversationMember) :
    Prop where
  found : db.conversations.find c.id = some c
  parent : c.parentId = some parentId
  member : db.memberRow parentId user = some am
  active : am.leftAt = none
  unopened : db.memberRow c.id user = none

namespace Unopened
variable {db : Permissions.Database} {c : Conversation} {user parentId : Uuid} {am : ConversationMember} {clock now : Time}

def fresh (c : Conversation) (user : Uuid) (am : ConversationMember) (clock : Time) : ConversationMember :=
  .new c.id user am.role clock 0

section
variable (h : Unopened db c user parentId am)
include h

lemma materialised : db.materialiseChannelMember c.id user clock =
    { db with conversationMembers := db.conversationMembers.insertIgnore (fresh c user am clock) } := by
  have hspace : (c.parentId.bind fun p => (db.memberRow p user).filter fun m => m.leftAt.isNone) = some am := by
    simp [h.parent, h.member, h.active]
  simp only [Permissions.Database.materialiseChannelMember, h.found, hspace, fresh]

lemma scope : c.scope = parentId := by rw [Conversation.scope, h.parent, Option.getD_some]

lemma parent_ne : parentId ≠ c.id := fun he => Permissions.Database.parent_ne h.found (he ▸ h.parent)

lemma am_key : am.key = (parentId, user) := KeyedTable.find_key h.member

lemma rows : (db.materialiseChannelMember c.id user clock).conversationMembers.rows =
    fresh c user am clock :: db.conversationMembers.rows := by
  rw [h.materialised]
  exact KeyedTable.insertIgnore_rows h.unopened

lemma memberRow_self : (db.materialiseChannelMember c.id user clock).memberRow c.id user =
    some (fresh c user am clock) := by
  have hfind := KeyedTable.find_insertIgnore db.conversationMembers (fresh c user am clock) (c.id, user)
  have hkey : (fresh c user am clock).key = (c.id, user) := rfl
  rw [if_pos hkey] at hfind
  have hnone : db.conversationMembers.find (c.id, user) = none := h.unopened
  rw [hnone, Option.getD_none] at hfind
  rw [h.materialised]
  exact hfind

lemma memberRow_other {id v : Uuid} (hne : (id, v) ≠ (c.id, user)) :
    (db.materialiseChannelMember c.id user clock).memberRow id v = db.memberRow id v := by
  have hfind := KeyedTable.find_insertIgnore db.conversationMembers (fresh c user am clock) (id, v)
  rw [if_neg (fun he => hne he.symm)] at hfind
  rw [h.materialised]
  exact hfind

lemma memberRow_parent : (db.materialiseChannelMember c.id user clock).memberRow parentId user = some am := by
  rw [h.memberRow_other fun he => h.parent_ne (congrArg Prod.fst he)]
  exact h.member

lemma authority : db.authority c user = some am := by
  unfold Permissions.Database.authority
  rw [h.parent]
  exact h.member

lemma authority_materialised : (db.materialiseChannelMember c.id user clock).authority c user = some am := by
  unfold Permissions.Database.authority
  rw [h.parent]
  exact h.memberRow_parent

lemma conversations : (db.materialiseChannelMember c.id user clock).conversations = db.conversations := by
  rw [h.materialised]

lemma permissionInput : (db.materialiseChannelMember c.id user clock).permissionInput c user am =
    db.permissionInput c user am := by
  unfold Permissions.Database.permissionInput
  rw [h.memberRow_self, h.unopened, h.materialised]
  rfl

lemma context (hlive : c.deletedAt = none) : ∃ ctx ctx', db.loadMemberContext c.id user now = some ctx ∧
    (db.materialiseChannelMember c.id user clock).loadMemberContext c.id user now = some ctx' ∧
    ctx.conversation = c ∧ ctx'.conversation = c ∧ ctx'.permissions = ctx.permissions ∧
    ctx.member.historyStartSeq = 0 ∧ ctx'.member.historyStartSeq = 0 ∧
    ctx.member.lastReadSeq = 0 ∧ ctx'.member.lastReadSeq = 0 ∧ ctx.member.lastReadAt = none ∧
    ctx'.member.lastReadAt = none ∧ ctx.member.mentionCount = 0 ∧ ctx'.member.mentionCount = 0 := by
  have hfound : (db.materialiseChannelMember c.id user clock).conversations.find c.id = some c := by
    rw [h.conversations]
    exact h.found
  have hctx : db.loadMemberContext c.id user now = some ⟨c, _, _, Permissions.effectivePermissions
      (db.permissionInput c user am) now⟩ := Permissions.Database.loadMemberContext_eq_some.mpr
    ⟨c, am, h.found, hlive, h.authority, h.active, rfl, rfl, rfl, rfl⟩
  have hctx' : (db.materialiseChannelMember c.id user clock).loadMemberContext c.id user now =
      some ⟨c, _, _, Permissions.effectivePermissions
        ((db.materialiseChannelMember c.id user clock).permissionInput c user am) now⟩ :=
    Permissions.Database.loadMemberContext_eq_some.mpr
      ⟨c, am, hfound, hlive, h.authority_materialised, h.active, rfl, rfl, rfl, rfl⟩
  refine ⟨_, _, hctx, hctx', rfl, rfl, ?_⟩
  rw [h.permissionInput, h.unopened, h.memberRow_self]
  simp only [Option.getD_none, Option.getD_some, fresh, ConversationMember.new, and_self]

lemma context_deleted (hdeleted : c.deletedAt ≠ none) : db.loadMemberContext c.id user now = none ∧
    (db.materialiseChannelMember c.id user clock).loadMemberContext c.id user now = none := by
  have hnone : ∀ t : Permissions.Database, t.conversations = db.conversations →
      t.loadMemberContext c.id user now = none := by
    intro t ht
    refine Option.eq_none_iff_forall_ne_some.mpr fun ctx hctx => ?_
    obtain ⟨c', -, hc', hlive, -⟩ := Permissions.Database.loadMemberContext_eq_some.mp hctx
    rw [ht, h.found] at hc'
    obtain rfl := Option.some.inj hc'
    exact hdeleted hlive
  exact ⟨hnone db rfl, hnone _ h.conversations⟩

lemma memberPermissions : (db.materialiseChannelMember c.id user clock).memberPermissions c.id user now =
    db.memberPermissions c.id user now := by
  unfold Permissions.Database.memberPermissions
  by_cases hlive : c.deletedAt = none
  · obtain ⟨ctx, ctx', hctx, hctx', -, -, hpermissions, -⟩ := @context _ _ _ _ _ clock now h hlive
    rw [hctx, hctx', Option.map_some, Option.map_some, hpermissions]
  · obtain ⟨hctx, hctx'⟩ := @context_deleted _ _ _ _ _ clock now h hlive
    rw [hctx, hctx']

lemma mem_permissions (mask : BitVec 64) :
    (user, mask) ∈ conversationPermissions (db.materialiseChannelMember c.id user clock) c.id ↔
      (user, mask) ∈ conversationPermissions db c.id := by
  have hinput : Permissions.Sql.input (db.materialiseChannelMember c.id user clock) c am =
      Permissions.Sql.input db c am := by
    have huser : am.userId = user := congrArg Prod.snd h.am_key
    unfold Permissions.Sql.input
    rw [huser, h.memberRow_self, h.unopened, h.materialised]
    rfl
  simp only [Permissions.Sql.mem_conversationPermissions, h.conversations]
  constructor
  · rintro ⟨c', a, hc', hlive, ha, hleft, hmask⟩
    obtain rfl := Option.some.inj (h.found.symm.trans hc')
    obtain rfl := Option.some.inj (h.authority_materialised.symm.trans ha)
    exact ⟨c, am, h.found, hlive, h.authority, hleft, hmask.trans (by rw [hinput])⟩
  · rintro ⟨c', a, hc', hlive, ha, hleft, hmask⟩
    obtain rfl := Option.some.inj (h.found.symm.trans hc')
    obtain rfl := Option.some.inj (h.authority.symm.trans ha)
    exact ⟨c, am, h.found, hlive, h.authority_materialised, hleft, hmask.trans (by rw [hinput])⟩

lemma mem_viewers : user ∈ conversationViewers (db.materialiseChannelMember c.id user clock) c.id ↔
    user ∈ conversationViewers db c.id := by
  have hmem := @mem_permissions _ _ _ _ _ clock h
  simp only [conversationViewers, List.mem_map, List.mem_filter]
  constructor
  · rintro ⟨⟨u, mask⟩, ⟨hp, hview⟩, rfl⟩
    exact ⟨(u, mask), ⟨(hmem mask).mp hp, hview⟩, rfl⟩
  · rintro ⟨⟨u, mask⟩, ⟨hp, hview⟩, rfl⟩
    exact ⟨(u, mask), ⟨(hmem mask).mpr hp, hview⟩, rfl⟩

lemma gated : conversationIsGated (db.materialiseChannelMember c.id user clock) c.id =
    conversationIsGated db c.id := by
  obtain ⟨hrow, -⟩ := KeyedTable.find_eq_some.mp h.found
  have ham := (KeyedTable.find_eq_some.mp h.member).1
  have hscope : am.conversationId = c.scope := by rw [h.scope]; exact congrArg Prod.fst h.am_key
  unfold conversationIsGated
  rw [h.conversations, h.rows]
  have hoverwrites : (db.materialiseChannelMember c.id user clock).conversationRoleOverwrites =
      db.conversationRoleOverwrites := by rw [h.materialised]
  rw [hoverwrites, Bool.eq_iff_iff, List.any_eq_true, List.any_eq_true]
  refine exists_congr fun c' => and_congr_right fun hc' => ?_
  by_cases hid : c'.id = c.id
  · obtain rfl : c = c' := Option.some.inj (h.found.symm.trans (KeyedTable.find_eq_some.mpr ⟨hc', hid⟩))
    rw [List.any_cons]
    -- a restricted rung is copied, so that the space's row gates the channel too
    have hcopied : (fresh c user am clock).role = .restricted → (db.conversationMembers.rows.any fun d =>
        (d.conversationId = c.id || d.conversationId = c.scope) &&
          (d.deny ≠ 0 || d.allow ≠ 0 || d.role = .restricted)) = true := by
      intro hr
      have hrole : am.role = .restricted := hr
      exact List.any_eq_true.mpr ⟨am, ham, by simp [hscope, hrole]⟩
    by_cases hr : (fresh c user am clock).role = .restricted
    · rw [hcopied hr]
      simp
    · have hmasks : (fresh c user am clock).deny = 0 ∧ (fresh c user am clock).allow = 0 := ⟨rfl, rfl⟩
      simp [hmasks, hr]
  · simp [hid]

end
end Unopened

/-! ### The readers -/

section Readers
variable {db : Database} {c : Conversation} {user parentId : Uuid} {am : ConversationMember} {clock now : Time}
  (h : Unopened db.tables c user parentId am)
include h

lemma bind_requirePermission {α : Type} (permission : ℕ) (f f' : Permissions.MemberContext → Except AppError α)
    (hf : ∀ ctx ctx', ctx.conversation = ctx'.conversation → ctx.member.historyStartSeq = ctx'.member.historyStartSeq →
      ctx.member.lastReadSeq = ctx'.member.lastReadSeq → ctx.member.lastReadAt = ctx'.member.lastReadAt →
      f' ctx' = f ctx) :
    ((db.tables.materialiseChannelMember c.id user clock).requirePermission c.id user permission now >>= f') =
      (db.tables.requirePermission c.id user permission now >>= f) := by
  unfold Permissions.Database.requirePermission Permissions.Database.requireMember
  by_cases hlive : c.deletedAt = none
  · obtain ⟨ctx, ctx', hctx, hctx', hc, hc', hpermissions, hfloor, hfloor', hseq, hseq', hat, hat', -⟩ :=
      @Unopened.context _ _ _ _ _ clock now h hlive
    have hsame := hf ctx ctx' (hc.trans hc'.symm) (hfloor.trans hfloor'.symm) (hseq.trans hseq'.symm)
      (hat.trans hat'.symm)
    rw [hctx, hctx']
    by_cases hp : Permissions.has ctx.permissions permission = true
    · simp [Permissions.ensure, hpermissions, hp, bind, Except.bind, pure, Except.pure, hsame]
    · simp [Permissions.ensure, hpermissions, hp, bind, Except.bind]
  · obtain ⟨hctx, hctx'⟩ := @Unopened.context_deleted _ _ _ _ _ clock now h hlive
    rw [hctx, hctx']
    rfl

lemma history_opened (opts : Reads.HistoryOptions) :
    (db.materialiseChannelMember c.id user clock).sync.reads.history user now c.id opts =
      db.sync.reads.history user now c.id opts := by
  refine bind_requirePermission h Permissions.Permission.readHistory _ _ fun ctx ctx' hc hfloor _ _ => ?_
  rw [hc, hfloor]
  rfl

lemma get_opened {m : Reads.Message} (hm : db.sync.reads.messages.find m.id = some m) (hmc : m.conversationId = c.id) :
    (db.materialiseChannelMember c.id user clock).sync.reads.get user now m.id = db.sync.reads.get user now m.id := by
  unfold Reads.Database.get
  have hfind : (db.materialiseChannelMember c.id user clock).sync.reads.messages.find m.id = some m := hm
  rw [hm, hfind]
  have hviewer : (db.materialiseChannelMember c.id user clock).sync.reads.notDeletedForViewer user =
      db.sync.reads.notDeletedForViewer user := rfl
  rw [hviewer]
  by_cases hv : db.sync.reads.notDeletedForViewer user m = true
  · simp only [Option.filter_some, hv, if_true]
    rw [hmc]
    exact bind_requirePermission h Permissions.Permission.readHistory _ _ fun _ _ _ _ _ _ => rfl
  · simp only [Option.filter_some, hv, Bool.false_eq_true, if_false]

lemma thread_opened (messageId : Uuid) (limit : ℕ) (after : Option ℕ) :
    (db.materialiseChannelMember c.id user clock).sync.reads.thread user now c.id messageId limit after =
      db.sync.reads.thread user now c.id messageId limit after :=
  bind_requirePermission h Permissions.Permission.readHistory _ _ fun _ _ _ _ _ _ => rfl

lemma pins_opened : (db.materialiseChannelMember c.id user clock).sync.reads.pins user now c.id =
    db.sync.reads.pins user now c.id :=
  bind_requirePermission h Permissions.Permission.viewConversation _ _ fun _ _ _ _ _ _ => rfl

lemma gallery_opened (type : Tables.MessageType) (limit : ℕ) (before : Option ℕ) :
    (db.materialiseChannelMember c.id user clock).sync.reads.gallery user now c.id type limit before =
      db.sync.reads.gallery user now c.id type limit before :=
  bind_requirePermission h Permissions.Permission.readHistory _ _ fun _ _ _ _ _ _ => rfl

lemma mediaWall_opened (limit : ℕ) (before : Option ℕ) :
    (db.materialiseChannelMember c.id user clock).sync.reads.mediaWall user now c.id limit before =
      db.sync.reads.mediaWall user now c.id limit before := by
  refine bind_requirePermission h Permissions.Permission.readHistory _ _ fun ctx ctx' _ hfloor _ _ => ?_
  rw [hfloor]
  rfl

lemma catchUp_opened : (db.materialiseChannelMember c.id user clock).sync.reads.catchUp user now c.id =
    db.sync.reads.catchUp user now c.id := by
  refine bind_requirePermission h Permissions.Permission.readHistory _ _ fun ctx ctx' hc hfloor hseq hat => ?_
  have husers : (db.materialiseChannelMember c.id user clock).sync.reads.tables.users = db.sync.reads.tables.users := by
    change (db.tables.materialiseChannelMember c.id user clock).users = _
    rw [h.materialised]
    rfl
  rw [hc, hfloor, hseq, hat, husers]
  rfl

lemma canReadMessage_opened {m : Reads.Message} (hm : db.sync.reads.messages.find m.id = some m)
    (hmc : m.conversationId = c.id) :
    (db.materialiseChannelMember c.id user clock).sync.reads.canReadMessage now m.id user =
      db.sync.reads.canReadMessage now m.id user := by
  have hafter : (db.materialiseChannelMember c.id user clock).sync.reads.messages.find m.id = some m := hm
  have hconversations : (db.tables.materialiseChannelMember c.id user clock).conversations = db.tables.conversations :=
    h.conversations
  have hpermissions : (∃ p ∈ conversationPermissions (db.tables.materialiseChannelMember c.id user clock) c.id,
        p.1 = user ∧ (p.2 &&& 3#64 = 3#64 ∨ p.2 &&& 4611686018427387904#64 ≠ 0)) ↔
      ∃ p ∈ conversationPermissions db.tables c.id,
        p.1 = user ∧ (p.2 &&& 3#64 = 3#64 ∨ p.2 &&& 4611686018427387904#64 ≠ 0) := by
    constructor
    · rintro ⟨⟨u, mask⟩, hp, rfl, hmask⟩
      exact ⟨(u, mask), (h.mem_permissions mask).mp hp, rfl, hmask⟩
    · rintro ⟨⟨u, mask⟩, hp, rfl, hmask⟩
      exact ⟨(u, mask), (h.mem_permissions mask).mpr hp, rfl, hmask⟩
  have hfloor : ((db.tables.materialiseChannelMember c.id user clock).memberRow c.id user |>.filter
      fun cm => cm.leftAt.isNone).elim 0 ConversationMember.historyStartSeq =
        ((db.tables.memberRow c.id user).filter fun cm => cm.leftAt.isNone).elim 0 ConversationMember.historyStartSeq := by
    rw [h.memberRow_self, h.unopened]
    rfl
  rw [Bool.eq_iff_iff, Reads.Database.canReadMessage_iff hafter, Reads.Database.canReadMessage_iff hm, hmc]
  change (∃ c', (db.tables.materialiseChannelMember c.id user clock).conversations.find c.id = some c' ∧ _ ∧ _ ∧ _ ∧
    (∃ p ∈ conversationPermissions (db.tables.materialiseChannelMember c.id user clock) c.id, _) ∧
    Option.elim (Option.filter _ ((db.tables.materialiseChannelMember c.id user clock).memberRow c.id user)) _ _ < _ ∧ _) ↔ _
  rw [hconversations, hpermissions, hfloor]
  rfl

/-! ### Counts -/

lemma selfCounts_opened : (db.materialiseChannelMember c.id user clock).selfCounts c.id user now =
    db.selfCounts c.id user now := by
  unfold Database.selfCounts
  change Option.map _ ((db.tables.materialiseChannelMember c.id user clock).loadMemberContext c.id user now) = _
  by_cases hlive : c.deletedAt = none
  · obtain ⟨ctx, ctx', hctx, hctx', hc, hc', -, -, -, hseq, hseq', -, -, hcount, hcount'⟩ :=
      @Unopened.context _ _ _ _ _ clock now h hlive
    rw [hctx, hctx']
    simp [hc, hc', hseq, hseq', hcount, hcount']
  · obtain ⟨hctx, hctx'⟩ := @Unopened.context_deleted _ _ _ _ _ clock now h hlive
    rw [hctx, hctx']

lemma channelCounts_opened : (db.materialiseChannelMember c.id user clock).channelCounts c user =
    db.channelCounts c user := by
  unfold Database.channelCounts
  change (_ - Option.elim ((db.tables.materialiseChannelMember c.id user clock).memberRow c.id user) _ _,
    Option.elim ((db.tables.materialiseChannelMember c.id user clock).memberRow c.id user) _ _) = _
  rw [h.memberRow_self, h.unopened]
  rfl

lemma badge_opened : (db.materialiseChannelMember c.id user clock).badge c user = db.badge c user := by
  unfold Database.badge
  change _ - Option.elim ((db.tables.materialiseChannelMember c.id user clock).memberRow c.id user) _ _ = _
  rw [h.memberRow_self, h.unopened]
  rfl

lemma unreadCounts_before : db.unreadCounts c.id user = (0, 0) := by
  have hnone : (db.sync.unread user).lookup c.id = none := by
    rw [List.lookup_eq_none_iff]
    rintro ⟨id, counts⟩ hmem
    obtain ⟨m, hm, hc⟩ := List.mem_filterMap.mp hmem
    obtain ⟨c', hfind, heq⟩ := Option.map_eq_some_iff.mp hc
    obtain ⟨hrow, hactive⟩ := List.mem_filter.mp hm
    simp only [Bool.and_eq_true, decide_eq_true_eq] at hactive
    have hid : c'.id = m.conversationId := KeyedTable.find_key (Option.filter_eq_some_iff.mp hfind).1
    rw [bne_iff_ne]
    rintro rfl
    have hkey : m.key = (c.id, user) := by
      rw [ConversationMember.key, hactive.1, ← hid]
      exact congrArg (·, user) (Prod.mk.inj heq).1
    exact KeyedTable.find_eq_none.mp h.unopened m hrow hkey
  rw [Database.unreadCounts, hnone]
  rfl

lemma unreadCounts_after (hlive : c.deletedAt = none) :
    (db.materialiseChannelMember c.id user clock).unreadCounts c.id user = (c.messageSeq, 0) := by
  have hrows : (db.materialiseChannelMember c.id user clock).sync.reads.tables.conversationMembers.rows =
      Unopened.fresh c user am clock :: db.tables.conversationMembers.rows := h.rows
  have hfind : (db.materialiseChannelMember c.id user clock).sync.reads.tables.conversations.find c.id = some c := by
    change (db.tables.materialiseChannelMember c.id user clock).conversations.find c.id = some c
    rw [h.conversations]
    exact h.found
  unfold Database.unreadCounts Sync.Database.unread
  rw [hrows]
  simp [Unopened.fresh, ConversationMember.new, hfind, hlive]

lemma unreadCounts_deleted (hdeleted : c.deletedAt ≠ none) :
    (db.materialiseChannelMember c.id user clock).unreadCounts c.id user = (0, 0) := by
  have hfind : (db.materialiseChannelMember c.id user clock).sync.reads.tables.conversations.find c.id = some c := by
    change (db.tables.materialiseChannelMember c.id user clock).conversations.find c.id = some c
    rw [h.conversations]
    exact h.found
  have hnone : ((db.materialiseChannelMember c.id user clock).sync.unread user).lookup c.id = none := by
    rw [List.lookup_eq_none_iff]
    rintro ⟨id, counts⟩ hmem
    obtain ⟨m, -, hc⟩ := List.mem_filterMap.mp hmem
    obtain ⟨c', hfilter, heq⟩ := Option.map_eq_some_iff.mp hc
    obtain ⟨hrow, hnull⟩ := Option.filter_eq_some_iff.mp hfilter
    rw [bne_iff_ne]
    rintro rfl
    have hid : c'.id = m.conversationId := KeyedTable.find_key hrow
    have hsame : c.id = m.conversationId := ((Prod.mk.inj heq).1).symm.trans hid
    rw [← hsame] at hrow
    obtain rfl := Option.some.inj (hfind.symm.trans hrow)
    exact hdeleted (Option.isNone_iff_eq_none.mp hnull)
  rw [Database.unreadCounts, hnone]
  rfl

lemma unreadCounts_opened_iff : (db.materialiseChannelMember c.id user clock).unreadCounts c.id user =
    db.unreadCounts c.id user ↔ c.deletedAt ≠ none ∨ c.messageSeq = 0 := by
  rw [unreadCounts_before h]
  by_cases hlive : c.deletedAt = none
  · rw [unreadCounts_after h hlive]
    simp [hlive]
  · simp [unreadCounts_deleted h hlive, hlive]

/-! ### Fan-out -/

omit h in
lemma mem_recipients {zone : String → Time → Option ℕ} {job : FanoutJob} (hjob : job.conversationId = c.id)
    (hfound : db.tables.conversations.find c.id = some c) (hmember : db.tables.memberRow c.scope user = some am) :
    user ∈ db.recipients zone job now ↔ job.silent = false ∧ db.audience c am = true ∧
      db.wanted zone job now c am = true ∧ db.hidden c am = false := by
  obtain ⟨hrow, hid⟩ := KeyedTable.find_eq_some.mp hfound
  obtain ⟨ham, hkey⟩ := KeyedTable.find_eq_some.mp hmember
  have huser : am.userId = user := congrArg Prod.snd hkey
  unfold Database.recipients
  by_cases hsilent : job.silent = true
  · simp [hsilent]
  · have hloud : job.silent = false := Bool.eq_false_of_not_eq_true hsilent
    rw [if_neg hsilent, List.mem_flatMap]
    constructor
    · rintro ⟨c', hc', hmem⟩
      obtain ⟨hrow', hid'⟩ := List.mem_filter.mp hc'
      obtain rfl : c = c' := Option.some.inj (hfound.symm.trans (KeyedTable.find_eq_some.mpr
        ⟨hrow', (of_decide_eq_true hid').trans hjob⟩))
      obtain ⟨a, ha, rfl⟩ := List.mem_map.mp hmem
      obtain ⟨harow, hcond⟩ := List.mem_filter.mp ha
      simp only [Bool.and_eq_true, Bool.not_eq_true'] at hcond
      obtain ⟨⟨haudience, hwanted⟩, hhidden⟩ := hcond
      have hscope : a.conversationId = c.scope := by
        simp only [Database.audience, Bool.and_eq_true, decide_eq_true_eq] at haudience
        exact haudience.1.1
      have hkeya : a.key = (c.scope, a.userId) := by rw [ConversationMember.key, hscope]
      obtain rfl : am = a := Option.some.inj (hmember.symm.trans (KeyedTable.find_eq_some.mpr ⟨harow, hkeya⟩))
      exact ⟨hloud, haudience, hwanted, hhidden⟩
    · rintro ⟨-, haudience, hwanted, hhidden⟩
      refine ⟨c, List.mem_filter.mpr ⟨hrow, decide_eq_true hjob.symm⟩, List.mem_map.mpr ⟨am, List.mem_filter.mpr
        ⟨ham, ?_⟩, huser⟩⟩
      rw [haudience, hwanted, hhidden]
      rfl

lemma audience_opened : (db.materialiseChannelMember c.id user clock).audience c am = db.audience c am := by
  have huser : am.userId = user := congrArg Prod.snd h.am_key
  have hviewers : ((conversationViewers (db.tables.materialiseChannelMember c.id user clock) c.id).any fun v =>
      v = am.userId) = (conversationViewers db.tables c.id).any fun v => v = am.userId := by
    rw [Bool.eq_iff_iff]
    simpa [huser] using h.mem_viewers
  unfold Database.audience
  change (_ && _ && (!conversationIsGated (db.tables.materialiseChannelMember c.id user clock) c.id ||
    (conversationViewers (db.tables.materialiseChannelMember c.id user clock) c.id).any fun v => v = am.userId)) = _
  rw [h.gated, hviewers]

lemma level_opened : (db.materialiseChannelMember c.id user clock).level c am = db.level c am := by
  have huser : am.userId = user := congrArg Prod.snd h.am_key
  have hother : am.key ≠ (c.id, user) := fun he => h.parent_ne (congrArg Prod.fst (h.am_key.symm.trans he))
  have hinserts : (db.tables.memberRow c.id user).isNone = true := by rw [h.unopened]; rfl
  unfold Database.level
  change (Option.or (Option.bind ((db.tables.materialiseChannelMember c.id user clock).memberRow c.id am.userId) _) _
    ).getD _ = _
  rw [huser, h.memberRow_self, h.unopened]
  simp only [Database.materialiseChannelMember, hinserts, if_true, Option.bind_some, Option.bind_none,
    Function.update_of_ne hother]
  have hkey : (Unopened.fresh c user am clock).key = (c.id, user) := rfl
  rw [hkey, Function.update_self]

lemma wanted_opened (zone : String → Time → Option ℕ) (job : FanoutJob) :
    (db.materialiseChannelMember c.id user clock).wanted zone job now c am = db.wanted zone job now c am := by
  have huser : am.userId = user := congrArg Prod.snd h.am_key
  have hmuted : ((db.tables.materialiseChannelMember c.id user clock).memberRow c.id am.userId).bind
      ConversationMember.mutedUntil = (db.tables.memberRow c.id am.userId).bind ConversationMember.mutedUntil := by
    rw [huser, h.memberRow_self, h.unopened]
    rfl
  have hholds : (db.materialiseChannelMember c.id user clock).holdsRole job am = db.holdsRole job am := by
    have hroles : (db.tables.materialiseChannelMember c.id user clock).memberRoles = db.tables.memberRoles := by
      rw [h.materialised]
    unfold Database.holdsRole
    rw [← hroles]
    rfl
  have hcalled : ∀ settings, (db.materialiseChannelMember c.id user clock).called job am settings =
      db.called job am settings := fun settings => by rw [Database.called, Database.called, hholds]
  unfold Database.wanted
  simp only [level_opened h, hcalled]
  rw [← hmuted]
  rfl

lemma hidden_before : db.hidden c am = db.sync.isHidden am.key := by
  have huser : am.userId = user := congrArg Prod.snd h.am_key
  rw [Database.hidden, huser, h.unopened]
  rfl

lemma hidden_after : (db.materialiseChannelMember c.id user clock).hidden c am = false := by
  have huser : am.userId = user := congrArg Prod.snd h.am_key
  have hinserts : (db.tables.memberRow c.id user).isNone = true := by rw [h.unopened]; rfl
  have hkey : (Unopened.fresh c user am clock).key = (c.id, user) := rfl
  unfold Database.hidden
  change Option.getD (Option.map _ ((db.tables.materialiseChannelMember c.id user clock).memberRow c.id am.userId)) _ = _
  rw [huser, h.memberRow_self]
  simp only [Database.materialiseChannelMember, hinserts, if_true, Option.map_some, Option.getD_some, hkey,
    Function.update_self]

lemma recipients_opened_iff {zone : String → Time → Option ℕ} {job : FanoutJob} (hjob : job.conversationId = c.id) :
    (user ∈ (db.materialiseChannelMember c.id user clock).recipients zone job now ↔ user ∈ db.recipients zone job now) ↔
      (db.sync.isHidden am.key = false ∨
        ¬(job.silent = false ∧ db.audience c am = true ∧ db.wanted zone job now c am = true)) := by
  have hmember : db.tables.memberRow c.scope user = some am := by rw [h.scope]; exact h.member
  have hmember' : (db.materialiseChannelMember c.id user clock).tables.memberRow c.scope user = some am := by
    rw [h.scope]
    exact h.memberRow_parent
  have hfound' : (db.materialiseChannelMember c.id user clock).tables.conversations.find c.id = some c := by
    change (db.tables.materialiseChannelMember c.id user clock).conversations.find c.id = some c
    rw [h.conversations]
    exact h.found
  rw [mem_recipients hjob hfound' hmember', mem_recipients hjob h.found hmember, audience_opened h, wanted_opened h,
    hidden_after h, hidden_before h]
  by_cases hhidden : db.sync.isHidden am.key = false
  · simp [hhidden]
  · simp [hhidden]

end Readers

/-! ### Whether it can be observed -/

/-- Opening the channel changes none of what is answered about its member. -/
structure Unobservable (db : Database) (c : Conversation) (user : Uuid) (clock : Time) : Prop where
  permissions (now : Time) : (db.materialiseChannelMember c.id user clock).tables.memberPermissions c.id user now =
    db.tables.memberPermissions c.id user now
  masks (mask : BitVec 64) :
    (user, mask) ∈ conversationPermissions (db.materialiseChannelMember c.id user clock).tables c.id ↔
      (user, mask) ∈ conversationPermissions db.tables c.id
  history (now : Time) (opts : Reads.HistoryOptions) :
    (db.materialiseChannelMember c.id user clock).sync.reads.history user now c.id opts =
      db.sync.reads.history user now c.id opts
  message (now : Time) (m : Reads.Message) : db.sync.reads.messages.find m.id = some m → m.conversationId = c.id →
    (db.materialiseChannelMember c.id user clock).sync.reads.get user now m.id = db.sync.reads.get user now m.id ∧
    (db.materialiseChannelMember c.id user clock).sync.reads.canReadMessage now m.id user =
      db.sync.reads.canReadMessage now m.id user
  thread (now : Time) (messageId : Uuid) (limit : ℕ) (after : Option ℕ) :
    (db.materialiseChannelMember c.id user clock).sync.reads.thread user now c.id messageId limit after =
      db.sync.reads.thread user now c.id messageId limit after
  pins (now : Time) : (db.materialiseChannelMember c.id user clock).sync.reads.pins user now c.id =
    db.sync.reads.pins user now c.id
  gallery (now : Time) (type : Tables.MessageType) (limit : ℕ) (before : Option ℕ) :
    (db.materialiseChannelMember c.id user clock).sync.reads.gallery user now c.id type limit before =
      db.sync.reads.gallery user now c.id type limit before
  mediaWall (now : Time) (limit : ℕ) (before : Option ℕ) :
    (db.materialiseChannelMember c.id user clock).sync.reads.mediaWall user now c.id limit before =
      db.sync.reads.mediaWall user now c.id limit before
  catchUp (now : Time) : (db.materialiseChannelMember c.id user clock).sync.reads.catchUp user now c.id =
    db.sync.reads.catchUp user now c.id
  selfCounts (now : Time) : (db.materialiseChannelMember c.id user clock).selfCounts c.id user now =
    db.selfCounts c.id user now
  channelCounts : (db.materialiseChannelMember c.id user clock).channelCounts c user = db.channelCounts c user
  badge : (db.materialiseChannelMember c.id user clock).badge c user = db.badge c user
  unreadCounts : (db.materialiseChannelMember c.id user clock).unreadCounts c.id user = db.unreadCounts c.id user
  recipient (zone : String → Time → Option ℕ) (job : FanoutJob) (now : Time) : job.conversationId = c.id →
    (user ∈ (db.materialiseChannelMember c.id user clock).recipients zone job now ↔ user ∈ db.recipients zone job now)

/-- Opening a channel cannot be observed just when `conversation_unread` has nothing to count there, and the space is
not hidden or no message of the channel could notify the member even then. -/
theorem unobservable_iff {db : Database} {c : Conversation} {user parentId : Uuid} {am : ConversationMember} {clock : Time}
    (h : Unopened db.tables c user parentId am) : Unobservable db c user clock ↔
      (c.deletedAt ≠ none ∨ c.messageSeq = 0) ∧ (db.sync.isHidden am.key = false ∨
        ∀ zone job now, job.conversationId = c.id →
          ¬(job.silent = false ∧ db.audience c am = true ∧ db.wanted zone job now c am = true)) := by
  constructor
  · intro hu
    refine ⟨(unreadCounts_opened_iff h).mp hu.unreadCounts, ?_⟩
    by_cases hhidden : db.sync.isHidden am.key = false
    · exact .inl hhidden
    · exact .inr fun zone job now hjob =>
        ((recipients_opened_iff h hjob).mp (hu.recipient zone job now hjob)).resolve_left hhidden
  · rintro ⟨hcounts, hpush⟩
    exact {
      permissions := fun now => h.memberPermissions
      masks := fun mask => h.mem_permissions mask
      history := fun now opts => history_opened h opts
      message := fun now m hm hmc => ⟨get_opened h hm hmc, canReadMessage_opened h hm hmc⟩
      thread := fun now => thread_opened h
      pins := fun now => pins_opened h
      gallery := fun now => gallery_opened h
      mediaWall := fun now => mediaWall_opened h
      catchUp := fun now => catchUp_opened h
      selfCounts := fun now => selfCounts_opened h
      channelCounts := channelCounts_opened h
      badge := badge_opened h
      unreadCounts := (unreadCounts_opened_iff h).mpr hcounts
      recipient := fun zone job now hjob => (recipients_opened_iff h hjob).mpr
        (hpush.imp_right fun hnone => hnone zone job now hjob) }

namespace Sample

def channel (messageSeq : ℕ) : Conversation :=
  { Permissions.Sample.conversation 2 .channel (some 1) with messageSeq := messageSeq }

def tables (messageSeq : ℕ) : Permissions.Database :=
  { Permissions.Sample.database with
    conversations := ⟨[Permissions.Sample.conversation 1 .space none, channel messageSeq], by
      simp [Permissions.Sample.conversation, channel]⟩
    one_level := by simp [Permissions.OneLevel, Permissions.Sample.conversation, channel, KeyedTable.find] }

lemma none_sent : ∀ m ∈ (KeyedTable.empty : KeyedTable Reads.Message.id).rows,
    ∀ m' ∈ (KeyedTable.empty : KeyedTable Reads.Message.id).rows,
      m.conversationId = m'.conversationId → m.seq = m'.seq → m = m' := nofun

lemma none_placed : ∀ x ∈ (KeyedTable.empty : KeyedTable Reads.MessageMention.key).rows,
    ∃ m, (KeyedTable.empty : KeyedTable Reads.Message.id).find x.messageId = some m ∧
      m.conversationId = x.conversationId ∧ m.seq = x.seq := nofun

def unwritten : Database where
  sync := {
    reads := {
      tables := tables 0
      messages := .empty
      messageDeletions := []
      pinnedMessages := .empty
      messageMentions := .empty
      savedMessages := .empty
      reminders := .empty
      notifications := .empty
      seq_unique := none_sent
      mention_placed := none_placed }
    isHidden _ := false
    updatedAt _ := 0
    lastMessageAt _ := none }
  notificationLevel _ := none
  accounts := ⟨[⟨12, none, ⟨none, none, none, none⟩⟩], by decide⟩
  presence := .empty

def unread : Database where
  sync := {
    reads := { unwritten.sync.reads with
      tables := tables 1
      messages := Sync.Sample.database.reads.messages
      seq_unique := Sync.Sample.database.reads.seq_unique
      mention_placed _ h := by cases h }
    isHidden key := key = (1, 12)
    updatedAt _ := 0
    lastMessageAt _ := none }
  notificationLevel := unwritten.notificationLevel
  accounts := unwritten.accounts
  presence := .empty

lemma unopened (messageSeq : ℕ) :
    Unopened (tables messageSeq) (channel messageSeq) 12 1 (.new 1 12 .member 0 0) where
  found := rfl
  parent := rfl
  member := rfl
  active := rfl
  unopened := rfl

def written : FanoutJob := ⟨100, 2, 10, false, [], false, []⟩

end Sample

open Sample in
theorem unobservable_iff_unwritten : Unobservable unwritten (channel 0) 12 8 :=
  (@unobservable_iff unwritten _ _ _ _ _ (unopened 0)).mpr ⟨.inr rfl, .inl rfl⟩

open Sample in
/-- The space that 12 hid buzzes for every channel that 12 has opened. -/
theorem hidden_space_buzzes : ¬ ∀ (db : Database) (c : Conversation) (user parentId : Uuid) (am : ConversationMember)
    (clock : Time), Unopened db.tables c user parentId am → Unobservable db c user clock := by
  intro hall
  have hrecipient := (hall unread _ _ _ _ 8 (unopened 1)).recipient (fun _ _ => none) written 8 rfl
  have hbefore : (12 : Uuid) ∉ unread.recipients (fun _ _ => none) written 8 := by decide
  have hafter : (12 : Uuid) ∈ (unread.materialiseChannelMember 2 12 8).recipients (fun _ _ => none) written 8 := by
    decide
  exact hbefore (hrecipient.mp hafter)
end Yappy.LazyRows
