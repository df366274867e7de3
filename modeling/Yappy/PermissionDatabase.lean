import Yappy.PermissionModel
import Yappy.KeyedTable

/-!
# The tables permissions are read from

The columns that permission checks and membership routes read or write, under the primary keys
of `packages/db/src/schema`. A mask column is a non-negative `bigint`.
-/
namespace Yappy.Permissions

abbrev Uuid := ℕ

/-- A permission column: an `int8` whose sign bit is never set. -/
abbrev Mask := Fin (2 ^ 63)

instance neZero_mask : NeZero (2 ^ 63) := ⟨by decide⟩

instance lawfulBEq_key : LawfulBEq (Uuid × Uuid) := inferInstance

def Mask.bits (m : Mask) : BitVec 64 := BitVec.ofNat 64 m

structure Conversation where
  id : Uuid
  type : ConversationType
  title : Option String
  description : Option String
  avatarMediaId : Option Uuid
  parentId : Option Uuid
  ownerId : Option Uuid
  messageSeq : ℕ
  basePermissions : Option Mask
  disappearingSeconds : ℕ
  slowModeSeconds : ℕ
  historyVisibility : String
  isPublic : Bool
  badge : Option String
  appearance : Option String
  deletedAt : Option Time
  deriving DecidableEq

/-- `coalesce(parent_id, id)`: where membership and roles live. -/
def Conversation.scope (c : Conversation) : Uuid := c.parentId.getD c.id

structure ConversationMember where
  conversationId : Uuid
  userId : Uuid
  role : MemberRole
  allow : Mask
  deny : Mask
  mutedUntil : Option Time
  lastReadSeq : ℕ
  lastReadAt : Option Time
  lastDeliveredSeq : ℕ
  mentionCount : ℕ
  isPinned : Bool
  isArchived : Bool
  draft : Option String
  draftUpdatedAt : Option Time
  historyStartSeq : ℕ
  isAffiliate : Bool
  invitedById : Option Uuid
  joinedAt : Time
  leftAt : Option Time
  rejoinCount : ℕ
  deriving DecidableEq

def ConversationMember.key (m : ConversationMember) : Uuid × Uuid := (m.conversationId, m.userId)

/-- A member row with every column that has a default at its default. -/
def ConversationMember.new (conversationId userId : Uuid) (role : MemberRole) (joinedAt : Time)
    (historyStartSeq : ℕ) : ConversationMember where
  conversationId := conversationId
  userId := userId
  role := role
  allow := 0
  deny := 0
  mutedUntil := none
  lastReadSeq := 0
  lastReadAt := none
  lastDeliveredSeq := 0
  mentionCount := 0
  isPinned := false
  isArchived := false
  draft := none
  draftUpdatedAt := none
  historyStartSeq := historyStartSeq
  isAffiliate := false
  invitedById := none
  joinedAt := joinedAt
  leftAt := none
  rejoinCount := 0

def ConversationMember.withRole (role : MemberRole) (m : ConversationMember) : ConversationMember :=
  { m with role := role }

def ConversationMember.gone (clock : Time) (m : ConversationMember) : ConversationMember :=
  { m with leftAt := some clock }

def ConversationMember.back (m : ConversationMember) : ConversationMember :=
  { m with leftAt := none, rejoinCount := m.rejoinCount + 1 }

lemma ConversationMember.withRole_key (role : MemberRole) (m : ConversationMember) :
    (m.withRole role).key = m.key := rfl

lemma ConversationMember.gone_key (clock : Time) (m : ConversationMember) :
    (m.gone clock).key = m.key := rfl

lemma ConversationMember.back_key (m : ConversationMember) : m.back.key = m.key := rfl

structure ConversationRole where
  id : Uuid
  conversationId : Uuid
  name : String
  color : Option String
  permissions : Mask
  position : ℕ
  isHoisted : Bool
  isMentionable : Bool

structure RoleAssignment where
  conversationId : Uuid
  userId : Uuid
  roleId : Uuid
  assignedById : Option Uuid

def RoleAssignment.key (r : RoleAssignment) : Uuid × Uuid × Uuid :=
  (r.conversationId, r.userId, r.roleId)

structure RoleOverwrite where
  conversationId : Uuid
  roleId : Uuid
  allow : Mask
  deny : Mask

def RoleOverwrite.key (o : RoleOverwrite) : Uuid × Uuid := (o.conversationId, o.roleId)

structure ConversationBan where
  conversationId : Uuid
  userId : Uuid
  bannedById : Option Uuid
  reason : Option String
  expiresAt : Option Time

def ConversationBan.key (b : ConversationBan) : Uuid × Uuid := (b.conversationId, b.userId)

structure User where
  id : Uuid
  isBot : Bool

structure Application where
  id : Uuid
  botUserId : Uuid
  revokedAt : Option Time

structure ConversationApp where
  conversationId : Uuid
  applicationId : Uuid
  permissions : Mask

def ConversationApp.key (a : ConversationApp) : Uuid × Uuid := (a.conversationId, a.applicationId)

structure Invite where
  id : Uuid
  conversationId : Uuid
  code : String
  createdById : Uuid
  /-- A role this invite hands to whoever redeems it; not a foreign key. -/
  roleId : Option Uuid
  maxUses : ℕ
  uses : ℕ
  expiresAt : Option Time
  revokedAt : Option Time

/-- The constraint `conversations_only_channels_nest`, the foreign key on `parent_id` and the trigger
`conversations_parent_is_space`: one level, enforced. -/
def OneLevel (conversations : KeyedTable Conversation.id) : Prop :=
  ∀ c ∈ conversations.rows, ∀ p ∈ c.parentId, c.type = .channel ∧
    ((conversations.find p).any fun s => s.type = .space) = true

lemma OneLevel.update {conversations : KeyedTable Conversation.id} (h : OneLevel conversations)
    {p : Conversation → Bool} {f : Conversation → Conversation} {hf : ∀ c, (f c).id = c.id}
    (hparent : ∀ c, (f c).parentId = c.parentId) (htype : ∀ c, (f c).type = c.type) :
    OneLevel (conversations.update p f hf) := by
  intro c hc parentId hp
  obtain ⟨r, hr, he⟩ := KeyedTable.mem_update hc
  have hsame : c.parentId = r.parentId ∧ c.type = r.type := by
    rcases he with rfl | rfl
    · exact ⟨rfl, rfl⟩
    · exact ⟨hparent r, htype r⟩
  rw [hsame.1] at hp
  obtain ⟨hchannel, hspace⟩ := h r hr parentId hp
  refine ⟨hsame.2.trans hchannel, ?_⟩
  rw [KeyedTable.find_update]
  cases hf : conversations.find parentId with
  | none => simp [hf] at hspace
  | some s =>
    simp only [hf, Option.any_some, Option.map_some] at hspace ⊢
    split_ifs
    · simpa [htype] using hspace
    · exact hspace

structure Database where
  conversations : KeyedTable Conversation.id
  conversationMembers : KeyedTable ConversationMember.key
  conversationRoles : KeyedTable ConversationRole.id
  memberRoles : KeyedTable RoleAssignment.key
  conversationRoleOverwrites : KeyedTable RoleOverwrite.key
  conversationBans : KeyedTable ConversationBan.key
  users : KeyedTable User.id
  applications : KeyedTable Application.id
  conversationApps : KeyedTable ConversationApp.key
  invites : KeyedTable Invite.code
  /-- `member_roles.role_id` is a foreign key. -/
  assigned_exists : ∀ mr ∈ memberRoles.rows, (conversationRoles.find mr.roleId).isSome
  one_level : OneLevel conversations

namespace Database
variable (db : Database)

def memberRow (conversationId userId : Uuid) : Option ConversationMember :=
  db.conversationMembers.find (conversationId, userId)

def IsActiveMember (conversationId userId : Uuid) : Prop :=
  ∃ m, db.memberRow conversationId userId = some m ∧ m.leftAt = none

/-- `member_count`, as the trigger on `conversation_members` keeps it. -/
def memberCount (conversationId : Uuid) : ℕ :=
  (db.conversationMembers.rows.filter fun m =>
    m.conversationId = conversationId ∧ m.leftAt = none).length

variable {db} {id parentId : Uuid} {c : Conversation}

lemma parent_root (hc : db.conversations.find id = some c) (hp : c.parentId = some parentId) :
    ∃ s, db.conversations.find parentId = some s ∧ s.parentId = none := by
  obtain ⟨hrow, -⟩ := KeyedTable.find_eq_some.mp hc
  obtain ⟨-, hspace⟩ := db.one_level c hrow parentId hp
  cases hs : db.conversations.find parentId with
  | none => simp [hs] at hspace
  | some s =>
    refine ⟨s, rfl, ?_⟩
    have htype : s.type = .space := by simpa [hs] using hspace
    cases hsp : s.parentId with
    | none => rfl
    | some q =>
      have hchannel := (db.one_level s (KeyedTable.find_eq_some.mp hs).1 q hsp).1
      rw [htype] at hchannel
      cases hchannel

lemma parent_ne (hc : db.conversations.find id = some c) : c.parentId ≠ some id := by
  intro hp
  obtain ⟨s, hs, hroot⟩ := parent_root hc hp
  rw [hc] at hs
  obtain rfl := Option.some.inj hs
  rw [hp] at hroot
  cases hroot

end Database

/-! ### A space to try things on -/

namespace Sample

def conversation (id : Uuid) (type : ConversationType) (parentId : Option Uuid) : Conversation where
  id := id
  type := type
  title := none
  description := none
  avatarMediaId := none
  parentId := parentId
  ownerId := none
  messageSeq := 0
  basePermissions := none
  disappearingSeconds := 0
  slowModeSeconds := 0
  historyVisibility := "since_join"
  isPublic := false
  badge := none
  appearance := none
  deletedAt := none

lemma two_users : (([⟨10, false⟩, ⟨12, false⟩] : List User).map User.id).Nodup := by decide

lemma none_assigned : ∀ mr ∈ (KeyedTable.empty : KeyedTable RoleAssignment.key).rows,
    ((KeyedTable.empty : KeyedTable ConversationRole.id).find mr.roleId).isSome := nofun

def role (id conversationId : Uuid) (permissions : Mask) : ConversationRole :=
  ⟨id, conversationId, "helpers", none, permissions, 0, false, false⟩

/-- The space 1 and its channel 2, with an owner 10, an administrator 11 who opened the channel,
a member 12 who holds the role 20, a bot 13, and 14, who left. -/
def database : Database where
  conversations := ⟨[conversation 1 .space none, conversation 2 .channel (some 1)], by decide⟩
  conversationMembers := ⟨[.new 1 10 .owner 0 0, .new 1 11 .admin 0 0, .new 2 11 .admin 0 0,
    .new 1 12 .member 0 0, .new 1 13 .member 0 0,
    { ConversationMember.new 1 14 .member 0 0 with leftAt := some 5 }], by decide⟩
  conversationRoles := ⟨[role 20 1 0], by decide⟩
  memberRoles := ⟨[⟨1, 12, 20, some 10⟩], by decide⟩
  conversationRoleOverwrites := .empty
  conversationBans := .empty
  users := ⟨[⟨10, false⟩, ⟨11, false⟩, ⟨12, false⟩, ⟨13, true⟩, ⟨14, false⟩], by decide⟩
  applications := .empty
  conversationApps := .empty
  invites := .empty
  assigned_exists := by decide
  one_level := by unfold OneLevel; decide

end Sample
end Yappy.Permissions
