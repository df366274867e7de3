import Yappy.PermissionComposition
import Yappy.SyncDelta

/-!
# The permissions of the home list

`list` and `view` of `apps/api/src/services/conversations.ts`, as far as the `permissions` that each of
them reports.
-/
namespace Yappy.HomeList

open Pages (Query)
open Permissions (AppError Conversation ConversationMember EffectivePermissionInput Tiers Time Uuid
  effectivePermissions effectivePermissions_eq_compose)

structure Options where
  limit : ℕ
  before : Option Time
  archived : Bool
  hidden : Bool

variable (db : Sync.Database) (viewer : Uuid)

/-- What `list` joins, before the options: no channels, which belong to their space's screen. -/
def joined : List (Conversation × ConversationMember) :=
  (db.reads.tables.conversationMembers.rows.filter fun m => m.userId = viewer && m.leftAt.isNone
    ).filterMap fun m => ((db.reads.tables.conversations.find m.conversationId).filter fun c =>
      c.deletedAt.isNone && c.parentId.isNone).map fun c => (c, m)

def query (opts : Options) : Query (Conversation × ConversationMember) (List ℤ) where
  admitted := (joined db viewer).filter fun row => row.2.isArchived = opts.archived &&
    db.isHidden row.2.key = opts.hidden &&
    opts.before.all fun before => (db.lastMessageAt row.1.id).any fun at_ => at_ < before
  order row := (if row.2.isPinned then 0 else 1) ::
    (db.lastMessageAt row.1.id).elim [] fun at_ => [-(at_ : ℤ)]
  limit := opts.limit

def listInput (c : Conversation) (m : ConversationMember) : EffectivePermissionInput where
  conversationType := c.type
  basePermissions := c.basePermissions.map Fin.val
  role := m.role
  rolePermissions := none
  roleAllow := none
  roleDeny := none
  allow := some (m.allow : ℕ)
  deny := some (m.deny : ℕ)
  mutedUntil := m.mutedUntil
  now := none

/-- The conversations of one page, each with its `permissions`. -/
def list (opts : Options) (clock : Time) : List (Conversation × ConversationMember × ℕ) :=
  (query db viewer opts).run.map fun row => (row.1, row.2, effectivePermissions (listInput row.1 row.2) clock)

def view (conversationId : Uuid) (clock : Time) : Except AppError ℕ := do
  let ctx ← db.reads.tables.requireMember conversationId viewer clock
  return ctx.permissions

def granted (t : Tiers) (i : ℕ) : Bool := t.floor.testBit i && !t.roleDeny.testBit i || t.roleAllow.testBit i

/-- Neither the member's own masks nor a mute decides it. -/
def Undecided (t : Tiers) (i : ℕ) : Prop :=
  t.allow.testBit i = false ∧ t.deny.testBit i = false ∧ t.muted.testBit i = false

/-- The named roles and their overwrites leave every undecided permission to base and ladder. -/
def RolesSilent (c : Conversation) (m : ConversationMember) (clock : Time) : Prop :=
  ∀ i, Undecided ((listInput c m).tiers clock) i →
    granted ((db.reads.tables.permissionInput c viewer m).tiers clock) i =
      granted ((listInput c m).tiers clock) i

variable {db viewer} {opts : Options} {clock : Time} {c : Conversation} {m : ConversationMember} {permissions : ℕ}

lemma mem_list (h : (c, m, permissions) ∈ list db viewer opts clock) :
    db.reads.tables.conversations.find c.id = some c ∧ c.deletedAt = none ∧ c.parentId = none ∧
      db.reads.tables.memberRow c.id viewer = some m ∧ m.leftAt = none ∧
      permissions = effectivePermissions (listInput c m) clock := by
  obtain ⟨⟨c', m'⟩, hrow, heq⟩ := List.mem_map.mp h
  obtain ⟨rfl, hrest⟩ := Prod.mk.inj heq
  obtain ⟨rfl, rfl⟩ := Prod.mk.inj hrest
  have hjoined := (List.mem_filter.mp (Pages.Query.mem_of_mem_run hrow)).1
  obtain ⟨m, hm, hc⟩ := List.mem_filterMap.mp hjoined
  obtain ⟨c, hfind, heq⟩ := Option.map_eq_some_iff.mp hc
  obtain ⟨rfl, rfl⟩ := Prod.mk.inj heq
  obtain ⟨hmem, hactive⟩ := List.mem_filter.mp hm
  obtain ⟨hfind, hlive⟩ := Option.filter_eq_some_iff.mp hfind
  simp only [Bool.and_eq_true, decide_eq_true_eq, Option.isNone_iff_eq_none] at hactive hlive
  have hid : c.id = m.conversationId := KeyedTable.find_key hfind
  refine ⟨hid ▸ hfind, hlive.1, hlive.2, ?_, hactive.2, rfl⟩
  rw [hid]
  exact KeyedTable.find_eq_some.mpr ⟨hmem, by rw [ConversationMember.key, hactive.1]⟩

lemma view_eq (hc : db.reads.tables.conversations.find c.id = some c) (hlive : c.deletedAt = none)
    (hroot : c.parentId = none) (hm : db.reads.tables.memberRow c.id viewer = some m) (hleft : m.leftAt = none) :
    view db viewer c.id clock = .ok (effectivePermissions (db.reads.tables.permissionInput c viewer m) clock) := by
  have hauthority : db.reads.tables.authority c viewer = some m := by
    unfold Permissions.Database.authority
    rw [hroot]
    exact hm
  have hctx : ∃ ctx, db.reads.tables.requireMember c.id viewer clock = .ok ctx ∧
      ctx.permissions = effectivePermissions (db.reads.tables.permissionInput c viewer m) clock := by
    refine ⟨⟨_, _, _, _⟩, Permissions.Database.requireMember_eq_ok.mpr (Permissions.Database.loadMemberContext_eq_some.mpr
      ⟨c, m, hc, hlive, hauthority, hleft, rfl, rfl, rfl, rfl⟩), rfl⟩
  obtain ⟨ctx, hok, hpermissions⟩ := hctx
  unfold view
  rw [hok, ← hpermissions]
  rfl

lemma permissionInput_eq (hroot : c.parentId = none) (hm : db.reads.tables.memberRow c.id viewer = some m) :
    db.reads.tables.permissionInput c viewer m = { listInput c m with
      rolePermissions := some (db.reads.tables.rolePermissions c viewer)
      roleAllow := some (db.reads.tables.roleAllow c viewer)
      roleDeny := some (db.reads.tables.roleDeny c viewer) } := by
  unfold Permissions.Database.permissionInput listInput
  simp [hm, hroot]

lemma compose_eq_iff {t t' : Tiers} (hallow : t'.allow = t.allow) (hdeny : t'.deny = t.deny)
    (hmuted : t'.muted = t.muted) :
    t'.compose = t.compose ↔ ∀ i, Undecided t i → granted t' i = granted t i := by
  have hbit : ∀ u : Tiers, ∀ i, u.compose.testBit i =
      ((granted u i || u.allow.testBit i) && !u.deny.testBit i && !u.muted.testBit i) := Tiers.testBit_compose
  constructor
  · rintro heq i ⟨ha, hd, hm⟩
    have hi := congrArg (Nat.testBit · i) heq
    simp only [hbit, hallow, hdeny, hmuted, ha, hd, hm, Bool.or_false, Bool.not_false, Bool.and_true] at hi
    exact hi
  · intro h
    refine Nat.eq_of_testBit_eq fun i => ?_
    rw [hbit, hbit, hallow, hdeny, hmuted]
    cases ha : t.allow.testBit i with
    | true => rw [Bool.or_true, Bool.or_true]
    | false =>
      cases hd : t.deny.testBit i with
      | true => rw [Bool.not_true, Bool.and_false, Bool.and_false]
      | false =>
        cases hm : t.muted.testBit i with
        | true => rw [Bool.not_true, Bool.and_false, Bool.and_false]
        | false => rw [h i ⟨ha, hd, hm⟩]

/-- The list reports what the conversation itself does, just where the named roles are silent. -/
theorem list_agrees_iff (h : (c, m, permissions) ∈ list db viewer opts clock) :
    view db viewer c.id clock = .ok permissions ↔ RolesSilent db viewer c m clock := by
  obtain ⟨hc, hlive, hroot, hm, hleft, rfl⟩ := mem_list h
  rw [view_eq hc hlive hroot hm hleft, Except.ok.injEq, effectivePermissions_eq_compose,
    effectivePermissions_eq_compose]
  have hinput := permissionInput_eq hroot hm
  refine compose_eq_iff ?_ ?_ ?_
  all_goals
    rw [hinput]
    unfold EffectivePermissionInput.tiers
    by_cases hr : m.role = .restricted
    · simp [listInput, hr]
    · simp [listInput, hr, EffectivePermissionInput.isMuted]

namespace Sample

open Permissions (Mask)

def spaced (mask : Mask) : Sync.Database where
  reads := {
    tables := { Permissions.Sample.database with
      conversationRoles := ⟨[Permissions.Sample.role 20 1 mask], by simp⟩
      assigned_exists := by simp [Permissions.Sample.database, KeyedTable.find, Permissions.Sample.role] }
    messages := .empty
    messageDeletions := []
    pinnedMessages := .empty
    messageMentions := .empty
    savedMessages := .empty
    reminders := .empty
    notifications := .empty
    seq_unique _ h := by cases h
    mention_placed _ h := by cases h }
  isHidden _ := false
  updatedAt _ := 0
  lastMessageAt _ := none

def home : Options := ⟨30, none, false, false⟩

def row : Conversation × ConversationMember × ℕ :=
  (Permissions.Sample.conversation 1 .space none, .new 1 12 .member 0 0,
    Permissions.defaultConversationPermissions .space)

lemma row_mem (mask : Mask) : row ∈ list (spaced mask) 12 home 8 := by
  have hadmitted : (query (spaced mask) 12 home).admitted = [(row.1, row.2.1)] := rfl
  have hlist : list (spaced mask) 12 home 8 = [row] := by
    unfold list Pages.Query.run
    rw [hadmitted, List.mergeSort_singleton]
    rfl
  rw [hlist]
  exact List.mem_singleton_self row

end Sample

open Sample in
theorem list_agrees_iff_powerless : view (spaced 0) 12 1 8 = .ok row.2.2 := by
  refine (list_agrees_iff (row_mem 0)).mpr fun i hi => ?_
  have hsame : ((spaced 0).reads.tables.permissionInput row.1 12 row.2.1).tiers 8 =
      (listInput row.1 row.2.1).tiers 8 := rfl
  exact congrArg (granted · i) hsame

open Sample in
/-- A role that may pin messages is not in the list's answer. -/
theorem list_without_roles : row ∈ list (spaced ⟨Permissions.Permission.pinMessages, by decide⟩) 12 home 8 ∧
    ∃ permissions, view (spaced ⟨Permissions.Permission.pinMessages, by decide⟩) 12 1 8 = .ok permissions ∧
      Permissions.has permissions Permissions.Permission.pinMessages = true ∧
      Permissions.has row.2.2 Permissions.Permission.pinMessages = false :=
  ⟨row_mem _, _, rfl, by decide, by decide⟩

end Yappy.HomeList
