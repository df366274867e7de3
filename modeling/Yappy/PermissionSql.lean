import Yappy.PermissionAccess
import Yappy.Relational

/-!
# Visibility, answered in SQL

`conversation_permissions` and `conversation_viewers` of `packages/db/sql/0003_functions.sql`,
query by query over 64-bit masks, and their agreement with `loadMemberContext`.
-/
namespace Yappy.Permissions

def ConversationType.text : ConversationType → String
  | .dm => "dm"
  | .group => "group"
  | .channel => "channel"
  | .space => "space"

def MemberRole.text : MemberRole → String
  | .owner => "owner"
  | .admin => "admin"
  | .moderator => "moderator"
  | .member => "member"
  | .restricted => "restricted"

namespace Sql

def permissionConstants : List (String × BitVec 64) :=
  [("ALL_PERMISSIONS", 4611686292247314431),
    ("ADMINISTRATOR", 4611686018427387904),
    ("VIEW_CONVERSATION", 1),
    ("role.owner", 4611686292247314431),
    ("role.admin", 273819926527),
    ("role.moderator", 22564339711),
    ("role.member", 0),
    ("role.restricted", 2097155),
    ("base.dm", 11558399),
    ("base.group", 1085283839),
    ("base.channel", 1085283839),
    ("base.space", 1075838979)]

/-- `(SELECT value FROM permission_constants() WHERE name = …)`. -/
def constant (name : String) : BitVec 64 := (permissionConstants.lookup name).getD 0

variable (db : Database)

/-- The `ch` subquery: the undeleted conversation with this id. -/
def ch (conversation : Uuid) : List Conversation :=
  db.conversations.rows.filter fun c => c.id = conversation ∧ c.deletedAt = none

def base (ch : Conversation) : BitVec 64 :=
  match ch.basePermissions with
  | some m => m.bits
  | none => constant ("base." ++ ch.type.text)

def auth (ch : Conversation) : List ConversationMember :=
  db.conversationMembers.rows.filter fun pm => pm.conversationId = ch.scope ∧ pm.leftAt = none

/-- A row of the three-way join under `role_masks`. -/
structure RoleJoin where
  assignment : RoleAssignment
  role : ConversationRole
  overwrite : Option RoleOverwrite

def roleJoin (ch : Conversation) : List RoleJoin :=
  (db.memberRoles.rows.filter fun mr => mr.conversationId = ch.scope).flatMap fun mr =>
    (db.conversationRoles.rows.filter fun r => r.id = mr.roleId).flatMap fun r =>
      (leftJoin db.conversationRoleOverwrites.rows fun o => o.key = (ch.id, mr.roleId)).map
        fun o => ⟨mr, r, o⟩

structure RoleMasks where
  rolePerms : BitVec 64
  roleAllow : BitVec 64
  roleDeny : BitVec 64

/-- The aggregates of one group; `bit_or` skips nulls. -/
def aggregate (group : List RoleJoin) : RoleMasks where
  rolePerms := bitOrVec (group.map fun j => j.role.permissions.bits)
  roleAllow := bitOrVec (group.filterMap fun j => j.overwrite.map fun o => o.allow.bits)
  roleDeny := bitOrVec (group.filterMap fun j => j.overwrite.map fun o => o.deny.bits)

/-- The `role_masks` subquery. -/
def roleMasks (ch : Conversation) : List (Uuid × RoleMasks) :=
  groupBy (fun j => j.assignment.userId) aggregate (roleJoin db ch)

structure Input where
  userId : Uuid
  role : String
  base : BitVec 64
  rolePerms : BitVec 64
  roleAllow : BitVec 64
  roleDeny : BitVec 64
  mAllow : BitVec 64
  mDeny : BitVec 64
  ladder : BitVec 64

/-- Its columns, from the joined rows; a null row contributes 0. -/
def inputRow (ch : Conversation) (a : ConversationMember) (rm : Option (Uuid × RoleMasks))
    (cm : Option ConversationMember) : Input where
  userId := a.userId
  role := a.role.text
  base := base ch
  rolePerms := rm.elim 0 fun rm => rm.2.rolePerms
  roleAllow := rm.elim 0 fun rm => rm.2.roleAllow
  roleDeny := rm.elim 0 fun rm => rm.2.roleDeny
  mAllow := (cm.elim 0 fun cm => cm.allow.bits) ||| if ch.parentId.isSome then a.allow.bits else 0
  mDeny := (cm.elim 0 fun cm => cm.deny.bits) ||| if ch.parentId.isSome then a.deny.bits else 0
  ladder := constant ("role." ++ a.role.text)

def inputs (ch : Conversation) : List Input :=
  (auth db ch).flatMap fun a =>
    (leftJoin (roleMasks db ch) fun rm => rm.1 = a.userId).flatMap fun rm =>
      (leftJoin db.conversationMembers.rows fun cm => cm.key = (ch.id, a.userId)).map fun cm =>
        inputRow ch a rm cm

/-- The `tier1` and `tier2` columns and the final `CASE`. -/
def resolve (i : Input) : BitVec 64 :=
  let p1 := if i.role = "owner" then constant "ALL_PERMISSIONS"
    else i.base ||| i.ladder ||| i.rolePerms
  let p2 := if p1 &&& constant "ADMINISTRATOR" ≠ 0 then constant "ALL_PERMISSIONS" else p1
  if i.role = "restricted" then (constant "role.restricted" ||| i.mAllow) &&& ~~~i.mDeny
  else (((p2 &&& ~~~i.roleDeny) ||| i.roleAllow) ||| i.mAllow) &&& ~~~i.mDeny

def conversationPermissions (conversation : Uuid) : List (Uuid × BitVec 64) :=
  (ch db conversation).flatMap fun ch => (inputs db ch).map fun i => (i.userId, resolve i)

def conversationViewers (conversation : Uuid) : List Uuid :=
  ((conversationPermissions db conversation).filter fun p =>
    p.2 &&& constant "ADMINISTRATOR" ≠ 0 ∨
      p.2 &&& constant "VIEW_CONVERSATION" = constant "VIEW_CONVERSATION").map Prod.fst

def canViewConversation (conversation user : Uuid) : Bool :=
  (conversationViewers db conversation).any fun v => v = user

/-! ### The constants are the ones in TypeScript -/

lemma constant_allPermissions : constant "ALL_PERMISSIONS" = BitVec.ofNat 64 allPermissions := by
  decide

lemma constant_administrator :
    constant "ADMINISTRATOR" = BitVec.ofNat 64 (2 ^ 62) := by decide

lemma constant_viewConversation :
    constant "VIEW_CONVERSATION" = BitVec.ofNat 64 (2 ^ 0) := by decide

lemma constant_role (role : MemberRole) :
    constant ("role." ++ role.text) = BitVec.ofNat 64 (rolePermissions role) := by
  cases role <;> decide

lemma constant_base (type : ConversationType) :
    constant ("base." ++ type.text) = BitVec.ofNat 64 (defaultConversationPermissions type) := by
  cases type <;> decide

lemma constant_restricted : constant "role.restricted" = BitVec.ofNat 64 restricted := by
  decide

/-! ### Each subquery, through the keys it joins on -/

variable {db}

lemma mem_ch {conversation : Uuid} {c : Conversation} :
    c ∈ ch db conversation ↔ db.conversations.find conversation = some c ∧ c.deletedAt = none := by
  simp only [ch, List.mem_filter, decide_eq_true_eq, KeyedTable.find_eq_some, and_assoc]

lemma mem_auth {c : Conversation} {a : ConversationMember} :
    a ∈ auth db c ↔ db.authority c a.userId = some a ∧ a.leftAt = none := by
  have ha : db.authority c a.userId = db.memberRow c.scope a.userId := by
    unfold Database.authority Conversation.scope
    cases c.parentId <;> rfl
  rw [ha, Database.memberRow, KeyedTable.find_eq_some]
  simp only [auth, List.mem_filter, decide_eq_true_eq, ConversationMember.key, Prod.mk.injEq,
    and_true, and_assoc]

lemma mem_roleJoin {c : Conversation} {j : RoleJoin} :
    j ∈ roleJoin db c ↔ j.assignment ∈ db.memberRoles.rows ∧
      j.assignment.conversationId = c.scope ∧ j.role ∈ db.conversationRoles.rows ∧
      j.role.id = j.assignment.roleId ∧
      j.overwrite = db.conversationRoleOverwrites.find (c.id, j.assignment.roleId) := by
  simp only [roleJoin, KeyedTable.leftJoin_key, List.mem_flatMap, List.mem_filter,
    decide_eq_true_eq, List.map_cons, List.map_nil, List.mem_singleton]
  constructor
  · rintro ⟨mr, ⟨hmr, hc⟩, r, ⟨hr, hid⟩, rfl⟩
    exact ⟨hmr, hc, hr, hid, rfl⟩
  · rintro ⟨hmr, hc, hr, hid, ho⟩
    refine ⟨_, ⟨hmr, hc⟩, _, ⟨hr, hid⟩, ?_⟩
    rw [← ho]

def group (db : Database) (c : Conversation) (user : Uuid) : List RoleJoin :=
  (roleJoin db c).filter fun j => j.assignment.userId = user

lemma aggregate_rolePerms (c : Conversation) (user : Uuid) :
    (aggregate (group db c user)).rolePerms = BitVec.ofNat 64 (db.rolePermissions c user) := by
  have hmap : (group db c user).map (fun j => j.role.permissions.bits) =
      ((group db c user).map fun j => (j.role.permissions : ℕ)).map (BitVec.ofNat 64) := by
    rw [List.map_map]
    rfl
  simp only [aggregate]
  rw [hmap, ← ofNat_bitOr, Database.rolePermissions]
  congr 1
  refine bitOr_congr fun x => ?_
  simp only [group, List.mem_map, List.mem_filter, mem_roleJoin, decide_eq_true_eq,
    List.mem_flatMap]
  constructor
  · rintro ⟨j, ⟨⟨hmr, hc, hr, hid, -⟩, hu⟩, rfl⟩
    exact ⟨j.assignment, ⟨hmr, hc, hu⟩, j.role, ⟨hr, hid⟩, rfl⟩
  · rintro ⟨mr, ⟨hmr, hc, hu⟩, r, ⟨hr, hid⟩, rfl⟩
    exact ⟨⟨mr, r, db.conversationRoleOverwrites.find (c.id, mr.roleId)⟩,
      ⟨⟨hmr, hc, hr, hid, rfl⟩, hu⟩, rfl⟩

lemma aggregate_overwrites (column : RoleOverwrite → Mask) (c : Conversation) (user : Uuid) :
    bitOrVec ((group db c user).filterMap fun j => j.overwrite.map fun o => (column o).bits) =
      BitVec.ofNat 64 (db.roleOverwrites column c user) := by
  have hmap : ((group db c user).filterMap fun j => j.overwrite.map fun o => (column o).bits) =
      ((group db c user).filterMap fun j => j.overwrite.map fun o => (column o : ℕ)).map
        (BitVec.ofNat 64) := by
    simp only [List.map_filterMap, Option.map_map]
    rfl
  rw [hmap, ← ofNat_bitOr, Database.roleOverwrites]
  congr 1
  refine bitOr_congr fun x => ?_
  simp only [group, List.mem_filterMap, List.mem_filter, mem_roleJoin, decide_eq_true_eq,
    List.mem_flatMap, List.mem_map, Option.map_eq_some_iff]
  constructor
  · rintro ⟨j, ⟨⟨hmr, hc, hr, hid, ho⟩, hu⟩, o, hjo, rfl⟩
    obtain ⟨hom, hok⟩ := KeyedTable.find_eq_some.mp (ho.symm.trans hjo)
    obtain ⟨hoc, hor⟩ := Prod.mk.inj hok
    exact ⟨o, ⟨hom, hoc⟩, j.assignment, ⟨hmr, hor.symm, hc, hu⟩, rfl⟩
  · rintro ⟨o, ⟨hom, hoc⟩, mr, ⟨hmr, hor, hc, hu⟩, rfl⟩
    obtain ⟨r, hr⟩ := Option.isSome_iff_exists.mp (db.assigned_exists mr hmr)
    obtain ⟨hrm, hid⟩ := KeyedTable.find_eq_some.mp hr
    have ho : db.conversationRoleOverwrites.find (c.id, mr.roleId) = some o :=
      KeyedTable.find_eq_some.mpr ⟨hom, by simp [RoleOverwrite.key, hoc, hor]⟩
    exact ⟨⟨mr, r, some o⟩, ⟨⟨hmr, hc, hrm, hid, ho.symm⟩, hu⟩, o, rfl, rfl⟩

lemma roleMasks_elim (c : Conversation) (user : Uuid) (column : RoleMasks → BitVec 64)
    (hnil : column (aggregate []) = 0) :
    ((if user ∈ (roleJoin db c).map (fun j => j.assignment.userId)
      then some (user, aggregate (group db c user)) else none).elim 0 fun rm => column rm.2) =
      column (aggregate (group db c user)) := by
  split_ifs with hu
  · rfl
  · have : group db c user = [] := by
      refine List.filter_eq_nil_iff.mpr fun j hj he => hu ?_
      exact List.mem_map.mpr ⟨j, hj, of_decide_eq_true he⟩
    rw [this, hnil]
    rfl

/-- The row of `inputs` that an active member of the scope gets. -/
def input (db : Database) (c : Conversation) (a : ConversationMember) : Input where
  userId := a.userId
  role := a.role.text
  base := BitVec.ofNat 64 ((c.basePermissions.map Fin.val).getD
    (defaultConversationPermissions c.type))
  rolePerms := BitVec.ofNat 64 (db.rolePermissions c a.userId)
  roleAllow := BitVec.ofNat 64 (db.roleAllow c a.userId)
  roleDeny := BitVec.ofNat 64 (db.roleDeny c a.userId)
  mAllow := BitVec.ofNat 64 (((db.memberRow c.id a.userId).elim 0 fun m => (m.allow : ℕ)) |||
    if c.parentId.isSome then (a.allow : ℕ) else 0)
  mDeny := BitVec.ofNat 64 (((db.memberRow c.id a.userId).elim 0 fun m => (m.deny : ℕ)) |||
    if c.parentId.isSome then (a.deny : ℕ) else 0)
  ladder := BitVec.ofNat 64 (rolePermissions a.role)

lemma inputs_eq (c : Conversation) : inputs db c = (auth db c).map (input db c) := by
  have hrow : ∀ a : ConversationMember,
      inputRow c a (if a.userId ∈ (roleJoin db c).map (fun j => j.assignment.userId)
        then some (a.userId, aggregate (group db c a.userId)) else none)
        (db.memberRow c.id a.userId) = input db c a := by
    intro a
    have hbase : base c = BitVec.ofNat 64 ((c.basePermissions.map Fin.val).getD
        (defaultConversationPermissions c.type)) := by
      unfold base
      cases c.basePermissions with
      | none => exact constant_base c.type
      | some m => rfl
    have hpair : ∀ column : ConversationMember → Mask,
        ((db.memberRow c.id a.userId).elim 0 fun cm => (column cm).bits) |||
          (if c.parentId.isSome then (column a).bits else 0) =
        BitVec.ofNat 64 (((db.memberRow c.id a.userId).elim 0 fun m => (column m : ℕ)) |||
          if c.parentId.isSome then (column a : ℕ) else 0) := by
      intro column
      rw [ofNat_or]
      congr 1
      · cases db.memberRow c.id a.userId <;> rfl
      · cases c.parentId <;> rfl
    simp only [inputRow, input, hbase, constant_role, hpair ConversationMember.allow,
      hpair ConversationMember.deny, roleMasks_elim c a.userId RoleMasks.rolePerms rfl,
      roleMasks_elim c a.userId RoleMasks.roleAllow rfl,
      roleMasks_elim c a.userId RoleMasks.roleDeny rfl, aggregate_rolePerms]
    congr 1
    · exact aggregate_overwrites RoleOverwrite.allow c a.userId
    · exact aggregate_overwrites RoleOverwrite.deny c a.userId
  have hjoin : ∀ a : ConversationMember,
      ((leftJoin (roleMasks db c) fun rm => rm.1 = a.userId).flatMap fun rm =>
        (leftJoin db.conversationMembers.rows fun cm => cm.key = (c.id, a.userId)).map fun cm =>
          inputRow c a rm cm) = [input db c a] := by
    intro a
    rw [roleMasks, leftJoin_groupBy]
    simp only [KeyedTable.leftJoin_key, List.flatMap_cons, List.flatMap_nil, List.map_cons,
      List.map_nil, List.append_nil]
    exact congrArg (fun i => [i]) (hrow a)
  simp only [inputs, hjoin]
  induction auth db c with
  | nil => rfl
  | cons a as ih => simpa using ih

lemma text_owner (role : MemberRole) : role.text = "owner" ↔ role = .owner := by
  cases role <;> decide

lemma text_restricted (role : MemberRole) : role.text = "restricted" ↔ role = .restricted := by
  cases role <;> decide

lemma tier1_input (c : Conversation) (a : ConversationMember) :
    (if (input db c a).role = "owner" then constant "ALL_PERMISSIONS"
      else (input db c a).base ||| (input db c a).ladder ||| (input db c a).rolePerms) =
      BitVec.ofNat 64 (db.permissionInput c a.userId a).rankMask := by
  have htext : (input db c a).role = "owner" ↔ a.role = .owner := text_owner a.role
  simp only [htext, EffectivePermissionInput.rankMask]
  by_cases ho : a.role = .owner
  · rw [if_pos ho, if_pos (show (db.permissionInput c a.userId a).role = .owner from ho),
      constant_allPermissions]
  · rw [if_neg ho, if_neg (show (db.permissionInput c a.userId a).role ≠ .owner from ho),
      ofNat_or, ofNat_or]
    rfl

lemma resolve_input (c : Conversation) (a : ConversationMember) (clock : Time) :
    resolve (input db c a) = BitVec.ofNat 64
      ({ (db.permissionInput c a.userId a).tiers clock with muted := 0 } : Tiers).compose := by
  have htext : (input db c a).role = "restricted" ↔ a.role = .restricted := text_restricted a.role
  simp only [resolve, tier1_input, htext]
  unfold EffectivePermissionInput.tiers
  by_cases hr : a.role = .restricted
  · rw [if_pos hr, if_pos (show (db.permissionInput c a.userId a).role = .restricted from hr)]
    simp only [Tiers.compose, andNot_zero, Nat.or_zero, constant_restricted]
    rw [ofNat_andNot, ofNat_or]
    rfl
  · rw [if_neg hr, if_neg (show (db.permissionInput c a.userId a).role ≠ .restricted from hr)]
    simp only [Tiers.compose, andNot_zero, constant_administrator]
    rw [ofNat_andNot, ofNat_or, ofNat_or, ofNat_andNot, constant_allPermissions]
    congr 4
    by_cases hadmin : (db.permissionInput c a.userId a).rankMask.testBit 62 = true
    · rw [if_pos ((ofNat_and_two_pow_ne_zero (by decide)).mpr hadmin), if_pos hadmin]
    · rw [if_neg (mt (ofNat_and_two_pow_ne_zero (by decide)).mp hadmin), if_neg hadmin]

lemma has_bit_compose {i : ℕ} (hi : silenced.testBit i = false) (input : EffectivePermissionInput)
    (clock : Time) :
    has (input.tiers clock).compose (2 ^ i) = true ↔
      ({ input.tiers clock with muted := 0 } : Tiers).compose.testBit 62 = true ∨
        ({ input.tiers clock with muted := 0 } : Tiers).compose.testBit i = true := by
  have hmuted : ∀ i, silenced.testBit i = false → (input.tiers clock).muted.testBit i = false := by
    intro i hi
    unfold EffectivePermissionInput.tiers
    split_ifs <;> simp [hi]
  rw [has_eq_true, ← and_eq_iff, and_two_pow_eq]
  simp only [Tiers.testBit_compose, hmuted 62 testBit_silenced_administrator, hmuted i hi,
    Nat.zero_testBit]

lemma has_view_compose (input : EffectivePermissionInput) (clock : Time) :
    has (input.tiers clock).compose Permission.viewConversation = true ↔
      ({ input.tiers clock with muted := 0 } : Tiers).compose.testBit 62 = true ∨
        ({ input.tiers clock with muted := 0 } : Tiers).compose.testBit 0 = true :=
  has_bit_compose testBit_silenced_view input clock

lemma mem_conversationPermissions {conversation : Uuid} {p : Uuid × BitVec 64} :
    p ∈ conversationPermissions db conversation ↔
      ∃ c a, db.conversations.find conversation = some c ∧ c.deletedAt = none ∧
        db.authority c p.1 = some a ∧ a.leftAt = none ∧ p.2 = resolve (input db c a) := by
  simp only [conversationPermissions, inputs_eq, List.map_map, List.mem_map, List.mem_flatMap,
    Function.comp_apply]
  constructor
  · rintro ⟨c, hc, a, ha, rfl⟩
    obtain ⟨hfind, hlive⟩ := mem_ch.mp hc
    obtain ⟨hauth, hleft⟩ := mem_auth.mp ha
    exact ⟨c, a, hfind, hlive, hauth, hleft, rfl⟩
  · rintro ⟨c, a, hfind, hlive, hauth, hleft, hp⟩
    have hu : a.userId = p.1 := by
      unfold Database.authority at hauth
      split at hauth <;> exact congrArg Prod.snd (KeyedTable.find_key hauth)
    rw [← hu] at hauth
    exact ⟨c, mem_ch.mpr ⟨hfind, hlive⟩, a, mem_auth.mpr ⟨hauth, hleft⟩, Prod.ext hu hp.symm⟩

/-- `conversation_viewers` answers the active members of the scope whose composition has one of
the two bits. -/
theorem mem_conversationViewers {conversation user : Uuid} (clock : Time) :
    user ∈ conversationViewers db conversation ↔
      ∃ c a, db.conversations.find conversation = some c ∧ c.deletedAt = none ∧
        db.authority c user = some a ∧ a.leftAt = none ∧
        has (effectivePermissions (db.permissionInput c user a) clock)
          Permission.viewConversation = true := by
  have hperm : ∀ c a, (resolve (input db c a) &&& constant "ADMINISTRATOR" ≠ 0 ∨
      resolve (input db c a) &&& constant "VIEW_CONVERSATION" = constant "VIEW_CONVERSATION") ↔
        has (effectivePermissions (db.permissionInput c a.userId a) clock)
          Permission.viewConversation = true := by
    intro c a
    rw [effectivePermissions_eq_compose, has_view_compose, resolve_input c a clock,
      constant_administrator, constant_viewConversation,
      ofNat_and_two_pow_ne_zero (by decide), ofNat_and_two_pow_eq (by decide)]
  have huser : ∀ {c : Conversation} {a : ConversationMember} {u : Uuid},
      db.authority c u = some a → a.userId = u := by
    intro c a u hauth
    unfold Database.authority at hauth
    split at hauth <;> exact congrArg Prod.snd (KeyedTable.find_key hauth)
  simp only [conversationViewers, List.mem_map, List.mem_filter, mem_conversationPermissions,
    decide_eq_true_eq]
  constructor
  · rintro ⟨p, ⟨⟨c, a, hfind, hlive, hauth, hleft, he⟩, hp⟩, rfl⟩
    rw [he, hperm, huser hauth] at hp
    exact ⟨c, a, hfind, hlive, hauth, hleft, hp⟩
  · rintro ⟨c, a, hfind, hlive, hauth, hleft, hp⟩
    refine ⟨(user, resolve (input db c a)), ⟨⟨c, a, hfind, hlive, hauth, hleft, rfl⟩, ?_⟩, rfl⟩
    rw [hperm, huser hauth]
    exact hp

/-- The database and the API agree on who can see a conversation. -/
theorem conversationViewers_iff_loadMemberContext (db : Database) (conversation user : Uuid)
    (clock : Time) :
    user ∈ conversationViewers db conversation ↔
      ∃ ctx, db.loadMemberContext conversation user clock = some ctx ∧
        has ctx.permissions Permission.viewConversation = true := by
  rw [mem_conversationViewers clock]
  simp only [Database.loadMemberContext_eq_some]
  constructor
  · rintro ⟨c, a, hfind, hlive, hauth, hleft, hp⟩
    exact ⟨⟨c, _, _, _⟩, ⟨c, a, hfind, hlive, hauth, hleft, rfl, rfl, rfl, rfl⟩, hp⟩
  · rintro ⟨ctx, ⟨c, a, hfind, hlive, hauth, hleft, -, -, -, hperm⟩, hp⟩
    exact ⟨c, a, hfind, hlive, hauth, hleft, hperm ▸ hp⟩

end Sql
end Yappy.Permissions
