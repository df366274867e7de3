import Yappy.PermissionAccess

/-!
# The routes that write permissions

`apps/api/src/routes/roles.ts`, the member and settings routes of
`apps/api/src/routes/conversations.ts`, and `removeMember` of
`apps/api/src/services/conversations.ts`. A request runs against the database and answers the
database it leaves, or the error it is refused with. A bit field in a body is the number its
decimal text spells; a column holds it or the write fails.
-/
namespace Yappy.Permissions

/-- Store an unbounded number in an `int8` column. -/
def toMask (n : ℕ) : Except AppError Mask :=
  if h : n < 2 ^ 63 then .ok ⟨n, h⟩ else .error internalError

lemma toMask_eq_ok {n : ℕ} {m : Mask} : toMask n = .ok m ↔ (m : ℕ) = n := by
  unfold toMask
  split_ifs with h
  · rw [Except.ok.injEq]
    exact ⟨fun he => he ▸ rfl, fun he => Fin.ext he.symm⟩
  · simp only [false_iff]
    rintro rfl
    exact h m.isLt

lemma and_allPermissions_lt (n : ℕ) : n &&& allPermissions < 2 ^ 63 :=
  lt_of_le_of_lt Nat.and_le_right (by decide)

/-- `parsePermissions(field) & ALL_PERMISSIONS`. -/
def parseMasked (field : Option ℕ) : Mask :=
  ⟨parsePermissions field &&& allPermissions, and_allPermissions_lt _⟩

/-- Escalation guard: an owner is exempt, anyone else may only hand out bits that they have. -/
def assertCanGrant (ctx : MemberContext) (wanted : ℕ) : Except AppError Unit := do
  if ctx.member.role = .owner then
    return ()
  ensure (andNot wanted ctx.permissions = 0)
    (forbidden "You cannot grant a permission you do not have yourself")
  ensure (wanted &&& Permission.administrator = 0)
    (forbidden "Only the owner can grant administrator")

lemma assertCanGrant_eq_ok {ctx : MemberContext} {wanted : ℕ} {u : Unit} :
    assertCanGrant ctx wanted = .ok u ↔ ctx.member.role = .owner ∨
      (andNot wanted ctx.permissions = 0 ∧ wanted.testBit 62 = false) := by
  have hadmin : wanted &&& Permission.administrator = 0 ↔ wanted.testBit 62 = false := by
    rw [← not_iff_not, ← Ne, Permission.administrator, and_two_pow_ne_zero, Bool.not_eq_false]
  unfold assertCanGrant
  by_cases ho : ctx.member.role = .owner
  · simp [ho, pure, Except.pure]
  · simp [ho, hadmin]

structure OverwriteBody where
  allow : Option ℕ
  deny : Option ℕ

structure CreateRoleBody where
  name : String
  color : Option String
  permissions : ℕ
  position : ℕ
  isHoisted : Bool
  isMentionable : Bool

/-- An absent field is none; `color` may also be present and null. -/
structure UpdateRoleBody where
  name : Option String
  color : Option (Option String)
  permissions : Option ℕ
  position : Option ℕ
  isHoisted : Option Bool
  isMentionable : Option Bool
  deriving DecidableEq

structure UpdateMemberBody where
  role : Option MemberRole
  allow : Option ℕ
  deny : Option ℕ
  mutedUntil : Option (Option Time)
  isAffiliate : Option Bool
  deriving DecidableEq

structure UpdateConversationBody where
  title : Option String
  description : Option (Option String)
  avatarMediaId : Option (Option Uuid)
  appearance : Option (Option String)
  disappearingSeconds : Option ℕ
  slowModeSeconds : Option ℕ
  basePermissions : Option (Option ℕ)
  isPublic : Option Bool
  historyVisibility : Option String
  deriving DecidableEq

def rolesPerConversation : ℕ := 50

/-- The `set` clause of `PATCH /:id/roles/:roleId`. -/
def UpdateRoleBody.apply (body : UpdateRoleBody) (r : ConversationRole) : ConversationRole :=
  { r with
    name := body.name.getD r.name
    color := body.color.getD r.color
    permissions := body.permissions.elim r.permissions fun p => parseMasked (some p)
    position := body.position.getD r.position
    isHoisted := body.isHoisted.getD r.isHoisted
    isMentionable := body.isMentionable.getD r.isMentionable }

lemma UpdateRoleBody.apply_id (body : UpdateRoleBody) (r : ConversationRole) :
    (body.apply r).id = r.id := rfl

namespace Database
variable (db : Database)

def roleIn (conversationId roleId : Uuid) : Option ConversationRole :=
  (db.conversationRoles.find roleId).filter fun r => r.conversationId = conversationId

/-- `PUT /:id/permissions/:roleId`. -/
def setOverwrite (actor id roleId : Uuid) (body : OverwriteBody) (clock : Time) :
    Except AppError Database := do
  let ctx ← db.requirePermission id actor Permission.manageRoles clock
  let scope := ctx.conversation.parentId.getD id
  ensure (db.roleIn scope roleId).isSome (notFound "Role")
  let allow := parseMasked body.allow
  let deny := parseMasked body.deny
  assertCanGrant ctx allow
  return { db with
    conversationRoleOverwrites := db.conversationRoleOverwrites.upsert ⟨id, roleId, allow, deny⟩
      (fun o => { o with allow := allow, deny := deny }) fun _ => rfl }

/-- `DELETE /:id/permissions/:roleId`. -/
def deleteOverwrite (actor id roleId : Uuid) (clock : Time) : Except AppError Database := do
  let _ ← db.requirePermission id actor Permission.manageRoles clock
  return { db with
    conversationRoleOverwrites := db.conversationRoleOverwrites.delete
      fun o => o.conversationId = id ∧ o.roleId = roleId }

/-- The unique index on `(conversation_id, lower(name))`, for a row other than `except`. -/
def roleNameTaken (conversationId : Uuid) (name : String) (except : Option Uuid) : Bool :=
  db.conversationRoles.rows.any fun r => r.conversationId = conversationId ∧
    r.name.toLower = name.toLower ∧ some r.id ≠ except

/-- `POST /:id/roles`; `newId` is the id drawn for the role. -/
def createRole (actor id : Uuid) (body : CreateRoleBody) (newId : Uuid) (clock : Time) :
    Except AppError Database := do
  let ctx ← db.requirePermission id actor Permission.manageRoles clock
  ensure (ctx.conversation.type ≠ .dm) (conflict "A direct message has no roles")
  let permissions := parseMasked (some body.permissions)
  assertCanGrant ctx permissions
  ensure ((db.conversationRoles.rows.filter fun r => r.conversationId = id).length
    < rolesPerConversation) (unprocessable ("A group can have at most 50 roles"))
  ensure (!db.roleNameTaken id body.name none && (db.conversationRoles.find newId).isNone)
    (conflict "A role with that name already exists")
  return { db with
    conversationRoles := db.conversationRoles.insertIgnore ⟨newId, id, body.name, body.color,
      permissions, body.position, body.isHoisted, body.isMentionable⟩
    assigned_exists := fun mr hmr => by
      rw [KeyedTable.find_insertIgnore]
      split_ifs
      · rfl
      · exact db.assigned_exists mr hmr }

/-- `PATCH /:id/roles/:roleId`. -/
def patchRole (actor id roleId : Uuid) (body : UpdateRoleBody) (clock : Time) :
    Except AppError Database := do
  let ctx ← db.requirePermission id actor Permission.manageRoles clock
  match db.roleIn id roleId with
  | none => .error (notFound "Role")
  | some existing => do
    -- only the added bits need checking
    if body.permissions.isSome then
      assertCanGrant ctx (andNot (parseMasked body.permissions) existing.permissions)
    -- an update that sets nothing throws before it reaches the database
    ensure (body ≠ ⟨none, none, none, none, none, none⟩) internalError
    ensure (!db.roleNameTaken id (body.name.getD existing.name) (some roleId))
      (conflict "A role with that name already exists")
    return { db with
      conversationRoles := db.conversationRoles.update (fun r => r.id = roleId)
        body.apply body.apply_id
      assigned_exists := fun mr hmr => by
        rw [KeyedTable.find_update, Option.isSome_map]
        exact db.assigned_exists mr hmr }

/-- `DELETE /:id/roles/:roleId`; assignments and overwrites go with it. -/
def deleteRole (actor id roleId : Uuid) (clock : Time) : Except AppError Database := do
  let ctx ← db.requirePermission id actor Permission.manageRoles clock
  match db.roleIn id roleId with
  | none => .error (notFound "Role")
  | some existing => do
    assertCanGrant ctx existing.permissions
    return { db with
      conversationRoles := db.conversationRoles.delete fun r => r.id = roleId
      memberRoles := db.memberRoles.delete fun mr => mr.roleId = roleId
      conversationRoleOverwrites := db.conversationRoleOverwrites.delete
        fun o => o.roleId = roleId
      assigned_exists := fun mr hmr => by
        obtain ⟨hmr, hne⟩ := List.mem_filter.mp hmr
        obtain ⟨r, hr⟩ := Option.isSome_iff_exists.mp (db.assigned_exists mr hmr)
        have hid : r.id = mr.roleId := KeyedTable.find_key hr
        rw [KeyedTable.find_delete, hr, Option.filter_some, hid]
        simpa using hne }

/-- What `PUT /:id/members/:userId/roles` reads before it decides: the roles named in the body
that exist here. -/
def rolesWanted (id : Uuid) (roleIds : List Uuid) : List ConversationRole :=
  db.conversationRoles.rows.filter fun r => r.conversationId = id ∧ r.id ∈ roleIds.dedup

def rolesHeld (id userId : Uuid) : ℕ :=
  bitOr ((db.memberRoles.rows.filter fun mr => mr.conversationId = id ∧ mr.userId = userId
    ).flatMap fun mr => (db.conversationRoles.rows.filter fun r => r.id = mr.roleId
    ).map fun r => (r.permissions : ℕ))

def isBot (userId : Uuid) : Bool := (db.users.find userId).any User.isBot

/-- The transaction of `PUT /:id/members/:userId/roles`: the old assignments out, the new in. -/
def replaceRoles (id userId : Uuid) (rows : List ConversationRole) (assignedBy : Uuid) :
    KeyedTable RoleAssignment.key :=
  rows.foldl (fun t r => t.insertIgnore ⟨id, userId, r.id, some assignedBy⟩)
    (db.memberRoles.delete fun mr => mr.conversationId = id ∧ mr.userId = userId)

lemma mem_replaceRoles {id userId assignedBy : Uuid} {rows : List ConversationRole}
    {mr : RoleAssignment} (h : mr ∈ (db.replaceRoles id userId rows assignedBy).rows) :
    (mr ∈ db.memberRoles.rows ∧ ¬(mr.conversationId = id ∧ mr.userId = userId)) ∨
      ∃ r ∈ rows, mr = ⟨id, userId, r.id, some assignedBy⟩ := by
  unfold replaceRoles at h
  induction rows using List.reverseRecOn with
  | nil =>
    obtain ⟨hm, hp⟩ := List.mem_filter.mp h
    exact Or.inl ⟨hm, by simpa [imp_iff_not_or] using hp⟩
  | append_singleton rows r ih =>
    rw [List.foldl_concat] at h
    rcases KeyedTable.mem_insertIgnore h with rfl | h
    · exact Or.inr ⟨r, by simp, rfl⟩
    · rcases ih h with hm | ⟨r', hr', rfl⟩
      · exact Or.inl hm
      · exact Or.inr ⟨r', by simp [hr'], rfl⟩

/-- `PUT /:id/members/:userId/roles`. -/
def setMemberRoles (actor id userId : Uuid) (roleIds : List Uuid) (clock : Time) :
    Except AppError Database := do
  let ctx ← db.requirePermission id actor Permission.manageRoles clock
  match (db.memberRow id userId).filter fun m => m.leftAt.isNone with
  | none => .error (notFound "Member")
  | some target => do
    if userId ≠ actor then
      db.assertMayActOn ctx id target.role
    let rows := db.rolesWanted id roleIds
    ensure (rows.length = roleIds.dedup.length) (notFound "Role")
    let held := db.rolesHeld id userId
    let next := bitOr (rows.map fun r => (r.permissions : ℕ))
    -- no bot is an administrator
    ensure (!(next.testBit 62 && db.isBot userId))
      (forbidden "An application cannot be granted administrator")
    assertCanGrant ctx (andNot next held ||| andNot held next)
    return { db with
      memberRoles := db.replaceRoles id userId rows actor
      assigned_exists := fun mr hmr => by
        rcases db.mem_replaceRoles hmr with ⟨hm, -⟩ | ⟨r, hr, rfl⟩
        · exact db.assigned_exists mr hm
        · have hrow : r ∈ db.conversationRoles.rows := (List.mem_filter.mp hr).1
          rw [KeyedTable.find_eq_some.mpr ⟨hrow, rfl⟩]
          rfl }

/-- `ctx.permissions & permission`, or an administrator's. -/
def holds (ctx : MemberContext) (permission : ℕ) : Bool :=
  ctx.permissions &&& permission ≠ 0 || ctx.permissions &&& Permission.administrator ≠ 0

/-- The checks of a member PATCH on `role`. -/
def checkRole (ctx : MemberContext) : Option MemberRole → Except AppError Unit
  | none => .ok ()
  | some role => do
    ensure (holds ctx Permission.manageRoles) (forbidden "You cannot change roles")
    -- nobody is promoted to the actor's own level or above
    ensure (outranks ctx.member.role role) (forbidden "You cannot grant a role at or above your own")
    ensure (role ≠ .owner) (conflict "Use the ownership transfer endpoint")

/-- On `mutedUntil` and `deny`. -/
def checkMute (ctx : MemberContext) (body : UpdateMemberBody) : Except AppError Unit :=
  if body.mutedUntil.isSome || body.deny.isSome then
    ensure (holds ctx Permission.muteMembers) (forbidden "You cannot mute members")
  else .ok ()

/-- On `allow`: the rules of `assertCanGrant`, and never administrator to a bot. -/
def checkAllow (ctx : MemberContext) (userId : Uuid) : Option ℕ → Except AppError Unit
  | none => .ok ()
  | some wanted => do
    ensure (holds ctx Permission.manageRoles) (forbidden "You cannot change permissions")
    ensure (ctx.member.role = .owner || andNot wanted ctx.permissions = 0)
      (forbidden "You cannot grant a permission you do not have yourself")
    ensure (ctx.member.role = .owner || !wanted.testBit 62)
      (forbidden "Only the owner can grant administrator")
    ensure (!(wanted.testBit 62 && db.isBot userId))
      (forbidden "An application cannot be granted administrator")

/-- On `isAffiliate`. -/
def checkAffiliate (ctx : MemberContext) : Option Bool → Except AppError Unit
  | none => .ok ()
  | some isAffiliate => do
    ensure (ctx.permissions &&& Permission.administrator ≠ 0 || ctx.member.role = .owner)
      (forbidden "Only owners and administrators can affiliate members")
    ensure (!isAffiliate || ctx.conversation.badge.isSome)
      (forbidden "Only a verified group can affiliate its members")

def patchedRow (body : UpdateMemberBody) (allow deny : Mask) (m : ConversationMember) :
    ConversationMember :=
  { m with
    role := body.role.getD m.role
    allow := allow
    deny := deny
    mutedUntil := body.mutedUntil.getD m.mutedUntil
    isAffiliate := body.isAffiliate.getD m.isAffiliate }

lemma patchedRow_key (body : UpdateMemberBody) (allow deny : Mask) (m : ConversationMember) :
    (patchedRow body allow deny m).key = m.key := rfl

/-- `PATCH /:id/members/:userId`. -/
def patchMember (actor id userId : Uuid) (body : UpdateMemberBody) (clock : Time) :
    Except AppError Database := do
  let ctx ← db.requireMember id actor clock
  match (db.memberRow id userId).filter fun m => m.leftAt.isNone with
  | none => .error (notFound "Member")
  | some target => do
    ensure (outranks ctx.member.role target.role)
      (forbidden "That member has an equal or higher role than you")
    checkRole ctx body.role
    checkMute ctx body
    db.checkAllow ctx userId body.allow
    checkAffiliate ctx body.isAffiliate
    ensure (body ≠ ⟨none, none, none, none, none⟩) internalError
    let allow ← toMask (body.allow.getD target.allow)
    let deny ← toMask (body.deny.getD target.deny)
    return { db with
      conversationMembers := db.conversationMembers.update (fun m => m.key = (id, userId))
        (patchedRow body allow deny) (patchedRow_key body allow deny) }

def patchedBase (body : UpdateConversationBody) (c : Conversation) :
    Except AppError (Option Mask) :=
  match body.basePermissions with
  | none => .ok c.basePermissions
  | some none => .ok none
  | some (some basePermissions) => some <$> toMask basePermissions

def patchedConversation (body : UpdateConversationBody) (base : Option Mask) (c : Conversation) :
    Conversation :=
  { c with
    title := body.title.or c.title
    description := body.description.getD c.description
    avatarMediaId := body.avatarMediaId.getD c.avatarMediaId
    disappearingSeconds := body.disappearingSeconds.getD c.disappearingSeconds
    slowModeSeconds := body.slowModeSeconds.getD c.slowModeSeconds
    basePermissions := base
    isPublic := body.isPublic.getD c.isPublic
    historyVisibility := body.historyVisibility.getD c.historyVisibility
    appearance := body.appearance.getD c.appearance }

lemma patchedConversation_id (body : UpdateConversationBody) (base : Option Mask)
    (c : Conversation) : (patchedConversation body base c).id = c.id := rfl

/-- `PATCH /:id`. -/
def patchConversation (actor id : Uuid) (body : UpdateConversationBody) (clock : Time) :
    Except AppError Database := do
  let ctx ← db.requirePermission id actor Permission.manageConversation clock
  -- disappearing messages are the one setting of a direct message
  ensure (ctx.conversation.type ≠ .dm || { body with disappearingSeconds := none } =
      ⟨none, none, none, none, none, none, none, none, none⟩)
    (conflict "That setting does not apply to a direct message")
  ensure (body ≠ ⟨none, none, none, none, none, none, none, none, none⟩) internalError
  let base ← patchedBase body ctx.conversation
  return { db with
    conversations := db.conversations.update (fun c => c.id = id) (patchedConversation body base)
      (patchedConversation_id body base)
    one_level := db.one_level.update (fun _ => rfl) fun _ => rfl }

/-- `POST /:id/transfer-ownership`. -/
def transferOwnership (actor id userId : Uuid) (clock : Time) : Except AppError Database := do
  let ctx ← db.requireMember id actor clock
  ensure (ctx.member.role = .owner) (forbidden "Only the owner can transfer ownership")
  ensure (db.users.find userId).isSome foreignKeyError
  let stepDown := db.conversationMembers.update (fun m => m.key = (id, actor))
    (ConversationMember.withRole .admin) (ConversationMember.withRole_key _)
  return { db with
    conversationMembers := stepDown.update (fun m => m.key = (id, userId))
      (ConversationMember.withRole .owner) (ConversationMember.withRole_key _)
    conversations := db.conversations.update (fun c => c.id = id)
      (fun c => { c with ownerId := some userId }) fun _ => rfl
    one_level := db.one_level.update (fun _ => rfl) fun _ => rfl }

def historyFloor (visibility : String) (messageSeq : ℕ) : ℕ :=
  if visibility = "full" then 0 else messageSeq

def rejoin (c : Conversation) (userId : Uuid) (clock : Time) :
    KeyedTable ConversationMember.key :=
  db.conversationMembers.upsert
    (.new c.id userId .member clock (historyFloor c.historyVisibility c.messageSeq))
    ConversationMember.back ConversationMember.back_key

def inviteRole (invite : Invite) : Option ConversationRole :=
  invite.roleId.bind fun roleId => db.roleIn invite.conversationId roleId

/-- `POST /invites/:code/join`. -/
def joinInvite (actor : Uuid) (code : String) (clock : Time) : Except AppError Database := do
  match (db.invites.find code).filter fun i => i.revokedAt.isNone with
  | none => .error (notFound "Invite")
  | some invite => do
    ensure (!invite.expiresAt.any fun t => t < clock) (notFound "Invite")
    ensure (!(0 < invite.maxUses && invite.maxUses ≤ invite.uses))
      (conflict "This invite has been used up")
    ensure (db.conversationBans.find (invite.conversationId, actor)).isNone
      (forbidden "You are banned from this conversation")
    match (db.conversations.find invite.conversationId).filter fun c => c.deletedAt.isNone with
    | none => .error (notFound "Conversation")
    | some c =>
      if (db.memberRow c.id actor).any fun m => m.leftAt.isNone then .ok db
      else .ok { db with
        conversationMembers := db.rejoin c actor clock
        invites := db.invites.update (fun i => i.id = invite.id)
          (fun i => { i with uses := i.uses + 1 }) fun _ => rfl
        memberRoles := match db.inviteRole invite with
          | some role => db.memberRoles.insertIgnore
            ⟨c.id, actor, role.id, some invite.createdById⟩
          | none => db.memberRoles
        assigned_exists := fun mr hmr => by
          cases hr : db.inviteRole invite with
          | none =>
            rw [hr] at hmr
            exact db.assigned_exists mr hmr
          | some role =>
            rw [hr] at hmr
            obtain ⟨roleId, -, hrole⟩ := Option.bind_eq_some_iff.mp hr
            obtain ⟨hfind, -⟩ := Option.filter_eq_some_iff.mp hrole
            rcases KeyedTable.mem_insertIgnore hmr with rfl | hmr
            · have hid : role.id = roleId := KeyedTable.find_key hfind
              rw [hid, hfind]
              rfl
            · exact db.assigned_exists mr hmr }

/-- `removeMember`, which `DELETE /:id/members/:userId` answers with; leaving is removing
oneself. -/
def removeMember (actor id target : Uuid) (clock : Time) : Except AppError Database := do
  let ctx ← db.requireMember id actor clock
  ensure (ctx.conversation.type ≠ .dm) (conflict "You cannot remove people from a DM")
  if actor ≠ target then
    ensure (ctx.permissions &&& Permission.kickMembers ≠ 0 ||
      ctx.permissions &&& Permission.administrator ≠ 0) (forbidden "You cannot remove members")
    match db.memberRow id target with
    | none => .error (notFound "Member")
    | some row =>
      ensure (outranks ctx.member.role row.role)
        (forbidden "That member has an equal or higher role than you")
  ensure (!(actor = target && ctx.member.role = .owner && 1 < db.memberCount id))
    (conflict "Transfer ownership before leaving this group")
  return { db with
    conversationMembers := db.conversationMembers.update
      (fun m => m.key = (id, target) ∧ m.leftAt = none)
      (ConversationMember.gone clock) (ConversationMember.gone_key clock) }

/-- `POST /:id/bans/:userId`. The ban is written before the removal is tried, so a removal that
is refused leaves it standing. -/
def banMember (actor id userId : Uuid) (reason : Option String) (expiresAt : Option Time)
    (clock : Time) : Database × Except AppError Unit :=
  match db.requirePermission id actor Permission.banMembers clock with
  | .error e => (db, .error e)
  | .ok ctx =>
    let target := db.memberRow id userId
    if target.any fun t => !outranks ctx.member.role t.role then
      (db, .error (forbidden "That member has an equal or higher role than you"))
    else if (db.users.find userId).isNone then (db, .error foreignKeyError)
    else
      let banned := { db with conversationBans :=
        db.conversationBans.insertIgnore ⟨id, userId, some actor, reason, expiresAt⟩ }
      match target with
      | none => (banned, .ok ())
      | some _ =>
        match banned.removeMember actor id userId clock with
        | .ok removed => (removed, .ok ())
        | .error e => (banned, .error e)

end Database

/-- A request that writes who may do what, with its sender and the time it runs. -/
inductive Operation
  | createRole (id : Uuid) (body : CreateRoleBody) (newId : Uuid)
  | patchRole (id roleId : Uuid) (body : UpdateRoleBody)
  | deleteRole (id roleId : Uuid)
  | setMemberRoles (id userId : Uuid) (roleIds : List Uuid)
  | setOverwrite (id roleId : Uuid) (body : OverwriteBody)
  | deleteOverwrite (id roleId : Uuid)
  | patchMember (id userId : Uuid) (body : UpdateMemberBody)
  | patchConversation (id : Uuid) (body : UpdateConversationBody)
  | transferOwnership (id userId : Uuid)
  | joinInvite (code : String)
  | removeMember (id userId : Uuid)
  | banMember (id userId : Uuid) (reason : Option String) (expiresAt : Option Time)

structure Request where
  actor : Uuid
  clock : Time
  operation : Operation

namespace Request

def attempt (db : Database) : Except AppError Database → Database × Except AppError Unit
  | .ok db' => (db', .ok ())
  | .error e => (db, .error e)

def run (db : Database) (r : Request) : Database × Except AppError Unit :=
  match r.operation with
  | .createRole id body newId => attempt db (db.createRole r.actor id body newId r.clock)
  | .patchRole id roleId body => attempt db (db.patchRole r.actor id roleId body r.clock)
  | .deleteRole id roleId => attempt db (db.deleteRole r.actor id roleId r.clock)
  | .setMemberRoles id userId roleIds =>
    attempt db (db.setMemberRoles r.actor id userId roleIds r.clock)
  | .setOverwrite id roleId body => attempt db (db.setOverwrite r.actor id roleId body r.clock)
  | .deleteOverwrite id roleId => attempt db (db.deleteOverwrite r.actor id roleId r.clock)
  | .patchMember id userId body => attempt db (db.patchMember r.actor id userId body r.clock)
  | .patchConversation id body => attempt db (db.patchConversation r.actor id body r.clock)
  | .transferOwnership id userId => attempt db (db.transferOwnership r.actor id userId r.clock)
  | .joinInvite code => attempt db (db.joinInvite r.actor code r.clock)
  | .removeMember id userId => attempt db (db.removeMember r.actor id userId r.clock)
  | .banMember id userId reason expiresAt =>
    db.banMember r.actor id userId reason expiresAt r.clock

/-- The request succeeds, and leaves `db'`. -/
def Accepted (db : Database) (r : Request) (db' : Database) : Prop := r.run db = (db', .ok ())

def Served (db : Database) (r : Request) (db' : Database) : Prop := (r.run db).1 = db'

lemma attempt_ok {db db' : Database} {x : Except AppError Database} :
    attempt db x = (db', .ok ()) ↔ x = .ok db' := by
  cases x <;> simp [attempt]

end Request
end Yappy.Permissions
