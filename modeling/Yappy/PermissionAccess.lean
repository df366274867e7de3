import Yappy.PermissionDatabase

/-!
# Loading a member's context

`apps/api/src/lib/access.ts`: the one place the API turns a conversation id and a user into a
role and a permission set, and the checks every route makes on them.
-/
namespace Yappy.Permissions

inductive ErrorCode
  | badRequest | forbidden | missingPermission | notFound | conflict | unprocessable | internal
  deriving DecidableEq

structure AppError where
  status : ℕ
  code : ErrorCode
  message : String
  permission : Option String
  deriving DecidableEq

def forbidden (m : String) : AppError := ⟨403, .forbidden, m, none⟩

def missingPermission (permission : String) : AppError :=
  ⟨403, .missingPermission, "Missing permission: " ++ permission, some permission⟩

def notFound (what : String) : AppError := ⟨404, .notFound, what ++ " not found", none⟩

def conflict (m : String) : AppError := ⟨409, .conflict, m, none⟩

def unprocessable (m : String) : AppError := ⟨422, .unprocessable, m, none⟩

def internalError : AppError := ⟨500, .internal, "Something went wrong", none⟩

def foreignKeyError : AppError := ⟨400, .badRequest, "Referenced record does not exist", none⟩

def ensure (condition : Bool) (e : AppError) : Except AppError Unit :=
  if condition then .ok () else .error e

@[simp] lemma ensure_eq_ok {condition : Bool} {e : AppError} {u : Unit} :
    ensure condition e = .ok u ↔ condition = true := by
  unfold ensure
  split_ifs with h <;> simp [h]

@[simp] lemma bind_eq_ok {α β : Type} {x : Except AppError α} {f : α → Except AppError β} {b : β} :
    x >>= f = .ok b ↔ ∃ a, x = .ok a ∧ f a = .ok b := by
  cases x with
  | error e => simp [bind, Except.bind]
  | ok a => simp [bind, Except.bind]

lemma exists_unit {p : Unit → Prop} : (∃ u, p u) ↔ p () :=
  ⟨fun ⟨(), h⟩ => h, fun h => ⟨(), h⟩⟩

structure MemberContext where
  conversation : Conversation
  member : ConversationMember
  /-- True when `member` was synthesised from the space's row. -/
  memberIsVirtual : Bool
  permissions : ℕ

namespace Database
variable (db : Database)

/-- `bit_or` over the named roles that a user holds in the scope of `c`. -/
def rolePermissions (c : Conversation) (userId : Uuid) : ℕ :=
  bitOr ((db.memberRoles.rows.filter fun mr => mr.conversationId = c.scope ∧ mr.userId = userId
    ).flatMap fun mr => (db.conversationRoles.rows.filter fun r => r.id = mr.roleId
    ).map fun r => (r.permissions : ℕ))

/-- `bit_or` over one column of the overwrites in `c` of the roles that a user holds. -/
def roleOverwrites (column : RoleOverwrite → Mask) (c : Conversation) (userId : Uuid) : ℕ :=
  bitOr ((db.conversationRoleOverwrites.rows.filter fun o => o.conversationId = c.id
    ).flatMap fun o => (db.memberRoles.rows.filter fun mr =>
      mr.roleId = o.roleId ∧ mr.conversationId = c.scope ∧ mr.userId = userId
    ).map fun _ => (column o : ℕ))

def roleAllow (c : Conversation) (userId : Uuid) : ℕ := db.roleOverwrites RoleOverwrite.allow c userId

def roleDeny (c : Conversation) (userId : Uuid) : ℕ := db.roleOverwrites RoleOverwrite.deny c userId

/-- Where authority comes from: the space's row for a channel, the conversation's own
otherwise. -/
def authority (c : Conversation) (userId : Uuid) : Option ConversationMember :=
  match c.parentId with
  | some parentId => db.memberRow parentId userId
  | none => db.memberRow c.id userId

/-- What `loadMemberContext` hands to `effectivePermissions`. -/
def permissionInput (c : Conversation) (userId : Uuid) (authority : ConversationMember) :
    EffectivePermissionInput where
  conversationType := c.type
  basePermissions := c.basePermissions.map Fin.val
  role := authority.role
  rolePermissions := some (db.rolePermissions c userId)
  roleAllow := some (db.roleAllow c userId)
  roleDeny := some (db.roleDeny c userId)
  allow := some (((db.memberRow c.id userId).elim 0 fun m => (m.allow : ℕ)) |||
    if c.parentId.isSome then (authority.allow : ℕ) else 0)
  deny := some (((db.memberRow c.id userId).elim 0 fun m => (m.deny : ℕ)) |||
    if c.parentId.isSome then (authority.deny : ℕ) else 0)
  mutedUntil := ((db.memberRow c.id userId).bind ConversationMember.mutedUntil).or
    authority.mutedUntil
  now := none

def loadMemberContext (conversationId userId : Uuid) (clock : Time) : Option MemberContext := do
  let c ← (db.conversations.find conversationId).filter fun c => c.deletedAt.isNone
  let authority ← (db.authority c userId).filter fun m => m.leftAt.isNone
  let member := (db.memberRow c.id userId).getD { authority with
    conversationId := c.id
    lastReadSeq := 0
    lastReadAt := none
    lastDeliveredSeq := 0
    mentionCount := 0
    historyStartSeq := 0
    draft := none
    draftUpdatedAt := none
    isPinned := false
    isArchived := false }
  some {
    conversation := c
    -- the channel's own copy of the role is a stale snapshot
    member := { member with role := authority.role }
    memberIsVirtual := (db.memberRow c.id userId).isNone
    permissions := effectivePermissions (db.permissionInput c userId authority) clock }

/-- Give a space member their own row in one of its channels. -/
def materialiseChannelMember (conversationId userId : Uuid) (clock : Time) : Database :=
  match db.conversations.find conversationId with
  | some c =>
    match c.parentId.bind fun p => (db.memberRow p userId).filter fun m => m.leftAt.isNone with
    | some pm => { db with conversationMembers :=
        db.conversationMembers.insertIgnore (.new c.id userId pm.role clock 0) }
    | none => db
  | none => db

def requireMember (conversationId userId : Uuid) (clock : Time) : Except AppError MemberContext :=
  match db.loadMemberContext conversationId userId clock with
  | some ctx => .ok ctx
  | none => .error (notFound "Conversation")

def requirePermission (conversationId userId : Uuid) (permission : ℕ) (clock : Time) :
    Except AppError MemberContext := do
  let ctx ← db.requireMember conversationId userId clock
  ensure (has ctx.permissions permission)
    (missingPermission ((permissionNames permission).head?.getD "unknown"))
  return ctx

def isInstalledApp (conversationId userId : Uuid) : Bool :=
  let scope := ((db.conversations.find conversationId).bind Conversation.parentId).getD
    conversationId
  db.conversationApps.rows.any fun ca => ca.conversationId = scope &&
    db.applications.rows.any fun a => a.id = ca.applicationId && a.botUserId = userId &&
      a.revokedAt.isNone

/-- An installed application may act on ordinary members without outranking them. -/
def assertMayActOn (ctx : MemberContext) (conversationId : Uuid) (target : MemberRole) :
    Except AppError Unit :=
  if outranks ctx.member.role target then .ok ()
  else if roleRank target ≤ roleRank .member ∧
      db.isInstalledApp conversationId ctx.member.userId = true then .ok ()
  else .error (forbidden "That member has an equal or higher role than you")

/-! ### What a context says -/

variable {db} {conversationId userId : Uuid} {clock : Time} {ctx : MemberContext}

/-- A context exists for the active members of the scope of an undeleted conversation, with the
role and the permissions that the scope's row gives. -/
theorem loadMemberContext_eq_some :
    db.loadMemberContext conversationId userId clock = some ctx ↔
      ∃ c authority, db.conversations.find conversationId = some c ∧ c.deletedAt = none ∧
        db.authority c userId = some authority ∧ authority.leftAt = none ∧
        ctx.conversation = c ∧
        ctx.member = { (db.memberRow c.id userId).getD { authority with
          conversationId := c.id, lastReadSeq := 0, lastReadAt := none, lastDeliveredSeq := 0,
          mentionCount := 0, historyStartSeq := 0, draft := none, draftUpdatedAt := none,
          isPinned := false, isArchived := false } with role := authority.role } ∧
        ctx.memberIsVirtual = (db.memberRow c.id userId).isNone ∧
        ctx.permissions = effectivePermissions (db.permissionInput c userId authority) clock := by
  simp only [loadMemberContext, Option.bind_eq_bind, Option.bind_eq_some_iff,
    Option.filter_eq_some_iff, Option.isNone_iff_eq_none, Option.some.injEq]
  constructor
  · rintro ⟨c, ⟨hc, hd⟩, authority, ⟨ha, hl⟩, rfl⟩
    exact ⟨c, authority, hc, hd, ha, hl, rfl, rfl, rfl, rfl⟩
  · rintro ⟨c, authority, hc, hd, ha, hl, h1, h2, h3, h4⟩
    refine ⟨c, ⟨hc, hd⟩, authority, ⟨ha, hl⟩, ?_⟩
    cases ctx
    simp_all

lemma requireMember_eq_ok : db.requireMember conversationId userId clock = .ok ctx ↔
    db.loadMemberContext conversationId userId clock = some ctx := by
  unfold requireMember
  cases db.loadMemberContext conversationId userId clock <;> simp

lemma requirePermission_eq_ok {permission : ℕ} :
    db.requirePermission conversationId userId permission clock = .ok ctx ↔
      db.loadMemberContext conversationId userId clock = some ctx ∧
        has ctx.permissions permission = true := by
  simp only [requirePermission, bind_eq_ok, ensure_eq_ok, requireMember_eq_ok]
  constructor
  · rintro ⟨ctx', h, -, hp, he⟩
    cases he
    exact ⟨h, hp⟩
  · rintro ⟨h, hp⟩
    exact ⟨ctx, h, (), hp, rfl⟩

end Database
end Yappy.Permissions
