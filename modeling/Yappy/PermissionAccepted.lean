import Yappy.PermissionRoutes

/-!
# What an accepted write says

One lemma for each route: the checks that passed, and the tables that are left. Nothing above
this module unfolds a route.
-/
namespace Yappy.Permissions.Database
variable {db db' : Database} {actor id userId roleId : Uuid} {clock : Time}

abbrev Acts (db : Database) (id actor : Uuid) (clock : Time) (ctx : MemberContext) : Prop :=
  db.loadMemberContext id actor clock = some ctx

lemma roleIn_eq_some {r : ConversationRole} : db.roleIn id roleId = some r ↔
    db.conversationRoles.find roleId = some r ∧ r.conversationId = id := by
  simp [roleIn, Option.filter_eq_some_iff]

lemma setOverwrite_ok {body : OverwriteBody}
    (h : db.setOverwrite actor id roleId body clock = .ok db') :
    ∃ ctx, Acts db id actor clock ctx ∧ has ctx.permissions Permission.manageRoles = true ∧
      (db.roleIn (ctx.conversation.parentId.getD id) roleId).isSome ∧
      assertCanGrant ctx (parseMasked body.allow) = .ok () ∧
      (∀ k, db'.conversationRoleOverwrites.find k = if k = (id, roleId)
        then some ⟨id, roleId, parseMasked body.allow, parseMasked body.deny⟩
        else db.conversationRoleOverwrites.find k) ∧
      db'.conversations = db.conversations ∧ db'.conversationMembers = db.conversationMembers ∧
      db'.conversationRoles = db.conversationRoles ∧ db'.memberRoles = db.memberRoles ∧
      db'.users = db.users := by
  simp only [setOverwrite, bind_eq_ok, exists_unit, requirePermission_eq_ok, ensure_eq_ok] at h
  obtain ⟨ctx, ⟨hctx, hperm⟩, hrole, hgrant, he⟩ := h
  cases he
  refine ⟨ctx, hctx, hperm, hrole, hgrant, fun k => ?_, rfl, rfl, rfl, rfl, rfl⟩
  refine (KeyedTable.find_upsert _ _ _ _ k).trans ?_
  have hkey : RoleOverwrite.key ⟨id, roleId, parseMasked body.allow, parseMasked body.deny⟩ =
      (id, roleId) := rfl
  by_cases hk : k = (id, roleId)
  · subst hk
    rw [if_pos hkey, if_pos rfl]
    cases hf : db.conversationRoleOverwrites.find (id, roleId) with
    | none => rfl
    | some o =>
      have ho : o.key = (id, roleId) := KeyedTable.find_key hf
      have hid : o.conversationId = id := congrArg Prod.fst ho
      have hrole : o.roleId = roleId := congrArg Prod.snd ho
      rw [Option.map_some, Option.getD_some, hid, hrole]
  · rw [if_neg (fun h => hk (h.symm.trans hkey)), if_neg hk]

lemma deleteOverwrite_ok (h : db.deleteOverwrite actor id roleId clock = .ok db') :
    ∃ ctx, Acts db id actor clock ctx ∧ has ctx.permissions Permission.manageRoles = true ∧
      (∀ k, db'.conversationRoleOverwrites.find k = if k = (id, roleId) then none
        else db.conversationRoleOverwrites.find k) ∧
      db'.conversations = db.conversations ∧ db'.conversationMembers = db.conversationMembers ∧
      db'.conversationRoles = db.conversationRoles ∧ db'.memberRoles = db.memberRoles ∧
      db'.users = db.users := by
  simp only [deleteOverwrite, bind_eq_ok, requirePermission_eq_ok] at h
  obtain ⟨ctx, ⟨hctx, hperm⟩, he⟩ := h
  cases he
  refine ⟨ctx, hctx, hperm, fun k => ?_, rfl, rfl, rfl, rfl, rfl⟩
  refine (KeyedTable.find_delete _ _ k).trans ?_
  cases hf : db.conversationRoleOverwrites.find k with
  | none => simp
  | some o =>
    obtain rfl := KeyedTable.find_key hf
    by_cases hk : o.key = (id, roleId)
    · have hid : o.conversationId = id := congrArg Prod.fst hk
      have hrole : o.roleId = roleId := congrArg Prod.snd hk
      simp [hid, hrole, hk]
    · have hne : ¬(o.conversationId = id ∧ o.roleId = roleId) := fun h => hk (Prod.ext h.1 h.2)
      rw [if_neg hk, Option.filter_some, decide_eq_false hne]
      rfl

lemma createRole_ok {body : CreateRoleBody} {newId : Uuid}
    (h : db.createRole actor id body newId clock = .ok db') :
    ∃ ctx, Acts db id actor clock ctx ∧ has ctx.permissions Permission.manageRoles = true ∧
      assertCanGrant ctx (parseMasked (some body.permissions)) = .ok () ∧
      db.conversationRoles.find newId = none ∧
      db'.conversationRoles = db.conversationRoles.insertIgnore ⟨newId, id, body.name, body.color,
        parseMasked (some body.permissions), body.position, body.isHoisted, body.isMentionable⟩ ∧
      db'.conversations = db.conversations ∧ db'.conversationMembers = db.conversationMembers ∧
      db'.memberRoles = db.memberRoles ∧
      db'.conversationRoleOverwrites = db.conversationRoleOverwrites ∧ db'.users = db.users := by
  simp only [createRole, bind_eq_ok, exists_unit, requirePermission_eq_ok, ensure_eq_ok, Bool.and_eq_true] at h
  obtain ⟨ctx, ⟨hctx, hperm⟩, -, hgrant, -, ⟨-, hnew⟩, he⟩ := h
  cases he
  exact ⟨ctx, hctx, hperm, hgrant, by simpa using hnew, rfl, rfl, rfl, rfl, rfl, rfl⟩

lemma patchRole_ok {body : UpdateRoleBody} (h : db.patchRole actor id roleId body clock = .ok db') :
    ∃ ctx existing, Acts db id actor clock ctx ∧
      has ctx.permissions Permission.manageRoles = true ∧
      db.roleIn id roleId = some existing ∧
      (body.permissions.isSome →
        assertCanGrant ctx (andNot (parseMasked body.permissions) existing.permissions) = .ok ()) ∧
      db'.conversationRoles = db.conversationRoles.update (fun r => r.id = roleId) body.apply
        body.apply_id ∧
      db'.conversations = db.conversations ∧ db'.conversationMembers = db.conversationMembers ∧
      db'.memberRoles = db.memberRoles ∧
      db'.conversationRoleOverwrites = db.conversationRoleOverwrites ∧ db'.users = db.users := by
  simp only [patchRole, bind_eq_ok, requirePermission_eq_ok] at h
  obtain ⟨ctx, ⟨hctx, hperm⟩, h⟩ := h
  cases hr : db.roleIn id roleId with
  | none => simp [hr] at h
  | some existing =>
    rw [hr] at h
    by_cases hp : body.permissions.isSome
    · simp only [hp, if_true, bind_eq_ok, exists_unit, ensure_eq_ok] at h
      obtain ⟨hgrant, -, -, he⟩ := h
      cases he
      exact ⟨ctx, existing, hctx, hperm, rfl, fun _ => hgrant, rfl, rfl, rfl, rfl, rfl, rfl⟩
    · simp only [hp, Bool.false_eq_true, if_false, bind_eq_ok, exists_unit, ensure_eq_ok] at h
      obtain ⟨-, -, he⟩ := h
      cases he
      exact ⟨ctx, existing, hctx, hperm, rfl, fun h => absurd h hp, rfl, rfl, rfl, rfl, rfl, rfl⟩

lemma deleteRole_ok (h : db.deleteRole actor id roleId clock = .ok db') :
    ∃ ctx existing, Acts db id actor clock ctx ∧ db.roleIn id roleId = some existing ∧
      assertCanGrant ctx existing.permissions = .ok () ∧
      db'.conversationRoles = db.conversationRoles.delete (fun r => r.id = roleId) ∧
      db'.memberRoles = db.memberRoles.delete (fun mr => mr.roleId = roleId) ∧
      db'.conversationRoleOverwrites =
        db.conversationRoleOverwrites.delete (fun o => o.roleId = roleId) ∧
      db'.conversations = db.conversations ∧ db'.conversationMembers = db.conversationMembers ∧
      db'.users = db.users := by
  simp only [deleteRole, bind_eq_ok, requirePermission_eq_ok] at h
  obtain ⟨ctx, ⟨hctx, -⟩, h⟩ := h
  cases hr : db.roleIn id roleId with
  | none => simp [hr] at h
  | some existing =>
    rw [hr] at h
    simp only [bind_eq_ok, exists_unit] at h
    obtain ⟨hgrant, he⟩ := h
    cases he
    exact ⟨ctx, existing, hctx, rfl, hgrant, rfl, rfl, rfl, rfl, rfl, rfl⟩

lemma setMemberRoles_ok {roleIds : List Uuid}
    (h : db.setMemberRoles actor id userId roleIds clock = .ok db') :
    ∃ ctx, Acts db id actor clock ctx ∧
      (((bitOr ((db.rolesWanted id roleIds).map fun r => (r.permissions : ℕ))).testBit 62 &&
        db.isBot userId) = false) ∧
      assertCanGrant ctx
        (andNot (bitOr ((db.rolesWanted id roleIds).map fun r => (r.permissions : ℕ)))
            (db.rolesHeld id userId) |||
          andNot (db.rolesHeld id userId)
            (bitOr ((db.rolesWanted id roleIds).map fun r => (r.permissions : ℕ)))) = .ok () ∧
      db'.memberRoles = db.replaceRoles id userId (db.rolesWanted id roleIds) actor ∧
      db'.conversations = db.conversations ∧ db'.conversationMembers = db.conversationMembers ∧
      db'.conversationRoles = db.conversationRoles ∧
      db'.conversationRoleOverwrites = db.conversationRoleOverwrites ∧ db'.users = db.users := by
  simp only [setMemberRoles, bind_eq_ok, requirePermission_eq_ok] at h
  obtain ⟨ctx, ⟨hctx, -⟩, h⟩ := h
  cases ht : (db.memberRow id userId).filter fun m => m.leftAt.isNone with
  | none => simp [ht] at h
  | some target =>
    rw [ht] at h
    by_cases hself : userId = actor
    · simp only [hself, ne_eq, not_true, if_false, bind_eq_ok, exists_unit, ensure_eq_ok,
        Bool.not_eq_true'] at h
      obtain ⟨-, hbot, hgrant, he⟩ := h
      cases he
      subst hself
      exact ⟨ctx, hctx, hbot, hgrant, rfl, rfl, rfl, rfl, rfl, rfl⟩
    · simp only [ne_eq, hself, not_false_eq_true, if_true, bind_eq_ok, exists_unit, ensure_eq_ok,
        Bool.not_eq_true'] at h
      obtain ⟨-, -, hbot, hgrant, he⟩ := h
      cases he
      exact ⟨ctx, hctx, hbot, hgrant, rfl, rfl, rfl, rfl, rfl, rfl⟩

lemma patchMember_ok {body : UpdateMemberBody}
    (h : db.patchMember actor id userId body clock = .ok db') :
    ∃ ctx target, ∃ allow deny : Mask, Acts db id actor clock ctx ∧
      db.memberRow id userId = some target ∧
      target.leftAt = none ∧ outranks ctx.member.role target.role = true ∧
      (∀ role, body.role = some role → outranks ctx.member.role role = true ∧ role ≠ .owner) ∧
      (∀ wanted, body.allow = some wanted → (ctx.member.role ≠ .owner →
          andNot wanted ctx.permissions = 0 ∧ wanted.testBit 62 = false) ∧
        (wanted.testBit 62 && db.isBot userId) = false) ∧
      (allow.val = body.allow.getD target.allow) ∧ (deny.val = body.deny.getD target.deny) ∧
      db'.conversationMembers = db.conversationMembers.update (fun m => m.key = (id, userId))
        (patchedRow body allow deny) (patchedRow_key body allow deny) ∧
      db'.conversations = db.conversations ∧ db'.conversationRoles = db.conversationRoles ∧
      db'.memberRoles = db.memberRoles ∧
      db'.conversationRoleOverwrites = db.conversationRoleOverwrites ∧ db'.users = db.users := by
  simp only [patchMember, bind_eq_ok, requireMember_eq_ok] at h
  obtain ⟨ctx, hctx, h⟩ := h
  cases ht : (db.memberRow id userId).filter fun m => m.leftAt.isNone with
  | none => simp [ht] at h
  | some target =>
    rw [ht] at h
    obtain ⟨hrow, hleft⟩ := Option.filter_eq_some_iff.mp ht
    simp only [bind_eq_ok, exists_unit, ensure_eq_ok, toMask_eq_ok] at h
    obtain ⟨hrank, hrole, -, hallow, -, -, allow, ha, deny, hd, he⟩ := h
    cases he
    refine ⟨ctx, target, allow, deny, hctx, hrow, by simpa using hleft, hrank, ?_, ?_, ha, hd,
      rfl, rfl, rfl, rfl, rfl, rfl⟩
    · intro role hr
      rw [hr] at hrole
      simp only [checkRole, bind_eq_ok, exists_unit, ensure_eq_ok, decide_eq_true_eq] at hrole
      exact hrole.2
    · intro wanted hw
      rw [hw] at hallow
      simp only [checkAllow, bind_eq_ok, exists_unit, ensure_eq_ok, Bool.or_eq_true,
        decide_eq_true_eq, Bool.not_eq_true'] at hallow
      obtain ⟨-, hmissing, hadmin, hbot⟩ := hallow
      exact ⟨fun ho => ⟨hmissing.resolve_left ho, hadmin.resolve_left ho⟩, hbot⟩

lemma patchConversation_ok {body : UpdateConversationBody}
    (h : db.patchConversation actor id body clock = .ok db') :
    ∃ ctx base, Acts db id actor clock ctx ∧
      (body.basePermissions = none → base = ctx.conversation.basePermissions) ∧
      (∀ b, body.basePermissions = some b → base.map Fin.val = b) ∧
      db'.conversations = db.conversations.update (fun c => c.id = id)
        (patchedConversation body base) (patchedConversation_id body base) ∧
      db'.conversationMembers = db.conversationMembers ∧
      db'.conversationRoles = db.conversationRoles ∧ db'.memberRoles = db.memberRoles ∧
      db'.conversationRoleOverwrites = db.conversationRoleOverwrites ∧ db'.users = db.users := by
  simp only [patchConversation, bind_eq_ok, exists_unit, ensure_eq_ok, requirePermission_eq_ok] at h
  obtain ⟨ctx, ⟨hctx, -⟩, -, -, base, hbase, he⟩ := h
  cases he
  refine ⟨ctx, base, hctx, ?_, ?_, rfl, rfl, rfl, rfl, rfl, rfl⟩
  · intro hb
    rw [patchedBase, hb] at hbase
    exact (Except.ok.inj hbase).symm
  · intro b hb
    rw [patchedBase, hb] at hbase
    cases b with
    | none =>
      obtain rfl := Except.ok.inj hbase
      rfl
    | some b =>
      simp only at hbase
      cases hm : toMask b with
      | error e =>
        rw [hm] at hbase
        cases hbase
      | ok m =>
        rw [hm] at hbase
        obtain rfl : some m = base := Except.ok.inj hbase
        simpa using toMask_eq_ok.mp hm

lemma transferOwnership_ok (h : db.transferOwnership actor id userId clock = .ok db') :
    ∃ ctx, Acts db id actor clock ctx ∧ ctx.member.role = .owner ∧
      db'.conversationMembers = (db.conversationMembers.update (fun m => m.key = (id, actor))
        (ConversationMember.withRole .admin) (ConversationMember.withRole_key _)).update (fun m => m.key = (id, userId))
        (ConversationMember.withRole .owner) (ConversationMember.withRole_key _) ∧
      db'.conversations = db.conversations.update (fun c => c.id = id)
        (fun c => { c with ownerId := some userId }) (fun _ => rfl) ∧
      db'.conversationRoles = db.conversationRoles ∧ db'.memberRoles = db.memberRoles ∧
      db'.conversationRoleOverwrites = db.conversationRoleOverwrites ∧ db'.users = db.users := by
  simp only [transferOwnership, bind_eq_ok, exists_unit, ensure_eq_ok, requireMember_eq_ok,
    decide_eq_true_eq] at h
  obtain ⟨ctx, hctx, howner, -, he⟩ := h
  cases he
  exact ⟨ctx, hctx, howner, rfl, rfl, rfl, rfl, rfl, rfl⟩

lemma joinInvite_ok {code : String} (h : db.joinInvite actor code clock = .ok db') :
    db' = db ∨ ∃ invite c, db.invites.find code = some invite ∧
      db.conversations.find invite.conversationId = some c ∧ ¬db.IsActiveMember c.id actor ∧
      db'.conversationMembers = db.rejoin c actor clock ∧
      db'.memberRoles = (match db.inviteRole invite with
        | some role => db.memberRoles.insertIgnore ⟨c.id, actor, role.id, some invite.createdById⟩
        | none => db.memberRoles) ∧
      db'.conversations = db.conversations ∧ db'.conversationRoles = db.conversationRoles ∧
      db'.conversationRoleOverwrites = db.conversationRoleOverwrites ∧ db'.users = db.users := by
  unfold joinInvite at h
  cases hi : (db.invites.find code).filter fun i => i.revokedAt.isNone with
  | none => simp [hi] at h
  | some invite =>
    rw [hi] at h
    simp only [bind_eq_ok, exists_unit, ensure_eq_ok] at h
    obtain ⟨-, -, -, h⟩ := h
    cases hc : (db.conversations.find invite.conversationId).filter fun c => c.deletedAt.isNone with
    | none => simp [hc] at h
    | some c =>
      rw [hc] at h
      simp only at h
      split_ifs at h with hactive
      · exact Or.inl (Except.ok.inj h).symm
      · obtain rfl := Except.ok.inj h
        refine Or.inr ⟨invite, c, (Option.filter_eq_some_iff.mp hi).1,
          (Option.filter_eq_some_iff.mp hc).1, ?_, rfl, rfl, rfl, rfl, rfl, rfl⟩
        rintro ⟨m, hm, hleft⟩
        simp [hm, hleft] at hactive

def withLeft (db : Database) (id userId : Uuid) (clock : Time) : KeyedTable ConversationMember.key :=
  db.conversationMembers.update (fun m => m.key = (id, userId) ∧ m.leftAt = none)
    (ConversationMember.gone clock) (ConversationMember.gone_key clock)

lemma removeMember_ok (h : db.removeMember actor id userId clock = .ok db') :
    ∃ ctx, Acts db id actor clock ctx ∧
      (actor ≠ userId → ∃ row, db.memberRow id userId = some row ∧
        outranks ctx.member.role row.role = true) ∧
      db' = { db with conversationMembers := withLeft db id userId clock } := by
  simp only [removeMember, bind_eq_ok, exists_unit, ensure_eq_ok, requireMember_eq_ok] at h
  obtain ⟨ctx, hctx, -, h⟩ := h
  by_cases hself : actor = userId
  · simp only [hself, ne_eq, not_true, if_false, bind_eq_ok, exists_unit, ensure_eq_ok] at h
    obtain ⟨-, he⟩ := h
    cases he
    exact ⟨ctx, hctx, fun hne => absurd hself hne, rfl⟩
  · simp only [ne_eq, hself, not_false_eq_true, if_true, bind_eq_ok, exists_unit, ensure_eq_ok] at h
    obtain ⟨-, h⟩ := h
    cases hr : db.memberRow id userId with
    | none => simp [hr] at h
    | some row =>
      rw [hr] at h
      simp only [bind_eq_ok, exists_unit, ensure_eq_ok] at h
      obtain ⟨hrank, -, he⟩ := h
      cases he
      exact ⟨ctx, hctx, fun _ => ⟨row, rfl, hrank⟩, rfl⟩

/-- A ban leaves the rows as they were or with the target gone, whether it succeeds or not, and
it succeeds only where the row that the id names, if there is one, is outranked. -/
theorem banMember_spec {reason : Option String} {expiresAt : Option Time}
    {answer : Except AppError Unit}
    (h : db.banMember actor id userId reason expiresAt clock = (db', answer)) :
    (db'.conversationMembers = db.conversationMembers ∨
      db'.conversationMembers = withLeft db id userId clock) ∧
    db'.conversations = db.conversations ∧ db'.conversationRoles = db.conversationRoles ∧
    db'.memberRoles = db.memberRoles ∧
    db'.conversationRoleOverwrites = db.conversationRoleOverwrites ∧ db'.users = db.users ∧
    (answer = .ok () → ∃ ctx, Acts db id actor clock ctx ∧
      ∀ row, db.memberRow id userId = some row → outranks ctx.member.role row.role = true) := by
  unfold banMember at h
  cases hp : db.requirePermission id actor Permission.banMembers clock with
  | error e =>
    simp only [hp, Prod.mk.injEq] at h
    obtain ⟨rfl, rfl⟩ := h
    exact ⟨Or.inl rfl, rfl, rfl, rfl, rfl, rfl, fun h => by cases h⟩
  | ok ctx =>
    simp only [hp] at h
    have hctx := (requirePermission_eq_ok.mp hp).1
    split_ifs at h with hrank huser
    · obtain ⟨rfl, rfl⟩ := Prod.mk.inj h
      exact ⟨Or.inl rfl, rfl, rfl, rfl, rfl, rfl, fun h => by cases h⟩
    · obtain ⟨rfl, rfl⟩ := Prod.mk.inj h
      exact ⟨Or.inl rfl, rfl, rfl, rfl, rfl, rfl, fun h => by cases h⟩
    · have hall : ∀ row, db.memberRow id userId = some row →
          outranks ctx.member.role row.role = true := by
        intro row hrow
        rw [hrow] at hrank
        simpa using hrank
      cases hrow : db.memberRow id userId with
      | none =>
        rw [hrow] at h
        obtain ⟨rfl, rfl⟩ := Prod.mk.inj h
        exact ⟨Or.inl rfl, rfl, rfl, rfl, rfl, rfl, fun _ => ⟨ctx, hctx, hrow ▸ hall⟩⟩
      | some row =>
        rw [hrow] at h
        simp only at h
        split at h
        · next removed hrem =>
          obtain ⟨rfl, rfl⟩ := Prod.mk.inj h
          obtain ⟨-, -, -, rfl⟩ := removeMember_ok hrem
          exact ⟨Or.inr rfl, rfl, rfl, rfl, rfl, rfl, fun _ => ⟨ctx, hctx, hrow ▸ hall⟩⟩
        · obtain ⟨rfl, rfl⟩ := Prod.mk.inj h
          exact ⟨Or.inl rfl, rfl, rfl, rfl, rfl, rfl, fun h => by cases h⟩

end Yappy.Permissions.Database
