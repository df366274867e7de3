import Yappy.PermissionComposition
import Yappy.Runs

/-!
# Privilege escalation

What a permission write may hand out. The guard `assertCanGrant` covers the masks of named
roles and the allow masks; `WithinReach` is what has to be added for the other inputs of the
composition: the base, the denials that a write lifts, the overwrites that come and go with an
assignment, and a move on the ladder.
-/
namespace Yappy.Permissions

/-- The conversation a permission write addresses; none for what is not one. -/
def Operation.addressed : Operation → Option Uuid
  | .createRole id _ _ => some id
  | .patchRole id _ _ => some id
  | .setMemberRoles id _ _ => some id
  | .setOverwrite id _ _ => some id
  | .deleteOverwrite id _ => some id
  | .patchMember id _ _ => some id
  | .patchConversation id _ => some id
  | _ => none

/-- Everybody's permissions in one conversation, before and after, with what the actor holds in
between. -/
def CoveredIn (db db' : Database) (id : Uuid) (clock : Time) (ctx : MemberContext) : Prop :=
  ∀ user before after, db.memberPermissions id user clock = some before →
    db'.memberPermissions id user clock = some after →
    ∀ i, after.testBit i = true → before.testBit i = true ∨ ctx.permissions.testBit i = true

/-- Nobody in the addressed conversation ends with a bit that they lacked and that the actor, who
does not own it, did not hold. -/
def NoEscalation (db : Database) (r : Request) (db' : Database) : Prop :=
  ∀ id ctx, r.operation.addressed = some id →
    db.loadMemberContext id r.actor r.clock = some ctx → ctx.member.role ≠ .owner →
      CoveredIn db db' id r.clock ctx

def Held (ctx : MemberContext) (mask : ℕ) : Prop := andNot mask ctx.permissions = 0

lemma Held.testBit {ctx : MemberContext} {mask i : ℕ} (h : Held ctx mask)
    (hm : mask.testBit i = true) : ctx.permissions.testBit i = true := andNot_eq_zero.mp h i hm

def widen (mask : ℕ) : ℕ := if mask.testBit 62 then allPermissions else mask

namespace Database
variable (db : Database)

def deniedAt (id roleId : Uuid) : ℕ :=
  (db.conversationRoleOverwrites.find (id, roleId)).elim 0 fun o => o.deny

def overwritesOf (column : RoleOverwrite → Mask) (id : Uuid) (roles : List ConversationRole) : ℕ :=
  bitOr (roles.map fun r =>
    (db.conversationRoleOverwrites.find (id, r.id)).elim 0 fun o => (column o : ℕ))

/-- Administrator hides the bits of a rank mask that name no permission, and taking it away
uncovers them. -/
def StrayHeld (ctx : MemberContext) : Prop :=
  ∀ user authority, db.authority ctx.conversation user = some authority →
    Held ctx (andNot (db.permissionInput ctx.conversation user authority).rankMask allPermissions)

/-- The condition under which a write is covered: what it hands out past the guard is held. -/
def WithinReach (ctx : MemberContext) (clock : Time) : Operation → Prop
  | .patchRole _ roleId body => ∀ existing p, db.conversationRoles.find roleId = some existing →
    body.permissions = some p → (existing.permissions : ℕ).testBit 62 = true →
      p.testBit 62 = false → db.StrayHeld ctx
  | .setOverwrite id roleId body =>
    Held ctx (andNot (db.deniedAt id roleId) (parseMasked body.deny))
  | .deleteOverwrite id roleId => Held ctx (db.deniedAt id roleId)
  | .setMemberRoles id userId roleIds =>
    ctx.conversation.scope = id →
      Held ctx (andNot (db.overwritesOf RoleOverwrite.allow id (db.rolesWanted id roleIds))
        (db.roleAllow ctx.conversation userId)) ∧
      Held ctx (andNot (db.roleDeny ctx.conversation userId)
        (db.overwritesOf RoleOverwrite.deny id (db.rolesWanted id roleIds))) ∧
      ((db.rolesHeld id userId).testBit 62 = true →
        (bitOr ((db.rolesWanted id roleIds).map fun r => (r.permissions : ℕ))).testBit 62 = false →
          db.StrayHeld ctx)
  | .patchMember id userId body => ∀ target authority, db.memberRow id userId = some target →
    db.authority ctx.conversation userId = some authority →
      (∀ role, body.role = some role → ctx.conversation.parentId = none →
        Held ctx (Tiers.raised
          ((db.permissionInput ctx.conversation userId authority).tiers clock)
          ({ db.permissionInput ctx.conversation userId authority with
            role := role }.tiers clock))) ∧
      (∀ deny, body.deny = some deny → Held ctx (andNot target.deny deny)) ∧
      (∀ mutedUntil, body.mutedUntil = some mutedUntil →
        (db.permissionInput ctx.conversation userId authority).isMuted clock = true →
        ((mutedUntil.or (if ctx.conversation.parentId.isSome then authority.mutedUntil
          else none)).any fun t => t > clock) = false → Held ctx silenced)
  | .patchConversation _ body => ∀ base, body.basePermissions = some base →
    let old := (ctx.conversation.basePermissions.map Fin.val).getD
      (defaultConversationPermissions ctx.conversation.type)
    let new := base.getD (defaultConversationPermissions ctx.conversation.type)
    Held ctx (widen (andNot new old)) ∧
      (old.testBit 62 = true → new.testBit 62 = false → db.StrayHeld ctx)
  | _ => True

end Database

/-! ### One input at a time -/

def Covered (ctx : MemberContext) (clock : Time) (input input' : EffectivePermissionInput) : Prop :=
  ∀ i, (effectivePermissions input' clock).testBit i = true →
    (effectivePermissions input clock).testBit i = true ∨ ctx.permissions.testBit i = true

lemma gain_absurd {x y i : ℕ} {P : Prop} (h : y = x) (hy : y.testBit i = true)
    (hx : x.testBit i = false) : P := by
  rw [h, hx] at hy
  cases hy

structure Covers (ctx : MemberContext) (clock : Time) (input input' : EffectivePermissionInput) :
    Prop where
  role : input'.role = input.role
  rank : ∀ i, input'.rankMask.testBit 62 = false → input'.rankMask.testBit i = true →
    input.rankMask.testBit i = false → ctx.permissions.testBit i = true
  admin : input'.rankMask.testBit 62 = true → input.rankMask.testBit 62 = false →
    Held ctx allPermissions
  stray : input.rankMask.testBit 62 = true → input'.rankMask.testBit 62 = false →
    Held ctx (andNot input.rankMask allPermissions)
  roleDeny : ∀ i, (input.roleDeny.getD 0).testBit i = true →
    (input'.roleDeny.getD 0).testBit i = false → ctx.permissions.testBit i = true
  roleAllow : ∀ i, (input'.roleAllow.getD 0).testBit i = true →
    (input.roleAllow.getD 0).testBit i = false → ctx.permissions.testBit i = true
  allow : ∀ i, (input'.allow.getD 0).testBit i = true →
    (input.allow.getD 0).testBit i = false → ctx.permissions.testBit i = true
  deny : ∀ i, (input.deny.getD 0).testBit i = true →
    (input'.deny.getD 0).testBit i = false → ctx.permissions.testBit i = true
  mute : input.isMuted clock = true → input'.isMuted clock = false → Held ctx silenced

lemma Covers.covered {ctx : MemberContext} {clock : Time}
    {input input' : EffectivePermissionInput} (h : Covers ctx clock input input') :
    Covered ctx clock input input' := by
  intro i hnew
  by_cases hold : (effectivePermissions input clock).testBit i = true
  · exact Or.inl hold
  right
  rcases gain_cases h.role (by simpa using hold) hnew with
    ⟨hlack, hy, hn⟩ | ⟨hy, hn, hall⟩ | ⟨hy, hn, hi, hall⟩ | ⟨hy, hn⟩ | ⟨hy, hn⟩ | ⟨hy, hn⟩ |
      ⟨hy, hn⟩ | ⟨hy, hn, hs⟩
  · exact h.rank i hlack hy hn
  · exact (h.admin hy hn).testBit hall
  · exact (h.stray hy hn).testBit (by rw [testBit_andNot, hi, hall]; rfl)
  · exact h.roleDeny i hy hn
  · exact h.roleAllow i hy hn
  · exact h.allow i hy hn
  · exact h.deny i hy hn
  · exact (h.mute hy hn).testBit hs

section Roles
variable {db db' : Database} {ctx : MemberContext} {clock : Time} {id user actor : Uuid}
  {c : Conversation} {a : ConversationMember}

structure RoleCovers (db db' : Database) (ctx : MemberContext) (user : Uuid) : Prop where
  permissions : ∀ j, (db'.rolePermissions ctx.conversation user).testBit j = true →
    (db.rolePermissions ctx.conversation user).testBit j = false →
      ctx.permissions.testBit j = true ∧ j ≠ 62
  lost : (db.rolePermissions ctx.conversation user).testBit 62 = true →
    (db'.rolePermissions ctx.conversation user).testBit 62 = false → db.StrayHeld ctx
  deny : ∀ i, (db.roleDeny ctx.conversation user).testBit i = true →
    (db'.roleDeny ctx.conversation user).testBit i = false → ctx.permissions.testBit i = true
  allow : ∀ i, (db'.roleAllow ctx.conversation user).testBit i = true →
    (db.roleAllow ctx.conversation user).testBit i = false → ctx.permissions.testBit i = true

lemma RoleCovers.covers (h : RoleCovers db db' ctx user)
    (ha : db.authority ctx.conversation user = some a)
    (hm : db'.conversationMembers = db.conversationMembers) :
    Covers ctx clock (db.permissionInput ctx.conversation user a)
      (db'.permissionInput ctx.conversation user a) := by
  -- the rank mask moves with the named roles
  have hrank : ∀ (x y : Database) (j : ℕ),
      (y.permissionInput ctx.conversation user a).rankMask.testBit j = true →
      (x.permissionInput ctx.conversation user a).rankMask.testBit j = false →
        (y.rolePermissions ctx.conversation user).testBit j = true ∧
        (x.rolePermissions ctx.conversation user).testBit j = false := by
    intro x y j hy hn
    rw [← Bool.not_eq_true, testBit_rankMask] at hn
    rw [testBit_rankMask] at hy
    simp only [Database.permissionInput, Option.getD_some] at hy hn
    simp only [← Bool.not_eq_true]
    tauto
  have hmute : (db'.permissionInput ctx.conversation user a).isMuted clock =
      (db.permissionInput ctx.conversation user a).isMuted clock := by
    simp [EffectivePermissionInput.isMuted, Database.permissionInput, Database.memberRow, hm]
  refine ⟨rfl, ?_, ?_, ?_, h.deny, h.allow, ?_, ?_, ?_⟩
  · intro i _ hy hn
    obtain ⟨hy', hn'⟩ := hrank db db' i hy hn
    exact (h.permissions i hy' hn').1
  · intro hy hn
    obtain ⟨hy', hn'⟩ := hrank db db' 62 hy hn
    exact absurd rfl (h.permissions 62 hy' hn').2
  · intro hy hn
    obtain ⟨hy', hn'⟩ := hrank db' db 62 hy hn
    exact h.lost hy' hn' user a ha
  · exact fun i => gain_absurd (by simp [Database.permissionInput, Database.memberRow, hm])
  · exact fun i => gain_absurd (by simp [Database.permissionInput, Database.memberRow, hm])
  · intro hy hn
    exact Bool.noConfusion ((hmute.trans hy).symm.trans hn)

lemma coveredIn_of_roles (hctx : db.loadMemberContext id actor clock = some ctx)
    (hc : db'.conversations = db.conversations)
    (hm : db'.conversationMembers = db.conversationMembers)
    (hcovers : ∀ user, RoleCovers db db' ctx user) : CoveredIn db db' id clock ctx := by
  intro user before after hbefore hafter
  obtain ⟨c, a, hseen, rfl⟩ := memberPermissions_eq_some.mp hbefore
  obtain ⟨c', a', hseen', rfl⟩ := memberPermissions_eq_some.mp hafter
  have hc' : c' = c := by
    have := hseen'.found
    rw [hc, hseen.found] at this
    exact (Option.some.inj this).symm
  subst hc'
  have ha' : a' = a := by
    have := hseen'.authority
    rw [Database.authority_congr hm, hseen.authority] at this
    exact (Option.some.inj this).symm
  subst ha'
  obtain rfl := hseen.conversation hctx
  exact ((hcovers user).covers hseen.authority hm).covered

end Roles

/-! ### Route by route -/

namespace Database
variable {db db' : Database} {ctx : MemberContext} {clock : Time} {id userId roleId actor : Uuid}

lemma held_of_assertCanGrant {wanted i : ℕ} {u : Unit} (h : assertCanGrant ctx wanted = .ok u)
    (ho : ctx.member.role ≠ .owner) (hw : wanted.testBit i = true) :
    ctx.permissions.testBit i = true ∧ i ≠ 62 := by
  obtain ⟨hmissing, hadmin⟩ := (assertCanGrant_eq_ok.mp h).resolve_left ho
  refine ⟨andNot_eq_zero.mp hmissing i hw, ?_⟩
  rintro rfl
  rw [hw] at hadmin
  cases hadmin

lemma Acts.id_eq (h : Acts db id actor clock ctx) : ctx.conversation.id = id := by
  obtain ⟨c, -, hc, -, -, -, he, -⟩ := loadMemberContext_eq_some.mp h
  rw [he]
  exact KeyedTable.find_key hc

lemma createRole_covered {body : CreateRoleBody} {newId : Uuid}
    (h : db.createRole actor id body newId clock = .ok db')
    (hctx : Acts db id actor clock ctx) : CoveredIn db db' id clock ctx := by
  obtain ⟨-, -, -, -, hnew, hroles, hc, hm, hmr, ho, -⟩ := createRole_ok h
  have hsame : ∀ user, db'.rolePermissions ctx.conversation user =
      db.rolePermissions ctx.conversation user := fun _ =>
    rolePermissions_createRole hnew rfl hroles hmr
  refine coveredIn_of_roles hctx hc hm fun user => ⟨?_, ?_, ?_, ?_⟩
  · exact fun j => gain_absurd (hsame user)
  · exact gain_absurd (hsame user).symm
  · exact fun i => gain_absurd (roleOverwrites_congr ho hmr).symm
  · exact fun i => gain_absurd (roleOverwrites_congr ho hmr)

lemma patchRole_covered {body : UpdateRoleBody}
    (h : db.patchRole actor id roleId body clock = .ok db')
    (hctx : Acts db id actor clock ctx) (howner : ctx.member.role ≠ .owner)
    (hreach : db.WithinReach ctx clock (.patchRole id roleId body)) :
    CoveredIn db db' id clock ctx := by
  obtain ⟨ctx', existing, hctx', -, hexisting, hgrant, hroles, hc, hm, hmr, ho, -⟩ := patchRole_ok h
  obtain rfl : ctx' = ctx := Option.some.inj (hctx'.symm.trans hctx)
  have hfound := (roleIn_eq_some.mp hexisting).1
  refine coveredIn_of_roles hctx hc hm fun user => ⟨?_, ?_, ?_, ?_⟩
  · intro j hy hn
    obtain ⟨heldId, r', hholds, hfind', hbit, hold⟩ :=
      rolePermissions_gain (fun _ => (holdsRole_congr hmr).mp) hy hn
    obtain ⟨r, hfind⟩ := hholds.exists
    have hr := hold r hfind
    have hne : (r'.permissions : ℕ).testBit j ≠ (r.permissions : ℕ).testBit j := by simp [hbit, hr]
    obtain ⟨rfl, p, hp, he⟩ := permissions_patched hroles hfind hfind' hne
    obtain rfl : r = existing := Option.some.inj (hfind.symm.trans hfound)
    -- the bit is one of those the guard looked at
    refine held_of_assertCanGrant (hgrant (by simp [hp])) howner ?_
    rw [testBit_andNot, hr, hp]
    simpa [parseMasked, parsePermissions, hbit] using he.symm
  · intro hy hn
    obtain ⟨heldId, r, hholds, hfind, hbit, hlost⟩ :=
      rolePermissions_gain (fun _ => (holdsRole_congr hmr).mpr) hy hn
    obtain ⟨r', hfind'⟩ := hholds.exists
    have hr' := hlost r' hfind'
    have hne : (r'.permissions : ℕ).testBit 62 ≠ (r.permissions : ℕ).testBit 62 := by
      simp [hbit, hr']
    obtain ⟨rfl, p, hp, he⟩ := permissions_patched hroles hfind hfind' hne
    refine hreach r p hfind hp hbit ?_
    simpa [hr', testBit_allPermissions_administrator] using he.symm
  · exact fun i => gain_absurd (roleOverwrites_congr ho hmr).symm
  · exact fun i => gain_absurd (roleOverwrites_congr ho hmr)

lemma setMemberRoles_covered {roleIds : List Uuid}
    (h : db.setMemberRoles actor id userId roleIds clock = .ok db')
    (hctx : Acts db id actor clock ctx) (howner : ctx.member.role ≠ .owner)
    (hreach : db.WithinReach ctx clock (.setMemberRoles id userId roleIds)) :
    CoveredIn db db' id clock ctx := by
  obtain ⟨ctx', hctx', -, hgrant, hmr, hc, hm, hroles, ho, -⟩ := setMemberRoles_ok h
  obtain rfl : ctx' = ctx := Option.some.inj (hctx'.symm.trans hctx)
  refine coveredIn_of_roles hctx hc hm fun user => ?_
  by_cases hs : ctx'.conversation.scope = id ∧ user = userId
  · obtain ⟨hscope, rfl⟩ := hs
    obtain ⟨hallow, hdeny, hstray⟩ := hreach hscope
    have hheld : db.rolePermissions ctx'.conversation user = db.rolesHeld id user := by
      rw [rolePermissions, hscope, rolesHeld]
    have hnext := rolePermissions_replaced hmr hroles hscope
    have hoverwrite : ∀ (column : RoleOverwrite → Mask),
        db'.roleOverwrites column ctx'.conversation user =
          db.overwritesOf column id (db.rolesWanted id roleIds) := by
      refine fun column => Nat.eq_of_testBit_eq fun i => ?_
      rw [Bool.eq_iff_iff, testBit_roleOverwrites, overwritesOf, testBit_bitOr, ho, hctx.id_eq]
      simp only [holdsRole_replaceRoles hmr, hscope, and_self, if_true, List.mem_map]
      constructor
      · rintro ⟨-, o, ⟨r, hr, rfl⟩, hfind, hbit⟩
        exact ⟨_, ⟨r, hr, rfl⟩, by simpa [hfind] using hbit⟩
      · rintro ⟨-, ⟨r, hr, rfl⟩, hbit⟩
        cases hfind : db.conversationRoleOverwrites.find (id, r.id) with
        | none => simp [hfind] at hbit
        | some o => exact ⟨r.id, o, ⟨r, hr, rfl⟩, hfind, by simpa [hfind] using hbit⟩
    refine ⟨?_, ?_, ?_, ?_⟩
    · intro j hy hn
      rw [hnext] at hy
      rw [hheld] at hn
      exact held_of_assertCanGrant hgrant howner (by simp [hy, hn])
    · intro hy hn
      rw [hheld] at hy
      rw [hnext] at hn
      exact hstray hy hn
    · intro i hy hn
      rw [roleDeny, hoverwrite] at hn
      exact hdeny.testBit (by simp [hy, hn])
    · intro i hy hn
      rw [roleAllow, hoverwrite] at hy
      exact hallow.testBit (by simp [hy, hn])
  · have hsame := rolePermissions_untouched hmr hroles hs
    exact ⟨fun j => gain_absurd hsame, gain_absurd hsame.symm,
      fun i => gain_absurd (roleOverwrites_untouched hmr ho hs).symm,
      fun i => gain_absurd (roleOverwrites_untouched hmr ho hs)⟩

lemma setOverwrite_covered {body : OverwriteBody}
    (h : db.setOverwrite actor id roleId body clock = .ok db')
    (hctx : Acts db id actor clock ctx) (howner : ctx.member.role ≠ .owner)
    (hreach : db.WithinReach ctx clock (.setOverwrite id roleId body)) :
    CoveredIn db db' id clock ctx := by
  obtain ⟨ctx', hctx', -, -, hgrant, hover, hc, hm, hroles, hmr, -⟩ := setOverwrite_ok h
  obtain rfl : ctx' = ctx := Option.some.inj (hctx'.symm.trans hctx)
  refine coveredIn_of_roles hctx hc hm fun user => ⟨?_, ?_, ?_, ?_⟩
  · exact fun j => gain_absurd (rolePermissions_congr hroles hmr)
  · exact gain_absurd (rolePermissions_congr hroles hmr).symm
  · intro i hy hn
    obtain ⟨heldId, o, -, hfind, hbit, hlost⟩ :=
      roleOverwrites_gain (fun _ => (holdsRole_congr hmr).mpr) hy hn
    rw [hctx.id_eq] at hfind hlost
    by_cases hid : heldId = roleId
    · -- the denial was in the row that is overwritten
      subst hid
      have hlifted := hlost _ ((hover _).trans (if_pos rfl))
      refine Held.testBit hreach ?_
      rw [testBit_andNot, deniedAt, hfind, Option.elim_some, hbit, hlifted]
      rfl
    · have hkept := hover (id, heldId)
      rw [if_neg (by simp [hid]), hfind] at hkept
      rw [hlost o hkept] at hbit
      cases hbit
  · intro i hy hn
    obtain ⟨heldId, o, -, hfind, hbit, hold⟩ :=
      roleOverwrites_gain (fun _ => (holdsRole_congr hmr).mp) hy hn
    rw [hctx.id_eq] at hfind hold
    rw [hover] at hfind
    split_ifs at hfind with hk
    · obtain rfl := Option.some.inj hfind
      exact (held_of_assertCanGrant hgrant howner hbit).1
    · rw [hold o hfind] at hbit
      cases hbit

lemma deleteOverwrite_covered (h : db.deleteOverwrite actor id roleId clock = .ok db')
    (hctx : Acts db id actor clock ctx)
    (hreach : db.WithinReach ctx clock (.deleteOverwrite id roleId)) :
    CoveredIn db db' id clock ctx := by
  obtain ⟨-, -, -, hover, hc, hm, hroles, hmr, -⟩ := deleteOverwrite_ok h
  refine coveredIn_of_roles hctx hc hm fun user => ⟨?_, ?_, ?_, ?_⟩
  · exact fun j => gain_absurd (rolePermissions_congr hroles hmr)
  · exact gain_absurd (rolePermissions_congr hroles hmr).symm
  · intro i hy hn
    obtain ⟨heldId, o, -, hfind, hbit, hlost⟩ :=
      roleOverwrites_gain (fun _ => (holdsRole_congr hmr).mpr) hy hn
    rw [hctx.id_eq] at hfind hlost
    by_cases hid : heldId = roleId
    · subst hid
      exact Held.testBit hreach (by simpa [deniedAt, hfind] using hbit)
    · have hkept := hover (id, heldId)
      rw [if_neg (by simp [hid]), hfind] at hkept
      rw [hlost o hkept] at hbit
      cases hbit
  · intro i hy hn
    obtain ⟨heldId, o, -, hfind, hbit, hold⟩ :=
      roleOverwrites_gain (fun _ => (holdsRole_congr hmr).mp) hy hn
    rw [hover] at hfind
    split_ifs at hfind
    rw [hold o hfind] at hbit
    cases hbit

lemma patchConversation_covered {body : UpdateConversationBody}
    (h : db.patchConversation actor id body clock = .ok db')
    (hctx : Acts db id actor clock ctx)
    (hreach : db.WithinReach ctx clock (.patchConversation id body)) :
    CoveredIn db db' id clock ctx := by
  obtain ⟨ctx', base, hctx', hkept, hset, hc, hm, hroles, hmr, ho, -⟩ := patchConversation_ok h
  obtain rfl : ctx' = ctx := Option.some.inj (hctx'.symm.trans hctx)
  intro user before after hbefore hafter
  obtain ⟨c, a, hseen, rfl⟩ := memberPermissions_eq_some.mp hbefore
  obtain ⟨c', a', hseen', rfl⟩ := memberPermissions_eq_some.mp hafter
  have hc' : c' = patchedConversation body base c := by
    have := hseen'.found
    rw [hc, KeyedTable.find_update, hseen.found, Option.map_some, Option.some.injEq,
      if_pos (by simpa using KeyedTable.find_key hseen.found)] at this
    exact this.symm
  subst hc'
  have ha' : a' = a := by
    have := hseen'.authority
    rw [authority_congr hm] at this
    exact (Option.some.inj (hseen.authority.symm.trans this)).symm
  subst ha'
  obtain rfl := hseen.conversation hctx
  -- the base is the one input that changes
  have hinput : db'.permissionInput (patchedConversation body base ctx'.conversation) user a' =
      { db.permissionInput ctx'.conversation user a' with basePermissions := base.map Fin.val } := by
    simp only [permissionInput, roleAllow, roleDeny, roleOverwrites_congr ho hmr,
      rolePermissions_congr hroles hmr, memberRow, hm]
    rfl
  rw [hinput]
  cases hb : body.basePermissions with
  | none =>
    rw [hkept hb]
    exact fun i hnew => Or.inl hnew
  | some b =>
    obtain ⟨hwidened, hstray⟩ := hreach b hb
    have hrank : ∀ (x y : Option ℕ) (j : ℕ),
        { db.permissionInput ctx'.conversation user a' with
          basePermissions := y }.rankMask.testBit j = true →
        { db.permissionInput ctx'.conversation user a' with
          basePermissions := x }.rankMask.testBit j = false →
        (y.getD (defaultConversationPermissions ctx'.conversation.type)).testBit j = true ∧
          (x.getD (defaultConversationPermissions ctx'.conversation.type)).testBit j = false := by
      intro x y j hy hn
      rw [← Bool.not_eq_true, testBit_rankMask] at hn
      rw [testBit_rankMask] at hy
      rcases hy with hy | ⟨hrole, hbase | hrest⟩
      · exact absurd (Or.inl hy) hn
      · exact ⟨hbase, Bool.eq_false_iff.mpr fun hx => hn (Or.inr ⟨hrole, Or.inl hx⟩)⟩
      · exact absurd (Or.inr ⟨hrole, Or.inr hrest⟩) hn
    rw [hset b hb]
    refine Covers.covered ⟨rfl, ?_, ?_, ?_, fun _ => gain_absurd rfl, fun _ => gain_absurd rfl,
      fun _ => gain_absurd rfl, fun _ => gain_absurd rfl,
      fun hy hn => Bool.noConfusion (hy.symm.trans hn)⟩
    · intro i hlack hy hn
      obtain ⟨hy', hn'⟩ := hrank _ _ i hy hn
      rw [← Bool.not_eq_true, testBit_rankMask] at hlack
      have howner : (db.permissionInput ctx'.conversation user a').role ≠ .owner := fun h =>
        hlack (Or.inl ⟨h, testBit_allPermissions_administrator⟩)
      have hno : (b.getD (defaultConversationPermissions ctx'.conversation.type)).testBit 62 = false :=
        Bool.eq_false_iff.mpr fun h => hlack (Or.inr ⟨howner, Or.inl h⟩)
      refine hwidened.testBit ?_
      rw [widen, if_neg (by rw [testBit_andNot, hno]; simp), testBit_andNot, hy', hn']
      rfl
    · intro hy hn
      obtain ⟨hy', hn'⟩ := hrank _ _ 62 hy hn
      rwa [widen, if_pos (by rw [testBit_andNot, hy', hn']; rfl)] at hwidened
    · intro hy hn
      obtain ⟨hy', hn'⟩ := hrank _ _ 62 hy hn
      exact hstray hy' hn' user a' hseen.authority

lemma patchMember_covered {body : UpdateMemberBody}
    (h : db.patchMember actor id userId body clock = .ok db')
    (hctx : Acts db id actor clock ctx) (howner : ctx.member.role ≠ .owner)
    (hreach : db.WithinReach ctx clock (.patchMember id userId body)) :
    CoveredIn db db' id clock ctx := by
  obtain ⟨ctx', target, allow, deny, hctx', htarget, -, -, -, hguard, hallow, hdeny, hm, hc, hroles,
    hmr, ho, -⟩ := patchMember_ok h
  obtain rfl : ctx' = ctx := Option.some.inj (hctx'.symm.trans hctx)
  intro user before after hbefore hafter i
  obtain ⟨c, a, hseen, rfl⟩ := memberPermissions_eq_some.mp hbefore
  obtain ⟨c', a', hseen', rfl⟩ := memberPermissions_eq_some.mp hafter
  have hconv := hseen.conversation hctx
  obtain rfl : c = c' := Option.some.inj (hseen.found.symm.trans (hc ▸ hseen'.found))
  by_cases huser : user = userId
  · subst huser
    have hid : c.id = id := hconv ▸ hctx.id_eq
    obtain ⟨role, mutedUntil, hinput, hrole, hmuted⟩ :=
      patchedInput hroles hmr ho hm hseen hseen' htarget
    obtain ⟨hmove, hlift, hmute⟩ := hreach target a htarget (hconv ▸ hseen.authority)
    rw [hconv] at hmove hmute
    rw [hinput]
    -- the move on the ladder first, the rest of the row after it
    have hrest : Covered ctx' clock { db.permissionInput c user a with role := role }
        { db.permissionInput c user a with
          role := role
          allow := some (allow ||| if c.parentId.isSome then (a.allow : ℕ) else 0)
          deny := some (deny ||| if c.parentId.isSome then (a.deny : ℕ) else 0)
          mutedUntil := mutedUntil } := by
      refine Covers.covered ⟨rfl, fun _ _ => gain_absurd rfl, gain_absurd rfl, gain_absurd rfl,
        fun _ => gain_absurd rfl, fun _ => gain_absurd rfl, ?_, ?_, ?_⟩
      · intro i hy hn
        simp only [permissionInput, hid, htarget, Option.elim_some, Option.getD_some,
          Nat.testBit_or, Bool.or_eq_true, Bool.or_eq_false_iff, hallow] at hy hn
        rw [hn.2, Bool.false_eq_true, or_false] at hy
        cases hwanted : body.allow with
        | none =>
          rw [hwanted, Option.getD_none, hn.1] at hy
          cases hy
        | some wanted =>
          rw [hwanted, Option.getD_some] at hy
          exact andNot_eq_zero.mp (((hguard wanted hwanted).1 howner).1) i hy
      · intro i hy hn
        simp only [permissionInput, hid, htarget, Option.elim_some, Option.getD_some,
          Nat.testBit_or, Bool.or_eq_true, Bool.or_eq_false_iff, hdeny] at hy hn
        rw [hn.2, Bool.false_eq_true, or_false] at hy
        cases hd : body.deny with
        | none =>
          rw [hd, Option.getD_none, hy] at hn
          cases hn.1
        | some d =>
          rw [hd, Option.getD_some] at hn
          exact (hlift d hd).testBit (by simp [hy, hn.1])
      · intro hy hn
        rcases hmuted with rfl | ⟨m, hm, rfl⟩
        · exact Bool.noConfusion (hy.symm.trans hn)
        · exact hmute m hm hy hn
    intro hnew
    rcases hrest i hnew with hgot | hheld
    · rcases hrole with rfl | ⟨hparent, hbody⟩
      · exact Or.inl hgot
      · by_cases hold : (effectivePermissions (db.permissionInput c user a) clock).testBit i = true
        · exact Or.inl hold
        · rw [effectivePermissions_eq_compose] at hold hgot
          have hraised := Tiers.raised_of_gain (by simpa using hold) hgot
          exact Or.inr ((hmove role hbody hparent).testBit hraised)
    · exact Or.inr hheld
  · -- somebody else: none of their rows is written
    have hrow : ∀ k, db'.memberRow k user = db.memberRow k user := fun k =>
      (memberRow_update hm k user).trans (if_neg fun h => huser h.2)
    have ha : a' = a := by
      have hauth' := hseen'.authority
      simp only [authority, hrow] at hauth'
      exact Option.some.inj (hauth'.symm.trans hseen.authority)
    subst ha
    intro hnew
    left
    convert hnew using 3
    simp only [permissionInput, hrow, roleAllow, roleDeny, roleOverwrites_congr ho hmr,
      rolePermissions_congr hroles hmr]

end Database

namespace Request

/-- The condition on a request, for the actor it matters to. -/
def WithinReach (db : Database) (r : Request) : Prop :=
  ∀ id ctx, r.operation.addressed = some id →
    db.loadMemberContext id r.actor r.clock = some ctx → ctx.member.role ≠ .owner →
      db.WithinReach ctx r.clock r.operation

lemma noEscalation {db db' : Database} {r : Request} (h : r.Accepted db db')
    (hreach : r.WithinReach db) : NoEscalation db r db' := by
  intro id ctx haddressed hctx howner
  have hreach := hreach id ctx haddressed hctx howner
  obtain ⟨actor, clock, op⟩ := r
  simp only [Accepted, run] at h
  cases op with
  | createRole =>
    cases haddressed
    exact Database.createRole_covered (attempt_ok.mp h) hctx
  | patchRole =>
    cases haddressed
    exact Database.patchRole_covered (attempt_ok.mp h) hctx howner hreach
  | setMemberRoles =>
    cases haddressed
    exact Database.setMemberRoles_covered (attempt_ok.mp h) hctx howner hreach
  | setOverwrite =>
    cases haddressed
    exact Database.setOverwrite_covered (attempt_ok.mp h) hctx howner hreach
  | deleteOverwrite =>
    cases haddressed
    exact Database.deleteOverwrite_covered (attempt_ok.mp h) hctx hreach
  | patchMember =>
    cases haddressed
    exact Database.patchMember_covered (attempt_ok.mp h) hctx howner hreach
  | patchConversation =>
    cases haddressed
    exact Database.patchConversation_covered (attempt_ok.mp h) hctx hreach
  | deleteRole | transferOwnership | joinInvite | removeMember | banMember => cases haddressed

end Request

/-- In every run of served requests that all stay within reach, no accepted one escalates. -/
theorem run_noEscalation {db db' : Database} {entries : List (Database × Request × Database)}
    (h : History (fun db r db' => Request.Served db r db') db entries db')
    (hreach : ∀ e ∈ entries, e.2.1.WithinReach e.1) :
    ∀ e ∈ entries, e.2.1.Accepted e.1 e.2.2 → NoEscalation e.1 e.2.1 e.2.2 := by
  have hstep : ∀ (s : Database) (r : Request) (s' : Database), True → r.WithinReach s →
      r.Served s s' → True ∧ (r.Accepted s s' → NoEscalation s r s') :=
    fun s r s' _ hok _ => ⟨trivial, fun ha => Request.noEscalation ha hok⟩
  exact (h.forall_entries trivial hstep hreach).2

namespace Sample

def silence : Request :=
  ⟨11, 7, .setOverwrite 2 20 ⟨none, some Permission.sendMessages⟩⟩

def unsilence : Request := ⟨11, 8, .deleteOverwrite 2 20⟩

def silenced : Database := (silence.run database).1

def unsilenced : Database := (unsilence.run silenced).1

end Sample

theorem run_noEscalation_overwrite :
    NoEscalation Sample.database Sample.silence Sample.silenced ∧
      NoEscalation Sample.silenced Sample.unsilence Sample.unsilenced := by
  have hrun := History.snoc (History.snoc (History.start Sample.database)
    (show Request.Served _ Sample.silence Sample.silenced from rfl))
    (show Request.Served _ Sample.unsilence Sample.unsilenced from rfl)
  have hsilence : Sample.silence.WithinReach Sample.database := by
    rintro id ctx ⟨⟩ - -
    have hnothing : andNot (Sample.database.deniedAt 2 20)
        (parseMasked (some Permission.sendMessages)) = 0 := by decide
    change andNot (andNot (Sample.database.deniedAt 2 20)
      (parseMasked (some Permission.sendMessages))) ctx.permissions = 0
    rw [hnothing, andNot_eq_zero]
    simp
  have hunsilence : Sample.unsilence.WithinReach Sample.silenced := by
    rintro id ctx ⟨⟩ hctx -
    have hheld : (Sample.silenced.loadMemberContext 2 11 8).all fun ctx =>
        andNot (Sample.silenced.deniedAt 2 20) ctx.permissions = 0 := by decide
    rw [show Sample.silenced.loadMemberContext 2 11 8 = some ctx from hctx] at hheld
    have hheld' : andNot (Sample.silenced.deniedAt 2 20) ctx.permissions = 0 := by simpa using hheld
    exact hheld'
  have hall := run_noEscalation hrun (by simp [hsilence, hunsilence])
  exact ⟨hall (Sample.database, Sample.silence, Sample.silenced) (by simp)
      (Prod.ext rfl (by decide)),
    hall (Sample.silenced, Sample.unsilence, Sample.unsilenced) (by simp)
      (Prod.ext rfl (by decide))⟩

def Sample.baseGrab : Request := ⟨11, 7, .patchConversation 1
  ⟨none, none, none, none, none, none, some (some Permission.administrator), none, none⟩⟩

/-- The settings route does not ask what the base hands out: the member 12 ends up with a
permission that neither they nor the actor had. -/
theorem base_patch_escalates :
    (Sample.baseGrab.run Sample.database).2 = .ok () ∧
      ¬NoEscalation Sample.database Sample.baseGrab (Sample.baseGrab.run Sample.database).1 := by
  refine ⟨by decide, fun h => ?_⟩
  obtain ⟨ctx, hctx, howner, hlacks⟩ : ∃ ctx, Sample.database.loadMemberContext 1 11 7 = some ctx ∧
      ctx.member.role ≠ .owner ∧ ctx.permissions.testBit 62 = false := by
    refine ⟨_, rfl, ?_, ?_⟩ <;> decide
  have hgot := h 1 ctx rfl hctx howner 12 _ _ rfl rfl 62 (by decide)
  rw [hlacks] at hgot
  revert hgot
  decide

end Yappy.Permissions
