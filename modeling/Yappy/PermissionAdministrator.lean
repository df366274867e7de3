import Yappy.PermissionComposition

/-!
# Administrator

Who comes out of the composition with `ADMINISTRATOR`, the bit that answers every permission
check, and what a channel overwrite does to those who have it by rank.
-/
namespace Yappy.Permissions
open Permission

lemma has_all_iff {perms : ℕ} :
    (∀ e ∈ entries, has perms e.2 = true) ↔ perms.testBit 62 = true := by
  constructor
  · intro h
    have hadmin := has_eq_true.mp (h ("ADMINISTRATOR", administrator) (by simp [entries]))
    exact hadmin.elim id fun h => h 62 (Nat.testBit_two_pow_self)
  · intro h e _
    exact has_eq_true.mpr (Or.inl h)

/-- The member's own pair of masks decides first, then the overwrites, then the rank; a mute does
not take administrator away. -/
theorem testBit_administrator {input : EffectivePermissionInput} {clock : Time} :
    (effectivePermissions input clock).testBit 62 = true ↔
      (input.deny.getD 0).testBit 62 = false ∧
      ((input.allow.getD 0).testBit 62 = true ∨ input.role ≠ .restricted ∧
        ((input.roleAllow.getD 0).testBit 62 = true ∨
          input.rankMask.testBit 62 = true ∧ (input.roleDeny.getD 0).testBit 62 = false)) := by
  rw [effectivePermissions_eq_compose, Tiers.testBit_compose]
  by_cases hr : input.role = .restricted
  · have hladder : Permissions.restricted.testBit 62 = false := by decide
    simp only [EffectivePermissionInput.tiers, hr, if_true, hladder, Nat.zero_testBit]
    simp [and_comm]
  · have hfloor : (if input.rankMask.testBit 62 = true then allPermissions
        else input.rankMask).testBit 62 = input.rankMask.testBit 62 := by
      split_ifs with h
      · rw [testBit_allPermissions_administrator, h]
      · rfl
    have hmuted : (if input.isMuted clock = true then silenced else 0).testBit 62 = false := by
      split_ifs
      · exact testBit_silenced_administrator
      · exact Nat.zero_testBit 62
    simp only [EffectivePermissionInput.tiers, hr, if_false, hfloor, hmuted]
    simp only [Bool.and_eq_true, Bool.or_eq_true, Bool.not_eq_true', Bool.not_false, and_true, ne_eq]
    tauto

namespace Database
variable {db db' : Database} {actor id roleId user : Uuid} {body : OverwriteBody} {clock : Time}
  {c : Conversation} {a : ConversationMember}

/-- Administrator by rank: the owner of the scope, or base, ladder and named roles include it. -/
def RanksAdministrator (db : Database) (c : Conversation) (user : Uuid) (a : ConversationMember) :
    Prop :=
  a.role = .owner ∨
    ((c.basePermissions.map Fin.val).getD
      (defaultConversationPermissions c.type)).testBit 62 = true ∨
    (Permissions.rolePermissions a.role).testBit 62 = true ∨
    (db.rolePermissions c user).testBit 62 = true

lemma RanksAdministrator.rankMask (h : db.RanksAdministrator c user a) :
    (db.permissionInput c user a).rankMask.testBit 62 = true := by
  rw [testBit_rankMask]
  by_cases ho : a.role = .owner
  · exact Or.inl ⟨ho, testBit_allPermissions_administrator⟩
  · exact Or.inr ⟨ho, h.resolve_left ho⟩

def overwriteWith (db : Database) (id roleId : Uuid) (body : OverwriteBody) (heldId : Uuid) :
    Option RoleOverwrite :=
  if heldId = roleId then some ⟨id, roleId, parseMasked body.allow, parseMasked body.deny⟩
  else db.conversationRoleOverwrites.find (id, heldId)

/-- When an overwrite leaves a member their administrator: their own masks do not deny it, and
either these allow it or, off the lowest rung, the overwrites of their roles allow it or none
denies it. -/
def Spares (db : Database) (c : Conversation) (user : Uuid) (a : ConversationMember)
    (roleId : Uuid) (body : OverwriteBody) : Prop :=
  ((db.permissionInput c user a).deny.getD 0).testBit 62 = false ∧
    (((db.permissionInput c user a).allow.getD 0).testBit 62 = true ∨ a.role ≠ .restricted ∧
      ((∃ heldId o, db.HoldsRole c.scope user heldId ∧
          db.overwriteWith c.id roleId body heldId = some o ∧ (o.allow : ℕ).testBit 62 = true) ∨
        ∀ heldId o, db.HoldsRole c.scope user heldId →
          db.overwriteWith c.id roleId body heldId = some o → (o.deny : ℕ).testBit 62 = false))

/-- After a PUT, an administrator by rank passes every check exactly when the overwrite and what
was stored before it spare them. -/
theorem setOverwrite_administrator (h : db.setOverwrite actor id roleId body clock = .ok db')
    (hseen : Seen db id user c a) (hadmin : db.RanksAdministrator c user a) (now : Time) :
    ∃ perms, db'.memberPermissions id user now = some perms ∧
      ((∀ e ∈ entries, has perms e.2 = true) ↔ db.Spares c user a roleId body) := by
  obtain ⟨-, -, -, -, -, hover, hc, hm, hroles, hmr, -⟩ := setOverwrite_ok h
  have hid : c.id = id := KeyedTable.find_key hseen.found
  have hseen' : Seen db' id user c a :=
    ⟨hc ▸ hseen.found, hseen.live, (authority_congr hm).trans hseen.authority, hseen.active⟩
  refine ⟨_, memberPermissions_eq_some.mpr ⟨c, a, hseen', rfl⟩, ?_⟩
  have hcolumn : ∀ column : RoleOverwrite → Mask,
      (db'.roleOverwrites column c user).testBit 62 = true ↔
        ∃ heldId o, db.HoldsRole c.scope user heldId ∧
          db.overwriteWith c.id roleId body heldId = some o ∧ (column o : ℕ).testBit 62 = true := by
    intro column
    rw [testBit_roleOverwrites]
    refine exists_congr fun heldId => exists_congr fun o => ?_
    rw [holdsRole_congr hmr, hover, overwriteWith, hid]
    simp
  have hrank : (db'.permissionInput c user a).rankMask =
      (db.permissionInput c user a).rankMask := by
    simp only [EffectivePermissionInput.rankMask, permissionInput, rolePermissions_congr hroles hmr]
    rfl
  have hallow : (db'.permissionInput c user a).allow = (db.permissionInput c user a).allow := by
    simp only [permissionInput, memberRow, hm]
  have hdeny : (db'.permissionInput c user a).deny = (db.permissionInput c user a).deny := by
    simp only [permissionInput, memberRow, hm]
  rw [has_all_iff, testBit_administrator, hallow, hdeny, hrank, Spares]
  refine and_congr_right fun _ => or_congr_right (and_congr_right fun _ => or_congr ?_ ?_)
  · exact hcolumn RoleOverwrite.allow
  · rw [and_iff_right hadmin.rankMask]
    change (db'.roleOverwrites RoleOverwrite.deny c user).testBit 62 = false ↔ _
    rw [← Bool.not_eq_true, hcolumn RoleOverwrite.deny]
    simp only [not_exists, not_and, Bool.not_eq_true]

end Database

namespace Sample

def helper : Request := ⟨10, 6, .setMemberRoles 1 10 [20]⟩

def closed : Request :=
  ⟨11, 7, .setOverwrite 2 20 ⟨none, some (viewConversation ||| administrator)⟩⟩

def hidden : Request := ⟨11, 7, .setOverwrite 2 20 ⟨none, some viewConversation⟩⟩

def helped : Database := (helper.run database).1

end Sample

/-- The owner of the space, who is not denied administrator, keeps every permission. -/
theorem setOverwrite_administrator_owner :
    ∃ perms, (Sample.hidden.run Sample.helped).1.memberPermissions 2 10 8 = some perms ∧
      ((∀ e ∈ entries, has perms e.2 = true) ↔
        Sample.helped.Spares (Sample.conversation 2 .channel (some 1)) 10 (.new 1 10 .owner 0 0) 20
          ⟨none, some viewConversation⟩) := by
  have hok : Sample.hidden.Accepted Sample.helped (Sample.hidden.run Sample.helped).1 :=
    Prod.ext rfl (by decide)
  have hput : Sample.helped.setOverwrite 11 2 20 ⟨none, some viewConversation⟩ 7 =
      .ok (Sample.hidden.run Sample.helped).1 := by
    simpa only [Request.Accepted, Request.run, Sample.hidden, Request.attempt_ok] using hok
  exact Database.setOverwrite_administrator hput ⟨by decide, rfl, by decide, rfl⟩ (Or.inl rfl) 8

/-- A denied administrator locks the owner of the space out of the channel. -/
theorem overwrite_locks_owner_out :
    (Sample.closed.run Sample.helped).2 = .ok () ∧
      Sample.helped.authority (Sample.conversation 2 .channel (some 1)) 10 =
        some (.new 1 10 .owner 0 0) ∧
      ∃ perms, (Sample.closed.run Sample.helped).1.memberPermissions 2 10 8 = some perms ∧
        has perms viewConversation = false := by
  refine ⟨by decide, by decide, _, rfl, by decide⟩

end Yappy.Permissions
