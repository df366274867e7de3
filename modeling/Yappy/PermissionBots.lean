import Yappy.PermissionAdministrator
import Yappy.Runs

/-!
# Bots and administrator

No application account is an administrator. Two doors are guarded: the assignment of a role and
the member's own allow mask. `SparesBots` is what has to be asked of every other write that reaches
an input of a bot's composition: a role it already holds, an overwrite of such a role, the base,
the rung, and what it finds when it joins.
-/
namespace Yappy.Permissions

def NoBotAdministers (db : Database) : Prop :=
  ∀ user id clock perms, db.isBot user = true → db.memberPermissions id user clock = some perms →
    perms.testBit 62 = false

namespace Database
variable (db : Database)

def AllowsAdministrator (id roleId : Uuid) : Prop :=
  ∃ o, db.conversationRoleOverwrites.find (id, roleId) = some o ∧ (o.allow : ℕ).testBit 62 = true

def DeniesAdministrator (id roleId : Uuid) : Prop :=
  ∃ o, db.conversationRoleOverwrites.find (id, roleId) = some o ∧ (o.deny : ℕ).testBit 62 = true

def baseAdministers (c : Conversation) : Bool :=
  ((c.basePermissions.map Fin.val).getD (defaultConversationPermissions c.type)).testBit 62

/-- Off the lowest rung, the user would be given administrator here. -/
def Grants (c : Conversation) (user : Uuid) : Prop :=
  baseAdministers c = true ∨ (db.rolePermissions c user).testBit 62 = true ∨
    (db.roleAllow c user).testBit 62 = true

/-- The condition on a write: no input of a bot's composition is given administrator, and no
denial of it is lifted. -/
def SparesBots (actor : Uuid) : Operation → Prop
  | .createRole _ _ _ => True
  | .patchRole _ roleId body => ∀ existing p scope user,
    db.conversationRoles.find roleId = some existing → body.permissions = some p →
    p.testBit 62 = true → (existing.permissions : ℕ).testBit 62 = false →
      db.isBot user = true → ¬db.HoldsRole scope user roleId
  | .deleteRole _ roleId => ∀ c user, db.conversations.find c.id = some c → db.isBot user = true →
    db.HoldsRole c.scope user roleId → ¬db.DeniesAdministrator c.id roleId
  | .setMemberRoles id userId roleIds => db.isBot userId = true →
    ∀ c, db.conversations.find c.id = some c → c.scope = id →
      (∀ r ∈ db.rolesWanted id roleIds, ¬db.HoldsRole id userId r.id →
        ¬db.AllowsAdministrator c.id r.id) ∧
      ∀ roleId, db.HoldsRole id userId roleId → (∀ r ∈ db.rolesWanted id roleIds, r.id ≠ roleId) →
        ¬db.DeniesAdministrator c.id roleId
  | .setOverwrite id roleId body => ∀ c user, db.conversations.find id = some c →
    db.isBot user = true → db.HoldsRole c.scope user roleId →
      ((parseMasked body.allow : ℕ).testBit 62 = true → db.AllowsAdministrator id roleId) ∧
      (db.DeniesAdministrator id roleId → (parseMasked body.deny : ℕ).testBit 62 = true)
  | .deleteOverwrite id roleId => ∀ c user, db.conversations.find id = some c →
    db.isBot user = true → db.HoldsRole c.scope user roleId → ¬db.DeniesAdministrator id roleId
  | .patchMember id userId body => db.isBot userId = true →
    ∀ target, db.memberRow id userId = some target →
      (∀ deny, body.deny = some deny → (target.deny : ℕ).testBit 62 = true →
        deny.testBit 62 = true) ∧
      ∀ role, body.role = some role → target.role = .restricted → role ≠ .restricted →
        ∀ c, db.conversations.find c.id = some c → c.scope = id → ¬db.Grants c userId
  | .patchConversation id body => ∀ c base user a, body.basePermissions = some base →
    db.isBot user = true → Seen db id user c a →
    (base.getD (defaultConversationPermissions c.type)).testBit 62 = true →
      baseAdministers c = true ∨ a.role = .restricted ∨ a.role = .owner
  | .transferOwnership id userId => db.isBot userId = true →
    ∀ target, db.memberRow id userId = some target → target.leftAt = none → target.role = .owner
  | .joinInvite code => db.isBot actor = true →
    ∀ invite, db.invites.find code = some invite →
    ¬db.IsActiveMember invite.conversationId actor →
      (∀ row, db.memberRow invite.conversationId actor = some row → row.role ≠ .owner) ∧
      ∀ c, db.conversations.find c.id = some c → c.scope = invite.conversationId →
        ¬db.Grants c actor ∧
        (∀ row, db.memberRow c.id actor = some row → (row.allow : ℕ).testBit 62 = false) ∧
        (∀ row, db.memberRow c.scope actor = some row → (row.allow : ℕ).testBit 62 = false) ∧
        ∀ role, db.inviteRole invite = some role → (role.permissions : ℕ).testBit 62 = false ∧
          ¬db.AllowsAdministrator c.id role.id
  | .removeMember _ _ => True
  | .banMember _ _ _ _ => True

end Database

/-! ### What one bot's composition reads -/

lemma testBit_rank_administrator {db : Database} {c : Conversation} {user : Uuid}
    {a : ConversationMember} : (db.permissionInput c user a).rankMask.testBit 62 = true ↔
      a.role = .owner ∨ Database.baseAdministers c = true ∨
        (db.rolePermissions c user).testBit 62 = true := by
  have hladder : a.role ≠ .owner → (rolePermissions a.role).testBit 62 = false := by
    cases a.role <;> decide
  rw [testBit_rankMask]
  by_cases ho : a.role = .owner
  · simp [ho, Database.permissionInput, testBit_allPermissions_administrator]
  · simp [ho, Database.permissionInput, hladder ho, Database.baseAdministers]

structure NoMore (db db' : Database) (c c' : Conversation) (user : Uuid)
    (a a' : ConversationMember) : Prop where
  id : c'.id = c.id
  parent : c'.parentId = c.parentId
  owner : a'.role = .owner → a.role = .owner
  base : a'.role ≠ .restricted → Database.baseAdministers c' = true →
    Database.baseAdministers c = true ∨ a.role = .owner
  permissions : (db'.rolePermissions c' user).testBit 62 = true →
    (db.rolePermissions c user).testBit 62 = true
  roleAllow : (db'.roleAllow c' user).testBit 62 = true → (db.roleAllow c user).testBit 62 = true
  roleDeny : (db.roleDeny c user).testBit 62 = true → (db'.roleDeny c' user).testBit 62 = true
  ownAllow : ∀ m', db'.memberRow c.id user = some m' → (m'.allow : ℕ).testBit 62 = true →
    ∃ m, db.memberRow c.id user = some m ∧ (m.allow : ℕ).testBit 62 = true
  ownDeny : ∀ m, db.memberRow c.id user = some m → (m.deny : ℕ).testBit 62 = true →
    ∃ m', db'.memberRow c.id user = some m' ∧ (m'.deny : ℕ).testBit 62 = true
  allow : (a'.allow : ℕ).testBit 62 = true → (a.allow : ℕ).testBit 62 = true
  deny : (a.deny : ℕ).testBit 62 = true → (a'.deny : ℕ).testBit 62 = true
  released : a.role = .restricted → a'.role ≠ .restricted → ¬db'.Grants c' user

lemma testBit_own {row : Option ConversationMember} {column : ConversationMember → Mask} {i : ℕ} :
    (row.elim 0 fun m => (column m : ℕ)).testBit i = true ↔
      ∃ m, row = some m ∧ (column m : ℕ).testBit i = true := by
  cases row <;> simp

lemma NoMore.administrator {db db' : Database} {c c' : Conversation} {user : Uuid}
    {a a' : ConversationMember} {clock : Time} (h : NoMore db db' c c' user a a')
    (hnew : (effectivePermissions (db'.permissionInput c' user a') clock).testBit 62 = true) :
    (effectivePermissions (db.permissionInput c user a) clock).testBit 62 = true := by
  rw [testBit_administrator, testBit_rank_administrator] at hnew ⊢
  simp only [Database.permissionInput, Option.getD_some, Nat.testBit_or, Bool.or_eq_false_iff,
    Bool.or_eq_true, testBit_own, h.id, h.parent] at hnew ⊢
  obtain ⟨⟨howndeny, hdeny⟩, hgrant⟩ := hnew
  have hparent : ∀ x y : ℕ, (x.testBit 62 = true → y.testBit 62 = true) →
      (if c.parentId.isSome then x else 0).testBit 62 = true →
        (if c.parentId.isSome then y else 0).testBit 62 = true := by
    intro x y hxy hx
    split_ifs at hx ⊢
    · exact hxy hx
    · exact hx
  refine ⟨⟨?_, ?_⟩, ?_⟩
  · by_contra hd
    rw [Bool.not_eq_false, testBit_own] at hd
    obtain ⟨m, hm, hbit⟩ := hd
    exact absurd (testBit_own.mpr (h.ownDeny m hm hbit)) (by simp [howndeny])
  · by_contra hd
    rw [Bool.not_eq_false] at hd
    exact absurd (hparent _ _ h.deny hd) (by simp [hdeny])
  · rcases hgrant with (⟨m', hm', hbit⟩ | hallow) | ⟨hoff, hgrant⟩
    · exact Or.inl (Or.inl (h.ownAllow m' hm' hbit))
    · exact Or.inl (Or.inr (hparent _ _ h.allow hallow))
    · right
      -- whoever is off the lowest rung with a grant was off it before
      have hoff' : a.role ≠ .restricted := by
        intro hr
        refine h.released hr hoff ?_
        rcases hgrant with hra | ⟨ho | hb | hp, -⟩
        · exact Or.inr (Or.inr hra)
        · rw [h.owner ho] at hr
          cases hr
        · exact Or.inl hb
        · exact Or.inr (Or.inl hp)
      refine ⟨hoff', ?_⟩
      rcases hgrant with hra | ⟨hrank, hrd⟩
      · exact Or.inl (h.roleAllow hra)
      · refine Or.inr ⟨?_, ?_⟩
        · rcases hrank with ho | hb | hp
          · exact Or.inl (h.owner ho)
          · exact (h.base hoff hb).elim (fun h => Or.inr (Or.inl h)) Or.inl
          · exact Or.inr (Or.inr (h.permissions hp))
        · by_contra hd
          exact absurd (h.roleDeny (by simpa using hd)) (by simp [hrd])

lemma noBotAdministers_of {db db' : Database} (h : NoBotAdministers db)
    (hu : db'.users = db.users)
    (hmore : ∀ id user c' a', db.isBot user = true → Seen db' id user c' a' →
      ∃ c a, Seen db id user c a ∧ NoMore db db' c c' user a a') : NoBotAdministers db' := by
  intro user id clock perms hbot hperms
  have hbot' : db.isBot user = true := by simpa only [Database.isBot, hu] using hbot
  obtain ⟨c', a', hseen', rfl⟩ := memberPermissions_eq_some.mp hperms
  obtain ⟨c, a, hseen, hno⟩ := hmore id user c' a' hbot' hseen'
  by_contra hgot
  have hhad := hno.administrator (Bool.not_eq_false _ ▸ hgot)
  rw [h user id clock _ hbot' (memberPermissions_eq_some.mpr ⟨c, a, hseen, rfl⟩)] at hhad
  cases hhad

lemma noBotAdministers_of_roles {db db' : Database} (h : NoBotAdministers db)
    (hu : db'.users = db.users) (hc : db'.conversations = db.conversations)
    (hm : db'.conversationMembers = db.conversationMembers)
    (hroles : ∀ c user, db.conversations.find c.id = some c → db.isBot user = true →
      ((db'.rolePermissions c user).testBit 62 = true →
        (db.rolePermissions c user).testBit 62 = true) ∧
      ((db'.roleAllow c user).testBit 62 = true → (db.roleAllow c user).testBit 62 = true) ∧
      ((db.roleDeny c user).testBit 62 = true → (db'.roleDeny c user).testBit 62 = true)) :
    NoBotAdministers db' := by
  refine noBotAdministers_of h hu fun id user c a hbot hseen' => ?_
  have hseen : Seen db id user c a :=
    ⟨hc ▸ hseen'.found, hseen'.live, Database.authority_congr hm ▸ hseen'.authority, hseen'.active⟩
  have hid : c.id = id := KeyedTable.find_key hseen.found
  obtain ⟨hpermissions, hallow, hdeny⟩ := hroles c user (hid ▸ hseen.found) hbot
  have hrow : db'.memberRow c.id user = db.memberRow c.id user := by
    simp only [Database.memberRow, hm]
  exact ⟨c, a, hseen, {
    id := rfl
    parent := rfl
    owner := fun h => h
    base := fun _ => Or.inl
    permissions := hpermissions
    roleAllow := hallow
    roleDeny := hdeny
    ownAllow := fun m hm' hbit => ⟨m, hrow ▸ hm', hbit⟩
    ownDeny := fun m hm' hbit => ⟨m, hrow ▸ hm', hbit⟩
    allow := fun h => h
    deny := fun h => h
    released := fun hr hoff => absurd hr hoff }⟩

structure Harmless (db : Database) (m m' : ConversationMember) : Prop where
  allow : (m'.allow : ℕ).testBit 62 = true → (m.allow : ℕ).testBit 62 = true
  deny : (m.deny : ℕ).testBit 62 = true → (m'.deny : ℕ).testBit 62 = true
  active : m'.leftAt = none → m.leftAt = none
  owner : m'.leftAt = none → m'.role = .owner → m.role = .owner
  released : m'.leftAt = none → m.role = .restricted → m'.role ≠ .restricted →
    ∀ c, db.conversations.find c.id = some c → c.scope = m.conversationId →
      ¬db.Grants c m.userId

lemma Harmless.refl (db : Database) (m : ConversationMember) : Harmless db m m :=
  ⟨fun h => h, fun h => h, fun h => h, fun _ h => h, fun _ hr hoff => absurd hr hoff⟩

lemma noBotAdministers_of_rows {db db' : Database} (h : NoBotAdministers db)
    (hu : db'.users = db.users) (hroles : db'.conversationRoles = db.conversationRoles)
    (hmr : db'.memberRoles = db.memberRoles)
    (ho : db'.conversationRoleOverwrites = db.conversationRoleOverwrites)
    (hc : ∀ k c', db'.conversations.find k = some c' → ∃ c, db.conversations.find k = some c ∧
      c'.id = c.id ∧ c'.parentId = c.parentId ∧ c'.deletedAt = c.deletedAt ∧
      Database.baseAdministers c' = Database.baseAdministers c)
    (g : ConversationMember → ConversationMember)
    (hrow : ∀ k user, db'.memberRow k user = (db.memberRow k user).map g)
    (hg : ∀ k user m, db.isBot user = true → db.memberRow k user = some m → Harmless db m (g m)) :
    NoBotAdministers db' := by
  refine noBotAdministers_of h hu fun k user c' a' hbot hseen' => ?_
  obtain ⟨c, hfound, hid, hparent, hdeleted, hbase⟩ := hc k c' hseen'.found
  have hscope : c'.scope = c.scope := by simp only [Conversation.scope, hid, hparent]
  have hauth' := hseen'.authority
  rw [Database.authority_eq_memberRow, hscope, hrow, Option.map_eq_some_iff] at hauth'
  obtain ⟨a, hauth, rfl⟩ := hauth'
  have ha := hg _ _ a hbot hauth
  have hleft := hseen'.active
  have hpermissions : db'.rolePermissions c' user = db.rolePermissions c user := by
    rw [Database.rolePermissions_congr hroles hmr, Database.rolePermissions,
      Database.rolePermissions, hscope]
  have hcolumn : ∀ column, db'.roleOverwrites column c' user = db.roleOverwrites column c user := by
    intro column
    rw [Database.roleOverwrites_congr ho hmr, Database.roleOverwrites, Database.roleOverwrites,
      hscope, hid]
  obtain ⟨hkey, hkuser⟩ := Database.memberRow_key hauth
  refine ⟨c, a, ⟨hfound, hdeleted ▸ hseen'.live, Database.authority_eq_memberRow.trans hauth,
    ha.active hleft⟩, {
      id := hid
      parent := hparent
      owner := ha.owner hleft
      base := fun _ hb => Or.inl (hbase ▸ hb)
      permissions := by rw [hpermissions]; exact fun h => h
      roleAllow := by rw [Database.roleAllow, hcolumn]; exact fun h => h
      roleDeny := by rw [Database.roleDeny, Database.roleDeny, hcolumn]; exact fun h => h
      ownAllow := ?_
      ownDeny := ?_
      allow := ha.allow
      deny := ha.deny
      released := ?_ }⟩
  · intro m' hm' hbit
    rw [hrow, Option.map_eq_some_iff] at hm'
    obtain ⟨m, hm, rfl⟩ := hm'
    exact ⟨m, hm, (hg _ _ m hbot hm).allow hbit⟩
  · intro m hm hbit
    exact ⟨g m, by rw [hrow, hm, Option.map_some], (hg _ _ m hbot hm).deny hbit⟩
  · intro hr hoff hgrants
    have hcid : c.id = k := KeyedTable.find_key hfound
    refine ha.released hleft hr hoff c (hcid ▸ hfound) hkey.symm ?_
    rw [hkuser]
    rwa [Database.Grants, hbase, hpermissions, Database.roleAllow, hcolumn] at hgrants

/-! ### Route by route -/

namespace Database
variable {db db' : Database} {clock : Time} {id userId roleId actor : Uuid}

lemma createRole_bots {body : CreateRoleBody} {newId : Uuid} (hinv : NoBotAdministers db)
    (h : db.createRole actor id body newId clock = .ok db') : NoBotAdministers db' := by
  obtain ⟨-, -, -, -, hnew, hroles, hc, hm, hmr, ho, hu⟩ := createRole_ok h
  refine noBotAdministers_of_roles hinv hu hc hm fun c user _ _ => ⟨?_, ?_, ?_⟩
  · rw [rolePermissions_createRole hnew rfl hroles hmr]
    exact fun h => h
  · rw [roleAllow, roleOverwrites_congr ho hmr]
    exact fun h => h
  · rw [roleDeny, roleDeny, roleOverwrites_congr ho hmr]
    exact fun h => h

lemma patchRole_bots {body : UpdateRoleBody} (hinv : NoBotAdministers db)
    (h : db.patchRole actor id roleId body clock = .ok db')
    (hspares : db.SparesBots actor (.patchRole id roleId body)) : NoBotAdministers db' := by
  obtain ⟨-, existing, -, -, hexisting, -, hroles, hc, hm, hmr, ho, hu⟩ := patchRole_ok h
  refine noBotAdministers_of_roles hinv hu hc hm fun c user _ hbot => ⟨?_, ?_, ?_⟩
  · intro hy
    by_contra hn
    obtain ⟨heldId, r', hholds, hfind', hbit, hold⟩ :=
      rolePermissions_gain (fun _ => (holdsRole_congr hmr).mp) hy (Bool.eq_false_iff.mpr hn)
    obtain ⟨r, hfind⟩ := hholds.exists
    have hr := hold r hfind
    have hne : (r'.permissions : ℕ).testBit 62 ≠ (r.permissions : ℕ).testBit 62 := by
      simp [hbit, hr]
    obtain ⟨rfl, p, hp, he⟩ := permissions_patched hroles hfind hfind' hne
    have hp62 : p.testBit 62 = true := by
      simpa [hbit, testBit_allPermissions_administrator] using he.symm
    exact hspares r p c.scope user hfind hp hp62 hr hbot hholds
  · rw [roleAllow, roleOverwrites_congr ho hmr]
    exact fun h => h
  · rw [roleDeny, roleDeny, roleOverwrites_congr ho hmr]
    exact fun h => h

lemma deleteRole_bots (hinv : NoBotAdministers db)
    (h : db.deleteRole actor id roleId clock = .ok db')
    (hspares : db.SparesBots actor (.deleteRole id roleId)) : NoBotAdministers db' := by
  obtain ⟨-, -, -, -, -, hroles, hmr, ho, hc, hm, hu⟩ := deleteRole_ok h
  have hholds : ∀ {scope user heldId : Uuid}, db'.HoldsRole scope user heldId ↔
      db.HoldsRole scope user heldId ∧ heldId ≠ roleId := by
    intro scope user heldId
    rw [HoldsRole, hmr, KeyedTable.find_delete, HoldsRole]
    cases hf : db.memberRoles.find (scope, user, heldId) with
    | none => simp
    | some mr =>
      have hid : mr.roleId = heldId := congrArg (fun k => k.2.2) (KeyedTable.find_key hf)
      simp [hid]
  refine noBotAdministers_of_roles hinv hu hc hm fun c user hfound hbot => ⟨?_, ?_, ?_⟩
  · intro hy
    by_contra hn
    obtain ⟨heldId, r', -, hfind', hbit, hold⟩ :=
      rolePermissions_gain (fun _ h => (hholds.mp h).1) hy (Bool.eq_false_iff.mpr hn)
    rw [hroles, KeyedTable.find_delete] at hfind'
    rw [hold r' (Option.filter_eq_some_iff.mp hfind').1] at hbit
    cases hbit
  · intro hy
    by_contra hn
    obtain ⟨heldId, o', -, hfind', hbit, hold⟩ :=
      roleOverwrites_gain (fun _ h => (hholds.mp h).1) hy (Bool.eq_false_iff.mpr hn)
    rw [ho, KeyedTable.find_delete] at hfind'
    rw [hold o' (Option.filter_eq_some_iff.mp hfind').1] at hbit
    cases hbit
  · intro hy
    obtain ⟨heldId, o, hheld, hfind, hbit⟩ := testBit_roleOverwrites.mp hy
    have hne : heldId ≠ roleId := by
      rintro rfl
      exact hspares c user hfound hbot hheld ⟨o, hfind, hbit⟩
    have horole : o.roleId = heldId := congrArg Prod.snd (KeyedTable.find_key hfind)
    refine testBit_roleOverwrites.mpr ⟨heldId, o, hholds.mpr ⟨hheld, hne⟩, ?_, hbit⟩
    rw [ho, KeyedTable.find_delete, hfind, Option.filter_some, horole]
    simp [hne]

lemma setMemberRoles_bots {roleIds : List Uuid} (hinv : NoBotAdministers db)
    (h : db.setMemberRoles actor id userId roleIds clock = .ok db')
    (hspares : db.SparesBots actor (.setMemberRoles id userId roleIds)) : NoBotAdministers db' := by
  obtain ⟨-, -, hguard, -, hmr, hc, hm, hroles, ho, hu⟩ := setMemberRoles_ok h
  refine noBotAdministers_of_roles hinv hu hc hm fun c user hfound hbot => ?_
  by_cases hs : c.scope = id ∧ user = userId
  · obtain ⟨hscope, rfl⟩ := hs
    have hholds : ∀ heldId, db'.HoldsRole c.scope user heldId ↔
        ∃ r ∈ db.rolesWanted id roleIds, r.id = heldId := by
      intro heldId
      rw [holdsRole_replaceRoles hmr, if_pos ⟨hscope, rfl⟩]
    obtain ⟨hallow, hdeny⟩ := hspares hbot c hfound hscope
    refine ⟨?_, ?_, ?_⟩
    · -- the guarded door
      intro hy
      rw [rolePermissions_replaced hmr hroles hscope] at hy
      simp [hy, hbot] at hguard
    · intro hy
      obtain ⟨heldId, o, hheld, hfind, hbit⟩ := testBit_roleOverwrites.mp hy
      obtain ⟨r, hr, rfl⟩ := (hholds heldId).mp hheld
      rw [ho] at hfind
      refine testBit_roleOverwrites.mpr ⟨r.id, o, ?_, hfind, hbit⟩
      by_contra hnot
      exact hallow r hr (hscope ▸ hnot) ⟨o, hfind, hbit⟩
    · intro hy
      obtain ⟨heldId, o, hheld, hfind, hbit⟩ := testBit_roleOverwrites.mp hy
      refine testBit_roleOverwrites.mpr ⟨heldId, o, (hholds heldId).mpr ?_, ho ▸ hfind, hbit⟩
      by_contra hnot
      simp only [not_exists, not_and] at hnot
      exact hdeny heldId (hscope ▸ hheld) hnot ⟨o, hfind, hbit⟩
  · rw [rolePermissions_untouched hmr hroles hs, roleAllow, roleDeny, roleDeny,
      roleOverwrites_untouched hmr ho hs, roleOverwrites_untouched hmr ho hs]
    exact ⟨fun h => h, fun h => h, fun h => h⟩

lemma setOverwrite_bots {body : OverwriteBody} (hinv : NoBotAdministers db)
    (h : db.setOverwrite actor id roleId body clock = .ok db')
    (hspares : db.SparesBots actor (.setOverwrite id roleId body)) : NoBotAdministers db' := by
  obtain ⟨-, -, -, -, -, hover, hc, hm, hroles, hmr, hu⟩ := setOverwrite_ok h
  refine noBotAdministers_of_roles hinv hu hc hm fun c user hfound hbot => ⟨?_, ?_, ?_⟩
  · rw [rolePermissions_congr hroles hmr]
    exact fun h => h
  · intro hy
    by_contra hn
    obtain ⟨heldId, o', hheld, hfind', hbit, hold⟩ :=
      roleOverwrites_gain (fun _ => (holdsRole_congr hmr).mp) hy (Bool.eq_false_iff.mpr hn)
    rw [hover] at hfind'
    split_ifs at hfind' with hk
    · obtain ⟨rfl, rfl⟩ := Prod.mk.inj hk
      obtain rfl := Option.some.inj hfind'
      obtain ⟨o, hfind, hallow⟩ := (hspares c user hfound hbot hheld).1 hbit
      rw [hold o hfind] at hallow
      cases hallow
    · rw [hold o' hfind'] at hbit
      cases hbit
  · intro hy
    by_contra hn
    obtain ⟨heldId, o, hheld, hfind, hbit, hlost⟩ :=
      roleOverwrites_gain (fun _ => (holdsRole_congr hmr).mpr) hy (Bool.eq_false_iff.mpr hn)
    rw [holdsRole_congr hmr] at hheld
    by_cases hk : (c.id, heldId) = (id, roleId)
    · obtain ⟨rfl, rfl⟩ := Prod.mk.inj hk
      have hdeny := (hspares c user hfound hbot hheld).2 ⟨o, hfind, hbit⟩
      rw [hlost _ ((hover _).trans (if_pos rfl))] at hdeny
      cases hdeny
    · rw [hlost o ((hover _).trans ((if_neg hk).trans hfind))] at hbit
      cases hbit

lemma deleteOverwrite_bots (hinv : NoBotAdministers db)
    (h : db.deleteOverwrite actor id roleId clock = .ok db')
    (hspares : db.SparesBots actor (.deleteOverwrite id roleId)) : NoBotAdministers db' := by
  obtain ⟨-, -, -, hover, hc, hm, hroles, hmr, hu⟩ := deleteOverwrite_ok h
  refine noBotAdministers_of_roles hinv hu hc hm fun c user hfound hbot => ⟨?_, ?_, ?_⟩
  · rw [rolePermissions_congr hroles hmr]
    exact fun h => h
  · intro hy
    by_contra hn
    obtain ⟨heldId, o', -, hfind', hbit, hold⟩ :=
      roleOverwrites_gain (fun _ => (holdsRole_congr hmr).mp) hy (Bool.eq_false_iff.mpr hn)
    rw [hover] at hfind'
    split_ifs at hfind'
    rw [hold o' hfind'] at hbit
    cases hbit
  · intro hy
    by_contra hn
    obtain ⟨heldId, o, hheld, hfind, hbit, hlost⟩ :=
      roleOverwrites_gain (fun _ => (holdsRole_congr hmr).mpr) hy (Bool.eq_false_iff.mpr hn)
    rw [holdsRole_congr hmr] at hheld
    by_cases hk : (c.id, heldId) = (id, roleId)
    · obtain ⟨rfl, rfl⟩ := Prod.mk.inj hk
      exact hspares c user hfound hbot hheld ⟨o, hfind, hbit⟩
    · rw [hlost o ((hover _).trans ((if_neg hk).trans hfind))] at hbit
      cases hbit

lemma patchMember_bots {body : UpdateMemberBody} (hinv : NoBotAdministers db)
    (h : db.patchMember actor id userId body clock = .ok db')
    (hspares : db.SparesBots actor (.patchMember id userId body)) : NoBotAdministers db' := by
  obtain ⟨ctx, target, allow, deny, -, htarget, -, -, hrole, hguard, hallow, hdeny, hm, hc, hroles,
    hmr, ho, hu⟩ := patchMember_ok h
  refine noBotAdministers_of_rows hinv hu hroles hmr ho
    (fun k c hfound => ⟨c, hc ▸ hfound, rfl, rfl, rfl, rfl⟩)
    (fun m => if m.key = (id, userId) then patchedRow body allow deny m else m) ?_ ?_
  · intro k user
    simp only [memberRow, hm, KeyedTable.find_update, decide_eq_true_eq]
  · intro k user m hbot hrow
    split_ifs with hk
    · obtain ⟨hmid, hmuser⟩ := Prod.mk.inj hk
      obtain ⟨rfl, rfl⟩ := memberRow_key hrow
      subst hmid hmuser
      obtain rfl : m = target := Option.some.inj (hrow.symm.trans htarget)
      obtain ⟨hlift, hmove⟩ := hspares hbot m htarget
      refine ⟨?_, ?_, fun h => h, ?_, ?_⟩
      · -- the guarded door
        intro hbit
        have hbit : (allow : ℕ).testBit 62 = true := hbit
        cases hw : body.allow with
        | none => rwa [hallow, hw, Option.getD_none] at hbit
        | some wanted =>
          rw [hallow, hw, Option.getD_some] at hbit
          have hnot := (hguard wanted hw).2
          simp [hbit, hbot] at hnot
      · intro hbit
        change (deny : ℕ).testBit 62 = true
        cases hd : body.deny with
        | none => rwa [hdeny, hd, Option.getD_none]
        | some d =>
          rw [hdeny, hd, Option.getD_some]
          exact hlift d hd hbit
      · intro _ howner
        cases hr : body.role with
        | none => simpa [patchedRow, hr] using howner
        | some role => exact absurd (by simpa [patchedRow, hr] using howner) (hrole role hr).2
      · intro _ hrestricted hoff c hfound hscope
        cases hr : body.role with
        | none => exact absurd hrestricted (by simpa [patchedRow, hr] using hoff)
        | some role =>
          exact hmove role hr hrestricted (by simpa [patchedRow, hr] using hoff) c hfound hscope
    · exact Harmless.refl db m

lemma patchConversation_bots {body : UpdateConversationBody} (hinv : NoBotAdministers db)
    (h : db.patchConversation actor id body clock = .ok db')
    (hspares : db.SparesBots actor (.patchConversation id body)) : NoBotAdministers db' := by
  obtain ⟨ctx, base, hctx, hkept, hset, hc, hm, hroles, hmr, ho, hu⟩ := patchConversation_ok h
  refine noBotAdministers_of hinv hu fun k user c' a hbot hseen' => ?_
  have hfound := hseen'.found
  rw [hc, KeyedTable.find_update, Option.map_eq_some_iff] at hfound
  obtain ⟨c, hfound, hc'⟩ := hfound
  have hsame : c'.id = c.id ∧ c'.parentId = c.parentId ∧ c'.deletedAt = c.deletedAt := by
    subst hc'
    split_ifs <;> exact ⟨rfl, rfl, rfl⟩
  obtain ⟨hid, hparent, hdeleted⟩ := hsame
  have hscope : c'.scope = c.scope := by simp only [Conversation.scope, hid, hparent]
  have hauth := hseen'.authority
  rw [authority_congr hm, authority_eq_memberRow, hscope, ← authority_eq_memberRow] at hauth
  have hseen : Seen db k user c a := ⟨hfound, hdeleted ▸ hseen'.live, hauth, hseen'.active⟩
  have hpermissions : db'.rolePermissions c' user = db.rolePermissions c user := by
    rw [rolePermissions_congr hroles hmr, rolePermissions, rolePermissions, hscope]
  have hcolumn : ∀ column, db'.roleOverwrites column c' user = db.roleOverwrites column c user := by
    intro column
    rw [roleOverwrites_congr ho hmr, roleOverwrites, roleOverwrites, hscope, hid]
  have hrow : db'.memberRow c.id user = db.memberRow c.id user := by simp only [memberRow, hm]
  refine ⟨c, a, hseen, {
    id := hid
    parent := hparent
    owner := fun h => h
    base := ?_
    permissions := by rw [hpermissions]; exact fun h => h
    roleAllow := by rw [roleAllow, hcolumn]; exact fun h => h
    roleDeny := by rw [roleDeny, roleDeny, hcolumn]; exact fun h => h
    ownAllow := fun m hm' hbit => ⟨m, hrow ▸ hm', hbit⟩
    ownDeny := fun m hm' hbit => ⟨m, hrow ▸ hm', hbit⟩
    allow := fun h => h
    deny := fun h => h
    released := fun hr hoff => absurd hr hoff }⟩
  intro hoff hb
  by_cases hk : c.id = id
  · rw [if_pos (by simpa using hk)] at hc'
    subst hc'
    cases hbody : body.basePermissions with
    | none =>
      have hconv : ctx.conversation = c := by
        obtain rfl : k = id := (KeyedTable.find_key hfound).symm.trans hk
        exact hseen.conversation hctx
      simp only [baseAdministers, patchedConversation, hkept hbody, hconv] at hb ⊢
      exact Or.inl hb
    | some b =>
      obtain rfl : k = id := (KeyedTable.find_key hfound).symm.trans hk
      have hb' : (b.getD (defaultConversationPermissions c.type)).testBit 62 = true := by
        rw [← hset b hbody]
        exact hb
      rcases hspares c b user a hbody hbot hseen hb' with h | h | h
      · exact Or.inl h
      · exact absurd h hoff
      · exact Or.inr h
  · rw [if_neg (by simpa using hk)] at hc'
    subst hc'
    exact Or.inl hb

lemma transferOwnership_bots (hinv : NoBotAdministers db)
    (h : db.transferOwnership actor id userId clock = .ok db')
    (hspares : db.SparesBots actor (.transferOwnership id userId)) : NoBotAdministers db' := by
  obtain ⟨ctx, hctx, howner, hm, hc, hroles, hmr, ho, hu⟩ := transferOwnership_ok h
  refine noBotAdministers_of_rows hinv hu hroles hmr ho ?_
    ((fun m => if m.key = (id, userId) then m.withRole .owner else m) ∘
      fun m => if m.key = (id, actor) then m.withRole .admin else m) ?_ ?_
  · intro k c' hfound
    rw [hc, KeyedTable.find_update, Option.map_eq_some_iff] at hfound
    obtain ⟨c, hfound, rfl⟩ := hfound
    refine ⟨c, hfound, ?_⟩
    split_ifs <;> exact ⟨rfl, rfl, rfl, rfl⟩
  · intro k user
    simp only [memberRow, hm, KeyedTable.find_update, decide_eq_true_eq, Option.map_map]
  · intro k user m hbot hrow
    obtain ⟨rfl, rfl⟩ := memberRow_key hrow
    -- stepping down: the actor's own row, where it is the authority, is the owner's
    have hdown : Harmless db m (if m.key = (id, actor) then m.withRole .admin else m) := by
      split_ifs with hk
      · refine ⟨fun h => h, fun h => h, fun h => h, fun _ h => ?_, ?_⟩
        · cases h
        · intro _ hr _ c hfound hscope
          obtain ⟨hmid, rfl⟩ := Prod.mk.inj hk
          have hroot := scope_of_root hfound (hscope.trans hmid)
          obtain ⟨c₀, a₀, hc₀, -, ha₀, -, -, hmember, -⟩ := loadMemberContext_eq_some.mp hctx
          rw [authority_eq_memberRow, hroot c₀ hc₀, ← hmid, hrow] at ha₀
          obtain rfl := Option.some.inj ha₀
          rw [hmember] at howner
          rw [howner] at hr
          cases hr
      · exact Harmless.refl db m
    have hkey : (if m.key = (id, actor) then m.withRole .admin else m).key = m.key := by
      split_ifs <;> rfl
    simp only [Function.comp_apply, hkey]
    by_cases hup : m.key = (id, userId)
    · obtain ⟨rfl, rfl⟩ := Prod.mk.inj hup
      have howned := hspares hbot m hrow
      rw [if_pos hup]
      split_ifs <;> exact ⟨fun h => h, fun h => h, fun h => h, fun hleft _ => howned hleft,
        fun hleft hr => by rw [howned hleft] at hr; cases hr⟩
    · rwa [if_neg hup]

lemma removed_bots (hinv : NoBotAdministers db) (hu : db'.users = db.users)
    (hc : db'.conversations = db.conversations)
    (hroles : db'.conversationRoles = db.conversationRoles)
    (hmr : db'.memberRoles = db.memberRoles)
    (ho : db'.conversationRoleOverwrites = db.conversationRoleOverwrites)
    (hm : db'.conversationMembers = withLeft db id userId clock) : NoBotAdministers db' := by
  refine noBotAdministers_of_rows hinv hu hroles hmr ho
    (fun k c hfound => ⟨c, hc ▸ hfound, rfl, rfl, rfl, rfl⟩)
    (fun m => if m.key = (id, userId) ∧ m.leftAt = none then m.gone clock else m) ?_ ?_
  · intro k user
    simp only [memberRow, hm, withLeft, KeyedTable.find_update, decide_eq_true_eq]
  · intro k user m _ _
    split_ifs
    · have hgone : (m.gone clock).leftAt ≠ none := by simp [ConversationMember.gone]
      exact ⟨fun h => h, fun h => h, fun h => absurd h hgone, fun h => absurd h hgone,
        fun h => absurd h hgone⟩
    · exact Harmless.refl db m

lemma memberRow_rejoin {c : Conversation} (hm : db'.conversationMembers = db.rejoin c actor clock)
    (k user : Uuid) : db'.memberRow k user = if k = c.id ∧ user = actor
      then some (((db.memberRow k user).map ConversationMember.back).getD
        (.new c.id actor .member clock (historyFloor c.historyVisibility c.messageSeq)))
      else db.memberRow k user := by
  rw [memberRow, hm, rejoin, KeyedTable.find_upsert, memberRow]
  have hkey : (ConversationMember.new c.id actor .member clock
      (historyFloor c.historyVisibility c.messageSeq)).key = (k, user) ↔ k = c.id ∧ user = actor := by
    simp only [ConversationMember.key, ConversationMember.new, Prod.mk.injEq]
    exact ⟨fun h => ⟨h.1.symm, h.2.symm⟩, fun h => ⟨h.1.symm, h.2.symm⟩⟩
  simp only [hkey]

lemma rejoined {c : Conversation} {row : Option ConversationMember} {m' : ConversationMember}
    (h : some ((row.map ConversationMember.back).getD
      (.new c.id actor .member clock (historyFloor c.historyVisibility c.messageSeq))) = some m') :
    (∃ m, row = some m ∧ m' = m.back) ∨
      row = none ∧ m'.role = .member ∧ (m'.allow : ℕ) = 0 ∧ (m'.deny : ℕ) = 0 := by
  obtain rfl := Option.some.inj h
  cases row with
  | none => exact Or.inr ⟨rfl, rfl, rfl, rfl⟩
  | some m => exact Or.inl ⟨m, rfl, rfl⟩

lemma holdsRole_joined {invite : Invite} {c : Conversation} {scope user heldId : Uuid}
    (hmr : db'.memberRoles = (match db.inviteRole invite with
      | some role => db.memberRoles.insertIgnore ⟨c.id, actor, role.id, some invite.createdById⟩
      | none => db.memberRoles)) :
    db'.HoldsRole scope user heldId → db.HoldsRole scope user heldId ∨
      scope = c.id ∧ user = actor ∧ ∃ role, db.inviteRole invite = some role ∧ role.id = heldId := by
  intro h
  rw [HoldsRole, hmr] at h
  cases hr : db.inviteRole invite with
  | none =>
    rw [hr] at h
    exact Or.inl h
  | some role =>
    rw [hr, KeyedTable.find_insertIgnore] at h
    split_ifs at h with hk
    · simp only [RoleAssignment.key, Prod.mk.injEq] at hk
      exact Or.inr ⟨hk.1.symm, hk.2.1.symm, role, rfl, hk.2.2⟩
    · exact Or.inl h

lemma holdsRole_kept {invite : Invite} {c : Conversation} {scope user heldId : Uuid}
    (hmr : db'.memberRoles = (match db.inviteRole invite with
      | some role => db.memberRoles.insertIgnore ⟨c.id, actor, role.id, some invite.createdById⟩
      | none => db.memberRoles)) (h : db.HoldsRole scope user heldId) :
    db'.HoldsRole scope user heldId := by
  rw [HoldsRole, hmr]
  cases hr : db.inviteRole invite with
  | none => exact h
  | some role =>
    rw [KeyedTable.find_insertIgnore]
    split_ifs
    · rfl
    · exact h

lemma joinInvite_bots {code : String} (hinv : NoBotAdministers db)
    (h : db.joinInvite actor code clock = .ok db')
    (hspares : db.SparesBots actor (.joinInvite code)) : NoBotAdministers db' := by
  rcases joinInvite_ok h with rfl | ⟨invite, c, hinvite, hc₀, hnew, hm, hmr, hc, hroles, ho, hu⟩
  · exact hinv
  have hcid : c.id = invite.conversationId := KeyedTable.find_key hc₀
  intro user k time perms hbot hperms
  have hbot : db.isBot user = true := by simpa only [isBot, hu] using hbot
  obtain ⟨c₁, a', hseen', rfl⟩ := memberPermissions_eq_some.mp hperms
  have hfound : db.conversations.find c₁.id = some c₁ := by
    rw [KeyedTable.find_key hseen'.found, ← hc]
    exact hseen'.found
  have hauth' := hseen'.authority
  rw [authority_eq_memberRow, memberRow_rejoin hm] at hauth'
  by_cases hin : c₁.scope = c.id ∧ user = actor
  · -- the bot has just come in: nothing it finds here gives administrator
    rw [if_pos hin] at hauth'
    obtain ⟨hscope, rfl⟩ := hin
    obtain ⟨howner, hfree⟩ := hspares hbot invite hinvite (hcid ▸ hnew)
    obtain ⟨hgrants, hown, hauth, hrole⟩ := hfree c₁ hfound (hscope.trans hcid)
    simp only [Grants, not_or] at hgrants
    obtain ⟨hbase, hpermissions, hallow⟩ := hgrants
    rw [← Bool.not_eq_true, testBit_administrator, testBit_rank_administrator]
    simp only [permissionInput, Option.getD_some, Nat.testBit_or, Bool.or_eq_true, testBit_own]
    rintro ⟨-, (⟨m', hm', hbit⟩ | hbit) | ⟨-, hra | ⟨ho' | hb | hp, -⟩⟩⟩
    · rw [memberRow_rejoin hm] at hm'
      split_ifs at hm' with hk
      · rcases rejoined hm' with ⟨m, hrow, rfl⟩ | ⟨-, -, h0, -⟩
        · have := hown m hrow
          rw [show (m.back.allow : ℕ) = m.allow from rfl, this] at hbit
          cases hbit
        · simp [h0] at hbit
      · rw [hown m' hm'] at hbit
        cases hbit
    · split_ifs at hbit
      · rcases rejoined hauth' with ⟨m, hrow, rfl⟩ | ⟨-, -, h0, -⟩
        · have := hauth m hrow
          rw [show (m.back.allow : ℕ) = m.allow from rfl, this] at hbit
          cases hbit
        · simp [h0] at hbit
      · simp at hbit
    · obtain ⟨heldId, o, hheld, hfind, hbit⟩ := testBit_roleOverwrites.mp hra
      rw [ho] at hfind
      rcases holdsRole_joined hmr hheld with hheld | ⟨-, -, role, hr, rfl⟩
      · exact hallow (testBit_roleOverwrites.mpr ⟨heldId, o, hheld, hfind, hbit⟩)
      · exact (hrole role hr).2 ⟨o, hfind, hbit⟩
    · rcases rejoined hauth' with ⟨m, hrow, rfl⟩ | ⟨-, hmember, -⟩
      · exact howner m (hcid ▸ hscope ▸ hrow) ho'
      · rw [hmember] at ho'
        cases ho'
    · exact hbase hb
    · obtain ⟨heldId, r, hheld, hfind, hbit⟩ := testBit_rolePermissions.mp hp
      rw [hroles] at hfind
      rcases holdsRole_joined hmr hheld with hheld | ⟨-, -, role, hr, rfl⟩
      · exact hpermissions (testBit_rolePermissions.mpr ⟨heldId, r, hheld, hfind, hbit⟩)
      · obtain ⟨roleId, -, hin⟩ := Option.bind_eq_some_iff.mp hr
        have hrow := (roleIn_eq_some.mp hin).1
        obtain rfl : role.id = roleId := KeyedTable.find_key hrow
        obtain rfl : role = r := Option.some.inj (hrow.symm.trans hfind)
        rw [(hrole role hr).1] at hbit
        cases hbit
  · rw [if_neg hin] at hauth'
    have hseen : Seen db c₁.id user c₁ a' :=
      ⟨hfound, hseen'.live, authority_eq_memberRow.trans hauth', hseen'.active⟩
    have hholds : ∀ heldId, db'.HoldsRole c₁.scope user heldId → db.HoldsRole c₁.scope user heldId :=
      fun heldId h => (holdsRole_joined hmr h).resolve_right fun h => hin ⟨h.1, h.2.1⟩
    have hno : NoMore db db' c₁ c₁ user a' a' := {
      id := rfl
      parent := rfl
      owner := fun h => h
      base := fun _ => Or.inl
      permissions := fun hy => by
        obtain ⟨heldId, r, hheld, hfind, hbit⟩ := testBit_rolePermissions.mp hy
        exact testBit_rolePermissions.mpr ⟨heldId, r, hholds heldId hheld, hroles ▸ hfind, hbit⟩
      roleAllow := fun hy => by
        obtain ⟨heldId, o, hheld, hfind, hbit⟩ := testBit_roleOverwrites.mp hy
        exact testBit_roleOverwrites.mpr ⟨heldId, o, hholds heldId hheld, ho ▸ hfind, hbit⟩
      roleDeny := fun hy => by
        obtain ⟨heldId, o, hheld, hfind, hbit⟩ := testBit_roleOverwrites.mp hy
        exact testBit_roleOverwrites.mpr ⟨heldId, o, holdsRole_kept hmr hheld, ho ▸ hfind, hbit⟩
      ownAllow := fun m' hm' hbit => by
        rw [memberRow_rejoin hm] at hm'
        split_ifs at hm' with hk
        · rcases rejoined hm' with ⟨m, hrow, rfl⟩ | ⟨-, -, h0, -⟩
          · exact ⟨m, hrow, hbit⟩
          · simp [h0] at hbit
        · exact ⟨m', hm', hbit⟩
      ownDeny := fun m hrow hbit => by
        rw [memberRow_rejoin hm]
        split_ifs
        · exact ⟨m.back, by rw [hrow]; rfl, hbit⟩
        · exact ⟨m, hrow, hbit⟩
      allow := fun h => h
      deny := fun h => h
      released := fun hr hoff => absurd hr hoff }
    by_contra hgot
    have hhad := hno.administrator (Bool.not_eq_false _ ▸ hgot)
    rw [hinv user c₁.id time _ hbot (memberPermissions_eq_some.mpr ⟨c₁, a', hseen, rfl⟩)] at hhad
    cases hhad

end Database
def Request.SparesBots (db : Database) (r : Request) : Prop := db.SparesBots r.actor r.operation

lemma Request.served_attempt {db db' : Database} {x : Except AppError Database}
    (h : (attempt db x).1 = db') : x = .ok db' ∨ db' = db := by
  cases x with
  | error => exact Or.inr h.symm
  | ok => exact Or.inl (congrArg _ h)

lemma Request.noBotAdministers {db db' : Database} {r : Request} (hinv : NoBotAdministers db)
    (hspares : r.SparesBots db) (h : r.Served db db') : NoBotAdministers db' := by
  obtain ⟨actor, clock, op⟩ := r
  cases op with
  | createRole =>
    obtain h | rfl := served_attempt h
    · exact Database.createRole_bots hinv h
    · exact hinv
  | patchRole =>
    obtain h | rfl := served_attempt h
    · exact Database.patchRole_bots hinv h hspares
    · exact hinv
  | deleteRole =>
    obtain h | rfl := served_attempt h
    · exact Database.deleteRole_bots hinv h hspares
    · exact hinv
  | setMemberRoles =>
    obtain h | rfl := served_attempt h
    · exact Database.setMemberRoles_bots hinv h hspares
    · exact hinv
  | setOverwrite =>
    obtain h | rfl := served_attempt h
    · exact Database.setOverwrite_bots hinv h hspares
    · exact hinv
  | deleteOverwrite =>
    obtain h | rfl := served_attempt h
    · exact Database.deleteOverwrite_bots hinv h hspares
    · exact hinv
  | patchMember =>
    obtain h | rfl := served_attempt h
    · exact Database.patchMember_bots hinv h hspares
    · exact hinv
  | patchConversation =>
    obtain h | rfl := served_attempt h
    · exact Database.patchConversation_bots hinv h hspares
    · exact hinv
  | transferOwnership =>
    obtain h | rfl := served_attempt h
    · exact Database.transferOwnership_bots hinv h hspares
    · exact hinv
  | joinInvite =>
    obtain h | rfl := served_attempt h
    · exact Database.joinInvite_bots hinv h hspares
    · exact hinv
  | removeMember =>
    obtain h | rfl := served_attempt h
    · obtain ⟨-, -, -, rfl⟩ := Database.removeMember_ok h
      exact Database.removed_bots hinv rfl rfl rfl rfl rfl rfl
    · exact hinv
  | banMember id userId reason expiresAt =>
    -- a ban writes even where it fails
    cases hban : db.banMember actor id userId reason expiresAt clock with
    | mk db'' answer =>
      obtain rfl : db'' = db' := by
        rw [← h]
        simp only [run, hban]
      obtain ⟨hm | hm, hc, hroles, hmr, ho, hu, -⟩ := Database.banMember_spec hban
      · exact noBotAdministers_of_rows hinv hu hroles hmr ho
          (fun k c hfound => ⟨c, hc ▸ hfound, rfl, rfl, rfl, rfl⟩) (fun m => m)
          (fun k user => by simp only [Database.memberRow, hm, Option.map_id'])
          fun _ _ m _ _ => Harmless.refl db m
      · exact Database.removed_bots hinv hu hc hroles hmr ho hm

/-- In every run of served requests that all spare the bots, from a state in which no bot holds
administrator, none ever does. -/
theorem run_noBotAdministers {db db' : Database}
    (h : RunWhere (fun db r db' => Request.Served db r db') (fun db r => r.SparesBots db) db db')
    (h₀ : NoBotAdministers db) : NoBotAdministers db' :=
  h.invariant h₀ fun _ _ _ hinv hspares hserved => Request.noBotAdministers hinv hspares hserved

namespace Sample

lemma bot_eq {user : Uuid} (h : database.isBot user = true) : user = 13 := by
  cases hf : database.users.find user with
  | none => simp [Database.isBot, hf] at h
  | some u =>
    obtain ⟨hu, rfl⟩ := KeyedTable.find_eq_some.mp hf
    have hbot : u.isBot = true := by simpa [Database.isBot, hf] using h
    revert hbot
    fin_cases hu <;> decide

lemma noBotAdministers : NoBotAdministers database := by
  intro user id clock perms hbot hperms
  obtain rfl := bot_eq hbot
  obtain ⟨c, a, hseen, rfl⟩ := memberPermissions_eq_some.mp hperms
  have hc := (KeyedTable.find_eq_some.mp hseen.found).1
  have ha := hseen.authority
  rw [← Bool.not_eq_true, testBit_administrator]
  have hcases : c = conversation 1 .space none ∨ c = conversation 2 .channel (some 1) := by
    simpa [database] using hc
  rcases hcases with rfl | rfl
  · obtain rfl : ConversationMember.new 1 13 .member 0 0 = a := Option.some.inj ha
    decide
  · obtain rfl : ConversationMember.new 1 13 .member 0 0 = a := Option.some.inj ha
    decide

def hire : Request := ⟨10, 6, .setMemberRoles 1 13 [20]⟩

def hired : Database := (hire.run database).1

def promote : Request := ⟨10, 7, .setOverwrite 2 20 ⟨some Permission.administrator, none⟩⟩

end Sample

/-- Hiring the bot into a role without overwrites spares it. -/
theorem run_noBotAdministers_hired : NoBotAdministers Sample.hired := by
  refine run_noBotAdministers (RunWhere.tail (RunWhere.refl Sample.database) ?_
    (show Request.Served _ Sample.hire Sample.hired from rfl)) Sample.noBotAdministers
  intro _ c _ _
  refine ⟨fun r _ _ h => ?_, fun roleId _ _ h => ?_⟩ <;>
  · obtain ⟨o, ho, -⟩ := h
    cases ho

/-- The overwrite of a role asks nothing about who holds it. -/
theorem bot_becomes_administrator :
    NoBotAdministers Sample.database ∧ (Sample.hire.run Sample.database).2 = .ok () ∧
      (Sample.promote.run Sample.hired).2 = .ok () ∧
      ¬NoBotAdministers (Sample.promote.run Sample.hired).1 := by
  refine ⟨Sample.noBotAdministers, by decide, by decide, fun h => ?_⟩
  have hgot := h 13 2 8 _ (by decide) rfl
  revert hgot
  decide

end Yappy.Permissions
