import Yappy.PermissionAccepted

/-!
# Where a new permission can come from

The masks of the composition bit by bit, down to the rows they are aggregated from, and the
case split that every argument about a write begins with.
-/
namespace Yappy.Permissions

/-- A bit that a change of inputs gains, while the rung stays, is one that an input gained: by way
of the rank mask, because the rank mask gained administrator or lost it (which hides what names no
permission), by one of the masks above it, or because a mute ended. -/
theorem gain_cases {input input' : EffectivePermissionInput} {clock : Time} {i : ℕ}
    (hrole : input'.role = input.role)
    (hold : (effectivePermissions input clock).testBit i = false)
    (hnew : (effectivePermissions input' clock).testBit i = true) :
    (input'.rankMask.testBit 62 = false ∧ input'.rankMask.testBit i = true ∧
      input.rankMask.testBit i = false) ∨
    (input'.rankMask.testBit 62 = true ∧ input.rankMask.testBit 62 = false ∧
      allPermissions.testBit i = true) ∨
    (input.rankMask.testBit 62 = true ∧ input'.rankMask.testBit 62 = false ∧
      input.rankMask.testBit i = true ∧ allPermissions.testBit i = false) ∨
    ((input.roleDeny.getD 0).testBit i = true ∧ (input'.roleDeny.getD 0).testBit i = false) ∨
    ((input'.roleAllow.getD 0).testBit i = true ∧ (input.roleAllow.getD 0).testBit i = false) ∨
    ((input'.allow.getD 0).testBit i = true ∧ (input.allow.getD 0).testBit i = false) ∨
    ((input.deny.getD 0).testBit i = true ∧ (input'.deny.getD 0).testBit i = false) ∨
    (input.isMuted clock = true ∧ input'.isMuted clock = false ∧ silenced.testBit i = true) := by
  rw [effectivePermissions_eq_compose] at hold hnew
  have hraised := Tiers.raised_of_gain hold hnew
  simp only [Tiers.raised, Nat.testBit_or, testBit_andNot, Bool.or_eq_true, Bool.and_eq_true,
    Bool.not_eq_true'] at hraised
  unfold EffectivePermissionInput.tiers at hraised
  rw [hrole] at hraised
  by_cases hr : input.role = .restricted
  · simp only [hr, if_true, Nat.zero_testBit, Bool.false_eq_true, false_and, or_false] at hraised
    rcases hraised with ((h | h) | h)
    · exact absurd (h.1.symm.trans h.2) (by simp)
    · exact Or.inr (Or.inr (Or.inr (Or.inr (Or.inr (Or.inl h)))))
    · exact Or.inr (Or.inr (Or.inr (Or.inr (Or.inr (Or.inr (Or.inl h))))))
  · simp only [hr, if_false] at hraised
    rcases hraised with ((((h | h) | h) | h) | h) | h
    · by_cases hadmin' : input'.rankMask.testBit 62 = true
      · by_cases hadmin : input.rankMask.testBit 62 = true
        · rw [if_pos hadmin', if_pos hadmin] at h
          exact absurd (h.1.symm.trans h.2) (by simp)
        · rw [if_pos hadmin'] at h
          exact Or.inr (Or.inl ⟨hadmin', by simpa using hadmin, h.1⟩)
      · have hlost : input'.rankMask.testBit 62 = false := by simpa using hadmin'
        rw [if_neg hadmin'] at h
        by_cases hi : input.rankMask.testBit i = true
        · by_cases hadmin : input.rankMask.testBit 62 = true
          · rw [if_pos hadmin] at h
            exact Or.inr (Or.inr (Or.inl ⟨hadmin, hlost, hi, h.2⟩))
          · rw [if_neg hadmin, hi] at h
            cases h.2
        · exact Or.inl ⟨hlost, h.1, by simpa using hi⟩
    · exact Or.inr (Or.inr (Or.inr (Or.inl h)))
    · exact Or.inr (Or.inr (Or.inr (Or.inr (Or.inl h))))
    · exact Or.inr (Or.inr (Or.inr (Or.inr (Or.inr (Or.inl h)))))
    · exact Or.inr (Or.inr (Or.inr (Or.inr (Or.inr (Or.inr (Or.inl h))))))
    · right; right; right; right; right; right; right
      by_cases hm : input.isMuted clock = true
      · by_cases hm' : input'.isMuted clock = true
        · rw [if_pos hm, if_pos hm'] at h
          exact absurd (h.1.symm.trans h.2) (by simp)
        · rw [if_pos hm] at h
          exact ⟨hm, by simpa using hm', h.1⟩
      · rw [if_neg hm, Nat.zero_testBit] at h
        cases h.1

namespace Database
variable {db db' : Database}

def HoldsRole (db : Database) (scope userId roleId : Uuid) : Prop :=
  (db.memberRoles.find (scope, userId, roleId)).isSome

lemma holdsRole_iff {scope userId roleId : Uuid} : db.HoldsRole scope userId roleId ↔
    ∃ mr ∈ db.memberRoles.rows, mr.conversationId = scope ∧ mr.userId = userId ∧
      mr.roleId = roleId := by
  simp only [HoldsRole, Option.isSome_iff_exists, KeyedTable.find_eq_some, RoleAssignment.key,
    Prod.mk.injEq]

lemma testBit_rolePermissions {c : Conversation} {userId : Uuid} {i : ℕ} :
    (db.rolePermissions c userId).testBit i = true ↔
      ∃ roleId r, db.HoldsRole c.scope userId roleId ∧ db.conversationRoles.find roleId = some r ∧
        (r.permissions : ℕ).testBit i = true := by
  simp only [rolePermissions, testBit_bitOr, List.mem_flatMap, List.mem_filter, decide_eq_true_eq,
    List.mem_map, holdsRole_iff, KeyedTable.find_eq_some]
  constructor
  · rintro ⟨x, ⟨mr, ⟨hmr, hc, hu⟩, r, ⟨hr, hid⟩, rfl⟩, hx⟩
    exact ⟨mr.roleId, r, ⟨mr, hmr, hc, hu, rfl⟩, ⟨hr, hid⟩, hx⟩
  · rintro ⟨roleId, r, ⟨mr, hmr, hc, hu, rfl⟩, ⟨hr, hid⟩, hx⟩
    exact ⟨_, ⟨mr, ⟨hmr, hc, hu⟩, r, ⟨hr, hid⟩, rfl⟩, hx⟩

lemma testBit_roleOverwrites {column : RoleOverwrite → Mask} {c : Conversation} {userId : Uuid}
    {i : ℕ} : (db.roleOverwrites column c userId).testBit i = true ↔
      ∃ roleId o, db.HoldsRole c.scope userId roleId ∧
        db.conversationRoleOverwrites.find (c.id, roleId) = some o ∧
        (column o : ℕ).testBit i = true := by
  simp only [roleOverwrites, testBit_bitOr, List.mem_flatMap, List.mem_filter, decide_eq_true_eq,
    List.mem_map, holdsRole_iff, KeyedTable.find_eq_some, RoleOverwrite.key, Prod.mk.injEq]
  constructor
  · rintro ⟨x, ⟨o, ⟨ho, hc⟩, mr, ⟨hmr, hr, hs, hu⟩, rfl⟩, hx⟩
    exact ⟨mr.roleId, o, ⟨mr, hmr, hs, hu, rfl⟩, ⟨ho, hc, hr.symm⟩, hx⟩
  · rintro ⟨roleId, o, ⟨mr, hmr, hs, hu, rfl⟩, ⟨ho, hc, hr⟩, hx⟩
    exact ⟨_, ⟨o, ⟨ho, hc⟩, mr, ⟨hmr, hr.symm, hs, hu⟩, rfl⟩, hx⟩

lemma rolePermissions_gain {c c' : Conversation} {userId : Uuid} {i : ℕ}
    (hholds : ∀ roleId, db'.HoldsRole c'.scope userId roleId → db.HoldsRole c.scope userId roleId)
    (hy : (db'.rolePermissions c' userId).testBit i = true)
    (hn : (db.rolePermissions c userId).testBit i = false) :
    ∃ roleId r', db.HoldsRole c.scope userId roleId ∧
      db'.conversationRoles.find roleId = some r' ∧ (r'.permissions : ℕ).testBit i = true ∧
      ∀ r, db.conversationRoles.find roleId = some r → (r.permissions : ℕ).testBit i = false := by
  obtain ⟨roleId, r', hr, hfind, hbit⟩ := testBit_rolePermissions.mp hy
  refine ⟨roleId, r', hholds roleId hr, hfind, hbit, fun r hr' => ?_⟩
  by_contra hb
  have := testBit_rolePermissions.mpr ⟨roleId, r, hholds roleId hr, hr', by simpa using hb⟩
  exact Bool.eq_false_iff.mp hn this

lemma roleOverwrites_gain {column : RoleOverwrite → Mask} {c c' : Conversation} {userId : Uuid}
    {i : ℕ}
    (hholds : ∀ roleId, db'.HoldsRole c'.scope userId roleId → db.HoldsRole c.scope userId roleId)
    (hy : (db'.roleOverwrites column c' userId).testBit i = true)
    (hn : (db.roleOverwrites column c userId).testBit i = false) :
    ∃ roleId o', db.HoldsRole c.scope userId roleId ∧
      db'.conversationRoleOverwrites.find (c'.id, roleId) = some o' ∧
      (column o' : ℕ).testBit i = true ∧
      ∀ o, db.conversationRoleOverwrites.find (c.id, roleId) = some o →
        (column o : ℕ).testBit i = false := by
  obtain ⟨roleId, o', hr, hfind, hbit⟩ := testBit_roleOverwrites.mp hy
  refine ⟨roleId, o', hholds roleId hr, hfind, hbit, fun o ho => ?_⟩
  by_contra hb
  have := testBit_roleOverwrites.mpr ⟨roleId, o, hholds roleId hr, ho, by simpa using hb⟩
  exact Bool.eq_false_iff.mp hn this

lemma HoldsRole.exists {scope user roleId : Uuid} (h : db.HoldsRole scope user roleId) :
    ∃ r, db.conversationRoles.find roleId = some r := by
  obtain ⟨mr, hmr, -, -, rfl⟩ := holdsRole_iff.mp h
  exact Option.isSome_iff_exists.mp (db.assigned_exists mr hmr)

lemma holdsRole_congr {scope user roleId : Uuid} (hmr : db'.memberRoles = db.memberRoles) :
    db'.HoldsRole scope user roleId ↔ db.HoldsRole scope user roleId := by
  simp only [HoldsRole, hmr]

lemma holdsRole_replaceRoles {id userId actor : Uuid} {rows : List ConversationRole}
    {scope user roleId : Uuid}
    (hmr : db'.memberRoles = db.replaceRoles id userId rows actor) :
    db'.HoldsRole scope user roleId ↔
      if scope = id ∧ user = userId then ∃ r ∈ rows, r.id = roleId
      else db.HoldsRole scope user roleId := by
  rw [HoldsRole, hmr, replaceRoles]
  clear hmr
  induction rows using List.reverseRecOn with
  | nil =>
    rw [List.foldl_nil, KeyedTable.find_delete]
    split_ifs with hs
    · obtain ⟨rfl, rfl⟩ := hs
      cases hf : db.memberRoles.find (scope, user, roleId) with
      | none => simp
      | some mr =>
        have hk := KeyedTable.find_key hf
        simp only [RoleAssignment.key, Prod.mk.injEq] at hk
        simp [hk.1, hk.2.1]
    · rw [HoldsRole]
      cases hf : db.memberRoles.find (scope, user, roleId) with
      | none => simp
      | some mr =>
        have hk := KeyedTable.find_key hf
        simp only [RoleAssignment.key, Prod.mk.injEq] at hk
        simpa [hk.1, hk.2.1, imp_iff_not_or] using hs
  | append_singleton rows r ih =>
    rw [List.foldl_concat, KeyedTable.find_insertIgnore]
    simp only [RoleAssignment.key, Prod.mk.injEq]
    by_cases hs : scope = id ∧ user = userId
    · rw [if_pos hs] at ih ⊢
      obtain ⟨rfl, rfl⟩ := hs
      by_cases hr : r.id = roleId
      · simp [hr]
      · simpa [hr] using ih
    · rw [if_neg hs] at ih ⊢
      have : ¬(id = scope ∧ userId = user ∧ r.id = roleId) := fun h => hs ⟨h.1.symm, h.2.1.symm⟩
      rwa [if_neg this]

lemma rolePermissions_congr {c : Conversation} {user : Uuid}
    (hr : db'.conversationRoles = db.conversationRoles) (hmr : db'.memberRoles = db.memberRoles) :
    db'.rolePermissions c user = db.rolePermissions c user := by
  simp only [rolePermissions, hr, hmr]

lemma roleOverwrites_congr {column : RoleOverwrite → Mask} {c : Conversation} {user : Uuid}
    (ho : db'.conversationRoleOverwrites = db.conversationRoleOverwrites)
    (hmr : db'.memberRoles = db.memberRoles) :
    db'.roleOverwrites column c user = db.roleOverwrites column c user := by
  simp only [roleOverwrites, ho, hmr]

lemma authority_congr {c : Conversation} {user : Uuid}
    (hm : db'.conversationMembers = db.conversationMembers) :
    db'.authority c user = db.authority c user := by
  simp only [authority, memberRow, hm]

lemma rolePermissions_createRole {c : Conversation} {user newId : Uuid} {role : ConversationRole}
    (hnew : db.conversationRoles.find newId = none) (hid : role.id = newId)
    (hroles : db'.conversationRoles = db.conversationRoles.insertIgnore role)
    (hmr : db'.memberRoles = db.memberRoles) :
    db'.rolePermissions c user = db.rolePermissions c user := by
  refine Nat.eq_of_testBit_eq fun j => ?_
  rw [Bool.eq_iff_iff, testBit_rolePermissions, testBit_rolePermissions]
  refine exists_congr fun heldId => exists_congr fun r => ?_
  rw [holdsRole_congr hmr]
  refine and_congr_right fun hholds => and_congr_left fun _ => ?_
  -- an assignment to the new id would have had nothing to point at
  have hne : role.id ≠ heldId := by
    rintro rfl
    obtain ⟨r', hr'⟩ := hholds.exists
    rw [hid, hnew] at hr'
    cases hr'
  rw [hroles, KeyedTable.find_insertIgnore, if_neg hne]

lemma permissions_patched {body : UpdateRoleBody} {roleId heldId : Uuid} {r r' : ConversationRole}
    {i : ℕ}
    (hroles : db'.conversationRoles = db.conversationRoles.update (fun r => r.id = roleId)
      body.apply body.apply_id)
    (hfind : db.conversationRoles.find heldId = some r)
    (hfind' : db'.conversationRoles.find heldId = some r')
    (hne : (r'.permissions : ℕ).testBit i ≠ (r.permissions : ℕ).testBit i) :
    heldId = roleId ∧ ∃ p, body.permissions = some p ∧
      (r'.permissions : ℕ).testBit i = (p.testBit i && allPermissions.testBit i) := by
  rw [hroles, KeyedTable.find_update, hfind, Option.map_some, Option.some.injEq] at hfind'
  subst hfind'
  split_ifs at hne ⊢ with hid
  · refine ⟨by simpa [KeyedTable.find_key hfind] using hid, ?_⟩
    cases hp : body.permissions with
    | none => simp [UpdateRoleBody.apply, hp] at hne
    | some p => exact ⟨p, rfl, by simp [UpdateRoleBody.apply, hp, parseMasked, parsePermissions]⟩
  · exact absurd rfl hne

section Replaced
variable {id userId actor user : Uuid} {roleIds : List Uuid} {c : Conversation}

lemma rolePermissions_replaced
    (hmr : db'.memberRoles = db.replaceRoles id userId (db.rolesWanted id roleIds) actor)
    (hroles : db'.conversationRoles = db.conversationRoles) (hs : c.scope = id) :
    db'.rolePermissions c userId =
      bitOr ((db.rolesWanted id roleIds).map fun r => (r.permissions : ℕ)) := by
  refine Nat.eq_of_testBit_eq fun j => ?_
  rw [Bool.eq_iff_iff, testBit_rolePermissions, testBit_bitOr]
  simp only [holdsRole_replaceRoles hmr, hs, and_self, if_true, List.mem_map, hroles]
  constructor
  · rintro ⟨-, r, ⟨r', hr', rfl⟩, hfind, hbit⟩
    have hrow := KeyedTable.find_eq_some.mpr ⟨(List.mem_filter.mp hr').1, rfl⟩
    obtain rfl : r' = r := Option.some.inj (hrow.symm.trans hfind)
    exact ⟨_, ⟨r', hr', rfl⟩, hbit⟩
  · rintro ⟨-, ⟨r, hr, rfl⟩, hbit⟩
    have hrow := KeyedTable.find_eq_some.mpr ⟨(List.mem_filter.mp hr).1, rfl⟩
    exact ⟨r.id, r, ⟨r, hr, rfl⟩, hrow, hbit⟩

lemma rolePermissions_untouched
    (hmr : db'.memberRoles = db.replaceRoles id userId (db.rolesWanted id roleIds) actor)
    (hroles : db'.conversationRoles = db.conversationRoles)
    (hs : ¬(c.scope = id ∧ user = userId)) :
    db'.rolePermissions c user = db.rolePermissions c user := by
  refine Nat.eq_of_testBit_eq fun j => ?_
  rw [Bool.eq_iff_iff, testBit_rolePermissions, testBit_rolePermissions]
  simp only [holdsRole_replaceRoles hmr, hs, if_false, hroles]

lemma roleOverwrites_untouched {column : RoleOverwrite → Mask}
    (hmr : db'.memberRoles = db.replaceRoles id userId (db.rolesWanted id roleIds) actor)
    (ho : db'.conversationRoleOverwrites = db.conversationRoleOverwrites)
    (hs : ¬(c.scope = id ∧ user = userId)) :
    db'.roleOverwrites column c user = db.roleOverwrites column c user := by
  refine Nat.eq_of_testBit_eq fun j => ?_
  rw [Bool.eq_iff_iff, testBit_roleOverwrites, testBit_roleOverwrites]
  simp only [holdsRole_replaceRoles hmr, hs, if_false, ho]

end Replaced

lemma memberRow_key {k user : Uuid} {m : ConversationMember} (h : db.memberRow k user = some m) :
    m.conversationId = k ∧ m.userId = user := by
  have hk : m.key = (k, user) := KeyedTable.find_key h
  exact Prod.mk.inj hk

lemma authority_eq_memberRow {c : Conversation} {user : Uuid} :
    db.authority c user = db.memberRow c.scope user := by
  unfold authority Conversation.scope
  cases c.parentId <;> rfl

lemma scope_of_root {id : Uuid} {c : Conversation} (hc : db.conversations.find c.id = some c)
    (hscope : c.scope = id) (c₀ : Conversation) (hc₀ : db.conversations.find id = some c₀) :
    c₀.scope = id := by
  unfold Conversation.scope at hscope ⊢
  rw [KeyedTable.find_key hc₀]
  cases hp : c.parentId with
  | none =>
    rw [hp, Option.getD_none] at hscope
    subst hscope
    obtain rfl := Option.some.inj (hc.symm.trans hc₀)
    rw [hp, Option.getD_none]
  | some p =>
    rw [hp, Option.getD_some] at hscope
    subst hscope
    obtain ⟨s, hs, hroot⟩ := parent_root hc hp
    obtain rfl := Option.some.inj (hs.symm.trans hc₀)
    rw [hroot, Option.getD_none]

lemma memberRow_update {id userId : Uuid} {f : ConversationMember → ConversationMember}
    {hf : ∀ m, (f m).key = m.key}
    (hm : db'.conversationMembers =
      db.conversationMembers.update (fun m => m.key = (id, userId)) f hf) (k user : Uuid) :
    db'.memberRow k user =
      if k = id ∧ user = userId then (db.memberRow k user).map f else db.memberRow k user := by
  simp only [memberRow, hm, KeyedTable.find_update]
  cases hrow : db.conversationMembers.find (k, user) with
  | none => simp
  | some m =>
    have hk := KeyedTable.find_key hrow
    simp only [Option.map_some, hk, Prod.mk.injEq, decide_eq_true_eq]
    split_ifs <;> rfl

end Database

lemma testBit_rankMask {input : EffectivePermissionInput} {i : ℕ} :
    input.rankMask.testBit i = true ↔
      (input.role = .owner ∧ allPermissions.testBit i = true) ∨
      (input.role ≠ .owner ∧ ((input.basePermissions.getD
          (defaultConversationPermissions input.conversationType)).testBit i = true ∨
        (rolePermissions input.role).testBit i = true ∨
        (input.rolePermissions.getD 0).testBit i = true)) := by
  unfold EffectivePermissionInput.rankMask
  by_cases ho : input.role = .owner
  · simp [ho]
  · simp [ho, Nat.testBit_or, or_assoc]

/-! ### From rows to inputs -/

def Database.memberPermissions (db : Database) (id user : Uuid) (clock : Time) : Option ℕ :=
  (db.loadMemberContext id user clock).map MemberContext.permissions

structure Seen (db : Database) (id user : Uuid) (c : Conversation) (a : ConversationMember) :
    Prop where
  found : db.conversations.find id = some c
  live : c.deletedAt = none
  authority : db.authority c user = some a
  active : a.leftAt = none

lemma memberPermissions_eq_some {db : Database} {id user : Uuid} {clock : Time} {p : ℕ} :
    db.memberPermissions id user clock = some p ↔ ∃ c a, Seen db id user c a ∧
      p = effectivePermissions (db.permissionInput c user a) clock := by
  simp only [Database.memberPermissions, Option.map_eq_some_iff, Database.loadMemberContext_eq_some]
  constructor
  · rintro ⟨ctx, ⟨c, a, hc, hd, ha, hl, -, -, -, hp⟩, rfl⟩
    exact ⟨c, a, ⟨hc, hd, ha, hl⟩, hp⟩
  · rintro ⟨c, a, h, rfl⟩
    exact ⟨⟨c, _, _, _⟩, ⟨c, a, h.found, h.live, h.authority, h.active, rfl, rfl, rfl, rfl⟩, rfl⟩

lemma Seen.conversation {db : Database} {id user actor : Uuid} {c : Conversation}
    {a : ConversationMember} {clock : Time} {ctx : MemberContext} (h : Seen db id user c a)
    (hctx : db.loadMemberContext id actor clock = some ctx) : ctx.conversation = c := by
  obtain ⟨c', -, hc', -, -, -, he, -⟩ := Database.loadMemberContext_eq_some.mp hctx
  rw [he]
  exact Option.some.inj (hc'.symm.trans h.found)

lemma patchedInput {db db' : Database} {id user : Uuid} {c : Conversation}
    {a a' target : ConversationMember} {body : UpdateMemberBody} {allow deny : Mask}
    (hroles : db'.conversationRoles = db.conversationRoles)
    (hmr : db'.memberRoles = db.memberRoles)
    (ho : db'.conversationRoleOverwrites = db.conversationRoleOverwrites)
    (hm : db'.conversationMembers = db.conversationMembers.update (fun m => m.key = (id, user))
      (Database.patchedRow body allow deny) (Database.patchedRow_key body allow deny))
    (hseen : Seen db id user c a) (hseen' : Seen db' id user c a')
    (htarget : db.memberRow id user = some target) :
    ∃ role mutedUntil, db'.permissionInput c user a' =
        { db.permissionInput c user a with
          role := role
          allow := some (allow ||| if c.parentId.isSome then (a.allow : ℕ) else 0)
          deny := some (deny ||| if c.parentId.isSome then (a.deny : ℕ) else 0)
          mutedUntil := mutedUntil } ∧
      (role = a.role ∨ c.parentId = none ∧ body.role = some role) ∧
      (mutedUntil = (db.permissionInput c user a).mutedUntil ∨
        ∃ m, body.mutedUntil = some m ∧
          mutedUntil = m.or (if c.parentId.isSome then a.mutedUntil else none)) := by
  have hid : c.id = id := KeyedTable.find_key hseen.found
  have hrow : db'.memberRow c.id user = some (Database.patchedRow body allow deny target) := by
    rw [Database.memberRow_update hm, if_pos ⟨hid, rfl⟩, hid, htarget, Option.map_some]
  have hauth := hseen.authority
  have hauth' := hseen'.authority
  simp only [Database.authority] at hauth hauth'
  have hinput : ∀ a'' : ConversationMember, db'.permissionInput c user a'' =
      { db.permissionInput c user a with
        role := a''.role
        allow := some (allow ||| if c.parentId.isSome then (a''.allow : ℕ) else 0)
        deny := some (deny ||| if c.parentId.isSome then (a''.deny : ℕ) else 0)
        mutedUntil := (body.mutedUntil.getD target.mutedUntil).or a''.mutedUntil } := by
    intro a''
    simp only [Database.permissionInput, Database.roleAllow, Database.roleDeny,
      Database.roleOverwrites_congr ho hmr, Database.rolePermissions_congr hroles hmr, hrow]
    rfl
  have hmuted : (db.permissionInput c user a).mutedUntil = target.mutedUntil.or a.mutedUntil := by
    simp [Database.permissionInput, hid, htarget]
  rw [hinput, hmuted]
  cases hp : c.parentId with
  | none =>
    simp only [hp] at hauth hauth'
    obtain rfl : target = a := Option.some.inj (htarget.symm.trans (hid ▸ hauth))
    obtain rfl : Database.patchedRow body allow deny target = a' :=
      Option.some.inj (hrow.symm.trans hauth')
    refine ⟨_, _, rfl, ?_, ?_⟩
    · cases hr : body.role with
      | none => exact Or.inl (by simp [Database.patchedRow, hr])
      | some role => exact Or.inr ⟨rfl, by simp [Database.patchedRow, hr]⟩
    · cases hmu : body.mutedUntil with
      | none => exact Or.inl (by simp [Database.patchedRow, hmu])
      | some m => exact Or.inr ⟨m, rfl, by simp [Database.patchedRow, hmu]⟩
  | some p =>
    -- the trigger: the row that is written is not the row authority is read from
    have hne : p ≠ id := by
      rintro rfl
      exact Database.parent_ne hseen.found hp
    simp only [hp] at hauth hauth'
    rw [Database.memberRow_update hm, if_neg (fun h => hne h.1), hauth] at hauth'
    obtain rfl : a = a' := Option.some.inj hauth'
    refine ⟨_, _, rfl, Or.inl rfl, ?_⟩
    cases hmu : body.mutedUntil with
    | none => exact Or.inl rfl
    | some m => exact Or.inr ⟨m, rfl, rfl⟩

end Yappy.Permissions
