import Yappy.PermissionBots

/-!
# Coming back

The three ways into a conversation, what each keeps of a row that is marked as left, and what that
is worth beyond what a first-time joiner gets. `removeMember` marks the row and touches nothing
else, so the rung, the masks and the named roles are those of the moment of leaving.
-/
namespace Yappy.Permissions

def groupMembersMax : ℕ := 5000

def ConversationMember.readded (actor : Uuid) (m : ConversationMember) : ConversationMember :=
  { m with leftAt := none, invitedById := some actor, role := .member }

lemma ConversationMember.readded_key (actor : Uuid) (m : ConversationMember) :
    (m.readded actor).key = m.key := rfl

inductive SkipReason
  | banned | alreadyAMember | privacy

namespace Database
variable (db : Database)

/-- `POST /:id/join`: being public is the invite. -/
def joinPublic (actor id : Uuid) (clock : Time) : Except AppError Database := do
  match (db.conversations.find id).filter fun c =>
      c.deletedAt.isNone && c.isPublic && c.parentId.isNone with
  | none => .error (notFound "Conversation")
  | some c => do
    ensure (db.conversationBans.find (id, actor)).isNone
      (forbidden "You are banned from this conversation")
    if (db.memberRow id actor).any fun m => m.leftAt.isNone then .ok db
    else .ok { db with conversationMembers := db.rejoin c actor clock }

def skipReason (id : Uuid) (initiable : Uuid → Bool) (userId : Uuid) : Option SkipReason :=
  if (db.conversationBans.find (id, userId)).isSome then some .banned
  else if (db.memberRow id userId).any fun m => m.leftAt.isNone then some .alreadyAMember
  else if initiable userId then none
  else some .privacy

def addedRow (actor : Uuid) (c : Conversation) (id userId : Uuid) (clock : Time) :
    ConversationMember :=
  { ConversationMember.new id userId .member clock (historyFloor c.historyVisibility c.messageSeq) with
    invitedById := some actor }

/-- The transaction of `addMembers`: departed rows come back, the others are new. -/
def addRows (actor : Uuid) (c : Conversation) (id : Uuid) (clock : Time) (added : List Uuid) :
    KeyedTable ConversationMember.key :=
  added.foldl (fun t userId => t.upsert (addedRow actor c id userId clock)
    (ConversationMember.readded actor) (ConversationMember.readded_key actor)) db.conversationMembers

/-- `addMembers`; `initiable` is what `assertCanInitiate` lets pass. -/
def addMembers (actor id : Uuid) (userIds : List Uuid) (initiable : Uuid → Bool) (clock : Time) :
    Except AppError (Database × List Uuid × List (Uuid × SkipReason)) := do
  let ctx ← db.requireMember id actor clock
  ensure (ctx.conversation.type ≠ .dm) (conflict "You cannot add people to a DM")
  ensure (holds ctx Permission.inviteMembers)
    (forbidden "You cannot add members to this conversation")
  let candidates := userIds.eraseDups
  let added := candidates.filter fun userId => (db.skipReason id initiable userId).isNone
  let skipped := candidates.filterMap fun userId =>
    (db.skipReason id initiable userId).map fun reason => (userId, reason)
  ensure (db.memberCount id + added.length ≤ groupMembersMax) (conflict "This conversation is full")
  return ({ db with conversationMembers := db.addRows actor ctx.conversation id clock added },
    added, skipped)

/-- The same without a trace of one user in `g` and its channels. -/
def forget (g user : Uuid) : Database :=
  { db with
    conversationMembers := db.conversationMembers.delete fun m => m.userId = user ∧
      (m.conversationId = g ∨ (db.conversations.find m.conversationId).any fun c => c.scope = g)
    memberRoles := db.memberRoles.delete fun mr => mr.conversationId = g ∧ mr.userId = user
    assigned_exists := fun mr hmr => db.assigned_exists mr (List.mem_filter.mp hmr).1 }

end Database

inductive Entry
  | added (actor : Uuid) (userIds : List Uuid) (initiable : Uuid → Bool)
  | invited (code : String)
  | joined

namespace Entry

def run (e : Entry) (db : Database) (g user : Uuid) (clock : Time) : Except AppError Database :=
  match e with
  | added actor userIds initiable =>
    Prod.fst <$> db.addMembers actor g userIds initiable clock
  | invited code => db.joinInvite user code clock
  | joined => db.joinPublic user g clock

def rung (e : Entry) (left : MemberRole) : MemberRole :=
  match e with
  | added .. => .member
  | invited _ | joined => left

def carried (e : Entry) (db : Database) : Option ConversationRole :=
  match e with
  | invited code => (db.invites.find code).bind db.inviteRole
  | added .. | joined => none

end Entry

/-! ### What a row is worth -/

section Bits
variable (db : Database) (carried : Option ConversationRole) (c : Conversation)

def Conversation.base (c : Conversation) : ℕ :=
  (c.basePermissions.map Fin.val).getD (defaultConversationPermissions c.type)

def carries (i : ℕ) : Bool := carried.any fun r => (r.permissions : ℕ).testBit i

def overwrites (column : RoleOverwrite → Mask) (i : ℕ) : Bool := carried.any fun r =>
  (db.conversationRoleOverwrites.find (c.id, r.id)).any fun o => (column o : ℕ).testBit i

/-- A bit that a first-time joiner gets. -/
def Given (i : ℕ) : Prop :=
  overwrites db carried c RoleOverwrite.allow i = true ∨
    overwrites db carried c RoleOverwrite.deny i = false ∧
      if c.base.testBit 62 = true ∨ carries carried 62 = true then allPermissions.testBit i = true
      else c.base.testBit i = true ∨ carries carried i = true

variable (m : ConversationMember) (rung : MemberRole)

def kept (i : ℕ) : Bool := ((db.permissionInput c m.userId m).allow.getD 0).testBit i

def denied (i : ℕ) : Bool := ((db.permissionInput c m.userId m).deny.getD 0).testBit i

/-- No overwrite of a role that the row's user holds, or will, takes the bit away. -/
def Unopposed (i : ℕ) : Prop :=
  (db.roleDeny c m.userId).testBit i = false ∧ overwrites db carried c RoleOverwrite.deny i = false

def Bypasses : Prop :=
  rung = .owner ∨ c.base.testBit 62 = true ∨ (db.rolePermissions c m.userId).testBit 62 = true ∨
    carries carried 62 = true

/-- What is left of a row that comes back to a rung, whatever a first-time joiner gets: its own
masks, the named roles with their overwrites, and the rung itself. -/
inductive LeftOver (i : ℕ) : Prop
  | allow (h : kept db c m i = true)
  | restricted (hr : rung = .restricted) (h : restricted.testBit i = true)
  | overwrite (hr : rung ≠ .restricted) (h : (db.roleAllow c m.userId).testBit i = true)
  | ladder (hr : rung ≠ .restricted) (hd : Unopposed db carried c m i)
      (h : (rolePermissions rung).testBit i = true)
  | named (hr : rung ≠ .restricted) (hd : Unopposed db carried c m i)
      (h : (db.rolePermissions c m.userId).testBit i = true)
      -- administrator hides what names no permission
      (hshown : allPermissions.testBit i = true ∨ ¬ Bypasses db carried c m rung)
  | administrator (hr : rung ≠ .restricted) (hd : Unopposed db carried c m i)
      (h : (db.rolePermissions c m.userId).testBit 62 = true) (hall : allPermissions.testBit i = true)

/-- A bit of the row, before the denials and a mute. -/
def Granted (i : ℕ) : Prop :=
  kept db c m i = true ∨
    if rung = .restricted then restricted.testBit i = true
    else (db.roleAllow c m.userId).testBit i = true ∨
      overwrites db carried c RoleOverwrite.allow i = true ∨
      Unopposed db carried c m i ∧
        ((Bypasses db carried c m rung ∧ allPermissions.testBit i = true) ∨
          ¬ Bypasses db carried c m rung ∧ (c.base.testBit i = true ∨
            (rolePermissions rung).testBit i = true ∨
            (db.rolePermissions c m.userId).testBit i = true ∨ carries carried i = true))

end Bits

section Worth
variable {db db' : Database} {carried : Option ConversationRole} {c : Conversation}
  {m row : ConversationMember} {rung : MemberRole} {g user i : ℕ} {now : Time}

lemma ladder_le_all {i : ℕ} (h : (rolePermissions rung).testBit i = true) :
    allPermissions.testBit i = true := by
  have hsub : ∀ r, rolePermissions r ||| allPermissions = allPermissions := by
    intro r
    cases r <;> decide
  rw [← hsub rung, Nat.testBit_or, h, Bool.true_or]

lemma LeftOver.granted (h : LeftOver db carried c m rung i) : Granted db carried c m rung i := by
  have hand : ∀ {p : Prop}, p → rung ≠ .restricted → Unopposed db carried c m i →
      (p → (Bypasses db carried c m rung ∧ allPermissions.testBit i = true) ∨
        ¬ Bypasses db carried c m rung ∧ (c.base.testBit i = true ∨
          (rolePermissions rung).testBit i = true ∨
          (db.rolePermissions c m.userId).testBit i = true ∨ carries carried i = true)) →
      Granted db carried c m rung i := by
    intro p hp hr hd hfloor
    refine Or.inr ?_
    rw [if_neg hr]
    exact Or.inr (Or.inr ⟨hd, hfloor hp⟩)
  cases h with
  | allow h => exact Or.inl h
  | restricted hr h => exact Or.inr (by rwa [if_pos hr])
  | overwrite hr h => exact Or.inr (by rw [if_neg hr]; exact Or.inl h)
  | ladder hr hd h =>
    refine hand h hr hd fun h => ?_
    by_cases hb : Bypasses db carried c m rung
    · exact Or.inl ⟨hb, ladder_le_all h⟩
    · exact Or.inr ⟨hb, Or.inr (Or.inl h)⟩
  | named hr hd h hshown =>
    refine hand h hr hd fun h => ?_
    by_cases hb : Bypasses db carried c m rung
    · exact Or.inl ⟨hb, hshown.resolve_right (not_not_intro hb)⟩
    · exact Or.inr ⟨hb, Or.inr (Or.inr (Or.inl h))⟩
  | administrator hr hd h hall =>
    exact hand h hr hd fun h => Or.inl ⟨Or.inr (Or.inr (Or.inl h)), hall⟩

lemma Granted.leftOver_or_given (h : Granted db carried c m rung i) :
    LeftOver db carried c m rung i ∨ Given db carried c i := by
  rcases h with h | h
  · exact Or.inl (.allow h)
  by_cases hr : rung = .restricted
  · rw [if_pos hr] at h
    exact Or.inl (.restricted hr h)
  rw [if_neg hr] at h
  rcases h with h | h | ⟨hd, ⟨hb, hall⟩ | ⟨hb, h⟩⟩
  · exact Or.inl (.overwrite hr h)
  · exact Or.inr (Or.inl h)
  · rcases hb with rfl | hb | hb | hb
    · exact Or.inl (.ladder hr hd hall)
    · exact Or.inr (Or.inr ⟨hd.2, by rwa [if_pos (Or.inl hb)]⟩)
    · exact Or.inl (.administrator hr hd hb hall)
    · exact Or.inr (Or.inr ⟨hd.2, by rwa [if_pos (Or.inr hb)]⟩)
  · have hgiven : c.base.testBit i = true ∨ carries carried i = true → Given db carried c i := by
      intro h
      refine Or.inr ⟨hd.2, ?_⟩
      rwa [if_neg fun h => hb (Or.inr (h.elim Or.inl fun h => Or.inr (Or.inr h)))]
    rcases h with h | h | h | h
    · exact Or.inr (hgiven (Or.inl h))
    · exact Or.inl (.ladder hr hd h)
    · exact Or.inl (.named hr hd h (Or.inr hb))
    · exact Or.inr (hgiven (Or.inr h))

structure Enters (db db' : Database) (g user : Uuid) (row : ConversationMember)
    (carried : Option ConversationRole) : Prop where
  conversations : db'.conversations = db.conversations
  roles : db'.conversationRoles = db.conversationRoles
  overwrites : db'.conversationRoleOverwrites = db.conversationRoleOverwrites
  found : db'.memberRow g user = some row
  active : row.leftAt = none
  others : ∀ k, k ≠ g → db'.memberRow k user = db.memberRow k user
  holds : ∀ roleId, db'.HoldsRole g user roleId ↔
    db.HoldsRole g user roleId ∨ ∃ r, carried = some r ∧ r.id = roleId
  exists_role : ∀ r, carried = some r → db.conversationRoles.find r.id = some r

lemma Enters.rolePermissions (h : Enters db db' g user row carried) (hg : c.scope = g) :
    (db'.rolePermissions c user).testBit i =
      ((db.rolePermissions c user).testBit i || carries carried i) := by
  rw [Bool.eq_iff_iff, Bool.or_eq_true, Database.testBit_rolePermissions,
    Database.testBit_rolePermissions, carries, Option.any_eq_true]
  simp only [hg, h.holds, h.roles]
  constructor
  · rintro ⟨roleId, r, hheld | ⟨r', hr', rfl⟩, hfind, hbit⟩
    · exact Or.inl ⟨roleId, r, hheld, hfind, hbit⟩
    · obtain rfl := Option.some.inj ((h.exists_role r' hr').symm.trans hfind)
      exact Or.inr ⟨r', hr', hbit⟩
  · rintro (⟨roleId, r, hheld, hfind, hbit⟩ | ⟨r, hr, hbit⟩)
    · exact ⟨roleId, r, Or.inl hheld, hfind, hbit⟩
    · exact ⟨r.id, r, Or.inr ⟨r, hr, rfl⟩, h.exists_role r hr, hbit⟩

lemma Enters.roleOverwrites (h : Enters db db' g user row carried) (hg : c.scope = g)
    (column : RoleOverwrite → Mask) :
    (db'.roleOverwrites column c user).testBit i =
      ((db.roleOverwrites column c user).testBit i || Permissions.overwrites db carried c column i) := by
  rw [Bool.eq_iff_iff, Bool.or_eq_true, Database.testBit_roleOverwrites,
    Database.testBit_roleOverwrites, Permissions.overwrites, Option.any_eq_true]
  simp only [hg, h.holds, h.overwrites, Option.any_eq_true]
  constructor
  · rintro ⟨roleId, o, hheld | ⟨r, hr, rfl⟩, hfind, hbit⟩
    · exact Or.inl ⟨roleId, o, hheld, hfind, hbit⟩
    · exact Or.inr ⟨r, hr, o, hfind, hbit⟩
  · rintro (⟨roleId, o, hheld, hfind, hbit⟩ | ⟨r, hr, o, hfind, hbit⟩)
    · exact ⟨roleId, o, Or.inl hheld, hfind, hbit⟩
    · exact ⟨r.id, o, Or.inr ⟨r, hr, rfl⟩, hfind, hbit⟩

def Silences (db : Database) (c : Conversation) (m : ConversationMember) (rung : MemberRole)
    (now : Time) (i : ℕ) : Prop :=
  rung ≠ .restricted ∧ (db.permissionInput c m.userId m).isMuted now = true ∧
    silenced.testBit i = true

structure Agrees (old : Option ConversationMember) (row : ConversationMember) : Prop where
  allow : row.allow = old.elim 0 ConversationMember.allow
  deny : row.deny = old.elim 0 ConversationMember.deny
  mutedUntil : row.mutedUntil = old.bind ConversationMember.mutedUntil

lemma Enters.permissionInput (h : Enters db db' g user row carried)
    (hold : Agrees (db.memberRow g user) row) :
    (db'.permissionInput c user row).allow = (db.permissionInput c user row).allow ∧
    (db'.permissionInput c user row).deny = (db.permissionInput c user row).deny ∧
    (db'.permissionInput c user row).mutedUntil = (db.permissionInput c user row).mutedUntil := by
  simp only [Database.permissionInput]
  by_cases hid : c.id = g
  · rw [hid, h.found]
    cases hm : db.memberRow g user with
    | none =>
      have hallow := hold.allow
      have hdeny := hold.deny
      have hmuted := hold.mutedUntil
      rw [hm] at hallow hdeny hmuted
      simp [show row.allow = 0 from hallow, show row.deny = 0 from hdeny,
        show row.mutedUntil = none from hmuted]
    | some m =>
      have hallow := hold.allow
      have hdeny := hold.deny
      have hmuted := hold.mutedUntil
      rw [hm] at hallow hdeny hmuted
      simp only [Option.elim_some, Option.bind_some] at hallow hdeny hmuted ⊢
      simp [hallow, hdeny, hmuted]
  · rw [h.others c.id hid]
    exact ⟨rfl, rfl, rfl⟩

lemma ladder_administrator (hr : rung ≠ .owner) : (rolePermissions rung).testBit 62 = false := by
  cases rung with
  | owner => exact absurd rfl hr
  | admin | moderator | member | restricted => decide

lemma Enters.bypasses (h : Enters db db' g user row carried) (hg : c.scope = g) :
    (db'.permissionInput c user row).rankMask.testBit 62 = true ↔
      Bypasses db carried c row row.role := by
  have huser : row.userId = user := (Database.memberRow_key h.found).2
  have hroles : ((db'.permissionInput c user row).rolePermissions.getD 0).testBit 62 =
      ((db.rolePermissions c user).testBit 62 || carries carried 62) := h.rolePermissions hg
  rw [testBit_rankMask, hroles, Bypasses, huser, Bool.or_eq_true]
  change (row.role = .owner ∧ _) ∨ (row.role ≠ .owner ∧ (c.base.testBit 62 = true ∨
    (Permissions.rolePermissions row.role).testBit 62 = true ∨ _)) ↔ _
  by_cases ho : row.role = .owner
  · simp [ho, testBit_allPermissions_administrator]
  · simp [ho, ladder_administrator ho]

lemma Enters.floor (h : Enters db db' g user row carried) (hg : c.scope = g) :
    (if (db'.permissionInput c user row).rankMask.testBit 62 = true then allPermissions
      else (db'.permissionInput c user row).rankMask).testBit i = true ↔
      (Bypasses db carried c row row.role ∧ allPermissions.testBit i = true) ∨
        ¬ Bypasses db carried c row row.role ∧ (c.base.testBit i = true ∨
          (Permissions.rolePermissions row.role).testBit i = true ∨
          (db.rolePermissions c row.userId).testBit i = true ∨ carries carried i = true) := by
  have huser : row.userId = user := (Database.memberRow_key h.found).2
  have hroles : ((db'.permissionInput c user row).rolePermissions.getD 0).testBit i =
      ((db.rolePermissions c user).testBit i || carries carried i) := h.rolePermissions hg
  by_cases hb : Bypasses db carried c row row.role
  · rw [if_pos ((h.bypasses hg).mpr hb)]
    simp [hb]
  · have ho : row.role ≠ .owner := fun ho => hb (Or.inl ho)
    rw [if_neg fun hrank => hb ((h.bypasses hg).mp hrank), testBit_rankMask, hroles, huser,
      Bool.or_eq_true]
    change (row.role = .owner ∧ _) ∨ (row.role ≠ .owner ∧ (c.base.testBit i = true ∨
      (Permissions.rolePermissions row.role).testBit i = true ∨ _)) ↔ _
    simp [ho, hb]

lemma compose_iff {floor opposed allowed overwritten own denied silent : Prop} :
    ((((floor ∧ opposed) ∨ allowed ∨ overwritten) ∨ own) ∧ ¬denied) ∧ ¬silent ↔
      ¬denied ∧ (own ∨ allowed ∨ overwritten ∨ opposed ∧ floor) ∧ ¬silent := by
  tauto

lemma Enters.testBit (h : Enters db db' g user row carried)
    (hold : Agrees (db.memberRow g user) row) (hg : c.scope = g) :
    (effectivePermissions (db'.permissionInput c user row) now).testBit i = true ↔
      denied db c row i = false ∧ Granted db carried c row row.role i ∧
        ¬ Silences db c row row.role now i := by
  obtain ⟨hallow, hdeny, hmuted⟩ := h.permissionInput hold (c := c)
  have huser : row.userId = user := (Database.memberRow_key h.found).2
  have hkept : ((db'.permissionInput c user row).allow.getD 0).testBit i = kept db c row i := by
    rw [hallow, kept, huser]
  have hdenied : ((db'.permissionInput c user row).deny.getD 0).testBit i = denied db c row i := by
    rw [hdeny, denied, huser]
  rw [effectivePermissions_eq_compose, Tiers.testBit_compose]
  by_cases hr : row.role = .restricted
  · have htiers : (db'.permissionInput c user row).tiers now =
        ⟨restricted, 0, 0, (db'.permissionInput c user row).allow.getD 0,
          (db'.permissionInput c user row).deny.getD 0, 0⟩ := if_pos hr
    rw [htiers]
    dsimp only
    rw [hkept, hdenied]
    simp only [Granted, Silences, hr, Nat.zero_testBit, Bool.not_false, Bool.and_true, Bool.or_false,
      Bool.and_eq_true, Bool.or_eq_true, Bool.not_eq_true', if_true, ne_eq, not_true, false_and,
      not_false_eq_true, and_true]
    rw [and_comm, or_comm]
  · have htiers : (db'.permissionInput c user row).tiers now =
        ⟨if (db'.permissionInput c user row).rankMask.testBit 62 then allPermissions
            else (db'.permissionInput c user row).rankMask,
          db'.roleDeny c user, db'.roleAllow c user, (db'.permissionInput c user row).allow.getD 0,
          (db'.permissionInput c user row).deny.getD 0,
          if (db'.permissionInput c user row).isMuted now then silenced else 0⟩ := if_neg hr
    have hfloor := h.floor hg (i := i)
    have hra : (db'.roleAllow c user).testBit i = ((db.roleAllow c user).testBit i ||
        Permissions.overwrites db carried c RoleOverwrite.allow i) := h.roleOverwrites hg _
    have hrd : (db'.roleDeny c user).testBit i = ((db.roleDeny c user).testBit i ||
        Permissions.overwrites db carried c RoleOverwrite.deny i) := h.roleOverwrites hg _
    have hmute : (if (db'.permissionInput c user row).isMuted now = true then silenced
        else 0).testBit i = true ↔ Silences db c row row.role now i := by
      have hsame : (db'.permissionInput c user row).isMuted now =
          (db.permissionInput c user row).isMuted now := by
        unfold EffectivePermissionInput.isMuted
        rw [hmuted]
        rfl
      rw [hsame, Silences, huser]
      split_ifs with hm
      · simp [hr, hm]
      · simp [hm]
    rw [htiers]
    dsimp only
    rw [hkept, hdenied, hra, hrd]
    simp only [Bool.and_eq_true, Bool.or_eq_true, Bool.not_eq_true', ← Bool.not_eq_true _, hfloor,
      hmute]
    unfold Granted Unopposed
    rw [if_neg hr, huser]
    simp only [← Bool.not_eq_true, not_or]
    exact compose_iff

end Worth

/-! ### What each way in leaves -/

namespace Database
variable {db db' : Database} {g user actor id : Uuid} {clock : Time}

lemma joinPublic_ok (h : db.joinPublic actor id clock = .ok db') :
    db' = db ∨ ∃ c, db.conversations.find id = some c ∧
      db' = { db with conversationMembers := db.rejoin c actor clock } := by
  unfold joinPublic at h
  cases hc : (db.conversations.find id).filter fun c =>
      c.deletedAt.isNone && c.isPublic && c.parentId.isNone with
  | none => simp [hc] at h
  | some c =>
    rw [hc] at h
    simp only [bind_eq_ok, exists_unit, ensure_eq_ok] at h
    obtain ⟨-, h⟩ := h
    split_ifs at h
    · exact Or.inl (Except.ok.inj h).symm
    · exact Or.inr ⟨c, (Option.filter_eq_some_iff.mp hc).1, (Except.ok.inj h).symm⟩

lemma find_addRows {c : Conversation} (added : List Uuid)
    (t : KeyedTable ConversationMember.key) (k u : Uuid) :
    (added.foldl (fun t userId => t.upsert (addedRow actor c id userId clock)
      (ConversationMember.readded actor) (ConversationMember.readded_key actor)) t).find (k, u) =
    if k = id ∧ u ∈ added then
      some (((t.find (k, u)).map (ConversationMember.readded actor)).getD (addedRow actor c id u clock))
    else t.find (k, u) := by
  induction added using List.reverseRecOn with
  | nil => simp
  | append_singleton added x ih =>
    rw [List.foldl_concat, KeyedTable.find_upsert, ih]
    have hkey : (addedRow actor c id x clock).key = (k, u) ↔ k = id ∧ u = x := by
      simp only [addedRow, ConversationMember.key, ConversationMember.new, Prod.mk.injEq]
      exact ⟨fun h => ⟨h.1.symm, h.2.symm⟩, fun h => ⟨h.1.symm, h.2.symm⟩⟩
    simp only [hkey, List.mem_append, List.mem_singleton]
    by_cases hk : k = id
    · by_cases hx : u = x
      · subst hx
        have hadded : k = id ∧ (u ∈ added ∨ u = u) := ⟨hk, Or.inr rfl⟩
        rw [if_pos ⟨hk, rfl⟩, if_pos hadded]
        -- added twice is added once
        split_ifs
        · cases t.find (k, u) <;> rfl
        · rfl
      · simp [hk, hx]
    · simp [hk]

lemma memberRow_addRows {c : Conversation} {added : List Uuid}
    (hm : db'.conversationMembers = db.addRows actor c id clock added) (k u : Uuid) :
    db'.memberRow k u = if k = id ∧ u ∈ added then
      some (((db.memberRow k u).map (ConversationMember.readded actor)).getD
        (addedRow actor c id u clock))
      else db.memberRow k u := by
  rw [memberRow, hm]
  exact find_addRows added db.conversationMembers k u

lemma addMembers_ok {userIds added : List Uuid} {initiable : Uuid → Bool}
    {skipped : List (Uuid × SkipReason)}
    (h : db.addMembers actor id userIds initiable clock = .ok (db', added, skipped)) :
    ∃ ctx, db.loadMemberContext id actor clock = some ctx ∧
      db' = { db with conversationMembers := db.addRows actor ctx.conversation id clock added } := by
  simp only [addMembers, bind_eq_ok, exists_unit, ensure_eq_ok, requireMember_eq_ok] at h
  obtain ⟨ctx, hctx, -, -, -, h⟩ := h
  obtain ⟨rfl, rfl, -⟩ := Prod.mk.inj (Except.ok.inj h) |>.imp_right Prod.mk.inj
  exact ⟨ctx, hctx, rfl⟩

end Database

section Entries
variable {db db' : Database} {e : Entry} {g user : Uuid} {clock : Time}

lemma map_eq_ok {α β : Type} {f : α → β} {x : Except AppError α} {b : β} :
    f <$> x = .ok b ↔ ∃ a, x = .ok a ∧ f a = b := by
  cases x with
  | error e => simp [Functor.map, Except.map]
  | ok a => simp [Functor.map, Except.map]

lemma Enters.of_row {row : ConversationMember}
    (hrows : ∃ t, db' = { db with conversationMembers := t })
    (hrow : db'.memberRow g user = some row) (hactive : row.leftAt = none)
    (hothers : ∀ k, k ≠ g → db'.memberRow k user = db.memberRow k user) :
    Enters db db' g user row none := by
  obtain ⟨t, rfl⟩ := hrows
  exact {
    conversations := rfl
    roles := rfl
    overwrites := rfl
    found := hrow
    active := hactive
    others := hothers
    holds := fun roleId => by simp [Database.HoldsRole]
    exists_role := fun _ h => by cases h }

structure Comes (e : Entry) (old : Option ConversationMember) (row : ConversationMember) : Prop
    extends Agrees old row where
  role : row.role = (old.map fun m => e.rung m.role).getD .member

lemma comes_back (he : ∀ r, e.rung r = r) (old : Option ConversationMember) (c : Conversation) :
    Comes e old ((old.map ConversationMember.back).getD
      (.new c.id user .member clock (Database.historyFloor c.historyVisibility c.messageSeq))) := by
  cases old with
  | none => exact ⟨⟨rfl, rfl, rfl⟩, rfl⟩
  | some m => exact ⟨⟨rfl, rfl, rfl⟩, (he m.role).symm⟩

lemma comes_readded {actor : Uuid} {userIds : List Uuid} {initiable : Uuid → Bool}
    (old : Option ConversationMember) (c : Conversation) :
    Comes (.added actor userIds initiable) old ((old.map (ConversationMember.readded actor)).getD
      (Database.addedRow actor c g user clock)) := by
  cases old with
  | none => exact ⟨⟨rfl, rfl, rfl⟩, rfl⟩
  | some m => exact ⟨⟨rfl, rfl, rfl⟩, rfl⟩

lemma back_active (old : Option ConversationMember) (c : Conversation) :
    ((old.map ConversationMember.back).getD (.new c.id user .member clock
      (Database.historyFloor c.historyVisibility c.messageSeq))).leftAt = none := by
  cases old <;> rfl

lemma came_in {p : Prop} {old new : Option ConversationMember} [Decidable p]
    (hout : ¬ ∃ m, old = some m ∧ m.leftAt = none)
    (hin : ∃ m, (if p then new else old) = some m ∧ m.leftAt = none) : p := by
  by_contra hp
  rw [if_neg hp] at hin
  exact hout hin

lemma Entry.enters (h : e.run db g user clock = .ok db') (hout : ¬ db.IsActiveMember g user)
    (hin : db'.IsActiveMember g user) :
    ∃ row, Enters db db' g user row (e.carried db) ∧ Comes e (db.memberRow g user) row := by
  cases e with
  | joined =>
    rcases Database.joinPublic_ok h with rfl | ⟨c, hc, he⟩
    · exact absurd hin hout
    have hrow := Database.memberRow_rejoin (congrArg Database.conversationMembers he)
    obtain ⟨hg, -⟩ : g = c.id ∧ user = user := came_in hout (by rw [← hrow]; exact hin)
    refine ⟨_, Enters.of_row ⟨_, he⟩ ((hrow g user).trans (if_pos ⟨hg, rfl⟩)) (back_active _ c)
      fun k hk => (hrow k user).trans (if_neg fun h => hk (h.1.trans hg.symm)), ?_⟩
    exact comes_back (fun _ => rfl) _ c
  | invited code =>
    rcases Database.joinInvite_ok h with rfl | ⟨invite, c, hi, hc, -, hm, hmr, hconv, hroles, ho, -⟩
    · exact absurd hin hout
    have hrow := Database.memberRow_rejoin hm
    obtain ⟨hg, -⟩ : g = c.id ∧ user = user := came_in hout (by rw [← hrow]; exact hin)
    have hcarried : Entry.carried (.invited code) db = db.inviteRole invite := by
      rw [Entry.carried, hi, Option.bind_some]
    have hcomes : Comes (.invited code) (db.memberRow g user) (((db.memberRow g user).map
        ConversationMember.back).getD (.new c.id user .member clock
          (Database.historyFloor c.historyVisibility c.messageSeq))) :=
      comes_back (fun _ => rfl) _ c
    refine ⟨_, ?_, hcomes⟩
    rw [hcarried]
    exact {
      conversations := hconv
      roles := hroles
      overwrites := ho
      found := (hrow g user).trans (if_pos ⟨hg, rfl⟩)
      active := back_active _ c
      others := fun k hk => (hrow k user).trans (if_neg fun h => hk (h.1.trans hg.symm))
      holds := fun roleId => by
        constructor
        · intro h
          exact (Database.holdsRole_joined hmr h).imp_right fun h => h.2.2
        · rintro (h | ⟨r, hr, rfl⟩)
          · exact Database.holdsRole_kept hmr h
          · rw [Database.HoldsRole, hmr, hr, KeyedTable.find_insertIgnore,
              if_pos (by rw [hg]; rfl)]
            rfl
      exists_role := fun r hr => by
        obtain ⟨roleId, -, hin⟩ := Option.bind_eq_some_iff.mp hr
        have hfind := (Database.roleIn_eq_some.mp hin).1
        rwa [KeyedTable.find_key hfind] }
  | added actor userIds initiable =>
    obtain ⟨⟨db₁, added, skipped⟩, hadd, rfl⟩ := map_eq_ok.mp h
    obtain ⟨ctx, -, he⟩ := Database.addMembers_ok hadd
    have hrow := Database.memberRow_addRows (congrArg Database.conversationMembers he)
    obtain ⟨-, hadded⟩ : g = g ∧ user ∈ added := came_in hout (by rw [← hrow]; exact hin)
    refine ⟨_, Enters.of_row ⟨_, he⟩ ((hrow g user).trans (if_pos ⟨rfl, hadded⟩)) ?_
      fun k hk => (hrow k user).trans (if_neg fun h => hk h.1), comes_readded _ ctx.conversation⟩
    cases db.memberRow g user <;> rfl

end Entries

/-! ### A first time -/

namespace Database
variable {db db' : Database} {g user actor id : Uuid} {clock : Time} {c : Conversation}

lemma memberRow_forget (k u : Uuid) : (db.forget g user).memberRow k u =
    if u = user ∧ (k = g ∨ (db.conversations.find k).any (fun c => c.scope = g) = true) then none
    else db.memberRow k u := by
  rw [memberRow, forget, KeyedTable.find_delete, memberRow]
  cases hm : db.conversationMembers.find (k, u) with
  | none => simp
  | some m =>
    obtain ⟨hk, hu⟩ : m.conversationId = k ∧ m.userId = u := memberRow_key hm
    rw [Option.filter_some, hk, hu]
    by_cases h : u = user ∧ (k = g ∨ (db.conversations.find k).any (fun c => c.scope = g) = true)
    · simp [h]
    · simp only [h, decide_false, Bool.not_false, if_true, if_false]

lemma memberRow_forget_of_ne {k u : Uuid} (h : u ≠ user) :
    (db.forget g user).memberRow k u = db.memberRow k u := by
  rw [memberRow_forget, if_neg fun hu => h hu.1]

lemma memberRow_forgotten (hc : db.conversations.find c.id = some c) (hg : c.scope = g) :
    (db.forget g user).memberRow c.id user = none := by
  rw [memberRow_forget, if_pos ⟨rfl, Or.inr (by simp [hc, hg])⟩]

lemma memberRow_forget_self : (db.forget g user).memberRow g user = none := by
  rw [memberRow_forget, if_pos ⟨rfl, Or.inl rfl⟩]

lemma holdsRole_forget {scope u roleId : Uuid} : (db.forget g user).HoldsRole scope u roleId ↔
    db.HoldsRole scope u roleId ∧ ¬(scope = g ∧ u = user) := by
  rw [HoldsRole, forget, KeyedTable.find_delete, HoldsRole]
  cases hr : db.memberRoles.find (scope, u, roleId) with
  | none => simp
  | some mr =>
    have hk := KeyedTable.find_key hr
    simp only [RoleAssignment.key, Prod.mk.injEq] at hk
    rw [Option.filter_some, hk.1, hk.2.1]
    by_cases h : scope = g ∧ u = user <;> simp [h]

lemma permissionInput_forget {u : Uuid} (h : u ≠ user) (a : ConversationMember) :
    (db.forget g user).permissionInput c u a = db.permissionInput c u a := by
  have hholds : ∀ {scope roleId}, (db.forget g user).HoldsRole scope u roleId ↔
      db.HoldsRole scope u roleId := holdsRole_forget.trans (and_iff_left fun hu => h hu.2)
  have hroles : (db.forget g user).rolePermissions c u = db.rolePermissions c u := by
    refine Nat.eq_of_testBit_eq fun j => ?_
    rw [Bool.eq_iff_iff, testBit_rolePermissions, testBit_rolePermissions]
    simp only [hholds]
    rfl
  have hoverwrites : ∀ column, (db.forget g user).roleOverwrites column c u =
      db.roleOverwrites column c u := by
    intro column
    refine Nat.eq_of_testBit_eq fun j => ?_
    rw [Bool.eq_iff_iff, testBit_roleOverwrites, testBit_roleOverwrites]
    simp only [hholds]
    rfl
  simp only [permissionInput, hroles, roleAllow, roleDeny, hoverwrites, memberRow_forget_of_ne h]

lemma loadMemberContext_forget (h : actor ≠ user) :
    (db.forget g user).loadMemberContext id actor clock = db.loadMemberContext id actor clock := by
  simp only [loadMemberContext, authority, memberRow_forget_of_ne h, permissionInput_forget h]
  rfl

lemma memberCount_forget (hout : ¬ db.IsActiveMember g user) :
    (db.forget g user).memberCount g = db.memberCount g := by
  unfold memberCount forget KeyedTable.delete
  rw [List.filter_filter]
  congr 1
  refine List.filter_congr fun m hm => ?_
  by_cases hin : m.conversationId = g ∧ m.leftAt = none
  · have hne : m.userId ≠ user := by
      rintro rfl
      exact hout ⟨m, KeyedTable.find_eq_some.mpr ⟨hm, Prod.ext hin.1 rfl⟩, hin.2⟩
    simp [hin, hne]
  · simp only [hin, decide_false, Bool.false_and]

lemma not_any_active {row : Option ConversationMember}
    (hout : ¬ ∃ m, row = some m ∧ m.leftAt = none) :
    (row.any fun m => m.leftAt.isNone) = false := by
  cases row with
  | none => rfl
  | some m => simpa [Option.isSome_iff_ne_none] using fun hl => hout ⟨m, rfl, hl⟩

lemma skipReason_forget (hout : ¬ db.IsActiveMember g user) (initiable : Uuid → Bool) (u : Uuid) :
    (db.forget g user).skipReason g initiable u = db.skipReason g initiable u := by
  have hactive : ((db.forget g user).memberRow g u).any (fun m => m.leftAt.isNone) =
      (db.memberRow g u).any fun m => m.leftAt.isNone := by
    by_cases hu : u = user
    · subst hu
      rw [memberRow_forget_self, not_any_active hout]
      rfl
    · rw [memberRow_forget_of_ne hu]
  unfold skipReason
  rw [hactive]
  rfl

lemma ok_bind {α β : Type} {f : α → Except AppError β} (a : α) : (.ok a >>= f) = f a := rfl

lemma joinPublic_of (hc : (db.conversations.find id).filter (fun c =>
      c.deletedAt.isNone && c.isPublic && c.parentId.isNone) = some c)
    (hban : (db.conversationBans.find (id, actor)).isNone = true)
    (hout : ¬ db.IsActiveMember id actor) :
    ∃ new, db.joinPublic actor id clock = .ok new ∧
      new.conversationMembers = db.rejoin c actor clock := by
  unfold joinPublic
  rw [hc]
  simp only [ensure, hban, if_true, ok_bind, not_any_active hout]
  exact ⟨_, rfl, rfl⟩

lemma joinInvite_of {code : String} {invite : Invite}
    (hi : (db.invites.find code).filter (fun i => i.revokedAt.isNone) = some invite)
    (hexpired : (!invite.expiresAt.any fun t => t < clock) = true)
    (hused : (!(0 < invite.maxUses && invite.maxUses ≤ invite.uses)) = true)
    (hban : (db.conversationBans.find (invite.conversationId, actor)).isNone = true)
    (hc : (db.conversations.find invite.conversationId).filter (fun c => c.deletedAt.isNone) =
      some c)
    (hout : ¬ db.IsActiveMember c.id actor) :
    ∃ new, db.joinInvite actor code clock = .ok new ∧
      new.conversationMembers = db.rejoin c actor clock := by
  unfold joinInvite
  rw [hi]
  simp only [ensure, hexpired, hused, hban, if_true, ok_bind]
  rw [hc]
  simp only [not_any_active hout]
  exact ⟨_, rfl, rfl⟩

lemma forget_out : ¬ (db.forget g user).IsActiveMember g user := by
  rintro ⟨m, hm, -⟩
  rw [memberRow_forget_self] at hm
  cases hm

end Database

section First
variable {db db' : Database} {e : Entry} {g user : Uuid} {clock : Time}

lemma Entry.run_forget (hroot : ∀ c, db.conversations.find g = some c → c.scope = g)
    (h : e.run db g user clock = .ok db') (hout : ¬ db.IsActiveMember g user)
    (hin : db'.IsActiveMember g user) :
    ∃ new, e.run (db.forget g user) g user clock = .ok new ∧ new.IsActiveMember g user := by
  cases e with
  | joined =>
    change db.joinPublic user g clock = _ at h
    unfold Database.joinPublic at h
    cases hc : (db.conversations.find g).filter fun c =>
        c.deletedAt.isNone && c.isPublic && c.parentId.isNone with
    | none => simp [hc] at h
    | some c =>
      rw [hc] at h
      simp only [bind_eq_ok, exists_unit, ensure_eq_ok] at h
      obtain ⟨hban, -⟩ := h
      have hid : c.id = g := KeyedTable.find_key (Option.filter_eq_some_iff.mp hc).1
      obtain ⟨new, hnew, hm⟩ := @Database.joinPublic_of (db.forget g user) _ _ clock _
        hc hban Database.forget_out
      exact ⟨new, hnew, _, (Database.memberRow_rejoin hm g user).trans (if_pos ⟨hid.symm, rfl⟩),
        back_active _ c⟩
  | invited code =>
    change db.joinInvite user code clock = _ at h
    unfold Database.joinInvite at h
    cases hi : (db.invites.find code).filter fun i => i.revokedAt.isNone with
    | none => simp [hi] at h
    | some invite =>
      rw [hi] at h
      simp only [bind_eq_ok, exists_unit, ensure_eq_ok] at h
      obtain ⟨hexpired, hused, hban, h⟩ := h
      cases hc : (db.conversations.find invite.conversationId).filter fun c =>
          c.deletedAt.isNone with
      | none => simp [hc] at h
      | some c =>
        rw [hc] at h
        simp only at h
        split_ifs at h with hactive
        · obtain rfl := Except.ok.inj h
          exact absurd hin hout
        · have hrow := Database.memberRow_rejoin
            (congrArg Database.conversationMembers (Except.ok.inj h)).symm
          obtain ⟨hg, -⟩ : g = c.id ∧ user = user := came_in hout (by rw [← hrow]; exact hin)
          subst hg
          obtain ⟨new, hnew, hm⟩ := @Database.joinInvite_of (db.forget c.id user) _ clock _ _ _
            hi hexpired hused hban hc Database.forget_out
          exact ⟨new, hnew, _, (Database.memberRow_rejoin hm c.id user).trans (if_pos ⟨rfl, rfl⟩),
            back_active _ c⟩
  | added actor userIds initiable =>
    obtain ⟨⟨db₁, added, skipped⟩, hadd, rfl⟩ := map_eq_ok.mp h
    obtain ⟨ctx, hctx, he⟩ := Database.addMembers_ok hadd
    have hrow := Database.memberRow_addRows (congrArg Database.conversationMembers he)
    obtain ⟨-, hadded⟩ : g = g ∧ user ∈ added := came_in hout (by rw [← hrow]; exact hin)
    have hne : actor ≠ user := by
      rintro rfl
      obtain ⟨c, a, hc, -, ha, hl, -⟩ := Database.loadMemberContext_eq_some.mp hctx
      rw [Database.authority_eq_memberRow, hroot c hc] at ha
      exact hout ⟨a, ha, hl⟩
    have hskip : (db.forget g user).skipReason g initiable = db.skipReason g initiable :=
      funext fun u => Database.skipReason_forget hout initiable u
    let new : Database := { db.forget g user with
      conversationMembers := (db.forget g user).addRows actor ctx.conversation g clock added }
    have hm : new.conversationMembers = (db.forget g user).addRows actor ctx.conversation g clock
      added := rfl
    refine ⟨new, ?_, _, (Database.memberRow_addRows hm g user).trans (if_pos ⟨rfl, hadded⟩), ?_⟩
    · refine map_eq_ok.mpr ⟨(new, added, skipped), ?_, rfl⟩
      simp only [Database.addMembers, bind_eq_ok, exists_unit, ensure_eq_ok,
        Database.requireMember_eq_ok, Database.loadMemberContext_forget hne, hskip,
        Database.memberCount_forget hout] at hadd ⊢
      obtain ⟨ctx', hctx', hdm, hinvite, hroom, hadd⟩ := hadd
      obtain rfl := Option.some.inj (hctx.symm.trans hctx')
      refine ⟨ctx, hctx, hdm, hinvite, hroom, ?_⟩
      obtain ⟨-, rfl, rfl⟩ := Prod.mk.inj (Except.ok.inj hadd) |>.imp_right Prod.mk.inj
      rfl
    · rw [Database.memberRow_forget_self]
      rfl

/-- From `clock` on, at any time, no bit in `back` that is not in `new`. -/
def NoMoreThan (back new : Database) (g user : Uuid) (clock : Time) : Prop :=
  ∀ id c, back.conversations.find id = some c → c.scope = g → ∀ now, clock ≤ now → ∀ p p',
    back.memberPermissions id user now = some p → new.memberPermissions id user now = some p' →
    ∀ i, p.testBit i = true → p'.testBit i = true

/-- What is left over is denied, or given to everybody. -/
def Sheds (db : Database) (g : Uuid) (m : ConversationMember) (rung : MemberRole)
    (carried : Option ConversationRole) : Prop :=
  ∀ id c, db.conversations.find id = some c → c.deletedAt = none → c.scope = g → ∀ i,
    LeftOver db carried c m rung i → denied db c m i = true ∨ Given db carried c i

/-- Two rungs are worth the same to the row, muted or not. -/
def Alike (db : Database) (g : Uuid) (m : ConversationMember) (carried : Option ConversationRole)
    (clock : Time) (r₁ r₂ : MemberRole) : Prop :=
  ∀ id c, db.conversations.find id = some c → c.deletedAt = none → c.scope = g → ∀ i,
    denied db c m i = false → (Granted db carried c m r₁ i ↔ Granted db carried c m r₂ i) ∧
      ((db.permissionInput c m.userId m).isMuted clock = true → silenced.testBit i = true →
        Granted db carried c m r₁ i → (r₁ = .restricted ↔ r₂ = .restricted))

variable {carried : Option ConversationRole} {c : Conversation} {m row : ConversationMember}
  {rung : MemberRole} {i : ℕ} {id : Uuid} {now : Time} {p : ℕ}

lemma Seen.scope_row (h : Seen db id user c m) (hg : c.scope = g) : db.memberRow g user = some m := by
  rw [← hg, ← Database.authority_eq_memberRow]
  exact h.authority

lemma Enters.memberPermissions (h : Enters db db' g user row carried)
    (hc : db.conversations.find id = some c) (hg : c.scope = g) :
    db'.memberPermissions id user now = some p ↔ c.deletedAt = none ∧
      p = effectivePermissions (db'.permissionInput c user row) now := by
  rw [memberPermissions_eq_some]
  constructor
  · rintro ⟨c', a, hseen, rfl⟩
    obtain rfl : c = c' := by
      have hfound := hseen.found
      rw [h.conversations, hc] at hfound
      exact Option.some.inj hfound
    obtain rfl : row = a := Option.some.inj (h.found.symm.trans (hseen.scope_row hg))
    exact ⟨hseen.live, rfl⟩
  · rintro ⟨hlive, rfl⟩
    refine ⟨c, row, ⟨h.conversations ▸ hc, hlive, ?_, h.active⟩, rfl⟩
    rw [Database.authority_eq_memberRow, hg]
    exact h.found

lemma granted_congr (hu : row.userId = m.userId) (ha : row.allow = m.allow) :
    Granted db carried c row rung i ↔ Granted db carried c m rung i := by
  unfold Granted Unopposed Bypasses kept Database.permissionInput
  rw [hu, ha]

lemma denied_congr (hu : row.userId = m.userId) (hd : row.deny = m.deny) :
    denied db c row i = denied db c m i := by
  unfold denied Database.permissionInput
  rw [hu, hd]

lemma silences_congr (hu : row.userId = m.userId) (hm : row.mutedUntil = m.mutedUntil) :
    Silences db c row rung now i ↔ Silences db c m rung now i := by
  unfold Silences EffectivePermissionInput.isMuted Database.permissionInput
  rw [hu, hm]

lemma Enters.testBit_back (h : Enters db db' g user row carried)
    (hm : db.memberRow g user = some m) (hcomes : Comes e (some m) row) (hg : c.scope = g) :
    (effectivePermissions (db'.permissionInput c user row) now).testBit i = true ↔
      denied db c m i = false ∧ Granted db carried c m (e.rung m.role) i ∧
        ¬ Silences db c m (e.rung m.role) now i := by
  have hu : row.userId = m.userId :=
    (Database.memberRow_key h.found).2.trans (Database.memberRow_key hm).2.symm
  rw [h.testBit (hm ▸ hcomes.toAgrees) hg, denied_congr hu hcomes.deny,
    granted_congr hu hcomes.allow, silences_congr hu hcomes.mutedUntil,
    show row.role = e.rung m.role from hcomes.role]

lemma Enters.testBit_new (h : Enters (db.forget g user) db' g user row carried)
    (hcomes : Comes e none row) (hc : db.conversations.find c.id = some c) (hg : c.scope = g) :
    (effectivePermissions (db'.permissionInput c user row) now).testBit i = true ↔
      Given db carried c i := by
  have hu : row.userId = user := (Database.memberRow_key h.found).2
  have hrow : (db.forget g user).memberRow c.id user = none := Database.memberRow_forgotten hc hg
  have hallow : row.allow = 0 := hcomes.allow
  have hdeny : row.deny = 0 := hcomes.deny
  have hmuted : row.mutedUntil = none := hcomes.mutedUntil
  have hrole : row.role = .member := hcomes.role
  have hkept : kept (db.forget g user) c row i = false := by
    unfold kept Database.permissionInput
    rw [hu, hrow, hallow]
    simp
  have hdenied : denied (db.forget g user) c row i = false := by
    unfold denied Database.permissionInput
    rw [hu, hrow, hdeny]
    simp
  have hsilent : ¬ Silences (db.forget g user) c row row.role now i := by
    unfold Silences EffectivePermissionInput.isMuted Database.permissionInput
    rw [hu, hrow, hmuted]
    simp
  have hnone : ∀ roleId, ¬ (db.forget g user).HoldsRole c.scope user roleId := fun roleId hheld =>
    (Database.holdsRole_forget.mp hheld).2 ⟨hg, rfl⟩
  have hnamed : ∀ j, ((db.forget g user).rolePermissions c user).testBit j = false := by
    intro j
    rw [← Bool.not_eq_true, Database.testBit_rolePermissions]
    rintro ⟨roleId, -, hheld, -⟩
    exact hnone roleId hheld
  have hoverwrites : ∀ column, ((db.forget g user).roleOverwrites column c user).testBit i = false := by
    intro column
    rw [← Bool.not_eq_true, Database.testBit_roleOverwrites]
    rintro ⟨roleId, -, hheld, -⟩
    exact hnone roleId hheld
  have hagrees : Agrees ((db.forget g user).memberRow g user) row := by
    rw [Database.memberRow_forget_self]
    exact hcomes.toAgrees
  rw [h.testBit hagrees hg]
  simp only [hdenied, hsilent, not_false_eq_true, and_true, true_and]
  have hladder : (Permissions.rolePermissions .member).testBit i = false := Nat.zero_testBit i
  unfold Granted Unopposed Bypasses Given
  rw [hrole, hu, Database.roleAllow, Database.roleDeny]
  simp only [hkept, hnamed, hoverwrites, hladder, Bool.false_eq_true, false_or, true_and, reduceCtorEq,
    if_false]
  refine or_congr Iff.rfl (and_congr Iff.rfl ?_)
  split_ifs with hb
  · simp [hb]
  · simp [hb]

lemma exists_unmuted (db : Database) (c : Conversation) (m : ConversationMember) (clock : Time) :
    ∃ now, clock ≤ now ∧ ∀ rung i, ¬ Silences db c m rung now i := by
  refine ⟨max clock ((db.permissionInput c m.userId m).mutedUntil.getD 0), le_max_left .., ?_⟩
  rintro rung i ⟨-, hmuted, -⟩
  unfold EffectivePermissionInput.isMuted at hmuted
  obtain ⟨t, ht, hlt⟩ := (Option.any_eq_true ..).mp hmuted
  have hle : t ≤ max clock ((db.permissionInput c m.userId m).mutedUntil.getD 0) := by
    rw [ht]
    exact le_max_right ..
  have hlate : max clock ((db.permissionInput c m.userId m).mutedUntil.getD 0) < t := by
    simpa [Database.permissionInput] using hlt
  exact absurd hlate (not_lt.mpr hle)

/-- Somebody who had left has no bit that a first-time joiner has not, whenever one looks, exactly
when they have nothing left over. -/
theorem Entry.sheds (hroot : ∀ c, db.conversations.find g = some c → c.scope = g)
    (hm : db.memberRow g user = some m) (hleft : m.leftAt ≠ none)
    (h : e.run db g user clock = .ok db') (hin : db'.IsActiveMember g user) :
    ∃ new, e.run (db.forget g user) g user clock = .ok new ∧ new.IsActiveMember g user ∧
      (NoMoreThan db' new g user clock ↔ Sheds db g m (e.rung m.role) (e.carried db)) := by
  have hout : ¬ db.IsActiveMember g user := by
    rintro ⟨m', hm', hl⟩
    obtain rfl := Option.some.inj (hm.symm.trans hm')
    exact hleft hl
  obtain ⟨new, hnew, hnewin⟩ := Entry.run_forget hroot h hout hin
  obtain ⟨row, henters, hcomes⟩ := Entry.enters h hout hin
  obtain ⟨row', henters', hcomes'⟩ := Entry.enters hnew Database.forget_out hnewin
  rw [hm] at hcomes
  rw [Database.memberRow_forget_self] at hcomes'
  refine ⟨new, hnew, hnewin, ?_, ?_⟩
  · intro hless id c hc hlive hg i hover
    have hid : c.id = id := KeyedTable.find_key hc
    obtain ⟨now, hnow, hloud⟩ := exists_unmuted db c m clock
    by_contra hnot
    rw [not_or, Bool.not_eq_true] at hnot
    have hback := (henters.testBit_back hm hcomes hg).mpr ⟨hnot.1, hover.granted, hloud _ _⟩
    have hgiven := hless id c (henters.conversations ▸ hc) hg now hnow _ _
      ((henters.memberPermissions hc hg).mpr ⟨hlive, rfl⟩)
      ((henters'.memberPermissions hc hg).mpr ⟨hlive, rfl⟩) i hback
    exact hnot.2 ((henters'.testBit_new hcomes' (hid ▸ hc) hg).mp hgiven)
  · intro hsheds id c hc hg now hnow p p' hp hp' i hi
    rw [henters.conversations] at hc
    have hid : c.id = id := KeyedTable.find_key hc
    obtain ⟨hlive, rfl⟩ := (henters.memberPermissions hc hg).mp hp
    obtain ⟨-, rfl⟩ := (henters'.memberPermissions hc hg).mp hp'
    obtain ⟨hdenied, hgranted, -⟩ := (henters.testBit_back hm hcomes hg).mp hi
    refine (henters'.testBit_new hcomes' (hid ▸ hc) hg).mpr ?_
    rcases hgranted.leftOver_or_given with hover | hgiven
    · rcases hsheds id c hc hlive hg i hover with hd | hgiven
      · rw [hdenied] at hd
        cases hd
      · exact hgiven
    · exact hgiven

/-- Two ways in that carry the same are worth the same, whenever one looks, exactly when the rungs
they come back to are. -/
theorem Entry.agree {e₁ e₂ : Entry} {clock₁ clock₂ : Time} {back₁ back₂ : Database}
    (hm : db.memberRow g user = some m) (hleft : m.leftAt ≠ none)
    (h₁ : e₁.run db g user clock₁ = .ok back₁) (hin₁ : back₁.IsActiveMember g user)
    (h₂ : e₂.run db g user clock₂ = .ok back₂) (hin₂ : back₂.IsActiveMember g user)
    (hsame : e₁.carried db = e₂.carried db) :
    (∀ id c, db.conversations.find id = some c → c.scope = g → ∀ now, clock ≤ now →
      back₁.memberPermissions id user now = back₂.memberPermissions id user now) ↔
    Alike db g m (e₁.carried db) clock (e₁.rung m.role) (e₂.rung m.role) := by
  have hout : ¬ db.IsActiveMember g user := by
    rintro ⟨m', hm', hl⟩
    obtain rfl := Option.some.inj (hm.symm.trans hm')
    exact hleft hl
  obtain ⟨row₁, henters₁, hcomes₁⟩ := Entry.enters h₁ hout hin₁
  obtain ⟨row₂, henters₂, hcomes₂⟩ := Entry.enters h₂ hout hin₂
  rw [hm] at hcomes₁ hcomes₂
  rw [← hsame] at henters₂
  constructor
  · intro heq id c hc hlive hg i hdenied
    -- at any one time the two have the same bit
    have hbit : ∀ now, clock ≤ now →
        (Granted db (e₁.carried db) c m (e₁.rung m.role) i ∧ ¬ Silences db c m (e₁.rung m.role) now i ↔
          Granted db (e₁.carried db) c m (e₂.rung m.role) i ∧
            ¬ Silences db c m (e₂.rung m.role) now i) := by
      intro now hnow
      have hp₁ : back₁.memberPermissions id user now = some _ :=
        (henters₁.memberPermissions hc hg).mpr ⟨hlive, rfl⟩
      have hp₂ : back₂.memberPermissions id user now = some _ :=
        (henters₂.memberPermissions hc hg).mpr ⟨hlive, rfl⟩
      rw [heq id c hc hg now hnow, hp₂] at hp₁
      have hb₁ : (effectivePermissions (back₁.permissionInput c user row₁) now).testBit i = true ↔ _ :=
        henters₁.testBit_back hm hcomes₁ hg
      have hb₂ : (effectivePermissions (back₂.permissionInput c user row₂) now).testBit i = true ↔ _ :=
        henters₂.testBit_back hm hcomes₂ hg
      rw [← Option.some.inj hp₁, hb₂] at hb₁
      simpa [hdenied] using hb₁.symm
    obtain ⟨late, hlate, hloud⟩ := exists_unmuted db c m clock
    have hgranted : Granted db (e₁.carried db) c m (e₁.rung m.role) i ↔
        Granted db (e₁.carried db) c m (e₂.rung m.role) i := by
      simpa [hloud] using hbit late hlate
    refine ⟨hgranted, fun hmuted hsilenced hg₁ => ?_⟩
    have := hbit clock le_rfl
    simpa [Silences, hmuted, hsilenced, hg₁, hgranted.mp hg₁] using this
  · intro halike id c hc hg now hnow
    by_cases hlive : c.deletedAt = none
    · have hp₁ : back₁.memberPermissions id user now = some _ :=
        (henters₁.memberPermissions hc hg).mpr ⟨hlive, rfl⟩
      have hp₂ : back₂.memberPermissions id user now = some _ :=
        (henters₂.memberPermissions hc hg).mpr ⟨hlive, rfl⟩
      rw [hp₁, hp₂]
      refine congrArg some (Nat.eq_of_testBit_eq fun i => ?_)
      rw [Bool.eq_iff_iff, henters₁.testBit_back hm hcomes₁ hg, henters₂.testBit_back hm hcomes₂ hg]
      refine and_congr_right fun hdenied => ?_
      obtain ⟨hgranted, hsilent⟩ := halike id c hc hlive hg i hdenied
      rw [← hgranted]
      refine and_congr_right fun hg₁ => not_congr ?_
      -- who is muted now was muted at `clock`
      have hearlier : (db.permissionInput c m.userId m).isMuted now = true →
          (db.permissionInput c m.userId m).isMuted clock = true := by
        unfold EffectivePermissionInput.isMuted
        simp only [Option.any_eq_true, decide_eq_true_eq]
        rintro ⟨t, ht, hlt⟩
        exact ⟨t, ht, lt_of_le_of_lt hnow hlt⟩
      constructor
      · rintro ⟨hr, hmuted, hs⟩
        exact ⟨fun h => hr ((hsilent (hearlier hmuted) hs hg₁).mpr h), hmuted, hs⟩
      · rintro ⟨hr, hmuted, hs⟩
        exact ⟨fun h => hr ((hsilent (hearlier hmuted) hs hg₁).mp h), hmuted, hs⟩
    · have hnone : ∀ {back row e'}, Enters db back g user row (Entry.carried e' db) →
          back.memberPermissions id user now = none := by
        intro back row e' henters
        refine Option.eq_none_iff_forall_ne_some.mpr fun p hp => hlive ?_
        exact ((henters.memberPermissions hc hg).mp hp).1
      rw [hnone henters₁, hnone henters₂]

lemma removeMember_marks {remover : Uuid} {t : Time} {left : Database}
    (hm : db.memberRow g user = some m) (hin : m.leftAt = none)
    (h : db.removeMember remover g user t = .ok left) :
    left.memberRow g user = some (m.gone t) ∧
      (∀ k, k ≠ g → left.memberRow k user = db.memberRow k user) ∧
      left = { db with conversationMembers := Database.withLeft db g user t } := by
  obtain ⟨-, -, -, rfl⟩ := Database.removeMember_ok h
  have hfind : ∀ k, (Database.withLeft db g user t).find (k, user) =
      (db.memberRow k user).map fun m =>
        if decide (m.key = (g, user) ∧ m.leftAt = none) = true then m.gone t else m :=
    fun k => KeyedTable.find_update ..
  refine ⟨?_, fun k hk => ?_, rfl⟩
  · rw [Database.memberRow, hfind, hm, Option.map_some,
      if_pos (by simpa [hin] using KeyedTable.find_key hm)]
  · rw [Database.memberRow, hfind]
    cases hrow : db.memberRow k user with
    | none => rfl
    | some m' =>
      have hkey : m'.key = (k, user) := KeyedTable.find_key hrow
      simp [hkey, hk]

section Leaving
variable {remover : Uuid} {t : Time} {left : Database} (hm : db.memberRow g user = some m)
  (hin : m.leftAt = none) (hleave : db.removeMember remover g user t = .ok left)
include hm hin hleave

lemma permissionInput_left (c : Conversation) :
    left.permissionInput c m.userId (m.gone t) = db.permissionInput c m.userId m := by
  obtain ⟨hrow, hothers, rfl⟩ := removeMember_marks hm hin hleave
  have hu : m.userId = user := (Database.memberRow_key hm).2
  unfold Database.permissionInput
  rw [hu]
  by_cases hc : c.id = g
  · rw [hc, hrow, hm]
    rfl
  · rw [hothers c.id hc]
    rfl

lemma leftOver_left (c : Conversation) :
    LeftOver left carried c (m.gone t) rung i ↔ LeftOver db carried c m rung i := by
  have hkept : kept left c (m.gone t) i = kept db c m i :=
    congrArg (fun input : EffectivePermissionInput => (input.allow.getD 0).testBit i)
      (permissionInput_left hm hin hleave c)
  obtain ⟨-, -, rfl⟩ := removeMember_marks hm hin hleave
  constructor
  · intro h
    cases h with
    | allow h => exact .allow (hkept ▸ h)
    | restricted hr h => exact .restricted hr h
    | overwrite hr h => exact .overwrite hr h
    | ladder hr hd h => exact .ladder hr hd h
    | named hr hd h hshown => exact .named hr hd h hshown
    | administrator hr hd h hall => exact .administrator hr hd h hall
  · intro h
    cases h with
    | allow h => exact .allow (hkept ▸ h)
    | restricted hr h => exact .restricted hr h
    | overwrite hr h => exact .overwrite hr h
    | ladder hr hd h => exact .ladder hr hd h
    | named hr hd h hshown => exact .named hr hd h hshown
    | administrator hr hd h hall => exact .administrator hr hd h hall

lemma denied_left (c : Conversation) : denied left c (m.gone t) i = denied db c m i :=
  congrArg (fun input : EffectivePermissionInput => (input.deny.getD 0).testBit i)
    (permissionInput_left hm hin hleave c)

lemma granted_left (c : Conversation) :
    Granted left carried c (m.gone t) rung i ↔ Granted db carried c m rung i := by
  have hkept : kept left c (m.gone t) i = kept db c m i :=
    congrArg (fun input : EffectivePermissionInput => (input.allow.getD 0).testBit i)
      (permissionInput_left hm hin hleave c)
  obtain ⟨-, -, rfl⟩ := removeMember_marks hm hin hleave
  unfold Granted
  rw [hkept]
  rfl

lemma sheds_left : Sheds left g (m.gone t) rung carried ↔ Sheds db g m rung carried := by
  have hover : ∀ c i, LeftOver left carried c (m.gone t) rung i ↔ LeftOver db carried c m rung i :=
    fun c _ => leftOver_left hm hin hleave c
  have hdenied : ∀ c i, denied left c (m.gone t) i = denied db c m i :=
    fun c _ => denied_left hm hin hleave c
  obtain ⟨-, -, rfl⟩ := removeMember_marks hm hin hleave
  unfold Sheds
  simp only [hover, hdenied]
  rfl

lemma alike_left {clock : Time} {r₁ r₂ : MemberRole} :
    Alike left g (m.gone t) carried clock r₁ r₂ ↔ Alike db g m carried clock r₁ r₂ := by
  have hgranted : ∀ c r i, Granted left carried c (m.gone t) r i ↔ Granted db carried c m r i :=
    fun c _ _ => granted_left hm hin hleave c
  have hdenied : ∀ c i, denied left c (m.gone t) i = denied db c m i :=
    fun c _ => denied_left hm hin hleave c
  have hu : (m.gone t).userId = m.userId := rfl
  have hinput : ∀ c, left.permissionInput c m.userId (m.gone t) =
      db.permissionInput c m.userId m := permissionInput_left hm hin hleave
  obtain ⟨-, -, rfl⟩ := removeMember_marks hm hin hleave
  unfold Alike
  simp only [hgranted, hdenied, hu, hinput]

end Leaving

lemma scope_of_kind {s : Conversation} (hs : db.conversations.find g = some s)
    (hkind : s.type = .group ∨ s.type = .space) : s.scope = g := by
  obtain ⟨hrow, hid⟩ := KeyedTable.find_eq_some.mp hs
  cases hp : s.parentId with
  | none => rw [Conversation.scope, hp, Option.getD_none, hid]
  | some p =>
    have hchannel := (db.one_level s hrow p hp).1
    rw [hchannel] at hkind
    rcases hkind with h | h <;> cases h

/-- Somebody who leaves, or is removed, and comes back by any door has no bit that a first-time
joiner through that door has not, exactly when all that they left with is denied or given to
everybody; and two doors agree exactly when the rungs they lead to are alike. -/
theorem leaving_sheds {remover : Uuid} {t : Time} {left : Database} {s : Conversation}
    (hs : db.conversations.find g = some s) (hkind : s.type = .group ∨ s.type = .space)
    (hm : db.memberRow g user = some m) (hin : m.leftAt = none)
    (hleave : db.removeMember remover g user t = .ok left) :
    (∀ (e : Entry) clock back, e.run left g user clock = .ok back → back.IsActiveMember g user →
      ∃ new, e.run (left.forget g user) g user clock = .ok new ∧ new.IsActiveMember g user ∧
        (NoMoreThan back new g user clock ↔ Sheds db g m (e.rung m.role) (e.carried db))) ∧
    ∀ (e₁ e₂ : Entry) clock₁ clock₂ back₁ back₂, e₁.run left g user clock₁ = .ok back₁ →
      back₁.IsActiveMember g user → e₂.run left g user clock₂ = .ok back₂ →
      back₂.IsActiveMember g user → e₁.carried db = e₂.carried db → ∀ clock,
        ((∀ id c, db.conversations.find id = some c → c.scope = g → ∀ now, clock ≤ now →
          back₁.memberPermissions id user now = back₂.memberPermissions id user now) ↔
        Alike db g m (e₁.carried db) clock (e₁.rung m.role) (e₂.rung m.role)) := by
  obtain ⟨hrow, -, hleft⟩ := removeMember_marks hm hin hleave
  have hcarried : ∀ e : Entry, e.carried left = e.carried db := by
    intro e
    rw [hleft]
    rfl
  have hconversations : left.conversations = db.conversations := by rw [hleft]
  have hroot : ∀ c, left.conversations.find g = some c → c.scope = g := by
    intro c hc
    rw [hconversations, hs] at hc
    obtain rfl := Option.some.inj hc
    exact scope_of_kind hs hkind
  have hgone : (m.gone t).leftAt ≠ none := by simp [ConversationMember.gone]
  refine ⟨fun e clock back h hback => ?_, fun e₁ e₂ clock₁ clock₂ back₁ back₂ h₁ hb₁ h₂ hb₂ hsame
    clock => ?_⟩
  · obtain ⟨new, hnew, hnewin, hiff⟩ := Entry.sheds hroot hrow hgone h hback
    refine ⟨new, hnew, hnewin, hiff.trans ?_⟩
    rw [hcarried]
    exact sheds_left hm hin hleave
  · rw [← alike_left hm hin hleave, ← hcarried, ← hconversations]
    exact Entry.agree hrow hgone h₁ hb₁ h₂ hb₂ (by rw [hcarried, hcarried, hsame])

end First

namespace Sample

def square : Database :=
  { database with
    conversations := ⟨[{ conversation 1 .space none with isPublic := true },
      conversation 2 .channel (some 1)], by decide⟩
    one_level := by unfold OneLevel; decide }

def gone (user : Uuid) : Except AppError Database := square.removeMember user 1 user 5

end Sample

lemma square_sheds : Sheds Sample.square 1 (.new 1 12 .member 0 0) .member none := by
  intro id c hc _ _ i hover
  have hnothing : ∀ c ∈ Sample.square.conversations.rows,
      (Sample.square.permissionInput c 12 (.new 1 12 .member 0 0)).allow.getD 0 = 0 ∧
      Sample.square.roleAllow c 12 = 0 ∧ Sample.square.rolePermissions c 12 = 0 := by decide
  obtain ⟨hallow, hoverwrites, hnamed⟩ := hnothing c (KeyedTable.find_eq_some.mp hc).1
  have hladder : (rolePermissions .member).testBit i = false := Nat.zero_testBit i
  cases hover with
  | allow h =>
    change Nat.testBit ((Sample.square.permissionInput c 12 _).allow.getD 0) i = true at h
    rw [hallow, Nat.zero_testBit] at h
    cases h
  | restricted hr => cases hr
  | overwrite _ h =>
    change (Sample.square.roleAllow c 12).testBit i = true at h
    rw [hoverwrites, Nat.zero_testBit] at h
    cases h
  | ladder _ _ h =>
    rw [hladder] at h
    cases h
  | named _ _ h | administrator _ _ h =>
    change (Sample.square.rolePermissions c 12).testBit _ = true at h
    rw [hnamed, Nat.zero_testBit] at h
    cases h

/-- 12 comes back with nothing more than anybody. -/
theorem leaving_sheds_member : ∃ left back new, Sample.gone 12 = .ok left ∧
    Entry.joined.run left 1 12 6 = .ok back ∧ Entry.joined.run (left.forget 1 12) 1 12 6 = .ok new ∧
    NoMoreThan back new 1 12 6 := by
  have hs : Sample.square.conversations.find 1 =
      some { Sample.conversation 1 .space none with isPublic := true } := rfl
  have hm : Sample.square.memberRow 1 12 = some (.new 1 12 .member 0 0) := rfl
  have hleave : Sample.square.removeMember 12 1 12 5 = .ok _ := rfl
  obtain ⟨new, hnew, -, hiff⟩ :=
    (leaving_sheds hs (Or.inr rfl) hm rfl hleave).1 .joined 6 _ rfl ⟨_, rfl, rfl⟩
  exact ⟨_, _, new, rfl, rfl, hnew, hiff.mpr square_sheds⟩

/-- An administrator leaves a public space and comes back as one, to ban whom they like; somebody who
had never been there could not, and the same administrator could not if the owner had added them. -/
theorem administrator_returns : ∃ left back new added p q r,
    Sample.gone 11 = .ok left ∧
    Entry.joined.run left 1 11 6 = .ok back ∧
    Entry.joined.run (left.forget 1 11) 1 11 6 = .ok new ∧
    (Entry.added 10 [11] fun _ => true).run left 1 11 6 = .ok added ∧
    back.memberPermissions 1 11 7 = some p ∧ new.memberPermissions 1 11 7 = some q ∧
    added.memberPermissions 1 11 7 = some r ∧
    has p Permission.banMembers = true ∧ has q Permission.banMembers = false ∧
    has r Permission.banMembers = false := by
  refine ⟨_, _, _, _, _, _, _, rfl, rfl, rfl, rfl, rfl, rfl, rfl, by decide, by decide, by decide⟩

end Yappy.Permissions
