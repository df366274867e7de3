import Yappy.PermissionSql

/-!
# The ungated fast path

`conversation_is_gated`, and the queries that use it to deliver over the member list: the
gateway's subscriptions, mention fan-out and the push roster.
-/
namespace Yappy.Permissions.Sql
variable (db : Database)

def conversationIsGated (conversation : Uuid) : Bool :=
  db.conversations.rows.any fun c => c.id = conversation && (c.basePermissions.isSome ||
    (db.conversationRoleOverwrites.rows.any fun o => o.conversationId = c.id) ||
    db.conversationMembers.rows.any fun d =>
      (d.conversationId = c.id || d.conversationId = c.scope) &&
        (d.deny ≠ 0 || d.allow ≠ 0 || d.role = .restricted))

def memberships (user : Uuid) : List (Uuid × Option Uuid) :=
  (db.conversations.rows.filter fun c => c.deletedAt = none &&
    (db.conversationMembers.rows.any fun m =>
      m.conversationId = c.scope && m.userId = user && m.leftAt = none) &&
    (!conversationIsGated db c.id || canViewConversation db c.id user)).map
      fun c => (c.id, c.parentId)

def roster (conversation memberScope actor : Uuid) : List Uuid :=
  (db.conversationMembers.rows.filter fun am => am.conversationId = memberScope &&
    am.leftAt = none && am.userId ≠ actor && (!conversationIsGated db conversation ||
      (conversationViewers db conversation).any fun v => v = am.userId)).map
        ConversationMember.userId

/-- Whom `recordMentions` writes a row for when a message names everyone. -/
def broadcastMentions (conversation memberScope actor : Uuid) : List Uuid :=
  roster db conversation memberScope actor

/-- Whom it writes one for when a message names roles. -/
def roleMentions (conversation memberScope actor : Uuid) (roleIds : List Uuid) : List Uuid :=
  ((db.memberRoles.rows.filter fun mr => mr.conversationId = memberScope &&
    mr.roleId ∈ roleIds && mr.userId ≠ actor && (!conversationIsGated db conversation ||
      (conversationViewers db conversation).any fun v => v = mr.userId)).filter fun mr =>
        db.conversationMembers.rows.any fun am => am.conversationId = mr.conversationId &&
          am.userId = mr.userId && am.leftAt = none).map RoleAssignment.userId |>.dedup

def pushRoster (conversation sender : Uuid) : List Uuid :=
  (db.conversations.rows.filter fun c => c.id = conversation).flatMap fun c =>
    roster db c.id c.scope sender

variable {db}

structure Ungated (db : Database) (c : Conversation) : Prop where
  base : c.basePermissions = none
  overwrites : ∀ o ∈ db.conversationRoleOverwrites.rows, o.conversationId ≠ c.id
  members : ∀ d ∈ db.conversationMembers.rows, d.conversationId = c.id ∨ d.conversationId = c.scope →
    d.deny = 0 ∧ d.allow = 0 ∧ d.role ≠ .restricted

lemma ungated_of_not_gated {conversation : Uuid} {c : Conversation}
    (hc : db.conversations.find conversation = some c)
    (hg : conversationIsGated db conversation = false) : Ungated db c := by
  obtain ⟨hm, hid⟩ := KeyedTable.find_eq_some.mp hc
  have h := List.any_eq_false.mp hg c hm
  simp only [hid, decide_true, Bool.true_and, Bool.not_eq_true,
    List.any_eq_false, decide_eq_true_eq, Bool.and_eq_true, Bool.or_eq_true, not_and, not_or,
    not_not] at h
  obtain ⟨⟨hb, ho⟩, hd⟩ := h
  refine ⟨by simpa using hb, fun o hm => hid ▸ ho o hm, fun d hm hs => ?_⟩
  obtain ⟨⟨hdeny, hallow⟩, hrole⟩ := hd d hm (hid ▸ hs)
  exact ⟨hdeny, hallow, hrole⟩

lemma ungated_has_view {c : Conversation} {user : Uuid} {a : ConversationMember} (clock : Time)
    (hu : Ungated db c) (ha : db.authority c user = some a) :
    has (effectivePermissions (db.permissionInput c user a) clock)
      Permission.viewConversation = true := by
  have harow : a ∈ db.conversationMembers.rows ∧ a.conversationId = c.scope := by
    unfold Database.authority at ha
    unfold Conversation.scope
    cases hp : c.parentId <;> rw [hp] at ha <;>
      exact ⟨(KeyedTable.find_eq_some.mp ha).1, congrArg Prod.fst (KeyedTable.find_key ha)⟩
  obtain ⟨hdeny, -, hrole⟩ := hu.members a harow.1 (Or.inr harow.2)
  have hroleDeny : db.roleDeny c user = 0 := by
    have : (db.conversationRoleOverwrites.rows.filter fun o => o.conversationId = c.id) = [] :=
      List.filter_eq_nil_iff.mpr fun o hm he => hu.overwrites o hm (of_decide_eq_true he)
    simp [Database.roleDeny, Database.roleOverwrites, this]
  have hown : ((db.memberRow c.id user).elim 0 fun m => (m.deny : ℕ)) = 0 := by
    cases hm : db.memberRow c.id user with
    | none => rfl
    | some m =>
      obtain ⟨hrow, hkey⟩ := KeyedTable.find_eq_some.mp hm
      simp [(hu.members m hrow (Or.inl (congrArg Prod.fst hkey))).1]
  have hfloor : ((db.permissionInput c user a).tiers clock).floor.testBit 0 = true := by
    refine EffectivePermissionInput.testBit_floor_of_base clock hrole (by decide) ?_
    simp only [Database.permissionInput, hu.base, Option.map_none, Option.getD_none]
    exact testBit_default_view c.type
  rw [effectivePermissions_eq_compose, has_view_compose]
  refine Or.inr ?_
  rw [Tiers.testBit_compose]
  have htiers : ((db.permissionInput c user a).tiers clock).roleDeny = 0 ∧
      ((db.permissionInput c user a).tiers clock).deny = 0 := by
    simp [EffectivePermissionInput.tiers, Database.permissionInput, hrole, hroleDeny, hown, hdeny]
  simp only [hfloor, htiers.1, htiers.2, Nat.zero_testBit, Bool.not_false, Bool.and_self,
    Bool.true_or]

lemma ungated_viewers {conversation user : Uuid} {c : Conversation}
    (hc : db.conversations.find conversation = some c) (hlive : c.deletedAt = none)
    (hg : conversationIsGated db conversation = false) :
    user ∈ conversationViewers db conversation ↔ db.IsActiveMember c.scope user := by
  have hu := ungated_of_not_gated hc hg
  have hauth : db.authority c user = db.memberRow c.scope user := by
    unfold Database.authority Conversation.scope
    cases c.parentId <;> rfl
  rw [mem_conversationViewers 0]
  constructor
  · rintro ⟨c', a, hc', -, ha, hleft, -⟩
    obtain rfl := Option.some.inj (hc.symm.trans hc')
    exact ⟨a, hauth ▸ ha, hleft⟩
  · rintro ⟨a, ha, hleft⟩
    exact ⟨c, a, hc, hlive, hauth.trans ha, hleft, ungated_has_view 0 hu (hauth.trans ha)⟩

lemma isActiveMember_iff {conversation user : Uuid} :
    db.IsActiveMember conversation user ↔ ∃ m ∈ db.conversationMembers.rows,
      m.conversationId = conversation ∧ m.userId = user ∧ m.leftAt = none := by
  simp only [Database.IsActiveMember, Database.memberRow, KeyedTable.find_eq_some,
    ConversationMember.key, Prod.mk.injEq]
  constructor
  · rintro ⟨m, ⟨hm, hc, hu⟩, hl⟩
    exact ⟨m, hm, hc, hu, hl⟩
  · rintro ⟨m, hm, hc, hu, hl⟩
    exact ⟨m, ⟨hm, hc, hu⟩, hl⟩

lemma mem_roster {conversation memberScope actor user : Uuid}
    (hg : conversationIsGated db conversation = false) :
    user ∈ roster db conversation memberScope actor ↔
      db.IsActiveMember memberScope user ∧ user ≠ actor := by
  simp only [roster, hg, isActiveMember_iff, List.mem_map, List.mem_filter, Bool.not_false,
    Bool.true_or, Bool.and_true, Bool.and_eq_true, decide_eq_true_eq]
  constructor
  · rintro ⟨m, ⟨hm, ⟨hc, hl⟩, ha⟩, rfl⟩
    exact ⟨⟨m, hm, hc, rfl, hl⟩, ha⟩
  · rintro ⟨⟨m, hm, hc, rfl, hl⟩, ha⟩
    exact ⟨m, ⟨hm, ⟨hc, hl⟩, ha⟩, rfl⟩

lemma mem_memberships {conversation user : Uuid} {c : Conversation}
    (hc : db.conversations.find conversation = some c) (hlive : c.deletedAt = none)
    (hg : conversationIsGated db conversation = false) :
    (conversation, c.parentId) ∈ memberships db user ↔ db.IsActiveMember c.scope user := by
  obtain ⟨hrow, hid⟩ := KeyedTable.find_eq_some.mp hc
  simp only [memberships, isActiveMember_iff, List.mem_map, List.mem_filter, List.any_eq_true,
    Bool.and_eq_true, decide_eq_true_eq, Prod.mk.injEq, and_assoc]
  constructor
  · rintro ⟨c', hc', -, ⟨m, hm, hmc, hmu, hml⟩, -, hid', -⟩
    obtain rfl : c = c' :=
      Option.some.inj (hc.symm.trans (KeyedTable.find_eq_some.mpr ⟨hc', hid'⟩))
    exact ⟨m, hm, hmc, hmu, hml⟩
  · rintro ⟨m, hm, hmc, hmu, hml⟩
    exact ⟨c, hrow, hlive, ⟨m, hm, hmc, hmu, hml⟩, by simp [hid, hg], hid, rfl⟩

lemma mem_roleMentions {conversation memberScope actor user : Uuid} {roleIds : List Uuid}
    (hg : conversationIsGated db conversation = false) :
    user ∈ roleMentions db conversation memberScope actor roleIds ↔
      db.IsActiveMember memberScope user ∧ user ≠ actor ∧
        ∃ mr ∈ db.memberRoles.rows, mr.conversationId = memberScope ∧ mr.userId = user ∧
          mr.roleId ∈ roleIds := by
  simp only [roleMentions, hg, isActiveMember_iff, List.mem_dedup, List.mem_map, List.mem_filter,
    Bool.not_false, Bool.true_or, Bool.and_true, Bool.and_eq_true, decide_eq_true_eq,
    List.any_eq_true, and_assoc]
  constructor
  · rintro ⟨mr, hmr, hc, hr, ha, ⟨am, ham, hac, hau, hal⟩, rfl⟩
    exact ⟨⟨am, ham, hac.trans hc, hau, hal⟩, ha, mr, hmr, hc, rfl, hr⟩
  · rintro ⟨⟨am, ham, hac, hau, hal⟩, ha, mr, hmr, hc, rfl, hr⟩
    exact ⟨mr, hmr, hc, hr, ha, ⟨am, ham, hac.trans hc.symm, hau, hal⟩, rfl⟩

lemma mem_pushRoster {conversation sender user : Uuid} {c : Conversation}
    (hc : db.conversations.find conversation = some c) :
    user ∈ pushRoster db conversation sender ↔ user ∈ roster db conversation c.scope sender := by
  have hid := KeyedTable.find_key hc
  rw [pushRoster, KeyedTable.filter_key, hc]
  simp [hid]

/-- Delivery over the member list of an ungated conversation reaches its viewers: the socket,
mention and push queries all answer exactly the people who may read it. -/
theorem ungated_delivery {conversation : Uuid} {c : Conversation}
    (hc : db.conversations.find conversation = some c) (hlive : c.deletedAt = none)
    (hg : conversationIsGated db conversation = false) :
    (∀ user, user ∈ conversationViewers db conversation ↔ db.IsActiveMember c.scope user) ∧
    (∀ user, (conversation, c.parentId) ∈ memberships db user ↔
      user ∈ conversationViewers db conversation) ∧
    (∀ actor user, user ∈ broadcastMentions db conversation c.scope actor ↔
      user ∈ conversationViewers db conversation ∧ user ≠ actor) ∧
    (∀ actor roleIds user, user ∈ roleMentions db conversation c.scope actor roleIds ↔
      user ∈ conversationViewers db conversation ∧ user ≠ actor ∧
        ∃ mr ∈ db.memberRoles.rows, mr.conversationId = c.scope ∧ mr.userId = user ∧
          mr.roleId ∈ roleIds) ∧
    (∀ sender user, user ∈ pushRoster db conversation sender ↔
      user ∈ conversationViewers db conversation ∧ user ≠ sender) := by
  have hviewers := fun user => @ungated_viewers db conversation user c hc hlive hg
  refine ⟨hviewers, fun user => ?_, fun actor user => ?_, fun actor roleIds user => ?_,
    fun sender user => ?_⟩
  · rw [hviewers, mem_memberships hc hlive hg]
  · rw [hviewers, broadcastMentions, mem_roster hg]
  · rw [hviewers, mem_roleMentions hg]
  · rw [hviewers, mem_pushRoster hc, mem_roster hg]

/-- The sample channel is ungated: a member reads it, somebody who left does not. -/
theorem ungated_delivery_sample : 12 ∈ conversationViewers Sample.database 2 ∧
    14 ∉ conversationViewers Sample.database 2 := by
  obtain ⟨hviewers, -⟩ := @ungated_delivery Sample.database 2
    (Sample.conversation 2 .channel (some 1)) (by decide) rfl (by decide)
  refine ⟨(hviewers 12).mpr ⟨.new 1 12 .member 0 0, by decide, rfl⟩, fun h => ?_⟩
  obtain ⟨m, hm, hleft⟩ := (hviewers 14).mp h
  obtain rfl := Option.some.inj (hm.symm.trans
    (show _ = some { ConversationMember.new 1 14 .member 0 0 with leftAt := some 5 } by decide))
  cases hleft

end Yappy.Permissions.Sql
