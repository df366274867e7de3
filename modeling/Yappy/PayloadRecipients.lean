import Yappy.ConversationPayload

/-!
# Whose payload it is

When the one payload that `create` or `addMembers` sends is that of everybody who is sent it, and says nothing of what
is private to the actor. Two runs are compared, from databases that differ in the actor's own member rows.
-/
namespace Yappy.Payloads

open Permissions (AppError Conversation ConversationMember SkipReason Time Uuid)

/-! ### Another private state -/

section Private
variable {tables : Permissions.Database} {db : Database} {user v k id : Uuid} {state : Uuid → PrivateState}
  {c : Conversation} {a m : ConversationMember} {clock : Time}

def kept (user : Uuid) (state : Uuid → PrivateState) (m : ConversationMember) : ConversationMember :=
  if m.userId = user then PrivateState.set state m else m

lemma kept_columns : (kept user state m).conversationId = m.conversationId ∧ (kept user state m).userId = m.userId ∧
    (kept user state m).role = m.role ∧ (kept user state m).allow = m.allow ∧ (kept user state m).deny = m.deny ∧
    (kept user state m).mutedUntil = m.mutedUntil ∧ (kept user state m).leftAt = m.leftAt := by
  unfold kept
  split_ifs
  · exact ⟨rfl, rfl, rfl, rfl, rfl, rfl, rfl⟩
  · exact ⟨rfl, rfl, rfl, rfl, rfl, rfl, rfl⟩

lemma memberRow_setPrivate : (setPrivate tables user state).memberRow k v =
    (tables.memberRow k v).map (kept user state) := by
  have h := KeyedTable.find_update tables.conversationMembers (fun m => m.userId = user) (PrivateState.set state)
    (fun _ => rfl) (k, v)
  refine h.trans (congrArg (Option.map · _) (funext fun m => ?_))
  simp only [kept, decide_eq_true_eq]

lemma authority_setPrivate : (setPrivate tables user state).authority c v =
    (tables.authority c v).map (kept user state) := by
  unfold Permissions.Database.authority
  cases c.parentId with
  | none => exact memberRow_setPrivate
  | some p => exact memberRow_setPrivate

lemma permissionInput_setPrivate : (setPrivate tables user state).permissionInput c v (kept user state a) =
    tables.permissionInput c v a := by
  obtain ⟨-, -, hrole, hallow, hdeny, hmuted, -⟩ := @kept_columns user state a
  unfold Permissions.Database.permissionInput
  rw [memberRow_setPrivate, hrole, hallow, hdeny, hmuted]
  cases tables.memberRow c.id v with
  | none => rfl
  | some r =>
    obtain ⟨-, -, -, hallow', hdeny', hmuted', -⟩ := @kept_columns user state r
    simp only [Option.map_some, Option.elim_some, Option.bind_some, hallow', hdeny', hmuted']
    rfl

lemma context_setPrivate {ctx : Permissions.MemberContext} (h : tables.loadMemberContext id v clock = some ctx) :
    ∃ ctx', (setPrivate tables user state).loadMemberContext id v clock = some ctx' ∧
      ctx'.conversation = ctx.conversation ∧ ctx'.permissions = ctx.permissions := by
  obtain ⟨c, a, hc, hlive, ha, hleft, hcc, -, -, hp⟩ := Permissions.Database.loadMemberContext_eq_some.mp h
  have hleft' : (kept user state a).leftAt = none := by
    rw [kept_columns.2.2.2.2.2.2]
    exact hleft
  have ha' : (setPrivate tables user state).authority c v = some (kept user state a) := by
    rw [authority_setPrivate, ha, Option.map_some]
  refine ⟨⟨c, _, _, _⟩, Permissions.Database.loadMemberContext_eq_some.mpr
    ⟨c, kept user state a, hc, hlive, ha', hleft', rfl, rfl, rfl, rfl⟩, hcc.symm, ?_⟩
  change Permissions.effectivePermissions ((setPrivate tables user state).permissionInput c v (kept user state a)) clock = _
  rw [hp, permissionInput_setPrivate]

lemma memberCount_setPrivate : (setPrivate tables user state).memberCount id = tables.memberCount id := by
  have hrows : (setPrivate tables user state).conversationMembers.rows =
      tables.conversationMembers.rows.map (kept user state) := by
    refine List.map_congr_left fun m _ => ?_
    simp only [kept, decide_eq_true_eq]
  unfold Permissions.Database.memberCount
  rw [hrows, List.filter_map, List.length_map]
  refine congrArg List.length (List.filter_congr fun m _ => ?_)
  obtain ⟨hc, -, -, -, -, -, hl⟩ := @kept_columns user state m
  simp only [Function.comp_apply, hc, hl]

lemma skipReason_setPrivate {initiable : Uuid → Bool} : (setPrivate tables user state).skipReason id initiable v =
    tables.skipReason id initiable v := by
  have hany : (((setPrivate tables user state).memberRow id v).any fun m => m.leftAt.isNone) =
      (tables.memberRow id v).any fun m => m.leftAt.isNone := by
    rw [memberRow_setPrivate]
    cases tables.memberRow id v with
    | none => rfl
    | some r => simp only [Option.map_some, Option.any_some, kept_columns]
  unfold Permissions.Database.skipReason
  rw [hany]
  rfl

lemma addMembers_setPrivate {userIds added : List Uuid} {initiable : Uuid → Bool} {skipped : List (Uuid × SkipReason)}
    {actor : Uuid} {tables' : Permissions.Database}
    (h : tables.addMembers actor id userIds initiable clock = .ok (tables', added, skipped)) :
    ∃ c, tables.conversations.find id = some c ∧
      (setPrivate tables user state).addMembers actor id userIds initiable clock =
        .ok (withRows (setPrivate tables user state) actor c id clock added, added, skipped) := by
  simp only [Permissions.Database.addMembers, Permissions.bind_eq_ok, Permissions.exists_unit, Permissions.ensure_eq_ok,
    Permissions.Database.requireMember_eq_ok] at h
  obtain ⟨ctx, hctx, htype, hholds, hfull, h⟩ := h
  obtain ⟨rfl, rfl, rfl⟩ := Prod.mk.inj (Except.ok.inj h) |>.imp_right Prod.mk.inj
  obtain ⟨ctx', hctx', hc, hp⟩ := @context_setPrivate _ user _ _ state _ _ hctx
  refine ⟨ctx.conversation, ?_, ?_⟩
  · obtain ⟨c, -, hfind, -, -, -, hcc, -⟩ := Permissions.Database.loadMemberContext_eq_some.mp hctx
    rw [hcc]
    exact hfind
  · simp only [Permissions.Database.addMembers, Permissions.bind_eq_ok, Permissions.exists_unit, Permissions.ensure_eq_ok,
      Permissions.Database.requireMember_eq_ok]
    refine ⟨ctx', hctx', ?_, ?_, ?_, ?_⟩
    · rw [hc]
      exact htype
    · unfold Permissions.Database.holds
      rw [hp]
      exact hholds
    · simp only [skipReason_setPrivate, memberCount_setPrivate]
      exact hfull
    · simp only [skipReason_setPrivate, hc]
      rfl

def stateOf (db : Database) (user id : Uuid) : PrivateState :=
  match db.tables.memberRow id user with
  | some m => ⟨db.preferences (id, user), m.isAffiliate, m.lastReadSeq, m.mentionCount, m.isPinned, m.isArchived, m.draft⟩
  | none => ⟨db.preferences (id, user), false, 0, 0, false, false, none⟩

lemma set_stateOf {preferences : Uuid → Preferences} (hm : m ∈ db.tables.conversationMembers.rows)
    (huser : m.userId = user) :
    PrivateState.set (fun id => { stateOf db user id with preferences := preferences id }) m = m := by
  have hrow : db.tables.memberRow m.conversationId user = some m := KeyedTable.find_eq_some.mpr
    ⟨hm, by rw [ConversationMember.key, huser]⟩
  simp only [PrivateState.set, stateOf, hrow]

lemma members_ext {t t' : KeyedTable ConversationMember.key} (h : t.rows = t'.rows) : t = t' := by
  cases t
  cases t'
  congr

lemma setPrivate_stateOf (db : Database) (user : Uuid) (preferences : Uuid → Preferences) :
    setPrivate db.tables user (fun id => { stateOf db user id with preferences := preferences id }) = db.tables := by
  have hrows : (setPrivate db.tables user fun id =>
      { stateOf db user id with preferences := preferences id }).conversationMembers = db.tables.conversationMembers := by
    refine members_ext ((List.map_congr_left fun m hm => ?_).trans (List.map_id _))
    split_ifs with huser
    · exact set_stateOf hm (of_decide_eq_true huser)
    · rfl
  exact congrArg (fun t => ({ db.tables with conversationMembers := t } : Permissions.Database)) hrows

lemma setPrivate_twice {state' : Uuid → PrivateState} : setPrivate (setPrivate tables user state) user state' =
    setPrivate tables user state' := by
  have hrows : (setPrivate (setPrivate tables user state) user state').conversationMembers =
      (setPrivate tables user state').conversationMembers := by
    refine members_ext ((List.map_map).trans (List.map_congr_left fun m _ => ?_))
    by_cases huser : m.userId = user
    · simp [huser, PrivateState.set]
    · simp [huser]
  exact congrArg (fun t => ({ tables with conversationMembers := t } : Permissions.Database)) hrows

lemma withPrivate_undo (db : Database) (user : Uuid) (state : Uuid → PrivateState) :
    (db.withPrivate user state).withPrivate user
      (fun id => { stateOf db user id with preferences := db.preferences (id, user) }) = db := by
  have htables := (@setPrivate_twice db.tables user state _).trans
    (setPrivate_stateOf db user fun id => db.preferences (id, user))
  have hpreferences : ((db.withPrivate user state).withPrivate user
      (fun id => { stateOf db user id with preferences := db.preferences (id, user) })).preferences = db.preferences := by
    funext k
    obtain ⟨k, v⟩ := k
    by_cases hv : v = user
    · simp [Database.withPrivate, hv]
    · simp [Database.withPrivate, hv]
  exact congrArg₂ (fun t p => Database.mk t p db.dmKey) htables hpreferences

end Private

/-! ### People who are added -/

section Added
variable {db : Database} {actor id u : Uuid} {userIds added : List Uuid} {refusal : Uuid → Option AppError} {clock : Time}
  {c : Conversation} {payload : Payload} {state : Uuid → PrivateState}

def candidates (db : Database) (id : Uuid) (userIds : List Uuid) (refusal : Uuid → Option AppError) : List Uuid :=
  userIds.eraseDups.filter fun userId =>
    (db.tables.skipReason id (fun userId => (refusal userId).isNone) userId).isNone

def afterwards (db : Database) (actor : Uuid) (c : Conversation) (id : Uuid) (clock : Time) (added : List Uuid) : Database :=
  (db.joined (withRows db.tables actor c id clock added) id added).announced id

lemma candidates_withPrivate {user : Uuid} : candidates (db.withPrivate user state) id userIds refusal =
    candidates db id userIds refusal := by
  refine List.filter_congr fun v _ => ?_
  change (Option.isNone ((setPrivate db.tables user state).skipReason id _ v)) = _
  rw [skipReason_setPrivate]

lemma addMembers_ok {out : Added} (h : db.addMembers actor id userIds refusal clock = .ok out) :
    ∃ c, db.tables.conversations.find id = some c ∧ c.type ≠ .dm ∧ db.tables.authority c actor ≠ none ∧
      db.tables.addMembers actor id userIds (fun userId => (refusal userId).isNone) clock =
        .ok (withRows db.tables actor c id clock out.added, out.added, out.skipped) ∧
      out.added = candidates db id userIds refusal ∧
      ((out.added = [] ∧ out.delivered = []) ∨ (out.added ≠ [] ∧ out.db = afterwards db actor c id clock out.added ∧
        ∃ view, out.db.view id actor clock = .ok view ∧ out.delivered = toUsers out.added view)) := by
  unfold Database.addMembers at h
  simp only [Permissions.bind_eq_ok] at h
  obtain ⟨⟨tables, added, skipped⟩, hadd, h⟩ := h
  have hspec := hadd
  simp only [Permissions.Database.addMembers, Permissions.bind_eq_ok, Permissions.exists_unit, Permissions.ensure_eq_ok,
    Permissions.Database.requireMember_eq_ok, decide_eq_true_eq] at hspec
  obtain ⟨ctx, hctx, htype, -, -, hspec⟩ := hspec
  obtain ⟨rfl, rfl, rfl⟩ := Prod.mk.inj (Except.ok.inj hspec) |>.imp_right Prod.mk.inj
  obtain ⟨c, a, hfind, -, ha, -, hcc, -⟩ := Permissions.Database.loadMemberContext_eq_some.mp hctx
  rw [hcc] at htype
  rw [hcc] at hadd h
  refine ⟨c, hfind, htype, fun hnone => absurd (ha.symm.trans hnone) (Option.some_ne_none a), ?_⟩
  dsimp only at h
  split_ifs at h with hnone
  · obtain rfl := Except.ok.inj h
    exact ⟨hadd, rfl, .inl ⟨hnone, rfl⟩⟩
  · obtain ⟨view, hview, h⟩ := Permissions.bind_eq_ok.mp h
    obtain rfl := Except.ok.inj h
    exact ⟨hadd, rfl, .inr ⟨hnone, rfl, view, hview, rfl⟩⟩

lemma addMembers_eq {skipped : List (Uuid × SkipReason)}
    (hadd : db.tables.addMembers actor id userIds (fun userId => (refusal userId).isNone) clock =
      .ok (withRows db.tables actor c id clock added, added, skipped)) (hne : added ≠ [])
    (hview : (afterwards db actor c id clock added).view id actor clock = .ok payload) :
    db.addMembers actor id userIds refusal clock =
      .ok ⟨⟨afterwards db actor c id clock added, toUsers added payload⟩, added, skipped⟩ := by
  unfold Database.addMembers
  simp only [Permissions.bind_eq_ok]
  refine ⟨_, hadd, ?_⟩
  dsimp only
  rw [if_neg hne, Permissions.bind_eq_ok]
  exact ⟨payload, hview, rfl⟩

lemma find_afterwards (hfind : db.tables.conversations.find id = some c) :
    (afterwards db actor c id clock added).tables.conversations.find id = some (numbered c) :=
  Database.find_announced (hfind : (db.joined (withRows db.tables actor c id clock added) id added).tables.conversations.find
    id = some c)

lemma memberRow_afterwards (k v : Uuid) : (afterwards db actor c id clock added).tables.memberRow k v =
    if k = id ∧ v ∈ added then some (((db.tables.memberRow k v).map (ConversationMember.readded actor)).getD
      (Permissions.Database.addedRow actor c id v clock)) else db.tables.memberRow k v :=
  Permissions.Database.memberRow_addRows
    (rfl : (withRows db.tables actor c id clock added).conversationMembers = _) k v

lemma authority_afterwards {p : Uuid} (hfind : db.tables.conversations.find id = some c) (hparent : c.parentId = some p) :
    (afterwards db actor c id clock added).tables.authority (numbered c) u = db.tables.authority c u := by
  have hne : p ≠ id := fun he => Permissions.Database.parent_ne hfind (he ▸ hparent)
  have hnumbered : (numbered c).parentId = some p := hparent
  unfold Permissions.Database.authority
  rw [hparent, hnumbered]
  exact (memberRow_afterwards p u).trans (if_neg fun he => hne he.1)

lemma permissionInput_afterwards {b : ConversationMember} :
    (afterwards db actor c id clock added).tables.permissionInput (numbered c) u b = db.tables.permissionInput c u b := by
  have hrow : (((afterwards db actor c id clock added).tables.memberRow c.id u).elim 0 fun m => (m.allow : ℕ)) =
        ((db.tables.memberRow c.id u).elim 0 fun m => (m.allow : ℕ)) ∧
      (((afterwards db actor c id clock added).tables.memberRow c.id u).elim 0 fun m => (m.deny : ℕ)) =
        ((db.tables.memberRow c.id u).elim 0 fun m => (m.deny : ℕ)) ∧
      ((afterwards db actor c id clock added).tables.memberRow c.id u).bind ConversationMember.mutedUntil =
        (db.tables.memberRow c.id u).bind ConversationMember.mutedUntil := by
    rw [memberRow_afterwards]
    split_ifs
    · cases db.tables.memberRow c.id u with
      | none => exact ⟨rfl, rfl, rfl⟩
      | some m => exact ⟨rfl, rfl, rfl⟩
    · exact ⟨rfl, rfl, rfl⟩
  obtain ⟨hallow, hdeny, hmuted⟩ := hrow
  have hnumbered : (numbered c).id = c.id := rfl
  unfold Permissions.Database.permissionInput
  rw [hnumbered, hallow, hdeny, hmuted]
  rfl

def preferencesAdded (db : Database) (id u : Uuid) : Preferences :=
  if db.tables.memberRow id u = none then .initial else db.preferences (id, u)

def rowAdded (db : Database) (actor : Uuid) (c : Conversation) (u : Uuid) (clock : Time) : ConversationMember :=
  (db.tables.memberRow c.id u).getD (Permissions.Database.addedRow actor c c.id u clock)

def payloadAdded (db : Database) (actor : Uuid) (c : Conversation) (u : Uuid) (clock : Time) (added : List Uuid)
    (authority : ConversationMember) : Payload where
  conversation := numbered c
  memberCount := (afterwards db actor c c.id clock added).tables.memberCount c.scope
  parentTitle := (c.parentId.bind (afterwards db actor c c.id clock added).tables.conversations.find).bind Conversation.title
  otherUser := none
  permissions := Permissions.effectivePermissions (db.tables.permissionInput c u authority) clock
  canPost := Permissions.has (Permissions.effectivePermissions (db.tables.permissionInput c u authority) clock)
    Permissions.Permission.sendMessages
  self := selfOf authority.role (rowAdded db actor c u clock) (preferencesAdded db c.id u) (c.messageSeq + 1)

lemma view_afterwards {p : Uuid} (hfind : db.tables.conversations.find c.id = some c) (hparent : c.parentId = some p)
    (htype : c.type ≠ .dm) (hu : u ∈ added) :
    (afterwards db actor c c.id clock added).view c.id u clock = .ok payload ↔ c.deletedAt = none ∧
      ∃ b, db.tables.authority c u = some b ∧ b.leftAt = none ∧ payload = payloadAdded db actor c u clock added b := by
  have hfind' := @find_afterwards db actor c.id added clock c hfind
  have hrow := @memberRow_afterwards db actor c.id added clock c c.id u
  rw [if_pos ⟨rfl, hu⟩] at hrow
  have hpayload : ∀ ctx b, ctx.conversation = numbered c → ctx.memberIsVirtual = false →
      ctx.permissions = Permissions.effectivePermissions (db.tables.permissionInput c u b) clock →
      ctx.member = { ((db.tables.memberRow c.id u).map (ConversationMember.readded actor)).getD
        (Permissions.Database.addedRow actor c c.id u clock) with role := b.role } →
      (afterwards db actor c c.id clock added).toConversation ctx u = payloadAdded db actor c u clock added b := by
    intro ctx b hc hv hp hm
    have hother : (afterwards db actor c c.id clock added).otherUser (numbered c) u = none := if_neg htype
    have hprefs : (afterwards db actor c c.id clock added).preferences (c.id, u) = preferencesAdded db c.id u := by
      change (if _ then _ else _) = _
      simp only [hu, true_and, preferencesAdded]
    unfold Database.toConversation Database.preferencesOf
    rw [hc, hv, hp, hm, hother]
    simp only [Bool.false_eq_true, if_false]
    have hnumbered : (numbered c).id = c.id := rfl
    rw [hnumbered, hprefs]
    unfold payloadAdded rowAdded
    cases db.tables.memberRow c.id u with
    | none => rfl
    | some m => rfl
  rw [Database.view_eq_ok]
  constructor
  · rintro ⟨ctx, hctx, rfl⟩
    obtain ⟨c', b, hc', hlive, hb, hleft, hcc, hm, hv, hp⟩ := Permissions.Database.loadMemberContext_eq_some.mp hctx
    obtain rfl := Option.some.inj (hfind'.symm.trans hc')
    rw [authority_afterwards hfind hparent] at hb
    refine ⟨hlive, b, hb, hleft, hpayload ctx b hcc ?_ (by rw [hp, permissionInput_afterwards]) ?_⟩
    · exact hv.trans (by rw [show (numbered c).id = c.id from rfl, hrow]; rfl)
    · exact hm.trans (by rw [show (numbered c).id = c.id from rfl, hrow]; rfl)
  · rintro ⟨hlive, b, hb, hleft, rfl⟩
    have hb' : (afterwards db actor c c.id clock added).tables.authority (numbered c) u = some b := by
      rw [authority_afterwards hfind hparent]
      exact hb
    have hctx : (afterwards db actor c c.id clock added).tables.loadMemberContext c.id u clock =
        some ⟨numbered c, _, _, Permissions.effectivePermissions
          ((afterwards db actor c c.id clock added).tables.permissionInput (numbered c) u b) clock⟩ :=
      Permissions.Database.loadMemberContext_eq_some.mpr
        ⟨numbered c, b, hfind', hlive, hb', hleft, rfl, rfl, rfl, rfl⟩
    refine ⟨_, hctx, hpayload _ b rfl ?_ ?_ ?_⟩
    · change Option.isNone ((afterwards db actor c c.id clock added).tables.memberRow c.id u) = false
      rw [hrow]
      rfl
    · change Permissions.effectivePermissions _ clock = _
      rw [permissionInput_afterwards]
    · change ({ Option.getD ((afterwards db actor c c.id clock added).tables.memberRow c.id u) _ with role := b.role } :
        ConversationMember) = _
      rw [hrow]
      rfl

end Added

section Added
variable {db : Database} {actor id u k : Uuid} {userIds added : List Uuid} {refusal : Uuid → Option AppError} {clock : Time}
  {c : Conversation} {payload : Payload} {state : Uuid → PrivateState}

lemma count_upsert {t : KeyedTable ConversationMember.key} {r : ConversationMember}
    {f : ConversationMember → ConversationMember} (hf : ∀ m, (f m).key = m.key) (hr : r.conversationId ≠ k) :
    ((t.upsert r f hf).rows.filter fun m => m.conversationId = k ∧ m.leftAt = none).length =
      (t.rows.filter fun m => m.conversationId = k ∧ m.leftAt = none).length := by
  have hupdate : ((t.update (fun m => m.key = r.key) f hf).rows.filter fun m =>
      m.conversationId = k ∧ m.leftAt = none).length =
      (t.rows.filter fun m => m.conversationId = k ∧ m.leftAt = none).length := by
    unfold KeyedTable.update
    rw [List.filter_map, List.length_map]
    refine congrArg List.length (List.filter_congr fun m _ => ?_)
    by_cases hkey : m.key = r.key
    · have hm : m.conversationId ≠ k := fun he => hr ((congrArg Prod.fst hkey).symm.trans he)
      have hfm : (f m).conversationId ≠ k := fun he => hm ((congrArg Prod.fst (hf m)).symm.trans he)
      simp [hkey, hm, hfm]
    · simp [hkey]
  unfold KeyedTable.upsert KeyedTable.insertIgnore
  split_ifs
  · exact hupdate
  · rw [List.filter_cons_of_neg (by simp [hr])]
    exact hupdate

lemma memberCount_afterwards (hk : k ≠ id) :
    (afterwards db actor c id clock added).tables.memberCount k = db.tables.memberCount k := by
  change ((db.tables.addRows actor c id clock added).rows.filter _).length = _
  unfold Permissions.Database.addRows
  induction added using List.reverseRecOn with
  | nil => rfl
  | append_singleton added x ih =>
    rw [List.foldl_concat]
    exact (count_upsert (ConversationMember.readded_key actor) fun he => hk he.symm).trans ih

/-- In a channel that the actor has no row in, `u` sees what the actor does once both are added. -/
structure Alike (db : Database) (actor : Uuid) (c : Conversation) (u : Uuid) (clock : Time) : Prop where
  newcomer : db.tables.memberRow c.id actor = none
  same : ∃ a b, db.tables.authority c actor = some a ∧ db.tables.authority c u = some b ∧ b.leftAt = none ∧
    Permissions.effectivePermissions (db.tables.permissionInput c u b) clock =
      Permissions.effectivePermissions (db.tables.permissionInput c actor a) clock ∧
    selfOf b.role (rowAdded db actor c u clock) (preferencesAdded db c.id u) (c.messageSeq + 1) =
      selfOf a.role (rowAdded db actor c actor clock) (preferencesAdded db c.id actor) (c.messageSeq + 1)

lemma parent_of_newcomer (hauthority : db.tables.authority c actor ≠ none)
    (hnone : db.tables.memberRow c.id actor = none) : ∃ p, c.parentId = some p := by
  cases hparent : c.parentId with
  | some p => exact ⟨p, rfl⟩
  | none =>
    unfold Permissions.Database.authority at hauthority
    rw [hparent] at hauthority
    exact absurd hnone hauthority

lemma payloadAdded_withPrivate {p : Uuid} {a : ConversationMember} (hfind : db.tables.conversations.find c.id = some c)
    (hparent : c.parentId = some p) (hnone : db.tables.memberRow c.id actor = none) :
    payloadAdded (db.withPrivate actor state) actor c actor clock added (kept actor state a) =
      payloadAdded db actor c actor clock added a := by
  have hscope : c.scope ≠ c.id := by
    rw [Conversation.scope, hparent, Option.getD_some]
    exact fun he => Permissions.Database.parent_ne hfind (he ▸ hparent)
  have hnone' : (db.withPrivate actor state).tables.memberRow c.id actor = none := by
    change (setPrivate db.tables actor state).memberRow c.id actor = none
    rw [memberRow_setPrivate, hnone, Option.map_none]
  have hcount : (afterwards (db.withPrivate actor state) actor c c.id clock added).tables.memberCount c.scope =
      (afterwards db actor c c.id clock added).tables.memberCount c.scope := by
    rw [memberCount_afterwards hscope, memberCount_afterwards hscope]
    exact memberCount_setPrivate
  have hpermissions : (db.withPrivate actor state).tables.permissionInput c actor (kept actor state a) =
      db.tables.permissionInput c actor a := permissionInput_setPrivate
  have hself : selfOf (kept actor state a).role (rowAdded (db.withPrivate actor state) actor c actor clock)
      (preferencesAdded (db.withPrivate actor state) c.id actor) (c.messageSeq + 1) =
      selfOf a.role (rowAdded db actor c actor clock) (preferencesAdded db c.id actor) (c.messageSeq + 1) := by
    unfold rowAdded preferencesAdded
    rw [hnone, hnone', kept_columns.2.2.1]
    rfl
  unfold payloadAdded
  rw [hcount, hpermissions, hself]
  rfl

lemma addMembers_newcomer {out : Added} (h : db.addMembers actor c.id userIds refusal clock = .ok out)
    (hfind : db.tables.conversations.find c.id = some c) (hactor : actor ∈ out.added)
    (hnone : db.tables.memberRow c.id actor = none) :
    ∃ out', (db.withPrivate actor state).addMembers actor c.id userIds refusal clock = .ok out' ∧
      out'.delivered = out.delivered := by
  obtain ⟨c', hfind', htype, hauthority, hadd, -, hrest⟩ := addMembers_ok h
  obtain rfl := Option.some.inj (hfind.symm.trans hfind')
  obtain ⟨hempty, -⟩ | ⟨hne, hdb, view, hview, hdelivered⟩ := hrest
  · exact absurd (hempty ▸ hactor) List.not_mem_nil
  · obtain ⟨p, hparent⟩ := parent_of_newcomer hauthority hnone
    rw [hdb, view_afterwards hfind hparent htype hactor] at hview
    obtain ⟨hlive, a, ha, hleft, rfl⟩ := hview
    obtain ⟨c', hfind', hadd'⟩ := @addMembers_setPrivate _ actor _ state _ _ _ _ _ _ _ hadd
    obtain rfl := Option.some.inj (hfind.symm.trans hfind')
    have ha' : (db.withPrivate actor state).tables.authority c actor = some (kept actor state a) := by
      change (setPrivate db.tables actor state).authority c actor = _
      rw [authority_setPrivate, ha, Option.map_some]
    have hleft' : (kept actor state a).leftAt = none := kept_columns.2.2.2.2.2.2.trans hleft
    have hview' : (afterwards (db.withPrivate actor state) actor c c.id clock out.added).view c.id actor clock =
        .ok (payloadAdded db actor c actor clock out.added a) :=
      (@view_afterwards (db.withPrivate actor state) actor actor out.added clock c _ p hfind hparent htype hactor).mpr
        ⟨hlive, _, ha', hleft', (payloadAdded_withPrivate hfind hparent hnone).symm⟩
    exact ⟨_, addMembers_eq hadd' hne hview', hdelivered.symm⟩

lemma view_afterwards_actor {ctx : Permissions.MemberContext} (hctx : db.tables.loadMemberContext c.id actor clock = some ctx)
    (hfind : db.tables.conversations.find c.id = some c) :
    ∃ view, (afterwards db actor c c.id clock added).view c.id actor clock = .ok view := by
  obtain ⟨c', a, hc', hlive, ha, hleft, -⟩ := Permissions.Database.loadMemberContext_eq_some.mp hctx
  obtain rfl := Option.some.inj (hfind.symm.trans hc')
  have hactive : ∃ b, (afterwards db actor c c.id clock added).tables.authority (numbered c) actor = some b ∧
      b.leftAt = none := by
    cases hparent : c.parentId with
    | some p =>
      rw [authority_afterwards hfind hparent]
      exact ⟨a, ha, hleft⟩
    | none =>
      have hnumbered : (numbered c).parentId = none := hparent
      unfold Permissions.Database.authority at ha ⊢
      rw [hparent] at ha
      rw [hnumbered]
      change ∃ b, (afterwards db actor c c.id clock added).tables.memberRow c.id actor = some b ∧ _
      change db.tables.memberRow c.id actor = some a at ha
      rw [memberRow_afterwards, ha]
      split_ifs
      · exact ⟨_, rfl, rfl⟩
      · exact ⟨a, rfl, hleft⟩
  obtain ⟨b, hb, hbleft⟩ := hactive
  have hctx' : (afterwards db actor c c.id clock added).tables.loadMemberContext c.id actor clock =
      some ⟨numbered c, _, _, Permissions.effectivePermissions
        ((afterwards db actor c c.id clock added).tables.permissionInput (numbered c) actor b) clock⟩ :=
    Permissions.Database.loadMemberContext_eq_some.mpr
      ⟨numbered c, b, find_afterwards hfind, hlive, hb, hbleft, rfl, rfl, rfl, rfl⟩
  exact ⟨_, Database.view_eq_ok.mpr ⟨_, hctx', rfl⟩⟩

lemma addMembers_withPrivate {out : Added} (h : db.addMembers actor id userIds refusal clock = .ok out) :
    ∃ out', (db.withPrivate actor state).addMembers actor id userIds refusal clock = .ok out' := by
  obtain ⟨c, hfind, -, -, hadd, -, -⟩ := addMembers_ok h
  have hid : c.id = id := KeyedTable.find_key hfind
  subst hid
  obtain ⟨c', hfind', hadd'⟩ := @addMembers_setPrivate _ actor _ state _ _ _ _ _ _ _ hadd
  obtain rfl := Option.some.inj (hfind.symm.trans hfind')
  obtain ⟨ctx, hctx, -⟩ := Permissions.Database.addMembers_ok hadd'
  by_cases hne : out.added = []
  · refine ⟨⟨⟨db.withPrivate actor state, []⟩, out.added, out.skipped⟩, ?_⟩
    unfold Database.addMembers
    simp only [Permissions.bind_eq_ok]
    refine ⟨_, hadd', ?_⟩
    dsimp only
    rw [if_pos hne]
    rfl
  · obtain ⟨view, hview⟩ := @view_afterwards_actor (db.withPrivate actor state) actor out.added clock c ctx hctx hfind
    exact ⟨_, addMembers_eq hadd' hne hview⟩

lemma Alike.sent {a : ConversationMember} (halike : Alike db actor c u clock)
    (ha : db.tables.authority c actor = some a) : ∃ b, db.tables.authority c u = some b ∧ b.leftAt = none ∧
      payloadAdded db actor c actor clock added a = payloadAdded db actor c u clock added b := by
  obtain ⟨a', b, ha', hb, hleft, hpermissions, hself⟩ := halike.same
  obtain rfl := Option.some.inj (ha.symm.trans ha')
  refine ⟨b, hb, hleft, ?_⟩
  unfold payloadAdded
  rw [hpermissions, hself]

lemma addMembers_discloses {out : Added} (h : db.addMembers actor id userIds refusal clock = .ok out)
    (hu : u ∈ out.added) (hold : ¬(actor ∈ out.added ∧ db.tables.memberRow id actor = none)) :
    ∃ state payload out', (db.withPrivate actor state).addMembers actor id userIds refusal clock = .ok out' ∧
      (u, payload) ∈ out'.delivered ∧ (u, payload) ∉ out.delivered := by
  obtain ⟨c, -, -, -, hadd, -, hrest⟩ := addMembers_ok h
  obtain ⟨hempty, -⟩ | ⟨hne, hdb, view, hview, hdelivered⟩ := hrest
  · exact absurd (hempty ▸ hu) List.not_mem_nil
  · let nickname : Option String := if view.self.nickname = none then some "" else none
    have hnickname : nickname ≠ view.self.nickname := by
      unfold nickname
      split_ifs with hnone
      · rw [hnone]
        exact Option.some_ne_none _
      · exact fun he => hnone he.symm
    let state : Uuid → PrivateState := fun k => { stateOf db actor k with preferences := ⟨nickname, none, false⟩ }
    have htables : (db.withPrivate actor state).tables = db.tables := setPrivate_stateOf db actor _
    have hpreferences : ∀ k, (afterwards (db.withPrivate actor state) actor c id clock out.added).preferences (k, actor) =
        ⟨nickname, none, false⟩ := by
      intro k
      change (if _ then _ else _) = _
      rw [if_neg]
      · exact if_pos rfl
      · rintro ⟨-, hadded, hnone⟩
        rw [htables] at hnone
        exact hold ⟨hadded, hnone⟩
    have hafter : (afterwards (db.withPrivate actor state) actor c id clock out.added).tables =
        (afterwards db actor c id clock out.added).tables := by
      change (Database.announced ((Database.joined _ (withRows (db.withPrivate actor state).tables actor c id clock _) id _))
        id).tables = _
      rw [htables]
      rfl
    rw [hdb] at hview
    obtain ⟨ctx, hctx, rfl⟩ := Database.view_eq_ok.mp hview
    have hview' : (afterwards (db.withPrivate actor state) actor c id clock out.added).view id actor clock =
        .ok ((afterwards (db.withPrivate actor state) actor c id clock out.added).toConversation ctx actor) :=
      Database.view_eq_ok.mpr ⟨ctx, by rw [hafter]; exact hctx, rfl⟩
    have hadd' : (db.withPrivate actor state).tables.addMembers actor id userIds
        (fun userId => (refusal userId).isNone) clock =
        .ok (withRows (db.withPrivate actor state).tables actor c id clock out.added, out.added, out.skipped) := by
      rw [htables]
      exact hadd
    refine ⟨state, (afterwards (db.withPrivate actor state) actor c id clock out.added).toConversation ctx actor, _,
      addMembers_eq hadd' hne hview', List.mem_map_of_mem hu, fun hmem => ?_⟩
    rw [hdelivered] at hmem
    obtain ⟨v, -, he⟩ := List.mem_map.mp hmem
    refine hnickname ?_
    rw [(Prod.mk.inj he).2]
    exact (congrArg Preferences.nickname (hpreferences _)).symm

end Added

/-! ### Whose payload it is -/

namespace Call
variable {db : Database} {actor id : Uuid} {refusal : Uuid → Option AppError} {clock : Time} {input : CreateInput}
  {looked : Database} {userIds : List Uuid} {state : Uuid → PrivateState}

/-- The call sends nobody what is not theirs: there is a thread of the two already, nobody else may be put in the new
group, or everybody who is added sees what the actor does, who is added as well. -/
def Alone (call : Call) (db : Database) (actor : Uuid) (refusal : Uuid → Option AppError) (clock : Time) : Prop :=
  match call with
  | create looked _ input =>
    (∀ h : input.type = .dm, (looked.openThread (buildDmKey actor (input.otherId h))).isSome ∨
      (db.thread (buildDmKey actor (input.otherId h))).isSome) ∧
    (input.type ≠ .dm → Database.allowed actor input.memberIds refusal = [])
  | addMembers id userIds => ∀ u ∈ candidates db id userIds refusal, u = actor ∨
    actor ∈ candidates db id userIds refusal ∧ ∃ c, db.tables.conversations.find id = some c ∧ Alike db actor c u clock

lemma mem_delivered {call : Call} {p : Uuid × Payload} : p ∈ call.delivered db actor refusal clock ↔
    ∃ out, call.run db actor refusal clock = .ok out ∧ p ∈ out.delivered := by
  unfold delivered
  cases call.run db actor refusal clock with
  | error e => simp
  | ok out => simp

/-! #### `create` -/

lemma insert_withPrivate {c : Conversation} {hroot : c.parentId = none} {key : Option (Uuid × Uuid)}
    {members : List ConversationMember} {db' : Database} (h : db.insert c hroot key members = some db') :
    ∃ db'', (db.withPrivate actor state).insert c hroot key members = some db'' := by
  have hmembers : members.any (fun m => ((db.withPrivate actor state).tables.conversationMembers.find m.key).isSome) =
      members.any fun m => (db.tables.conversationMembers.find m.key).isSome := by
    refine congrArg members.any (funext fun m => ?_)
    have hrow : (db.withPrivate actor state).tables.conversationMembers.find m.key =
        (db.tables.conversationMembers.find m.key).map (kept actor state) := memberRow_setPrivate
    rw [hrow, Option.isSome_map]
  unfold Database.insert at h
  split_ifs at h with hnew
  unfold Database.insert
  rw [hmembers]
  exact ⟨_, if_neg hnew⟩

lemma view_root {c : Conversation} {m : ConversationMember} {u : Uuid} (hfind : db.tables.conversations.find id = some c)
    (hroot : c.parentId = none) (hlive : c.deletedAt = none) (hrow : db.tables.memberRow id u = some m)
    (hactive : m.leftAt = none) : ∃ payload, db.view id u clock = .ok payload := by
  have hid : c.id = id := KeyedTable.find_key hfind
  have hauthority : db.tables.authority c u = some m := by
    unfold Permissions.Database.authority
    rw [hroot, hid]
    exact hrow
  have hctx : db.tables.loadMemberContext id u clock = some ⟨c, _, _, Permissions.effectivePermissions
      (db.tables.permissionInput c u m) clock⟩ := Permissions.Database.loadMemberContext_eq_some.mpr
    ⟨c, m, hfind, hlive, hauthority, hactive, rfl, rfl, rfl, rfl⟩
  exact ⟨_, Database.view_eq_ok.mpr ⟨_, hctx, rfl⟩⟩

lemma createDm_withPrivate {otherId : Uuid} {disappearingSeconds : ℕ} {out : Created} {p : Uuid × Payload}
    (h : db.createDm looked actor otherId id disappearingSeconds refusal clock = .ok out) (hp : p ∈ out.delivered) :
    ∃ out', (db.withPrivate actor state).createDm looked actor otherId id disappearingSeconds refusal clock = .ok out' := by
  obtain ⟨hself, hrefusal, ⟨hnone, -⟩ | ⟨hlooked, hinsert, -, -⟩⟩ := createDm_ok h
  · exact absurd (hnone ▸ hp) List.not_mem_nil
  · obtain ⟨db', hdb'⟩ := @insert_withPrivate _ actor state _ _ _ _ _ hinsert
    obtain ⟨-, hnew, hfind, hmembers⟩ := Database.insert_eq_some hdb'
    have hkeys : ([ConversationMember.new id actor .member clock 0, .new id otherId .member clock 0].map
        ConversationMember.key).Nodup := by
      simp [ConversationMember.key, ConversationMember.new, hself.symm]
    have hrow : db'.tables.memberRow id actor = some (.new id actor .member clock 0) := by
      unfold Permissions.Database.memberRow
      rw [hmembers]
      exact find_insertAll hkeys hnew List.mem_cons_self
    obtain ⟨view, hview⟩ := @view_root db' id clock _ _ actor hfind rfl rfl hrow rfl
    refine ⟨⟨⟨db', toUsers [actor, otherId] view⟩, view, true⟩, ?_⟩
    unfold Database.createDm
    simp only [Permissions.bind_eq_ok, Permissions.exists_unit, Permissions.ensure_eq_ok, decide_eq_true_eq]
    refine ⟨hself, hrefusal, ?_⟩
    rw [hlooked, hdb']
    exact Permissions.bind_eq_ok.mpr ⟨view, hview, rfl⟩

lemma createGroup_withPrivate {out : Created} (h : db.createGroup actor id input refusal clock = .ok out) :
    ∃ out', (db.withPrivate actor state).createGroup actor id input refusal clock = .ok out' := by
  obtain ⟨db₁, hinsert, -⟩ := createGroup_ok h
  obtain ⟨db', hdb'⟩ := @insert_withPrivate _ actor state _ _ _ _ _ hinsert
  obtain ⟨-, hnew, hfind, hmembers⟩ := Database.insert_eq_some hdb'
  have hrow : (db'.announced id).tables.memberRow id actor = some (.new id actor .owner clock 0) := by
    change db'.tables.conversationMembers.find (id, actor) = _
    rw [hmembers]
    exact find_insertAll (founders_keys input.memberIds) hnew List.mem_cons_self
  obtain ⟨view, hview⟩ := @view_root (db'.announced id) id clock _ _ actor (Database.find_announced hfind) rfl rfl hrow rfl
  unfold Database.createGroup at h ⊢
  simp only [Permissions.bind_eq_ok, Permissions.exists_unit, Permissions.ensure_eq_ok] at h ⊢
  obtain ⟨hlength, -⟩ := h
  refine ⟨⟨⟨db'.announced id, toUsers (actor :: Database.allowed actor input.memberIds refusal) view⟩, view, true⟩,
    hlength, ?_⟩
  rw [hdb']
  exact Permissions.bind_eq_ok.mpr ⟨view, hview, rfl⟩

lemma create_silent {out : Created} (h : db.create looked actor id input refusal clock = .ok out)
    (halone : Alone (.create looked id input) db actor refusal clock) {u : Uuid} {payload : Payload} (hu : u ≠ actor) :
    (u, payload) ∉ out.delivered := by
  unfold Database.create at h
  split_ifs at h with htype
  · obtain ⟨-, -, ⟨hnone, -⟩ | ⟨hlooked, hinsert, -, -⟩⟩ := createDm_ok h
    · rw [hnone]
      exact List.not_mem_nil
    · rcases halone.1 htype with hopen | hthread
      · rw [hlooked] at hopen
        exact absurd hopen (by decide)
      · exact absurd (hinsert.symm.trans (insert_taken hthread)) (Option.some_ne_none _)
  · obtain ⟨db', -, -, -, hdelivered⟩ := createGroup_ok h
    rw [hdelivered, halone.2 htype]
    intro hmem
    obtain ⟨v, hv, he⟩ := List.mem_map.mp hmem
    exact hu ((Prod.mk.inj he).1.symm.trans (List.mem_singleton.mp hv))

lemma create_withPrivate {out : Created} {p : Uuid × Payload}
    (h : db.create looked actor id input refusal clock = .ok out) (hp : p ∈ out.delivered) :
    ∃ out', (db.withPrivate actor state).create looked actor id input refusal clock = .ok out' := by
  unfold Database.create at h ⊢
  split_ifs at h ⊢ with htype
  · exact createDm_withPrivate h hp
  · exact createGroup_withPrivate h

lemma create_own_iff : Own (.create looked id input) db actor refusal clock ↔
    ∀ out, run (.create looked id input) db actor refusal clock = .ok out →
      Alone (.create looked id input) db actor refusal clock := by
  constructor
  · intro hown out hrun
    obtain ⟨created, hcreate, rfl⟩ := Permissions.map_eq_ok.mp hrun
    have hview := hown.view _ hrun
    unfold Database.create at hcreate
    split_ifs at hcreate with htype
    · exact ⟨fun _ => dm_not_own hcreate hview, fun hne => absurd htype hne⟩
    · exact ⟨fun he => absurd he htype, fun _ => group_not_own hcreate hview⟩
  · intro halone
    have hsilent : ∀ u payload, u ≠ actor → (u, payload) ∉ delivered (.create looked id input) db actor refusal clock := by
      intro u payload hu hmem
      obtain ⟨out, hrun, hout⟩ := mem_delivered.mp hmem
      obtain ⟨created, hcreate, rfl⟩ := Permissions.map_eq_ok.mp hrun
      exact create_silent hcreate (halone _ hrun) hu hout
    refine ⟨fun out hrun u payload hmem => ?_, fun state u payload hu => ?_⟩
    · by_cases hu : u = actor
      · subst hu
        obtain ⟨created, hcreate, rfl⟩ := Permissions.map_eq_ok.mp hrun
        unfold Database.create at hcreate
        split_ifs at hcreate with htype
        · obtain ⟨-, -, ⟨hnone, -⟩ | ⟨-, -, hview, hdelivered⟩⟩ := createDm_ok hcreate
          · exact absurd (hnone ▸ hmem) List.not_mem_nil
          · rw [hdelivered] at hmem
            obtain ⟨v, -, he⟩ := List.mem_map.mp hmem
            obtain rfl := (Prod.mk.inj he).2
            rw [Database.view_conversation hview]
            exact hview
        · obtain ⟨db', -, -, hview, hdelivered⟩ := createGroup_ok hcreate
          rw [hdelivered] at hmem
          obtain ⟨v, -, he⟩ := List.mem_map.mp hmem
          obtain rfl := (Prod.mk.inj he).2
          rw [Database.view_conversation hview]
          exact hview
      · exact absurd (mem_delivered.mpr ⟨out, hrun, hmem⟩) (hsilent u payload hu)
    · refine iff_of_false (fun hmem => ?_) (hsilent u payload hu)
      obtain ⟨out, hrun, hout⟩ := mem_delivered.mp hmem
      obtain ⟨created, hcreate, rfl⟩ := Permissions.map_eq_ok.mp hrun
      obtain ⟨created', hcreate'⟩ := @create_withPrivate _ _ _ _ _ _ _
        (fun id => { stateOf db actor id with preferences := db.preferences (id, actor) }) _ _ hcreate hout
      rw [withPrivate_undo] at hcreate'
      have halone' : Alone (.create looked id input) (db.withPrivate actor state) actor refusal clock :=
        halone _ (Permissions.map_eq_ok.mpr ⟨created', hcreate', rfl⟩)
      exact create_silent hcreate halone' hu hout

/-! #### `addMembers` -/

theorem addMembers_own_iff : Own (.addMembers id userIds) db actor refusal clock ↔
    ∀ out, run (.addMembers id userIds) db actor refusal clock = .ok out →
      Alone (.addMembers id userIds) db actor refusal clock := by
  constructor
  · intro hown out hrun
    obtain ⟨added, hadd, rfl⟩ := Permissions.map_eq_ok.mp hrun
    obtain ⟨c, hfind, htype, hauthority, -, hcandidates, hrest⟩ := addMembers_ok hadd
    have hid : c.id = id := KeyedTable.find_key hfind
    subst hid
    intro u hu
    rw [← hcandidates] at hu ⊢
    by_cases hself : u = actor
    · exact .inl hself
    · obtain ⟨hempty, -⟩ | ⟨-, hdb, view, hview, hdelivered⟩ := hrest
      · exact absurd (hempty ▸ hu) List.not_mem_nil
      · by_cases hnew : actor ∈ added.added ∧ db.tables.memberRow c.id actor = none
        · obtain ⟨hactor, hnone⟩ := hnew
          obtain ⟨p, hparent⟩ := parent_of_newcomer hauthority hnone
          have hother := hown.view _ hrun u view (by rw [hdelivered]; exact List.mem_map_of_mem hu)
          rw [Database.view_conversation hview] at hother
          change added.db.view c.id u clock = _ at hother
          rw [hdb, view_afterwards hfind hparent htype hactor] at hview
          rw [hdb, view_afterwards hfind hparent htype hu] at hother
          obtain ⟨-, a, ha, -, rfl⟩ := hview
          obtain ⟨-, b, hb, hleft, hsame⟩ := hother
          exact .inr ⟨hactor, c, hfind, hnone, a, b, ha, hb, hleft, (congrArg Payload.permissions hsame).symm,
            (congrArg Payload.self hsame).symm⟩
        · exfalso
          obtain ⟨state, payload, out', hout', hmem, hnot⟩ := addMembers_discloses hadd hu hnew
          have hdelivers : (u, payload) ∈ delivered (.addMembers c.id userIds) (db.withPrivate actor state) actor refusal
              clock := mem_delivered.mpr ⟨_, Permissions.map_eq_ok.mpr ⟨out', hout', rfl⟩, hmem⟩
          obtain ⟨out, hrun', hout⟩ := mem_delivered.mp ((hown.apart state u payload hself).mp hdelivers)
          obtain rfl := Except.ok.inj (hrun.symm.trans hrun')
          exact hnot hout
  · intro halone
    refine ⟨fun out hrun u payload hmem => ?_, fun state u payload hself => ?_⟩
    · obtain ⟨added, hadd, rfl⟩ := Permissions.map_eq_ok.mp hrun
      obtain ⟨c, hfind, htype, hauthority, -, hcandidates, ⟨-, hnone⟩ | ⟨-, hdb, view, hview, hdelivered⟩⟩ :=
        addMembers_ok hadd
      · exact absurd (hnone ▸ hmem) List.not_mem_nil
      · have hid : c.id = id := KeyedTable.find_key hfind
        subst hid
        change (u, payload) ∈ added.delivered at hmem
        change added.db.view payload.conversation.id u clock = _
        rw [hdelivered] at hmem
        obtain ⟨v, hv, he⟩ := List.mem_map.mp hmem
        obtain ⟨rfl, rfl⟩ := Prod.mk.inj he
        rw [Database.view_conversation hview]
        rcases halone _ hrun v (hcandidates ▸ hv) with rfl | ⟨hactor, c', hfind', halike⟩
        · exact hview
        · obtain rfl := Option.some.inj (hfind.symm.trans hfind')
          rw [← hcandidates] at hactor
          obtain ⟨p, hparent⟩ := parent_of_newcomer hauthority halike.newcomer
          rw [hdb, view_afterwards hfind hparent htype hactor] at hview
          obtain ⟨hlive, a, ha, -, rfl⟩ := hview
          rw [hdb, view_afterwards hfind hparent htype hv]
          exact ⟨hlive, @Alike.sent _ _ _ added.added _ _ _ halike ha⟩
    · have hforward : ∀ payload, (u, payload) ∈ delivered (.addMembers id userIds) db actor refusal clock →
          (u, payload) ∈ delivered (.addMembers id userIds) (db.withPrivate actor state) actor refusal clock := by
        intro payload hmem
        obtain ⟨out, hrun, hout⟩ := mem_delivered.mp hmem
        obtain ⟨added, hadd, rfl⟩ := Permissions.map_eq_ok.mp hrun
        obtain ⟨c, hfind, -, -, -, hcandidates, ⟨-, hnone⟩ | ⟨-, -, view, -, hdelivered⟩⟩ := addMembers_ok hadd
        · exact absurd (hnone ▸ hout) List.not_mem_nil
        · have hid : c.id = id := KeyedTable.find_key hfind
          subst hid
          have hu : u ∈ added.added := by
            change (u, payload) ∈ added.delivered at hout
            rw [hdelivered] at hout
            obtain ⟨v, hv, he⟩ := List.mem_map.mp hout
            exact (Prod.mk.inj he).1 ▸ hv
          rcases halone _ hrun u (hcandidates ▸ hu) with he | ⟨hactor, c', hfind', halike⟩
          · exact absurd he hself
          · obtain rfl := Option.some.inj (hfind.symm.trans hfind')
            rw [← hcandidates] at hactor
            obtain ⟨out', hout', hsame⟩ := @addMembers_newcomer _ _ _ _ _ _ state _ hadd hfind hactor halike.newcomer
            exact mem_delivered.mpr ⟨_, Permissions.map_eq_ok.mpr ⟨out', hout', rfl⟩, hsame ▸ hout⟩
      refine ⟨fun hmem => ?_, hforward payload⟩
      obtain ⟨out', hrun', hout'⟩ := mem_delivered.mp hmem
      obtain ⟨added', hadd', rfl⟩ := Permissions.map_eq_ok.mp hrun'
      -- the call goes through whatever is private, and adds the same people
      obtain ⟨added, hadd⟩ := @addMembers_withPrivate _ _ _ _ _ _
        (fun id => { stateOf db actor id with preferences := db.preferences (id, actor) }) _ hadd'
      rw [withPrivate_undo] at hadd
      obtain ⟨_, -, -, -, -, hcandidates', hrest'⟩ := addMembers_ok hadd'
      obtain ⟨_, -, -, -, -, hcandidates, hrest⟩ := addMembers_ok hadd
      rw [candidates_withPrivate] at hcandidates'
      obtain ⟨-, hnone⟩ | ⟨hne, -, view', -, hdelivered'⟩ := hrest'
      · exact absurd (hnone ▸ hout') List.not_mem_nil
      · obtain ⟨hempty, -⟩ | ⟨-, -, view, -, hdelivered⟩ := hrest
        · exact absurd (hcandidates'.trans (hcandidates.symm.trans hempty)) hne
        · change (u, payload) ∈ added'.delivered at hout'
          rw [hdelivered'] at hout'
          obtain ⟨v, hv, he⟩ := List.mem_map.mp hout'
          obtain ⟨rfl, rfl⟩ := Prod.mk.inj he
          have hv' : v ∈ added.added := by
            rw [hcandidates, ← hcandidates']
            exact hv
          have hsent : (v, view) ∈ delivered (.addMembers id userIds) db actor refusal clock :=
            mem_delivered.mpr ⟨_, Permissions.map_eq_ok.mpr ⟨added, hadd, rfl⟩, by
              rw [hdelivered]
              exact List.mem_map_of_mem hv'⟩
          -- one call sends one payload
          obtain ⟨out, hrun, hout⟩ := mem_delivered.mp (hforward view hsent)
          obtain rfl := Except.ok.inj (hrun'.symm.trans hrun)
          change (v, view) ∈ added'.delivered at hout
          rw [hdelivered'] at hout
          obtain ⟨w, -, hw⟩ := List.mem_map.mp hout
          rw [(Prod.mk.inj hw).2]
          exact hsent

/-- The payload of every recipient is their own just where the actor sends nobody what is not theirs. -/
theorem own_iff (call : Call) : Own call db actor refusal clock ↔
    ∀ out, call.run db actor refusal clock = .ok out → call.Alone db actor refusal clock := by
  cases call with
  | create looked id input => exact create_own_iff
  | addMembers id userIds => exact addMembers_own_iff

end Call

namespace Sample

def database : Database where
  tables := {
    conversations := ⟨[Permissions.Sample.conversation 3 .group none], by decide⟩
    conversationMembers := ⟨[.new 3 10 .owner 0 0], by decide⟩
    conversationRoles := .empty
    memberRoles := .empty
    conversationRoleOverwrites := .empty
    conversationBans := .empty
    users := ⟨[⟨10, false⟩, ⟨12, false⟩], Permissions.Sample.two_users⟩
    applications := .empty
    conversationApps := .empty
    invites := .empty
    assigned_exists := Permissions.Sample.none_assigned
    one_level := by unfold Permissions.OneLevel; decide }
  preferences _ := ⟨some "boss", none, false⟩
  dmKey _ := none

def nameless : Except AppError Payload → Bool
  | .ok payload => payload.self.nickname = none
  | .error _ => true

def told : Except AppError Outcome → Bool
  | .ok out => out.delivered.any fun p => p.1 = 12 && p.2.self.nickname = some "boss" && p.2.conversation.id = 3 &&
      nameless (out.db.view 3 12 8)
  | .error _ => false

end Sample

open Sample in
/-- Whoever is added is told the nickname of who added them. -/
theorem nickname_disclosed : ¬ ∀ (call : Call) (db : Database) (actor : Uuid) (refusal : Uuid → Option AppError)
    (clock : Time), call.Own db actor refusal clock := by
  intro hall
  have hown := hall (.addMembers 3 [12]) database 10 (fun _ => none) 8
  have hsent : told ((Call.addMembers 3 [12]).run database 10 (fun _ => none) 8) = true := by decide
  cases hrun : (Call.addMembers 3 [12]).run database 10 (fun _ => none) 8 with
  | error e =>
    rw [hrun] at hsent
    exact absurd hsent Bool.false_ne_true
  | ok out =>
    rw [hrun, told] at hsent
    obtain ⟨⟨u, payload⟩, hmem, hp⟩ := List.any_eq_true.mp hsent
    simp only [Bool.and_eq_true, decide_eq_true_eq] at hp
    obtain ⟨⟨⟨rfl, hnickname⟩, hid⟩, hview⟩ := hp
    have hown' := hown.view out hrun 12 payload hmem
    rw [hid] at hown'
    rw [hown'] at hview
    simp [nameless, hnickname] at hview

end Yappy.Payloads
