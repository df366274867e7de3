import Yappy.PermissionComposition
import Yappy.Relational

/-!
# The channel list

`GET /:id/channels` of `apps/api/src/routes/spaces.ts` against `loadMemberContext` of the channels it lists,
and exactly where its shortcut through the space's own answer is right. Left out are the order, the
categories, who sits in a voice channel, and the columns that the list hands on and no check reads.
-/
namespace Yappy.ChannelList

open Permissions

/-- `is_board` and `is_forum` are columns of `conversations`. -/
structure Database extends Permissions.Database where
  isBoard : Uuid → Bool
  isForum : Uuid → Bool

def announcementBase : ℕ := Permission.viewConversation ||| Permission.readHistory ||| Permission.addReactions

structure ListedChannel where
  id : Uuid
  title : Option String
  description : Option String
  latestSeq : ℕ
  unreadCount : ℕ
  mentionCount : ℕ
  isMuted : Bool
  isAnnouncement : Bool
  isBoard : Bool
  isForum : Bool
  isPrivate : Bool
  canPost : Bool
  permissions : ℕ

section Route
variable (db : Database) (id viewer : Uuid) (clock : Time)

def rows : List (Conversation × Option ConversationMember) :=
  (db.conversations.rows.filter fun c => c.parentId = some id && c.deletedAt.isNone).flatMap fun c =>
    (leftJoin db.conversationMembers.rows fun m => m.key = (c.id, viewer)).map fun m => (c, m)

def overwritten : List Uuid :=
  (db.conversationRoleOverwrites.rows.filter fun o =>
    o.conversationId ∈ (rows db id viewer).map fun r => r.1.id).map RoleOverwrite.conversationId

def restricted (c : Conversation) : Bool :=
  c.basePermissions.isSome || db.isBoard c.id || db.isForum c.id || (overwritten db id viewer).contains c.id

/-- Whether the viewer may post and what they may do, unless the channel is hidden from them. -/
def answer (ctx : MemberContext) (c : Conversation) : Option (Bool × ℕ) :=
  if restricted db id viewer c then
    let permissions := (db.loadMemberContext c.id viewer clock).elim 0 MemberContext.permissions
    if has permissions Permission.viewConversation then
      some (has permissions Permission.sendMessages, permissions)
    else none
  else some (true, ctx.permissions)

def listed (r : Conversation × Option ConversationMember) (canPost : Bool) (permissions : ℕ) :
    ListedChannel where
  id := r.1.id
  title := r.1.title
  description := r.1.description
  latestSeq := r.1.messageSeq
  unreadCount := r.1.messageSeq - r.2.elim 0 ConversationMember.lastReadSeq
  mentionCount := r.2.elim 0 ConversationMember.mentionCount
  isMuted := (r.2.bind ConversationMember.mutedUntil).any fun until_ => clock < until_
  isAnnouncement := r.1.basePermissions.any fun base => base = announcementBase
  isBoard := db.isBoard r.1.id
  isForum := db.isForum r.1.id
  isPrivate := r.1.basePermissions.any fun base => base = (0 : ℕ)
  canPost := canPost
  permissions := permissions

def list (ctx : MemberContext) : List ListedChannel :=
  (rows db id viewer).filterMap fun r =>
    (answer db id viewer clock ctx r.1).map fun a => listed db clock r a.1 a.2

/-- `GET /spaces/:id/channels` -/
def channels : Except AppError (List ListedChannel) := do
  let ctx ← db.requirePermission id viewer Permission.viewConversation clock
  ensure (ctx.conversation.type = .space) (conflict "That conversation is not a space")
  return list db id viewer clock ctx

/-- The list is true to the permissions: of the channels of the space those are listed that the viewer may
view, with what the viewer may do there and whether that is to send. -/
structure Truthful (entries : List ListedChannel) : Prop where
  shown : ∀ c ∈ db.conversations.rows, c.parentId = some id → c.deletedAt = none →
    ((∃ e ∈ entries, e.id = c.id) ↔ ∃ ctx, db.loadMemberContext c.id viewer clock = some ctx ∧
      has ctx.permissions Permission.viewConversation = true)
  within : ∀ e ∈ entries, ∃ c ∈ db.conversations.rows, c.id = e.id ∧ c.parentId = some id ∧ c.deletedAt = none
  permissions : ∀ e ∈ entries, ∀ ctx, db.loadMemberContext e.id viewer clock = some ctx →
    e.permissions = ctx.permissions ∧ e.canPost = has ctx.permissions Permission.sendMessages

end Route

/-! ## What the shortcut passes over -/

/-- The masks give the bit: the floor unless a role is denied it here, a role or the member allowed it, and
neither a denial of the member nor a mute. -/
def Grants (t : Tiers) (i : ℕ) : Prop :=
  (t.floor.testBit i = true ∧ t.roleDeny.testBit i = false ∨ t.roleAllow.testBit i = true ∨
    t.allow.testBit i = true) ∧ t.deny.testBit i = false ∧ t.muted.testBit i = false

/-- The masks of a channel, beyond those that its space's row denies, give the bits that the masks of the
space give, and among them the one to send or the administrator's. -/
structure Inherits (space channel : Tiers) : Prop where
  bits : ∀ i, space.deny.testBit i = false → (Grants space i ↔ Grants channel i)
  sends : Grants space 2 ∨ Grants space 62

lemma testBit_compose_iff (t : Tiers) (i : ℕ) : t.compose.testBit i = true ↔ Grants t i := by
  rw [Tiers.testBit_compose]
  simp only [Grants, Bool.and_eq_true, Bool.or_eq_true, Bool.not_eq_true', or_assoc, and_assoc]

lemma compose_eq_iff {t t' : Tiers} : t.compose = t'.compose ↔ ∀ i, Grants t i ↔ Grants t' i := by
  constructor
  · intro h i
    rw [← testBit_compose_iff, ← testBit_compose_iff, h]
  · refine fun h => Nat.eq_of_testBit_eq fun i => ?_
    rw [Bool.eq_iff_iff, testBit_compose_iff, testBit_compose_iff, h]

lemma has_send_iff (t : Tiers) :
    has t.compose Permission.sendMessages = true ↔ Grants t 2 ∨ Grants t 62 := by
  have hsend : ∀ i, Permission.sendMessages.testBit i = true ↔ 2 = i := fun i => by
    rw [show Permission.sendMessages = 2 ^ 2 from rfl, Nat.testBit_two_pow, decide_eq_true_eq]
  rw [has_eq_true, testBit_compose_iff, or_comm]
  refine or_congr ?_ Iff.rfl
  rw [← testBit_compose_iff]
  exact ⟨fun h => h 2 ((hsend 2).mpr rfl), fun h i hi => (hsend i).mp hi ▸ h⟩

lemma tiers_deny (input : EffectivePermissionInput) (clock : Time) :
    (input.tiers clock).deny = input.deny.getD 0 := by
  unfold EffectivePermissionInput.tiers
  split <;> rfl

section Rows
variable {db : Database} {id viewer : Uuid} {clock : Time} {s c : Conversation} {a : ConversationMember}
  {ctx : MemberContext}

lemma mem_rows {r : Conversation × Option ConversationMember} : r ∈ rows db id viewer ↔
    r.1 ∈ db.conversations.rows ∧ r.1.parentId = some id ∧ r.1.deletedAt = none ∧
      r.2 = db.memberRow r.1.id viewer := by
  unfold rows
  simp only [KeyedTable.leftJoin_key, List.mem_flatMap, List.mem_filter, List.map_cons, List.map_nil,
    List.mem_singleton, Bool.and_eq_true, decide_eq_true_eq, Option.isNone_iff_eq_none]
  constructor
  · rintro ⟨c, ⟨hc, hparent, hlive⟩, rfl⟩
    exact ⟨hc, hparent, hlive, rfl⟩
  · rintro ⟨hc, hparent, hlive, hm⟩
    exact ⟨r.1, ⟨hc, hparent, hlive⟩, by rw [← Database.memberRow, ← hm]⟩

lemma context_space (h : db.loadMemberContext id viewer clock = some ctx)
    (hspace : ctx.conversation.type = .space) :
    ∃ s a, db.conversations.find id = some s ∧ s.parentId = none ∧ db.memberRow id viewer = some a ∧
      a.leftAt = none ∧ ctx.permissions = effectivePermissions (db.permissionInput s viewer a) clock := by
  obtain ⟨s, a, hs, -, hauth, hleft, hconv, -, -, hp⟩ := Database.loadMemberContext_eq_some.mp h
  have hid : s.id = id := KeyedTable.find_key hs
  have hroot : s.parentId = none := by
    cases hparent : s.parentId with
    | none => rfl
    | some p =>
      have hchannel := (db.one_level s (KeyedTable.find_eq_some.mp hs).1 p hparent).1
      rw [← hconv, hspace] at hchannel
      cases hchannel
  refine ⟨s, a, hs, hroot, ?_, hleft, hp⟩
  unfold Database.authority at hauth
  rwa [hroot, hid] at hauth

lemma context_channel (hc : c ∈ db.conversations.rows) (hparent : c.parentId = some id)
    (hlive : c.deletedAt = none) (ha : db.memberRow id viewer = some a) (hleft : a.leftAt = none) :
    ∃ ctx, db.loadMemberContext c.id viewer clock = some ctx ∧
      ctx.permissions = effectivePermissions (db.permissionInput c viewer a) clock := by
  have hauth : db.authority c viewer = some a := by
    unfold Database.authority
    rw [hparent, ← ha]
  have hfind : db.conversations.find c.id = some c := KeyedTable.find_eq_some.mpr ⟨hc, rfl⟩
  exact ⟨⟨c, _, _, _⟩, Database.loadMemberContext_eq_some.mpr
    ⟨c, a, hfind, hlive, hauth, hleft, rfl, rfl, rfl, rfl⟩, rfl⟩

lemma deny_channel {i : ℕ} (hparent : c.parentId = some id) (hs : s.id = id) (hroot : s.parentId = none)
    (ha : db.memberRow id viewer = some a)
    (hdeny : ((db.permissionInput s viewer a).tiers clock).deny.testBit i = true) :
    ((db.permissionInput c viewer a).tiers clock).deny.testBit i = true := by
  have hspace : ((db.permissionInput s viewer a).tiers clock).deny = (a.deny : ℕ) := by
    rw [tiers_deny]
    simp [Database.permissionInput, hs, hroot, ha]
  have hchannel : ((db.permissionInput c viewer a).tiers clock).deny =
      ((db.memberRow c.id viewer).elim 0 fun m => (m.deny : ℕ)) ||| (a.deny : ℕ) := by
    rw [tiers_deny]
    simp [Database.permissionInput, hparent]
  rw [hspace] at hdeny
  rw [hchannel, Nat.testBit_or, hdeny, Bool.or_true]

end Rows

lemma compose_eq_iff_of_deny {t t' : Tiers} (h : ∀ i, t.deny.testBit i = true → t'.deny.testBit i = true) :
    t.compose = t'.compose ↔ ∀ i, t.deny.testBit i = false → (Grants t i ↔ Grants t' i) := by
  rw [compose_eq_iff]
  refine forall_congr' fun i => ⟨fun hi _ => hi, fun hi => ?_⟩
  cases hd : t.deny.testBit i with
  | false => exact hi hd
  | true =>
    refine iff_of_false (fun hg => ?_) fun hg => ?_
    · rw [hg.2.1] at hd
      cases hd
    · have hno := hg.2.1
      rw [h i hd] at hno
      cases hno

/-- The channels that the list answers for by the space's own answer. -/
def Open (db : Database) (id viewer : Uuid) (c : Conversation) : Prop :=
  c ∈ db.conversations.rows ∧ c.parentId = some id ∧ c.deletedAt = none ∧ restricted db id viewer c = false

section List
variable {db : Database} {id viewer : Uuid} {clock : Time} {entries : List ListedChannel} {ctx : MemberContext}
  {e : ListedChannel} {s c : Conversation} {a : ConversationMember}

lemma channels_eq_ok : channels db id viewer clock = .ok entries ↔
    ∃ ctx, db.loadMemberContext id viewer clock = some ctx ∧
      has ctx.permissions Permission.viewConversation = true ∧ ctx.conversation.type = .space ∧
      entries = list db id viewer clock ctx := by
  unfold channels
  simp only [bind_eq_ok, ensure_eq_ok, exists_unit, Database.requirePermission_eq_ok, decide_eq_true_eq,
    and_assoc]
  refine exists_congr fun ctx => and_congr_right fun _ => and_congr_right fun _ => and_congr_right fun _ => ?_
  exact ⟨fun h => (Except.ok.inj h).symm, fun h => h ▸ rfl⟩

lemma mem_list : e ∈ list db id viewer clock ctx ↔
    ∃ c ∈ db.conversations.rows, c.parentId = some id ∧ c.deletedAt = none ∧
      ∃ canPost permissions, answer db id viewer clock ctx c = some (canPost, permissions) ∧
        e = listed db clock (c, db.memberRow c.id viewer) canPost permissions := by
  simp only [list, List.mem_filterMap, Option.map_eq_some_iff, mem_rows, Prod.exists]
  constructor
  · rintro ⟨c, m, ⟨hc, hparent, hlive, hm⟩, canPost, permissions, ha, rfl⟩
    exact ⟨c, hc, hparent, hlive, canPost, permissions, ha, by rw [← hm]⟩
  · rintro ⟨c, hc, hparent, hlive, canPost, permissions, ha, rfl⟩
    exact ⟨c, _, ⟨hc, hparent, hlive, rfl⟩, canPost, permissions, ha, rfl⟩

lemma answer_restricted (h : restricted db id viewer c = true) :
    answer db id viewer clock ctx c =
      ((db.loadMemberContext c.id viewer clock).filter fun cctx =>
        has cctx.permissions Permission.viewConversation).map fun cctx =>
          (has cctx.permissions Permission.sendMessages, cctx.permissions) := by
  unfold answer
  rw [if_pos h]
  cases db.loadMemberContext c.id viewer clock with
  | none => rfl
  | some cctx =>
    rw [Option.filter_some]
    dsimp only [Option.elim_some]
    split <;> rfl

lemma answer_open (h : restricted db id viewer c = false) :
    answer db id viewer clock ctx c = some (true, ctx.permissions) := by
  unfold answer
  rw [if_neg (by simp [h])]

def Follows (db : Database) (viewer : Uuid) (clock : Time) (ctx : MemberContext) (c : Conversation) : Prop :=
  ∃ cctx, db.loadMemberContext c.id viewer clock = some cctx ∧ cctx.permissions = ctx.permissions ∧
    has ctx.permissions Permission.sendMessages = true

lemma truthful_iff_follows (hview : has ctx.permissions Permission.viewConversation = true)
    (hcontext : ∀ c, Open db id viewer c → ∃ cctx, db.loadMemberContext c.id viewer clock = some cctx) :
    Truthful db id viewer clock (list db id viewer clock ctx) ↔
      ∀ c, Open db id viewer c → Follows db viewer clock ctx c := by
  constructor
  · rintro ht c ⟨hc, hparent, hlive, hopen⟩
    obtain ⟨cctx, hcctx⟩ := hcontext c ⟨hc, hparent, hlive, hopen⟩
    have hmem : listed db clock (c, db.memberRow c.id viewer) true ctx.permissions ∈
        list db id viewer clock ctx :=
      mem_list.mpr ⟨c, hc, hparent, hlive, _, _, answer_open hopen, rfl⟩
    obtain ⟨hperm, hpost⟩ := ht.permissions _ hmem cctx hcctx
    have hperm : ctx.permissions = cctx.permissions := hperm
    exact ⟨cctx, hcctx, hperm.symm, hperm ▸ hpost.symm⟩
  · intro hfollows
    refine ⟨fun c hc hparent hlive => ?_, fun e he => ?_, fun e he cctx hcctx => ?_⟩
    · cases hr : restricted db id viewer c with
      | false =>
        obtain ⟨cctx, hcctx, hcp, -⟩ := hfollows c ⟨hc, hparent, hlive, hr⟩
        refine iff_of_true ⟨_, mem_list.mpr ⟨c, hc, hparent, hlive, _, _, answer_open hr, rfl⟩, rfl⟩ ?_
        exact ⟨cctx, hcctx, hcp ▸ hview⟩
      | true =>
        constructor
        · rintro ⟨e, he, hec⟩
          obtain ⟨c', hc', -, -, canPost, permissions, hanswer, rfl⟩ := mem_list.mp he
          have hcc : c' = c := Option.some.inj ((KeyedTable.find_eq_some.mpr ⟨hc', rfl⟩).symm.trans
            (KeyedTable.find_eq_some.mpr ⟨hc, hec.symm⟩))
          subst hcc
          rw [answer_restricted hr] at hanswer
          obtain ⟨cctx, hcctx, -⟩ := Option.map_eq_some_iff.mp hanswer
          exact ⟨cctx, Option.filter_eq_some_iff.mp hcctx⟩
        · rintro ⟨cctx, hcctx, hcview⟩
          have hanswer : answer db id viewer clock ctx c =
              some (has cctx.permissions Permission.sendMessages, cctx.permissions) := by
            rw [answer_restricted hr, hcctx, Option.filter_some, if_pos hcview, Option.map_some]
          exact ⟨_, mem_list.mpr ⟨c, hc, hparent, hlive, _, _, hanswer, rfl⟩, rfl⟩
    · obtain ⟨c, hc, hparent, hlive, -, -, -, rfl⟩ := mem_list.mp he
      exact ⟨c, hc, rfl, hparent, hlive⟩
    · obtain ⟨c, hc, hparent, hlive, canPost, permissions, hanswer, rfl⟩ := mem_list.mp he
      cases hr : restricted db id viewer c with
      | false =>
        rw [answer_open hr] at hanswer
        obtain ⟨rfl, rfl⟩ := Prod.mk.inj (Option.some.inj hanswer)
        obtain ⟨cctx', hcctx', hcp, hsend⟩ := hfollows c ⟨hc, hparent, hlive, hr⟩
        obtain rfl := Option.some.inj (hcctx.symm.trans hcctx')
        exact ⟨hcp.symm, (hcp ▸ hsend).symm⟩
      | true =>
        rw [answer_restricted hr] at hanswer
        obtain ⟨cctx', hcctx', he⟩ := Option.map_eq_some_iff.mp hanswer
        obtain ⟨hcctx', -⟩ := Option.filter_eq_some_iff.mp hcctx'
        obtain rfl := Option.some.inj (hcctx.symm.trans hcctx')
        obtain ⟨rfl, rfl⟩ := Prod.mk.inj he
        exact ⟨rfl, rfl⟩

lemma follows_iff_inherits (hs : s.id = id) (hroot : s.parentId = none)
    (ha : db.memberRow id viewer = some a) (hleft : a.leftAt = none)
    (hp : ctx.permissions = effectivePermissions (db.permissionInput s viewer a) clock)
    (hopen : Open db id viewer c) : Follows db viewer clock ctx c ↔
      Inherits ((db.permissionInput s viewer a).tiers clock) ((db.permissionInput c viewer a).tiers clock) := by
  obtain ⟨hc, hparent, hlive, -⟩ := hopen
  obtain ⟨cctx, hcctx, hcp⟩ : ∃ cctx, db.loadMemberContext c.id viewer clock = some cctx ∧
      cctx.permissions = effectivePermissions (db.permissionInput c viewer a) clock :=
    context_channel hc hparent hlive ha hleft
  rw [effectivePermissions_eq_compose] at hp hcp
  have hcompose := compose_eq_iff_of_deny fun i => @deny_channel db id viewer clock s c a i hparent hs hroot ha
  constructor
  · rintro ⟨cctx', hcctx', heq, hsend⟩
    obtain rfl := Option.some.inj (hcctx.symm.trans hcctx')
    rw [hp, hcp] at heq
    exact ⟨hcompose.mp heq.symm, (has_send_iff _).mp (hp ▸ hsend)⟩
  · rintro ⟨hbits, hsends⟩
    refine ⟨cctx, hcctx, ?_, hp ▸ (has_send_iff _).mpr hsends⟩
    rw [hp, hcp]
    exact (hcompose.mpr hbits).symm

end List

/-- The list is true to the permissions exactly where every channel that is answered for by the space
inherits its answer. -/
theorem channels_truthful_iff {db : Database} {id viewer : Uuid} {clock : Time} {entries : List ListedChannel}
    (h : channels db id viewer clock = .ok entries) :
    Truthful db id viewer clock entries ↔ ∀ s a, db.conversations.find id = some s →
      db.memberRow id viewer = some a → ∀ c, Open db id viewer c →
        Inherits ((db.permissionInput s viewer a).tiers clock)
          ((db.permissionInput c viewer a).tiers clock) := by
  obtain ⟨ctx, hctx, hview, hspace, rfl⟩ := channels_eq_ok.mp h
  obtain ⟨s, a, hs, hroot, ha, hleft, hp⟩ := context_space hctx hspace
  have hid : s.id = id := KeyedTable.find_key hs
  rw [truthful_iff_follows hview fun c hopen =>
    (context_channel hopen.1 hopen.2.1 hopen.2.2.1 ha hleft).imp fun _ hc => hc.1]
  constructor
  · intro hfollows s' a' hs' ha' c hopen
    obtain rfl := Option.some.inj (hs.symm.trans hs')
    obtain rfl := Option.some.inj (ha.symm.trans ha')
    exact (follows_iff_inherits hid hroot ha hleft hp hopen).mp (hfollows c hopen)
  · exact fun hinherits c hopen =>
      (follows_iff_inherits hid hroot ha hleft hp hopen).mpr (hinherits s a hs ha c hopen)

namespace Sample

def space (base : Option Mask) : Database where
  toDatabase := { Permissions.Sample.database with
    conversations := ⟨[{ Permissions.Sample.conversation 1 .space none with basePermissions := base },
      Permissions.Sample.conversation 2 .channel (some 1)], by simp [Permissions.Sample.conversation]⟩
    one_level := by
      unfold OneLevel
      simp [Permissions.Sample.conversation, KeyedTable.find] }
  isBoard _ := false
  isForum _ := false

end Sample

open Sample

/-- In a space with the permissions that spaces have, a member may do more in a channel than the list says. -/
theorem channel_understated :
    ¬ ∀ (db : Database) (id viewer : Uuid) (clock : Time) (entries : List ListedChannel),
      channels db id viewer clock = .ok entries → Truthful db id viewer clock entries := by
  intro h
  have htruthful := h (space none) 1 12 0 _ rfl
  have hcontext : ((space none).loadMemberContext 2 12 0).map MemberContext.permissions = some baseMember := by
    decide
  obtain ⟨ctx, hctx, hp⟩ := Option.map_eq_some_iff.mp hcontext
  obtain ⟨hperm, -⟩ := htruthful.permissions _ (List.mem_cons_self ..) ctx hctx
  rw [hp] at hperm
  exact absurd hperm (by decide)

/-- A space that gives its members what channels give them. -/
theorem channels_truthful_iff_welcoming : ∃ entries, channels (space (some 1085283839)) 1 12 0 = .ok entries ∧
    entries ≠ [] ∧ Truthful (space (some 1085283839)) 1 12 0 entries := by
  refine ⟨_, rfl, List.cons_ne_nil _ _, (channels_truthful_iff rfl).mpr ?_⟩
  rintro s a hs ha c ⟨hc, hparent, -, -⟩
  obtain rfl := Option.some.inj hs
  obtain rfl := Option.some.inj ha
  rcases List.mem_cons.mp hc with rfl | hc
  · cases hparent
  · obtain rfl := List.mem_singleton.mp hc
    refine ⟨fun i _ => Iff.of_eq rfl, Or.inl ?_⟩
    unfold Grants
    decide

end Yappy.ChannelList
