import Yappy.SyncDelta
import Yappy.Runs

/-!
# What a sync leaves out

Nothing: a slice that is not truncated holds every message since the cursor, and paging back from
one that is truncated reaches the rest, whatever is sent meanwhile.
-/
namespace Yappy.Reads

open Pages (Query)
open Permissions (Conversation ConversationMember MemberContext Time Uuid)

/-! ## What sends leave to read -/

def marked (m : Message) (mentions : ℕ) (clock : Time) (r : ConversationMember) : ConversationMember :=
  { r with
    lastReadSeq := if m.senderId = some r.userId then m.seq else r.lastReadSeq
    lastDeliveredSeq := if m.senderId = some r.userId then m.seq else r.lastDeliveredSeq
    lastReadAt := if m.senderId = some r.userId then some clock else r.lastReadAt
    mentionCount := mentions }

lemma marked_key (m : Message) (mentions : ℕ) (clock : Time) (r : ConversationMember) :
    (marked m mentions clock r).key = r.key := rfl

/-- The tables after a send has committed: a member row for a sender who writes in a channel for the
first time, the next number, the sender's marks, and mentions as the triggers count them. -/
def sent (t : Permissions.Database) (m : Message) (mentions : ConversationMember → ℕ) (clock : Time) :
    Permissions.Database :=
  let t := m.senderId.elim t fun sender => t.materialiseChannelMember m.conversationId sender clock
  { t with
    conversations := t.conversations.update (fun c => c.id = m.conversationId)
      (fun c => { c with messageSeq := m.seq }) fun _ => rfl
    conversationMembers := t.conversationMembers.update (fun r => r.conversationId = m.conversationId)
      (fun r => marked m (mentions r) clock r) fun r => marked_key m (mentions r) clock r
    one_level := t.one_level.update (fun _ => rfl) fun _ => rfl }

structure Sent (db : Database) (m : Message) (db' : Database) : Prop where
  next : ∃ c, db.tables.conversations.find m.conversationId = some c ∧ m.seq = c.messageSeq + 1
  tables : ∃ mentions clock, db'.tables = sent db.tables m mentions clock
  messages : db'.messages.rows = db.messages.rows ++ [m]
  messageDeletions : db'.messageDeletions = db.messageDeletions

def Sends (db db' : Database) : Prop := RunWhere Sent (fun _ _ => True) db db'

structure SameStanding (r r' : ConversationMember) : Prop where
  role : r'.role = r.role
  allow : r'.allow = r.allow
  deny : r'.deny = r.deny
  mutedUntil : r'.mutedUntil = r.mutedUntil
  historyStartSeq : r'.historyStartSeq = r.historyStartSeq
  leftAt : r'.leftAt = r.leftAt

lemma SameStanding.trans {r r' r'' : ConversationMember} (h : SameStanding r r')
    (h' : SameStanding r' r'') : SameStanding r r'' where
  role := h'.role.trans h.role
  allow := h'.allow.trans h.allow
  deny := h'.deny.trans h.deny
  mutedUntil := h'.mutedUntil.trans h.mutedUntil
  historyStartSeq := h'.historyStartSeq.trans h.historyStartSeq
  leftAt := h'.leftAt.trans h.leftAt

structure Grown (db db' : Database) : Prop where
  conversation : ∀ id c, db.tables.conversations.find id = some c →
    ∃ n, db'.tables.conversations.find id = some { c with messageSeq := n }
  member : ∀ id user r, db.tables.memberRow id user = some r →
    ∃ r', db'.tables.memberRow id user = some r' ∧ SameStanding r r'
  conversationRoles : db'.tables.conversationRoles = db.tables.conversationRoles
  memberRoles : db'.tables.memberRoles = db.tables.memberRoles
  overwrites : db'.tables.conversationRoleOverwrites = db.tables.conversationRoleOverwrites
  messages : ∀ m ∈ db.messages.rows, m ∈ db'.messages.rows
  messageDeletions : db'.messageDeletions = db.messageDeletions

lemma Grown.refl (db : Database) : Grown db db where
  conversation _ c h := ⟨c.messageSeq, h⟩
  member _ _ r h := ⟨r, h, ⟨rfl, rfl, rfl, rfl, rfl, rfl⟩⟩
  conversationRoles := rfl
  memberRoles := rfl
  overwrites := rfl
  messages _ h := h
  messageDeletions := rfl

lemma Grown.trans {db db' db'' : Database} (h : Grown db db') (h' : Grown db' db'') :
    Grown db db'' where
  conversation id c hc := by
    obtain ⟨n, hn⟩ := h.conversation id c hc
    obtain ⟨n', hn'⟩ := h'.conversation id _ hn
    exact ⟨n', hn'⟩
  member id user r hr := by
    obtain ⟨r', hr', hsame⟩ := h.member id user r hr
    obtain ⟨r'', hr'', hsame'⟩ := h'.member id user r' hr'
    exact ⟨r'', hr'', hsame.trans hsame'⟩
  conversationRoles := h'.conversationRoles.trans h.conversationRoles
  memberRoles := h'.memberRoles.trans h.memberRoles
  overwrites := h'.overwrites.trans h.overwrites
  messages m hm := h'.messages m (h.messages m hm)
  messageDeletions := h'.messageDeletions.trans h.messageDeletions

lemma materialise_keeps {t : Permissions.Database} {conversationId sender : Uuid} {clock : Time} :
    (t.materialiseChannelMember conversationId sender clock).conversations = t.conversations ∧
      (t.materialiseChannelMember conversationId sender clock).conversationRoles = t.conversationRoles ∧
      (t.materialiseChannelMember conversationId sender clock).memberRoles = t.memberRoles ∧
      (t.materialiseChannelMember conversationId sender clock).conversationRoleOverwrites =
        t.conversationRoleOverwrites ∧
      ∀ id user r, t.memberRow id user = some r →
        (t.materialiseChannelMember conversationId sender clock).memberRow id user = some r := by
  unfold Permissions.Database.materialiseChannelMember
  split
  · split
    · refine ⟨rfl, rfl, rfl, rfl, fun id user r hr => ?_⟩
      unfold Permissions.Database.memberRow at hr ⊢
      rw [KeyedTable.find_insertIgnore, hr]
      split_ifs <;> rfl
    · exact ⟨rfl, rfl, rfl, rfl, fun _ _ _ hr => hr⟩
  · exact ⟨rfl, rfl, rfl, rfl, fun _ _ _ hr => hr⟩

lemma sent_grown {db db' : Database} {m : Message} (h : Sent db m db') : Grown db db' := by
  obtain ⟨mentions, clock, ht⟩ := h.tables
  have hopen : (m.senderId.elim db.tables fun sender =>
      db.tables.materialiseChannelMember m.conversationId sender clock).conversations =
        db.tables.conversations ∧
      (m.senderId.elim db.tables fun sender =>
        db.tables.materialiseChannelMember m.conversationId sender clock).conversationRoles =
          db.tables.conversationRoles ∧
      (m.senderId.elim db.tables fun sender =>
        db.tables.materialiseChannelMember m.conversationId sender clock).memberRoles =
          db.tables.memberRoles ∧
      (m.senderId.elim db.tables fun sender =>
        db.tables.materialiseChannelMember m.conversationId sender clock).conversationRoleOverwrites =
          db.tables.conversationRoleOverwrites ∧
      ∀ id user r, db.tables.memberRow id user = some r →
        (m.senderId.elim db.tables fun sender =>
          db.tables.materialiseChannelMember m.conversationId sender clock).memberRow id user = some r := by
    cases m.senderId with
    | none => exact ⟨rfl, rfl, rfl, rfl, fun _ _ _ hr => hr⟩
    | some sender => exact materialise_keeps
  obtain ⟨hconversations, hroles, hassigned, hoverwrites, hmember⟩ := hopen
  refine ⟨fun id c hc => ?_, fun id user r hr => ?_, ?_, ?_, ?_, fun x hx => ?_, h.messageDeletions⟩
  · rw [ht]
    unfold sent
    dsimp only
    rw [KeyedTable.find_update, hconversations, hc, Option.map_some]
    split_ifs
    · exact ⟨m.seq, rfl⟩
    · exact ⟨c.messageSeq, rfl⟩
  · have hopened := hmember id user r hr
    unfold Permissions.Database.memberRow at hopened ⊢
    rw [ht]
    unfold sent
    dsimp only
    rw [KeyedTable.find_update, hopened, Option.map_some]
    split_ifs
    · exact ⟨_, rfl, ⟨rfl, rfl, rfl, rfl, rfl, rfl⟩⟩
    · exact ⟨r, rfl, ⟨rfl, rfl, rfl, rfl, rfl, rfl⟩⟩
  · rw [ht]
    exact hroles
  · rw [ht]
    exact hassigned
  · rw [ht]
    exact hoverwrites
  · rw [h.messages]
    exact List.mem_append_left _ hx

lemma Sends.grown {db db' : Database} (h : Sends db db') : Grown db db' :=
  RunWhere.invariant h (Grown.refl db) fun _ _ _ hgrown _ hsent => hgrown.trans (sent_grown hsent)

section Grown
variable {db db' : Database} {id user : Uuid} {clock : Time} {ctx : MemberContext}
  {r : ConversationMember}

lemma Grown.notDeletedForViewer (h : Grown db db') (m : Message) :
    db'.notDeletedForViewer user m = db.notDeletedForViewer user m := by
  unfold Database.notDeletedForViewer
  rw [h.messageDeletions]

lemma Grown.permissionInput (h : Grown db db') {c : Conversation} (n : ℕ)
    {authority authority' : ConversationMember} (hsame : SameStanding authority authority')
    (hr : db.tables.memberRow c.id user = some r) :
    db'.tables.permissionInput { c with messageSeq := n } user authority' =
      db.tables.permissionInput c user authority := by
  obtain ⟨r', hr', hown⟩ := h.member c.id user r hr
  unfold Permissions.Database.permissionInput Permissions.Database.roleAllow
    Permissions.Database.roleDeny Permissions.Database.roleOverwrites
    Permissions.Database.rolePermissions
  rw [hr, hr', h.conversationRoles, h.memberRoles, h.overwrites, hsame.role, hsame.allow, hsame.deny,
    hsame.mutedUntil]
  simp only [Option.elim_some, Option.bind_some, hown.allow, hown.deny, hown.mutedUntil]
  rfl

lemma Grown.readable (h : Grown db db') (hr : db.tables.memberRow id user = some r)
    (hok : db.tables.requirePermission id user Permissions.Permission.readHistory clock = .ok ctx)
    (clock' : Time) :
    ∃ ctx', db'.tables.requirePermission id user Permissions.Permission.readHistory clock' = .ok ctx' ∧
      ctx'.member.historyStartSeq = r.historyStartSeq := by
  obtain ⟨hctx, hread⟩ := Permissions.Database.requirePermission_eq_ok.mp hok
  obtain ⟨c, authority, hc, hlive, hauth, hleft, -, -, -, hp⟩ :=
    Permissions.Database.loadMemberContext_eq_some.mp hctx
  have hid : c.id = id := KeyedTable.find_key hc
  subst hid
  obtain ⟨n, hn⟩ := h.conversation c.id c hc
  obtain ⟨r', hr', hown⟩ := h.member c.id user r hr
  have hauth' : ∃ authority', db'.tables.authority { c with messageSeq := n } user = some authority' ∧
      SameStanding authority authority' := by
    unfold Permissions.Database.authority at hauth ⊢
    dsimp only
    split at hauth <;> exact h.member _ user authority hauth
  obtain ⟨authority', hauth', hsame⟩ := hauth'
  have hbit : Permissions.silenced.testBit 1 = false := by decide
  have hunmuted : ∀ input : Permissions.EffectivePermissionInput,
      ({ input.tiers clock' with muted := 0 } : Permissions.Tiers) =
        { input.tiers clock with muted := 0 } := by
    intro input
    unfold Permissions.EffectivePermissionInput.tiers
    split_ifs <;> rfl
  -- a mute does not reach the reading of history, so the clock does not matter
  have hread' : Permissions.has (Permissions.effectivePermissions
      (db'.tables.permissionInput { c with messageSeq := n } user authority') clock')
      Permissions.Permission.readHistory = true := by
    rw [hp, Permissions.effectivePermissions_eq_compose,
      show Permissions.Permission.readHistory = 2 ^ 1 from rfl, Permissions.Sql.has_bit_compose hbit] at hread
    rw [h.permissionInput n hsame hr, Permissions.effectivePermissions_eq_compose,
      show Permissions.Permission.readHistory = 2 ^ 1 from rfl, Permissions.Sql.has_bit_compose hbit,
      hunmuted]
    exact hread
  have hctx' : ∃ ctx', db'.tables.loadMemberContext c.id user clock' = some ctx' ∧
      ctx'.permissions = Permissions.effectivePermissions
        (db'.tables.permissionInput { c with messageSeq := n } user authority') clock' := by
    refine ⟨⟨{ c with messageSeq := n }, _, _, _⟩, Permissions.Database.loadMemberContext_eq_some.mpr
      ⟨_, authority', hn, hlive, hauth', hsame.leftAt.trans hleft, rfl, rfl, rfl, rfl⟩, rfl⟩
  obtain ⟨ctx', hctx', hp'⟩ := hctx'
  have hok' := Permissions.Database.requirePermission_eq_ok.mpr ⟨hctx', hp' ▸ hread'⟩
  exact ⟨ctx', hok', (Database.context_floor hr' hok').trans hown.historyStartSeq⟩

end Grown

/-! ## Pages of messages -/

section Pages
variable {db : Database} {viewer id : Uuid} {p : Message → Bool} {limit low : ℕ} {m : Message}

@[simp] lemma toMessage_seq (m : Message) (q : Option Stub) : (toMessage m q).message.seq = m.seq := by
  unfold toMessage
  dsimp only
  split_ifs <;> rfl

lemma hydrated_seqs (rows : List Message) :
    (db.hydrateMany viewer rows).map (fun h => h.message.seq) = rows.map Message.seq := by
  unfold Database.hydrateMany
  rw [List.map_map]
  exact List.map_congr_left fun m _ => toMessage_seq m _

lemma select_seqs (hp : ∀ m, p m = true → m.conversationId = id) :
    ((db.select p).map Message.seq).Nodup := by
  have hrows : (db.select p).Nodup := (List.Nodup.of_map _ db.messages.nodup).filter _
  refine List.Nodup.map_on (fun a ha b hb heq => ?_) hrows
  obtain ⟨ha, hpa⟩ := List.mem_filter.mp ha
  obtain ⟨hb, hpb⟩ := List.mem_filter.mp hb
  exact db.seq_unique a ha b hb ((hp a hpa).trans (hp b hpb).symm) heq

lemma seq_lt_of_order (hp : ∀ m, p m = true → m.conversationId = id) {a b : Message}
    (ha : a ∈ db.select p) (hb : b ∈ db.select p) :
    ((oldestFirst (db.select p) limit).order a < (oldestFirst (db.select p) limit).order b ↔
      a.seq < b.seq) ∧
    ((newestFirst (db.select p) limit).order a < (newestFirst (db.select p) limit).order b ↔
      b.seq < a.seq) := by
  obtain ⟨ha, hpa⟩ := List.mem_filter.mp ha
  obtain ⟨hb, hpb⟩ := List.mem_filter.mp hb
  have hsame : a.seq = b.seq → a = b :=
    db.seq_unique a ha b hb ((hp a hpa).trans (hp b hpb).symm)
  unfold oldestFirst newestFirst
  simp only [List.cons_lt_cons_iff, Nat.cast_lt, Nat.cast_inj, neg_lt_neg_iff, neg_inj]
  constructor
  · constructor
    · rintro (h | ⟨heq, h⟩)
      · exact h
      · rw [hsame heq] at h
        simp at h
    · intro h
      exact Or.inl h
  · constructor
    · rintro (h | ⟨heq, h⟩)
      · exact h
      · rw [hsame heq] at h
        simp at h
    · intro h
      exact Or.inl h

lemma oldestFirst_sorted (hp : ∀ m, p m = true → m.conversationId = id) :
    (oldestFirst (db.select p) limit).run.Pairwise fun a b => a.seq < b.seq :=
  (Query.run_sorted (Database.strict_oldestFirst p limit)).imp_of_mem fun ha hb h =>
    (seq_lt_of_order hp (Query.mem_of_mem_run ha) (Query.mem_of_mem_run hb)).1.mp h

lemma newestFirst_sorted (hp : ∀ m, p m = true → m.conversationId = id) :
    (newestFirst (db.select p) limit).run.Pairwise fun a b => b.seq < a.seq :=
  (Query.run_sorted (Database.strict_newestFirst p limit)).imp_of_mem fun ha hb h =>
    (seq_lt_of_order hp (Query.mem_of_mem_run ha) (Query.mem_of_mem_run hb)).2.mp h

lemma ahead_oldest_lt (hp : ∀ m, p m = true → m.conversationId = id ∧ low < m.seq)
    (hm : m ∈ db.select p) : (oldestFirst (db.select p) limit).ahead m < m.seq - low := by
  have hid : ∀ m, p m = true → m.conversationId = id := fun m h => (hp m h).1
  have hlow := (hp m (List.mem_filter.mp hm).2).2
  obtain ⟨before, hsub, horder, hahead⟩ := (oldestFirst (db.select p) limit).exists_ahead m
  have hbefore : ∀ a ∈ before, low < a.seq ∧ a.seq < m.seq := by
    intro a ha
    have hadmitted : a ∈ db.select p := hsub.subset ha
    exact ⟨(hp a (List.mem_filter.mp hadmitted).2).2,
      (seq_lt_of_order hid hadmitted hm).1.mp (horder a ha)⟩
  have hseqs : (before.map Message.seq).Nodup := (select_seqs hid).sublist (hsub.map _)
  have hsubset : (before.map Message.seq).toFinset ⊆ Finset.Ioo low m.seq := by
    intro n hn
    obtain ⟨a, ha, rfl⟩ := List.mem_map.mp (List.mem_toFinset.mp hn)
    exact Finset.mem_Ioo.mpr (hbefore a ha)
  have hcount := Finset.card_le_card hsubset
  rw [List.toFinset_card_of_nodup hseqs, List.length_map, Nat.card_Ioo] at hcount
  omega

end Pages

end Yappy.Reads

namespace Yappy.Sync

open Pages (Query)
open Permissions (AppError Conversation ConversationMember MemberContext Time Uuid)
open Reads (Hydrated HistoryOptions Message Sends toMessage newestFirst oldestFirst)

/-- A call that reads after some sends, and more between its statements. -/
def Reading.After (reading : Reading) (db : Reads.Database) : Prop :=
  Sends db reading.permissions ∧ Sends reading.permissions reading.messages

/-- The messages cover what the user may see between two numbers, in order and each once. -/
structure Covers (db : Reads.Database) (viewer id : Uuid) (low high : ℕ) (held : List Hydrated) :
    Prop where
  increasing : (held.map fun h => h.message.seq).Pairwise (· < ·)
  complete : ∀ m ∈ db.messages.rows, m.conversationId = id → low < m.seq → m.seq ≤ high →
    db.notDeletedForViewer viewer m = true → ∃ quote, toMessage m quote ∈ held

def smallest (held : List Hydrated) : Option ℕ := (held.map fun h => h.message.seq).min?

/-- One call of `history` by a client that pages back. -/
structure Call where
  reading : Reading
  limit : ℕ
  limit_pos : 1 ≤ limit

def pageBack (viewer id : Uuid) : List Call → List Hydrated → Except AppError (List Hydrated)
  | [], held => .ok held
  | call :: calls, held => do
    let r ← call.reading.history viewer id {
      limit := call.limit
      before := smallest held
      after := none
      around := none
      includeDeleted := true }
    pageBack viewer id calls (r.messages ++ held)

/-! ## One call -/

section Calls
variable {db : Reads.Database} {viewer id : Uuid} {reading : Reading} {member : ConversationMember}
  {opts : HistoryOptions} {r : Reads.Response} {clock : Time} {ctx : MemberContext}

lemma Reading.After.grown (h : reading.After db) :
    Reads.Grown db reading.permissions ∧ Reads.Grown db reading.messages :=
  ⟨h.1.grown, h.1.grown.trans h.2.grown⟩

lemma history_eq_ok (h : reading.After db) (hm : db.tables.memberRow id viewer = some member)
    (hr : reading.history viewer id opts = .ok r) :
    r.messages = reading.messages.hydrateMany viewer
      (reading.messages.historyRows viewer id member.historyStartSeq opts) := by
  unfold Reading.history at hr
  obtain ⟨ctx, hctx, hok⟩ := Permissions.bind_eq_ok.mp hr
  obtain rfl := Except.ok.inj hok
  obtain ⟨member', hm', hsame⟩ := h.grown.1.member id viewer member hm
  rw [Reads.Database.context_floor hm' hctx, hsame.historyStartSeq]

lemma history_ok (h : reading.After db) (hm : db.tables.memberRow id viewer = some member)
    (hctx : db.tables.requirePermission id viewer Permissions.Permission.readHistory clock = .ok ctx) :
    ∃ r, reading.history viewer id opts = .ok r := by
  obtain ⟨ctx', hctx', -⟩ := h.grown.1.readable hm hctx reading.clock
  unfold Reading.history
  rw [hctx']
  exact ⟨_, rfl⟩

lemma historyRows_back (db : Reads.Database) (viewer id floor limit : ℕ) (before : Option ℕ) :
    db.historyRows viewer id floor ⟨limit, before, none, none, true⟩ =
      (newestFirst (db.select fun m => db.historyBase viewer id floor true m &&
        before.all fun b => m.seq < b) limit).run.reverse := by
  unfold Reads.Database.historyRows Reads.Database.historyQueries
  simp only [List.flatMap_cons, List.flatMap_nil, List.append_nil, if_true]

lemma historyRows_on (db : Reads.Database) (viewer id floor limit after : ℕ) :
    db.historyRows viewer id floor ⟨limit, none, some after, none, true⟩ =
      (oldestFirst (db.select fun m => db.historyBase viewer id floor true m &&
        decide (after < m.seq)) limit).run := by
  unfold Reads.Database.historyRows Reads.Database.historyQueries
  simp only [List.flatMap_cons, List.flatMap_nil, List.append_nil, Bool.false_eq_true, if_false]

lemma historyBase_iff {floor : ℕ} {m : Message} : db.historyBase viewer id floor true m = true ↔
    m.conversationId = id ∧ floor < m.seq ∧ db.notDeletedForViewer viewer m = true := by
  unfold Reads.Database.historyBase
  simp only [Bool.true_or, Bool.and_true, Bool.and_eq_true, decide_eq_true_eq]
  tauto

lemma Grown.base {db' : Reads.Database} (h : Reads.Grown db db') {floor : ℕ} {m : Message}
    (hrow : m ∈ db.messages.rows) (hid : m.conversationId = id) (hfloor : floor < m.seq)
    (hv : db.notDeletedForViewer viewer m = true) :
    m ∈ db'.messages.rows ∧ db'.historyBase viewer id floor true m = true :=
  ⟨h.messages m hrow, historyBase_iff.mpr ⟨hid, hfloor, (h.notDeletedForViewer m).trans hv⟩⟩

end Calls

/-! ## Paging -/

section Paging
variable {db : Reads.Database} {viewer id floor high low low' : ℕ} {reading : Reading}
  {member : ConversationMember} {held : List Hydrated} {r : Reads.Response}

lemma smallest_eq_some {n : ℕ} : smallest held = some n ↔
    (∃ h ∈ held, h.message.seq = n) ∧ ∀ h ∈ held, n ≤ h.message.seq := by
  unfold smallest
  rw [List.min?_eq_some_iff]
  simp only [List.mem_map, forall_exists_index, and_imp, forall_apply_eq_imp_iff₂]

lemma smallest_eq_none : smallest held = none ↔ held = [] := by
  unfold smallest
  rw [List.min?_eq_none_iff, List.map_eq_nil_iff]

lemma Covers.mono (h : Covers db viewer id low high held) (hle : low ≤ low') :
    Covers db viewer id low' high held where
  increasing := h.increasing
  complete m hm hid hlow hhigh hv := h.complete m hm hid (by omega) hhigh hv

structure Paged (db : Reads.Database) (viewer id floor high : ℕ) (held : List Hydrated) : Prop where
  increasing : (held.map fun h => h.message.seq).Pairwise (· < ·)
  above : ∀ h ∈ held, floor < h.message.seq
  /-- Nothing is missing between its smallest number and the newest. -/
  gapless : ∀ m ∈ db.messages.rows, m.conversationId = id → floor < m.seq → m.seq ≤ high →
    db.notDeletedForViewer viewer m = true → ∀ n, smallest held = some n → n ≤ m.seq →
      ∃ quote, toMessage m quote ∈ held

lemma paged_nil (db : Reads.Database) (viewer id floor high : ℕ) :
    Paged db viewer id floor high [] where
  increasing := List.Pairwise.nil
  above _ h := by cases h
  gapless _ _ _ _ _ _ _ h := by cases h

lemma Paged.covers {n : ℕ} (h : Paged db viewer id floor high held) (hn : smallest held = some n)
    (hfloor : floor ≤ low) : Covers db viewer id (max low (n - 1)) high held where
  increasing := h.increasing
  complete m hm hid hlow hhigh hv := by
    have hlow' := Nat.max_lt.mp hlow
    exact h.gapless m hm hid (by omega) hhigh hv n hn (by omega)

lemma Paged.page {limit : ℕ} (h : Paged db viewer id floor high held) (hgrown : Reads.Grown db reading.messages)
    (hlimit : 1 ≤ limit) (hmessages : r.messages = reading.messages.hydrateMany viewer
      (reading.messages.historyRows viewer id floor ⟨limit, smallest held, none, none, true⟩)) :
    Paged db viewer id floor high (r.messages ++ held) ∧
      (r.messages = [] → Covers db viewer id floor high held) ∧
      ∀ x ∈ r.messages, ∀ n, smallest held = some n → x.message.seq < n := by
  rw [historyRows_back] at hmessages
  set query := newestFirst (reading.messages.select fun m =>
    reading.messages.historyBase viewer id floor true m && (smallest held).all fun b => m.seq < b) limit
    with hquery
  have hadmitted : ∀ {m}, m ∈ query.admitted ↔ m ∈ reading.messages.messages.rows ∧
      reading.messages.historyBase viewer id floor true m = true ∧
      ∀ n, smallest held = some n → m.seq < n := by
    intro m
    simp only [hquery, newestFirst, Reads.Database.select, List.mem_filter, Bool.and_eq_true,
      Option.all_eq_true, decide_eq_true_eq]
  have hid : ∀ m, (reading.messages.historyBase viewer id floor true m &&
      (smallest held).all fun b => decide (m.seq < b)) = true → m.conversationId = id :=
    fun m hm => (historyBase_iff.mp (Bool.and_eq_true_iff.mp hm).1).1
  have hshown : ∀ x ∈ r.messages, ∃ m ∈ query.run, x.message.seq = m.seq := by
    intro x hx
    rw [hmessages] at hx
    obtain ⟨m, hm, rfl⟩ := List.mem_map.mp hx
    exact ⟨m, List.mem_reverse.mp hm, Reads.toMessage_seq m _⟩
  have hbrought : ∀ m ∈ query.run, ∃ quote, toMessage m quote ∈ r.messages := by
    intro m hm
    rw [hmessages]
    exact ⟨_, List.mem_map_of_mem (List.mem_reverse.mpr hm)⟩
  have hbefore : ∀ x ∈ r.messages, ∀ n, smallest held = some n → x.message.seq < n := by
    intro x hx n hn
    obtain ⟨m, hm, hseq⟩ := hshown x hx
    rw [hseq]
    exact (hadmitted.mp (Query.mem_of_mem_run hm)).2.2 n hn
  -- what is not held yet is there to be paged
  have hrest : ∀ m ∈ db.messages.rows, m.conversationId = id → floor < m.seq → m.seq ≤ high →
      db.notDeletedForViewer viewer m = true →
      (∃ quote, toMessage m quote ∈ held) ∨ m ∈ query.admitted := by
    intro m hm hmid hfloor hhigh hv
    by_cases hlt : ∀ n, smallest held = some n → m.seq < n
    · obtain ⟨hrow, hbase⟩ := Grown.base hgrown hm hmid hfloor hv
      exact Or.inr (hadmitted.mpr ⟨hrow, hbase, hlt⟩)
    · push Not at hlt
      obtain ⟨n, hn, hle⟩ := hlt
      exact Or.inl (h.gapless m hm hmid hfloor hhigh hv n hn hle)
  refine ⟨⟨?_, fun x hx => ?_, fun m hm hmid hfloor hhigh hv n hn hle => ?_⟩, fun hnone => ?_, hbefore⟩
  · rw [List.map_append, List.pairwise_append]
    refine ⟨?_, h.increasing, ?_⟩
    · rw [hmessages, Reads.hydrated_seqs, List.map_reverse, List.pairwise_reverse, List.pairwise_map]
      exact Reads.newestFirst_sorted hid
    · intro a ha b hb
      obtain ⟨x, hx, rfl⟩ := List.mem_map.mp ha
      obtain ⟨y, hy, rfl⟩ := List.mem_map.mp hb
      cases hs : smallest held with
      | none =>
        rw [smallest_eq_none.mp hs] at hy
        cases hy
      | some n => exact (hbefore x hx n hs).trans_le ((smallest_eq_some.mp hs).2 y hy)
  · rcases List.mem_append.mp hx with hx | hx
    · obtain ⟨m, hm, hseq⟩ := hshown x hx
      rw [hseq]
      exact (historyBase_iff.mp (hadmitted.mp (Query.mem_of_mem_run hm)).2.1).2.1
    · exact h.above x hx
  · rcases hrest m hm hmid hfloor hhigh hv with ⟨quote, hheld⟩ | hpage
    · exact ⟨quote, List.mem_append_right _ hheld⟩
    · obtain ⟨x, hx, hxn⟩ := (smallest_eq_some.mp hn).1
      have hfirst : x ∈ r.messages := by
        rcases List.mem_append.mp hx with hx | hx
        · exact hx
        · exfalso
          cases hs : smallest held with
          | none =>
            rw [smallest_eq_none.mp hs] at hx
            cases hx
          | some n' =>
            have hm' := (hadmitted.mp hpage).2.2 n' hs
            have hx' := (smallest_eq_some.mp hs).2 x hx
            omega
      obtain ⟨a, ha, hseq⟩ := hshown x hfirst
      have horder : query.order m ≤ query.order a := by
        refine not_lt.mp fun hlt => ?_
        have := (Reads.seq_lt_of_order hid (Query.mem_of_mem_run ha) hpage).2.mp hlt
        omega
      obtain ⟨quote, hquote⟩ := hbrought m
        (Query.mem_run_of_le (Reads.Database.strict_newestFirst _ _) ha hpage horder)
      exact ⟨quote, List.mem_append_left _ hquote⟩
  · refine ⟨h.increasing, fun m hm hmid hfloor hhigh hv => ?_⟩
    rcases hrest m hm hmid hfloor hhigh hv with hheld | hpage
    · exact hheld
    · exfalso
      have hlen := query.length_run
      have hrun : query.run = [] := by
        refine List.eq_nil_iff_forall_not_mem.mpr fun a ha => ?_
        obtain ⟨quote, hquote⟩ := hbrought a ha
        rw [hnone] at hquote
        cases hquote
      have hpos := List.length_pos_of_mem hpage
      rw [hrun, List.length_nil] at hlen
      have hlim : query.limit = limit := rfl
      omega

lemma Paged.back (calls : List Call) (h : Paged db viewer id floor high held)
    (hgrown : ∀ call ∈ calls, Reads.Grown db call.reading.messages)
    (hcalls : ∀ call ∈ calls, ∀ opts, ∃ r, call.reading.history viewer id opts = .ok r ∧
      r.messages = call.reading.messages.hydrateMany viewer
        (call.reading.messages.historyRows viewer id floor opts)) :
    ∃ held', pageBack viewer id calls held = .ok held' ∧ Paged db viewer id floor high held' ∧
      (∀ x ∈ held, x ∈ held') ∧ (Covers db viewer id floor high held' ∨ ∀ n, smallest held = some n →
        ∃ n', smallest held' = some n' ∧ n' + calls.length ≤ n) := by
  induction calls generalizing held with
  | nil =>
    exact ⟨held, rfl, h, fun _ hx => hx, Or.inr fun n hn => ⟨n, hn, le_refl n⟩⟩
  | cons call calls ih =>
    obtain ⟨r, hr, hmessages⟩ := hcalls call List.mem_cons_self
      ⟨call.limit, smallest held, none, none, true⟩
    obtain ⟨hpaged, hlast, hbefore⟩ :=
      h.page (hgrown call List.mem_cons_self) call.limit_pos hmessages
    obtain ⟨held', hback, hpaged', hkept, hreached⟩ := ih hpaged
      (fun c hc => hgrown c (List.mem_cons_of_mem _ hc)) fun c hc => hcalls c (List.mem_cons_of_mem _ hc)
    have hsame : pageBack viewer id (call :: calls) held = .ok held' := by
      unfold pageBack
      rw [hr]
      exact hback
    have hkept' : ∀ x ∈ held, x ∈ held' := fun x hx => hkept x (List.mem_append_right _ hx)
    refine ⟨held', hsame, hpaged', hkept', ?_⟩
    cases hnew : r.messages with
    | nil =>
      have hall := hlast hnew
      refine Or.inl ⟨hpaged'.increasing, fun m hm hid hlow hhigh hv => ?_⟩
      obtain ⟨quote, hquote⟩ := hall.complete m hm hid hlow hhigh hv
      exact ⟨quote, hkept' _ hquote⟩
    | cons x rest =>
      have hx : x ∈ r.messages := hnew ▸ List.mem_cons_self
      refine hreached.imp (fun hall => hall) fun hreached n hn => ?_
      cases hk : smallest (r.messages ++ held) with
      | none =>
        rw [smallest_eq_none, hnew] at hk
        cases hk
      | some k =>
        obtain ⟨n', hn', hle⟩ := hreached k hk
        have hfirst := (smallest_eq_some.mp hk).2 x (List.mem_append_left _ hx)
        have hlt := hbefore x hx n hn
        refine ⟨n', hn', ?_⟩
        rw [List.length_cons]
        omega

end Paging

/-! ## A slice -/

section Slices
variable {db : Database} {viewer : Uuid} {body : Body} {readings : Uuid → Reading} {reading : Reading}
  {s : Slice} {r : Response} {c : Conversation} {member : ConversationMember}

lemma slice_eq_ok (h : slice body reading viewer (c, member) = .ok s) (hne : s.messages ≠ []) :
    0 < body.messagesPerConversation ∧ s.conversationId = c.id ∧
      s.truncated = decide (body.messagesPerConversation < body.gap c) ∧
      ∃ r, reading.history viewer c.id {
        limit := min (body.gap c) body.messagesPerConversation
        before := none
        after := if s.truncated then none
          else (body.cursor c.id).map fun seq => max seq member.historyStartSeq
        around := none
        includeDeleted := (body.cursor c.id).isSome } = .ok r ∧ s.messages = r.messages := by
  unfold slice at h
  split_ifs at h with hnone
  · obtain rfl := Except.ok.inj h
    exact absurd rfl hne
  · obtain ⟨r, hr, hok⟩ := Permissions.bind_eq_ok.mp h
    obtain rfl := Except.ok.inj hok
    exact ⟨by omega, rfl, rfl, r, hr, rfl⟩

lemma slice_of_sync (h : db.sync viewer body readings = .ok r) (hs : s ∈ r.messages) :
    ∃ row ∈ db.memberships viewer, slice body (readings row.1.id) viewer row = .ok s ∧ s.messages ≠ [] := by
  unfold Database.sync at h
  obtain ⟨slices, hslices, hok⟩ := Permissions.bind_eq_ok.mp h
  obtain rfl := Except.ok.inj hok
  obtain ⟨hmem, hne⟩ := List.mem_filter.mp hs
  obtain ⟨row, hrow, hslice⟩ : ∃ row ∈ (db.changed viewer body).take 200,
      slice body (readings row.1.id) viewer row = .ok s := by
    have hall := mapM_eq_ok.mp hslices
    obtain ⟨i, hi, rfl⟩ := List.mem_iff_getElem.mp hmem
    have hlen := hall.length_eq
    exact ⟨_, List.getElem_mem (hlen ▸ hi), List.Forall₂.get hall (hlen ▸ hi) hi⟩
  refine ⟨row, Database.changed_mem (List.mem_of_mem_take hrow), hslice, ?_⟩
  simpa using hne

/-- A slice that is not truncated has everything since the cursor. -/
theorem untruncated_covers {cursor : ℕ} (hafter : reading.After db.reads)
    (hm : db.reads.tables.memberRow c.id viewer = some member) (hcursor : body.cursor c.id = some cursor)
    (h : slice body reading viewer (c, member) = .ok s) (hne : s.messages ≠ [])
    (htruncated : s.truncated = false) :
    Covers db.reads viewer c.id (max cursor member.historyStartSeq) c.messageSeq s.messages := by
  obtain ⟨-, -, hgap, result, hresult, hmessages⟩ := slice_eq_ok h hne
  rw [htruncated] at hgap
  have hgap' : body.gap c ≤ body.messagesPerConversation := not_lt.mp (of_decide_eq_false hgap.symm)
  have hsize : body.gap c = c.messageSeq - cursor := by
    unfold Body.gap
    rw [hcursor, Option.elim_some]
  rw [htruncated, hcursor] at hresult
  have hrows := history_eq_ok hafter hm hresult
  simp only [Bool.false_eq_true, if_false, Option.map_some, Option.isSome_some] at hrows
  rw [historyRows_on] at hrows
  rw [hmessages, hrows]
  have hp : ∀ m, (reading.messages.historyBase viewer c.id member.historyStartSeq true m &&
      decide (max cursor member.historyStartSeq < m.seq)) = true →
      m.conversationId = c.id ∧ max cursor member.historyStartSeq < m.seq := by
    intro m hm
    obtain ⟨hbase, hlow⟩ := Bool.and_eq_true_iff.mp hm
    exact ⟨(historyBase_iff.mp hbase).1, of_decide_eq_true hlow⟩
  constructor
  · rw [Reads.hydrated_seqs, List.pairwise_map]
    exact Reads.oldestFirst_sorted fun m hm => (hp m hm).1
  · intro m hm hid hlow hhigh hv
    obtain ⟨hrow, hbase⟩ := Grown.base hafter.grown.2 hm hid (Nat.max_lt.mp hlow).2 hv
    have hadmitted : m ∈ reading.messages.select fun m =>
        reading.messages.historyBase viewer c.id member.historyStartSeq true m &&
          decide (max cursor member.historyStartSeq < m.seq) :=
      List.mem_filter.mpr ⟨hrow, Bool.and_eq_true_iff.mpr ⟨hbase, decide_eq_true hlow⟩⟩
    have hahead := @Reads.ahead_oldest_lt _ _ _ (min (body.gap c) body.messagesPerConversation) _ _
      hp hadmitted
    have hcursor' : cursor ≤ max cursor member.historyStartSeq := le_max_left _ _
    have hroom : m.seq - max cursor member.historyStartSeq ≤ min (body.gap c) body.messagesPerConversation := by
      rw [Nat.min_eq_left hgap', hsize]
      omega
    have hrun := (Query.mem_run (Reads.Database.strict_oldestFirst _ _)).mpr
      ⟨hadmitted, hahead.trans_le hroom⟩
    exact ⟨_, List.mem_map_of_mem hrun⟩

lemma truncated_paged {cursor : ℕ} (hafter : reading.After db.reads)
    (hm : db.reads.tables.memberRow c.id viewer = some member) (hcursor : body.cursor c.id = some cursor)
    (h : slice body reading viewer (c, member) = .ok s) (hne : s.messages ≠ [])
    (htruncated : s.truncated = true) :
    Paged db.reads viewer c.id member.historyStartSeq c.messageSeq s.messages := by
  obtain ⟨hper, -, hgap, result, hresult, hmessages⟩ := slice_eq_ok h hne
  rw [htruncated] at hgap
  have hgap' : body.messagesPerConversation < body.gap c := of_decide_eq_true hgap.symm
  rw [htruncated, hcursor] at hresult
  have hrows := history_eq_ok hafter hm hresult
  simp only [if_true, Option.isSome_some, Nat.min_eq_right hgap'.le] at hrows
  have hpage := (paged_nil db.reads viewer c.id member.historyStartSeq c.messageSeq).page
    hafter.grown.2 hper hrows
  rw [hmessages, ← List.append_nil result.messages]
  exact hpage.1

end Slices

/-- What a client gets by a cursor: everything since, or the newest page, from which paging back
gets everything since. -/
theorem sync_complete {db : Database} {viewer : Uuid} {body : Body} {readings : Uuid → Reading}
    (hafter : ∀ id, (readings id).After db.reads) {r : Response}
    (hr : db.sync viewer body readings = .ok r) {s : Slice} (hs : s ∈ r.messages) {cursor : ℕ}
    (hcursor : body.cursor s.conversationId = some cursor) {c : Conversation}
    (hc : db.reads.tables.conversations.find s.conversationId = some c) {member : ConversationMember}
    (hm : db.reads.tables.memberRow s.conversationId viewer = some member) :
    (s.truncated = false → Covers db.reads viewer s.conversationId
      (max cursor member.historyStartSeq) c.messageSeq s.messages) ∧
    (s.truncated = true → ∀ calls : List Call,
      (∀ call ∈ calls, call.reading.After (readings s.conversationId).messages) →
      ∃ held, pageBack viewer s.conversationId calls s.messages = .ok held ∧
        (∀ n, smallest held = some n → Covers db.reads viewer s.conversationId
          (max (max cursor member.historyStartSeq) (n - 1)) c.messageSeq held) ∧
        ∀ n, smallest s.messages = some n → n ≤ calls.length → Covers db.reads viewer s.conversationId
          (max cursor member.historyStartSeq) c.messageSeq held) := by
  obtain ⟨row, hrow, hslice, hne⟩ := slice_of_sync hr hs
  obtain ⟨c', member'⟩ := row
  obtain ⟨hc', -, hm', -, -⟩ := Database.mem_memberships.mp hrow
  obtain ⟨hper, hid, -, result, hresult, hmessages⟩ := slice_eq_ok hslice hne
  rw [hid] at hcursor hc hm ⊢
  rw [hc] at hc'
  obtain rfl := Option.some.inj hc'
  rw [hm] at hm'
  obtain rfl := Option.some.inj hm'
  refine ⟨fun ht => untruncated_covers (hafter c.id) hm hcursor hslice hne ht, fun ht calls hcalls => ?_⟩
  have hpaged := truncated_paged (hafter c.id) hm hcursor hslice hne ht
  -- the history of the slice was open, so it stays open
  obtain ⟨ctx, hctx⟩ : ∃ ctx, (readings c.id).permissions.tables.requirePermission c.id viewer
      Permissions.Permission.readHistory (readings c.id).clock = .ok ctx := by
    unfold Reading.history at hresult
    obtain ⟨ctx, hctx, -⟩ := Permissions.bind_eq_ok.mp hresult
    exact ⟨ctx, hctx⟩
  obtain ⟨later, hlater, hsame⟩ := (hafter c.id).grown.1.member c.id viewer member hm
  have hopen : ∀ call ∈ calls, ∀ opts, ∃ r, call.reading.history viewer c.id opts = .ok r ∧
      r.messages = call.reading.messages.hydrateMany viewer
        (call.reading.messages.historyRows viewer c.id member.historyStartSeq opts) := by
    intro call hcall opts
    have hfrom : call.reading.After (readings c.id).permissions :=
      ⟨(hafter c.id).2.trans (hcalls call hcall).1, (hcalls call hcall).2⟩
    obtain ⟨r, hr⟩ := @history_ok _ _ _ _ _ opts _ _ hfrom hlater hctx
    refine ⟨r, hr, ?_⟩
    rw [history_eq_ok hfrom hlater hr, hsame.historyStartSeq]
  have hgrown : ∀ call ∈ calls, Reads.Grown db.reads call.reading.messages := fun call hcall =>
    (hafter c.id).grown.2.trans (hcalls call hcall).grown.2
  obtain ⟨held, hback, hpaged', -, hreached⟩ := hpaged.back calls hgrown hopen
  refine ⟨held, hback, fun n hn => hpaged'.covers hn (le_max_right _ _), fun n hn hle => ?_⟩
  rcases hreached with hall | hreached
  · exact hall.mono (le_max_right _ _)
  · obtain ⟨n', hn', hfew⟩ := hreached n hn
    obtain ⟨x, hx, hseq⟩ := (smallest_eq_some.mp hn').1
    have hfloor := hpaged'.above x hx
    omega

namespace Sample

def group : Database where
  reads := { Reads.Sample.database with messageDeletions := [(100, 12)] }
  isHidden _ := false
  updatedAt _ := 0
  lastMessageAt _ := none

def behind : Body := ⟨[(1, 0)], 1, none, by decide, by decide⟩

end Sample

/-- Two more pages bring whatever there is. -/
theorem sync_complete_behind : ∃ s : Slice, s.truncated = true ∧ ∀ calls : List Call, 2 ≤ calls.length →
    (∀ call ∈ calls, call.reading.After Sample.group.reads) →
    ∃ held, pageBack 12 1 calls s.messages = .ok held ∧ Covers Sample.group.reads 12 1 1 2 held := by
  have hstill : ∀ db : Reads.Database, Reading.After ⟨db, db, 0⟩ db := fun db => ⟨.refl db, .refl db⟩
  have hall : (match Sample.group.syncNow 12 Sample.behind 0 with
      | .ok r => r.messages.any fun s => s.truncated && s.conversationId = 1 && smallest s.messages = some 2
      | .error _ => false) = true := by decide +kernel
  cases hr : Sample.group.syncNow 12 Sample.behind 0 with
  | error e =>
    rw [hr] at hall
    cases hall
  | ok r =>
    rw [hr] at hall
    obtain ⟨s, hs, hp⟩ := List.any_eq_true.mp hall
    simp only [Bool.and_eq_true, decide_eq_true_eq] at hp
    obtain ⟨⟨htruncated, hid⟩, hn⟩ := hp
    refine ⟨s, htruncated, fun calls hlen hcalls => ?_⟩
    obtain ⟨held, hback, -, hcovers⟩ :=
      (sync_complete (fun _ => hstill Sample.group.reads) hr hs
        (show Sample.behind.cursor s.conversationId = some 0 by rw [hid]; rfl)
        (show Sample.group.reads.tables.conversations.find s.conversationId = some
          { Permissions.Sample.conversation 1 .group none with messageSeq := 2 } by rw [hid]; rfl)
        (show Sample.group.reads.tables.memberRow s.conversationId 12 = some (.new 1 12 .member 0 1) by
          rw [hid]; rfl)).2 htruncated calls hcalls
    rw [hid] at hback hcovers
    exact ⟨held, hback, hcovers 2 hn hlen⟩

end Yappy.Sync
