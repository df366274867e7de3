import Yappy.MessageWithheld

/-!
# Two read boundaries

`can_read_message` against what `history` can return, and exactly where the two part.
-/
namespace Yappy.Permissions.Sql

variable {db : Database}

lemma and_three_eq {x : ℕ} : BitVec.ofNat 64 x &&& 3#64 = 3#64 ↔
    x.testBit 0 = true ∧ x.testBit 1 = true := by
  have hzero := @ofNat_and_two_pow_eq 64 x 0 (by decide)
  have hone := @ofNat_and_two_pow_eq 64 x 1 (by decide)
  rw [← hzero, ← hone]
  constructor
  · intro h
    constructor
    · calc BitVec.ofNat 64 x &&& BitVec.ofNat 64 (2 ^ 0)
          = (BitVec.ofNat 64 x &&& 3#64) &&& BitVec.ofNat 64 (2 ^ 0) := by
            rw [BitVec.and_assoc]
            rfl
        _ = BitVec.ofNat 64 (2 ^ 0) := by
            rw [h]
            rfl
    · calc BitVec.ofNat 64 x &&& BitVec.ofNat 64 (2 ^ 1)
          = (BitVec.ofNat 64 x &&& 3#64) &&& BitVec.ofNat 64 (2 ^ 1) := by
            rw [BitVec.and_assoc]
            rfl
        _ = BitVec.ofNat 64 (2 ^ 1) := by
            rw [h]
            rfl
  · rintro ⟨h0, h1⟩
    calc BitVec.ofNat 64 x &&& 3#64
        = BitVec.ofNat 64 x &&& (BitVec.ofNat 64 (2 ^ 0) ||| BitVec.ofNat 64 (2 ^ 1)) := rfl
      _ = 3#64 := by
          rw [BitVec.and_or_distrib_left, h0, h1]
          rfl

lemma permissions_read_iff {conversation user : Uuid} (clock : Time) :
    (∃ p ∈ conversationPermissions db conversation, p.1 = user ∧
      (p.2 &&& 3#64 = 3#64 ∨ p.2 &&& 4611686018427387904#64 ≠ 0)) ↔
      ∃ ctx, db.loadMemberContext conversation user clock = some ctx ∧
        has ctx.permissions Permission.viewConversation = true ∧
        has ctx.permissions Permission.readHistory = true := by
  have hread : silenced.testBit 1 = false := by decide
  have hperm : ∀ c a, a.userId = user →
      (resolve (input db c a) &&& 3#64 = 3#64 ∨ resolve (input db c a) &&& 4611686018427387904#64 ≠ 0 ↔
        has (effectivePermissions (db.permissionInput c user a) clock) Permission.viewConversation = true ∧
        has (effectivePermissions (db.permissionInput c user a) clock) Permission.readHistory = true) := by
    rintro c a rfl
    have hadmin := @ofNat_and_two_pow_ne_zero 64
      ({ (db.permissionInput c a.userId a).tiers clock with muted := 0 } : Tiers).compose 62 (by decide)
    rw [effectivePermissions_eq_compose, has_view_compose, resolve_input c a clock, and_three_eq]
    rw [show Permission.readHistory = 2 ^ 1 from rfl, has_bit_compose hread]
    rw [show (4611686018427387904#64 : BitVec 64) = BitVec.ofNat 64 (2 ^ 62) from rfl, hadmin]
    tauto
  simp only [mem_conversationPermissions, Database.loadMemberContext_eq_some]
  constructor
  · rintro ⟨⟨u, x⟩, ⟨c, a, hfind, hlive, hauth, hleft, rfl⟩, rfl, hp⟩
    have hu : a.userId = u := by
      unfold Database.authority at hauth
      split at hauth <;> exact congrArg Prod.snd (KeyedTable.find_key hauth)
    obtain ⟨hview, hread⟩ := (hperm c a hu).mp hp
    exact ⟨⟨c, _, _, _⟩, ⟨c, a, hfind, hlive, hauth, hleft, rfl, rfl, rfl, rfl⟩, hview, hread⟩
  · rintro ⟨ctx, ⟨c, a, hfind, hlive, hauth, hleft, -, -, -, hp⟩, hview, hread⟩
    have hu : a.userId = user := by
      unfold Database.authority at hauth
      split at hauth <;> exact congrArg Prod.snd (KeyedTable.find_key hauth)
    rw [hp] at hview hread
    exact ⟨(user, resolve (input db c a)), ⟨c, a, hfind, hlive, hauth, hleft, rfl⟩, rfl,
      (hperm c a hu).mpr ⟨hview, hread⟩⟩

end Yappy.Permissions.Sql

namespace Yappy.Reads

open Pages (Query)
open Permissions (ConversationMember MemberContext Time Uuid)

namespace Database

/-- Some page of `history` without deleted messages shows the message. -/
def Returns (db : Database) (user : Uuid) (clock : Time) (m : Message) : Prop :=
  ∃ opts r, opts.includeDeleted = false ∧ 1 ≤ opts.limit ∧ opts.limit ≤ pageSizeMax ∧
    db.history user clock m.conversationId opts = .ok r ∧ ∃ h ∈ r.messages, h.message.id = m.id

/-- The floor that `can_read_message` reads: that of a row that has not been left. -/
def sqlFloor (db : Database) (conversationId user : Uuid) : ℕ :=
  ((db.tables.memberRow conversationId user).filter fun cm => cm.leftAt.isNone).elim 0
    ConversationMember.historyStartSeq

section Boundaries
variable {db : Database} {user : Uuid} {clock : Time} {m : Message}

lemma canReadMessage_iff_context (hm : db.messages.find m.id = some m) :
    db.canReadMessage clock m.id user = true ↔
      ∃ ctx, db.tables.requirePermission m.conversationId user Permissions.Permission.readHistory
          clock = .ok ctx ∧
        Permissions.has ctx.permissions Permissions.Permission.viewConversation = true ∧
        m.deletedAt = none ∧ (m.expiresAt.all fun t => clock < t) = true ∧
        db.sqlFloor m.conversationId user < m.seq ∧ db.notDeletedForViewer user m = true := by
  rw [canReadMessage_iff hm, Permissions.Sql.permissions_read_iff clock]
  simp only [Permissions.Database.requirePermission_eq_ok]
  constructor
  · rintro ⟨c, hc, hlive, hdel, hexp, ⟨ctx, hctx, hview, hread⟩, hseq, hv⟩
    exact ⟨ctx, ⟨hctx, hread⟩, hview, hdel, hexp, hseq, hv⟩
  · rintro ⟨ctx, ⟨hctx, hread⟩, hview, hdel, hexp, hseq, hv⟩
    obtain ⟨c, -, hc, hlive, -⟩ := Permissions.Database.loadMemberContext_eq_some.mp hctx
    exact ⟨c, hc, hlive, hdel, hexp, ⟨ctx, hctx, hview, hread⟩, hseq, hv⟩

lemma returns_iff (hm : db.messages.find m.id = some m) :
    db.Returns user clock m ↔
      ∃ ctx, db.tables.requirePermission m.conversationId user Permissions.Permission.readHistory
          clock = .ok ctx ∧
        m.deletedAt = none ∧ ctx.member.historyStartSeq < m.seq ∧
        db.notDeletedForViewer user m = true := by
  constructor
  · rintro ⟨opts, r, hopts, -, -, hr, x, hx, hid⟩
    unfold history at hr
    obtain ⟨ctx, hctx, hok⟩ := Permissions.bind_eq_ok.mp hr
    obtain rfl := Except.ok.inj hok
    obtain ⟨m', hm', rfl⟩ := List.mem_map.mp hx
    obtain ⟨q, hq, hadmitted, -⟩ := mem_historyRows.mp hm'
    obtain ⟨hrow, hbase⟩ := historyQueries_base hq hadmitted
    have hid' : m'.id = m.id := by
      rw [← hid]
      unfold toMessage
      dsimp only
      split_ifs <;> rfl
    have hfind : db.messages.find m.id = some m' := KeyedTable.find_eq_some.mpr ⟨hrow, hid'⟩
    rw [hm] at hfind
    obtain rfl := Option.some.inj hfind
    unfold historyBase at hbase
    simp only [hopts, Bool.false_or, Bool.and_eq_true, decide_eq_true_eq,
      Option.isNone_iff_eq_none] at hbase
    exact ⟨ctx, hctx, hbase.1.2, hbase.1.1.2, hbase.2⟩
  · rintro ⟨ctx, hctx, hdel, hseq, hv⟩
    have hrow : m ∈ db.messages.rows := (KeyedTable.find_eq_some.mp hm).1
    -- one message, from just before it
    let opts : HistoryOptions := ⟨1, none, some (m.seq - 1), none, false⟩
    have hshows : m ∈ db.historyRows user m.conversationId ctx.member.historyStartSeq opts := by
      refine mem_historyRows.mpr ⟨_, List.mem_singleton.mpr rfl, List.mem_filter.mpr ⟨hrow, ?_⟩, ?_⟩
      · simp only [historyBase, hdel, hv, Bool.and_eq_true, decide_eq_true_eq]
        exact ⟨⟨⟨⟨trivial, hseq⟩, rfl⟩, trivial⟩, by omega⟩
      · refine Nat.lt_of_le_of_lt (Nat.le_of_eq ?_) Nat.one_pos
        refine List.countP_eq_zero.mpr fun a ha => ?_
        obtain ⟨harow, ha⟩ := List.mem_filter.mp ha
        simp only [historyBase, Bool.and_eq_true, decide_eq_true_eq] at ha
        simp only [oldestFirst, decide_eq_true_eq, List.cons_lt_cons_iff, not_or, not_and]
        refine ⟨by omega, fun heq => ?_⟩
        have hsame := db.seq_unique a harow m hrow ha.1.1.1.1 (by omega)
        simp [hsame]
    have hsize : opts.limit ≤ pageSizeMax := show 1 ≤ pageSizeMax by decide
    have hanswer : db.history user clock m.conversationId opts = .ok
        ⟨db.hydrateMany user (db.historyRows user m.conversationId ctx.member.historyStartSeq opts), [],
          .history ((db.historyRows user m.conversationId ctx.member.historyStartSeq opts).length =
            opts.limit) ctx.member.historyStartSeq ctx.conversation.messageSeq⟩ := by
      unfold history
      rw [hctx]
      rfl
    have hid : (toMessage m (db.stub user m)).message.id = m.id := by
      unfold toMessage
      dsimp only
      split_ifs <;> rfl
    exact ⟨opts, _, rfl, le_refl 1, hsize, hanswer, _, List.mem_map_of_mem hshows, hid⟩

lemma sqlFloor_le {ctx : MemberContext} {permission : ℕ}
    (h : db.tables.requirePermission m.conversationId user permission clock = .ok ctx) :
    db.sqlFloor m.conversationId user ≤ ctx.member.historyStartSeq := by
  obtain ⟨c, authority, hc, -, -, -, -, hm, -, -⟩ :=
    Permissions.Database.loadMemberContext_eq_some.mp
      (Permissions.Database.requirePermission_eq_ok.mp h).1
  have hid : c.id = m.conversationId := KeyedTable.find_key hc
  unfold sqlFloor
  rw [hm, hid]
  cases db.tables.memberRow m.conversationId user with
  | none => exact Nat.zero_le _
  | some member =>
    rw [Option.filter_some]
    split_ifs
    · exact le_refl _
    · exact Nat.zero_le _

/-- Where the two boundaries stand apart for a message: above the API's floor only SQL asks for the
permission to view and for time left to the message, and between the floors it lets both pass. -/
def Consistent (db : Database) (user : Uuid) (clock : Time) (m : Message) : Prop :=
  ∀ ctx, db.tables.requirePermission m.conversationId user Permissions.Permission.readHistory clock =
      .ok ctx → m.deletedAt = none → db.notDeletedForViewer user m = true →
    let lasting := Permissions.has ctx.permissions Permissions.Permission.viewConversation = true ∧
      (m.expiresAt.all fun t => clock < t) = true
    (ctx.member.historyStartSeq < m.seq → lasting) ∧
      (db.sqlFloor m.conversationId user < m.seq → m.seq ≤ ctx.member.historyStartSeq → ¬ lasting)

end Boundaries

/-- The two boundaries agree on a message exactly where they are consistent. -/
theorem readable_agrees_iff {db : Database} {m : Message} (user : Uuid) (clock : Time)
    (hm : db.messages.find m.id = some m) :
    (db.canReadMessage clock m.id user = true ↔ db.Returns user clock m) ↔
      db.Consistent user clock m := by
  rw [canReadMessage_iff_context hm, returns_iff hm]
  constructor
  · intro h ctx hctx hdel hv
    refine ⟨fun hseq => ?_, fun hsql hseq hlasting => ?_⟩
    · obtain ⟨ctx', hctx', hview, -, hexp, -, -⟩ := h.mpr ⟨ctx, hctx, hdel, hseq, hv⟩
      rw [hctx] at hctx'
      obtain rfl := Except.ok.inj hctx'
      exact ⟨hview, hexp⟩
    · obtain ⟨ctx', hctx', -, hseq', -⟩ := h.mp ⟨ctx, hctx, hlasting.1, hdel, hlasting.2, hsql, hv⟩
      rw [hctx] at hctx'
      obtain rfl := Except.ok.inj hctx'
      omega
  · intro h
    constructor
    · rintro ⟨ctx, hctx, hview, hdel, hexp, hsql, hv⟩
      refine ⟨ctx, hctx, hdel, ?_, hv⟩
      by_contra hseq
      exact (h ctx hctx hdel hv).2 hsql (by omega) ⟨hview, hexp⟩
    · rintro ⟨ctx, hctx, hdel, hseq, hv⟩
      obtain ⟨hview, hexp⟩ := (h ctx hctx hdel hv).1 hseq
      exact ⟨ctx, hctx, hview, hdel, hexp, (sqlFloor_le hctx).trans_lt hseq, hv⟩

end Database

namespace Sample

def expired : Message := { message 102 3 .image with expiresAt := some 5 }

def unswept : Database where
  tables := tables
  messages := ⟨[message 101 2 .text, expired], by decide⟩
  messageDeletions := []
  pinnedMessages := .empty
  messageMentions := .empty
  savedMessages := .empty
  reminders := .empty
  notifications := .empty
  seq_unique := by decide
  mention_placed := by decide

end Sample

open Sample

/-- The newcomer can read the text by both boundaries. -/
theorem readable_agrees_iff_text :
    database.canReadMessage 0 101 12 = true ↔ database.Returns 12 0 (message 101 2 .text) := by
  refine (@Database.readable_agrees_iff database (message 101 2 .text) 12 0 rfl).mpr ?_
  intro ctx hctx _ _
  have hall : (match database.tables.requirePermission 1 12 Permissions.Permission.readHistory 0 with
      | .ok ctx => decide (ctx.member.historyStartSeq < 2 ∧
          Permissions.has ctx.permissions Permissions.Permission.viewConversation = true)
      | .error _ => true) = true := by decide
  rw [show database.tables.requirePermission 1 12 Permissions.Permission.readHistory 0 = .ok ctx from hctx]
    at hall
  obtain ⟨hseq, hview⟩ := of_decide_eq_true hall
  exact ⟨fun _ => ⟨hview, rfl⟩, fun _ hle => absurd hle (Nat.not_le.mpr hseq)⟩

/-- `history` still returns what has expired, where `can_read_message` is over with it. -/
theorem expired_still_returned :
    ¬ ∀ (db : Database) (user : Uuid) (clock : Time) (m : Message), db.messages.find m.id = some m →
      (db.canReadMessage clock m.id user = true ↔ db.Returns user clock m) := by
  intro h
  have hagree := h unswept 12 10 expired rfl
  have hread : unswept.canReadMessage 10 102 12 = false := by decide
  have hreturns : unswept.Returns 12 10 expired := by
    refine (Database.returns_iff rfl).mpr ?_
    have hall : (match unswept.tables.requirePermission 1 12 Permissions.Permission.readHistory 10 with
        | .ok ctx => decide (ctx.member.historyStartSeq < 3)
        | .error _ => false) = true := by decide
    cases hctx : unswept.tables.requirePermission 1 12 Permissions.Permission.readHistory 10 with
    | error e =>
      rw [hctx] at hall
      cases hall
    | ok ctx =>
      rw [hctx] at hall
      exact ⟨ctx, hctx, rfl, of_decide_eq_true hall, rfl⟩
  have htrue := hagree.mpr hreturns
  rw [show expired.id = 102 from rfl, hread] at htrue
  cases htrue

end Yappy.Reads
