import Yappy.HistoryPages

/-!
# What catching up counts

`catchUp` adds up what the eight busiest senders of the last five hundred numbers wrote. That is how many
messages the member has missed where what others wrote besides is as much as what the member has deleted for
themselves, which nothing sees to.
-/
namespace Yappy

lemma sum_groupBy_length {α κ : Type} [DecidableEq κ] (key : α → κ) (rows : List α) :
    ((groupBy key List.length rows).map Prod.snd).sum = rows.length := by
  have hcount : ∀ k, (rows.filter fun r => key r = k).length = (rows.map key).count k := by
    intro k
    rw [List.count_eq_countP, List.countP_map, List.countP_eq_length_filter]
    rfl
  rw [groupBy, List.map_map]
  simp only [Function.comp_def, hcount]
  rw [List.sum_map_count_dedup_eq_length, List.length_map]

lemma nodup_groupBy {α κ γ : Type} [DecidableEq κ] (key : α → κ) (aggregate : List α → γ)
    (rows : List α) : ((groupBy key aggregate rows).map Prod.fst).Nodup := by
  rw [groupBy, List.map_map]
  exact (List.map_id _).symm ▸ List.nodup_dedup _

end Yappy

namespace Yappy.Pages.Query

variable {ρ α : Type*} [LinearOrder α] {q : Query ρ α}

lemma run_perm [DecidableEq ρ] (h : q.Strict) (hn : q.admitted.Nodup) :
    q.run.Perm (q.admitted.filter fun r => q.ahead r < q.limit) := by
  have hrun : q.run.Nodup := ((List.mergeSort_perm _ _).nodup_iff.mpr hn).sublist (List.take_sublist _ _)
  refine (List.perm_ext_iff_of_nodup hrun (hn.filter _)).mpr fun r => ?_
  rw [mem_run h, List.mem_filter, decide_eq_true_eq]
  rfl

lemma sum_run [DecidableEq ρ] (h : q.Strict) (hn : q.admitted.Nodup) (f : ρ → ℕ) :
    (q.run.map f).sum + ((q.admitted.filter fun r => q.limit ≤ q.ahead r).map f).sum =
      (q.admitted.map f).sum := by
  have hsplit := List.filter_append_perm (fun r => decide (q.ahead r < q.limit)) q.admitted
  have hbeyond : (q.admitted.filter fun r => !decide (q.ahead r < q.limit)) =
      q.admitted.filter fun r => q.limit ≤ q.ahead r := by
    refine List.filter_congr fun r _ => ?_
    rw [← decide_not, decide_eq_decide, Nat.not_lt]
  rw [hbeyond] at hsplit
  rw [((run_perm h hn).map f).sum_eq, ← List.sum_append, ← List.map_append, (hsplit.map f).sum_eq]

end Yappy.Pages.Query

namespace Yappy.Reads

open Pages (Query)
open Permissions (MemberContext Time Uuid)

def Message.byOther (viewer : Uuid) (m : Message) : Bool := m.senderId.any fun s => s ≠ viewer

namespace Database

section Definitions
variable (db : Database) (viewer conversationId : ℕ)

def fromOthers (low high : ℕ) : List Message :=
  db.select fun m => m.conversationId = conversationId && low < m.seq && m.seq ≤ high &&
    m.deletedAt.isNone && m.byOther viewer

/-- How many messages of others `history` could show the member between two numbers. -/
def missed (floor low high : ℕ) : ℕ :=
  (db.select fun m => db.historyBase viewer conversationId floor false m && m.byOther viewer &&
    low < m.seq && m.seq ≤ high).length

def hidden (low high : ℕ) : ℕ :=
  ((db.fromOthers viewer conversationId low high).filter fun m => !db.notDeletedForViewer viewer m).length

def senders (low high : ℕ) : List (Uuid × ℕ) :=
  groupBy id List.length ((db.fromOthers viewer conversationId low high).filterMap Message.senderId)

def busier (s t : Uuid × ℕ) : Bool := t.2 < s.2 || (s.2 = t.2 && s.1 < t.1)

def beyondEight (low high : ℕ) : ℕ :=
  (((db.senders viewer conversationId low high).filter fun s =>
    8 ≤ (db.senders viewer conversationId low high).countP fun t => busier t s).map Prod.snd).sum

def scanFrom (since upTo : ℕ) : ℕ := max since (upTo - maxScan)

/-- Where the scan covers all that was missed, what the ninth sender and those after wrote is as much as what
the member has deleted for themselves. Where it does not, the member has deleted no more than that, and what
was missed before the scan. -/
def Balanced (floor since upTo : ℕ) : Prop :=
  (scanFrom since upTo = since →
    db.beyondEight viewer conversationId since upTo = db.hidden viewer conversationId since upTo) ∧
  (since < scanFrom since upTo →
    db.hidden viewer conversationId (scanFrom since upTo) upTo ≤
      db.beyondEight viewer conversationId (scanFrom since upTo) upTo +
        db.missed viewer conversationId floor since (scanFrom since upTo))

end Definitions

/-! ## The scan -/

section Scan
variable {db : Database} {viewer conversationId floor low mid high : ℕ}

lemma fromOthers_filter : db.fromOthers viewer conversationId low high =
    (db.select fun m => m.conversationId = conversationId && low < m.seq && m.seq ≤ high &&
      m.deletedAt.isNone).filter (Message.byOther viewer) := by
  rw [fromOthers, select, select, List.filter_filter]
  exact List.filter_congr fun m _ => Bool.and_comm ..

lemma countsQuery_admitted :
    (db.countsQuery viewer conversationId low high).admitted =
      db.senders viewer conversationId low high := by
  rw [countsQuery, senders, fromOthers_filter, List.filterMap_filter]
  refine congrArg (groupBy id List.length) (List.filterMap_congr fun m _ => ?_)
  cases hsender : m.senderId with
  | none => simp [Message.byOther, hsender]
  | some s => by_cases hs : s = viewer <;> simp [Message.byOther, hsender, hs]

lemma countsQuery_strict : (db.countsQuery viewer conversationId low high).Strict := by
  refine @Query.strict_of_key _ _ _ _ Prod.fst ?_ fun r _ r' _ he => ?_
  · rw [countsQuery_admitted]
    exact nodup_groupBy ..
  · simpa [countsQuery] using (List.cons.inj (List.cons.inj he).2).1

lemma ahead_senders (s : Uuid × ℕ) : (db.countsQuery viewer conversationId low high).ahead s =
    (db.senders viewer conversationId low high).countP fun t => busier t s := by
  rw [Query.ahead, countsQuery_admitted]
  refine List.countP_congr fun t _ => ?_
  simp only [countsQuery, busier, decide_eq_true_eq, Bool.or_eq_true, Bool.and_eq_true,
    List.cons_lt_cons_iff, neg_lt_neg_iff, neg_inj, Nat.cast_lt, Nat.cast_inj, List.not_lt_nil,
    and_false, or_false]

lemma senders_total : ((db.senders viewer conversationId low high).map Prod.snd).sum =
    (db.fromOthers viewer conversationId low high).length := by
  rw [senders, sum_groupBy_length, List.length_filterMap_eq_countP, List.countP_eq_length]
  intro m hm
  have hother := (Bool.and_eq_true_iff.mp (List.mem_filter.mp hm).2).2
  rw [Message.byOther] at hother
  cases hsender : m.senderId with
  | none => rw [hsender] at hother; cases hother
  | some s => rfl

lemma counted_add_beyond :
    (((db.countsQuery viewer conversationId low high).run.map Prod.snd).sum +
      db.beyondEight viewer conversationId low high) =
        (db.fromOthers viewer conversationId low high).length := by
  have hnodup : (db.countsQuery viewer conversationId low high).admitted.Nodup := by
    rw [countsQuery_admitted]
    exact List.Nodup.of_map _ (nodup_groupBy ..)
  have hsum := Query.sum_run countsQuery_strict hnodup Prod.snd
  rw [countsQuery_admitted, senders_total] at hsum
  rw [← hsum, beyondEight]
  simp only [ahead_senders]
  rfl

lemma missed_add_hidden (h : floor ≤ low) :
    db.missed viewer conversationId floor low high + db.hidden viewer conversationId low high =
      (db.fromOthers viewer conversationId low high).length := by
  have hmissed : (db.fromOthers viewer conversationId low high).filter (db.notDeletedForViewer viewer) =
      db.select fun m => db.historyBase viewer conversationId floor false m && m.byOther viewer &&
        low < m.seq && m.seq ≤ high := by
    rw [fromOthers, select, select, List.filter_filter]
    refine List.filter_congr fun m _ => Bool.eq_iff_iff.mpr ?_
    simp only [historyBase, Bool.and_eq_true, decide_eq_true_eq, Bool.false_or]
    constructor
    · rintro ⟨hview, ⟨⟨⟨hconversation, hlow⟩, hhigh⟩, hlive⟩, hother⟩
      exact ⟨⟨⟨⟨⟨⟨hconversation, by omega⟩, hlive⟩, hview⟩, hother⟩, hlow⟩, hhigh⟩
    · rintro ⟨⟨⟨⟨⟨⟨hconversation, -⟩, hlive⟩, hview⟩, hother⟩, hlow⟩, hhigh⟩
      exact ⟨hview, ⟨⟨⟨hconversation, hlow⟩, hhigh⟩, hlive⟩, hother⟩
  rw [missed, hidden, ← hmissed]
  exact (List.length_eq_length_filter_add _).symm

lemma missed_split (hlow : low ≤ mid) (hhigh : mid ≤ high) :
    db.missed viewer conversationId floor low high =
      db.missed viewer conversationId floor low mid + db.missed viewer conversationId floor mid high := by
  rw [missed, List.length_eq_length_filter_add fun m => decide (m.seq ≤ mid)]
  simp only [select, List.filter_filter, missed]
  congr 2
  · refine List.filter_congr fun m _ => Bool.eq_iff_iff.mpr ?_
    simp only [Bool.and_eq_true, decide_eq_true_eq]
    constructor
    · rintro ⟨hmid, ⟨hbase, hlow⟩, -⟩
      exact ⟨⟨hbase, hlow⟩, hmid⟩
    · rintro ⟨⟨hbase, hlow⟩, hmid⟩
      exact ⟨hmid, ⟨hbase, hlow⟩, by omega⟩
  · refine List.filter_congr fun m _ => Bool.eq_iff_iff.mpr ?_
    simp only [Bool.and_eq_true, decide_eq_true_eq, Bool.not_eq_true', decide_eq_false_iff_not, not_le]
    constructor
    · rintro ⟨hmid, ⟨hbase, -⟩, hhigh⟩
      exact ⟨⟨hbase, hmid⟩, hhigh⟩
    · rintro ⟨⟨hbase, hmid⟩, hhigh⟩
      exact ⟨hmid, ⟨hbase, by omega⟩, hhigh⟩

end Scan

/-! ## When the counts are true -/

/-- `messages_sender_id_users_id_fk`. -/
def SendersStored (db : Database) : Prop :=
  ∀ m ∈ db.messages.rows, ∀ s ∈ m.senderId, (db.tables.users.find s).isSome

section Answer
variable {db : Database} {viewer conversationId : ℕ} {clock : Time}

lemma sender_stored (hsenders : db.SendersStored) {low high : ℕ} {s : Uuid × ℕ}
    (hs : s ∈ (db.countsQuery viewer conversationId low high).run) :
    (db.tables.users.find s.1).isSome = true := by
  have hs := Query.mem_of_mem_run hs
  rw [countsQuery_admitted, senders, groupBy, List.map_id] at hs
  obtain ⟨sender, hsender, rfl⟩ := List.mem_map.mp hs
  obtain ⟨m, hm, hsent⟩ := List.mem_filterMap.mp (List.mem_dedup.mp hsender)
  exact hsenders m (List.mem_filter.mp hm).1 sender hsent

def counted (db : Database) (viewer conversationId since upTo : ℕ) : ℕ :=
  ((db.countsQuery viewer conversationId (scanFrom since upTo) upTo).run.map Prod.snd).sum

lemma counted_nothing {since upTo : ℕ} (h : upTo ≤ since) :
    db.counted viewer conversationId since upTo = 0 := by
  have hscan : since ≤ scanFrom since upTo := le_max_left ..
  have hnone : db.fromOthers viewer conversationId (scanFrom since upTo) upTo = [] := by
    refine List.filter_eq_nil_iff.mpr fun m _ => ?_
    simp only [Bool.and_eq_true, decide_eq_true_eq]
    omega
  have hsum := @counted_add_beyond db viewer conversationId (scanFrom since upTo) upTo
  rw [hnone, List.length_nil] at hsum
  exact Nat.eq_zero_of_add_eq_zero_right hsum

lemma catchUp_counts (hsenders : db.SendersStored) {ctx : MemberContext} {messages : List Hydrated}
    {excerpts : List Excerpt} {since upTo newMessages mentions : ℕ} {capped : Bool}
    {participants : List (Uuid × ℕ)} {media : List (Uuid × Uuid × ℕ)}
    (hctx : db.tables.requirePermission conversationId viewer Permissions.Permission.readHistory clock =
      .ok ctx)
    (h : db.catchUp viewer clock conversationId =
      .ok ⟨messages, excerpts, .catchUp since upTo newMessages capped participants media mentions⟩) :
    ctx.member.historyStartSeq ≤ since ∧ newMessages = db.counted viewer conversationId since upTo ∧
      capped = decide (since < scanFrom since upTo) ∧ (participants.map Prod.snd).sum = newMessages := by
  unfold catchUp at h
  obtain ⟨ctx', hctx', hok⟩ := Permissions.bind_eq_ok.mp h
  obtain rfl := Except.ok.inj (hctx.symm.trans hctx')
  dsimp only at hok
  split_ifs at hok with hnothing
  · obtain ⟨-, -, hrest⟩ := Response.mk.inj (Except.ok.inj hok)
    obtain ⟨rfl, rfl, rfl, rfl, rfl, -, -⟩ := Rest.catchUp.inj hrest
    refine ⟨le_max_right .., (counted_nothing hnothing).symm, ?_, rfl⟩
    rw [scanFrom, max_eq_left ((Nat.sub_le ..).trans hnothing), decide_eq_false (lt_irrefl _)]
  · obtain ⟨-, -, hrest⟩ := Response.mk.inj (Except.ok.inj hok)
    obtain ⟨rfl, rfl, rfl, rfl, rfl, -, -⟩ := Rest.catchUp.inj hrest
    refine ⟨le_max_right .., rfl, rfl, ?_⟩
    rw [List.filter_eq_self.mpr fun s hs => sender_stored hsenders hs]

lemma counted_iff {floor since upTo : ℕ} (hfloor : floor ≤ since) :
    ((decide (since < scanFrom since upTo) = false →
        db.counted viewer conversationId since upTo = db.missed viewer conversationId floor since upTo) ∧
      (decide (since < scanFrom since upTo) = true →
        db.counted viewer conversationId since upTo ≤
          db.missed viewer conversationId floor since upTo)) ↔
    db.Balanced viewer conversationId floor since upTo := by
  have hle : since ≤ scanFrom since upTo := le_max_left ..
  have hcounted := @counted_add_beyond db viewer conversationId (scanFrom since upTo) upTo
  have hshown := @missed_add_hidden db viewer conversationId floor (scanFrom since upTo) upTo
    (hfloor.trans hle)
  change db.counted viewer conversationId since upTo + _ = _ at hcounted
  rw [decide_eq_false_iff_not, decide_eq_true_eq, Balanced]
  rcases hle.eq_or_lt with hscan | hscan
  · rw [← hscan] at hcounted hshown ⊢
    simp only [lt_irrefl, not_false_eq_true, true_implies, false_implies, and_true]
    omega
  · have hupTo : scanFrom since upTo ≤ upTo := by
      unfold scanFrom at hscan ⊢
      omega
    have hsplit := @missed_split db viewer conversationId floor since (scanFrom since upTo) upTo hle hupTo
    simp only [hscan, not_true_eq_false, hscan.ne', false_implies, true_implies, true_and]
    omega

/-- The counts of an answer are true exactly where what the ninth sender and those after wrote balances what
the member has deleted for themselves. -/
theorem catchUp_true_iff {ctx : MemberContext} {messages : List Hydrated} {excerpts : List Excerpt}
    {since upTo newMessages mentions : ℕ} {capped : Bool} {participants : List (Uuid × ℕ)}
    {media : List (Uuid × Uuid × ℕ)} (hsenders : db.SendersStored)
    (hctx : db.tables.requirePermission conversationId viewer Permissions.Permission.readHistory clock =
      .ok ctx)
    (h : db.catchUp viewer clock conversationId =
      .ok ⟨messages, excerpts, .catchUp since upTo newMessages capped participants media mentions⟩) :
    ((capped = false →
        newMessages = db.missed viewer conversationId ctx.member.historyStartSeq since upTo) ∧
      (capped = true →
        newMessages ≤ db.missed viewer conversationId ctx.member.historyStartSeq since upTo) ∧
      (participants.map Prod.snd).sum = newMessages) ↔
    db.Balanced viewer conversationId ctx.member.historyStartSeq since upTo := by
  obtain ⟨hfloor, rfl, rfl, hsum⟩ := catchUp_counts hsenders hctx h
  rw [← counted_iff hfloor]
  constructor
  · rintro ⟨hall, hbound, -⟩
    exact ⟨hall, hbound⟩
  · rintro ⟨hall, hbound⟩
    exact ⟨hall, hbound, hsum⟩

end Answer

end Database

/-! ### A member and what they deleted -/

namespace Sample

def cleared : Database where
  tables := tables
  messages := database.messages
  messageDeletions := [(101, 12)]
  pinnedMessages := .empty
  messageMentions := .empty
  savedMessages := .empty
  reminders := .empty
  notifications := .empty
  seq_unique := database.seq_unique
  mention_placed := database.mention_placed

lemma newcomer_behind : ∃ ctx,
    tables.requirePermission 1 12 Permissions.Permission.readHistory 0 = .ok ctx ∧
      ctx.member.historyStartSeq = 1 ∧ max ctx.member.lastReadSeq ctx.member.historyStartSeq = 1 ∧
      ctx.conversation.messageSeq = 2 := by
  have hall : (match tables.requirePermission 1 12 Permissions.Permission.readHistory 0 with
      | .ok ctx => decide (ctx.member.historyStartSeq = 1 ∧
          max ctx.member.lastReadSeq ctx.member.historyStartSeq = 1 ∧ ctx.conversation.messageSeq = 2)
      | .error _ => false) = true := by decide
  cases hctx : tables.requirePermission 1 12 Permissions.Permission.readHistory 0 with
  | error e =>
    rw [hctx] at hall
    cases hall
  | ok ctx =>
    rw [hctx] at hall
    exact ⟨ctx, rfl, of_decide_eq_true hall⟩

lemma catchUp_answers {db : Database} {viewer conversationId clock : ℕ} {ctx : MemberContext}
    (hctx : db.tables.requirePermission conversationId viewer Permissions.Permission.readHistory clock =
      .ok ctx) :
    ∃ messages newMessages capped participants media mentions, db.catchUp viewer clock conversationId =
      .ok ⟨messages, [], .catchUp (max ctx.member.lastReadSeq ctx.member.historyStartSeq)
        ctx.conversation.messageSeq newMessages capped participants media mentions⟩ := by
  unfold Database.catchUp
  rw [hctx]
  by_cases hnothing : ctx.conversation.messageSeq ≤
      max ctx.member.lastReadSeq ctx.member.historyStartSeq
  · exact ⟨_, _, _, _, _, _, if_pos hnothing⟩
  · exact ⟨_, _, _, _, _, _, if_neg hnothing⟩

end Sample

open Sample in
/-- A message that the member has deleted is counted as one they have missed. -/
theorem deleted_counted : ¬ ∀ (db : Database) (viewer conversationId clock : ℕ) (ctx : MemberContext)
    (messages : List Hydrated) (excerpts : List Excerpt) (since upTo newMessages mentions : ℕ)
    (capped : Bool) (participants : List (Uuid × ℕ)) (media : List (Uuid × Uuid × ℕ)),
    db.SendersStored →
    db.tables.requirePermission conversationId viewer Permissions.Permission.readHistory clock = .ok ctx →
    db.catchUp viewer clock conversationId =
      .ok ⟨messages, excerpts, .catchUp since upTo newMessages capped participants media mentions⟩ →
    (capped = false →
        newMessages = db.missed viewer conversationId ctx.member.historyStartSeq since upTo) ∧
      (capped = true →
        newMessages ≤ db.missed viewer conversationId ctx.member.historyStartSeq since upTo) ∧
      (participants.map Prod.snd).sum = newMessages := by
  intro h
  have hsenders : cleared.SendersStored := by
    unfold Database.SendersStored
    decide
  obtain ⟨ctx, hctx, hfloor, hsince, hupTo⟩ := newcomer_behind
  obtain ⟨messages, newMessages, capped, participants, media, mentions, hanswer⟩ :=
    @catchUp_answers cleared _ _ _ _ hctx
  rw [hsince, hupTo] at hanswer
  obtain ⟨-, hcounted, hcapped, -⟩ := Database.catchUp_counts hsenders hctx hanswer
  have hmissed := (h cleared 12 1 0 ctx messages [] 1 2 newMessages mentions capped participants media
    hsenders hctx hanswer).1 hcapped
  have hone := @Database.counted_add_beyond cleared 12 1 (Database.scanFrom 1 2) 2
  change cleared.counted 12 1 1 2 + _ = _ at hone
  have hbeyond : cleared.beyondEight 12 1 (Database.scanFrom 1 2) 2 = 0 := by decide
  have hwritten : (cleared.fromOthers 12 1 (Database.scanFrom 1 2) 2).length = 1 := by decide
  have hshown : cleared.missed 12 1 1 1 2 = 0 := by decide
  rw [hfloor] at hmissed
  omega

open Sample in
/-- The newcomer catches up with the text. -/
theorem catchUp_true_iff_text : ∃ ctx messages newMessages capped participants media mentions,
    tables.requirePermission 1 12 Permissions.Permission.readHistory 0 = .ok ctx ∧
    database.catchUp 12 0 1 =
      .ok ⟨messages, [], .catchUp 1 2 newMessages capped participants media mentions⟩ ∧
    (((capped = false → newMessages = database.missed 12 1 1 1 2) ∧
        (capped = true → newMessages ≤ database.missed 12 1 1 1 2) ∧
        (participants.map Prod.snd).sum = newMessages) ↔ database.Balanced 12 1 1 1 2) := by
  obtain ⟨ctx, hctx, hfloor, hsince, hupTo⟩ := newcomer_behind
  obtain ⟨messages, newMessages, capped, participants, media, mentions, hanswer⟩ :=
    @catchUp_answers database _ _ _ _ hctx
  rw [hsince, hupTo] at hanswer
  have hsenders : database.SendersStored := by
    unfold Database.SendersStored
    decide
  have hiff := Database.catchUp_true_iff hsenders hctx hanswer
  rw [hfloor] at hiff
  exact ⟨ctx, messages, newMessages, capped, participants, media, mentions, hctx, hanswer, hiff⟩

end Yappy.Reads
