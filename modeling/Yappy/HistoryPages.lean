import Yappy.SyncComplete

/-!
# Whether there is more

`history` answers with the nearest messages on the sides that are asked for, and takes a page as long as the
limit for the sign that there is more. Around a message there are two half pages, whose lengths together need
not say so.
-/
namespace Yappy.Pages.Query

variable {ρ α : Type*} [LinearOrder α] {q : Query ρ α} {r : ρ}

lemma mem_run_of_length_le (h : q.admitted.length ≤ q.limit) (hr : r ∈ q.admitted) : r ∈ q.run := by
  rw [run, List.take_of_length_le (by rwa [List.length_mergeSort])]
  exact List.mem_mergeSort.mpr hr

end Yappy.Pages.Query

namespace Yappy.Reads

open Pages (Query)
open Permissions (MemberContext Time Uuid)

/-! ## Sides -/

inductive Side
  | older (before : Option ℕ)
  | newer (after : ℕ)
  deriving DecidableEq

namespace Side

def has : Side → Message → Bool
  | older before, m => before.all fun b => m.seq < b
  | newer after, m => after < m.seq

def nearer : Side → Message → Message → Bool
  | older _, a, b => b.seq < a.seq
  | newer _, a, b => a.seq < b.seq

def query (side : Side) (admitted : List Message) (limit : ℕ) : Query Message (List ℤ) × Bool :=
  match side with
  | older _ => (newestFirst admitted limit, true)
  | newer _ => (oldestFirst admitted limit, false)

end Side

def HistoryOptions.sides (opts : HistoryOptions) : List (Side × ℕ) :=
  match opts.around with
  | some around => [(.older (some (around + 1)), opts.limit / 2 + 1), (.newer around, opts.limit / 2)]
  | none =>
    match opts.after with
    | some after => [(.newer after, opts.limit)]
    | none => [(.older opts.before, opts.limit)]

namespace HistoryOptions
variable {opts : HistoryOptions}

lemma sides_around {around : ℕ} (h : opts.around = some around) : opts.sides =
    [(.older (some (around + 1)), opts.limit / 2 + 1), (.newer around, opts.limit / 2)] := by
  unfold sides
  rw [h]

lemma sides_single (h : opts.around = none) : ∃ side, opts.sides = [(side, opts.limit)] := by
  unfold sides
  rw [h]
  cases opts.after with
  | some after => exact ⟨_, rfl⟩
  | none => exact ⟨_, rfl⟩

end HistoryOptions

namespace Database

section Definitions
variable (db : Database) (viewer conversationId floor : ℕ) (opts : HistoryOptions)

def onSide (side : Side) : List Message :=
  db.select fun m => db.historyBase viewer conversationId floor opts.includeDeleted m && side.has m

/-- The messages that a response is made of are the nearest on each side, in order. -/
structure Nearest (messages : List Hydrated) : Prop where
  stored : ∀ h ∈ messages, ∃ m ∈ db.messages.rows, h = toMessage m (db.stub viewer m)
  increasing : (messages.map fun h => h.message.seq).Pairwise (· < ·)
  nearest : ∀ m ∈ db.messages.rows, (∃ h ∈ messages, h.message.id = m.id) ↔
    ∃ s ∈ opts.sides, m ∈ db.onSide viewer conversationId floor opts s.1 ∧
      (db.onSide viewer conversationId floor opts s.1).countP (fun a => s.1.nearer a m) < s.2

/-- Where a response says that there is no more, all there is on the sides is in it. -/
def Honest (messages : List Hydrated) (hasMore : Bool) : Prop :=
  hasMore = false → ∀ s ∈ opts.sides, ∀ m ∈ db.onSide viewer conversationId floor opts s.1,
    ∃ h ∈ messages, h.message.id = m.id

/-- One side is asked for, or both half pages hold all there is on their side, or together they have as many
messages as the limit says. -/
def Tells : Prop :=
  opts.around = none ∨
    (∀ s ∈ opts.sides, (db.onSide viewer conversationId floor opts s.1).length ≤ s.2) ∨
    (opts.sides.map fun s => min s.2 (db.onSide viewer conversationId floor opts s.1).length).sum = opts.limit

end Definitions

section Sides
variable {db : Database} {viewer conversationId floor : ℕ} {opts : HistoryOptions} {m : Message} {side : Side}

lemma mem_onSide : m ∈ db.onSide viewer conversationId floor opts side ↔ m ∈ db.messages.rows ∧
    db.historyBase viewer conversationId floor opts.includeDeleted m = true ∧ side.has m = true := by
  rw [onSide, select, List.mem_filter, Bool.and_eq_true]

lemma historyQueries_sides :
    db.historyQueries viewer conversationId floor opts = opts.sides.map fun s =>
      s.1.query (db.onSide viewer conversationId floor opts s.1) s.2 := by
  obtain ⟨limit, before, after, around, includeDeleted⟩ := opts
  cases around with
  | some around => rfl
  | none => cases after <;> rfl

def sideRows (db : Database) (viewer conversationId floor : ℕ) (opts : HistoryOptions) (s : Side × ℕ) :
    List Message :=
  let q := s.1.query (db.onSide viewer conversationId floor opts s.1) s.2
  if q.2 then q.1.run.reverse else q.1.run

lemma historyRows_sides : db.historyRows viewer conversationId floor opts =
    opts.sides.flatMap (db.sideRows viewer conversationId floor opts) := by
  rw [historyRows, historyQueries_sides, List.flatMap_map]
  rfl

lemma onSide_conversation (h : (db.historyBase viewer conversationId floor opts.includeDeleted m &&
    side.has m) = true) : m.conversationId = conversationId := by
  simp only [historyBase, Bool.and_eq_true, decide_eq_true_eq] at h
  exact h.1.1.1.1

lemma onSide_nodup : (db.onSide viewer conversationId floor opts side).Nodup :=
  (List.Nodup.of_map _ db.messages.nodup).filter _

lemma length_sideRows (s : Side × ℕ) : (db.sideRows viewer conversationId floor opts s).length =
    min s.2 (db.onSide viewer conversationId floor opts s.1).length := by
  obtain ⟨side, limit⟩ := s
  cases side with
  | older before => exact List.length_reverse.trans (Query.length_run _)
  | newer after => exact Query.length_run _

lemma ahead_older {before : Option ℕ} {limit : ℕ}
    (hm : m ∈ db.onSide viewer conversationId floor opts (.older before)) :
    (newestFirst (db.onSide viewer conversationId floor opts (.older before)) limit).ahead m =
      (db.onSide viewer conversationId floor opts (.older before)).countP
        fun a => (Side.older before).nearer a m := by
  refine List.countP_congr fun a ha => ?_
  simp only [Side.nearer, decide_eq_true_eq]
  exact (seq_lt_of_order (fun _ => onSide_conversation) ha hm).2

lemma ahead_newer {after limit : ℕ}
    (hm : m ∈ db.onSide viewer conversationId floor opts (.newer after)) :
    (oldestFirst (db.onSide viewer conversationId floor opts (.newer after)) limit).ahead m =
      (db.onSide viewer conversationId floor opts (.newer after)).countP
        fun a => (Side.newer after).nearer a m := by
  refine List.countP_congr fun a ha => ?_
  simp only [Side.nearer, decide_eq_true_eq]
  exact (seq_lt_of_order (fun _ => onSide_conversation) ha hm).1

lemma mem_sideRows (s : Side × ℕ) : m ∈ db.sideRows viewer conversationId floor opts s ↔
    m ∈ db.onSide viewer conversationId floor opts s.1 ∧
      (db.onSide viewer conversationId floor opts s.1).countP (fun a => s.1.nearer a m) < s.2 := by
  obtain ⟨side, limit⟩ := s
  cases side with
  | older before =>
    have hrun := @Query.mem_run _ _ _
      (newestFirst (db.onSide viewer conversationId floor opts (.older before)) limit) m
      (strict_newestFirst _ _)
    refine (List.mem_reverse.trans hrun).trans (and_congr_right fun hm => ?_)
    rw [ahead_older hm]
    rfl
  | newer after =>
    have hrun := @Query.mem_run _ _ _
      (oldestFirst (db.onSide viewer conversationId floor opts (.newer after)) limit) m
      (strict_oldestFirst _ _)
    refine hrun.trans (and_congr_right fun hm => ?_)
    rw [ahead_newer hm]
    rfl

lemma sideRows_sorted (s : Side × ℕ) :
    (db.sideRows viewer conversationId floor opts s).Pairwise fun a b => a.seq < b.seq := by
  obtain ⟨side, limit⟩ := s
  cases side with
  | older before =>
    exact List.pairwise_reverse.mpr (newestFirst_sorted fun _ => onSide_conversation)
  | newer after => exact oldestFirst_sorted fun _ => onSide_conversation

lemma sideRows_all (s : Side × ℕ) :
    (∀ m ∈ db.onSide viewer conversationId floor opts s.1,
      m ∈ db.sideRows viewer conversationId floor opts s) ↔
      (db.onSide viewer conversationId floor opts s.1).length ≤ s.2 := by
  constructor
  · intro h
    have hle := (List.subperm_of_subset onSide_nodup h).length_le
    rw [length_sideRows] at hle
    exact hle.trans (min_le_left ..)
  · intro h m hm
    obtain ⟨side, limit⟩ := s
    cases side with
    | older before =>
      have hrun : m ∈ (newestFirst (db.onSide viewer conversationId floor opts (.older before)) limit).run :=
        Query.mem_run_of_length_le h hm
      exact List.mem_reverse.mpr hrun
    | newer after =>
      have hrun : m ∈ (oldestFirst (db.onSide viewer conversationId floor opts (.newer after)) limit).run :=
        Query.mem_run_of_length_le h hm
      exact hrun

end Sides

/-! ## The page -/

section Page
variable {db : Database} {viewer conversationId floor : ℕ} {opts : HistoryOptions} {m : Message}

lemma length_historyRows : (db.historyRows viewer conversationId floor opts).length =
    (opts.sides.map fun s => min s.2 (db.onSide viewer conversationId floor opts s.1).length).sum := by
  rw [historyRows_sides, List.length_flatMap]
  exact congrArg List.sum (List.map_congr_left fun s _ => length_sideRows s)

lemma historyRows_sorted :
    (db.historyRows viewer conversationId floor opts).Pairwise fun a b => a.seq < b.seq := by
  have hcross : ∀ {around limit limit' : ℕ} {a b : Message},
      a ∈ db.sideRows viewer conversationId floor opts (.older (some (around + 1)), limit) →
      b ∈ db.sideRows viewer conversationId floor opts (.newer around, limit') → a.seq < b.seq := by
    intro around limit limit' a b ha hb
    have ha := (mem_onSide.mp ((mem_sideRows _).mp ha).1).2.2
    have hb := (mem_onSide.mp ((mem_sideRows _).mp hb).1).2.2
    simp only [Side.has, Option.all_some, decide_eq_true_eq] at ha hb
    omega
  rw [historyRows_sides]
  cases haround : opts.around with
  | some around =>
    rw [HistoryOptions.sides_around haround, List.flatMap_cons, List.flatMap_singleton]
    exact List.pairwise_append.mpr
      ⟨sideRows_sorted _, sideRows_sorted _, fun a ha b hb => hcross ha hb⟩
  | none =>
    obtain ⟨side, hside⟩ := HistoryOptions.sides_single haround
    rw [hside, List.flatMap_singleton]
    exact sideRows_sorted _

lemma mem_historyRows_sides : m ∈ db.historyRows viewer conversationId floor opts ↔
    ∃ s ∈ opts.sides, m ∈ db.sideRows viewer conversationId floor opts s := by
  rw [historyRows_sides, List.mem_flatMap]

lemma toMessage_id (m : Message) (stub : Option Stub) : (toMessage m stub).message.id = m.id := by
  unfold toMessage
  dsimp only
  split_ifs <;> rfl

lemma hydrated_iff (hm : m ∈ db.messages.rows) :
    (∃ h ∈ db.hydrateMany viewer (db.historyRows viewer conversationId floor opts), h.message.id = m.id) ↔
      m ∈ db.historyRows viewer conversationId floor opts := by
  constructor
  · rintro ⟨h, hh, hid⟩
    obtain ⟨m', hm', rfl⟩ := List.mem_map.mp hh
    rw [toMessage_id] at hid
    obtain ⟨s, -, hs⟩ := mem_historyRows_sides.mp hm'
    have hrow := (mem_onSide.mp ((mem_sideRows s).mp hs).1).1
    obtain rfl : m' = m := List.inj_on_of_nodup_map db.messages.nodup hrow hm hid
    exact hm'
  · intro h
    exact ⟨_, List.mem_map_of_mem h, toMessage_id m _⟩

lemma historyRows_nearest :
    db.Nearest viewer conversationId floor opts
      (db.hydrateMany viewer (db.historyRows viewer conversationId floor opts)) where
  stored h hh := by
    obtain ⟨m, hm, rfl⟩ := List.mem_map.mp hh
    obtain ⟨s, -, hs⟩ := mem_historyRows_sides.mp hm
    exact ⟨m, (mem_onSide.mp ((mem_sideRows s).mp hs).1).1, rfl⟩
  increasing := by
    rw [hydrated_seqs]
    exact List.pairwise_map.mpr historyRows_sorted
  nearest m hm := by
    rw [hydrated_iff hm, mem_historyRows_sides]
    simp only [mem_sideRows]

lemma historyRows_all :
    (∀ s ∈ opts.sides, ∀ m ∈ db.onSide viewer conversationId floor opts s.1,
      m ∈ db.historyRows viewer conversationId floor opts) ↔
    ∀ s ∈ opts.sides, (db.onSide viewer conversationId floor opts s.1).length ≤ s.2 := by
  constructor
  · intro h s hs
    refine (sideRows_all s).mp fun m hm => ?_
    obtain ⟨s', hs', hm'⟩ := mem_historyRows_sides.mp (h s hs m hm)
    -- a message on a side is in the rows of that side
    suffices hsame : s' = s by rwa [hsame] at hm'
    have hhas := (mem_onSide.mp hm).2.2
    have hhas' := (mem_onSide.mp ((mem_sideRows s').mp hm').1).2.2
    cases haround : opts.around with
    | some around =>
      rw [HistoryOptions.sides_around haround, List.mem_pair] at hs hs'
      rcases hs with rfl | rfl <;> rcases hs' with rfl | rfl
      · rfl
      · simp only [Side.has, Option.all_some, decide_eq_true_eq] at hhas hhas'
        omega
      · simp only [Side.has, Option.all_some, decide_eq_true_eq] at hhas hhas'
        omega
      · rfl
    | none =>
      obtain ⟨side, hside⟩ := HistoryOptions.sides_single haround
      rw [hside] at hs hs'
      rw [List.mem_singleton.mp hs, List.mem_singleton.mp hs']
  · intro h s hs m hm
    exact mem_historyRows_sides.mpr ⟨s, hs, (sideRows_all s).mpr (h s hs) m hm⟩

lemma single_tells (h : opts.around = none) :
    (∀ s ∈ opts.sides, (db.onSide viewer conversationId floor opts s.1).length ≤ s.2) ∨
      (opts.sides.map fun s =>
        min s.2 (db.onSide viewer conversationId floor opts s.1).length).sum = opts.limit := by
  obtain ⟨side, hside⟩ := HistoryOptions.sides_single h
  rw [hside]
  simp only [List.forall_mem_singleton, List.map_cons, List.map_nil, List.sum_singleton]
  omega

/-- Whatever is asked for, the response holds the nearest messages in order, and what it says about more is
right exactly where the lengths of its half pages tell. -/
theorem history_honest_iff {clock : Time} {ctx : MemberContext} {messages : List Hydrated}
    {excerpts : List Excerpt} {hasMore : Bool} {floorSeq latestSeq : ℕ}
    (hctx : db.tables.requirePermission conversationId viewer Permissions.Permission.readHistory clock =
      .ok ctx)
    (h : db.history viewer clock conversationId opts =
      .ok ⟨messages, excerpts, .history hasMore floorSeq latestSeq⟩) :
    db.Nearest viewer conversationId ctx.member.historyStartSeq opts messages ∧
      (db.Honest viewer conversationId ctx.member.historyStartSeq opts messages hasMore ↔
        db.Tells viewer conversationId ctx.member.historyStartSeq opts) := by
  unfold history at h
  obtain ⟨ctx', hctx', hok⟩ := Permissions.bind_eq_ok.mp h
  obtain rfl := Except.ok.inj (hctx.symm.trans hctx')
  obtain ⟨rfl, -, hrest⟩ := Response.mk.inj (Except.ok.inj hok)
  obtain ⟨rfl, -, -⟩ := Rest.history.inj hrest
  refine ⟨historyRows_nearest, ?_⟩
  have hall : (∀ s ∈ opts.sides,
      ∀ m ∈ db.onSide viewer conversationId ctx.member.historyStartSeq opts s.1, ∃ h ∈ db.hydrateMany viewer
        (db.historyRows viewer conversationId ctx.member.historyStartSeq opts), h.message.id = m.id) ↔
      ∀ s ∈ opts.sides,
        (db.onSide viewer conversationId ctx.member.historyStartSeq opts s.1).length ≤ s.2 := by
    rw [← historyRows_all]
    refine forall₂_congr fun s _ => forall₂_congr fun m hm => ?_
    exact hydrated_iff (mem_onSide.mp hm).1
  rw [Honest, hall, length_historyRows, decide_eq_false_iff_not, Tells]
  constructor
  · intro hhonest
    by_cases hfull : (opts.sides.map fun s => min s.2
        (db.onSide viewer conversationId ctx.member.historyStartSeq opts s.1).length).sum = opts.limit
    · exact .inr (.inr hfull)
    · exact .inr (.inl (hhonest hfull))
  · rintro (hnone | hwithin | hfull) hmore
    · exact (single_tells hnone).resolve_right hmore
    · exact hwithin
    · exact absurd hfull hmore

end Page
end Database

/-! ### Around a message -/

namespace Sample

def longer : Database where
  tables := tables
  messages := ⟨[message 101 2 .text, message 102 3 .text, message 103 4 .text], by decide⟩
  messageDeletions := []
  pinnedMessages := .empty
  messageMentions := .empty
  savedMessages := .empty
  reminders := .empty
  notifications := .empty
  seq_unique := by decide
  mention_placed := by decide

def jump : HistoryOptions := ⟨3, none, none, some 2, false⟩

lemma newcomer_reads : ∃ ctx,
    tables.requirePermission 1 12 Permissions.Permission.readHistory 0 = .ok ctx ∧
      ctx.member.historyStartSeq = 1 := by
  have hall : (match tables.requirePermission 1 12 Permissions.Permission.readHistory 0 with
      | .ok ctx => decide (ctx.member.historyStartSeq = 1)
      | .error _ => false) = true := by decide
  cases hctx : tables.requirePermission 1 12 Permissions.Permission.readHistory 0 with
  | error e =>
    rw [hctx] at hall
    cases hall
  | ok ctx =>
    rw [hctx] at hall
    exact ⟨ctx, rfl, of_decide_eq_true hall⟩

lemma history_answers {db : Database} {viewer conversationId clock : ℕ} {ctx : MemberContext}
    (hctx : db.tables.requirePermission conversationId viewer Permissions.Permission.readHistory clock =
      .ok ctx) (opts : HistoryOptions) :
    db.history viewer clock conversationId opts =
      .ok ⟨db.hydrateMany viewer (db.historyRows viewer conversationId ctx.member.historyStartSeq opts), [],
        .history ((db.historyRows viewer conversationId ctx.member.historyStartSeq opts).length =
          opts.limit) ctx.member.historyStartSeq ctx.conversation.messageSeq⟩ := by
  unfold Database.history
  rw [hctx]
  rfl

end Sample

open Sample in
/-- Two of three messages are returned, and the page says that there are no more. -/
theorem around_hides_newer : ¬ ∀ (db : Database) (viewer conversationId clock : ℕ) (opts : HistoryOptions)
    (ctx : MemberContext) (messages : List Hydrated) (excerpts : List Excerpt) (hasMore : Bool)
    (floorSeq latestSeq : ℕ), 1 ≤ opts.limit →
    db.tables.requirePermission conversationId viewer Permissions.Permission.readHistory clock = .ok ctx →
    db.history viewer clock conversationId opts =
      .ok ⟨messages, excerpts, .history hasMore floorSeq latestSeq⟩ →
    db.Honest viewer conversationId ctx.member.historyStartSeq opts messages hasMore := by
  intro h
  obtain ⟨ctx, hctx, hfloor⟩ := newcomer_reads
  have hanswer := @history_answers longer _ _ _ _ hctx jump
  have hhonest := h longer 12 1 0 jump ctx _ _ _ _ _ (by decide) hctx hanswer
  rw [hfloor] at hhonest
  have hlength : (longer.historyRows 12 1 1 jump).length = 2 := by
    rw [Database.length_historyRows]
    decide
  have hhere := hhonest (by rw [hlength]; decide) (.newer 2, 1) (by decide) (message 103 4 .text)
    (by decide)
  rw [Database.hydrated_iff (by decide), Database.mem_historyRows_sides] at hhere
  simp only [Database.mem_sideRows] at hhere
  revert hhere
  decide

open Sample in
/-- The newcomer's history. -/
theorem history_honest_iff_newcomer : ∃ ctx messages hasMore latestSeq,
    tables.requirePermission 1 12 Permissions.Permission.readHistory 0 = .ok ctx ∧
    longer.history 12 0 1 recent = .ok ⟨messages, [], .history hasMore 1 latestSeq⟩ ∧
    longer.Nearest 12 1 1 recent messages ∧
      (longer.Honest 12 1 1 recent messages hasMore ↔ longer.Tells 12 1 1 recent) := by
  obtain ⟨ctx, hctx, hfloor⟩ := newcomer_reads
  have hanswer := @history_answers longer _ _ _ _ hctx recent
  have hiff := @Database.history_honest_iff longer _ _ _ _ _ _ _ _ _ _ hctx hanswer
  rw [hfloor] at hanswer hiff
  exact ⟨ctx, _, _, _, hctx, hanswer, hiff⟩

end Yappy.Reads
