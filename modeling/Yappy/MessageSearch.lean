import Yappy.MediaContent
import Yappy.RankedListings

/-!
# Searching messages

`GET /search/messages` of `apps/api/src/routes/search.ts`: the hits are sorted by rank before their time,
while the cursor compares the time alone, and they are joined to the viewer's own rows in
`conversation_members`. What the full text search finds and how it ranks are parameters; the snippets are
left out.
-/
namespace Yappy.MessageSearch

open Pages (Feed)
open Permissions (ConversationMember Time Uuid)
open RankedListings (Exact exact_feed_iff exists_sorted)
open Reads (Message)
open Tables (MessageType)

/-- `created_at` has microseconds: these are the ones beyond its millisecond. -/
structure Database extends Reads.Database where
  micros : Uuid → Fin 1000

/-- `searchMessagesQuery`, without the text and the cursor; the dates are in microseconds. -/
structure SearchQuery where
  conversationId : Option Uuid
  fromUserId : Option Uuid
  hasAttachment : Bool
  type : Option MessageType
  before : Option ℕ
  after : Option ℕ
  limit : ℕ

section Route
variable {β : Type} [LinearOrder β] (db : Database) (viewer : Uuid) (clock : Time) (query : SearchQuery)
  (hit : Message → Bool) (rank : Message → β)

def createdAt (m : Message) : ℕ := m.createdAt * 1000 + db.micros m.id

def scope : List ConversationMember :=
  db.tables.conversationMembers.rows.filter fun m =>
    m.userId = viewer && m.leftAt.isNone && query.conversationId.all fun id => m.conversationId = id

def filters (msg : Message) : Bool :=
  (query.fromUserId.all fun id => msg.senderId = some id) && (query.type.all fun type => msg.type = type) &&
    (!query.hasAttachment || !msg.attachments.isEmpty) &&
    (query.before.all fun before => createdAt db msg < before) &&
    query.after.all fun after => after < createdAt db msg

def found : List Message :=
  (db.messages.rows.filter fun msg =>
    hit msg && !msg.isEncrypted && db.canReadMessage clock msg.id viewer && msg.deletedAt.isNone &&
      db.notDeletedForViewer viewer msg && filters db query msg).flatMap fun msg =>
    ((scope db viewer query).filter fun s =>
      s.conversationId = msg.conversationId && s.historyStartSeq < msg.seq).map fun _ => msg

def orderBy (msg : Message) : βᵒᵈ ×ₗ ℕᵒᵈ :=
  toLex (OrderDual.toDual (rank msg), OrderDual.toDual (createdAt db msg))

/-- A page of the route. Messages that tie come in any order; the cursor is a date, which has milliseconds. -/
def SearchPage (cursor : Option Time) (results : List Message) (nextCursor : Option Time) : Prop :=
  ∃ sorted : List Message,
    sorted.Perm ((found db viewer clock query hit).filter fun msg =>
      cursor.all fun cursor => createdAt db msg < cursor * 1000) ∧
    (sorted.Pairwise fun a b => orderBy db rank a ≤ orderBy db rank b) ∧ results = sorted.take query.limit ∧
    nextCursor = if results.length = query.limit then results.getLast?.map fun r => createdAt db r / 1000
      else none

/-- What a search is to bring: the messages that match and are not encrypted, as far as the viewer may read
them. -/
def readable : List Message :=
  db.messages.rows.filter fun msg =>
    hit msg && !msg.isEncrypted && (query.conversationId.all fun id => msg.conversationId = id) &&
      filters db query msg && db.canReadMessage clock msg.id viewer

def feed : Feed Message Time where
  rows := found db viewer clock query hit
  le a b := orderBy db rank a ≤ orderBy db rank b
  after cursor msg := createdAt db msg < cursor * 1000
  next msg := some (createdAt db msg / 1000)
  limit := query.limit
  extra := 0

/-- At the end of a full page the messages from before the millisecond of its last one are just those still
to come. -/
def Cut : Prop :=
  ∀ sorted : List Message, sorted.Perm (readable db viewer clock query hit) →
    (sorted.Pairwise fun a b => orderBy db rank a ≤ orderBy db rank b) → ∀ k r,
      (k + 1) * query.limit ≤ sorted.length → sorted[(k + 1) * query.limit - 1]? = some r →
        ∀ i x, sorted[i]? = some x →
          (createdAt db x < createdAt db r / 1000 * 1000 ↔ (k + 1) * query.limit ≤ i)

end Route

section Join
variable {β : Type} [LinearOrder β] {db : Database} {viewer : Uuid} {clock : Time} {query : SearchQuery}
  {hit : Message → Bool} {rank : Message → β} {m : Message}

lemma scope_filter (id : Uuid) (p : ConversationMember → Bool) :
    ((scope db viewer query).filter fun s => s.conversationId = id && p s) =
      ((db.tables.memberRow id viewer).filter fun s =>
        s.leftAt.isNone && (query.conversationId.all fun wanted => id = wanted) && p s).toList := by
  have hkey : ((scope db viewer query).filter fun s => s.conversationId = id && p s) =
      (db.tables.conversationMembers.rows.filter fun s => s.key = (id, viewer)).filter fun s =>
        s.leftAt.isNone && (query.conversationId.all fun wanted => id = wanted) && p s := by
    unfold scope
    rw [List.filter_filter, List.filter_filter]
    refine List.filter_congr fun s _ => ?_
    by_cases hid : s.conversationId = id
    · subst hid
      by_cases huser : s.userId = viewer <;> simp [ConversationMember.key, huser, Bool.and_comm]
    · simp [ConversationMember.key, hid]
  rw [hkey, KeyedTable.filter_key, Option.toList_filter]
  rfl

lemma found_nodup : (found db viewer clock query hit).Nodup := by
  have hrows : db.messages.rows.Nodup := List.Nodup.of_map _ db.messages.nodup
  refine List.nodup_flatMap.mpr ⟨fun msg _ => ?_, (hrows.filter _).imp fun hne => ?_⟩
  · rw [scope_filter]
    cases (db.tables.memberRow msg.conversationId viewer).filter _ with
    | none => exact List.nodup_nil
    | some s => exact List.nodup_singleton _
  · intro x hx hx'
    obtain ⟨-, -, rfl⟩ := List.mem_map.mp hx
    obtain ⟨-, -, hx'⟩ := List.mem_map.mp hx'
    exact hne hx'.symm

lemma mem_found : m ∈ found db viewer clock query hit ↔
    m ∈ readable db viewer clock query hit ∧ db.tables.IsActiveMember m.conversationId viewer := by
  have hjoin : m ∈ found db viewer clock query hit ↔
      m ∈ db.messages.rows ∧ (hit m && !m.isEncrypted && db.canReadMessage clock m.id viewer &&
        m.deletedAt.isNone && db.notDeletedForViewer viewer m && filters db query m) = true ∧
      ∃ s, db.tables.memberRow m.conversationId viewer = some s ∧ s.leftAt = none ∧
        (query.conversationId.all fun id => m.conversationId = id) = true ∧ s.historyStartSeq < m.seq := by
    unfold found
    simp only [List.mem_flatMap, List.mem_filter, List.mem_map, scope_filter, Option.mem_toList,
      Option.filter_eq_some_iff]
    constructor
    · rintro ⟨msg, ⟨hm, hasked⟩, s, ⟨hs, hrow⟩, rfl⟩
      simp only [Bool.and_eq_true, Option.isNone_iff_eq_none, decide_eq_true_eq] at hrow
      exact ⟨hm, hasked, s, hs, hrow.1.1, hrow.1.2, hrow.2⟩
    · rintro ⟨hm, hasked, s, hs, hleft, hscope, hseq⟩
      exact ⟨m, ⟨hm, hasked⟩, s, ⟨hs, by simp [hleft, hscope, hseq]⟩, rfl⟩
  rw [hjoin]
  unfold readable
  simp only [List.mem_filter, Bool.and_eq_true]
  constructor
  · rintro ⟨hm, ⟨⟨⟨⟨⟨hhit, hplain⟩, hread⟩, -⟩, -⟩, hfilters⟩, s, hs, hleft, hscope, -⟩
    exact ⟨⟨hm, ⟨⟨⟨hhit, hplain⟩, hscope⟩, hfilters⟩, hread⟩, s, hs, hleft⟩
  · rintro ⟨⟨hm, ⟨⟨⟨hhit, hplain⟩, hscope⟩, hfilters⟩, hread⟩, s, hs, hleft⟩
    -- `can_read_message` asks for the other conditions too
    obtain ⟨c, -, -, hdel, -, -, hseq, hshown⟩ :=
      (Reads.Database.canReadMessage_iff (KeyedTable.find_eq_some.mpr ⟨hm, rfl⟩)).mp hread
    rw [hs, Option.filter_some, if_pos (Option.isNone_iff_eq_none.mpr hleft)] at hseq
    exact ⟨hm, ⟨⟨⟨⟨⟨hhit, hplain⟩, hread⟩, Option.isNone_iff_eq_none.mpr hdel⟩, hshown⟩, hfilters⟩, s, hs,
      hleft, hscope, hseq⟩

lemma readable_nodup : (readable db viewer clock query hit).Nodup :=
  (List.Nodup.of_map _ db.messages.nodup).filter _

lemma feed_sound (hlimit : 1 ≤ query.limit) : (feed db viewer clock query hit rank).Sound where
  pos := hlimit
  extra_le := Nat.zero_le _
  nodup := found_nodup
  behind r c hc := by
    obtain rfl := Option.some.inj hc
    exact decide_eq_false (Nat.not_lt.mpr (Nat.div_mul_le_self _ 1000))
  nested r c c' x hr hc hx := by
    obtain rfl := Option.some.inj hc
    have hrc : createdAt db r < c * 1000 := of_decide_eq_true hr
    have hxr : createdAt db x < createdAt db r / 1000 * 1000 := of_decide_eq_true hx
    exact decide_eq_true (hxr.trans ((Nat.div_mul_le_self _ 1000).trans_lt hrc))
  sorts rows := exists_sorted (orderBy db rank) rows

lemma searchPage_eq :
    SearchPage db viewer clock query hit rank = (feed db viewer clock query hit rank).Page := by
  funext cursor results next
  have hadmitted : ((found db viewer clock query hit).filter fun msg =>
      cursor.all fun cursor => createdAt db msg < cursor * 1000) =
        (feed db viewer clock query hit rank).admitted cursor := by
    cases cursor with
    | none => exact List.filter_eq_self.mpr fun _ _ => rfl
    | some c => rfl
  have hnext : ∀ sorted, (feed db viewer clock query hit rank).nextCursor sorted =
      if (sorted.take query.limit).length = query.limit then
        (sorted.take query.limit).getLast?.map fun r => createdAt db r / 1000
      else none := fun sorted => by
    rw [Option.map_eq_bind]
    rfl
  unfold SearchPage Feed.Page Feed.Sorts
  rw [hadmitted]
  simp only [hnext, and_assoc]
  refine propext (exists_congr fun sorted => and_congr_right fun _ => and_congr_right fun _ => ?_)
  exact and_congr_right fun hrows => by rw [hrows]

/-- The pages bring only what is found, so that all that may be read has to be found. -/
theorem exact_readable_iff (hlimit : 1 ≤ query.limit) :
    Exact (SearchPage db viewer clock query hit rank) (readable db viewer clock query hit) ↔
      (∀ m ∈ readable db viewer clock query hit, db.tables.IsActiveMember m.conversationId viewer) ∧
        ∀ sorted, (feed db viewer clock query hit rank).Sorts (found db viewer clock query hit) sorted →
          (feed db viewer clock query hit rank).Splits sorted := by
  have hsound := @feed_sound β _ db viewer clock query hit rank hlimit
  have hperm : (∀ m ∈ readable db viewer clock query hit, db.tables.IsActiveMember m.conversationId viewer) →
      (readable db viewer clock query hit).Perm (found db viewer clock query hit) := fun hactive =>
    (List.perm_ext_iff_of_nodup readable_nodup found_nodup).mpr fun m =>
      ⟨fun hm => mem_found.mpr ⟨hm, hactive m hm⟩, fun hm => (mem_found.mp hm).1⟩
  rw [searchPage_eq]
  constructor
  · rintro ⟨⟨pages, hpages⟩, hexact⟩
    have hactive : ∀ m ∈ readable db viewer clock query hit,
        db.tables.IsActiveMember m.conversationId viewer := fun m hm =>
      (mem_found.mp ((hsound.follows_iff_run.mp hpages).subset m
        ((hexact pages hpages).mem_iff.mpr hm))).2
    exact ⟨hactive, (exact_feed_iff hsound).mp
      ⟨⟨pages, hpages⟩, fun pages' h => (hexact pages' h).trans (hperm hactive)⟩⟩
  · rintro ⟨hactive, hsplits⟩
    obtain ⟨hends, hexact⟩ := (exact_feed_iff hsound).mpr hsplits
    exact ⟨hends, fun pages h => (hexact pages h).trans (hperm hactive).symm⟩

end Join

/-- Following the cursors brings every readable match once exactly where the viewer has a row in the
conversations of all of them, and the cursors cut them. -/
theorem search_exact_iff {β : Type} [LinearOrder β] (db : Database) (viewer : Uuid) (clock : Time)
    (query : SearchQuery) (hit : Message → Bool) (rank : Message → β) (hlimit : 1 ≤ query.limit) :
    Exact (SearchPage db viewer clock query hit rank) (readable db viewer clock query hit) ↔
      (∀ m ∈ readable db viewer clock query hit, db.tables.IsActiveMember m.conversationId viewer) ∧
        Cut db viewer clock query hit rank := by
  rw [exact_readable_iff hlimit]
  refine and_congr_right fun hactive => ?_
  have hperm : (readable db viewer clock query hit).Perm (found db viewer clock query hit) :=
    (List.perm_ext_iff_of_nodup readable_nodup found_nodup).mpr fun m =>
      ⟨fun hm => mem_found.mpr ⟨hm, hactive m hm⟩, fun hm => (mem_found.mp hm).1⟩
  constructor
  · intro h sorted hp hs k r hlen hr i x hx
    rcases h sorted ⟨hp.trans hperm, hs⟩ k r hlen hr with ⟨c, hc, hcut⟩ | ⟨hnone, -⟩
    · obtain rfl := Option.some.inj hc
      exact decide_eq_true_iff.symm.trans (hcut i x hx)
    · cases hnone
  · intro h sorted hs k r hlen hr
    refine Or.inl ⟨_, rfl, fun i x hx => ?_⟩
    exact decide_eq_true_iff.trans (h sorted (hs.1.trans hperm.symm) hs.2 k r hlen hr i x hx)

namespace Sample

def query : SearchQuery := ⟨none, none, false, none, none, none, 1⟩

def hit (_ : Message) : Bool := true

def rank (_ : Message) : ℕ := 0

def space : Database where
  toDatabase := (MediaContent.Sample.space none).toDatabase
  micros _ := 0

def group : Database where
  toDatabase := Reads.Sample.database
  micros _ := 0

end Sample

/-- Whoever has never opened the channel does not find what may be read there. -/
theorem unopened_channel_left_out :
    ¬ ∀ (db : Database) (viewer : Uuid) (clock : Time) (query : SearchQuery) (hit : Message → Bool)
      (rank : Message → ℕ), 1 ≤ query.limit →
      Exact (SearchPage db viewer clock query hit rank) (readable db viewer clock query hit) := by
  intro h
  have hactive := ((exact_readable_iff (Nat.le_refl 1)).mp
    (h Sample.space 12 0 Sample.query Sample.hit Sample.rank (Nat.le_refl 1))).1
  obtain ⟨row, hrow, -⟩ := hactive MediaContent.Sample.picture (by decide)
  cases hrow

/-- A group, in which the newcomer may read one message. -/
theorem search_exact_iff_group :
    Exact (SearchPage Sample.group 12 0 Sample.query Sample.hit Sample.rank)
      (readable Sample.group 12 0 Sample.query Sample.hit) := by
  have hone : readable Sample.group 12 0 Sample.query Sample.hit = [Reads.Sample.message 101 2 .text] := by
    decide
  refine (search_exact_iff Sample.group 12 0 Sample.query Sample.hit Sample.rank (Nat.le_refl 1)).mpr
    ⟨fun m hm => ?_, fun sorted hp _ k r hlen hr i x hx => ?_⟩
  · rw [hone] at hm
    obtain rfl := List.mem_singleton.mp hm
    exact ⟨.new 1 12 .member 0 1, rfl, rfl⟩
  · rw [hone] at hp
    obtain rfl := List.perm_singleton.mp hp
    have hk : (k + 1) * 1 ≤ 1 := hlen
    have hi : i < 1 := (List.getElem?_eq_some_iff.mp hx).1
    obtain rfl : k = 0 := by omega
    obtain rfl : i = 0 := by omega
    obtain rfl := Option.some.inj hr
    obtain rfl := Option.some.inj hx
    decide

end Yappy.MessageSearch
