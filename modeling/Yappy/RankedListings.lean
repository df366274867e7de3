import Yappy.CursorPages
import Yappy.HomeList

/-!
# Listings that are sorted by rank

`GET /conversations/:id/members` of `apps/api/src/routes/conversations.ts` and `list` of
`apps/api/src/services/conversations.ts`: both sort by a rank before the column that their cursor compares.
What each row is dressed with (avatars, roles, last messages) is left out.
-/
namespace Yappy.RankedListings

open Pages (Feed Follows Query)
open Permissions (AppError Conversation ConversationMember MemberRole Time Uuid)

/-- `last_message_at` has microseconds: these are the ones beyond its millisecond. -/
structure Database extends Sync.Database where
  micros : Uuid → Fin 1000

instance neZero_thousand : NeZero 1000 := ⟨by decide⟩

section Members
variable (db : Permissions.Database)

def rank : MemberRole → ℕ
  | .owner => 0
  | .admin => 1
  | .moderator => 2
  | .member => 3
  | .restricted => 4

def order (m : ConversationMember) : List ℕ := [rank m.role, m.userId]

def activeMembers (id : Uuid) : List ConversationMember :=
  db.conversationMembers.rows.filter fun m =>
    m.conversationId = id && m.leftAt.isNone && (db.users.find m.userId).isSome

def membersQuery (id : Uuid) (limit : ℕ) (cursor : Option Uuid) : Query ConversationMember (List ℕ) where
  admitted := (activeMembers db id).filter fun m => cursor.all fun c => c < m.userId
  order := order
  limit := limit

structure MembersPage where
  members : List ConversationMember
  nextCursor : Option Uuid

/-- `GET /:id/members` -/
def members (actor requested : Uuid) (limit : ℕ) (clock : Time) (cursor : Option Uuid) :
    Except AppError MembersPage := do
  let ctx ← db.requirePermission requested actor Permissions.Permission.viewConversation clock
  let id := ctx.conversation.parentId.getD requested
  let rows := (membersQuery db id limit cursor).run
  return ⟨rows, if rows.length = limit then rows.getLast?.map ConversationMember.userId else none⟩

def memberFeed (id : Uuid) (limit : ℕ) : Feed ConversationMember Uuid where
  rows := activeMembers db id
  le a b := order a ≤ order b
  after c m := c < m.userId
  next m := some m.userId
  limit := limit
  extra := 0

end Members

section Conversations
variable (db : Database) (viewer : Uuid)

abbrev Row := Conversation × ConversationMember

def lastMessageAt (row : Row) : Option ℕ :=
  (db.lastMessageAt row.1.id).map fun ms => ms * 1000 + db.micros row.1.id

def matching (archived hidden : Bool) : List Row :=
  (HomeList.joined db.toDatabase viewer).filter fun row =>
    row.2.isArchived = archived && db.isHidden row.2.key = hidden

def listOrder (row : Row) : List ℤ :=
  (if row.2.isPinned then 0 else 1) :: (lastMessageAt db row).elim [] fun at_ => [-(at_ : ℤ)]

/-- A page of `list`. Rows that tie come in any order; the cursor is a date, which has milliseconds. -/
def ListPage (archived hidden : Bool) (limit : ℕ) (before : Option Time) (rows : List Row)
    (nextCursor : Option Time) : Prop :=
  ∃ sorted : List Row,
    sorted.Perm ((matching db viewer archived hidden).filter fun row =>
      before.all fun before => (lastMessageAt db row).any fun at_ => at_ < before * 1000) ∧
    (sorted.Pairwise fun a b => listOrder db a ≤ listOrder db b) ∧ rows = sorted.take limit ∧
    nextCursor = if rows.length = limit then (rows.getLast?.bind (lastMessageAt db)).map (· / 1000) else none

def listFeed (archived hidden : Bool) (limit : ℕ) : Feed Row Time where
  rows := matching db viewer archived hidden
  le a b := listOrder db a ≤ listOrder db b
  after before row := (lastMessageAt db row).any fun at_ => at_ < before * 1000
  next row := (lastMessageAt db row).map (· / 1000)
  limit := limit
  extra := 0

end Conversations

/-! ## Both are such listings -/

section Feeds

lemma exists_sorted {α β : Type*} [LinearOrder β] (key : α → β) (rows : List α) :
    ∃ sorted : List α, sorted.Perm rows ∧ sorted.Pairwise fun a b => key a ≤ key b :=
  ⟨_, List.mergeSort_perm .., (⟨rows, key, 0⟩ : Query α β).sorted_pairwise⟩

variable {db : Permissions.Database} {id actor requested : Uuid} {limit : ℕ} {clock : Time}

lemma activeMembers_nodup : (activeMembers db id).Nodup :=
  (List.Nodup.of_map _ db.conversationMembers.nodup).filter _

lemma memberFeed_sound (hlimit : 1 ≤ limit) : (memberFeed db id limit).Sound where
  pos := hlimit
  extra_le := Nat.zero_le _
  nodup := activeMembers_nodup
  behind r c hc := by
    obtain rfl := Option.some.inj hc
    exact decide_eq_false (Nat.lt_irrefl _)
  nested r c c' x hr hc hx := by
    obtain rfl := Option.some.inj hc
    exact decide_eq_true ((of_decide_eq_true hr).trans (of_decide_eq_true hx))
  sorts rows := exists_sorted order rows

lemma order_inj {a b : ConversationMember} (ha : a ∈ activeMembers db id) (hb : b ∈ activeMembers db id)
    (h : order a = order b) : a = b := by
  obtain ⟨hrow, hactive⟩ := List.mem_filter.mp ha
  obtain ⟨hrow', hactive'⟩ := List.mem_filter.mp hb
  simp only [Bool.and_eq_true, decide_eq_true_eq] at hactive hactive'
  have huser : a.userId = b.userId := by simpa using (List.cons_eq_cons.mp h).2
  have hkey : a.key = b.key := by
    simp only [ConversationMember.key, huser, hactive.1.1, hactive'.1.1]
  exact List.inj_on_of_nodup_map db.conversationMembers.nodup hrow hrow' hkey

lemma membersQuery_admitted (cursor : Option Uuid) :
    (membersQuery db id limit cursor).admitted = (memberFeed db id limit).admitted cursor := by
  cases cursor with
  | none => exact List.filter_eq_self.mpr fun _ _ => rfl
  | some c => rfl

lemma memberFeed_sorts_iff {cursor : Option Uuid} {sorted : List ConversationMember} :
    (memberFeed db id limit).Sorts (membersQuery db id limit cursor).admitted sorted ↔
      sorted = (membersQuery db id limit cursor).admitted.mergeSort fun a b => order a ≤ order b := by
  have hquery := (membersQuery db id limit cursor).sorted_pairwise
  have hperm := List.mergeSort_perm (membersQuery db id limit cursor).admitted
    fun a b => decide (order a ≤ order b)
  have hactive : ∀ x ∈ (membersQuery db id limit cursor).admitted, x ∈ activeMembers db id :=
    fun x hx => (List.mem_filter.mp hx).1
  constructor
  · rintro ⟨hp, hs⟩
    refine (hp.trans hperm.symm).eq_of_pairwise (fun a b ha hb hab hba => ?_) hs hquery
    exact order_inj (hactive a (hp.mem_iff.mp ha)) (hactive b (hperm.mem_iff.mp hb)) (le_antisymm hab hba)
  · rintro rfl
    exact ⟨hperm, hquery⟩

lemma memberFeed_nextCursor (sorted : List ConversationMember) :
    (memberFeed db id limit).nextCursor sorted =
      if (sorted.take limit).length = limit then (sorted.take limit).getLast?.map ConversationMember.userId
      else none := by
  rw [Option.map_eq_bind]
  rfl

lemma members_eq_ok {ctx : Permissions.MemberContext}
    (hctx : db.requirePermission requested actor Permissions.Permission.viewConversation clock = .ok ctx)
    (hid : ctx.conversation.parentId.getD requested = id) (cursor : Option Uuid)
    (rows : List ConversationMember) (next : Option Uuid) :
    members db actor requested limit clock cursor = .ok ⟨rows, next⟩ ↔
      (memberFeed db id limit).Page cursor rows next := by
  subst hid
  unfold members Feed.Page
  rw [hctx, ← membersQuery_admitted]
  simp only [memberFeed_sorts_iff, exists_eq_left, memberFeed_nextCursor]
  constructor
  · intro hok
    obtain ⟨hrows, hcursor⟩ := MembersPage.mk.inj (Except.ok.inj hok)
    subst hrows
    exact ⟨rfl, hcursor.symm⟩
  · rintro ⟨rfl, rfl⟩
    rfl

variable {db' : Database} {viewer : Uuid} {archived hidden : Bool}

lemma matching_nodup : (matching db' viewer archived hidden).Nodup := by
  have hrows : db'.reads.tables.conversationMembers.rows.Nodup :=
    List.Nodup.of_map _ db'.reads.tables.conversationMembers.nodup
  refine (List.Nodup.filterMap (fun m m' row hrow hrow' => ?_) (hrows.filter _)).filter _
  obtain ⟨c, -, rfl⟩ := Option.map_eq_some_iff.mp hrow
  obtain ⟨c', -, he⟩ := Option.map_eq_some_iff.mp hrow'
  exact (Prod.mk.inj he).2.symm

lemma listFeed_sound (hlimit : 1 ≤ limit) : (listFeed db' viewer archived hidden limit).Sound where
  pos := hlimit
  extra_le := Nat.zero_le _
  nodup := matching_nodup
  behind r c hc := by
    obtain ⟨at_, hat, rfl⟩ := Option.map_eq_some_iff.mp hc
    have hpast : ¬ at_ < at_ / 1000 * 1000 := Nat.not_lt.mpr (Nat.div_mul_le_self at_ 1000)
    simp [listFeed, hat, hpast]
  nested r c c' x hr hc hx := by
    obtain ⟨at_, hat, rfl⟩ := Option.map_eq_some_iff.mp hc
    obtain ⟨xat, hxat, hx⟩ := (Option.any_eq_true ..).mp hx
    have hr : (lastMessageAt db' r).any (fun at_ => at_ < c * 1000) = true := hr
    rw [hat, Option.any_some] at hr
    have hlt : at_ < c * 1000 := of_decide_eq_true hr
    have hxlt : xat < at_ / 1000 * 1000 := of_decide_eq_true hx
    have hxc : xat < c * 1000 := hxlt.trans ((Nat.div_mul_le_self at_ 1000).trans_lt hlt)
    simp [listFeed, hxat, hxc]
  sorts rows := exists_sorted (listOrder db') rows

lemma listPage_iff {before : Option Time} {rows : List Row} {next : Option Time} :
    ListPage db' viewer archived hidden limit before rows next ↔
      (listFeed db' viewer archived hidden limit).Page before rows next := by
  have hadmitted : ((matching db' viewer archived hidden).filter fun row =>
      before.all fun before => (lastMessageAt db' row).any fun at_ => at_ < before * 1000) =
        (listFeed db' viewer archived hidden limit).admitted before := by
    cases before with
    | none => exact List.filter_eq_self.mpr fun _ _ => rfl
    | some c => rfl
  have hnext : ∀ sorted, (listFeed db' viewer archived hidden limit).nextCursor sorted =
      if (sorted.take limit).length = limit then
        ((sorted.take limit).getLast?.bind (lastMessageAt db')).map (· / 1000) else none := fun sorted => by
    rw [Option.map_bind]
    rfl
  unfold ListPage Feed.Page Feed.Sorts
  rw [hadmitted]
  simp only [hnext, and_assoc]
  refine exists_congr fun sorted => and_congr_right fun _ => and_congr_right fun _ => ?_
  exact and_congr_right fun hrows => by rw [hrows]

end Feeds

/-! ## Where the pages are exact -/

/-- Following the cursors comes to an end, and brings every row once. -/
def Exact {α γ : Type} (page : Option γ → List α → Option γ → Prop) (rows : List α) : Prop :=
  (∃ pages, Follows page none pages) ∧ ∀ pages, Follows page none pages → pages.flatten.Perm rows

def MembersPages (db : Permissions.Database) (actor requested : Uuid) (limit : ℕ) (clock : Time)
    (cursor : Option Uuid) (rows : List ConversationMember) (nextCursor : Option Uuid) : Prop :=
  members db actor requested limit clock cursor = .ok ⟨rows, nextCursor⟩

/-- At the end of a full page the ids above its last one are just those of the members still to come. -/
def MembersCut (db : Permissions.Database) (id : Uuid) (limit : ℕ) : Prop :=
  ∀ sorted : List ConversationMember, sorted.Perm (activeMembers db id) →
    (sorted.Pairwise fun a b => order a ≤ order b) → ∀ k r, (k + 1) * limit ≤ sorted.length →
      sorted[(k + 1) * limit - 1]? = some r →
        ∀ i x, sorted[i]? = some x → (r.userId < x.userId ↔ (k + 1) * limit ≤ i)

/-- At the end of a full page the conversations last written to before the millisecond of its last one are
just those still to come, and where the last one has no message there are none. -/
def ListCut (db : Database) (viewer : Uuid) (archived hidden : Bool) (limit : ℕ) : Prop :=
  ∀ sorted : List Row, sorted.Perm (matching db viewer archived hidden) →
    (sorted.Pairwise fun a b => listOrder db a ≤ listOrder db b) → ∀ k r, (k + 1) * limit ≤ sorted.length →
      sorted[(k + 1) * limit - 1]? = some r →
        (∃ at_, lastMessageAt db r = some at_ ∧ ∀ i x, sorted[i]? = some x →
          ((∃ xat, lastMessageAt db x = some xat ∧ xat < at_ / 1000 * 1000) ↔ (k + 1) * limit ≤ i)) ∨
        lastMessageAt db r = none ∧ sorted.length = (k + 1) * limit

section Cut
variable {db : Database} {id viewer : Uuid} {archived hidden : Bool} {limit : ℕ}

lemma membersCut_iff {db : Permissions.Database} : MembersCut db id limit ↔
    ∀ sorted, (memberFeed db id limit).Sorts (activeMembers db id) sorted →
      (memberFeed db id limit).Splits sorted := by
  constructor
  · intro h sorted hs k r hlen hr
    refine Or.inl ⟨r.userId, rfl, fun i x hx => ?_⟩
    exact decide_eq_true_iff.trans (h sorted hs.1 hs.2 k r hlen hr i x hx)
  · intro h sorted hp hs k r hlen hr i x hx
    rcases h sorted ⟨hp, hs⟩ k r hlen hr with ⟨c, hc, hcut⟩ | ⟨hnone, -⟩
    · obtain rfl := Option.some.inj hc
      exact decide_eq_true_iff.symm.trans (hcut i x hx)
    · cases hnone

lemma listCut_iff : ListCut db viewer archived hidden limit ↔
    ∀ sorted, (listFeed db viewer archived hidden limit).Sorts (matching db viewer archived hidden) sorted →
      (listFeed db viewer archived hidden limit).Splits sorted := by
  have hafter : ∀ at_ x, (listFeed db viewer archived hidden limit).after (at_ / 1000) x = true ↔
      ∃ xat, lastMessageAt db x = some xat ∧ xat < at_ / 1000 * 1000 := fun at_ x => by
    simp [listFeed, Option.any_eq_true]
  constructor
  · intro h sorted hs k r hlen hr
    rcases h sorted hs.1 hs.2 k r hlen hr with ⟨at_, hat, hcut⟩ | ⟨hnone, hall⟩
    · refine Or.inl ⟨at_ / 1000, congrArg (Option.map (· / 1000)) hat, fun i x hx => ?_⟩
      exact (hafter at_ x).trans (hcut i x hx)
    · exact Or.inr ⟨congrArg (Option.map (· / 1000)) hnone, hall⟩
  · intro h sorted hp hs k r hlen hr
    rcases h sorted ⟨hp, hs⟩ k r hlen hr with ⟨c, hc, hcut⟩ | ⟨hnone, hall⟩
    · obtain ⟨at_, hat, rfl⟩ := Option.map_eq_some_iff.mp hc
      exact Or.inl ⟨at_, hat, fun i x hx => (hafter at_ x).symm.trans (hcut i x hx)⟩
    · exact Or.inr ⟨Option.map_eq_none_iff.mp hnone, hall⟩

lemma exact_feed_iff {α γ : Type} {f : Feed α γ} (h : f.Sound) :
    Exact f.Page f.rows ↔ ∀ sorted, f.Sorts f.rows sorted → f.Splits sorted := by
  rw [← h.exact_iff]
  exact ⟨fun he => he.2, fun he => ⟨h.exists_follows, he⟩⟩

lemma membersPages_eq {db : Permissions.Database} {actor requested : Uuid} {clock : Time}
    {ctx : Permissions.MemberContext}
    (hctx : db.requirePermission requested actor Permissions.Permission.viewConversation clock = .ok ctx)
    (hid : ctx.conversation.parentId.getD requested = id) :
    MembersPages db actor requested limit clock = (memberFeed db id limit).Page :=
  funext fun cursor => funext fun rows => funext fun next =>
    propext (members_eq_ok hctx hid cursor rows next)

lemma listPages_eq :
    ListPage db viewer archived hidden limit = (listFeed db viewer archived hidden limit).Page :=
  funext fun _ => funext fun _ => funext fun _ => propext listPage_iff

end Cut

/-- The pages of either listing are exact just where its cursors cut its rows. -/
theorem ranked_exact_iff {db : Database} {actor requested : Uuid} {limit : ℕ} {clock : Time}
    {ctx : Permissions.MemberContext} (hlimit : 1 ≤ limit)
    (hctx : db.reads.tables.requirePermission requested actor Permissions.Permission.viewConversation clock =
      .ok ctx) (viewer : Uuid) (archived hidden : Bool) :
    (Exact (MembersPages db.reads.tables actor requested limit clock)
        (activeMembers db.reads.tables (ctx.conversation.parentId.getD requested)) ↔
      MembersCut db.reads.tables (ctx.conversation.parentId.getD requested) limit) ∧
    (Exact (ListPage db viewer archived hidden limit) (matching db viewer archived hidden) ↔
      ListCut db viewer archived hidden limit) := by
  constructor
  · rw [membersPages_eq hctx rfl, membersCut_iff]
    exact exact_feed_iff (memberFeed_sound hlimit)
  · rw [listPages_eq, listCut_iff]
    exact exact_feed_iff (listFeed_sound hlimit)

namespace Sample

def space (rows : KeyedTable ConversationMember.key) : Database where
  toDatabase := { HomeList.Sample.spaced 0 with
    reads := { (HomeList.Sample.spaced 0).reads with
      tables := { (HomeList.Sample.spaced 0).reads.tables with conversationMembers := rows }
      mention_placed _ h := by cases h } }
  micros _ := 0

def owner (id : Uuid) : ConversationMember := .new 1 id .owner 0 0

def ordinary (id : Uuid) : ConversationMember := .new 1 id .member 0 0

def overtaken : Database := space ⟨[owner 13, ordinary 12], by decide⟩

def founded : Database := space ⟨[owner 12, ordinary 13], by decide⟩

end Sample

open Sample

/-- After the owner the cursor lets nobody through. -/
theorem member_left_out :
    ¬ ∀ (db : Database) (actor requested : Uuid) (limit : ℕ) (clock : Time) (ctx : Permissions.MemberContext),
      1 ≤ limit → db.reads.tables.requirePermission requested actor Permissions.Permission.viewConversation
        clock = .ok ctx → Exact (MembersPages db.reads.tables actor requested limit clock)
          (activeMembers db.reads.tables (ctx.conversation.parentId.getD requested)) := by
  intro h
  have hexact := h overtaken 12 1 1 0 _ (Nat.le_refl 1) rfl
  rw [membersPages_eq rfl rfl] at hexact
  have hcut := membersCut_iff.mpr ((exact_feed_iff (memberFeed_sound (Nat.le_refl 1))).mp hexact)
  have hplace := hcut [owner 13, ordinary 12] (List.Perm.of_eq rfl) (by decide) 0 (owner 13) (by decide) rfl 1
    (ordinary 12) rfl
  exact absurd (hplace.mpr (by decide)) (by decide)

/-- Two members by pages of one, and a conversation without messages. -/
theorem ranked_exact_iff_founded :
    Exact (MembersPages founded.reads.tables 12 1 1 0) (activeMembers founded.reads.tables 1) ∧
      Exact (ListPage founded 12 false false 1) (matching founded 12 false false) := by
  obtain ⟨hmembers, hlist⟩ := @ranked_exact_iff founded 12 1 1 0 _ (Nat.le_refl 1) rfl 12 false false
  refine ⟨hmembers.mpr fun sorted hp hs k r hlen hr i x hx => ?_, hlist.mpr fun sorted hp _ k r hlen hr => ?_⟩
  · have hsorted : sorted = [owner 12, ordinary 13] :=
      hp.eq_of_pairwise (fun a b ha hb hab hba => order_inj (hp.mem_iff.mp ha) hb (le_antisymm hab hba)) hs
        (by decide)
    subst hsorted
    have hk : k < 2 := by
      have hlen : (k + 1) * 1 ≤ 2 := hlen
      omega
    have hi : i < 2 := (List.getElem?_eq_some_iff.mp hx).1
    interval_cases k <;> interval_cases i <;> obtain rfl := Option.some.inj hr <;>
      obtain rfl := Option.some.inj hx <;> decide
  · have hone : sorted.length = 1 := hp.length_eq.trans rfl
    have hk : k = 0 := by omega
    subst hk
    refine Or.inr ⟨?_, hone⟩
    have hmem : r ∈ matching founded 12 false false := hp.mem_iff.mp (List.mem_of_getElem? hr)
    obtain rfl := List.mem_singleton.mp hmem
    rfl

end Yappy.RankedListings
