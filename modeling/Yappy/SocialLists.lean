import Yappy.PermissionDatabase
import Yappy.RoundedPages

/-!
# Followers, following and contacts

`listGraph` and `GET /me/contacts` of `apps/api/src/routes/social.ts`. Timestamps are in microseconds; a cursor
is a date, which has milliseconds. What each account is dressed with is left out.
-/
namespace Yappy.SocialLists

open Pages (Feed Follows Rounded)
open Permissions (Uuid)

structure User where
  id : Uuid
  deletedAt : Option ℕ

structure Follow where
  followerId : Uuid
  followeeId : Uuid
  isMutual : Bool
  createdAt : ℕ

def Follow.key (f : Follow) : Uuid × Uuid := (f.followerId, f.followeeId)

structure Database where
  users : KeyedTable User.id
  follows : KeyedTable Follow.key

structure Shown where
  userId : Uuid
  isMutual : Bool
  createdAt : ℕ

/-- `new Date(…).toISOString()` -/
def date (micros : ℕ) : ℕ := micros / 1000 * 1000

inductive Direction
  | followers | following

section Routes
variable (db : Database)

/-- The rows of `follows` with a live account on the side of `joinCol`. -/
def selected (matches_ : Follow → Bool) (joinCol : Follow → Uuid) : List Shown :=
  (db.follows.rows.filter fun f =>
    matches_ f && (db.users.find (joinCol f)).any fun u => u.deletedAt.isNone).map fun f =>
      ⟨joinCol f, f.isMutual, f.createdAt⟩

/-- What the three routes answer with: rows that tie come in any order. -/
def Page (rows : List Shown) (limit : ℕ) (cursor : Option ℕ) (users : List Shown) (nextCursor : Option ℕ) :
    Prop :=
  ∃ sorted : List Shown, sorted.Perm (rows.filter fun f => cursor.all fun c => f.createdAt < c) ∧
    (sorted.Pairwise fun a b => b.createdAt ≤ a.createdAt) ∧ users = sorted.take limit ∧
    nextCursor = if users.length = limit then users.getLast?.map fun f => date f.createdAt else none

def Direction.joinCol : Direction → Follow → Uuid
  | .followers => Follow.followerId
  | .following => Follow.followeeId

def Direction.matchCol : Direction → Follow → Uuid
  | .followers => Follow.followeeId
  | .following => Follow.followerId

def graph (direction : Direction) (targetId : Uuid) : List Shown :=
  selected db (fun f => direction.matchCol f = targetId) direction.joinCol

/-- `GET /me/followers`, `/me/following`, `/:id/followers` and `/:id/following` -/
def ListGraph (direction : Direction) (targetId : Uuid) := Page (graph db direction targetId)

def mutuals (userId : Uuid) : List Shown :=
  selected db (fun f => f.followerId = userId && f.isMutual) Follow.followeeId

/-- `GET /me/contacts` -/
def Contacts (userId : Uuid) := Page (mutuals db userId)

end Routes

/-! ## Each is a listing with rounded cursors -/

section Listing
variable {db : Database} {rows : List Shown} {limit : ℕ}

lemma selected_nodup {matches_ : Follow → Bool} {joinCol : Follow → Uuid}
    (h : ∀ f g, matches_ f → matches_ g → joinCol f = joinCol g → f.key = g.key) :
    ((selected db matches_ joinCol).map Shown.userId).Nodup := by
  unfold selected
  rw [List.map_map]
  have hrows : db.follows.rows.Nodup := List.Nodup.of_map _ db.follows.nodup
  refine List.Nodup.map_on (fun f hf g hg he => ?_) (hrows.filter _)
  obtain ⟨hf, hfm⟩ := List.mem_filter.mp hf
  obtain ⟨hg, hgm⟩ := List.mem_filter.mp hg
  rw [Bool.and_eq_true] at hfm hgm
  exact List.inj_on_of_nodup_map db.follows.nodup hf hg (h f g hfm.1 hgm.1 he)

lemma graph_nodup (direction : Direction) (targetId : Uuid) :
    ((graph db direction targetId).map Shown.userId).Nodup := by
  refine selected_nodup fun f g hf hg he => ?_
  have hsame : direction.matchCol f = direction.matchCol g :=
    (of_decide_eq_true hf).trans (of_decide_eq_true hg).symm
  cases direction with
  | followers => exact Prod.ext he hsame
  | following => exact Prod.ext hsame he

lemma mutuals_nodup (userId : Uuid) : ((mutuals db userId).map Shown.userId).Nodup := by
  refine selected_nodup fun f g hf hg he => ?_
  simp only [Bool.and_eq_true, decide_eq_true_eq] at hf hg
  exact Prod.ext (hf.1.trans hg.1.symm) he

def latest (rows : List Shown) (limit : ℕ) (hrows : (rows.map Shown.userId).Nodup) (hpos : 0 < limit) :
    Rounded Shown ℕ where
  rows := rows
  nodup := List.Nodup.of_map _ hrows
  key := Shown.createdAt
  round := date
  round_le c := Nat.div_mul_le_self c 1000
  limit := limit
  pos := hpos

lemma page_eq (hrows : (rows.map Shown.userId).Nodup) (hpos : 0 < limit) :
    Page rows limit = (latest rows limit hrows hpos).feed.Page := by
  funext cursor users next
  have hadmitted : (rows.filter fun f => cursor.all fun c => f.createdAt < c) =
      (latest rows limit hrows hpos).feed.admitted cursor := by
    cases cursor with
    | none => exact List.filter_eq_self.mpr fun _ _ => rfl
    | some c => rfl
  have hnext : ∀ sorted, (latest rows limit hrows hpos).feed.nextCursor sorted =
      if (sorted.take limit).length = limit then (sorted.take limit).getLast?.map fun f => date f.createdAt
      else none := fun sorted => by
    rw [Option.map_eq_bind]
    rfl
  unfold Page Feed.Page Feed.Sorts
  rw [hadmitted]
  simp only [hnext, and_assoc]
  refine propext (exists_congr fun sorted => and_congr_right fun _ => and_congr_right fun _ => ?_)
  exact and_congr_right fun husers => by rw [husers]

end Listing

/-! ## Where the pages are exact -/

/-- Following the cursors comes to an end, and brings every account once. -/
def Exact (page : Option ℕ → List Shown → Option ℕ → Prop) (rows : List Shown) : Prop :=
  (∃ pages, Follows page none pages) ∧ ∀ pages, Follows page none pages →
    ∀ userId, (pages.flatten.map Shown.userId).count userId =
      if userId ∈ rows.map Shown.userId then 1 else 0

def times (rows : List Shown) : List ℕ := Pages.descending id (rows.map Shown.createdAt)

/-- The follow after each full page is from before the millisecond of the one that ends the page. -/
def Apart (rows : List Shown) (limit : ℕ) : Prop :=
  ∀ j c c', (times rows)[(j + 1) * limit - 1]? = some c → (times rows)[(j + 1) * limit]? = some c' → c' < date c

section Exactness
variable {db : Database} {rows : List Shown} {limit : ℕ}

lemma mem_of_follows {page : Option ℕ → List Shown → Option ℕ → Prop}
    (hpage : ∀ cursor users next, page cursor users next → ∀ f ∈ users, f ∈ rows) {cursor : Option ℕ}
    {pages : List (List Shown)} (h : Follows page cursor pages) : ∀ f ∈ pages.flatten, f ∈ rows := by
  induction h with
  | last h =>
    intro f hf
    rw [List.flatten_cons, List.flatten_nil, List.append_nil] at hf
    exact hpage _ _ _ h f hf
  | more h _ ih =>
    intro f hf
    rw [List.flatten_cons] at hf
    rcases List.mem_append.mp hf with hf | hf
    · exact hpage _ _ _ h f hf
    · exact ih f hf

lemma page_mem {cursor next : Option ℕ} {users : List Shown} (h : Page rows limit cursor users next) :
    ∀ f ∈ users, f ∈ rows := by
  obtain ⟨sorted, hperm, -, rfl, -⟩ := h
  exact fun f hf => (List.mem_filter.mp (hperm.mem_iff.mp (List.mem_of_mem_take hf))).1

lemma perm_iff_count (hrows : (rows.map Shown.userId).Nodup) {users : List Shown}
    (husers : ∀ f ∈ users, f ∈ rows) :
    users.Perm rows ↔ ∀ userId, (users.map Shown.userId).count userId =
      if userId ∈ rows.map Shown.userId then 1 else 0 := by
  constructor
  · intro hperm userId
    rw [(hperm.map Shown.userId).count_eq]
    exact hrows.count
  · intro hcount
    have hnodup : (users.map Shown.userId).Nodup := List.nodup_iff_count_le_one.mpr fun userId => by
      rw [hcount]
      split_ifs <;> omega
    refine (List.perm_ext_iff_of_nodup (List.Nodup.of_map _ hnodup) (List.Nodup.of_map _ hrows)).mpr
      fun f => ⟨husers f, fun hf => ?_⟩
    have hone := hcount f.userId
    rw [if_pos (List.mem_map_of_mem hf)] at hone
    have hpos : 0 < (users.map Shown.userId).count f.userId := by omega
    obtain ⟨g, hg, hid⟩ := List.mem_map.mp (List.count_pos_iff.mp hpos)
    rwa [List.inj_on_of_nodup_map hrows (husers g hg) hf hid] at hg

lemma exact_page_iff (hrows : (rows.map Shown.userId).Nodup) (hpos : 0 < limit) :
    Exact (Page rows limit) rows ↔ Apart rows limit := by
  have hfeed := page_eq hrows hpos
  have hexact : (∀ pages, Follows (Page rows limit) none pages → pages.flatten.Perm rows) ↔
      Apart rows limit := by
    rw [hfeed]
    exact (latest rows limit hrows hpos).exact_iff
  rw [← hexact]
  constructor
  · intro h pages hpages
    exact (perm_iff_count hrows (mem_of_follows (fun _ _ _ => page_mem) hpages)).mpr (h.2 pages hpages)
  · intro h
    refine ⟨?_, fun pages hpages => ?_⟩
    · rw [hfeed]
      exact (latest rows limit hrows hpos).sound.exists_follows
    · exact (perm_iff_count hrows (mem_of_follows (fun _ _ _ => page_mem) hpages)).mp (h pages hpages)

end Exactness

/-- The pages of each of the lists bring every account once just where no page ends within the millisecond of
the follow after it. -/
theorem social_exact_iff (db : Database) {limit : ℕ} (hlimit : 1 ≤ limit) (userId : Uuid) :
    (∀ direction, Exact (ListGraph db direction userId limit) (graph db direction userId) ↔
      Apart (graph db direction userId) limit) ∧
    (Exact (Contacts db userId limit) (mutuals db userId) ↔ Apart (mutuals db userId) limit) :=
  ⟨fun direction => exact_page_iff (graph_nodup direction userId) hlimit,
    exact_page_iff (mutuals_nodup userId) hlimit⟩

namespace Sample

def followed (second first : ℕ) : Database where
  users := ⟨[⟨1, none⟩, ⟨2, none⟩, ⟨3, none⟩], by decide⟩
  follows := ⟨[⟨3, 1, false, second⟩, ⟨2, 1, false, first⟩], by simp [Follow.key]⟩

lemma times_followed {second first : ℕ} (h : first ≤ second) :
    times (graph (followed second first) .followers 1) = [second, first] := by
  have hsorted : [second, first].Pairwise fun a b => decide (id b ≤ id a) := by simpa using h
  exact List.mergeSort_of_pairwise hsorted

end Sample

/-- Two follows of one instant, by pages of one: whoever comes second is let through by no cursor. -/
theorem follower_left_out :
    ¬ ∀ (db : Database) (limit : ℕ), 1 ≤ limit → ∀ direction userId,
      Exact (ListGraph db direction userId limit) (graph db direction userId) := by
  intro h
  have hexact := h (Sample.followed 5000 5000) 1 le_rfl .followers 1
  have hapart := (exact_page_iff (graph_nodup .followers 1) Nat.one_pos).mp hexact 0 5000 5000
  rw [Sample.times_followed le_rfl] at hapart
  exact absurd (hapart rfl rfl) (by decide)

/-- Two follows in different milliseconds. -/
theorem social_exact_iff_apart :
    Exact (ListGraph (Sample.followed 6001 5000) .followers 1 1)
      (graph (Sample.followed 6001 5000) .followers 1) := by
  refine ((social_exact_iff (Sample.followed 6001 5000) le_rfl 1).1 .followers).mpr fun j c c' hc hc' => ?_
  rw [Sample.times_followed (by decide)] at hc hc'
  have hj : j = 0 := by
    have hlt : (j + 1) * 1 < 2 := (List.getElem?_eq_some_iff.mp hc').1
    omega
  subst hj
  obtain rfl := Option.some.inj hc
  obtain rfl := Option.some.inj hc'
  decide

end Yappy.SocialLists
