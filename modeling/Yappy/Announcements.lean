import Yappy.Firsts
import Yappy.Pages

/-!
# Announcements

`fanOutAnnouncement` of `apps/worker/src/jobs/announce.ts`. Accounts change between one page and the next, an
attempt may die between any two jobs, and is run again. The hash that a key is cut from is a parameter.
-/
namespace Yappy.Announcements

structure User where
  id : ℕ
  deletedAt : Option ℕ
  isBot : Bool
  isStaff : Bool
  suspendedUntil : Option ℕ
  deriving DecidableEq

/-- What a read of a page finds. -/
structure Snapshot where
  now : ℕ
  users : List User
  nodup : (users.map User.id).Nodup

inductive Audience
  | staff | everyone

structure BroadcastJob where
  broadcastId : ℕ
  audience : Audience
  title : String
  body : String
  footer : Option String

/-- A job of the queue `yapper.dm`. -/
structure DmJob (κ : Type) where
  userId : ℕ
  dedupe : κ
  title : String
  body : String
  footer : Option String

def pageSize : ℕ := 500

def User.eligible (u : User) (audience : Audience) (now : ℕ) : Bool :=
  u.deletedAt.isNone && !u.isBot && match audience with
    | .staff => u.isStaff
    | .everyone => u.suspendedUntil.all fun until_ => until_ < now

namespace Snapshot

def query (s : Snapshot) (audience : Audience) (cursor : Option ℕ) : Pages.Query User ℕ where
  admitted := s.users.filter fun u => u.eligible audience s.now && cursor.all fun c => c < u.id
  order := User.id
  limit := pageSize

def page (s : Snapshot) (audience : Audience) (cursor : Option ℕ) : List ℕ := (s.query audience cursor).run.map User.id

/-- Somebody with that id is to be told. -/
def Admits (s : Snapshot) (audience : Audience) (id : ℕ) : Prop :=
  ∃ u ∈ s.users, u.id = id ∧ u.eligible audience s.now = true

end Snapshot

/-- Whom the loop enqueues a job for, and whether it has come to its end. -/
def walk (audience : Audience) : Option ℕ → List Snapshot → List ℕ × Bool
  | _, [] => ([], false)
  | cursor, s :: later =>
    let rows := s.page audience cursor
    if rows.length < pageSize then (rows, true)
    else
      let rest := walk audience rows.getLast? later
      (rows ++ rest.1, rest.2)

/-- What its reads see, and after how many jobs it dies. -/
structure Attempt where
  reads : List Snapshot
  dies : Option ℕ

namespace Attempt

def enqueued (a : Attempt) (audience : Audience) : List ℕ :=
  match a.dies with
  | none => (walk audience none a.reads).1
  | some n => (walk audience none a.reads).1.take n

def Completed (a : Attempt) (audience : Audience) : Prop := a.dies = none ∧ (walk audience none a.reads).2 = true

end Attempt

/-- All that the attempts enqueue. -/
def jobs {κ : Type} (recipientKey : ℕ → ℕ → κ) (job : BroadcastJob) (attempts : List Attempt) : List (DmJob κ) :=
  attempts.flatMap fun a => (a.enqueued job.audience).map fun userId =>
    ⟨userId, recipientKey job.broadcastId userId, job.title, job.body, job.footer⟩

/-- The sends that made a message, which any other with the same key answers with. -/
def messages {κ : Type} [DecidableEq κ] (sends : List (DmJob κ)) : List (DmJob κ) := firsts DmJob.dedupe [] sends

variable {audience : Audience} {cursor : Option ℕ} {s : Snapshot} {reads : List Snapshot} {id : ℕ}

lemma Snapshot.strict (s : Snapshot) (audience : Audience) (cursor : Option ℕ) : (s.query audience cursor).Strict :=
  s.nodup.sublist (List.filter_sublist.map _)

lemma Snapshot.mem_page (h : id ∈ s.page audience cursor) :
    s.Admits audience id ∧ ∀ c ∈ cursor, c < id := by
  obtain ⟨u, hu, rfl⟩ := List.mem_map.mp h
  have hrow := Pages.Query.mem_of_mem_run hu
  simp only [query, List.mem_filter, Bool.and_eq_true, Option.all_eq_true, decide_eq_true_eq] at hrow
  exact ⟨⟨u, hrow.1, rfl, hrow.2.1⟩, hrow.2.2⟩

lemma Snapshot.page_sorted (s : Snapshot) (audience : Audience) (cursor : Option ℕ) :
    (s.page audience cursor).Pairwise (· < ·) :=
  List.pairwise_map.mpr (Pages.Query.run_sorted (s.strict audience cursor))

lemma Snapshot.length_page_le (s : Snapshot) (audience : Audience) (cursor : Option ℕ) :
    (s.page audience cursor).length ≤ s.users.length := by
  rw [page, List.length_map, Pages.Query.length_run]
  exact (min_le_right _ _).trans (List.length_filter_le _ _)

/-- Whoever is to be told and has not been passed is on the page, or comes after all of a full one. -/
theorem Snapshot.admits_page (h : s.Admits audience id) (hcursor : ∀ c ∈ cursor, c < id) :
    id ∈ s.page audience cursor ∨
      (pageSize ≤ (s.page audience cursor).length ∧ ∀ last ∈ s.page audience cursor, last < id) := by
  obtain ⟨u, hu, rfl, heligible⟩ := h
  have hrow : u ∈ (s.query audience cursor).admitted := by
    simp only [query, List.mem_filter, Bool.and_eq_true, Option.all_eq_true, decide_eq_true_eq]
    exact ⟨hu, heligible, hcursor⟩
  by_cases hmem : u ∈ (s.query audience cursor).run
  · exact .inl (List.mem_map_of_mem hmem)
  · refine .inr ⟨?_, fun last hlast => ?_⟩
    · have hshows : ¬ (s.query audience cursor).Shows u := fun h => hmem ((Pages.Query.mem_run (s.strict _ _)).mpr h)
      have hahead : pageSize ≤ (s.query audience cursor).ahead u := not_lt.mp fun h => hshows ⟨hrow, h⟩
      rw [page, List.length_map, Pages.Query.length_run]
      exact le_min le_rfl (hahead.trans List.countP_le_length)
    · obtain ⟨v, hv, rfl⟩ := List.mem_map.mp hlast
      exact not_le.mp fun hle => hmem (Pages.Query.mem_run_of_le (s.strict _ _) hv hrow hle)

/-- In ascending order, after the cursor, and each eligible where it was read. -/
theorem walk_sound (audience : Audience) (cursor : Option ℕ) (reads : List Snapshot) :
    (walk audience cursor reads).1.Pairwise (· < ·) ∧
      ∀ id ∈ (walk audience cursor reads).1, (∀ c ∈ cursor, c < id) ∧ ∃ s ∈ reads, s.Admits audience id := by
  induction reads generalizing cursor with
  | nil => simp [walk]
  | cons s later ih =>
    have hpage : ∀ id ∈ s.page audience cursor, (∀ c ∈ cursor, c < id) ∧ ∃ s' ∈ s :: later, s'.Admits audience id :=
      fun id hid => ⟨(Snapshot.mem_page hid).2, s, List.mem_cons_self, (Snapshot.mem_page hid).1⟩
    simp only [walk]
    split_ifs with hshort
    · exact ⟨s.page_sorted audience cursor, hpage⟩
    · obtain ⟨hsorted, hrest⟩ := ih (s.page audience cursor).getLast?
      have hnonempty : s.page audience cursor ≠ [] := fun h => hshort (by rw [h]; decide)
      have hlast : ∀ id ∈ (walk audience (s.page audience cursor).getLast? later).1,
          (s.page audience cursor).getLast hnonempty < id :=
        fun id hid => (hrest id hid).1 _ (List.getLast?_eq_some_getLast hnonempty)
      have hle : ∀ id ∈ s.page audience cursor, id ≤ (s.page audience cursor).getLast hnonempty := fun id hid =>
        (s.page_sorted audience cursor).imp le_of_lt |>.rel_getLast hid
      refine ⟨List.pairwise_append.mpr ⟨s.page_sorted audience cursor, hsorted, fun id hid id' hid' =>
        (hle id hid).trans_lt (hlast id' hid')⟩, fun id hid => ?_⟩
      rcases List.mem_append.mp hid with hid | hid
      · exact hpage id hid
      · obtain ⟨-, s', hs', hadmits⟩ := hrest id hid
        refine ⟨fun c hc => ?_, s', List.mem_cons_of_mem _ hs', hadmits⟩
        exact ((Snapshot.mem_page (List.getLast_mem hnonempty)).2 c hc).trans (hlast id hid)

/-- A loop that comes to its end has passed nobody who was eligible whenever it read. -/
theorem walk_complete (hdone : (walk audience cursor reads).2 = true) (hcursor : ∀ c ∈ cursor, c < id)
    (hadmits : ∀ s ∈ reads, s.Admits audience id) : id ∈ (walk audience cursor reads).1 := by
  induction reads generalizing cursor with
  | nil => simp [walk] at hdone
  | cons s later ih =>
    have hstep := Snapshot.admits_page (hadmits s List.mem_cons_self) hcursor
    simp only [walk] at hdone ⊢
    split_ifs at hdone ⊢ with hshort
    · exact hstep.resolve_right fun hfull => absurd hfull.1 (not_le.mpr hshort)
    · rcases hstep with hmem | ⟨-, hbehind⟩
      · exact List.mem_append_left _ hmem
      · refine List.mem_append_right _ (ih hdone (fun c hc => ?_) fun s' hs' => hadmits s' (List.mem_cons_of_mem _ hs'))
        exact hbehind c (List.mem_of_getLast? hc)

lemma Attempt.mem_enqueued {a : Attempt} (h : id ∈ a.enqueued audience) : ∃ s ∈ a.reads, s.Admits audience id := by
  unfold enqueued at h
  split at h
  · exact ((walk_sound audience none a.reads).2 id h).2
  · exact ((walk_sound audience none a.reads).2 id (List.mem_of_mem_take h)).2

/-- However often it is run again, and whichever jobs come to their send, in any order: no two messages are to
one account, each send answers with a message to its own, and there is a job for whoever was eligible at every read of
an attempt that came to its end, and none for whoever never was. -/
theorem announced_once {κ : Type} [DecidableEq κ] (recipientKey : ℕ → ℕ → κ) (job : BroadcastJob)
    (hkey : Function.Injective (recipientKey job.broadcastId)) (attempts : List Attempt) (sends : List (DmJob κ))
    (hsends : ∀ j ∈ sends, j ∈ jobs recipientKey job attempts) :
    ((messages sends).map DmJob.userId).Nodup ∧
    (∀ j ∈ sends, ∃ m ∈ messages sends, m.dedupe = j.dedupe ∧ m.userId = j.userId) ∧
    ∀ id, ((∃ a ∈ attempts, a.Completed job.audience ∧ ∀ s ∈ a.reads, s.Admits job.audience id) →
        ∃ j ∈ jobs recipientKey job attempts, j.userId = id) ∧
      ((∀ a ∈ attempts, ∀ s ∈ a.reads, ¬ s.Admits job.audience id) →
        ∀ j ∈ jobs recipientKey job attempts, j.userId ≠ id) := by
  have hjob : ∀ j ∈ jobs recipientKey job attempts, j.dedupe = recipientKey job.broadcastId j.userId ∧
      ∃ a ∈ attempts, j.userId ∈ a.enqueued job.audience := by
    intro j hj
    simp only [jobs, List.mem_flatMap, List.mem_map] at hj
    obtain ⟨a, ha, userId, hid, rfl⟩ := hj
    exact ⟨rfl, a, ha, hid⟩
  have hdedupe : ∀ j ∈ sends, j.dedupe = recipientKey job.broadcastId j.userId := fun j hj => (hjob j (hsends j hj)).1
  refine ⟨?_, fun j hj => ?_, fun id => ⟨?_, fun hnever j hj hid => ?_⟩⟩
  · have hnodup : ((messages sends).map DmJob.dedupe).Nodup := firsts_nodup
    have hsame : (messages sends).map DmJob.dedupe =
        ((messages sends).map DmJob.userId).map (recipientKey job.broadcastId) := by
      rw [List.map_map]
      exact List.map_congr_left fun j hj => hdedupe j (mem_of_mem_firsts hj)
    rw [hsame] at hnodup
    exact hnodup.of_map _
  · obtain ⟨m, hm, hsame⟩ : ∃ m ∈ messages sends, m.dedupe = j.dedupe :=
      exists_mem_firsts hj List.not_mem_nil
    refine ⟨m, hm, hsame, hkey ?_⟩
    rw [← hdedupe m (mem_of_mem_firsts hm), hsame, hdedupe j hj]
  · rintro ⟨a, ha, ⟨hdies, hdone⟩, hadmits⟩
    have hmem : id ∈ a.enqueued job.audience := by
      rw [Attempt.enqueued, hdies]
      exact walk_complete hdone (by simp) hadmits
    exact ⟨_, List.mem_flatMap.mpr ⟨a, ha, List.mem_map_of_mem hmem⟩, rfl⟩
  · obtain ⟨-, a, ha, hid'⟩ := hjob j hj
    obtain ⟨s, hs, hadmits⟩ := Attempt.mem_enqueued hid'
    exact hnever a ha s hs (hid ▸ hadmits)

namespace Sample

/-- 7 and 9 are there, and 8 is new at the second attempt. -/
def first : Snapshot := ⟨0, [⟨9, none, false, false, none⟩, ⟨7, none, false, false, none⟩], by decide⟩

def second : Snapshot :=
  ⟨5, [⟨9, none, false, false, none⟩, ⟨8, none, false, false, none⟩, ⟨7, none, false, false, some 4⟩], by decide⟩

def job : BroadcastJob := ⟨3, .everyone, "Hello", "We are back.", none⟩

/-- The first attempt dies after one job. -/
def attempts : List Attempt := [⟨[first], some 1⟩, ⟨[second], none⟩]

end Sample

open Sample in
theorem announced_once_again :
    ((messages (jobs Prod.mk job attempts ++ jobs Prod.mk job attempts)).map DmJob.userId).Nodup ∧
      ∃ j ∈ jobs Prod.mk job attempts, j.userId = 8 := by
  have hdone : (walk job.audience none [second]).2 = true := by
    have hshort : (second.page job.audience none).length < pageSize :=
      (second.length_page_le job.audience none).trans_lt (by decide)
    rw [walk, if_pos hshort]
  obtain ⟨hnodup, -, hall⟩ := announced_once Prod.mk job (Prod.mk_right_injective _) attempts
    (jobs Prod.mk job attempts ++ jobs Prod.mk job attempts) fun j => by rw [List.mem_append, or_self]; exact id
  refine ⟨hnodup, (hall 8).1 ⟨⟨[second], none⟩, by simp [attempts], ⟨rfl, hdone⟩, fun s hs => ?_⟩⟩
  exact (List.mem_singleton.mp hs) ▸ ⟨⟨8, none, false, false, none⟩, by decide, rfl, by decide⟩

end Yappy.Announcements
