import Yappy.ConversationPayload
import Yappy.Runs

/-!
# The thread of two

`create` of `apps/api/src/services/conversations.ts` for a direct message, and `ensureYapperDm` of
`apps/api/src/lib/yapperNotify.ts`: any number of calls, from either side, statement by statement, amid whatever
else goes on. Nothing else writes `dm_key`, and no row of `conversations` is deleted.
-/
namespace Yappy.Payloads

open Permissions (Time Uuid)

/-- A call whose checks have passed; yapper's answers with what it finds, and asks for no view. -/
structure Opening where
  yapper : Bool
  actor : Uuid
  otherId : Uuid
  id : Uuid
  disappearingSeconds : ℕ
  distinct : otherId ≠ actor
  deriving DecidableEq

/-- Where a call has got to, and the conversation that it goes by. -/
inductive Stage
  | looking
  | found (id : Uuid)
  | inserting
  | lost
  | viewing (id : Uuid)
  | answered (id : Uuid)
  | refused
  | failed
  deriving DecidableEq

namespace Opening

def key (o : Opening) : Uuid × Uuid := buildDmKey o.actor o.otherId

/-- The transaction; another one that inserts the key is waited for. -/
def insert (o : Opening) (db : Database) (clock : Time) : Option Database :=
  db.insert (fresh o.id .dm o.disappearingSeconds) rfl (some o.key)
    [.new o.id o.actor .member clock 0, .new o.id o.otherId .member clock 0]

def drawn (o : Opening) (db : Database) : Bool :=
  (db.tables.conversations.find o.id).isNone && (db.tables.conversationMembers.find (o.id, o.actor)).isNone &&
    (db.tables.conversationMembers.find (o.id, o.otherId)).isNone

def advance (o : Opening) (clock : Time) (db : Database) : Stage → Database × Stage
  | .looking => (db, (db.openThread o.key).elim .inserting fun existing => .found existing.id)
  | .found id => (db.reopen id, .viewing id)
  | .inserting => (o.insert db clock).elim (db, .lost) fun db => (db, .viewing o.id)
  | .lost => (db, (db.thread o.key).elim .failed fun row => .viewing row.id)
  | .viewing id =>
    if o.yapper then (db, .answered id)
    else match db.view id o.actor clock with
      | .ok view => (db, .answered view.conversation.id)
      | .error _ => (db, .refused)
  | stage => (db, stage)

end Opening

def Database.HasThread (db : Database) (id : Uuid) (key : Uuid × Uuid) : Prop :=
  (db.tables.conversations.find id).isSome ∧ db.dmKey id = some key

/-- The partial unique index on `dm_key`. -/
def Database.OneThread (db : Database) : Prop :=
  ∀ key id id', db.HasThread id key → db.HasThread id' key → id = id'

structure Threads where
  db : Database
  calls : ℕ → Option (Opening × Stage)

namespace Threads

inductive Event
  | call (r : ℕ) (o : Opening)
  | advance (r : ℕ) (clock : Time)
  | others (db : Database)

inductive Step : Threads → Event → Threads → Prop
  | call {s : Threads} {r : ℕ} {o : Opening} (hnew : s.calls r = none) :
      Step s (.call r o) { s with calls := Function.update s.calls r (some (o, .looking)) }
  | advance {s : Threads} {r : ℕ} {o : Opening} {stage : Stage} {clock : Time} (hcall : s.calls r = some (o, stage))
      (hdrawn : stage = .inserting → o.drawn s.db = true) : Step s (.advance r clock) ⟨(o.advance clock s.db stage).1,
        Function.update s.calls r (some (o, (o.advance clock s.db stage).2))⟩
  | others {s : Threads} {db : Database} (hsame : ∀ id key, db.HasThread id key ↔ s.db.HasThread id key) :
      Step s (.others db) { s with db := db }

end Threads

lemma buildDmKey_eq_iff {a b c d : Uuid} : buildDmKey a b = buildDmKey c d ↔ (a = c ∧ b = d) ∨ (a = d ∧ b = c) := by
  unfold buildDmKey
  split_ifs <;> grind

namespace Database
variable {db db' : Database} {id : Uuid} {key : Uuid × Uuid} {c : Permissions.Conversation}

lemma hasThread_of_mem (hc : c ∈ db.tables.conversations.rows) (hkey : db.dmKey c.id = some key) :
    db.HasThread c.id key :=
  ⟨by rw [KeyedTable.find_eq_some.mpr ⟨hc, rfl⟩]; rfl, hkey⟩

lemma thread_hasThread (h : db.thread key = some c) : db.HasThread c.id key :=
  hasThread_of_mem (List.mem_of_find?_eq_some h) (by simpa using List.find?_some h)

lemma openThread_hasThread (h : db.openThread key = some c) : db.HasThread c.id key := by
  have hcond := List.find?_some h
  simp only [Bool.and_eq_true, decide_eq_true_eq] at hcond
  exact hasThread_of_mem (List.mem_of_find?_eq_some h) hcond.1

lemma thread_none (h : db.thread key = none) : ¬ db.HasThread id key := by
  rintro ⟨hfind, hkey⟩
  obtain ⟨c, hc⟩ := Option.isSome_iff_exists.mp hfind
  obtain ⟨hmem, rfl⟩ := KeyedTable.find_eq_some.mp hc
  exact List.find?_eq_none.mp h c hmem (decide_eq_true hkey)

lemma insert_hasThread {hroot : c.parentId = none} {members : List Permissions.ConversationMember}
    (h : db.insert c hroot (some key) members = some db') (id' : Uuid) (key' : Uuid × Uuid) :
    db'.HasThread id' key' ↔ db.HasThread id' key' ∨ (id' = c.id ∧ key' = key) := by
  obtain ⟨hnew, -, hfind, -⟩ := insert_eq_some h
  unfold insert at h
  split_ifs at h
  obtain rfl := Option.some.inj h
  unfold HasThread
  rcases eq_or_ne id' c.id with rfl | hne
  · rw [hfind, hnew]
    simp [eq_comm]
  · have hrow : (db.tables.conversations.insertIgnore c).find id' = db.tables.conversations.find id' := by
      rw [KeyedTable.find_insertIgnore, if_neg hne.symm]
    simp [hrow, hne]

lemma insert_none_of_thread {hroot : c.parentId = none} {members : List Permissions.ConversationMember}
    (h : db.insert c hroot (some key) members = some db') : ¬ db.HasThread id key := by
  refine thread_none (Option.not_isSome_iff_eq_none.mp fun hthread => ?_)
  rw [insert_taken hthread] at h
  cases h

end Database

section
variable {o : Opening} {clock : Time} {db db' : Database} {stage : Stage} {id : Uuid} {key : Uuid × Uuid}

lemma Opening.insert_hasThread (h : o.insert db clock = some db') :
    db'.HasThread id key ↔ db.HasThread id key ∨ (id = o.id ∧ key = o.key) :=
  Database.insert_hasThread h id key

/-- A statement keeps every thread, and adds one only where its pair has none. -/
theorem Opening.advance_hasThread (h : (o.advance clock db stage).1.HasThread id key) :
    db.HasThread id key ∨ (id = o.id ∧ key = o.key ∧ ∀ id', ¬ db.HasThread id' o.key) := by
  cases stage with
  | inserting =>
    simp only [advance] at h
    cases hinsert : o.insert db clock with
    | none =>
      rw [hinsert] at h
      exact .inl h
    | some db' =>
      rw [hinsert] at h
      rcases (insert_hasThread hinsert).mp h with hold | ⟨hid, hkey⟩
      · exact .inl hold
      · exact .inr ⟨hid, hkey, fun id' => Database.insert_none_of_thread hinsert⟩
  | viewing id' =>
    simp only [advance] at h
    split_ifs at h
    · exact .inl h
    · split at h <;> exact .inl h
  | _ => exact .inl h

lemma Opening.advance_keeps (h : db.HasThread id key) : (o.advance clock db stage).1.HasThread id key := by
  cases stage with
  | inserting =>
    simp only [advance]
    cases hinsert : o.insert db clock with
    | none => exact h
    | some db' => exact (insert_hasThread hinsert).mpr (.inl h)
  | viewing id' =>
    simp only [advance]
    split_ifs
    · exact h
    · split <;> exact h
  | _ => exact h

lemma Opening.insert_drawn (hdrawn : o.drawn db = true) (h : o.insert db clock = none) :
    ∃ id, db.HasThread id o.key := by
  cases hthread : db.thread o.key with
  | some c => exact ⟨c.id, Database.thread_hasThread hthread⟩
  | none =>
    simp only [Opening.drawn, Bool.and_eq_true, Option.isNone_iff_eq_none] at hdrawn
    obtain ⟨⟨hid, hactor⟩, hother⟩ := hdrawn
    have hkeys : ∀ u, Permissions.ConversationMember.key (.new o.id u .member clock 0) = (o.id, u) := fun _ => rfl
    simp [Opening.insert, Database.insert, fresh, hid, hthread, hkeys, hactor, hother] at h

/-- A call goes by the thread of its pair, and what it has lost the race to is there. -/
def Opening.Fine (o : Opening) (db : Database) : Stage → Prop
  | .found id | .viewing id | .answered id => db.HasThread id o.key
  | .lost => ∃ id, db.HasThread id o.key
  | .failed => False
  | .looking | .inserting | .refused => True

lemma Opening.Fine.mono (h : o.Fine db stage) (hsub : ∀ id key, db.HasThread id key → db'.HasThread id key) :
    o.Fine db' stage := by
  cases stage with
  | found id | viewing id | answered id => exact hsub id o.key h
  | lost =>
    obtain ⟨id, hid⟩ := h
    exact ⟨id, hsub id o.key hid⟩
  | failed => exact h
  | looking | inserting | refused => trivial

lemma Opening.Fine.advance (h : o.Fine db stage) (hdrawn : stage = .inserting → o.drawn db = true) :
    o.Fine (o.advance clock db stage).1 (o.advance clock db stage).2 := by
  cases stage with
  | looking =>
    cases hopen : db.openThread o.key with
    | none => simp [Opening.advance, hopen, Fine]
    | some c => simpa [Opening.advance, hopen, Fine] using Database.openThread_hasThread hopen
  | inserting =>
    cases hinsert : o.insert db clock with
    | none => simpa [Opening.advance, hinsert, Fine] using insert_drawn (hdrawn rfl) hinsert
    | some db' => simpa [Opening.advance, hinsert, Fine] using (insert_hasThread hinsert).mpr (.inr ⟨rfl, rfl⟩)
  | lost =>
    obtain ⟨id, hid⟩ := h
    cases hthread : db.thread o.key with
    | none => exact absurd hid (Database.thread_none hthread)
    | some c => simpa [Opening.advance, hthread, Fine] using Database.thread_hasThread hthread
  | viewing id =>
    simp only [Opening.advance]
    split_ifs
    · exact h
    · cases hview : db.view id o.actor clock with
      | error e => trivial
      | ok view =>
        have hid : view.conversation.id = id := Database.view_conversation hview
        change db.HasThread view.conversation.id o.key
        rw [hid]
        exact h
  | _ => exact h

end

namespace Threads
variable {s s' : Threads} {e : Event}

structure Sound (s : Threads) : Prop where
  single : s.db.OneThread
  fine (r : ℕ) (o : Opening) (stage : Stage) : s.calls r = some (o, stage) → o.Fine s.db stage

lemma Sound.step (h : Sound s) (hs : Step s e s') : Sound s' := by
  cases hs with
  | @call r o hnew =>
    refine ⟨h.single, fun r' o' stage' hcall' => ?_⟩
    rcases eq_or_ne r' r with rfl | hne
    · simp only [Function.update_self, Option.some.injEq, Prod.mk.injEq] at hcall'
      obtain ⟨rfl, rfl⟩ := hcall'
      trivial
    · exact h.fine r' o' stage' (by simpa [hne] using hcall')
  | @advance r o stage clock hcall hdrawn =>
    refine ⟨fun key id id' hid hid' => ?_, fun r' o' stage' hcall' => ?_⟩
    · -- only an insert adds a thread, and it finds none
      rcases Opening.advance_hasThread hid with hold | ⟨rfl, rfl, hnone⟩ <;>
        rcases Opening.advance_hasThread hid' with hold' | ⟨rfl, hkey, hnone'⟩
      · exact h.single key id id' hold hold'
      · exact absurd (hkey ▸ hold) (hnone' id)
      · exact absurd hold' (hnone id')
      · rfl
    · rcases eq_or_ne r' r with rfl | hne
      · simp only [Function.update_self, Option.some.injEq, Prod.mk.injEq] at hcall'
        obtain ⟨rfl, rfl⟩ := hcall'
        exact (h.fine r' o stage hcall).advance hdrawn
      · exact (h.fine r' o' stage' (by simpa [hne] using hcall')).mono fun id key => Opening.advance_keeps
  | @others db hsame =>
    exact ⟨fun key id id' hid hid' => h.single key id id' ((hsame id key).mp hid) ((hsame id' key).mp hid'),
      fun r o stage hcall => (h.fine r o stage hcall).mono fun id key => (hsame id key).mpr⟩

lemma sound_run {db : Database} (hone : db.OneThread) (hrun : RunWhere Step (fun _ _ => True) ⟨db, fun _ => none⟩ s) :
    Sound s :=
  hrun.invariant ⟨hone, fun _ _ _ hnone => by simp at hnone⟩ fun _ _ _ h _ hs => h.step hs

/-- In every run the calls that are answered are answered with one conversation exactly if they are about one pair. -/
theorem one_thread (db : Database) (hone : db.OneThread) (s : Threads)
    (hrun : RunWhere Step (fun _ _ => True) ⟨db, fun _ => none⟩ s) (r r' : ℕ) (o o' : Opening) (id id' : Uuid)
    (hr : s.calls r = some (o, .answered id)) (hr' : s.calls r' = some (o', .answered id')) :
    id = id' ↔ (o.actor = o'.actor ∧ o.otherId = o'.otherId) ∨ (o.actor = o'.otherId ∧ o.otherId = o'.actor) := by
  have hsound := sound_run hone hrun
  have hid : s.db.HasThread id o.key := hsound.fine r o _ hr
  have hid' : s.db.HasThread id' o'.key := hsound.fine r' o' _ hr'
  rw [← buildDmKey_eq_iff]
  constructor
  · rintro rfl
    exact Option.some.inj (hid.2.symm.trans hid'.2)
  · intro hkey
    have hid'' : s.db.HasThread id' o.key := by
      rw [show o.key = o'.key from hkey]
      exact hid'
    exact hsound.single o.key id id' hid hid''

def advanced (s : Threads) (r : ℕ) : Threads :=
  match s.calls r with
  | some (o, stage) =>
    ⟨(o.advance 0 s.db stage).1, Function.update s.calls r (some (o, (o.advance 0 s.db stage).2))⟩
  | none => s

/-- The calls of `rs` are under way when their turn comes, and draw new ids. -/
def plays : Threads → List ℕ → Bool
  | _, [] => true
  | s, r :: rs => ((s.calls r).any fun call => call.2 ≠ .inserting || call.1.drawn s.db) && (s.advanced r).plays rs

lemma run_plays (rs : List ℕ) (s : Threads) (h : s.plays rs = true) :
    RunWhere Step (fun _ _ => True) s (rs.foldl advanced s) := by
  induction rs generalizing s with
  | nil => exact .refl s
  | cons r rs ih =>
    simp only [plays, Bool.and_eq_true, Option.any_eq_true, Bool.or_eq_true, decide_eq_true_eq] at h
    obtain ⟨⟨⟨o, stage⟩, hcall, hready⟩, hrest⟩ := h
    refine .head (i := .advance r 0) trivial ?_ (ih _ hrest)
    have hstep := @Step.advance s r o stage 0 hcall fun hstage => hready.resolve_left (not_not_intro hstage)
    rw [advanced, hcall]
    exact hstep

namespace Sample

def quiet : Database := ⟨Permissions.Sample.database, fun _ => .initial, fun _ => none⟩

def mine : Opening := ⟨false, 10, 12, 5, 0, by decide⟩

def theirs : Opening := ⟨false, 12, 10, 6, 0, by decide⟩

def both : Threads :=
  ⟨quiet, Function.update (Function.update (fun _ => none) 0 (some (mine, .looking))) 1 (some (theirs, .looking))⟩

/-- Both look before either inserts. -/
def raced : Threads := ([0, 1, 0, 1, 1, 0, 1] : List ℕ).foldl advanced both

lemma quiet_single : quiet.OneThread := fun _ _ _ h _ => absurd h.2 (Option.some_ne_none _).symm

lemma raced_run : RunWhere Step (fun _ _ => True) ⟨quiet, fun _ => none⟩ raced := by
  refine .head (i := .call 0 mine) trivial (.call rfl) ?_
  exact .head (i := .call 1 theirs) trivial (.call rfl) (run_plays _ both (by decide))

end Sample

open Sample in
theorem one_thread_raced : ∃ id id', raced.calls 0 = some (mine, .answered id) ∧
    raced.calls 1 = some (theirs, .answered id') ∧ id = id' :=
  ⟨5, 5, by decide, by decide, (one_thread quiet quiet_single raced raced_run 0 1 mine theirs 5 5 (by decide)
    (by decide)).mpr (.inr ⟨rfl, rfl⟩)⟩

end Threads

end Yappy.Payloads
