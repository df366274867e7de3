import Yappy.Runs

/-!
# Read committed

Requests that run against one database at READ COMMITTED, each SQL statement atomic. A statement
sees the committed rows with what its own transaction has written laid over them. What it writes
stays locked until the transaction ends, and a statement that would write a locked row waits.
-/
namespace Yappy.ReadCommitted

variable {κ : Type*} {ν : κ → Type*}

/-- Finitely many rows, each under its key. -/
structure Rows (ν : κ → Type*) where
  row : (k : κ) → Option (ν k)
  keys : List κ
  covered : ∀ k, row k ≠ none → k ∈ keys

@[ext] lemma Rows.ext {rows rows' : Rows ν} (hrow : rows.row = rows'.row)
    (hkeys : rows.keys = rows'.keys) : rows = rows' := by
  cases rows
  cases rows'
  subst hrow
  subst hkeys
  rfl

instance : CoeFun (Rows ν) fun _ => (k : κ) → Option (ν k) := ⟨Rows.row⟩

/-- What a transaction has written: under each key it touched the row, or none for a deletion. -/
abbrev Changes (ν : κ → Type*) := Rows fun k => Option (ν k)

namespace Rows

def empty : Rows ν := ⟨fun _ => none, [], fun _ h => absurd rfl h⟩

@[simp] lemma empty_apply (k : κ) : (empty : Rows ν) k = none := rfl

section Queries
variable [DecidableEq κ]

def on (keys : List κ) (f : (k : κ) → Option (ν k)) : Rows ν where
  row k := if k ∈ keys then f k else none
  keys := keys
  covered k h := by
    by_contra hk
    exact h (if_neg hk)

lemma on_apply (keys : List κ) (f : (k : κ) → Option (ν k)) (k : κ) :
    on keys f k = if k ∈ keys then f k else none := rfl

lemma on_eq {keys : List κ} {f : (k : κ) → Option (ν k)} {k : κ}
    (h : f k ≠ none → k ∈ keys) : on keys f k = f k := by
  rw [on_apply]
  split_ifs with hk
  · rfl
  · by_contra hne
    exact hk (h (Ne.symm hne))

def single (k : κ) (r : ν k) : Rows ν := on [k] (Function.update (fun _ => none) k (some r))

@[simp] lemma single_self (k : κ) (r : ν k) : single k r k = some r := by
  simp [single, on_apply]

lemma single_of_ne {k k' : κ} (r : ν k) (h : k' ≠ k) : single k r k' = none := by
  simp [single, on_apply, h]

def select (rows : Rows ν) (p : (k : κ) → ν k → Bool) : List κ :=
  rows.keys.dedup.filter fun k => (rows k).any (p k)

lemma mem_select {rows : Rows ν} {p : (k : κ) → ν k → Bool} {k : κ} :
    k ∈ rows.select p ↔ ∃ r, rows k = some r ∧ p k r := by
  rw [select, List.mem_filter, List.mem_dedup]
  constructor
  · rintro ⟨-, h⟩
    exact (Option.any_eq_true ..).mp h
  · rintro ⟨r, hr, hp⟩
    exact ⟨rows.covered k (by simp [hr]), by simp [hr, hp]⟩

end Queries

end Rows

section Writes
variable [DecidableEq κ]

def put (k : κ) (r : ν k) : Changes ν := @Rows.single κ (fun k => Option (ν k)) _ k (some r)

def delete (k : κ) : Changes ν := @Rows.single κ (fun k => Option (ν k)) _ k none

@[simp] lemma put_self (k : κ) (r : ν k) : put k r k = some (some r) :=
  @Rows.single_self κ (fun k => Option (ν k)) _ k (some r)

lemma put_of_ne {k k' : κ} (r : ν k) (h : k' ≠ k) : put k r k' = none :=
  @Rows.single_of_ne κ (fun k => Option (ν k)) _ k k' (some r) h

lemma put_eq_some {k k' : κ} {r : ν k} {x : Option (ν k')} (h : put k r k' = some x) : k' = k := by
  by_contra hne
  rw [put_of_ne r hne] at h
  cases h

@[simp] lemma delete_self (k : κ) : (delete k : Changes ν) k = some none :=
  @Rows.single_self κ (fun k => Option (ν k)) _ k none

lemma delete_of_ne {k k' : κ} (h : k' ≠ k) : (delete k : Changes ν) k' = none :=
  @Rows.single_of_ne κ (fun k => Option (ν k)) _ k k' none h

end Writes

def overlay (changes : Changes ν) (rows : Rows ν) : Rows ν where
  row k := (changes k).getD (rows k)
  keys := changes.keys ++ rows.keys
  covered k h := by
    cases hc : changes k with
    | none =>
      rw [hc, Option.getD_none] at h
      exact List.mem_append_right _ (rows.covered k h)
    | some r => exact List.mem_append_left _ (changes.covered k (by simp [hc]))

def andThen (first later : Changes ν) : Changes ν where
  row k := (later k).or (first k)
  keys := later.keys ++ first.keys
  covered k h := by
    cases hl : later k with
    | none =>
      rw [hl, Option.none_or] at h
      exact List.mem_append_right _ (first.covered k h)
    | some r => exact List.mem_append_left _ (later.covered k (by simp [hl]))

lemma overlay_apply (changes : Changes ν) (rows : Rows ν) (k : κ) :
    overlay changes rows k = (changes k).getD (rows k) := rfl

lemma andThen_apply (first later : Changes ν) (k : κ) :
    andThen first later k = (later k).or (first k) := rfl

@[simp] lemma overlay_empty (rows : Rows ν) : overlay .empty rows = rows := rfl

@[simp] lemma andThen_empty (first : Changes ν) : andThen first .empty = first := rfl

lemma overlay_of_none {changes : Changes ν} {rows : Rows ν} {k : κ} (h : changes k = none) :
    overlay changes rows k = rows k := by
  rw [overlay_apply, h, Option.getD_none]

lemma overlay_of_some {changes : Changes ν} {rows : Rows ν} {k : κ} {r : Option (ν k)}
    (h : changes k = some r) : overlay changes rows k = r := by
  rw [overlay_apply, h, Option.getD_some]

lemma overlay_andThen (first later : Changes ν) (rows : Rows ν) :
    overlay (andThen first later) rows = overlay later (overlay first rows) := by
  refine Rows.ext (funext fun k => ?_) (List.append_assoc ..)
  change ((later k).or (first k)).getD _ = (later k).getD _
  cases later k with
  | none => rfl
  | some r => rfl

inductive Program (ν : κ → Type*)
  | done
  | fail
  /-- One statement: what it writes, and what the request goes on to do with what it read. -/
  | statement (changes : Rows ν → Changes ν) (next : Rows ν → Program ν)
  | commit (next : Program ν)

structure Request (ν : κ → Type*) where
  changes : Changes ν
  program : Program ν

abbrev RequestId := ℕ

structure Server (ν : κ → Type*) where
  rows : Rows ν
  requests : RequestId → Option (Request ν)

inductive Event (ν : κ → Type*)
  | start (id : RequestId) (program : Program ν)
  | statement (id : RequestId)
  | commit (id : RequestId)
  /-- The transaction is rolled back and the request ends: it threw, it lost a deadlock, or the
  process died. -/
  | abort (id : RequestId)

namespace Server

def set (s : Server ν) (id : RequestId) (r : Request ν) : Server ν :=
  { s with requests := Function.update s.requests id (some r) }

/-- No other request has written a row that `changes` would write. -/
def Free (s : Server ν) (id : RequestId) (changes : Changes ν) : Prop :=
  ∀ other r, other ≠ id → s.requests other = some r → ∀ k, r.changes k = none ∨ changes k = none

end Server

inductive Step (accepted : Program ν → Prop) : Server ν → Event ν → Server ν → Prop
  | start {s : Server ν} {id : RequestId} {program : Program ν} (hid : s.requests id = none)
      (hp : accepted program) :
      Step accepted s (.start id program) (s.set id ⟨.empty, program⟩)
  | statement {s : Server ν} {id : RequestId} {changes : Changes ν}
      {writes : Rows ν → Changes ν} {next : Rows ν → Program ν}
      (hr : s.requests id = some ⟨changes, .statement writes next⟩)
      (hfree : s.Free id (writes (overlay changes s.rows))) :
      Step accepted s (.statement id)
        (s.set id ⟨andThen changes (writes (overlay changes s.rows)), next (overlay changes s.rows)⟩)
  | commit {s : Server ν} {id : RequestId} {changes : Changes ν} {next : Program ν}
      (hr : s.requests id = some ⟨changes, .commit next⟩) :
      Step accepted s (.commit id) ({ s with rows := overlay changes s.rows }.set id ⟨.empty, next⟩)
  | abort {s : Server ν} {id : RequestId} {r : Request ν} (hr : s.requests id = some r) :
      Step accepted s (.abort id) (s.set id ⟨.empty, .done⟩)

def Exclusive (s : Server ν) : Prop :=
  ∀ id r, s.requests id = some r → s.Free id r.changes

variable {accepted : Program ν → Prop} {s s' : Server ν} {event : Event ν}

lemma set_requests_self (s : Server ν) (id : RequestId) (r : Request ν) :
    (s.set id r).requests id = some r := Function.update_self ..

lemma set_requests_of_ne {id other : RequestId} (r : Request ν) (h : other ≠ id) :
    (s.set id r).requests other = s.requests other := Function.update_of_ne h ..

lemma empty_free (s : Server ν) (id : RequestId) : s.Free id .empty :=
  fun _ _ _ _ _ => Or.inr rfl

lemma Exclusive.set {id : RequestId} {r : Request ν} (h : Exclusive s)
    (hfree : s.Free id r.changes) : Exclusive (s.set id r) := by
  intro id₁ r₁ h₁ id₂ r₂ hne h₂ k
  by_cases he₁ : id₁ = id
  · subst he₁
    rw [set_requests_self] at h₁
    obtain rfl := Option.some.inj h₁
    rw [set_requests_of_ne _ hne] at h₂
    exact hfree id₂ r₂ hne h₂ k
  · rw [set_requests_of_ne _ he₁] at h₁
    by_cases he₂ : id₂ = id
    · subst he₂
      rw [set_requests_self] at h₂
      obtain rfl := Option.some.inj h₂
      exact (hfree id₁ r₁ he₁ h₁ k).symm
    · rw [set_requests_of_ne _ he₂] at h₂
      exact h id₁ r₁ h₁ id₂ r₂ hne h₂ k

lemma andThen_free {id : RequestId} {first later : Changes ν} (h : s.Free id first)
    (hl : s.Free id later) : s.Free id (andThen first later) := by
  intro other r hne hr k
  rcases h other r hne hr k with hk | hk
  · exact Or.inl hk
  · rcases hl other r hne hr k with hk' | hk'
    · exact Or.inl hk'
    · exact Or.inr (by rw [andThen_apply, hk, hk', Option.none_or])

/-- What it takes for `holds` to hold of the committed rows throughout, and `stands` of them and
each request: every step of a request keeps its own `stands`, a commit keeps `holds`, and a commit
that shares no row with another request does not disturb it. -/
structure Upholds (accepted : Program ν → Prop) (ok : Server ν → Event ν → Prop)
    (holds : Rows ν → Prop) (stands : RequestId → Rows ν → Request ν → Prop) : Prop where
  start : ∀ {s : Server ν} {id program}, ok s (.start id program) → holds s.rows →
    accepted program → stands id s.rows ⟨.empty, program⟩
  statement : ∀ {s : Server ν} {id changes writes next}, ok s (.statement id) →
    s.requests id = some ⟨changes, .statement writes next⟩ → holds s.rows →
    stands id s.rows ⟨changes, .statement writes next⟩ →
    stands id s.rows
      ⟨andThen changes (writes (overlay changes s.rows)), next (overlay changes s.rows)⟩
  commit : ∀ {s : Server ν} {id changes next}, ok s (.commit id) →
    s.requests id = some ⟨changes, .commit next⟩ → holds s.rows →
    stands id s.rows ⟨changes, .commit next⟩ →
    holds (overlay changes s.rows) ∧ stands id (overlay changes s.rows) ⟨.empty, next⟩
  abort : ∀ {rows id}, holds rows → stands id rows ⟨.empty, .done⟩
  stable : ∀ {rows id changes next other r}, other ≠ id → holds rows →
    stands id rows ⟨changes, .commit next⟩ → stands other rows r →
    (∀ k, r.changes k = none ∨ changes k = none) → stands other (overlay changes rows) r

/-- The committed rows, and every request against them. -/
structure Upheld (holds : Rows ν → Prop) (stands : RequestId → Rows ν → Request ν → Prop)
    (s : Server ν) : Prop where
  exclusive : Exclusive s
  holds : holds s.rows
  stands : ∀ id r, s.requests id = some r → stands id s.rows r

variable {ok : Server ν → Event ν → Prop} {holds : Rows ν → Prop}
  {stands : RequestId → Rows ν → Request ν → Prop}

lemma Upheld.set {id : RequestId} {r : Request ν} (h : Upheld holds stands s)
    (hfree : s.Free id r.changes) (hr : stands id s.rows r) :
    Upheld holds stands (s.set id r) where
  exclusive := h.exclusive.set hfree
  holds := h.holds
  stands other r' hr' := by
    by_cases he : other = id
    · subst he
      rw [set_requests_self] at hr'
      obtain rfl := Option.some.inj hr'
      exact hr
    · rw [set_requests_of_ne _ he] at hr'
      exact h.stands other r' hr'

lemma Upholds.step (hu : Upholds accepted ok holds stands) (h : Upheld holds stands s)
    (hok : ok s event) (hs : Step accepted s event s') : Upheld holds stands s' := by
  cases hs with
  | start hid hp => exact h.set (empty_free _ _) (hu.start hok h.holds hp)
  | statement hr hfree =>
    exact h.set (andThen_free (h.exclusive _ _ hr) hfree)
      (hu.statement hok hr h.holds (h.stands _ _ hr))
  | @commit id changes next hr =>
    obtain ⟨hholds, hstands⟩ := hu.commit hok hr h.holds (h.stands _ _ hr)
    refine ⟨Exclusive.set h.exclusive (empty_free _ _), hholds, fun other r' hr' => ?_⟩
    by_cases he : other = id
    · subst he
      rw [set_requests_self] at hr'
      obtain rfl := Option.some.inj hr'
      exact hstands
    · rw [set_requests_of_ne _ he] at hr'
      exact hu.stable he h.holds (h.stands _ _ hr) (h.stands other r' hr')
        (h.exclusive _ _ hr other r' he hr')
  | abort => exact h.set (empty_free _ _) (hu.abort h.holds)

lemma Upholds.run (hu : Upholds accepted ok holds stands) (h : Upheld holds stands s)
    (hrun : RunWhere (Step accepted) ok s s') : Upheld holds stands s' :=
  hrun.invariant h fun _ _ _ h hok hs => hu.step h hok hs

def Server.idle (rows : Rows ν) : Server ν := ⟨rows, fun _ => none⟩

lemma idle_upheld {rows : Rows ν} (h : holds rows) : Upheld holds stands (.idle rows) where
  exclusive _ _ hr := by cases hr
  holds := h
  stands _ _ hr := by cases hr

/-! ## Runs by script -/

def Server.writing (s : Server ν) (id : RequestId) : Changes ν :=
  match s.requests id with
  | some ⟨changes, .statement writes _⟩ => writes (overlay changes s.rows)
  | _ => .empty

/-- The next step of a request that nobody holds up. -/
def Server.advance (s : Server ν) (id : RequestId) : Server ν :=
  match s.requests id with
  | some ⟨changes, .statement writes next⟩ =>
    s.set id ⟨andThen changes (writes (overlay changes s.rows)), next (overlay changes s.rows)⟩
  | some ⟨changes, .commit next⟩ =>
    Server.set { s with rows := overlay changes s.rows } id ⟨.empty, next⟩
  | some ⟨_, .fail⟩ => s.set id ⟨.empty, .done⟩
  | some ⟨_, .done⟩ | none => s

def Server.upcoming (s : Server ν) (id : RequestId) : Event ν :=
  match s.requests id with
  | some ⟨_, .commit _⟩ => .commit id
  | some ⟨_, .fail⟩ => .abort id
  | _ => .statement id

lemma run_advance {id : RequestId} (hfree : s.Free id (s.writing id)) (hok : ok s (s.upcoming id)) :
    RunWhere (Step accepted) ok s (s.advance id) := by
  unfold Server.writing at hfree
  unfold Server.upcoming at hok
  unfold Server.advance
  split
  · rename_i hr
    rw [hr] at hfree hok
    exact .head hok (.statement hr hfree) (.refl _)
  · rename_i hr
    rw [hr] at hok
    exact .head hok (.commit hr) (.refl _)
  · rename_i hr
    rw [hr] at hok
    exact .head hok (.abort hr) (.refl _)
  · exact .refl _
  · exact .refl _

lemma event_ok {id : RequestId}
    (hok : ok s (.statement id) ∧ ok s (.commit id) ∧ ok s (.abort id)) : ok s (s.upcoming id) := by
  unfold Server.upcoming
  split
  · exact hok.2.1
  · exact hok.2.2
  · exact hok.1

def Server.committing (s : Server ν) (id : RequestId) : Bool :=
  match s.requests id with
  | some ⟨_, .commit _⟩ => true
  | _ => false

lemma step_commit {id : RequestId} (h : s.committing id = true) :
    Step accepted s (.commit id) (s.advance id) := by
  unfold Server.committing at h
  unfold Server.advance
  split at h
  · rename_i hr
    rw [hr]
    exact .commit hr
  · cases h

def Server.finished (s : Server ν) (id : RequestId) : Bool :=
  match s.requests id with
  | some ⟨_, .done⟩ | none => true
  | _ => false

lemma finished_done {id : RequestId} {r : Request ν} (h : s.finished id = true)
    (hr : s.requests id = some r) : r.program = .done := by
  unfold Server.finished at h
  rw [hr] at h
  split at h
  · rename_i he
    exact (Option.some.inj he) ▸ rfl
  · rename_i he
    cases he
  · cases h

inductive Move (ν : κ → Type*)
  | start (id : RequestId) (program : Program ν)
  | go (id : RequestId)

def Move.request : Move ν → RequestId
  | .start id _ | .go id => id

def Server.move (s : Server ν) : Move ν → Server ν
  | .start id program => s.set id ⟨.empty, program⟩
  | .go id => s.advance id

def Server.play (s : Server ν) (moves : List (Move ν)) : Server ν := moves.foldl Server.move s

/-- Whether `other` holds no row that `id` writes next. -/
def Server.apart (s : Server ν) (id other : RequestId) : Bool :=
  match s.requests other with
  | none => true
  | some r => r.changes.keys.all fun k => (r.changes k).isNone || (s.writing id k).isNone

/-- Whether a move can be made, among requests of `ids`, and its step meets a condition. -/
def Server.legal (ids : List RequestId) (good : Server ν → RequestId → Bool) (s : Server ν) :
    Move ν → Bool
  | .start id _ => ids.contains id && (s.requests id).isNone
  | .go id => ids.contains id && good s id && ids.all fun other => other == id || s.apart id other

def Server.plays (ids : List RequestId) (good : Server ν → RequestId → Bool) :
    Server ν → List (Move ν) → Bool
  | _, [] => true
  | s, m :: rest => s.legal ids good m && (s.move m).plays ids good rest

lemma free_of_apart {ids : List RequestId} {id : RequestId}
    (hout : ∀ other, other ∉ ids → s.requests other = none)
    (h : ∀ other ∈ ids, other ≠ id → s.apart id other = true) : s.Free id (s.writing id) := by
  intro other r hne hr k
  by_cases hm : other ∈ ids
  · have ha := h other hm hne
    unfold Server.apart at ha
    rw [hr] at ha
    by_cases hk : r.changes k = none
    · exact Or.inl hk
    · have := List.all_eq_true.mp ha k (r.changes.covered k hk)
      simpa [hk] using this
  · rw [hout other hm] at hr
    cases hr

lemma move_requests_out {ids : List RequestId} {id : RequestId} {m : Move ν}
    (hmem : m.request ∈ ids) (hout : id ∉ ids) (hm : s.requests id = none) :
    (s.move m).requests id = none := by
  have h : id ≠ m.request := fun he => hout (he ▸ hmem)
  cases m with
  | start i program => exact (set_requests_of_ne _ h).trans hm
  | go i =>
    unfold Server.move Server.advance
    dsimp only
    split
    · exact (set_requests_of_ne _ h).trans hm
    · exact (set_requests_of_ne _ h).trans hm
    · exact (set_requests_of_ne _ h).trans hm
    · exact hm
    · exact hm

lemma plays_out {ids : List RequestId} {good : Server ν → RequestId → Bool}
    {moves : List (Move ν)} (hout : ∀ other, other ∉ ids → s.requests other = none)
    (h : s.plays ids good moves = true) :
    ∀ other, other ∉ ids → (s.play moves).requests other = none := by
  induction moves generalizing s with
  | nil => exact hout
  | cons m rest ih =>
    rw [Server.plays, Bool.and_eq_true] at h
    have hmem : m.request ∈ ids := by
      cases m <;> simp_all [Server.legal, Move.request]
    exact ih (fun other ho => move_requests_out hmem ho (hout other ho)) h.2

lemma run_play {ids : List RequestId} {good : Server ν → RequestId → Bool}
    {moves : List (Move ν)} (hout : ∀ other, other ∉ ids → s.requests other = none)
    (hstart : ∀ id program, Move.start id program ∈ moves → accepted program)
    (hok : ∀ s id, good s id = true → ok s (.statement id) ∧ ok s (.commit id) ∧ ok s (.abort id))
    (hok' : ∀ s id program, ok s (.start id program)) (h : s.plays ids good moves = true) :
    RunWhere (Step accepted) ok s (s.play moves) := by
  induction moves generalizing s with
  | nil => exact .refl _
  | cons m rest ih =>
    rw [Server.plays, Bool.and_eq_true] at h
    obtain ⟨hlegal, hrest⟩ := h
    cases m with
    | start id program =>
      simp only [Server.legal, Bool.and_eq_true, List.contains_iff_mem,
        Option.isNone_iff_eq_none] at hlegal
      refine .head (hok' s id program) (.start hlegal.2 (hstart id program (by simp)))
        (ih (fun other ho => ?_) (fun i p hp => hstart i p (by simp [hp])) hrest)
      exact move_requests_out (m := .start id program) hlegal.1 ho (hout other ho)
    | go id =>
      simp only [Server.legal, Bool.and_eq_true, List.contains_iff_mem, List.all_eq_true,
        Bool.or_eq_true, beq_iff_eq] at hlegal
      obtain ⟨⟨hmem, hgood⟩, hapart⟩ := hlegal
      have hfree := free_of_apart hout fun other ho hne => (hapart other ho).resolve_left hne
      refine (run_advance hfree (event_ok (hok s id hgood))).trans
        (ih (fun other ho => ?_) (fun i p hp => hstart i p (by simp [hp])) hrest)
      exact move_requests_out (m := .go id) hmem ho (hout other ho)

lemma advance_requests_of_ne {id other : RequestId} (h : other ≠ id) :
    (s.advance id).requests other = s.requests other := by
  unfold Server.advance
  split
  · exact set_requests_of_ne _ h
  · exact set_requests_of_ne _ h
  · exact set_requests_of_ne _ h
  · rfl
  · rfl

lemma advances_requests_of_ne {id other : RequestId} (h : other ≠ id) (n : ℕ) :
    ((Server.advance · id)^[n] s).requests other = s.requests other := by
  induction n with
  | zero => rfl
  | succ n ih => rw [Function.iterate_succ_apply', advance_requests_of_ne h, ih]

lemma run_alone {id : RequestId} (n : ℕ) (hout : ∀ other, other ≠ id → s.requests other = none)
    (hok : ∀ k < n, ok ((Server.advance · id)^[k] s) (((Server.advance · id)^[k] s).upcoming id)) :
    RunWhere (Step accepted) ok s ((Server.advance · id)^[n] s) := by
  induction n with
  | zero => exact .refl s
  | succ n ih =>
    rw [Function.iterate_succ_apply']
    refine (ih fun k hk => hok k (by omega)).trans (run_advance ?_ (hok n (by omega)))
    intro other r hne hr
    rw [advances_requests_of_ne hne, hout other hne] at hr
    cases hr

end Yappy.ReadCommitted
