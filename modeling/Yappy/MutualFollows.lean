import Yappy.Runs

/-!
# Mutual follows

`POST` and `DELETE /follow/:id` and `POST` and `DELETE /block/:id` of `apps/api/src/routes/social.ts`
and the delete of `purgeAccount`, with `sync_follow_mutual` and `block_severs_follows` of
`packages/db/sql/0002_triggers.sql`. Each statement and each update of a trigger takes a snapshot of
what has been committed, which its own transaction has changed, finds its rows there, and waits for
those that another transaction has changed: one that is gone by then is passed over.
-/
namespace Yappy.Follows

variable {User : Type*}

/-- The key of `follows` and `blocks`: who follows or blocks, and whom. -/
abbrev Key (User : Type*) := User × User

structure Follow where
  isMutual : Bool
  /-- When it was inserted, which also tells it from an earlier row of the same key. -/
  since : ℕ

def Between (b k : Key User) : Prop := k = b ∨ k = b.swap

/-- A statement that deletes follows, and its triggers. -/
structure Removal (User : Type*) where
  block : Option (Key User × ℕ)
  /-- What the statement has found in its snapshot and not come to yet. -/
  todo : List (Key User × ℕ)
  gone : List (Key User)
  /-- The rows that `sync_follow_mutual` has still to run for. -/
  queue : List (Key User)
  target : Option (Key User × ℕ)
  cleared : List (Key User)

inductive Tx (User : Type*)
  | asked (k : Key User)
  /-- The row is inserted, and the trigger has not looked for the opposite one. -/
  | inserted (k : Key User) (since : ℕ)
  | found (k : Key User) (since opposite : ℕ)
  | missed (k : Key User) (since : ℕ)
  | matched (k : Key User) (since : ℕ)
  | blocking (b : Key User) (since : ℕ)
  | removing (r : Removal User)

namespace Tx

def locks : Tx User → List (Key User)
  | .inserted k _ | .found k _ _ | .missed k _ => [k]
  | .matched k _ => [k, k.swap]
  | .removing r => r.gone ++ r.cleared
  | .asked _ | .blocking _ _ => []

def following : Tx User → Option (Key User × ℕ)
  | .inserted k since | .found k since _ | .missed k since | .matched k since => some (k, since)
  | .asked _ | .blocking _ _ | .removing _ => none

def looked : Tx User → Option (Key User)
  | .found k _ _ | .missed k _ | .matched k _ => some k
  | .asked _ | .inserted _ _ | .blocking _ _ | .removing _ => none

def Done : Tx User → Prop
  | .missed _ _ | .matched _ _ => True
  | .removing r => r.todo = [] ∧ r.queue = [] ∧ r.target = none
  | .asked _ | .inserted _ _ | .found _ _ _ | .blocking _ _ => False

end Tx

structure State (User : Type*) where
  follows : Key User → Option Follow
  blocks : Set (Key User)
  blocked : List (Key User × ℕ)
  clock : ℕ
  txs : ℕ → Option (Tx User)

inductive Event (User : Type*)
  | ask (id : ℕ) (k : Key User)
  | insert (id : ℕ)
  | exists (id : ℕ)
  | look (id : ℕ)
  | match (id : ℕ)
  | remove (id : ℕ) (keys : List (Key User))
  | block (id : ℕ) (b : Key User)
  | sever (id : ℕ)
  | take (id : ℕ)
  | lookBack (id : ℕ)
  | clear (id : ℕ)
  | commit (id : ℕ)
  | abort (id : ℕ)
  | unblock (b : Key User)

section
variable [DecidableEq User]

def Tx.write (follows : Key User → Option Follow) : Tx User → Key User → Option Follow
  | .missed k since => Function.update follows k (some ⟨false, since⟩)
  | .matched k since => fun k' =>
      if k' = k then some ⟨true, since⟩
      else if k' = k.swap then (follows k').map fun f => { f with isMutual := true }
      else follows k'
  | .removing r => fun k' =>
      if k' ∈ r.gone then none
      else if k' ∈ r.cleared then (follows k').map fun f => { f with isMutual := false }
      else follows k'
  | .asked _ | .inserted _ _ | .found _ _ _ | .blocking _ _ => follows

def Tx.block : Tx User → Option (Key User × ℕ)
  | .blocking b since => some (b, since)
  | .removing r => r.block
  | .asked _ | .inserted _ _ | .found _ _ _ | .missed _ _ | .matched _ _ => none

namespace State

def start : State User := ⟨fun _ => none, ∅, [], 0, fun _ => none⟩

variable (s : State User)

def set (id : ℕ) (tx : Option (Tx User)) : State User := { s with txs := Function.update s.txs id tx }

def Free (id : ℕ) (k : Key User) : Prop := ∀ id' tx, id' ≠ id → s.txs id' = some tx → k ∉ tx.locks

def Same (k : Key User) (since : ℕ) : Prop := (s.follows k).map Follow.since = some since

instance (k : Key User) (since : ℕ) : Decidable (s.Same k since) := inferInstanceAs (Decidable (_ = _))

def find (keys : List (Key User)) : List (Key User × ℕ) :=
  keys.filterMap fun k => (s.follows k).map fun f => (k, f.since)

def look (k : Key User) (since : ℕ) : Tx User :=
  match s.follows k.swap with
  | some f => .found k since f.since
  | none => .missed k since

def lookBack (r : Removal User) (k : Key User) : Option (Key User × ℕ) :=
  if k.swap ∈ r.gone then none else (s.follows k.swap).map fun f => (k.swap, f.since)

def commit (tx : Tx User) : State User where
  follows := tx.write s.follows
  blocks := { b | b ∈ s.blocks ∨ b ∈ tx.block.map Prod.fst }
  blocked := tx.block.toList ++ s.blocked
  clock := s.clock
  txs := s.txs

end State

inductive Step : State User → Event User → State User → Prop
  /-- `assertNotBlocked` -/
  | ask {s : State User} {id : ℕ} {k : Key User} (h : s.txs id = none) (hself : k.1 ≠ k.2)
      (hfree : ∀ b ∈ s.blocks, ¬ Between b k) : Step s (.ask id k) (s.set id (some (.asked k)))
  | insert {s : State User} {id : ℕ} {k : Key User} (h : s.txs id = some (.asked k)) (hfree : s.Free id k)
      (hnone : s.follows k = none) :
      Step s (.insert id) { s.set id (some (.inserted k s.clock)) with clock := s.clock + 1 }
  | exists {s : State User} {id : ℕ} {k : Key User} (h : s.txs id = some (.asked k)) (hfree : s.Free id k)
      (hsome : s.follows k ≠ none) : Step s (.exists id) (s.set id none)
  | look {s : State User} {id since : ℕ} {k : Key User} (h : s.txs id = some (.inserted k since)) :
      Step s (.look id) (s.set id (some (s.look k since)))
  | match {s : State User} {id since opposite : ℕ} {k : Key User} (h : s.txs id = some (.found k since opposite))
      (hfree : s.Free id k.swap) :
      Step s (.match id) (s.set id (some (if s.Same k.swap opposite then .matched k since else .missed k since)))
  | remove {s : State User} {id : ℕ} {keys : List (Key User)} (h : s.txs id = none) (hkeys : keys.Nodup) :
      Step s (.remove id keys) (s.set id (some (.removing ⟨none, s.find keys, [], [], none, []⟩)))
  | block {s : State User} {id : ℕ} {b : Key User} (h : s.txs id = none) (hself : b.1 ≠ b.2) (hnew : b ∉ s.blocks)
      (hfree : ∀ id' tx since, s.txs id' = some tx → tx.block ≠ some (b, since)) :
      Step s (.block id b) { s.set id (some (.blocking b s.clock)) with clock := s.clock + 1 }
  | sever {s : State User} {id since : ℕ} {b : Key User} (h : s.txs id = some (.blocking b since)) :
      Step s (.sever id) (s.set id (some (.removing ⟨some (b, since), s.find [b, b.swap], [], [], none, []⟩)))
  | take {s : State User} {id since : ℕ} {r : Removal User} {k : Key User} {todo : List (Key User × ℕ)}
      (h : s.txs id = some (.removing r)) (htodo : r.todo = (k, since) :: todo) (hfree : s.Free id k) :
      Step s (.take id) (s.set id (some (.removing (if s.Same k since
        then { r with todo := todo, gone := k :: r.gone, queue := r.queue ++ [k] } else { r with todo := todo }))))
  | lookBack {s : State User} {id : ℕ} {r : Removal User} {k : Key User} {queue : List (Key User)}
      (h : s.txs id = some (.removing r)) (htodo : r.todo = []) (htarget : r.target = none)
      (hqueue : r.queue = k :: queue) :
      Step s (.lookBack id) (s.set id (some (.removing { r with queue := queue, target := s.lookBack r k })))
  | clear {s : State User} {id since : ℕ} {r : Removal User} {k : Key User} (h : s.txs id = some (.removing r))
      (htarget : r.target = some (k, since)) (hfree : s.Free id k) :
      Step s (.clear id) (s.set id (some (.removing (if s.Same k since
        then { r with target := none, cleared := k :: r.cleared } else { r with target := none }))))
  | commit {s : State User} {id : ℕ} {tx : Tx User} (h : s.txs id = some tx) (hdone : tx.Done) :
      Step s (.commit id) ((s.commit tx).set id none)
  | abort {s : State User} {id : ℕ} {tx : Tx User} (h : s.txs id = some tx) : Step s (.abort id) (s.set id none)
  | unblock {s : State User} {b : Key User} : Step s (.unblock b) { s with blocks := s.blocks \ {b} }

/-- Nobody else who has looked for an opposite follow has this one uncommitted. -/
def State.Unseen (s : State User) (id : ℕ) (k : Key User) : Prop :=
  ∀ id' tx, id' ≠ id → s.txs id' = some tx → tx.looked ≠ some k

/-- The uncommitted follows between the two users were inserted after the block. -/
def State.After (s : State User) (b : Key User × ℕ) : Prop :=
  ∀ id tx k since, s.txs id = some tx → tx.following = some (k, since) → Between b.1 k → b.2 < since

/-- An insert's trigger looks while nobody who has looked has the opposite follow uncommitted, and a
block's while no follow between the two from before the block is uncommitted. -/
def InTurn (s : State User) : Event User → Prop
  | .look id => ∀ k since, s.txs id = some (.inserted k since) → s.Unseen id k.swap
  | .sever id => ∀ b since, s.txs id = some (.blocking b since) → s.After (b, since)
  | _ => True

end

section
variable {s s' : State User} {id : ℕ} {tx : Tx User}
  {follows follows' : Key User → Option Follow}

lemma set_txs (s : State User) (id other : ℕ) (next : Option (Tx User)) :
    (s.set id next).txs other = if other = id then next else s.txs other := by
  simp only [State.set, Function.update_apply]

lemma swap_ne {k : Key User} (hself : k.1 ≠ k.2) : k.swap ≠ k := fun h => hself (congrArg Prod.snd h)

structure Removal.Sound (follows : Key User → Option Follow) (r : Removal User) : Prop where
  present : ∀ k ∈ r.gone, follows k ≠ none
  queue : ∀ k ∈ r.queue, k ∈ r.gone
  cleared : ∀ k ∈ r.cleared, k.swap ∈ r.gone
  target : ∀ k since, r.target = some (k, since) →
    k.swap ∈ r.gone ∧ ∀ f, follows k = some f → f.since = since
  settled : ∀ k ∈ r.gone, k ∉ r.queue → (∀ since, r.target ≠ some (k.swap, since)) →
    k.swap ∈ r.gone ∨ k.swap ∈ r.cleared ∨ follows k.swap = none

def Tx.Sound (follows : Key User → Option Follow) : Tx User → Prop
  | .asked k => k.1 ≠ k.2
  | .inserted k _ => k.1 ≠ k.2 ∧ follows k = none
  | .found k _ opposite => k.1 ≠ k.2 ∧ follows k = none ∧ ∀ f, follows k.swap = some f → f.since = opposite
  | .missed k _ => k.1 ≠ k.2 ∧ follows k = none ∧ follows k.swap = none
  | .matched k _ => k.1 ≠ k.2 ∧ follows k = none ∧ follows k.swap ≠ none
  | .blocking _ _ => True
  | .removing r => r.Sound follows

def Tx.Watches (k' : Key User) : Tx User → Prop
  | .found k _ _ | .missed k _ => k' = k.swap
  | .removing r => k'.swap ∈ r.gone
  | .asked _ | .inserted _ _ | .matched _ _ | .blocking _ _ => False

/-- What others write keeps it so, where they leave the locked rows alone and put no new row where the
transaction watches. -/
theorem Tx.Sound.kept (h : tx.Sound follows) (hlocks : ∀ k ∈ tx.locks, follows' k = follows k)
    (hwatch : ∀ k f, tx.Watches k → follows' k = some f → ∃ f', follows k = some f' ∧ f'.since = f.since) :
    tx.Sound follows' := by
  have hnone : ∀ k, tx.Watches k → follows k = none → follows' k = none := by
    intro k hk hfollows
    by_contra hne
    obtain ⟨f, hf⟩ := Option.ne_none_iff_exists'.mp hne
    obtain ⟨f', hf', -⟩ := hwatch k f hk hf
    cases hfollows.symm.trans hf'
  cases tx with
  | asked k => exact h
  | blocking => trivial
  | inserted k since => exact ⟨h.1, (hlocks k (by simp [Tx.locks])).trans h.2⟩
  | found k since opposite =>
    refine ⟨h.1, (hlocks k (by simp [Tx.locks])).trans h.2.1, fun f hf => ?_⟩
    obtain ⟨f', hf', hsince⟩ := hwatch k.swap f rfl hf
    exact hsince.symm.trans (h.2.2 f' hf')
  | missed k since => exact ⟨h.1, (hlocks k (by simp [Tx.locks])).trans h.2.1, hnone k.swap rfl h.2.2⟩
  | matched k since =>
    refine ⟨h.1, (hlocks k (by simp [Tx.locks])).trans h.2.1, ?_⟩
    rw [hlocks k.swap (by simp [Tx.locks])]
    exact h.2.2
  | removing r =>
    refine ⟨fun k hk => ?_, h.queue, h.cleared, fun k since htarget => ?_, fun k hk hqueue htarget => ?_⟩
    · rw [hlocks k (List.mem_append_left _ hk)]
      exact h.present k hk
    · obtain ⟨hgone, hsince⟩ := h.target k since htarget
      refine ⟨hgone, fun f hf => ?_⟩
      obtain ⟨f', hf', hsame⟩ := hwatch k f hgone hf
      exact hsame.symm.trans (hsince f' hf')
    · rcases h.settled k hk hqueue htarget with hgone | hcleared | hfollows
      · exact .inl hgone
      · exact .inr (.inl hcleared)
      · exact .inr (.inr (hnone k.swap hk hfollows))

/-- A row keeps its flag exactly where its opposite is. -/
def Mutual (follows : Key User → Option Follow) : Prop :=
  ∀ k f, follows k = some f → f.isMutual = (follows k.swap).isSome

structure Consistent (s : State User) : Prop where
  flags : Mutual s.follows
  alone : ∀ id id' tx tx' k, s.txs id = some tx → s.txs id' = some tx' → k ∈ tx.locks → k ∈ tx'.locks → id = id'
  apart : ∀ id id' tx tx' k, s.txs id = some tx → s.txs id' = some tx' → tx.looked = some k →
    tx'.looked = some k.swap → id = id'
  sound : ∀ id tx, s.txs id = some tx → tx.Sound s.follows

lemma start_consistent : Consistent (.start : State User) where
  flags _ _ h := by cases h
  alone _ _ _ _ _ h := by cases h
  apart _ _ _ _ _ h := by cases h
  sound _ _ h := by cases h

lemma Consistent.free (h : Consistent s) {k : Key User} (htx : s.txs id = some tx) (hk : k ∈ tx.locks) :
    s.Free id k :=
  fun id' tx' hne htx' hk' => hne (h.alone id' id tx' tx k htx' htx hk' hk)

lemma Consistent.unseen (h : Consistent s) {k : Key User} (htx : s.txs id = some tx) (hk : tx.looked = some k) :
    s.Unseen id k.swap :=
  fun id' tx' hne htx' hk' => hne (h.apart id id' tx tx' k htx htx' hk hk').symm

lemma Consistent.goes {next : Option (Tx User)} (h : Consistent s) (hfollows : s'.follows = s.follows)
    (htxs : s'.txs = (s.set id next).txs)
    (hsound : ∀ tx, next = some tx → tx.Sound s.follows)
    (hfree : ∀ tx, next = some tx → ∀ k ∈ tx.locks, s.Free id k)
    (hunseen : ∀ tx, next = some tx → ∀ k, tx.looked = some k → s.Unseen id k.swap) : Consistent s' where
  flags := hfollows ▸ h.flags
  alone id₁ id₂ tx tx' k htx htx' hk hk' := by
    rw [htxs, set_txs] at htx htx'
    split_ifs at htx htx' with h₁ h₂ h₂
    · exact h₁.trans h₂.symm
    · exact absurd hk' (hfree tx htx k hk id₂ tx' h₂ htx')
    · exact absurd hk (hfree tx' htx' k hk' id₁ tx h₁ htx)
    · exact h.alone id₁ id₂ tx tx' k htx htx' hk hk'
  apart id₁ id₂ tx tx' k htx htx' hk hk' := by
    rw [htxs, set_txs] at htx htx'
    split_ifs at htx htx' with h₁ h₂ h₂
    · exact h₁.trans h₂.symm
    · exact absurd hk' (hunseen tx htx k hk id₂ tx' h₂ htx')
    · have hunseen' := hunseen tx' htx' k.swap hk' id₁ tx h₁ htx
      rw [Prod.swap_swap] at hunseen'
      exact absurd hk hunseen'
    · exact h.apart id₁ id₂ tx tx' k htx htx' hk hk'
  sound id' tx htx := by
    rw [htxs, set_txs] at htx
    rw [hfollows]
    split_ifs at htx
    · exact hsound tx htx
    · exact h.sound id' tx htx

lemma Consistent.next {tx : Tx User} (h : Consistent s) (hfollows : s'.follows = s.follows)
    (htxs : s'.txs = (s.set id (some tx)).txs) (hsound : tx.Sound s.follows) (hfree : ∀ k ∈ tx.locks, s.Free id k)
    (hunseen : ∀ k, tx.looked = some k → s.Unseen id k.swap) : Consistent s' := by
  refine h.goes hfollows htxs (fun tx' hnext => ?_) (fun tx' hnext => ?_) fun tx' hnext => ?_ <;>
    obtain rfl := Option.some.inj hnext
  · exact hsound
  · exact hfree
  · exact hunseen

/-- No transaction is about to commit a follow where another watches: it would have looked for the
opposite one, or keep it locked. -/
theorem Consistent.unwatched (h : Consistent s) {id' since : ℕ} {tx' : Tx User} {k : Key User}
    (htx : s.txs id = some tx) (htx' : s.txs id' = some tx') (hne : id' ≠ id) (hdone : tx.Done)
    (hfollowing : tx.following = some (k, since)) : ¬ tx'.Watches k := by
  intro hwatch
  have hlooked : tx.looked = some k := by
    cases tx with
    | missed | matched =>
      obtain ⟨rfl, -⟩ := Prod.mk.inj (Option.some.inj hfollowing)
      rfl
    | inserted | found => exact hdone.elim
    | asked | blocking | removing => cases hfollowing
  cases tx' with
  | found k' | missed k' =>
    refine h.unseen htx' rfl id tx hne.symm htx ?_
    rw [hlooked, hwatch]
  | removing r =>
    have hsound := h.sound id tx htx
    have hpresent : s.follows k.swap ≠ none := (h.sound id' _ htx').present k.swap hwatch
    cases tx with
    | missed =>
      obtain ⟨rfl, -⟩ := Prod.mk.inj (Option.some.inj hfollowing)
      exact hpresent hsound.2.2
    | matched =>
      obtain ⟨rfl, -⟩ := Prod.mk.inj (Option.some.inj hfollowing)
      exact h.free htx' (List.mem_append_left _ hwatch) id _ hne.symm htx (by simp [Tx.locks])
    | inserted | found => exact hdone.elim
    | asked | blocking | removing => cases hfollowing
  | asked | inserted | matched | blocking => exact hwatch

lemma start_sound (r : Removal User) (hgone : r.gone = []) (hqueue : r.queue = []) (htarget : r.target = none)
    (hcleared : r.cleared = []) : (Tx.removing r).Sound follows := by
  obtain ⟨block, todo, gone, queue, target, cleared⟩ := r
  dsimp only at hgone hqueue htarget hcleared
  subst hgone hqueue htarget hcleared
  exact ⟨nofun, nofun, nofun, nofun, nofun⟩

lemma Removal.Sound.takes {r : Removal User} {k : Key User} (h : r.Sound follows) (todo : List (Key User × ℕ))
    (hk : follows k ≠ none) :
    ({ r with todo := todo, gone := k :: r.gone, queue := r.queue ++ [k] } : Removal User).Sound follows where
  present k' hk' := by
    rcases List.mem_cons.mp hk' with rfl | hk'
    · exact hk
    · exact h.present k' hk'
  queue k' hk' := by
    rcases List.mem_append.mp hk' with hk' | hk'
    · exact List.mem_cons_of_mem _ (h.queue k' hk')
    · exact List.mem_cons.mpr (.inl (List.mem_singleton.mp hk'))
  cleared k' hk' := List.mem_cons_of_mem _ (h.cleared k' hk')
  target k' since htarget := ⟨List.mem_cons_of_mem _ (h.target k' since htarget).1, (h.target k' since htarget).2⟩
  settled k' hk' hqueue htarget := by
    simp only [List.mem_append, List.mem_singleton, not_or] at hqueue
    rcases List.mem_cons.mp hk' with rfl | hk'
    · exact absurd rfl hqueue.2
    · rcases h.settled k' hk' hqueue.1 htarget with hgone | hrest
      · exact .inl (List.mem_cons_of_mem _ hgone)
      · exact .inr hrest

def Removal.Covers (follows : Key User → Option Follow) (r : Removal User) (b : Key User × ℕ) : Prop :=
  ∀ k f, Between b.1 k → follows k = some f → b.2 < f.since ∨ k ∈ r.gone ∨ (k, f.since) ∈ r.todo

/-- The follows between the two users of a block are newer than the block, once it has committed, and
until then those it will leave are. -/
structure Severed (s : State User) : Prop where
  rows : ∀ k f, s.follows k = some f → f.since < s.clock
  following : ∀ id tx record, s.txs id = some tx → tx.following = some record → record.2 < s.clock
  block : ∀ id tx b, s.txs id = some tx → tx.block = some b → b.2 < s.clock
  blocked : ∀ b ∈ s.blocked, b.2 < s.clock
  newer : ∀ b ∈ s.blocked, ∀ k f, Between b.1 k → s.follows k = some f → b.2 < f.since
  after : ∀ b ∈ s.blocked, s.After b
  severing : ∀ id r b, s.txs id = some (.removing r) → r.block = some b → r.Covers s.follows b ∧ s.After b

lemma start_severed : Severed (.start : State User) where
  rows _ _ h := by cases h
  following _ _ _ h := by cases h
  block _ _ _ h := by cases h
  blocked _ h := by cases h
  newer _ h := by cases h
  after _ h := by cases h
  severing _ _ _ h := by cases h

lemma Severed.goes {next : Option (Tx User)} (h : Severed s) (hfollows : s'.follows = s.follows)
    (hblocked : s'.blocked = s.blocked) (hclock : s.clock ≤ s'.clock) (htxs : s'.txs = (s.set id next).txs)
    (hfollowing : ∀ tx record, next = some tx → tx.following = some record →
      (∃ tx, s.txs id = some tx ∧ tx.following = some record) ∨ (record.2 = s.clock ∧ s.clock < s'.clock))
    (hblock : ∀ tx b, next = some tx → tx.block = some b → b.2 < s'.clock)
    (hsevering : ∀ r b, next = some (.removing r) → r.block = some b →
      b.2 < s.clock ∧ r.Covers s.follows b ∧ s.After b) : Severed s' := by
  -- A block that is known by now is older than anything inserted from here on.
  have hafter : ∀ b : Key User × ℕ, b.2 < s.clock → s.After b → s'.After b := by
    intro b hlt hold id' tx k since htx hrecord hbetween
    rw [htxs, set_txs] at htx
    split_ifs at htx with hid
    · rcases hfollowing tx (k, since) htx hrecord with ⟨tx', htx', hrecord'⟩ | ⟨hnow, -⟩
      · exact hold id tx' k since htx' hrecord' hbetween
      · exact hlt.trans_eq hnow.symm
    · exact hold id' tx k since htx hrecord hbetween
  refine ⟨fun k f hf => ?_, fun id' tx record htx hrecord => ?_, fun id' tx b htx hb => ?_, fun b hb => ?_,
    fun b hb k f hbetween hf => ?_, fun b hb => ?_, fun id' r b hr hb => ?_⟩
  · rw [hfollows] at hf
    exact (h.rows k f hf).trans_le hclock
  · rw [htxs, set_txs] at htx
    split_ifs at htx
    · rcases hfollowing tx record htx hrecord with ⟨tx', htx', hrecord'⟩ | ⟨hnow, hlt⟩
      · exact (h.following id tx' record htx' hrecord').trans_le hclock
      · omega
    · exact (h.following id' tx record htx hrecord).trans_le hclock
  · rw [htxs, set_txs] at htx
    split_ifs at htx
    · exact hblock tx b htx hb
    · exact (h.block id' tx b htx hb).trans_le hclock
  · rw [hblocked] at hb
    exact (h.blocked b hb).trans_le hclock
  · rw [hblocked] at hb
    rw [hfollows] at hf
    exact h.newer b hb k f hbetween hf
  · rw [hblocked] at hb
    exact hafter b (h.blocked b hb) (h.after b hb)
  · rw [htxs, set_txs] at hr
    rw [hfollows]
    split_ifs at hr
    · obtain ⟨hlt, hcovers, hold⟩ := hsevering r b hr hb
      exact ⟨hcovers, hafter b hlt hold⟩
    · obtain ⟨hcovers, hold⟩ := h.severing id' r b hr hb
      exact ⟨hcovers, hafter b (h.block id' _ b hr hb) hold⟩

lemma Severed.next {tx' : Tx User} (h : Severed s) (htx : s.txs id = some tx)
    (hfollowing : tx'.following = tx.following) (hblock : tx'.block = tx.block)
    (hsevering : ∀ r b, tx' = .removing r → r.block = some b → r.Covers s.follows b ∧ s.After b) :
    Severed (s.set id (some tx')) := by
  refine h.goes rfl rfl le_rfl rfl (fun tx₁ record hnext hrecord => ?_) (fun tx₁ b hnext hb => ?_)
    fun r b hnext hb => ?_ <;> obtain rfl := Option.some.inj hnext
  · exact .inl ⟨tx, htx, hfollowing.symm.trans hrecord⟩
  · exact h.block id tx b htx (hblock.symm.trans hb)
  · exact ⟨h.block id tx b htx (hblock.symm.trans hb), hsevering r b rfl hb⟩

end

section
variable [DecidableEq User] {s s' : State User} {event : Event User} {id : ℕ} {tx : Tx User}
  {follows : Key User → Option Follow}

lemma write_kept {k : Key User} (hk : k ∉ tx.locks) : tx.write follows k = follows k := by
  cases tx with
  | missed k' since =>
    have hne : k ≠ k' := fun heq => hk (by simp [Tx.locks, heq])
    exact Function.update_of_ne hne _ _
  | matched k' since =>
    simp only [Tx.locks, List.mem_cons, List.not_mem_nil, or_false, not_or] at hk
    simp only [Tx.write, hk.1, hk.2, if_false]
  | removing r =>
    simp only [Tx.locks, List.mem_append, not_or] at hk
    simp only [Tx.write, hk.1, hk.2, if_false]
  | asked | inserted | found | blocking => rfl

lemma write_since {k : Key User} {f : Follow} (hf : tx.write follows k = some f) :
    (∃ f', follows k = some f' ∧ f'.since = f.since) ∨ (tx.Done ∧ tx.following = some (k, f.since)) := by
  cases tx with
  | missed k' since =>
    simp only [Tx.write, Function.update_apply] at hf
    split_ifs at hf with hk
    · obtain rfl := Option.some.inj hf
      exact .inr ⟨trivial, by rw [hk]; rfl⟩
    · exact .inl ⟨f, hf, rfl⟩
  | matched k' since =>
    simp only [Tx.write] at hf
    split_ifs at hf with hk hswap
    · obtain rfl := Option.some.inj hf
      exact .inr ⟨trivial, by rw [hk]; rfl⟩
    · obtain ⟨f', hf', rfl⟩ := Option.map_eq_some_iff.mp hf
      exact .inl ⟨f', hf', rfl⟩
    · exact .inl ⟨f, hf, rfl⟩
  | removing r =>
    simp only [Tx.write] at hf
    split_ifs at hf with hgone hcleared
    · obtain ⟨f', hf', rfl⟩ := Option.map_eq_some_iff.mp hf
      exact .inl ⟨f', hf', rfl⟩
    · exact .inl ⟨f, hf, rfl⟩
  | asked | inserted | found | blocking => exact .inl ⟨f, hf, rfl⟩

lemma missed_mutual {k : Key User} {since : ℕ} (h : Mutual follows) (hsound : (Tx.missed k since).Sound follows) :
    Mutual ((Tx.missed k since).write follows) := by
  obtain ⟨hself, hnone, hswap⟩ := hsound
  intro k' f hf
  simp only [Tx.write, Function.update_apply] at hf ⊢
  split_ifs at hf with hk
  · obtain rfl := Option.some.inj hf
    rw [hk, if_neg (swap_ne hself), hswap]
    rfl
  · have hne : k'.swap ≠ k := by
      rintro rfl
      rw [Prod.swap_swap] at hswap
      cases hswap.symm.trans hf
    rw [if_neg hne]
    exact h k' f hf

lemma matched_mutual {k : Key User} {since : ℕ} (h : Mutual follows) (hsound : (Tx.matched k since).Sound follows) :
    Mutual ((Tx.matched k since).write follows) := by
  obtain ⟨hself, hnone, hswap⟩ := hsound
  intro k' f hf
  simp only [Tx.write] at hf ⊢
  split_ifs at hf with hk hk'
  · obtain rfl := Option.some.inj hf
    rw [hk, if_neg (swap_ne hself), if_pos rfl, Option.isSome_map, Option.isSome_iff_ne_none.mpr hswap]
  · obtain ⟨f', hf', rfl⟩ := Option.map_eq_some_iff.mp hf
    rw [hk', Prod.swap_swap, if_pos rfl]
    rfl
  · have hne : k'.swap ≠ k := fun heq => hk' (by rw [← heq, Prod.swap_swap])
    have hne' : k'.swap ≠ k.swap := fun heq => hk (Prod.swap_injective heq)
    rw [if_neg hne, if_neg hne']
    exact h k' f hf

lemma removing_mutual {r : Removal User} (h : Mutual follows) (hsound : r.Sound follows)
    (hdone : (Tx.removing r).Done) : Mutual ((Tx.removing r).write follows) := by
  obtain ⟨-, hqueue, htarget⟩ := hdone
  intro k f hf
  simp only [Tx.write] at hf ⊢
  split_ifs at hf with hgone hcleared
  · obtain ⟨f', hf', rfl⟩ := Option.map_eq_some_iff.mp hf
    rw [if_pos (hsound.cleared k hcleared)]
    rfl
  · have hswap : k.swap ∉ r.gone := by
      intro hk
      rcases hsound.settled k.swap hk (by simp [hqueue]) (by simp [htarget]) with hg | hc | hnone
      · exact hgone hg
      · exact hcleared hc
      · rw [Prod.swap_swap] at hnone
        cases hnone.symm.trans hf
    rw [if_neg hswap, h k f hf]
    split_ifs
    · exact Option.isSome_map.symm
    · rfl

lemma write_mutual (h : Mutual follows) (hsound : tx.Sound follows) (hdone : tx.Done) :
    Mutual (tx.write follows) := by
  cases tx with
  | missed => exact missed_mutual h hsound
  | matched => exact matched_mutual h hsound
  | removing => exact removing_mutual h hsound hdone
  | asked | inserted | found | blocking => exact h

lemma Consistent.commits (h : Consistent s) (htx : s.txs id = some tx) (hdone : tx.Done) :
    Consistent ((s.commit tx).set id none) where
  flags := write_mutual h.flags (h.sound id tx htx) hdone
  alone id₁ id₂ tx₁ tx₂ k h₁ h₂ := by
    rw [set_txs] at h₁ h₂
    split_ifs at h₁ h₂
    exact h.alone id₁ id₂ tx₁ tx₂ k h₁ h₂
  apart id₁ id₂ tx₁ tx₂ k h₁ h₂ := by
    rw [set_txs] at h₁ h₂
    split_ifs at h₁ h₂
    exact h.apart id₁ id₂ tx₁ tx₂ k h₁ h₂
  sound id' tx' htx' := by
    rw [set_txs] at htx'
    split_ifs at htx' with hne
    have hsound := h.sound id tx htx
    refine (h.sound id' tx' htx').kept (fun k hk => write_kept (h.free htx' hk id tx (Ne.symm hne) htx)) ?_
    intro k f hwatch hf
    rcases write_since hf with hold | ⟨-, hfollowing⟩
    · exact hold
    · exact (h.unwatched htx htx' hne hdone hfollowing hwatch).elim

lemma Removal.Sound.looksBack {r : Removal User} {k : Key User} {queue : List (Key User)}
    (h : r.Sound s.follows) (htarget : r.target = none) (hqueue : r.queue = k :: queue) :
    ({ r with queue := queue, target := s.lookBack r k } : Removal User).Sound s.follows where
  present := h.present
  queue k' hk' := h.queue k' (hqueue ▸ List.mem_cons_of_mem _ hk')
  cleared := h.cleared
  target k' since hfound := by
    dsimp only [State.lookBack] at hfound
    split_ifs at hfound with hgone
    obtain ⟨f, hf, heq⟩ := Option.map_eq_some_iff.mp hfound
    obtain ⟨rfl, rfl⟩ := Prod.mk.inj heq
    refine ⟨?_, fun f' hf' => congrArg Follow.since (Option.some.inj (hf'.symm.trans hf))⟩
    rw [Prod.swap_swap]
    exact h.queue k (hqueue ▸ List.mem_cons_self)
  settled k' hk' hnot hfound := by
    dsimp only [State.lookBack] at hnot hfound
    by_cases hk : k' = k
    · subst hk
      by_cases hgone : k'.swap ∈ r.gone
      · exact .inl hgone
      · cases hf : s.follows k'.swap with
        | none => exact .inr (.inr rfl)
        | some f => exact absurd (by rw [if_neg hgone, hf]; rfl) (hfound f.since)
    · refine h.settled k' hk' ?_ (by simp [htarget])
      rw [hqueue]
      exact fun hmem => (List.mem_cons.mp hmem).elim hk hnot

lemma Removal.Sound.clears {r : Removal User} {k : Key User} {since : ℕ} (h : r.Sound s.follows)
    (htarget : r.target = some (k, since)) :
    (if s.Same k since then { r with target := none, cleared := k :: r.cleared }
      else { r with target := none } : Removal User).Sound s.follows := by
  obtain ⟨hswap, hsince⟩ := h.target k since htarget
  split_ifs with hsame
  · refine ⟨h.present, h.queue, fun k' hk' => ?_, nofun, fun k' hk' hqueue _ => ?_⟩
    · rcases List.mem_cons.mp hk' with rfl | hk'
      · exact hswap
      · exact h.cleared k' hk'
    · by_cases hk : k'.swap = k
      · exact .inr (.inl (List.mem_cons.mpr (.inl hk)))
      · rcases h.settled k' hk' hqueue (fun since' heq => hk (by
          rw [htarget] at heq
          exact (congrArg Prod.fst (Option.some.inj heq)).symm)) with hgone | hcleared | hnone
        · exact .inl hgone
        · exact .inr (.inl (List.mem_cons_of_mem _ hcleared))
        · exact .inr (.inr hnone)
  · refine ⟨h.present, h.queue, h.cleared, nofun, fun k' hk' hqueue _ => ?_⟩
    by_cases hk : k'.swap = k
    · refine .inr (.inr ?_)
      rw [hk]
      by_contra hne
      obtain ⟨f, hf⟩ := Option.ne_none_iff_exists'.mp hne
      exact hsame (by rw [State.Same, hf, Option.map_some, hsince f hf])
    · exact h.settled k' hk' hqueue fun since' heq => hk (by
        rw [htarget] at heq
        exact (congrArg Prod.fst (Option.some.inj heq)).symm)

lemma step_consistent (h : Consistent s) (hturn : InTurn s event) (hs : Step s event s') : Consistent s' := by
  cases hs with
  | ask hnone hself hfree => exact h.next rfl rfl hself nofun nofun
  | @insert id k htx hfree hnone =>
    refine h.next rfl rfl ⟨h.sound id _ htx, hnone⟩ (fun k' hk' => ?_) nofun
    rw [List.mem_singleton.mp hk']
    exact hfree
  | «exists» | abort => exact h.goes rfl rfl nofun nofun nofun
  | @look id since k htx =>
    have hown : s.Free id k := h.free htx (by simp [Tx.locks])
    obtain ⟨hself, hnone⟩ := h.sound id _ htx
    refine h.next rfl rfl ?_ (fun k' hk' => ?_) fun k' hk' => ?_
    · unfold State.look
      cases hswap : s.follows k.swap with
      | none => exact ⟨hself, hnone, hswap⟩
      | some f => exact ⟨hself, hnone, fun f' hf' => congrArg Follow.since (Option.some.inj (hf'.symm.trans hswap))⟩
    · unfold State.look at hk'
      cases hswap : s.follows k.swap <;> rw [hswap] at hk' <;> rwa [List.mem_singleton.mp hk']
    · have hk : k' = k := by
        unfold State.look at hk'
        cases hswap : s.follows k.swap <;> rw [hswap] at hk' <;> exact (Option.some.inj hk').symm
      rw [hk]
      exact hturn k since htx
  | @«match» id since opposite k htx hfree =>
    have hown : s.Free id k := h.free htx (by simp [Tx.locks])
    have hunseen : s.Unseen id k.swap := h.unseen htx rfl
    obtain ⟨hself, hnone, hsame⟩ := h.sound id _ htx
    split_ifs with hopposite
    · refine h.next rfl rfl ⟨hself, hnone, fun hswap => ?_⟩ (fun k' hk' => ?_) fun k' hk' => ?_
      · rw [State.Same, hswap] at hopposite
        cases hopposite
      · rcases List.mem_cons.mp hk' with rfl | hk'
        · exact hown
        · rwa [List.mem_singleton.mp hk']
      · obtain rfl := Option.some.inj hk'
        exact hunseen
    · refine h.next rfl rfl ⟨hself, hnone, ?_⟩ (fun k' hk' => ?_) fun k' hk' => ?_
      · by_contra hne
        obtain ⟨f, hf⟩ := Option.ne_none_iff_exists'.mp hne
        exact hopposite (by rw [State.Same, hf, Option.map_some, hsame f hf])
      · rwa [List.mem_singleton.mp hk']
      · obtain rfl := Option.some.inj hk'
        exact hunseen
  | remove | sever => exact h.next rfl rfl (start_sound _ rfl rfl rfl rfl) nofun nofun
  | block => exact h.next rfl rfl trivial nofun nofun
  | @take id since r k todo htx htodo hfree =>
    have hr : r.Sound s.follows := h.sound id _ htx
    split_ifs with hsame
    · refine h.next rfl rfl (hr.takes todo fun hnone => ?_) (fun k' hk' => ?_) nofun
      · rw [State.Same, hnone] at hsame
        cases hsame
      · rcases List.mem_cons.mp hk' with rfl | hk'
        · exact hfree
        · exact h.free htx hk'
    · exact h.next rfl rfl ⟨hr.present, hr.queue, hr.cleared, hr.target, hr.settled⟩ (fun k' hk' => h.free htx hk')
        nofun
  | @lookBack id r k queue htx htodo htarget hqueue =>
    have hr : r.Sound s.follows := h.sound id _ htx
    exact h.next rfl rfl (hr.looksBack htarget hqueue) (fun k' hk' => h.free htx hk') nofun
  | @clear id since r k htx htarget hfree =>
    have hr : r.Sound s.follows := h.sound id _ htx
    refine h.next rfl rfl (hr.clears htarget) (fun k' hk' => ?_) nofun
    split_ifs at hk'
    · simp only [Tx.locks, List.mem_append, List.mem_cons] at hk'
      rcases hk' with hgone | rfl | hcleared
      · exact h.free htx (List.mem_append_left _ hgone)
      · exact hfree
      · exact h.free htx (List.mem_append_right _ hcleared)
    · exact h.free htx hk'
  | commit htx hdone => exact h.commits htx hdone
  | unblock => exact ⟨h.flags, h.alone, h.apart, h.sound⟩

lemma Severed.commits (h : Severed s) (htx : s.txs id = some tx) (hdone : tx.Done) :
    Severed ((s.commit tx).set id none) := by
  have hothers : ∀ id' tx', ((s.commit tx).set id none).txs id' = some tx' → s.txs id' = some tx' := by
    intro id' tx' htx'
    rw [set_txs] at htx'
    split_ifs at htx'
    exact htx'
  have hmore : ∀ b, s.After b → ((s.commit tx).set id none).After b :=
    fun b hb id' tx' k since htx' => hb id' tx' k since (hothers id' tx' htx')
  -- A row that is written was there with the same stamp, or it is the follow that the transaction inserted.
  have hrow : ∀ (b : Key User × ℕ) k f, s.After b → Between b.1 k → tx.write s.follows k = some f →
      b.2 < f.since ∨ ∃ f', s.follows k = some f' ∧ f'.since = f.since := by
    intro b k f hb hbetween hf
    rcases write_since hf with hold | ⟨-, hfollowing⟩
    · exact .inr hold
    · exact .inl (hb id tx k f.since htx hfollowing hbetween)
  have hsevers : ∀ b, tx.block = some b → s.After b ∧
      ∀ k f, Between b.1 k → tx.write s.follows k = some f → b.2 < f.since := by
    intro b hb
    cases tx with
    | removing r =>
      obtain ⟨hcovers, hb'⟩ := h.severing id r b htx hb
      refine ⟨hb', fun k f hbetween hf => ?_⟩
      rcases hrow b k f hb' hbetween hf with hlt | ⟨f', hf', hsince⟩
      · exact hlt
      rcases hcovers k f' hbetween hf' with hlt | hgone | htodo
      · exact hsince ▸ hlt
      · simp only [Tx.write, hgone, if_true] at hf
        cases hf
      · rw [hdone.1] at htodo
        cases htodo
    | blocking => exact hdone.elim
    | asked | inserted | found | missed | matched => cases hb
  refine ⟨fun k f hf => ?_, fun id' tx' record htx' => h.following id' tx' record (hothers id' tx' htx'),
    fun id' tx' b htx' => h.block id' tx' b (hothers id' tx' htx'), fun b hb => ?_, fun b hb k f hbetween hf => ?_,
    fun b hb => hmore b ?_, fun id' r b hr hb => ?_⟩
  · rcases write_since hf with ⟨f', hf', hsince⟩ | ⟨-, hfollowing⟩
    · exact hsince ▸ h.rows k f' hf'
    · exact h.following id tx (k, f.since) htx hfollowing
  · rcases List.mem_append.mp hb with hb | hb
    · exact h.block id tx b htx (Option.mem_toList.mp hb)
    · exact h.blocked b hb
  · rcases List.mem_append.mp hb with hb | hb
    · exact (hsevers b (Option.mem_toList.mp hb)).2 k f hbetween hf
    · rcases hrow b k f (h.after b hb) hbetween hf with hlt | ⟨f', hf', hsince⟩
      · exact hlt
      · exact hsince ▸ h.newer b hb k f' hbetween hf'
  · rcases List.mem_append.mp hb with hb | hb
    · exact (hsevers b (Option.mem_toList.mp hb)).1
    · exact h.after b hb
  · obtain ⟨hcovers, hb'⟩ := h.severing id' r b (hothers id' _ hr) hb
    refine ⟨fun k f hbetween hf => ?_, hmore b hb'⟩
    rcases hrow b k f hb' hbetween hf with hlt | ⟨f', hf', hsince⟩
    · exact .inl hlt
    · rw [← hsince]
      exact hcovers k f' hbetween hf'

lemma step_severed (h : Severed s) (hturn : InTurn s event) (hs : Step s event s') : Severed s' := by
  cases hs with
  | ask => exact h.goes rfl rfl le_rfl rfl (by rintro _ _ ⟨⟩ ⟨⟩) (by rintro _ _ ⟨⟩ ⟨⟩) nofun
  | @insert id k htx hfree hnone =>
    refine h.goes rfl rfl (Nat.le_succ _) rfl (fun tx record hnext hrecord => ?_) (by rintro _ _ ⟨⟩ ⟨⟩) nofun
    obtain rfl := Option.some.inj hnext
    obtain rfl := Option.some.inj hrecord
    exact .inr ⟨rfl, Nat.lt_succ_self _⟩
  | «exists» | abort => exact h.goes rfl rfl le_rfl rfl nofun nofun nofun
  | @look id since k htx =>
    unfold State.look
    cases s.follows k.swap with
    | none => exact h.next htx rfl rfl nofun
    | some f => exact h.next htx rfl rfl nofun
  | @«match» id since opposite k htx hfree =>
    split_ifs
    · exact h.next htx rfl rfl nofun
    · exact h.next htx rfl rfl nofun
  | remove hnone hkeys =>
    exact h.goes rfl rfl le_rfl rfl (by rintro _ _ ⟨⟩ ⟨⟩) (by rintro _ _ ⟨⟩ ⟨⟩) (by rintro _ _ ⟨⟩ ⟨⟩)
  | @block id b hnone hself hnew hfree =>
    refine h.goes rfl rfl (Nat.le_succ _) rfl (by rintro _ _ ⟨⟩ ⟨⟩) (fun tx b' hnext hb => ?_) nofun
    obtain rfl := Option.some.inj hnext
    obtain rfl := Option.some.inj hb
    exact Nat.lt_succ_self _
  | @sever id since b htx =>
    refine h.next htx rfl rfl fun r b' hr hb => ?_
    obtain rfl := Tx.removing.inj hr
    obtain rfl := Option.some.inj hb
    refine ⟨fun k f hbetween hf => .inr (.inr ?_), hturn b since htx⟩
    rw [State.find, List.mem_filterMap]
    exact ⟨k, by rcases hbetween with rfl | rfl <;> simp, by rw [hf]; rfl⟩
  | @take id since r k todo htx htodo hfree =>
    split_ifs with hsame
    · refine h.next htx rfl rfl fun r' b hr hb => ?_
      obtain rfl := Tx.removing.inj hr
      obtain ⟨hcovers, hb'⟩ := h.severing id r b htx hb
      refine ⟨fun k' f hbetween hf => ?_, hb'⟩
      rcases hcovers k' f hbetween hf with hlt | hgone | hmem
      · exact .inl hlt
      · exact .inr (.inl (List.mem_cons_of_mem _ hgone))
      · rw [htodo] at hmem
        rcases List.mem_cons.mp hmem with heq | hmem
        · exact .inr (.inl (List.mem_cons.mpr (.inl (congrArg Prod.fst heq))))
        · exact .inr (.inr hmem)
    · refine h.next htx rfl rfl fun r' b hr hb => ?_
      obtain rfl := Tx.removing.inj hr
      obtain ⟨hcovers, hb'⟩ := h.severing id r b htx hb
      refine ⟨fun k' f hbetween hf => ?_, hb'⟩
      rcases hcovers k' f hbetween hf with hlt | hgone | hmem
      · exact .inl hlt
      · exact .inr (.inl hgone)
      · rw [htodo] at hmem
        rcases List.mem_cons.mp hmem with heq | hmem
        · obtain ⟨rfl, rfl⟩ := Prod.mk.inj heq
          exact absurd (by rw [State.Same, hf]; rfl) hsame
        · exact .inr (.inr hmem)
  | @lookBack id r k queue htx htodo htarget hqueue =>
    refine h.next htx rfl rfl fun r' b hr hb => ?_
    obtain rfl := Tx.removing.inj hr
    exact h.severing id r b htx hb
  | @clear id since r k htx htarget hfree =>
    split_ifs
    · refine h.next htx rfl rfl fun r' b hr hb => ?_
      obtain rfl := Tx.removing.inj hr
      exact h.severing id r b htx hb
    · refine h.next htx rfl rfl fun r' b hr hb => ?_
      obtain rfl := Tx.removing.inj hr
      exact h.severing id r b htx hb
  | commit htx hdone => exact h.commits htx hdone
  | unblock => exact ⟨h.rows, h.following, h.block, h.blocked, h.newer, h.after, h.severing⟩

/-- Every follow has the flag exactly where the opposite one is there, and none between two users is
older than a block between them. -/
def State.Right (s : State User) : Prop :=
  Mutual s.follows ∧ ∀ b ∈ s.blocked, ∀ k f, Between b.1 k → s.follows k = some f → b.2 < f.since

/-- Where the triggers run in turn, the flags are right and blocked users are severed, whatever
transactions are open. -/
theorem follows_right (hrun : RunWhere Step InTurn .start s) : s.Right := by
  have hboth : Consistent s ∧ Severed s := by
    refine @RunWhere.invariant _ _ _ _ (fun s : State User => Consistent s ∧ Severed s) _ _ hrun
      ⟨start_consistent, start_severed⟩ fun s event s' h hturn hs => ?_
    exact ⟨step_consistent h.1 hturn hs, step_severed h.2 hturn hs⟩
  exact ⟨hboth.1.flags, hboth.2.newer⟩

end

namespace Sample

def held (s : State ℕ) (tx tx' : Option (Tx ℕ)) : State ℕ := (s.set 0 tx).set 1 tx'

variable {s : State ℕ} {event : Event ℕ} {tx tx' next : Option (Tx ℕ)}

lemma held_left : (held s tx tx').set 0 next = held s next tx' := by
  unfold held State.set
  dsimp only
  rw [Function.update_comm (by decide), Function.update_idem]

lemma held_right : (held s tx tx').set 1 next = held s tx next := by
  unfold held State.set
  dsimp only
  rw [Function.update_idem]

lemma step_left (h : Step (held s tx tx') event ((held s tx tx').set 0 next)) :
    Step (held s tx tx') event (held s next tx') := by
  rwa [held_left] at h

lemma step_right (h : Step (held s tx tx') event ((held s tx tx').set 1 next)) :
    Step (held s tx tx') event (held s tx next) := by
  rwa [held_right] at h

lemma held_some {id : ℕ} {other : Tx ℕ} (hs : s.txs = fun _ => none) (hother : (held s tx tx').txs id = some other) :
    (id = 0 ∧ tx = some other) ∨ (id = 1 ∧ tx' = some other) := by
  unfold held at hother
  rw [set_txs, set_txs, hs] at hother
  split_ifs at hother with h₁ h₀
  · exact .inr ⟨h₁, hother⟩
  · exact .inl ⟨h₀, hother⟩

lemma free_left {k : Key ℕ} (hs : s.txs = fun _ => none) (hk : ∀ other, tx' = some other → k ∉ other.locks) :
    (held s tx tx').Free 0 k := by
  intro id other hne hother
  rcases held_some hs hother with ⟨rfl, -⟩ | ⟨-, hother⟩
  · exact absurd rfl hne
  · exact hk other hother

lemma free_right {k : Key ℕ} (hs : s.txs = fun _ => none) (hk : ∀ other, tx = some other → k ∉ other.locks) :
    (held s tx tx').Free 1 k := by
  intro id other hne hother
  rcases held_some hs hother with ⟨-, hother⟩ | ⟨rfl, -⟩
  · exact hk other hother
  · exact absurd rfl hne

lemma unseen {k : Key ℕ} (hs : s.txs = fun _ => none) : (held s tx none).Unseen 0 k := by
  intro id other hne hother
  rcases held_some hs hother with ⟨rfl, -⟩ | ⟨-, hother⟩
  · exact absurd rfl hne
  · cases hother

def tick (s : State ℕ) : State ℕ := { s with clock := s.clock + 1 }

lemma asks {k : Key ℕ} (hself : k.1 ≠ k.2) (hfree : ∀ b ∈ s.blocks, ¬ Between b k) :
    Step (held s none tx') (.ask 0 k) (held s (some (.asked k)) tx') := step_left (.ask rfl hself hfree)

lemma inserts {k : Key ℕ} (hs : s.txs = fun _ => none) (hk : ∀ other, tx' = some other → k ∉ other.locks)
    (hnone : s.follows k = none) :
    Step (held s (some (.asked k)) tx') (.insert 0) (held (tick s) (some (.inserted k s.clock)) tx') := by
  have h : Step (held s (some (.asked k)) tx') (.insert 0)
      { (held s (some (.asked k)) tx').set 0 (some (.inserted k s.clock)) with clock := s.clock + 1 } :=
    .insert rfl (free_left hs hk) hnone
  rwa [held_left] at h

lemma looks {k : Key ℕ} {since : ℕ} : Step (held s (some (.inserted k since)) tx') (.look 0)
    (held s (some (s.look k since)) tx') := step_left (.look rfl)

lemma finds {k : Key ℕ} {since opposite : ℕ} (hs : s.txs = fun _ => none)
    (hfree : ∀ other, tx' = some other → k.swap ∉ other.locks) (hsame : s.Same k.swap opposite) :
    Step (held s (some (.found k since opposite)) tx') (.match 0) (held s (some (.matched k since)) tx') := by
  have h := @Step.match _ _ (held s (some (.found k since opposite)) tx') 0 since opposite k rfl (free_left hs hfree)
  have hsame' : (held s (some (.found k since opposite)) tx').Same k.swap opposite := hsame
  rwa [if_pos hsame', held_left] at h

lemma commits {done : Tx ℕ} (hdone : done.Done) :
    Step (held s (some done) tx') (.commit 0) (held (s.commit done) none tx') := by
  have h : Step (held s (some done) tx') (.commit 0) (((held s (some done) tx').commit done).set 0 none) :=
    .commit rfl hdone
  have heq : (held s (some done) tx').commit done = held (s.commit done) (some done) tx' := rfl
  rwa [heq, held_left] at h

lemma commits_right {done : Tx ℕ} (hdone : done.Done) :
    Step (held s tx (some done)) (.commit 1) (held (s.commit done) tx none) := by
  have h : Step (held s tx (some done)) (.commit 1) (((held s tx (some done)).commit done).set 1 none) :=
    .commit rfl hdone
  have heq : (held s tx (some done)).commit done = held (s.commit done) tx (some done) := rfl
  rwa [heq, held_right] at h

lemma idle (hs : s.txs = fun _ => none) (id : ℕ) : (held s none none).txs id = none := by
  unfold held
  rw [set_txs, set_txs, hs]
  split_ifs <;> rfl

def followed : State ℕ := (tick .start).commit (.missed (1, 2) 0)

def answered : State ℕ := (tick followed).commit (.matched (2, 1) 1)

def severing : Tx ℕ := .removing ⟨some ((2, 1), 1), [], [], [], none, []⟩

lemma start_held : State.start = held .start none none := by
  unfold held State.set State.start
  simp

lemma start_run {ok : State ℕ → Event ℕ → Prop} : RunWhere Step ok .start (held .start none none) := by
  rw [← start_held]
  exact .refl _

lemma followed_run : RunWhere Step InTurn .start (held followed none none) := by
  have h₁ : Step (held .start none none) (.ask 0 (1, 2)) _ := asks (by decide) nofun
  have h₂ : Step (held .start (some (.asked (1, 2))) none) (.insert 0) _ := inserts rfl nofun rfl
  have h₃ : Step (held (tick .start) (some (.inserted (1, 2) 0)) none) (.look 0) _ := looks
  have h₄ : Step (held (tick .start) (some (.missed (1, 2) 0)) none) (.commit 0) (held followed none none) :=
    commits trivial
  exact (((start_run.on h₁ trivial).on h₂ trivial).on h₃ fun _ _ _ => unseen rfl).on h₄ trivial

lemma answered_run : RunWhere Step InTurn .start (held answered none none) := by
  have h₁ : Step (held followed none none) (.ask 0 (2, 1)) _ :=
    asks (by decide) fun b hb => by rcases hb with hb | hb <;> cases hb
  have h₂ : Step (held followed (some (.asked (2, 1))) none) (.insert 0) _ := inserts rfl nofun rfl
  have h₃ : Step (held (tick followed) (some (.inserted (2, 1) 1)) none) (.look 0) _ := looks
  have h₄ : Step (held (tick followed) (some (.found (2, 1) 1 0)) none) (.match 0) _ := finds rfl nofun rfl
  have h₅ : Step (held (tick followed) (some (.matched (2, 1) 1)) none) (.commit 0) (held answered none none) :=
    commits trivial
  have hlook := ((followed_run.on h₁ trivial).on h₂ trivial).on h₃ fun _ _ _ => unseen rfl
  exact (hlook.on h₄ trivial).on h₅ trivial

end Sample

open Sample in
theorem follows_right_answered : ∃ s : State ℕ, RunWhere Step InTurn .start s ∧
    (s.follows (1, 2)).map Follow.isMutual = some true ∧ s.Right :=
  ⟨_, answered_run, rfl, follows_right answered_run⟩

open Sample in
/-- Of two follow-backs at once neither finds the other, and a block at the same time as a follow does not
find it either. -/
theorem follows_missed :
    (∃ s : State ℕ, RunWhere Step (fun _ _ => True) .start s ∧ (∀ id, s.txs id = none) ∧ ¬ Mutual s.follows) ∧
    ∃ s : State ℕ, RunWhere Step (fun _ _ => True) .start s ∧ (∀ id, s.txs id = none) ∧
      ∃ b ∈ s.blocked, ∃ f, s.follows b.1.swap = some f ∧ f.since < b.2 := by
  have h₁ : Step (held .start none none) (.ask 0 (1, 2)) _ := asks (by decide) nofun
  have h₂ : Step (held .start (some (.asked (1, 2))) none) (.insert 0) _ := inserts rfl nofun rfl
  have hinserted := ((@start_run fun _ _ => True).on h₁ trivial).on h₂ trivial
  constructor
  · have h₃ : Step (held (tick .start) (some (.inserted (1, 2) 0)) none) (.ask 1 (2, 1))
        (held (tick .start) (some (.inserted (1, 2) 0)) (some (.asked (2, 1)))) :=
      step_right (.ask rfl (by decide) nofun)
    have h₄ : Step (held (tick .start) (some (.inserted (1, 2) 0)) (some (.asked (2, 1)))) (.insert 1)
        (held (tick (tick .start)) (some (.inserted (1, 2) 0)) (some (.inserted (2, 1) 1))) := by
      have h := @Step.insert _ _ (held (tick .start) (some (.inserted (1, 2) 0)) (some (.asked (2, 1)))) 1 (2, 1) rfl
        (free_right rfl (by rintro _ ⟨⟩; decide)) rfl
      rwa [held_right] at h
    have h₅ : Step (held (tick (tick .start)) (some (.inserted (1, 2) 0)) (some (.inserted (2, 1) 1))) (.look 0)
        (held (tick (tick .start)) (some (.missed (1, 2) 0)) (some (.inserted (2, 1) 1))) := looks
    have h₆ : Step (held (tick (tick .start)) (some (.missed (1, 2) 0)) (some (.inserted (2, 1) 1))) (.look 1)
        (held (tick (tick .start)) (some (.missed (1, 2) 0)) (some (.missed (2, 1) 1))) := step_right (.look rfl)
    have h₇ : Step (held (tick (tick .start)) (some (.missed (1, 2) 0)) (some (.missed (2, 1) 1))) (.commit 0) _ :=
      commits trivial
    have h₈ : Step (held ((tick (tick .start)).commit (.missed (1, 2) 0)) none (some (.missed (2, 1) 1))) (.commit 1) _ :=
      commits_right trivial
    have hboth := (((hinserted.on h₃ trivial).on h₄ trivial).on h₅ trivial).on h₆ trivial
    refine ⟨_, (hboth.on h₇ trivial).on h₈ trivial, idle rfl, fun hmutual => ?_⟩
    have hflag := hmutual (1, 2) ⟨false, 0⟩ rfl
    cases hflag
  · have h₃ : Step (held (tick .start) (some (.inserted (1, 2) 0)) none) (.look 0)
        (held (tick .start) (some (.missed (1, 2) 0)) none) := looks
    have h₄ : Step (held (tick .start) (some (.missed (1, 2) 0)) none) (.block 1 (2, 1))
        (held (tick (tick .start)) (some (.missed (1, 2) 0)) (some (.blocking (2, 1) 1))) := by
      have h := @Step.block _ _ (held (tick .start) (some (.missed (1, 2) 0)) none) 1 (2, 1) rfl (by decide) nofun
        fun id' other since hother => by
          rcases held_some rfl hother with ⟨-, h⟩ | ⟨-, h⟩ <;> cases h
          nofun
      rwa [held_right] at h
    have h₅ : Step (held (tick (tick .start)) (some (.missed (1, 2) 0)) (some (.blocking (2, 1) 1))) (.sever 1)
        (held (tick (tick .start)) (some (.missed (1, 2) 0)) (some severing)) := step_right (.sever rfl)
    have h₆ : Step (held (tick (tick .start)) (some (.missed (1, 2) 0)) (some severing)) (.commit 1) _ :=
      commits_right ⟨rfl, rfl, rfl⟩
    have h₇ : Step (held ((tick (tick .start)).commit severing) (some (.missed (1, 2) 0)) none) (.commit 0) _ :=
      commits trivial
    have hblocking := ((hinserted.on h₃ trivial).on h₄ trivial).on h₅ trivial
    exact ⟨_, (hblocking.on h₆ trivial).on h₇ trivial, idle rfl, ((2, 1), 1), .head _, ⟨false, 0⟩, rfl, by decide⟩

end Yappy.Follows
