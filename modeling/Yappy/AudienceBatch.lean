import Yappy.MutualFollows

/-!
# Audiences

`areMutuals`, `passesAudience` and `passesAudienceBatch` of `apps/api/src/lib/access.ts`. The first two
look at the row of the account that is asked about, the last at the rows of the one who asks.
-/
namespace Yappy.Follows

variable {User : Type*}

inductive PrivacyAudience
  | everyone
  | contacts
  | nobody
  deriving DecidableEq

structure Candidate (User : Type*) where
  id : User
  audience : PrivacyAudience

section
variable [DecidableEq User]

def areMutuals (follows : Key User → Option Follow) (a b : User) : Bool :=
  ((follows (a, b)).map Follow.isMutual).getD false

def passesAudience (follows : Key User → Option Follow) (audience : PrivacyAudience)
    (ownerId viewerId : User) : Bool :=
  if ownerId = viewerId then true
  else match audience with
    | .everyone => true
    | .nobody => false
    | .contacts => areMutuals follows ownerId viewerId

/-- The loop of `passesAudienceBatch`: `passing` and `needMutual`. -/
def sift (viewerId : User) : List (Candidate User) → Finset User × List User → Finset User × List User
  | [], found => found
  | row :: rows, (passing, needMutual) =>
    if row.id = viewerId ∨ row.audience = .everyone then sift viewerId rows (insert row.id passing, needMutual)
    else if row.audience = .contacts then sift viewerId rows (passing, needMutual ++ [row.id])
    else sift viewerId rows (passing, needMutual)

def passesAudienceBatch (follows : Key User → Option Follow) (viewerId : User)
    (rows : List (Candidate User)) : Finset User :=
  let found := sift viewerId rows (∅, [])
  if found.2 = [] then found.1
  else found.1 ∪ (found.2.filter fun id => areMutuals follows viewerId id).toFinset

end

/-- The follow is there, and flagged as mutual. -/
def Flagged (follows : Key User → Option Follow) (k : Key User) : Prop :=
  ∃ f, follows k = some f ∧ f.isMutual = true

/-- The opposite of a flagged follow is flagged. -/
def Paired (follows : Key User → Option Follow) : Prop := ∀ k, Flagged follows k → Flagged follows k.swap

structure Removal.Fair (follows : Key User → Option Follow) (r : Removal User) : Prop where
  queue : ∀ k ∈ r.queue, k ∈ r.gone
  cleared : ∀ k ∈ r.cleared, k.swap ∈ r.gone
  target : ∀ k since, r.target = some (k, since) →
    k.swap ∈ r.gone ∧ ∀ f, follows k = some f → f.isMutual = true → f.since = since
  settled : ∀ k ∈ r.gone, k ∉ r.queue → (∀ since, r.target ≠ some (k.swap, since)) →
    k.swap ∈ r.gone ∨ k.swap ∈ r.cleared ∨ ¬ Flagged follows k.swap

def Tx.Fair (follows : Key User → Option Follow) : Tx User → Prop
  | .inserted k _ | .found k _ _ | .missed k _ => follows k = none
  | .matched k _ => follows k.swap ≠ none
  | .removing r => r.Fair follows
  | .asked _ | .blocking _ _ => True

structure Fair (s : State User) : Prop where
  paired : Paired s.follows
  alone : ∀ id id' tx tx' k, s.txs id = some tx → s.txs id' = some tx' → k ∈ tx.locks → k ∈ tx'.locks → id = id'
  fair : ∀ id tx, s.txs id = some tx → tx.Fair s.follows

section
variable {s s' : State User} {id : ℕ} {tx : Tx User} {follows follows' : Key User → Option Follow}
  {r : Removal User} {k : Key User} {since : ℕ}

lemma Tx.Fair.kept (h : tx.Fair follows) (hlocks : ∀ k ∈ tx.locks, follows' k = follows k)
    (hflag : ∀ k f, k.swap ∈ tx.locks → follows' k = some f → f.isMutual = true → follows k = some f) :
    tx.Fair follows' := by
  cases tx with
  | asked | blocking => trivial
  | inserted | found | missed | matched => simp_all [Tx.Fair, Tx.locks]
  | removing r =>
    obtain ⟨hqueue, hcleared, htargets, hsettled⟩ := h
    simp only [Tx.locks, List.mem_append] at hflag
    constructor <;> grind [Flagged]

lemma Fair.free (h : Fair s) (htx : s.txs id = some tx) (hk : k ∈ tx.locks) : s.Free id k :=
  fun id' tx' hne htx' hk' => hne (h.alone id' id tx' tx k htx' htx hk' hk)

lemma Fair.goes {next : Option (Tx User)} (h : Fair s) (hfollows : s'.follows = s.follows)
    (htxs : s'.txs = (s.set id next).txs) (hfair : ∀ tx, next = some tx → tx.Fair s.follows)
    (hfree : ∀ tx, next = some tx → ∀ k ∈ tx.locks, s.Free id k) : Fair s' := by
  obtain ⟨hpaired, halone, hall⟩ := h
  refine ⟨hfollows ▸ hpaired, ?_, ?_⟩ <;> simp only [htxs, set_txs, hfollows] <;> grind [State.Free]

lemma Fair.next {tx : Tx User} (h : Fair s) (hfollows : s'.follows = s.follows)
    (htxs : s'.txs = (s.set id (some tx)).txs) (hfair : tx.Fair s.follows) (hfree : ∀ k ∈ tx.locks, s.Free id k) :
    Fair s' := by
  refine h.goes hfollows htxs (fun tx' hnext => ?_) fun tx' hnext => ?_ <;> obtain rfl := Option.some.inj hnext
  · exact hfair
  · exact hfree

lemma Removal.Fair.takes (h : r.Fair follows) (todo : List (Key User × ℕ)) :
    ({ r with todo := todo, gone := k :: r.gone, queue := r.queue ++ [k] } : Removal User).Fair follows := by
  obtain ⟨hqueue, hcleared, htarget, hsettled⟩ := h
  constructor <;> grind

lemma Removal.Fair.clears (h : r.Fair s.follows) (htarget : r.target = some (k, since)) :
    (if s.Same k since then { r with target := none, cleared := k :: r.cleared }
      else { r with target := none } : Removal User).Fair s.follows := by
  obtain ⟨hqueue, hcleared, htargets, hsettled⟩ := h
  split_ifs with hsame <;> constructor <;> grind [State.Same, Flagged]

end

section
variable [DecidableEq User] {s s' : State User} {event : Event User} {id : ℕ} {tx : Tx User}
  {follows : Key User → Option Follow} {r : Removal User} {k : Key User} {since : ℕ}

lemma Removal.Fair.looksBack {queue : List (Key User)} (h : r.Fair s.follows) (htarget : r.target = none)
    (hqueue : r.queue = k :: queue) :
    ({ r with queue := queue, target := s.lookBack r k } : Removal User).Fair s.follows := by
  obtain ⟨hq, hcleared, -, hsettled⟩ := h
  have hk : k ∈ r.gone := hq k (by simp [hqueue])
  have hsettled' : ∀ k' ∈ r.gone, k' ∉ queue → k' ≠ k →
      k'.swap ∈ r.gone ∨ k'.swap ∈ r.cleared ∨ ¬ Flagged s.follows k'.swap :=
    fun k' hk' hnot hne => hsettled k' hk' (by simp [hqueue, hne, hnot]) (by simp [htarget])
  unfold State.lookBack
  split_ifs with hgone
  · constructor <;> grind
  · cases hf : s.follows k.swap with
    | none => constructor <;> grind [Flagged]
    | some f =>
      refine ⟨by grind, hcleared, ?_, fun k' hk' hnot hfound => hsettled' k' hk' hnot ?_⟩
      · grind [Prod.swap_swap]
      · rintro rfl
        exact hfound f.since rfl

/-- A flag comes only with the lock on the opposite follow. -/
lemma write_flagged {f : Follow} (hk : k.swap ∉ tx.locks) (hf : tx.write follows k = some f)
    (hmutual : f.isMutual = true) : follows k = some f := by
  have hswap : ∀ k', k' = k.swap ↔ k = k'.swap := fun k' => by rw [← Prod.swap_inj, Prod.swap_swap, eq_comm]
  cases tx <;> simp only [Tx.write, Tx.locks, Function.update_apply] at hk hf <;>
    grind [Option.map_eq_some_iff, Prod.swap_swap]

lemma flagged_missed (hnone : follows k = none) (k' : Key User) :
    Flagged ((Tx.missed k since).write follows) k' ↔ Flagged follows k' := by
  simp only [Flagged, Tx.write, Function.update_apply]
  grind

lemma flagged_matched (hswap : follows k.swap ≠ none) (k' : Key User) :
    Flagged ((Tx.matched k since).write follows) k' ↔ k' = k ∨ k' = k.swap ∨ Flagged follows k' := by
  obtain ⟨f, hf⟩ := Option.ne_none_iff_exists'.mp hswap
  simp only [Flagged, Tx.write]
  split_ifs with h₁ h₂
  · simp [h₁]
  · simp [h₂, hf]
  · simp [h₁, h₂]

lemma flagged_removing (k : Key User) :
    Flagged ((Tx.removing r).write follows) k ↔ k ∉ r.gone ∧ k ∉ r.cleared ∧ Flagged follows k := by
  simp only [Flagged, Tx.write]
  split_ifs with h₁ h₂
  · simp [h₁]
  · simp only [Option.map_eq_some_iff]
    grind
  · simp [h₁, h₂]

lemma write_paired (h : Paired follows) (hfair : tx.Fair follows) (hdone : tx.Done) : Paired (tx.write follows) := by
  intro k hk
  cases tx with
  | missed k' since =>
    rw [flagged_missed hfair] at hk ⊢
    exact h k hk
  | matched k' since =>
    rw [flagged_matched hfair] at hk ⊢
    rcases hk with rfl | rfl | hk
    · exact .inr (.inl rfl)
    · exact .inl (Prod.swap_swap k')
    · exact .inr (.inr (h k hk))
  | removing r =>
    obtain ⟨-, hqueue, htarget⟩ := hdone
    rw [flagged_removing] at hk ⊢
    have hgone := hfair.settled k.swap
    have hcleared := hfair.cleared k.swap
    rw [Prod.swap_swap] at hgone hcleared
    grind [h k hk.2.2]
  | asked | inserted | found | blocking => exact h k hk

lemma step_fair (h : Fair s) (hs : Step s event s') : Fair s' := by
  cases hs with
  | ask | block => exact h.next rfl rfl trivial (by simp [Tx.locks])
  | insert htx hfree hnone => exact h.next rfl rfl hnone (by simpa [Tx.locks] using hfree)
  | «exists» | abort => exact h.goes rfl rfl (by simp) (by simp)
  | @look id since k htx =>
    have hnone : s.follows k = none := h.fair id _ htx
    have hfree : s.Free id k := h.free htx (by simp [Tx.locks])
    unfold State.look
    split <;> exact h.next rfl rfl hnone (by simpa [Tx.locks] using hfree)
  | @«match» id since opposite k htx hfree =>
    have hnone : s.follows k = none := h.fair id _ htx
    have hown : s.Free id k := h.free htx (by simp [Tx.locks])
    split_ifs with hsame
    · refine h.next rfl rfl (fun hswap => ?_) (by simp [Tx.locks, hown, hfree])
      rw [State.Same, hswap] at hsame
      cases hsame
    · exact h.next rfl rfl hnone (by simpa [Tx.locks] using hown)
  | remove | sever => exact h.next rfl rfl (by constructor <;> simp) (by simp [Tx.locks])
  | @take id since r k todo htx htodo hfree =>
    have hr : r.Fair s.follows := h.fair id _ htx
    have hown : ∀ k' ∈ r.gone ++ r.cleared, s.Free id k' := fun k' => h.free htx
    split_ifs
    · exact h.next rfl rfl (hr.takes todo) (by grind [Tx.locks])
    · exact h.next rfl rfl ⟨hr.queue, hr.cleared, hr.target, hr.settled⟩ hown
  | @lookBack id r k queue htx htodo htarget hqueue =>
    have hr : r.Fair s.follows := h.fair id _ htx
    exact h.next rfl rfl (hr.looksBack htarget hqueue) fun k' hk' => h.free htx hk'
  | @clear id since r k htx htarget hfree =>
    have hr : r.Fair s.follows := h.fair id _ htx
    have hown : ∀ k' ∈ r.gone ++ r.cleared, s.Free id k' := fun k' => h.free htx
    exact h.next rfl rfl (hr.clears htarget) (by grind [Tx.locks])
  | @commit id tx htx hdone =>
    refine ⟨write_paired h.paired (h.fair id tx htx) hdone, fun id₁ id₂ tx₁ tx₂ k h₁ h₂ => ?_, fun id' tx' htx' => ?_⟩
    · rw [set_txs] at h₁ h₂
      split_ifs at h₁ h₂
      exact h.alone id₁ id₂ tx₁ tx₂ k h₁ h₂
    · rw [set_txs] at htx'
      split_ifs at htx' with hne
      have hfree : ∀ k ∈ tx'.locks, k ∉ tx.locks := fun k hk => h.free htx' hk id tx (Ne.symm hne) htx
      exact (h.fair id' tx' htx').kept (fun k hk => write_kept (hfree k hk)) fun k f hk => write_flagged (hfree _ hk)
  | unblock => exact ⟨h.paired, h.alone, h.fair⟩

lemma run_paired {ok : State User → Event User → Prop} (hrun : RunWhere Step ok .start s) : Paired s.follows := by
  have hstart : Fair (.start : State User) := by constructor <;> simp [Paired, Flagged, State.start]
  exact (hrun.invariant hstart fun s event s' h _ hs => step_fair h hs).paired

omit [DecidableEq User] in
lemma areMutuals_iff {a b : User} : areMutuals follows a b = true ↔ Flagged follows (a, b) := by
  unfold areMutuals Flagged
  cases follows (a, b) <;> simp

lemma mem_sift {viewerId : User} {rows : List (Candidate User)} {found : Finset User × List User} {a : User} :
    (a ∈ (sift viewerId rows found).1 ↔
      a ∈ found.1 ∨ ∃ row ∈ rows, row.id = a ∧ (a = viewerId ∨ row.audience = .everyone)) ∧
    (a ∈ (sift viewerId rows found).2 ↔
      a ∈ found.2 ∨ ∃ row ∈ rows, row.id = a ∧ a ≠ viewerId ∧ row.audience = .contacts) := by
  induction rows generalizing found with
  | nil => simp [sift]
  | cons row rows ih =>
    unfold sift
    split_ifs with hpass hneed
    all_goals
      rw [ih.1, ih.2]
      constructor <;> grind

lemma mem_batch {viewerId : User} {rows : List (Candidate User)} {a : User} :
    a ∈ passesAudienceBatch follows viewerId rows ↔ ∃ row ∈ rows, row.id = a ∧
      (a = viewerId ∨ row.audience = .everyone ∨
        (row.audience = .contacts ∧ areMutuals follows viewerId a = true)) := by
  obtain ⟨hpassing, hneed⟩ := @mem_sift _ _ viewerId rows (∅, []) a
  dsimp only [passesAudienceBatch]
  split_ifs with hnone
  · rw [hnone] at hneed
    grind
  · rw [Finset.mem_union, List.mem_toFinset, List.mem_filter]
    grind

/-- In every run, whatever is open, the list made in one round trip has just the accounts that let the viewer in
when they are asked one by one. -/
theorem batch_agrees (hrun : RunWhere Step (fun _ _ => True) .start s) (viewerId : User)
    (rows : List (Candidate User)) (a : User) :
    a ∈ passesAudienceBatch s.follows viewerId rows ↔
      ∃ row ∈ rows, row.id = a ∧ passesAudience s.follows row.audience a viewerId = true := by
  have hpaired := run_paired hrun
  have hmutual : areMutuals s.follows viewerId a = areMutuals s.follows a viewerId := by
    rw [Bool.eq_iff_iff, areMutuals_iff, areMutuals_iff]
    exact ⟨hpaired _, hpaired _⟩
  rw [mem_batch, hmutual]
  refine exists_congr fun row => and_congr_right fun _ => and_congr_right fun _ => ?_
  unfold passesAudience
  split_ifs with hself
  · simp [hself]
  · cases row.audience <;> simp [hself]

end

open Sample in
theorem batch_agrees_answered : 1 ∈ passesAudienceBatch answered.follows 2 [⟨1, .contacts⟩, ⟨3, .contacts⟩] := by
  have hrun : RunWhere Step (fun _ _ => True) .start (held answered none none) :=
    answered_run.mono fun _ _ _ => trivial
  exact (batch_agrees hrun 2 _ 1).mpr ⟨⟨1, .contacts⟩, by simp, rfl, rfl⟩

end Yappy.Follows
