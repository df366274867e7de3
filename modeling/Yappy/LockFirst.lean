import Yappy.ReadCommitted

/-!
# Requests that lock one row first

Where every request only reads until it locks one particular row, nothing is committed between a
transaction's lock and its commit. So a transaction does what it does run by itself, and what
each of them keeps by itself holds of the committed rows in every run.
-/
namespace Yappy.ReadCommitted

variable {κ : Type*} {ν : κ → Type*}

/-- Run by itself up to its next commit, a program leaves rows and a rest that satisfy `post`. -/
inductive Ends (post : Rows ν → Program ν → Prop) : Program ν → Rows ν → Prop
  | done {view : Rows ν} : Ends post .done view
  | fail {view : Rows ν} : Ends post .fail view
  | commit {next : Program ν} {view : Rows ν} (h : post view next) : Ends post (.commit next) view
  | statement {writes : Rows ν → Changes ν} {next : Rows ν → Program ν} {view : Rows ν}
      (h : Ends post (next view) (overlay (writes view) view)) :
      Ends post (.statement writes next) view

/-- What makes requests lock `k` first: `opens` is what is known of a request until then, and
`keeps` relates the rows before and after its transaction. -/
structure LocksFirst (accepted : Program ν → Prop) (ok : Server ν → Event ν → Prop) (k : κ)
    (holds : Rows ν → Prop) (opens : RequestId → Rows ν → Program ν → Prop)
    (keeps : RequestId → Rows ν → Rows ν → Prop) : Prop where
  start : ∀ {s : Server ν} {id program}, ok s (.start id program) → holds s.rows →
    accepted program → opens id s.rows program
  done : ∀ {rows id}, holds rows → opens id rows .done
  statement : ∀ {s : Server ν} {id writes next}, ok s (.statement id) →
    s.requests id = some ⟨.empty, .statement writes next⟩ → holds s.rows →
    opens id s.rows (.statement writes next) →
    (writes s.rows = .empty ∧ opens id s.rows (next s.rows)) ∨
    (writes s.rows k ≠ none ∧
      Ends (fun rows' rest => keeps id s.rows rows' ∧ opens id rows' rest) (next s.rows)
        (overlay (writes s.rows) s.rows))
  commit : ∀ {rows id next}, ¬ opens id rows (.commit next)
  kept : ∀ {rows rows' id}, holds rows → keeps id rows rows' → holds rows'
  stable : ∀ {rows rows' id other program}, other ≠ id → holds rows → keeps id rows rows' →
    opens other rows program → opens other rows' program

def Serial (k : κ) (opens : RequestId → Rows ν → Program ν → Prop)
    (keeps : RequestId → Rows ν → Rows ν → Prop) (id : RequestId) (rows : Rows ν)
    (r : Request ν) : Prop :=
  (r.changes = .empty ∧ opens id rows r.program) ∨
  (r.changes k ≠ none ∧
    Ends (fun rows' rest => keeps id rows rows' ∧ opens id rows' rest) r.program
      (overlay r.changes rows))

variable {accepted : Program ν → Prop} {ok : Server ν → Event ν → Prop} {k : κ}
  {holds : Rows ν → Prop} {opens : RequestId → Rows ν → Program ν → Prop}
  {keeps : RequestId → Rows ν → Rows ν → Prop} {rows : Rows ν} {id : RequestId}

lemma Ends.statement_inv {post : Rows ν → Program ν → Prop} {writes : Rows ν → Changes ν}
    {next : Rows ν → Program ν} {view : Rows ν} (h : Ends post (.statement writes next) view) :
    Ends post (next view) (overlay (writes view) view) := by
  cases h with
  | statement h => exact h

lemma Ends.commit_inv {post : Rows ν → Program ν → Prop} {next : Program ν} {view : Rows ν}
    (h : Ends post (.commit next) view) : post view next := by
  cases h with
  | commit h => exact h

lemma Ends.mono {post post' : Rows ν → Program ν → Prop} {program : Program ν} {view : Rows ν}
    (h : Ends post program view) (himp : ∀ rows' rest, post rows' rest → post' rows' rest) :
    Ends post' program view := by
  induction h with
  | done => exact .done
  | fail => exact .fail
  | commit h => exact .commit (himp _ _ h)
  | statement _ ih => exact .statement ih

lemma LocksFirst.commits (hl : LocksFirst accepted ok k holds opens keeps) {changes : Changes ν}
    {next : Program ν} (h : Serial k opens keeps id rows ⟨changes, .commit next⟩) :
    changes k ≠ none ∧ keeps id rows (overlay changes rows) ∧
      opens id (overlay changes rows) next := by
  rcases h with ⟨-, ho⟩ | ⟨hk, he⟩
  · exact absurd ho hl.commit
  · exact ⟨hk, he.commit_inv⟩

lemma LocksFirst.upholds (hl : LocksFirst accepted ok k holds opens keeps) :
    Upholds accepted ok holds (Serial k opens keeps) where
  start hok hh hp := Or.inl ⟨rfl, hl.start hok hh hp⟩
  statement {s id changes writes next} hok hr hh hs := by
    rcases hs with ⟨hempty, ho⟩ | ⟨hk, he⟩
    · change changes = .empty at hempty
      subst hempty
      rcases hl.statement hok hr hh ho with ⟨hw, hn⟩ | ⟨hw, hn⟩
      · rw [overlay_empty, hw]
        exact Or.inl ⟨rfl, hn⟩
      · refine Or.inr ⟨?_, ?_⟩
        · rw [overlay_empty, andThen_apply]
          simp [hw]
        · rw [overlay_andThen, overlay_empty]
          exact hn
    · refine Or.inr ⟨?_, ?_⟩
      · rw [andThen_apply]
        simp [show changes k ≠ none from hk]
      · rw [overlay_andThen]
        exact he.statement_inv
  commit _ _ hh hs := by
    obtain ⟨-, hkeeps, hopens⟩ := hl.commits hs
    exact ⟨hl.kept hh hkeeps, Or.inl ⟨rfl, hopens⟩⟩
  abort hh := Or.inl ⟨rfl, hl.done hh⟩
  stable {rows id changes next other r} hne hh hs ho hd := by
    obtain ⟨hk, hkeeps, -⟩ := hl.commits hs
    rcases ho with ⟨hempty, ho⟩ | ⟨hk', -⟩
    · exact Or.inl ⟨hempty, hl.stable hne hh hkeeps ho⟩
    · exact absurd ((hd k).resolve_left hk') hk

lemma writing_of_statement {s : Server ν} {writes : Rows ν → Changes ν}
    {next : Rows ν → Program ν} (hr : s.requests id = some ⟨.empty, .statement writes next⟩) :
    s.writing id = writes s.rows := by
  unfold Server.writing
  rw [hr]
  rfl

lemma run_started {s s' : Server ν} (h : RunWhere (Step accepted) ok s s')
    (hid : s.requests id ≠ none) :
    s'.requests id ≠ none ∧
      RunWhere (Step accepted) (fun s e => ok s e ∧ ∀ p, e ≠ .start id p) s s' := by
  induction h with
  | refl => exact ⟨hid, .refl _⟩
  | tail _ hlast ih =>
    obtain ⟨e, hok, hs⟩ := hlast
    obtain ⟨hmid, hrun⟩ := ih
    have hstart : ∀ p, e ≠ .start id p := by
      rintro p rfl
      cases hs with
      | start hnone => exact hmid hnone
    refine ⟨?_, hrun.tail ⟨hok, hstart⟩ hs⟩
    have hset : ∀ (t : Server ν) (i : RequestId) (r : Request ν), t.requests id ≠ none →
        (t.set i r).requests id ≠ none := by
      intro t i r ht
      by_cases hi : id = i
      · subst hi
        simp [set_requests_self]
      · rwa [set_requests_of_ne _ hi]
    cases hs with
    | start => exact hset _ _ _ hmid
    | statement => exact hset _ _ _ hmid
    | commit => exact hset _ _ _ hmid
    | abort => exact hset _ _ _ hmid

end Yappy.ReadCommitted
