import Yappy.LockFirst

/-!
# Requests that lock one row, amid others

Where a request either locks one particular row before it writes, or writes in a transaction of one
statement rows that nothing depends on, a transaction that holds the lock does what it does run by
itself, whatever becomes of those rows meanwhile.
-/
namespace Yappy.ReadCommitted

variable {κ : Type*} {ν : κ → Type*}

/-- Run up to its next commit, a program leaves rows and a rest that satisfy `post`, even where before
each of its statements the rows become others that are the `same`. -/
inductive Leads (same : Rows ν → Rows ν → Prop) (post : Rows ν → Program ν → Prop) :
    Program ν → Rows ν → Prop
  | done {view : Rows ν} : Leads same post .done view
  | fail {view : Rows ν} : Leads same post .fail view
  | commit {next : Program ν} {view : Rows ν} (h : ∀ view', same view view' → post view' next) :
      Leads same post (.commit next) view
  | statement {writes : Rows ν → Changes ν} {next : Rows ν → Program ν} {view : Rows ν}
      (h : ∀ view', same view view' → Leads same post (next view') (overlay (writes view') view')) :
      Leads same post (.statement writes next) view

/-- What makes requests lock `k`, or leave every row as it was for those that do: `opens` is what is
known of a request between its transactions, and `keeps` relates the rows before and after one that
holds the lock, and what it goes on to do. -/
structure LocksAmid (accepted : Program ν → Prop) (k : κ) (same : Rows ν → Rows ν → Prop)
    (opens : Program ν → Prop) (keeps : Rows ν → Rows ν → Program ν → Prop) : Prop where
  equivalence : Equivalence same
  overlay : ∀ {rows rows'} (changes : Changes ν), same rows rows' →
    same (overlay changes rows) (overlay changes rows')
  start : ∀ {program}, accepted program → opens program
  done : opens .done
  statement : ∀ {writes next} (rows : Rows ν), opens (.statement writes next) →
    (writes rows = .empty ∧ opens (next rows)) ∨
    (writes rows k ≠ none ∧ Leads same (fun rows' rest => keeps rows rows' rest ∧ opens rest)
      (next rows) (ReadCommitted.overlay (writes rows) rows)) ∨
    (writes rows k = none ∧ (∀ rows', same rows' (ReadCommitted.overlay (writes rows) rows')) ∧
      ∃ rest, next rows = .commit rest ∧ opens rest)
  commit : ∀ {next}, ¬ opens (.commit next)
  keeps : ∀ {rows rows' rows'' rest}, same rows rows' → keeps rows rows'' rest →
    keeps rows' rows'' rest

def Amid (k : κ) (same : Rows ν → Rows ν → Prop) (opens : Program ν → Prop)
    (keeps : Rows ν → Rows ν → Program ν → Prop) (rows : Rows ν) (r : Request ν) : Prop :=
  (r.changes = .empty ∧ opens r.program) ∨
  (r.changes k ≠ none ∧ Leads same (fun rows' rest => keeps rows rows' rest ∧ opens rest) r.program
    (overlay r.changes rows)) ∨
  (r.changes k = none ∧ (∀ rows', same rows' (overlay r.changes rows')) ∧
    ∃ rest, r.program = .commit rest ∧ opens rest)

variable {accepted : Program ν → Prop} {k : κ} {same : Rows ν → Rows ν → Prop}
  {opens : Program ν → Prop} {keeps : Rows ν → Rows ν → Program ν → Prop} {rows rows' : Rows ν}
  {post post' : Rows ν → Program ν → Prop} {program : Program ν} {view view' : Rows ν}

lemma Leads.mono (h : Leads same post program view)
    (himp : ∀ rows' rest, post rows' rest → post' rows' rest) : Leads same post' program view := by
  induction h with
  | done => exact .done
  | fail => exact .fail
  | commit h => exact .commit fun view' hs => himp _ _ (h view' hs)
  | statement _ ih => exact .statement fun view' hs => ih view' hs

lemma Leads.of_same (heq : Equivalence same) (h : Leads same post program view)
    (hs : same view view') : Leads same post program view' := by
  cases h with
  | done => exact .done
  | fail => exact .fail
  | commit h => exact .commit fun view'' hs' => h view'' (heq.trans hs hs')
  | statement h => exact .statement fun view'' hs' => h view'' (heq.trans hs hs')

lemma Leads.commit_inv {next : Program ν} (heq : Equivalence same)
    (h : Leads same post (.commit next) view) : post view next := by
  cases h with
  | commit h => exact h view (heq.refl view)

lemma Leads.statement_inv {writes : Rows ν → Changes ν} {next : Rows ν → Program ν}
    (heq : Equivalence same) (h : Leads same post (.statement writes next) view) :
    Leads same post (next view) (ReadCommitted.overlay (writes view) view) := by
  cases h with
  | statement h => exact h view (heq.refl view)

lemma LocksAmid.commits (hl : LocksAmid accepted k same opens keeps) {changes : Changes ν}
    {next : Program ν} (h : Amid k same opens keeps rows ⟨changes, .commit next⟩) :
    opens next ∧ ((changes k ≠ none ∧ keeps rows (ReadCommitted.overlay changes rows) next) ∨
      same rows (ReadCommitted.overlay changes rows)) := by
  rcases h with ⟨-, ho⟩ | ⟨hk, hleads⟩ | ⟨-, hsame, rest, hrest, ho⟩
  · exact absurd ho hl.commit
  · obtain ⟨hkeeps, ho⟩ := hleads.commit_inv hl.equivalence
    exact ⟨ho, Or.inl ⟨hk, hkeeps⟩⟩
  · cases hrest
    exact ⟨ho, Or.inr (hsame rows)⟩

lemma LocksAmid.amid_same (hl : LocksAmid accepted k same opens keeps) {r : Request ν}
    (hs : same rows rows') (h : Amid k same opens keeps rows r) :
    Amid k same opens keeps rows' r := by
  rcases h with h | ⟨hk, hleads⟩ | h
  · exact Or.inl h
  · refine Or.inr (Or.inl ⟨hk, ?_⟩)
    have hleads' := hleads.of_same hl.equivalence (hl.overlay r.changes hs)
    exact hleads'.mono fun rows'' rest ⟨hkeeps, ho⟩ => ⟨hl.keeps hs hkeeps, ho⟩
  · exact Or.inr (Or.inr h)

lemma LocksAmid.upholds (hl : LocksAmid accepted k same opens keeps) :
    Upholds accepted (fun _ _ => True) (fun _ => True) fun _ => Amid k same opens keeps where
  start _ _ hp := Or.inl ⟨rfl, hl.start hp⟩
  statement {s id changes writes next} _ _ _ hs := by
    rcases hs with ⟨hempty, ho⟩ | ⟨hk, hleads⟩ | ⟨-, -, rest, hrest, -⟩
    · change changes = .empty at hempty
      subst hempty
      have hnew : andThen (.empty : Changes ν) (writes s.rows) k = writes s.rows k := by
        rw [andThen_apply]
        simp
      rw [overlay_empty]
      rcases hl.statement s.rows ho with ⟨hw, hn⟩ | ⟨hw, hn⟩ | ⟨hw, hsame, hrest⟩
      · rw [hw]
        exact Or.inl ⟨rfl, hn⟩
      · refine Or.inr (Or.inl ⟨hnew.symm ▸ hw, ?_⟩)
        rw [overlay_andThen, overlay_empty]
        exact hn
      · refine Or.inr (Or.inr ⟨hnew.symm ▸ hw, fun rows' => ?_, hrest⟩)
        rw [overlay_andThen, overlay_empty]
        exact hsame rows'
    · refine Or.inr (Or.inl ⟨?_, ?_⟩)
      · rw [andThen_apply]
        simp [show changes k ≠ none from hk]
      · rw [overlay_andThen]
        exact hleads.statement_inv hl.equivalence
    · cases hrest
  commit _ _ _ hs := ⟨trivial, Or.inl ⟨rfl, (hl.commits hs).1⟩⟩
  abort _ := Or.inl ⟨rfl, hl.done⟩
  stable {rows id changes next other r} _ _ hs ho hd := by
    rcases (hl.commits hs).2 with ⟨hk, -⟩ | hsame
    · have hfree : r.changes k = none := (hd k).resolve_right hk
      rcases ho with ho | ⟨hk', -⟩ | ho
      · exact Or.inl ho
      · exact absurd hfree hk'
      · exact Or.inr (Or.inr ho)
    · exact hl.amid_same hsame ho

end Yappy.ReadCommitted
