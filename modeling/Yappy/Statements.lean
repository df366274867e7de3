import Yappy.ReadCommitted

/-!
# Statements and queries

The statements that programs at READ COMMITTED are written with, over any rows, and how many rows a
query finds once rows have come or gone.
-/
namespace Yappy.ReadCommitted

variable {κ : Type*} {ν : κ → Type*}

namespace Sql

/-- `select`. -/
def read (next : Rows ν → Program ν) : Program ν := .statement (fun _ => .empty) next

variable [DecidableEq κ]

/-- `update … where id = …  returning`, by key. -/
def update (k : κ) (f : ν k → ν k) (next : Option (ν k) → Program ν) : Program ν :=
  .statement (fun view => (view k).elim .empty fun r => put k (f r)) fun view =>
    next ((view k).map f)

/-- `update … where …`, of the rows under the keys a query finds. -/
def updateAll (keys : Rows ν → List κ) (f : (k : κ) → ν k → ν k) (next : Program ν) : Program ν :=
  .statement (fun view => Rows.on (keys view) fun k => (view k).map fun r => some (f k r)) fun _ =>
    next

/-- `delete … where …`, of the rows under the keys a query finds. -/
def deleteAll (keys : Rows ν → List κ) (next : Program ν) : Program ν :=
  .statement (fun view => Rows.on (keys view) fun _ => some none) fun _ => next

end Sql

section Queries
variable [DecidableEq κ] {rows rows' : Rows ν} {p : (k : κ) → ν k → Bool} {k : κ}

lemma nodup_select (rows : Rows ν) (p : (k : κ) → ν k → Bool) : (rows.select p).Nodup :=
  (List.nodup_dedup _).filter _

lemma length_select_congr (h : ∀ k, k ∈ rows'.select p ↔ k ∈ rows.select p) :
    (rows'.select p).length = (rows.select p).length :=
  ((List.perm_ext_iff_of_nodup (nodup_select _ _) (nodup_select _ _)).mpr h).length_eq

lemma length_select_insert (hk : k ∉ rows.select p)
    (h : ∀ k', k' ∈ rows'.select p ↔ k' = k ∨ k' ∈ rows.select p) :
    (rows'.select p).length = (rows.select p).length + 1 := by
  have hperm : (rows'.select p).Perm (k :: rows.select p) := by
    refine (List.perm_ext_iff_of_nodup (nodup_select _ _)
      (List.nodup_cons.mpr ⟨hk, nodup_select _ _⟩)).mpr fun k' => ?_
    rw [h, List.mem_cons]
  rw [hperm.length_eq, List.length_cons]

lemma length_select_overlay {changes : Changes ν} (h : ∀ k, changes k ≠ none → rows' k = rows k) :
    ((overlay changes rows').select p).length + (rows.select p).length =
      ((overlay changes rows).select p).length + (rows'.select p).length := by
  let touched : κ → Bool := fun k => (changes k).isSome
  have hcongr : ∀ (q : κ → Bool) (r r' : Rows ν), (∀ k, q k = true → r' k = r k) →
      ((r'.select p).filter q).length = ((r.select p).filter q).length := by
    intro q r r' hq
    have hperm : ((r'.select p).filter q).Perm ((r.select p).filter q) := by
      refine (List.perm_ext_iff_of_nodup ((nodup_select _ _).filter _)
        ((nodup_select _ _).filter _)).mpr fun k => ?_
      simp only [List.mem_filter, Rows.mem_select]
      constructor
      · rintro ⟨hk, hqk⟩
        exact ⟨hq k hqk ▸ hk, hqk⟩
      · rintro ⟨hk, hqk⟩
        exact ⟨(hq k hqk).symm ▸ hk, hqk⟩
    exact hperm.length_eq
  have hsplit : ∀ r : Rows ν, (r.select p).length =
      ((r.select p).filter touched).length + ((r.select p).filter fun k => !touched k).length :=
    fun r => List.length_eq_length_filter_add _
  have hnew : ∀ k, touched k = true → overlay changes rows' k = overlay changes rows k := by
    intro k hk
    obtain ⟨x, hx⟩ := Option.isSome_iff_exists.mp hk
    rw [overlay_of_some hx, overlay_of_some hx]
  have hold : ∀ k, touched k = true → rows' k = rows k := fun k hk =>
    h k (Option.isSome_iff_ne_none.mp hk)
  have hrest : ∀ r : Rows ν, ∀ k, (!touched k) = true → overlay changes r k = r k := by
    intro r k hk
    exact overlay_of_none (by simpa [touched] using hk)
  have h₁ := hcongr _ _ _ hnew
  have h₂ := hcongr _ _ _ hold
  have h₃ := hcongr _ _ _ (hrest rows)
  have h₄ := hcongr _ _ _ (hrest rows')
  have h₅ := hsplit (overlay changes rows')
  have h₆ := hsplit (overlay changes rows)
  have h₇ := hsplit rows
  have h₈ := hsplit rows'
  omega

end Queries

section Inversion
variable [DecidableEq κ] {writes : Rows ν → Changes ν} {next : Rows ν → Program ν} {k : κ}
  {f : ν k → ν k} {after : Option (ν k) → Program ν}

lemma update_inv (h : .statement writes next = Sql.update k f after) (view : Rows ν) :
    (view k = none ∧ writes view = .empty ∧ next view = after none) ∨
      ∃ r, view k = some r ∧ writes view = put k (f r) ∧ next view = after (some (f r)) := by
  obtain ⟨rfl, rfl⟩ := Program.statement.inj h
  beta_reduce
  cases view k with
  | none => exact Or.inl ⟨rfl, rfl, rfl⟩
  | some r => exact Or.inr ⟨r, rfl, rfl, rfl⟩

end Inversion

end Yappy.ReadCommitted
