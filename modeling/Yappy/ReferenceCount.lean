import Yappy.KeyedTable

/-!
# Reference counts

A column that a row trigger moves whenever a row comes to refer to this one or no longer does.
-/
namespace Yappy

structure Counter {ρ κ : Type} (key : ρ → κ) where
  count : ρ → ℕ
  set : ℕ → ρ → ρ
  key_set : ∀ n r, key (set n r) = key r
  count_set : ∀ n r, count (set n r) = n

namespace Counter
variable {ρ κ : Type} {key : ρ → κ} [DecidableEq κ] (c : Counter key)

/-- What the trigger does for a row inserted with a reference to `k`. -/
def inserted (t : KeyedTable key) (k : κ) : KeyedTable key :=
  t.update (fun r => key r = k) (fun r => c.set (c.count r + 1) r) fun r => c.key_set _ r

/-- What it does for a row deleted: `GREATEST(count - 1, 0)`. -/
def deleted (t : KeyedTable key) (k : κ) : KeyedTable key :=
  t.update (fun r => key r = k) (fun r => c.set (c.count r - 1) r) fun r => c.key_set _ r

/-- `FOR EACH ROW`. -/
def insertedAll (t : KeyedTable key) (ks : List κ) : KeyedTable key := ks.foldl c.inserted t

def Counts (t : KeyedTable key) (refs : List κ) : Prop := ∀ r ∈ t.rows, c.count r = refs.count (key r)

variable {c} {t : KeyedTable key} {refs refs' ks : List κ} {k : κ} {r : ρ}

lemma Counts.inserted (h : c.Counts t refs) : c.Counts (c.inserted t k) (k :: refs) := by
  intro r hr
  obtain ⟨r', hr', rfl⟩ := List.mem_map.mp hr
  have hc := h r' hr'
  by_cases hk : key r' = k
  · simp only [hk, decide_true, if_true, c.count_set, c.key_set, List.count_cons_self]
    rw [hc, hk]
  · simp only [hk, decide_false, Bool.false_eq_true, if_false]
    rw [List.count_cons_of_ne (Ne.symm hk)]
    exact hc

lemma Counts.perm (h : c.Counts t refs) (hp : refs.Perm refs') : c.Counts t refs' := by
  intro r hr
  rw [h r hr, hp.count_eq]

lemma Counts.insertedAll (h : c.Counts t refs) : c.Counts (c.insertedAll t ks) (ks ++ refs) := by
  induction ks generalizing t refs with
  | nil => exact h
  | cons k ks ih => exact (ih h.inserted).perm List.perm_middle

lemma mem_inserted (h : r ∈ (c.inserted t k).rows) :
    ∃ r' ∈ t.rows, r = r' ∨ r = c.set (c.count r' + 1) r' := KeyedTable.mem_update h

lemma insertedAll_of {p : ρ → ρ → Prop} (hrefl : ∀ r, p r r) (htrans : ∀ a b d, p a b → p b d → p a d)
    (hset : ∀ r, p r (c.set (c.count r + 1) r)) (h : r ∈ (c.insertedAll t ks).rows) :
    ∃ r' ∈ t.rows, p r' r := by
  induction ks generalizing t with
  | nil => exact ⟨r, h, hrefl r⟩
  | cons k ks ih =>
    obtain ⟨r', hr', hp⟩ := ih h
    obtain ⟨r₀, hr₀, rfl | rfl⟩ := mem_inserted hr'
    · exact ⟨r', hr₀, hp⟩
    · exact ⟨r₀, hr₀, htrans _ _ _ (hset r₀) hp⟩

end Counter
end Yappy
