import Mathlib

/-!
# Tables with a primary key

Rows in some order, no two with one key. Queries read the rows; `find` is the one row with a
key. Every statement that writes keeps the keys distinct, and says what `find` answers after.
-/
namespace Yappy

structure KeyedTable {ρ κ : Type} (key : ρ → κ) where
  rows : List ρ
  nodup : (rows.map key).Nodup

namespace KeyedTable
variable {ρ κ : Type} {key : ρ → κ} [DecidableEq κ]

def empty : KeyedTable key := ⟨[], List.nodup_nil⟩

def find (t : KeyedTable key) (k : κ) : Option ρ := t.rows.find? fun r => key r = k

lemma find_eq_some {t : KeyedTable key} {k : κ} {r : ρ} :
    t.find k = some r ↔ r ∈ t.rows ∧ key r = k := by
  constructor
  · intro h
    exact ⟨List.mem_of_find?_eq_some h, by simpa using List.find?_some h⟩
  · rintro ⟨hr, rfl⟩
    cases hf : t.find (key r) with
    | none => exact absurd (List.find?_eq_none.mp hf r hr) (by simp)
    | some r' =>
      have hr' := List.mem_of_find?_eq_some hf
      have hk : key r' = key r := by simpa using List.find?_some hf
      rw [List.inj_on_of_nodup_map t.nodup hr' hr hk]

lemma find_eq_none {t : KeyedTable key} {k : κ} :
    t.find k = none ↔ ∀ r ∈ t.rows, key r ≠ k := by
  simp [find, List.find?_eq_none]

lemma find_key {t : KeyedTable key} {k : κ} {r : ρ} (h : t.find k = some r) : key r = k :=
  (find_eq_some.mp h).2

/-- `UPDATE … SET f WHERE p`. -/
def update (t : KeyedTable key) (p : ρ → Bool) (f : ρ → ρ) (hf : ∀ r, key (f r) = key r) :
    KeyedTable key where
  rows := t.rows.map fun r => if p r then f r else r
  nodup := by
    have : (key ∘ fun r => if p r then f r else r) = key := by
      funext r
      simp only [Function.comp_apply]
      split_ifs <;> simp [hf]
    rw [List.map_map, this]
    exact t.nodup

omit [DecidableEq κ] in
lemma mem_update {t : KeyedTable key} {p : ρ → Bool} {f : ρ → ρ} {hf : ∀ r, key (f r) = key r}
    {x : ρ} (h : x ∈ (t.update p f hf).rows) : ∃ r ∈ t.rows, x = r ∨ x = f r := by
  obtain ⟨r, hr, rfl⟩ := List.mem_map.mp h
  refine ⟨r, hr, ?_⟩
  split_ifs <;> simp

/-- `DELETE … WHERE p`. -/
def delete (t : KeyedTable key) (p : ρ → Bool) : KeyedTable key where
  rows := t.rows.filter fun r => !p r
  nodup := t.nodup.sublist (List.filter_sublist.map key)

/-- `INSERT … ON CONFLICT DO NOTHING`. -/
def insertIgnore (t : KeyedTable key) (r : ρ) : KeyedTable key :=
  if h : key r ∈ t.rows.map key then t
  else ⟨r :: t.rows, List.nodup_cons.mpr ⟨h, t.nodup⟩⟩

lemma mem_insertIgnore {t : KeyedTable key} {r x : ρ} (h : x ∈ (t.insertIgnore r).rows) :
    x = r ∨ x ∈ t.rows := by
  unfold insertIgnore at h
  split_ifs at h
  · exact Or.inr h
  · exact List.mem_cons.mp h

lemma insertIgnore_rows {t : KeyedTable key} {r : ρ} (h : t.find (key r) = none) :
    (t.insertIgnore r).rows = r :: t.rows := by
  have hnew : key r ∉ t.rows.map key := by
    intro hm
    obtain ⟨r', hr', hk⟩ := List.mem_map.mp hm
    exact find_eq_none.mp h r' hr' hk
  rw [insertIgnore, dif_neg hnew]

/-- `INSERT … ON CONFLICT DO UPDATE SET f`. -/
def upsert (t : KeyedTable key) (r : ρ) (f : ρ → ρ) (hf : ∀ r, key (f r) = key r) :
    KeyedTable key :=
  (t.update (fun r' => key r' = key r) f hf).insertIgnore r

@[simp] lemma find_update (t : KeyedTable key) (p : ρ → Bool) (f : ρ → ρ)
    (hf : ∀ r, key (f r) = key r) (k : κ) :
    (t.update p f hf).find k = (t.find k).map fun r => if p r then f r else r := by
  have hkey : ∀ r, key (if p r then f r else r) = key r := by
    intro r
    split_ifs <;> simp [hf]
  simp only [find, update, List.find?_map, Function.comp_def, hkey]

lemma find_delete (t : KeyedTable key) (p : ρ → Bool) (k : κ) :
    (t.delete p).find k = (t.find k).filter fun r => !p r := by
  cases hf : t.find k with
  | none =>
    rw [find_eq_none] at hf
    rw [Option.filter_none, find_eq_none]
    exact fun r hr => hf r (List.mem_filter.mp hr).1
  | some r =>
    obtain ⟨hr, hk⟩ := find_eq_some.mp hf
    cases hp : p r with
    | false =>
      have : (t.delete p).find k = some r :=
        find_eq_some.mpr ⟨List.mem_filter.mpr ⟨hr, by simp [hp]⟩, hk⟩
      rw [this, Option.filter_some, hp]
      rfl
    | true =>
      have : (t.delete p).find k = none := by
        refine find_eq_none.mpr fun r' hr' hk' => ?_
        obtain ⟨hm, hp'⟩ := List.mem_filter.mp hr'
        rw [List.inj_on_of_nodup_map t.nodup hm hr (hk'.trans hk.symm), hp] at hp'
        simp at hp'
      rw [this, Option.filter_some, hp]
      rfl

lemma find_insertIgnore (t : KeyedTable key) (r : ρ) (k : κ) :
    (t.insertIgnore r).find k = if key r = k then some ((t.find k).getD r) else t.find k := by
  unfold insertIgnore
  split_ifs with hm hk hk
  · obtain ⟨r', hr', he⟩ := List.mem_map.mp hm
    have : t.find k = some r' := find_eq_some.mpr ⟨hr', he.trans hk⟩
    simp [this]
  · rfl
  · have : t.find k = none := by
      refine find_eq_none.mpr fun r' hr' he => hm ?_
      exact List.mem_map.mpr ⟨r', hr', he.trans hk.symm⟩
    rw [this]
    simp [find, hk]
  · simp [find, hk]

lemma find_upsert (t : KeyedTable key) (r : ρ) (f : ρ → ρ) (hf : ∀ r, key (f r) = key r)
    (k : κ) :
    (t.upsert r f hf).find k =
      if key r = k then some (((t.find k).map f).getD r) else t.find k := by
  unfold upsert
  rw [find_insertIgnore, find_update]
  cases h : t.find k with
  | none => simp
  | some r' =>
    have hk := find_key h
    by_cases he : key r = k
    · simp [he, hk]
    · simp [he, hk, Ne.symm he]

end KeyedTable
end Yappy
