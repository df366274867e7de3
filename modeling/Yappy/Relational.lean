import Yappy.KeyedTable

/-!
# Joins and groups

The relational operators a query is built from, over lists of rows, and what each one answers
when it goes through a primary key.
-/
namespace Yappy

/-- `LEFT JOIN … ON p`: the matching rows, or one null row. -/
def leftJoin {β : Type} (rows : List β) (p : β → Bool) : List (Option β) :=
  match rows.filter p with
  | [] => [none]
  | matching => matching.map some

/-- `GROUP BY key`: one row for each key that occurs, from the rows that have it. -/
def groupBy {α κ γ : Type} [DecidableEq κ] (key : α → κ) (aggregate : List α → γ)
    (rows : List α) : List (κ × γ) :=
  (rows.map key).dedup.map fun k => (k, aggregate (rows.filter fun r => key r = k))

lemma leftJoin_of_filter_nil {β : Type} {rows : List β} {p : β → Bool}
    (h : rows.filter p = []) : leftJoin rows p = [none] := by
  simp [leftJoin, h]

lemma leftJoin_of_filter_singleton {β : Type} {rows : List β} {p : β → Bool} {r : β}
    (h : rows.filter p = [r]) : leftJoin rows p = [some r] := by
  simp [leftJoin, h]

private theorem filter_eq_of_nodup_map {α κ : Type} [DecidableEq κ] (key : α → κ) {l : List α}
    (hn : (l.map key).Nodup) {r : α} (hr : r ∈ l) :
    (l.filter fun x => key x = key r) = [r] := by
  induction l with
  | nil => cases hr
  | cons x l ih =>
    rw [List.map_cons, List.nodup_cons] at hn
    rcases List.mem_cons.mp hr with rfl | hr
    · have : (l.filter fun x => key x = key r) = [] := by
        refine List.filter_eq_nil_iff.mpr fun y hy hk => hn.1 ?_
        rw [← of_decide_eq_true hk]
        exact List.mem_map_of_mem hy
      simp [this]
    · have hx : key x ≠ key r := fun he => hn.1 (he ▸ List.mem_map_of_mem hr)
      simp [hx, ih hn.2 hr]

lemma KeyedTable.filter_key {ρ κ : Type} [DecidableEq κ] {key : ρ → κ} (t : KeyedTable key)
    (k : κ) : (t.rows.filter fun r => key r = k) = (t.find k).toList := by
  cases hf : t.find k with
  | none =>
    refine List.filter_eq_nil_iff.mpr fun r hr => ?_
    simpa using KeyedTable.find_eq_none.mp hf r hr
  | some r =>
    obtain ⟨hr, rfl⟩ := KeyedTable.find_eq_some.mp hf
    exact filter_eq_of_nodup_map key t.nodup hr

lemma KeyedTable.leftJoin_key {ρ κ : Type} [DecidableEq κ] {key : ρ → κ} (t : KeyedTable key)
    (k : κ) : leftJoin t.rows (fun r => key r = k) = [t.find k] := by
  have h := t.filter_key k
  cases hf : t.find k with
  | none => rw [hf] at h; exact leftJoin_of_filter_nil h
  | some r => rw [hf] at h; exact leftJoin_of_filter_singleton h

lemma KeyedTable.leftJoin_key_filter {ρ κ : Type} [DecidableEq κ] {key : ρ → κ}
    (t : KeyedTable key) (k : κ) (q : ρ → Bool) :
    leftJoin t.rows (fun r => key r = k && q r) = [(t.find k).filter q] := by
  have hfilter : t.rows.filter (fun r => key r = k && q r) = (t.find k).toList.filter q := by
    rw [← t.filter_key k, List.filter_filter]
    exact List.filter_congr fun r _ => Bool.and_comm ..
  cases hf : t.find k with
  | none =>
    rw [hf] at hfilter
    exact leftJoin_of_filter_nil hfilter
  | some r =>
    rw [hf] at hfilter
    cases hq : q r with
    | true =>
      rw [Option.filter_some, hq, if_pos rfl]
      exact leftJoin_of_filter_singleton (by simpa [hq] using hfilter)
    | false =>
      rw [Option.filter_some, hq]
      exact leftJoin_of_filter_nil (by simpa [hq] using hfilter)

lemma leftJoin_groupBy {α κ γ : Type} [DecidableEq κ] (key : α → κ) (aggregate : List α → γ)
    (rows : List α) (k : κ) :
    leftJoin (groupBy key aggregate rows) (fun g => g.1 = k) =
      [if k ∈ rows.map key then some (k, aggregate (rows.filter fun r => key r = k)) else none] := by
  have hn : ((groupBy key aggregate rows).map Prod.fst).Nodup := by
    simp only [groupBy, List.map_map, Function.comp_def, List.map_id']
    exact List.nodup_dedup _
  split_ifs with hk
  · have hm : (k, aggregate (rows.filter fun r => key r = k)) ∈ groupBy key aggregate rows :=
      List.mem_map.mpr ⟨k, List.mem_dedup.mpr hk, rfl⟩
    exact leftJoin_of_filter_singleton (filter_eq_of_nodup_map Prod.fst hn hm)
  · refine leftJoin_of_filter_nil (List.filter_eq_nil_iff.mpr fun g hg he => hk ?_)
    obtain ⟨k', hk', rfl⟩ := List.mem_map.mp hg
    rw [← of_decide_eq_true he]
    exact List.mem_dedup.mp hk'

end Yappy
