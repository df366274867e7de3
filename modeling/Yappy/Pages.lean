import Mathlib.Data.List.Sort
import Mathlib.Data.List.Nodup
import Mathlib.Order.Lex

/-!
# Pages

A query that orders the rows it admits and returns as many as its limit: `where`, `order by` and
`limit`.
-/
namespace Yappy.Pages

variable {ρ ρ' α : Type*} [LinearOrder α]

structure Query (ρ α : Type*) where
  admitted : List ρ
  order : ρ → α
  limit : ℕ

namespace Query

def run (q : Query ρ α) : List ρ := (q.admitted.mergeSort fun a b => q.order a ≤ q.order b).take q.limit

/-- How many admitted rows come before `r`. -/
def ahead (q : Query ρ α) (r : ρ) : ℕ := q.admitted.countP fun a => q.order a < q.order r

def Shows (q : Query ρ α) (r : ρ) : Prop := r ∈ q.admitted ∧ q.ahead r < q.limit

def Strict (q : Query ρ α) : Prop := (q.admitted.map q.order).Nodup

variable {q : Query ρ α} {r r' : ρ}

lemma sorted_pairwise (q : Query ρ α) :
    (q.admitted.mergeSort fun a b => q.order a ≤ q.order b).Pairwise fun a b => q.order a ≤ q.order b := by
  have h := @List.pairwise_mergeSort _ (fun a b => decide (q.order a ≤ q.order b))
    (fun a b c hab hbc => by simpa using (of_decide_eq_true hab).trans (of_decide_eq_true hbc))
    (fun a b => by simpa using le_total (q.order a) (q.order b)) q.admitted
  exact h.imp fun hab => of_decide_eq_true hab

lemma Strict.sorted (h : q.Strict) :
    (q.admitted.mergeSort fun a b => q.order a ≤ q.order b).Pairwise fun a b => q.order a < q.order b := by
  have hnodup : ((q.admitted.mergeSort fun a b => q.order a ≤ q.order b).map q.order).Nodup :=
    ((List.mergeSort_perm _ _).map _).nodup_iff.mpr h
  refine q.sorted_pairwise.imp₂ (fun a b hle hne => lt_of_le_of_ne hle hne) ?_
  exact List.pairwise_map.mp hnodup

lemma mem_take_sorted {f : ρ → α} {l : List ρ} (h : l.Pairwise fun a b => f a < f b) (n : ℕ) :
    r ∈ l.take n ↔ r ∈ l ∧ l.countP (fun a => f a < f r) < n := by
  induction l generalizing n with
  | nil => simp
  | cons x l ih =>
    obtain ⟨hx, hl⟩ := List.pairwise_cons.mp h
    cases n with
    | zero => simp
    | succ n =>
      rw [List.take_succ_cons, List.mem_cons, List.mem_cons, ih hl, List.countP_cons]
      by_cases he : r = x
      · subst he
        have hzero : l.countP (fun a => f a < f r) = 0 := by
          rw [List.countP_eq_zero]
          intro a ha
          simpa using (hx a ha).le
        simp [hzero]
      · simp only [he, false_or, and_congr_right_iff]
        intro hr
        rw [if_pos (by simpa using hx r hr)]
        omega

lemma mem_run (h : q.Strict) : r ∈ q.run ↔ q.Shows r := by
  rw [run, mem_take_sorted h.sorted, List.mem_mergeSort, Shows, ahead,
    (List.mergeSort_perm q.admitted _).countP_eq]

lemma mem_of_mem_run (hr : r ∈ q.run) : r ∈ q.admitted :=
  List.mem_mergeSort.mp (List.mem_of_mem_take hr)

lemma run_sorted (h : q.Strict) : q.run.Pairwise fun a b => q.order a < q.order b :=
  h.sorted.sublist (List.take_sublist _ _)

lemma length_run (q : Query ρ α) : q.run.length = min q.limit q.admitted.length := by
  rw [run, List.length_take, List.length_mergeSort]

lemma ahead_le (hle : q.order r' ≤ q.order r) : q.ahead r' ≤ q.ahead r := by
  refine List.countP_mono_left fun a _ ha => ?_
  simp only [decide_eq_true_eq] at ha ⊢
  exact ha.trans_le hle

lemma exists_ahead (q : Query ρ α) (r : ρ) :
    ∃ l : List ρ, l.Sublist q.admitted ∧ (∀ a ∈ l, q.order a < q.order r) ∧ l.length = q.ahead r :=
  ⟨q.admitted.filter fun a => q.order a < q.order r, List.filter_sublist,
    fun _ ha => of_decide_eq_true (List.mem_filter.mp ha).2, List.countP_eq_length_filter.symm⟩

lemma mem_run_of_le (h : q.Strict) (hr : r ∈ q.run) (hr' : r' ∈ q.admitted)
    (hle : q.order r' ≤ q.order r) : r' ∈ q.run :=
  (mem_run h).mpr ⟨hr', (ahead_le hle).trans_lt ((mem_run h).mp hr).2⟩

omit [LinearOrder α] in
lemma strict_of_key {κ : Type*} {key : ρ → κ} (hn : (q.admitted.map key).Nodup)
    (ho : ∀ r ∈ q.admitted, ∀ r' ∈ q.admitted, q.order r = q.order r' → key r = key r') : q.Strict := by
  have hrows : q.admitted.Pairwise fun r r' => key r ≠ key r' := List.pairwise_map.mp hn
  exact List.pairwise_map.mpr (hrows.imp_of_mem fun hr hr' hne he => hne (ho _ hr _ hr' he))

lemma run_map {q : Query ρ α} {g : ρ → ρ'} {order : ρ' → α} (ho : ∀ r, order (g r) = q.order r) :
    (⟨q.admitted.map g, order, q.limit⟩ : Query ρ' α).run = q.run.map g := by
  unfold run
  rw [List.map_take, List.map_mergeSort]
  intro a _ b _
  simp only [ho]

lemma run_congr {order : ρ → α} (ho : ∀ r ∈ q.admitted, order r = q.order r) :
    (⟨q.admitted, order, q.limit⟩ : Query ρ α).run = q.run := by
  unfold run
  have hsort := @List.map_mergeSort _ _ (fun a b => decide (order a ≤ order b))
    (fun a b => decide (q.order a ≤ q.order b)) id q.admitted fun a ha b hb => by
      simp only [id_eq, ho a ha, ho b hb]
  rw [List.map_id, List.map_id] at hsort
  rw [hsort]

end Query

end Yappy.Pages
