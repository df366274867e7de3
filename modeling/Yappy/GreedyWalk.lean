import Mathlib

/-!
# Matching a shorter list along a longer one

Two indices go along a list and a list that may be shorter; where the elements are equal both go on, elsewhere
the first one does. It matches as early as can be, so how far it is after a beginning is how much of the
shorter list is found in that beginning in order.
-/
namespace Yappy.Walk

variable {α : Type*} [DecidableEq α]

/-- How much of the shorter list is matched after `p` elements. -/
def walked : List α → List α → ℕ → ℕ
  | u :: original, v :: stripped, p + 1 =>
    if u = v then walked original stripped p + 1 else walked original (v :: stripped) p
  | _, _, _ => 0

/-- A beginning of the shorter list is found in order up to and with an element, and not before it. -/
def Lands (original stripped : List α) (p : ℕ) : Prop :=
  ∃ n, (stripped.take n).Sublist (original.take (p + 1)) ∧ ¬ (stripped.take n).Sublist (original.take p)

variable {original stripped : List α} {p : ℕ}

@[simp] lemma walked_zero : walked original stripped 0 = 0 := by
  cases original <;> cases stripped <;> rfl

@[simp] lemma walked_nil_left : walked [] stripped p = 0 := rfl

@[simp] lemma walked_nil_right : walked original [] p = 0 := by
  cases original <;> rfl

lemma walked_cons (u v : α) : walked (u :: original) (v :: stripped) (p + 1) =
    if u = v then walked original stripped p + 1 else walked original (v :: stripped) p := rfl

lemma walked_succ_le : walked original stripped (p + 1) ≤ walked original stripped p + 1 := by
  induction original generalizing stripped p with
  | nil => exact Nat.zero_le _
  | cons u original ih =>
    cases stripped with
    | nil => exact Nat.zero_le _
    | cons v stripped =>
      cases p with
      | zero =>
        rw [walked_cons, walked_zero, walked_zero]
        split_ifs
        · exact le_rfl
        · exact Nat.zero_le _
      | succ p =>
        rw [walked_cons, walked_cons]
        split_ifs
        · exact Nat.succ_le_succ ih
        · exact ih

lemma walked_le_length : walked original stripped p ≤ stripped.length := by
  induction original generalizing stripped p with
  | nil => exact Nat.zero_le _
  | cons u original ih =>
    cases stripped with
    | nil => exact Nat.zero_le _
    | cons v stripped =>
      cases p with
      | zero => rw [walked_zero]; exact Nat.zero_le _
      | succ p =>
        rw [walked_cons]
        split_ifs
        · exact Nat.succ_le_succ ih
        · exact ih

lemma take_sublist_iff (n : ℕ) :
    (stripped.take n).Sublist (original.take p) ↔ min n stripped.length ≤ walked original stripped p := by
  induction original generalizing stripped n p with
  | nil =>
    rw [List.take_nil, List.sublist_nil, List.take_eq_nil_iff, walked_nil_left, Nat.le_zero,
      Nat.min_eq_zero_iff, List.length_eq_zero_iff]
  | cons u original ih =>
    cases stripped with
    | nil => simp
    | cons v stripped =>
      cases n with
      | zero => simp
      | succ n =>
        cases p with
        | zero => simp
        | succ p =>
          rw [walked_cons, List.take_succ_cons, List.take_succ_cons, List.length_cons]
          split_ifs with huv
          · rw [huv, List.cons_sublist_cons, ih]
            omega
          · have h := @ih (v :: stripped) p (n + 1)
            rw [List.take_succ_cons, List.length_cons] at h
            rw [← h]
            refine ⟨fun hsub => ?_, fun hsub => hsub.cons u⟩
            cases hsub with
            | cons _ hsub => exact hsub
            | cons_cons _ _ => exact absurd rfl huv

lemma lands_iff :
    Lands original stripped p ↔ walked original stripped (p + 1) = walked original stripped p + 1 := by
  have hle := @walked_succ_le _ _ original stripped p
  have hlen := @walked_le_length _ _ original stripped (p + 1)
  constructor
  · rintro ⟨n, hn, hnot⟩
    rw [take_sublist_iff] at hn hnot
    omega
  · intro h
    refine ⟨walked original stripped p + 1, ?_, ?_⟩
    · rw [take_sublist_iff]
      omega
    · rw [take_sublist_iff]
      omega

lemma getElem_of_lands (h : Lands original stripped p) :
    ∃ u, original[p]? = some u ∧ stripped[walked original stripped p]? = some u := by
  rw [lands_iff] at h
  induction original generalizing stripped p with
  | nil => cases h
  | cons u original ih =>
    cases stripped with
    | nil => simp at h
    | cons v stripped =>
      rw [walked_cons] at h
      by_cases huv : u = v
      · rw [if_pos huv] at h
        cases p with
        | zero => exact ⟨u, rfl, by rw [walked_zero, huv]; rfl⟩
        | succ p =>
          rw [walked_cons, if_pos huv] at h ⊢
          obtain ⟨w, hw, hw'⟩ := ih (Nat.succ.inj h)
          exact ⟨w, by simpa using hw, by simpa using hw'⟩
      · rw [if_neg huv] at h
        cases p with
        | zero => simp at h
        | succ p =>
          rw [walked_cons, if_neg huv] at h ⊢
          obtain ⟨w, hw, hw'⟩ := ih h
          exact ⟨w, by simpa using hw, hw'⟩

lemma walked_add_le (l : ℕ) :
    walked original stripped (p + l) ≤ walked original stripped p + l := by
  induction l with
  | zero => exact le_rfl
  | succ l ih =>
    have hstep := @walked_succ_le _ _ original stripped (p + l)
    rw [← Nat.add_assoc]
    omega

lemma walked_add_eq_iff (l : ℕ) :
    walked original stripped (p + l) = walked original stripped p + l ↔
      ∀ q, p ≤ q → q < p + l → Lands original stripped q := by
  induction l with
  | zero => exact iff_of_true rfl fun q hq hlt => absurd hlt (Nat.not_lt.mpr hq)
  | succ l ih =>
    have hstep := @walked_succ_le _ _ original stripped (p + l)
    have hle := @walked_add_le _ _ original stripped p l
    constructor
    · intro h q hq hlt
      rw [← Nat.add_assoc] at h
      by_cases hbefore : q < p + l
      · exact ih.mp (by omega) q hq hbefore
      · obtain rfl : q = p + l := by omega
        rw [lands_iff]
        omega
    · intro h
      have hlast := lands_iff.mp (h (p + l) (Nat.le_add_right ..) (by omega))
      have hbefore := ih.mpr fun q hq hlt => h q hq (by omega)
      rw [← Nat.add_assoc]
      omega

lemma walked_length (h : stripped.Sublist original) :
    walked original stripped original.length = stripped.length := by
  have hall := (@take_sublist_iff _ _ original stripped original.length stripped.length).mp
  rw [List.take_length, List.take_length, min_self] at hall
  exact le_antisymm walked_le_length (hall h)

lemma lands_lt (h : Lands original stripped p) : p < original.length := by
  obtain ⟨u, hu, -⟩ := getElem_of_lands h
  exact (List.getElem?_eq_some_iff.mp hu).1

end Yappy.Walk
