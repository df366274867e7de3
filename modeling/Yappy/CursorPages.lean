import Mathlib.Data.List.Sort
import Mathlib.Data.List.Nodup
import Mathlib.Data.List.Perm.Basic
import Mathlib.Order.MinMax

/-!
# Following a cursor

A listing that orders its rows, returns a page of them and a cursor made from the page's last row, and
answers the cursor with the rows that it lets through. Where the order leaves ties, each page may break them
in its own way.
-/
namespace Yappy.Pages

/-- One page after the other, until one comes without a cursor. -/
inductive Follows {α γ : Type*} (page : Option γ → List α → Option γ → Prop) : Option γ → List (List α) → Prop
  | last {cursor : Option γ} {rows : List α} (h : page cursor rows none) : Follows page cursor [rows]
  | more {cursor : Option γ} {rows : List α} {c : γ} {pages : List (List α)} (h : page cursor rows (some c))
      (hrest : Follows page (some c) pages) : Follows page cursor (rows :: pages)

structure Feed (α γ : Type*) where
  rows : List α
  le : α → α → Prop
  after : γ → α → Bool
  next : α → Option γ
  limit : ℕ
  /-- How many rows are read beyond those of the page, to see whether there are more. -/
  extra : ℕ

namespace Feed
variable {α γ : Type*} (f : Feed α γ)

def admitted : Option γ → List α
  | none => f.rows
  | some c => f.rows.filter (f.after c)

def nextCursor (sorted : List α) : Option γ :=
  if (sorted.take (f.limit + f.extra)).length = f.limit + f.extra then
    (sorted.take f.limit).getLast?.bind f.next
  else none

/-- The rows as `ORDER BY` may put them. -/
def Sorts (rows sorted : List α) : Prop := sorted.Perm rows ∧ sorted.Pairwise f.le

def Page (cursor : Option γ) (page : List α) (nextCursor : Option γ) : Prop :=
  ∃ sorted, f.Sorts (f.admitted cursor) sorted ∧ page = sorted.take f.limit ∧ nextCursor = f.nextCursor sorted

inductive Run : List α → List (List α) → Prop
  | last {rows sorted : List α} (hs : f.Sorts rows sorted) (hnext : f.nextCursor sorted = none) :
      Run rows [sorted.take f.limit]
  | more {rows sorted : List α} {c : γ} {pages : List (List α)} (hs : f.Sorts rows sorted)
      (hnext : f.nextCursor sorted = some c) (hrest : Run (rows.filter (f.after c)) pages) :
      Run rows (sorted.take f.limit :: pages)

/-- The rows are cut where the cursors cut them: the cursor made at the end of a page lets through just the
rows that are not in the pages so far, and where no cursor can be made there are no more rows. -/
def Splits (sorted : List α) : Prop :=
  ∀ k r, (k + 1) * f.limit + f.extra ≤ sorted.length → sorted[(k + 1) * f.limit - 1]? = some r →
    (∃ c, f.next r = some c ∧ ∀ i x, sorted[i]? = some x → (f.after c x = true ↔ (k + 1) * f.limit ≤ i)) ∨
      f.next r = none ∧ sorted.length = (k + 1) * f.limit

/-- What every listing here has: pages of at least one row, at most one row read beyond them, no row twice,
and cursors that leave their own row behind and go on from one another. -/
structure Sound (f : Feed α γ) : Prop where
  pos : 0 < f.limit
  extra_le : f.extra ≤ 1
  nodup : f.rows.Nodup
  behind : ∀ r c, f.next r = some c → f.after c r = false
  nested : ∀ r c c' x, f.after c r = true → f.next r = some c' → f.after c' x = true → f.after c x = true
  sorts : ∀ rows, ∃ sorted, f.Sorts rows sorted

variable {f} {rows sorted : List α} {c : γ} {pages : List (List α)} {cursor : Option γ} {r x : α}

lemma Sorts.mem (h : f.Sorts rows sorted) : x ∈ sorted ↔ x ∈ rows := h.1.mem_iff

lemma Sorts.filter (h : f.Sorts rows sorted) (p : α → Bool) : f.Sorts (rows.filter p) (sorted.filter p) :=
  ⟨h.1.filter p, h.2.filter p⟩

lemma nextCursor_eq_some : f.nextCursor sorted = some c ↔
    f.limit + f.extra ≤ sorted.length ∧ (sorted.take f.limit).getLast?.bind f.next = some c := by
  unfold nextCursor
  simp only [List.length_take, min_eq_left_iff]
  split_ifs with h
  · simp [h]
  · simp [h]

lemma nextCursor_eq_none : f.nextCursor sorted = none ↔
    (f.limit + f.extra ≤ sorted.length → (sorted.take f.limit).getLast?.bind f.next = none) := by
  unfold nextCursor
  simp only [List.length_take, min_eq_left_iff]
  split_ifs with h
  · simp [h]
  · simp [h]

lemma getLast?_page (hpos : 0 < f.limit) (hle : f.limit ≤ sorted.length) :
    (sorted.take f.limit).getLast? = sorted[f.limit - 1]? := by
  rw [List.getLast?_eq_getElem?, List.length_take, Nat.min_eq_left hle, List.getElem?_take]
  exact if_pos (Nat.sub_lt hpos Nat.one_pos)

lemma Sound.row_of_next (h : f.Sound) (hnext : f.nextCursor sorted = some c) :
    ∃ r, sorted[f.limit - 1]? = some r ∧ f.next r = some c := by
  obtain ⟨hle, hlast⟩ := nextCursor_eq_some.mp hnext
  rw [getLast?_page h.pos (by omega)] at hlast
  exact Option.bind_eq_some_iff.mp hlast

lemma Sound.admitted_next (h : f.Sound) {c' : γ} (hr : r ∈ f.admitted cursor) (hnext : f.next r = some c') :
    f.admitted (some c') = (f.admitted cursor).filter (f.after c') := by
  cases cursor with
  | none => rfl
  | some c =>
    have hc : f.after c r = true := (List.mem_filter.mp hr).2
    refine (List.filter_filter ..).symm ▸ List.filter_congr fun x _ => ?_
    cases hx : f.after c' x with
    | false => rfl
    | true => exact (h.nested r c c' x hc hnext hx).symm

lemma Sound.follows_iff_run (h : f.Sound) :
    Follows f.Page cursor pages ↔ f.Run (f.admitted cursor) pages := by
  constructor
  · intro hf
    induction hf with
    | last hp =>
      obtain ⟨sorted, hs, rfl, hnext⟩ := hp
      exact .last hs hnext.symm
    | more hp _ ih =>
      obtain ⟨sorted, hs, rfl, hnext⟩ := hp
      obtain ⟨r, hr, hrc⟩ := h.row_of_next hnext.symm
      rw [h.admitted_next (hs.mem.mp (List.mem_of_getElem? hr)) hrc] at ih
      exact .more hs hnext.symm ih
  · intro hr
    generalize hrows : f.admitted cursor = rows at hr
    induction hr generalizing cursor with
    | last hs hnext =>
      subst hrows
      exact .last ⟨_, hs, rfl, hnext.symm⟩
    | more hs hnext _ ih =>
      subst hrows
      obtain ⟨r, hr, hrc⟩ := h.row_of_next hnext
      exact .more ⟨_, hs, rfl, hnext.symm⟩ (ih (h.admitted_next (hs.mem.mp (List.mem_of_getElem? hr)) hrc))

/-! ### Where the pages are exact -/

lemma filter_eq_drop (htake : ∀ x ∈ sorted.take f.limit, f.after c x = false)
    (hdrop : ∀ x ∈ sorted.drop f.limit, f.after c x = true) :
    sorted.filter (f.after c) = sorted.drop f.limit := by
  conv_lhs => rw [← List.take_append_drop f.limit sorted]
  rw [List.filter_append, List.filter_eq_self.mpr hdrop, List.filter_eq_nil_iff.mpr fun x hx => by
    simp [htake x hx]]
  rfl

lemma Splits.first (h : f.Splits sorted) (hpos : 0 < f.limit) (hnext : f.nextCursor sorted = some c) :
    (∀ x ∈ sorted.take f.limit, f.after c x = false) ∧ ∀ x ∈ sorted.drop f.limit, f.after c x = true := by
  obtain ⟨hle, hlast⟩ := nextCursor_eq_some.mp hnext
  rw [getLast?_page hpos (by omega)] at hlast
  obtain ⟨r, hr, hrc⟩ := Option.bind_eq_some_iff.mp hlast
  rcases h 0 r (by simpa using hle) (by simpa using hr) with ⟨c', hc', hcut⟩ | ⟨hnone, -⟩
  · obtain rfl := Option.some.inj (hrc.symm.trans hc')
    refine ⟨fun x hx => ?_, fun x hx => ?_⟩
    · obtain ⟨i, hi⟩ := List.mem_iff_getElem?.mp hx
      rw [List.getElem?_take] at hi
      split_ifs at hi with hlt
      refine Bool.eq_false_iff.mpr fun ha => ?_
      have hge := (hcut i x hi).mp ha
      omega
    · obtain ⟨i, hi⟩ := List.mem_iff_getElem?.mp hx
      rw [List.getElem?_drop] at hi
      exact (hcut _ x hi).mpr (by omega)
  · rw [hrc] at hnone
    cases hnone

lemma Splits.drop (h : f.Splits sorted) (hpos : 0 < f.limit) (hle : f.limit ≤ sorted.length) :
    f.Splits (sorted.drop f.limit) := by
  intro k r hlen hr
  rw [List.length_drop] at hlen
  rw [List.getElem?_drop] at hr
  have hmul : (k + 1 + 1) * f.limit = (k + 1) * f.limit + f.limit := Nat.succ_mul ..
  have hone : f.limit ≤ (k + 1) * f.limit := Nat.le_mul_of_pos_left _ (Nat.succ_pos k)
  have hindex : f.limit + ((k + 1) * f.limit - 1) = (k + 1 + 1) * f.limit - 1 := by omega
  rw [hindex] at hr
  rcases h (k + 1) r (by omega) hr with ⟨c, hc, hcut⟩ | ⟨hnone, hall⟩
  · refine Or.inl ⟨c, hc, fun i x hx => ?_⟩
    rw [List.getElem?_drop] at hx
    rw [hcut _ x hx]
    omega
  · refine Or.inr ⟨hnone, ?_⟩
    rw [List.length_drop]
    omega

/-- The later boundaries leave the first page behind, since the cursors go on from one another. -/
theorem Sound.splits_of_drop (h : f.Sound) (hr : sorted[f.limit - 1]? = some r) (hrc : f.next r = some c)
    (htake : ∀ x ∈ sorted.take f.limit, f.after c x = false)
    (hdrop : ∀ x ∈ sorted.drop f.limit, f.after c x = true) (hsplits : f.Splits (sorted.drop f.limit)) :
    f.Splits sorted := by
  have hpos := h.pos
  intro k r' hlen hr'
  cases k with
  | zero =>
    rw [Nat.zero_add, Nat.one_mul] at hr'
    obtain rfl := Option.some.inj (hr.symm.trans hr')
    refine Or.inl ⟨c, hrc, fun i x hx => ?_⟩
    rw [Nat.zero_add, Nat.one_mul]
    by_cases hi : f.limit ≤ i
    · have hx' : x ∈ sorted.drop f.limit := by
        refine List.mem_iff_getElem?.mpr ⟨i - f.limit, ?_⟩
        rwa [List.getElem?_drop, Nat.add_sub_cancel' hi]
      exact iff_of_true (hdrop x hx') hi
    · have hx' : x ∈ sorted.take f.limit := by
        refine List.mem_iff_getElem?.mpr ⟨i, ?_⟩
        rwa [List.getElem?_take, if_pos (Nat.lt_of_not_le hi)]
      exact iff_of_false (by simp [htake x hx']) hi
  | succ k =>
    have hmul : (k + 1 + 1) * f.limit = (k + 1) * f.limit + f.limit := Nat.succ_mul ..
    have hone : f.limit ≤ (k + 1) * f.limit := Nat.le_mul_of_pos_left _ (Nat.succ_pos k)
    have hr'' : (sorted.drop f.limit)[(k + 1) * f.limit - 1]? = some r' := by
      rw [List.getElem?_drop, ← hr']
      congr 1
      omega
    have hmem : f.after c r' = true := hdrop r' (List.mem_of_getElem? hr'')
    rcases hsplits k r' (by rw [List.length_drop]; omega) hr'' with ⟨c', hc', hcut⟩ | ⟨hnone, hall⟩
    · refine Or.inl ⟨c', hc', fun i x hx => ?_⟩
      by_cases hi : f.limit ≤ i
      · have hx' : (sorted.drop f.limit)[i - f.limit]? = some x := by
          rwa [List.getElem?_drop, Nat.add_sub_cancel' hi]
        rw [hcut _ x hx']
        omega
      · have hx' : x ∈ sorted.take f.limit := by
          refine List.mem_iff_getElem?.mpr ⟨i, ?_⟩
          rwa [List.getElem?_take, if_pos (Nat.lt_of_not_le hi)]
        refine iff_of_false (fun ha => ?_) (by omega)
        have hc := h.nested r' c c' x hmem hc' ha
        rw [htake x hx'] at hc
        cases hc
    · rw [List.length_drop] at hall
      exact Or.inr ⟨hnone, by omega⟩

lemma Run.subset (h : f.Run rows pages) : ∀ x ∈ pages.flatten, x ∈ rows := by
  induction h with
  | last hs =>
    intro x hx
    rw [List.flatten_cons, List.flatten_nil, List.append_nil] at hx
    exact hs.mem.mp (List.mem_of_mem_take hx)
  | more hs _ _ ih =>
    intro x hx
    rw [List.flatten_cons] at hx
    rcases List.mem_append.mp hx with hx | hx
    · exact hs.mem.mp (List.mem_of_mem_take hx)
    · exact (List.mem_filter.mp (ih x hx)).1

lemma Sound.length_filter_lt (h : f.Sound) (hs : f.Sorts rows sorted) (hnext : f.nextCursor sorted = some c) :
    (rows.filter (f.after c)).length < rows.length := by
  obtain ⟨r, hr, hrc⟩ := h.row_of_next hnext
  refine List.length_filter_lt_length_iff_exists.mpr ⟨r, hs.mem.mp (List.mem_of_getElem? hr), ?_⟩
  simp [h.behind r c hrc]

lemma Sound.exists_run (h : f.Sound) (hs : f.Sorts rows sorted) :
    ∃ pages, f.Run rows (sorted.take f.limit :: pages) := by
  induction hn : rows.length using Nat.strong_induction_on generalizing rows sorted with
  | _ n ih =>
    cases hnext : f.nextCursor sorted with
    | none => exact ⟨[], .last hs hnext⟩
    | some c =>
      have hlt := hn ▸ h.length_filter_lt hs hnext
      obtain ⟨pages, hrun⟩ := ih _ hlt (hs.filter (f.after c)) rfl
      exact ⟨_, .more hs hnext hrun⟩

lemma sorts_append {rest : List α} (hs : f.Sorts rows sorted)
    (hfilter : sorted.filter (f.after c) = sorted.drop f.limit)
    (hrest : f.Sorts (rows.filter (f.after c)) rest) : f.Sorts rows (sorted.take f.limit ++ rest) := by
  have hperm : rest.Perm (sorted.drop f.limit) := hfilter ▸ hrest.1.trans (hs.1.filter _).symm
  have hcut : sorted.take f.limit ++ sorted.drop f.limit = sorted := List.take_append_drop ..
  refine ⟨?_, ?_⟩
  · exact ((List.Perm.append_left _ hperm).trans (List.Perm.of_eq hcut)).trans hs.1
  · have hsorted := hs.2
    rw [← hcut] at hsorted
    obtain ⟨htake, -, hcross⟩ := List.pairwise_append.mp hsorted
    exact List.pairwise_append.mpr ⟨htake, hrest.2, fun x hx y hy => hcross x hx y (hperm.mem_iff.mp hy)⟩

lemma Run.exact (hpos : 0 < f.limit) (hextra : f.extra ≤ 1) (h : f.Run rows pages)
    (hsplits : ∀ sorted, f.Sorts rows sorted → f.Splits sorted) :
    pages.flatten.Perm rows ∧ pages.flatten.Pairwise f.le := by
  induction h with
  | @last rows sorted hs hnext =>
    have hall : sorted.take f.limit = sorted := by
      refine List.take_of_length_le ?_
      by_contra hlt
      have hle : f.limit + f.extra ≤ sorted.length := by omega
      have hlast := nextCursor_eq_none.mp hnext hle
      rw [getLast?_page hpos (by omega)] at hlast
      obtain ⟨r, hr⟩ : ∃ r, sorted[f.limit - 1]? = some r :=
        ⟨_, List.getElem?_eq_getElem (by omega)⟩
      rw [hr, Option.bind_some] at hlast
      rcases hsplits sorted hs 0 r (by simpa using hle) (by simpa using hr) with ⟨c, hc, -⟩ | ⟨-, hlen⟩
      · rw [hlast] at hc
        cases hc
      · omega
    rw [List.flatten_cons, List.flatten_nil, List.append_nil, hall]
    exact hs
  | @more rows sorted c pages hs hnext _ ih =>
    obtain ⟨htake, hdrop⟩ := (hsplits sorted hs).first hpos hnext
    have hfilter := filter_eq_drop htake hdrop
    have hle : f.limit ≤ sorted.length := by
      have hfull := (nextCursor_eq_some.mp hnext).1
      omega
    obtain ⟨hperm, hsorted⟩ := ih fun rest hrest => by
      have hboth := (hsplits _ (sorts_append hs hfilter hrest)).drop hpos (by
        rw [List.length_append, List.length_take]
        omega)
      rwa [List.drop_left' (by rw [List.length_take]; omega)] at hboth
    rw [List.flatten_cons]
    exact sorts_append hs hfilter ⟨hperm, hsorted⟩

lemma Sound.splits_of_exact (h : f.Sound) (hnodup : rows.Nodup)
    (hexact : ∀ pages, f.Run rows pages → pages.flatten.Perm rows) (hs : f.Sorts rows sorted) :
    f.Splits sorted := by
  induction hn : rows.length using Nat.strong_induction_on generalizing rows sorted with
  | _ n ih =>
    have hpos := h.pos
    cases hnext : f.nextCursor sorted with
    | none =>
      intro k r hlen hr
      have hone : f.limit ≤ (k + 1) * f.limit := Nat.le_mul_of_pos_left _ (Nat.succ_pos k)
      have hlength := (hexact _ (.last hs hnext)).length_eq
      rw [List.flatten_cons, List.flatten_nil, List.append_nil, List.length_take, ← hs.1.length_eq] at hlength
      have hlast := nextCursor_eq_none.mp hnext (by omega)
      have hlen' : sorted.length = (k + 1) * f.limit := by omega
      rw [getLast?_page hpos (by omega)] at hlast
      have hindex : f.limit - 1 = (k + 1) * f.limit - 1 := by omega
      rw [hindex, hr, Option.bind_some] at hlast
      exact Or.inr ⟨hlast, hlen'⟩
    | some c =>
      obtain ⟨r, hr, hrc⟩ := h.row_of_next hnext
      have hsnodup : sorted.Nodup := hs.1.nodup_iff.mpr hnodup
      have hcut : sorted.take f.limit ++ sorted.drop f.limit = sorted := List.take_append_drop ..
      obtain ⟨pages, hrun⟩ := h.exists_run (hs.filter (f.after c))
      have hpages := hexact _ (.more hs hnext hrun)
      rw [List.flatten_cons] at hpages
      have hdisjoint : ∀ x ∈ sorted.take f.limit,
          x ∉ ((sorted.filter (f.after c)).take f.limit :: pages).flatten :=
        fun x hx hx' => (List.nodup_append.mp (hpages.nodup_iff.mpr hnodup)).2.2 x hx x hx' rfl
      have htake : ∀ x ∈ sorted.take f.limit, f.after c x = false := by
        -- the first row that a cursor lets through again would open the next page
        by_contra hex
        push Not at hex
        obtain ⟨x, hx, ha⟩ := hex
        have hxa : f.after c x = true := by simpa using ha
        have hmem : x ∈ (sorted.take f.limit).filter (f.after c) := List.mem_filter.mpr ⟨hx, hxa⟩
        obtain ⟨y, ys, hy⟩ := List.exists_cons_of_ne_nil (List.ne_nil_of_mem hmem)
        have hyt : y ∈ sorted.take f.limit := (List.mem_filter.mp (hy ▸ List.mem_cons_self)).1
        have hfilter : sorted.filter (f.after c) = y :: (ys ++ (sorted.drop f.limit).filter (f.after c)) := by
          rw [← List.cons_append, ← hy, ← List.filter_append, hcut]
        refine hdisjoint y hyt ?_
        rw [hfilter, List.flatten_cons, List.take_cons hpos]
        exact List.mem_cons_self
      have hdrop : ∀ x ∈ sorted.drop f.limit, f.after c x = true := by
        intro x hx
        have hall : x ∈ sorted.take f.limit ++ (((sorted.filter (f.after c)).take f.limit) :: pages).flatten :=
          hpages.mem_iff.mpr (hs.mem.mp (List.mem_of_mem_drop hx))
        rcases List.mem_append.mp hall with hx' | hx'
        · exact absurd rfl ((List.nodup_append.mp (hcut.symm ▸ hsnodup)).2.2 x hx' x hx)
        · exact (List.mem_filter.mp (hrun.subset x hx')).2
      have hfilter := filter_eq_drop htake hdrop
      refine h.splits_of_drop hr hrc htake hdrop ?_
      have hlt := hn ▸ h.length_filter_lt hs hnext
      rw [← hfilter]
      refine ih _ hlt (hnodup.filter _) (fun pages' hrun' => ?_) (hs.filter _) rfl
      -- what follows the first page is what the first page left
      have hall := hexact _ (.more hs hnext hrun')
      rw [List.flatten_cons] at hall
      have hrest := (List.perm_append_left_iff _).mp (hall.trans (hs.1.symm.trans (List.Perm.of_eq hcut.symm)))
      exact hrest.trans (hfilter ▸ hs.1.filter _)

lemma Sound.exact_iff (h : f.Sound) :
    (∀ pages, Follows f.Page none pages → pages.flatten.Perm f.rows) ↔
      ∀ sorted, f.Sorts f.rows sorted → f.Splits sorted := by
  constructor
  · exact fun hexact _ hs => h.splits_of_exact h.nodup
      (fun pages hrun => hexact pages (h.follows_iff_run.mpr hrun)) hs
  · exact fun hsplits pages hf =>
      (Run.exact h.pos h.extra_le (h.follows_iff_run.mp hf) hsplits).1

lemma Sound.exists_follows (h : f.Sound) : ∃ pages, Follows f.Page none pages := by
  obtain ⟨sorted, hs⟩ := h.sorts f.rows
  obtain ⟨pages, hrun⟩ := h.exists_run hs
  exact ⟨_, h.follows_iff_run.mpr hrun⟩

end Feed

end Yappy.Pages
