import Yappy.CursorPages
import Mathlib.Data.Prod.Lex

/-!
# Cursors that are keys

Where the rows have keys of their own, are listed by descending key and a cursor is the key of a page's last
row, the pages are the sorted rows in pieces of the limit. What is left to see is how many pages there are.
-/
namespace Yappy.Pages

lemma Follows.map_iff {α γ δ : Type*} {page : Option γ → List α → Option γ → Prop}
    {page' : Option δ → List α → Option δ → Prop} (enc : γ → δ) (Known : Option γ → Prop)
    (hknown : ∀ cursor rows c, Known cursor → page cursor rows (some c) → Known (some c))
    (hpage : ∀ cursor rows next', Known cursor →
      (page' (cursor.map enc) rows next' ↔ ∃ next, page cursor rows next ∧ next' = next.map enc))
    {cursor : Option γ} (hcursor : Known cursor) {pages : List (List α)} :
    Follows page' (cursor.map enc) pages ↔ Follows page cursor pages := by
  constructor
  · intro h
    generalize hc : cursor.map enc = cursor' at h
    induction h generalizing cursor with
    | last h =>
      subst hc
      obtain ⟨next, hnext, he⟩ := (hpage _ _ _ hcursor).mp h
      rw [Option.map_eq_none_iff.mp he.symm] at hnext
      exact .last hnext
    | more h _ ih =>
      subst hc
      obtain ⟨next, hnext, he⟩ := (hpage _ _ _ hcursor).mp h
      obtain ⟨c, rfl, rfl⟩ := Option.map_eq_some_iff.mp he.symm
      exact .more hnext (ih (hknown _ _ _ hcursor hnext) rfl)
  · intro h
    induction h with
    | last h => exact .last ((hpage _ _ _ hcursor).mpr ⟨none, h, rfl⟩)
    | more h _ ih =>
      exact .more ((hpage _ _ _ hcursor).mpr ⟨some _, h, rfl⟩) (ih (hknown _ _ _ hcursor h))

lemma Follows.map_none_iff {α γ δ : Type*} {page : Option γ → List α → Option γ → Prop}
    {page' : Option δ → List α → Option δ → Prop} (enc : γ → δ) (Known : γ → Prop)
    (hknown : ∀ cursor rows c, page cursor rows (some c) → Known c)
    (hpage : ∀ cursor rows next', (∀ c ∈ cursor, Known c) →
      (page' (cursor.map enc) rows next' ↔ ∃ next, page cursor rows next ∧ next' = next.map enc))
    {pages : List (List α)} : Follows page' none pages ↔ Follows page none pages :=
  Follows.map_iff enc (fun cursor => ∀ c ∈ cursor, Known c)
    (fun cursor rows c _ hp _ hc => Option.some.inj hc ▸ hknown cursor rows c hp) hpage
    (fun _ hc => absurd hc (Option.not_mem_none _))

lemma Follows.head_iff {α γ : Type*} {page page' : Option γ → List α → Option γ → Prop} {front : List α}
    (hnone : ∀ rows next, page' none rows next ↔ ∃ rest, rows = front ++ rest ∧ page none rest next)
    (hsome : ∀ c rows next, page' (some c) rows next ↔ page (some c) rows next) {pages : List (List α)} :
    Follows page' none pages ↔
      ∃ rows rest, pages = (front ++ rows) :: rest ∧ Follows page none (rows :: rest) := by
  have hrest : ∀ c pages, Follows page' (some c) pages ↔ Follows page (some c) pages := by
    refine fun c pages => ⟨fun h => ?_, fun h => ?_⟩
    · generalize hc : some c = cursor at h
      induction h generalizing c with
      | last h =>
        subst hc
        exact .last ((hsome ..).mp h)
      | more h _ ih =>
        subst hc
        exact .more ((hsome ..).mp h) (ih _ rfl)
    · generalize hc : some c = cursor at h
      induction h generalizing c with
      | last h =>
        subst hc
        exact .last ((hsome ..).mpr h)
      | more h _ ih =>
        subst hc
        exact .more ((hsome ..).mpr h) (ih _ rfl)
  constructor
  · intro h
    cases h with
    | last h =>
      obtain ⟨rows, rfl, hp⟩ := (hnone ..).mp h
      exact ⟨rows, [], rfl, .last hp⟩
    | more h hmore =>
      obtain ⟨rows, rfl, hp⟩ := (hnone ..).mp h
      exact ⟨rows, _, rfl, .more hp ((hrest ..).mp hmore)⟩
  · rintro ⟨rows, rest, rfl, h⟩
    cases h with
    | last h => exact .last ((hnone ..).mpr ⟨rows, rfl, h⟩)
    | more h hmore => exact .more ((hnone ..).mpr ⟨rows, rfl, h⟩) ((hrest ..).mpr hmore)

/-- `ORDER BY key DESC` -/
def descending {α κ : Type*} [LinearOrder κ] (key : α → κ) (rows : List α) : List α :=
  rows.mergeSort fun a b => key b ≤ key a

lemma descending_perm {α κ : Type*} [LinearOrder κ] (key : α → κ) (rows : List α) :
    (descending key rows).Perm rows := List.mergeSort_perm ..

lemma descending_sorted {α κ : Type*} [LinearOrder κ] (key : α → κ) (rows : List α) :
    (descending key rows).Pairwise fun a b => key b ≤ key a := by
  have h := @List.pairwise_mergeSort _ (fun a b => decide (key b ≤ key a))
    (fun a b c hab hbc => decide_eq_true ((of_decide_eq_true hbc).trans (of_decide_eq_true hab)))
    (fun a b => by simpa using le_total (key b) (key a)) rows
  exact h.imp of_decide_eq_true

structure Keyset (α κ : Type*) [LinearOrder κ] where
  rows : List α
  key : α → κ
  nodup : (rows.map key).Nodup
  limit : ℕ
  pos : 0 < limit
  extra : ℕ
  extra_le : extra ≤ 1

namespace Keyset
variable {α κ : Type*} [LinearOrder κ]

/-- `ORDER BY key DESC`, and a cursor that lets through what is below it. -/
def feed (k : Keyset α κ) : Feed α κ where
  rows := k.rows
  le a b := k.key b ≤ k.key a
  after c x := k.key x < c
  next r := some (k.key r)
  limit := k.limit
  extra := k.extra

variable {k : Keyset α κ} {rows sorted : List α} {pages : List (List α)} {c : κ}

lemma sorts_descending (rows : List α) : k.feed.Sorts rows (descending k.key rows) :=
  ⟨descending_perm k.key rows, descending_sorted k.key rows⟩

lemma sound (k : Keyset α κ) : k.feed.Sound where
  pos := k.pos
  extra_le := k.extra_le
  nodup := List.Nodup.of_map _ k.nodup
  behind r c hc := by
    obtain rfl := Option.some.inj hc
    exact decide_eq_false (lt_irrefl _)
  nested r c c' x hr hc hx := by
    obtain rfl := Option.some.inj hc
    exact decide_eq_true ((of_decide_eq_true hx).trans (of_decide_eq_true hr))
  sorts rows := ⟨_, sorts_descending rows⟩

lemma pairwise_lt (hs : k.feed.Sorts rows sorted) (hnodup : (rows.map k.key).Nodup) :
    sorted.Pairwise fun a b => k.key b < k.key a := by
  have hkeys : (sorted.map k.key).Nodup := (hs.1.map k.key).nodup_iff.mpr hnodup
  refine (hs.2.and (List.pairwise_map.mp hkeys)).imp fun {a b} hab => ?_
  exact lt_of_le_of_ne hab.1 (Ne.symm hab.2)

lemma splits (hs : k.feed.Sorts rows sorted) (hnodup : (rows.map k.key).Nodup) : k.feed.Splits sorted := by
  have hlt := List.pairwise_iff_getElem.mp (pairwise_lt hs hnodup)
  intro j r hlen hr
  refine Or.inl ⟨k.key r, rfl, fun i x hx => ?_⟩
  obtain ⟨hi, rfl⟩ := List.getElem?_eq_some_iff.mp hx
  obtain ⟨hj, rfl⟩ := List.getElem?_eq_some_iff.mp hr
  have hpage : 0 < (j + 1) * k.feed.limit := Nat.mul_pos (Nat.succ_pos j) k.pos
  refine decide_eq_true_iff.trans ⟨fun h => ?_, fun h => hlt _ _ hj hi (by omega)⟩
  by_contra hle
  rcases Nat.lt_or_eq_of_le (Nat.le_sub_one_of_lt (Nat.not_le.mp hle)) with h' | h'
  · exact lt_asymm h (hlt _ _ hi hj h')
  · subst h'
    exact lt_irrefl _ h

lemma sorts_iff (hnodup : (rows.map k.key).Nodup) :
    k.feed.Sorts rows sorted ↔ sorted = descending k.key rows := by
  have hd := sorts_descending (k := k) rows
  constructor
  · intro hs
    exact (hs.1.trans hd.1.symm).eq_of_pairwise (fun a b _ _ hab hba => absurd hba (lt_asymm hab))
      (pairwise_lt hs hnodup) (pairwise_lt hd hnodup)
  · rintro rfl
    exact hd

lemma page_iff {cursor next : Option κ} {page : List α} : k.feed.Page cursor page next ↔
    page = (descending k.key (k.feed.admitted cursor)).take k.limit ∧
      next = k.feed.nextCursor (descending k.key (k.feed.admitted cursor)) := by
  have hnodup : ((k.feed.admitted cursor).map k.key).Nodup := by
    cases cursor with
    | none => exact k.nodup
    | some c => exact k.nodup.sublist (List.filter_sublist.map _)
  unfold Feed.Page
  simp only [sorts_iff hnodup, exists_eq_left]
  rfl

lemma nextCursor_map {δ : Type*} (enc : κ → δ) (sorted : List α) :
    (k.feed.nextCursor sorted).map enc =
      if (sorted.take (k.limit + k.extra)).length = k.limit + k.extra then
        (sorted.take k.limit).getLast?.map fun r => enc (k.key r)
      else none := by
  have hlast : ∀ r : Option α, (r.bind k.feed.next).map enc = r.map fun r => enc (k.key r) := fun r => by
    cases r <;> rfl
  unfold Feed.nextCursor
  rw [apply_ite (Option.map enc), hlast]
  rfl

lemma key_of_page {cursor : Option κ} {page : List α} (h : k.feed.Page cursor page (some c)) :
    ∃ r ∈ k.rows, c = k.key r := by
  obtain ⟨sorted, hs, -, hnext⟩ := h
  obtain ⟨r, hr, hc⟩ := k.sound.row_of_next hnext.symm
  refine ⟨r, ?_, (Option.some.inj hc).symm⟩
  have hmem := hs.mem.mp (List.mem_of_getElem? hr)
  cases cursor with
  | none => exact hmem
  | some c => exact (List.mem_filter.mp hmem).1

lemma length_filter (hs : k.feed.Sorts rows sorted) (hnodup : (rows.map k.key).Nodup)
    (hnext : k.feed.nextCursor sorted = some c) :
    (rows.filter (k.feed.after c)).length = rows.length - k.limit := by
  obtain ⟨htake, hdrop⟩ := (splits hs hnodup).first k.pos hnext
  rw [(hs.1.symm.filter _).length_eq, Feed.filter_eq_drop htake hdrop, List.length_drop, hs.1.length_eq]
  rfl

lemma nextCursor_eq_none : k.feed.nextCursor sorted = none ↔ sorted.length < k.limit + k.extra := by
  refine Feed.nextCursor_eq_none.trans ⟨fun h => Nat.not_le.mp fun hle => ?_,
    fun h hle => absurd h (Nat.not_lt.mpr hle)⟩
  have hpos := k.pos
  have hlimit : k.limit ≤ sorted.length := by omega
  have hlast := h hle
  rw [Feed.getLast?_page hpos hlimit] at hlast
  obtain ⟨r, hr⟩ : ∃ r, sorted[k.limit - 1]? = some r := ⟨_, List.getElem?_eq_getElem (by omega)⟩
  rw [show k.feed.limit = k.limit from rfl, hr] at hlast
  cases hlast

lemma length_pages (h : k.feed.Run rows pages) (hnodup : (rows.map k.key).Nodup) :
    pages.length = (rows.length - k.extra) / k.limit + 1 := by
  induction h with
  | last hs hnext =>
    have hlt := nextCursor_eq_none.mp hnext
    rw [hs.1.length_eq] at hlt
    rw [Nat.div_eq_of_lt (by have hpos := k.pos; omega)]
    rfl
  | @more rows sorted c pages hs hnext _ ih =>
    have hle : k.limit + k.extra ≤ rows.length := hs.1.length_eq ▸ (Feed.nextCursor_eq_some.mp hnext).1
    have hfilter := ih (hnodup.sublist (List.filter_sublist.map _))
    rw [length_filter hs hnodup hnext] at hfilter
    rw [List.length_cons, hfilter, Nat.sub_right_comm,
      Nat.div_eq_sub_div k.pos (show k.limit ≤ rows.length - k.extra by omega)]

lemma flatten_take (h : k.feed.Run rows pages) (j : ℕ) :
    (pages.take (j + 1)).flatten = pages.flatten.take ((j + 1) * k.limit) := by
  induction h generalizing j with
  | @last rows sorted hs hnext =>
    have hone : k.limit ≤ (j + 1) * k.limit := Nat.le_mul_of_pos_left _ (Nat.succ_pos j)
    rw [List.take_succ_cons, List.take_nil, List.flatten_cons, List.flatten_nil, List.append_nil]
    exact (List.take_of_length_le ((List.length_take_le _ _).trans hone)).symm
  | @more rows sorted c pages hs hnext _ ih =>
    have hfull : (sorted.take k.limit).length = k.limit := by
      have hle : k.limit + k.extra ≤ sorted.length := (Feed.nextCursor_eq_some.mp hnext).1
      rw [List.length_take]
      omega
    rw [List.take_succ_cons, List.flatten_cons, List.flatten_cons, Nat.succ_mul, Nat.add_comm]
    change sorted.take k.limit ++ _ = (sorted.take k.limit ++ _).take _
    rw [List.take_append, hfull, Nat.add_sub_cancel_left,
      List.take_of_length_le (show (sorted.take k.limit).length ≤ k.limit + j * k.limit by omega)]
    cases j with
    | zero => simp
    | succ j => rw [ih]

lemma follows (h : Follows k.feed.Page none pages) :
    pages.flatten.Perm k.rows ∧ (pages.flatten.Pairwise fun a b => k.key b < k.key a) ∧
      pages.length = (k.rows.length - k.extra) / k.limit + 1 ∧
      ∀ j, k.rows ⊆ (pages.take (j + 1)).flatten ↔ k.rows.length ≤ (j + 1) * k.limit := by
  have hrun := k.sound.follows_iff_run.mp h
  obtain ⟨hperm, hsorted⟩ := Feed.Run.exact k.pos k.extra_le hrun fun _ hs => splits hs k.nodup
  refine ⟨hperm, pairwise_lt ⟨hperm, hsorted⟩ k.nodup, length_pages hrun k.nodup, fun j => ?_⟩
  rw [flatten_take hrun j]
  have hrows : k.rows.Nodup := List.Nodup.of_map _ k.nodup
  have hlength : pages.flatten.length = k.rows.length := hperm.length_eq
  constructor
  · intro hsub
    have hle := (List.subperm_of_subset hrows hsub).length_le
    rw [List.length_take] at hle
    omega
  · intro hle x hx
    rw [List.take_of_length_le (by omega)]
    exact hperm.mem_iff.mpr hx

/-- No page is left when all rows have come: one row more than the page is read, or the last page is not
full. -/
theorem closes_iff (k : Keyset α κ) :
    (∀ j, k.rows.length ≤ (j + 1) * k.limit → (k.rows.length - k.extra) / k.limit + 1 ≤ j + 1) ↔
      k.extra = 1 ∨ k.rows = [] ∨ ¬ k.limit ∣ k.rows.length := by
  have hpos := k.pos
  have hextra := k.extra_le
  constructor
  · intro h
    by_contra hex
    push Not at hex
    obtain ⟨hone, hne, q, hq⟩ := hex
    have hzero : k.extra = 0 := by omega
    have hlen : 0 < k.rows.length := List.length_pos_of_ne_nil hne
    cases q with
    | zero => omega
    | succ q =>
      have hle := h q (by rw [hq, Nat.mul_comm])
      rw [hzero, Nat.sub_zero, hq, Nat.mul_div_cancel_left _ hpos] at hle
      omega
  · intro h j hle
    have hlt : (k.rows.length - k.extra) / k.limit < j + 1 ↔ k.rows.length - k.extra < (j + 1) * k.limit :=
      Nat.div_lt_iff_lt_mul hpos
    refine hlt.mpr ?_
    have hj : 0 < (j + 1) * k.limit := Nat.mul_pos (Nat.succ_pos j) hpos
    rcases h with h | h | h
    · omega
    · rw [h]
      simpa using hj
    · have hne : k.rows.length ≠ (j + 1) * k.limit := fun he => h (he ▸ Nat.dvd_mul_left ..)
      omega

end Keyset

lemma descending_pairwise {α κ : Type*} [LinearOrder κ] {key : α → κ} {rows : List α}
    (h : (rows.map key).Nodup) : (descending key rows).Pairwise fun a b => key b < key a :=
  Keyset.pairwise_lt (k := ⟨rows, key, h, 1, Nat.one_pos, 0, Nat.zero_le 1⟩) (Keyset.sorts_descending rows) h

end Yappy.Pages
