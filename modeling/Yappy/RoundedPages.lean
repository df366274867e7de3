import Yappy.KeysetPages

/-!
# Cursors that are rounded keys

Where the rows are listed by descending key and a cursor is the key of a page's last row, rounded down, rows
that come next to one another may fall on one side of it. The pages are exact just where every page ends before
a row that is below its cursor.
-/
namespace Yappy.Pages

structure Rounded (α κ : Type*) [LinearOrder κ] where
  rows : List α
  nodup : rows.Nodup
  key : α → κ
  round : κ → κ
  round_le : ∀ c, round c ≤ c
  limit : ℕ
  pos : 0 < limit

namespace Rounded
variable {α κ : Type*} [LinearOrder κ]

/-- `ORDER BY key DESC`, and a cursor that lets through what is below it. -/
def feed (p : Rounded α κ) : Feed α κ where
  rows := p.rows
  le a b := p.key b ≤ p.key a
  after c x := p.key x < c
  next r := some (p.round (p.key r))
  limit := p.limit
  extra := 0

def keys (p : Rounded α κ) : List κ := descending id (p.rows.map p.key)

def Cut (p : Rounded α κ) : Prop :=
  ∀ j c c', p.keys[(j + 1) * p.limit - 1]? = some c → p.keys[(j + 1) * p.limit]? = some c' → c' < p.round c

variable {p : Rounded α κ} {rows sorted : List α}

lemma sound (p : Rounded α κ) : p.feed.Sound where
  pos := p.pos
  extra_le := Nat.zero_le 1
  nodup := p.nodup
  behind r c hc := by
    obtain rfl := Option.some.inj hc
    exact decide_eq_false (not_lt.mpr (p.round_le _))
  nested r c c' x hr hc hx := by
    obtain rfl := Option.some.inj hc
    have hlt : p.key x < p.key r := lt_of_lt_of_le (of_decide_eq_true hx) (p.round_le _)
    exact decide_eq_true (hlt.trans (of_decide_eq_true hr))
  sorts rows := ⟨_, descending_perm p.key rows, descending_sorted p.key rows⟩

lemma map_key (hs : p.feed.Sorts p.rows sorted) : sorted.map p.key = p.keys := by
  refine ((hs.1.map p.key).trans (descending_perm id _).symm).eq_of_pairwise
    (fun a b _ _ hab hba => le_antisymm hba hab) ?_
    (descending_sorted id _)
  exact List.pairwise_map.mpr hs.2

lemma splits_iff (hs : p.feed.Sorts p.rows sorted) : p.feed.Splits sorted ↔ p.Cut := by
  have hkey : ∀ i, p.keys[i]? = sorted[i]?.map p.key := fun i => by rw [← map_key hs, List.getElem?_map]
  constructor
  · intro h j c c' hc hc'
    rw [hkey] at hc hc'
    obtain ⟨r, hr, rfl⟩ := Option.map_eq_some_iff.mp hc
    obtain ⟨x, hx, rfl⟩ := Option.map_eq_some_iff.mp hc'
    have hlt := (List.getElem?_eq_some_iff.mp hx).1
    rcases h j r (le_of_lt hlt) hr with ⟨c, hnext, hcut⟩ | ⟨hnone, -⟩
    · obtain rfl := Option.some.inj hnext
      exact of_decide_eq_true ((hcut _ x hx).mpr le_rfl)
    · cases hnone
  · intro h j r hlen hr
    change sorted[(j + 1) * p.limit - 1]? = some r at hr
    change (j + 1) * p.limit ≤ sorted.length at hlen
    refine Or.inl ⟨_, rfl, fun i x hx => ?_⟩
    obtain ⟨hi, hx'⟩ := List.getElem?_eq_some_iff.mp hx
    have hsorted := List.pairwise_iff_getElem.mp hs.2
    obtain ⟨hj, hr'⟩ := List.getElem?_eq_some_iff.mp hr
    have hle : ∀ {a b : ℕ} (ha : a < sorted.length) (hb : b < sorted.length), a ≤ b →
        p.key sorted[b] ≤ p.key sorted[a] := fun ha hb hab => by
      rcases Nat.eq_or_lt_of_le hab with rfl | hab
      · exact le_rfl
      · exact hsorted _ _ ha hb hab
    have hpage : 0 < (j + 1) * p.limit := Nat.mul_pos (Nat.succ_pos j) p.pos
    change p.feed.after _ x = true ↔ (j + 1) * p.limit ≤ i
    constructor
    · intro hafter
      by_contra hlt
      have hbefore := hle hi hj (by omega)
      rw [hr', hx'] at hbefore
      exact absurd ((of_decide_eq_true hafter).trans_le (p.round_le _)) (not_lt.mpr hbefore)
    · intro hin
      have hlt : (j + 1) * p.limit < sorted.length := by omega
      have hfirst : p.keys[(j + 1) * p.limit]? = some (p.key sorted[(j + 1) * p.limit]) := by
        rw [hkey, List.getElem?_eq_getElem hlt]
        rfl
      have hcut := h j _ _ (by rw [hkey, hr]; rfl) hfirst
      have hlater := hle hlt hi hin
      rw [hx'] at hlater
      exact decide_eq_true (hlater.trans_lt hcut)

lemma exact_iff : (∀ pages, Follows p.feed.Page none pages → pages.flatten.Perm p.rows) ↔ p.Cut := by
  refine p.sound.exact_iff.trans ⟨fun h => ?_, fun h sorted hs => (splits_iff hs).mpr h⟩
  obtain ⟨sorted, hs⟩ := p.sound.sorts p.rows
  exact (splits_iff hs).mp (h sorted hs)

end Rounded

end Yappy.Pages
