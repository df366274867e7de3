import Mathlib

/-!
# Maps that remember the order of insertion

A text-keyed object of a scripting language, or a linked hash map: setting a key that is
present keeps its place, a new key goes last. The entries are kept newest first, so `set`
conses and `oldest` reads from the far end.
-/
namespace Yappy

abbrev OrderedMap (α β : Type) := AList (fun _ : α => β)

namespace OrderedMap
variable {α β : Type} [DecidableEq α]

def set (m : OrderedMap α β) (k : α) (v : β) : OrderedMap α β :=
  if k ∈ m then m.replace k v else m.insert k v

def oldest (m : OrderedMap α β) : List α := m.keys.reverse

def size (m : OrderedMap α β) : ℕ := m.keys.length

def eraseAll (m : OrderedMap α β) (ks : List α) : OrderedMap α β :=
  ks.foldl (fun m k => m.erase k) m

/-- Forget the first keys of `order` until at most `cap` entries remain. -/
def dropFirst (order : List α) (cap : ℕ) (m : OrderedMap α β) : OrderedMap α β :=
  eraseAll m (order.take (size m - cap))

private theorem dlookup_kreplace (k k' : α) (v : β) (l : List (Sigma fun _ : α => β)) :
    (l.kreplace k v).dlookup k' =
      if k' = k then (l.dlookup k).map (fun _ => v) else l.dlookup k' := by
  induction l with
  | nil => simp [List.kreplace]
  | cons e l ih =>
    obtain ⟨a, b⟩ := e
    by_cases h : k = a
    · subst h
      have hr : List.kreplace k v (⟨k, b⟩ :: l) = ⟨k, v⟩ :: l :=
        List.lookmap_cons_some _ _ (by simp)
      rw [hr]
      by_cases hk : k' = k
      · subst hk
        simp
      · rw [if_neg hk, List.dlookup_cons_ne _ _ hk, List.dlookup_cons_ne _ _ hk]
    · have hr : List.kreplace k v (⟨a, b⟩ :: l) = ⟨a, b⟩ :: List.kreplace k v l :=
        List.lookmap_cons_none _ _ (by simp [h])
      rw [hr]
      by_cases hk : k' = a
      · subst hk
        simp [Ne.symm h]
      · rw [List.dlookup_cons_ne _ _ hk, ih, List.dlookup_cons_ne _ _ h,
          List.dlookup_cons_ne _ _ hk]

lemma lookup_set (m : OrderedMap α β) (k k' : α) (v : β) :
    (set m k v).lookup k' = if k' = k then some v else m.lookup k' := by
  unfold set
  split_ifs with hm hk hk
  · obtain ⟨w, hw⟩ := Option.isSome_iff_exists.mp (AList.lookup_isSome.mpr hm)
    have hd := dlookup_kreplace k k' v m.entries
    rw [if_pos hk, show m.entries.dlookup k = some w from hw] at hd
    exact hd
  · have hd := dlookup_kreplace k k' v m.entries
    rwa [if_neg hk] at hd
  · subst hk
    exact AList.lookup_insert m
  · exact AList.lookup_insert_ne hk

@[simp] lemma lookup_set_self (m : OrderedMap α β) (k : α) (v : β) :
    (set m k v).lookup k = some v := by
  simp [lookup_set]

@[simp] lemma mem_set (m : OrderedMap α β) (k k' : α) (v : β) :
    k' ∈ set m k v ↔ k' = k ∨ k' ∈ m := by
  unfold set
  split_ifs with hm
  · rw [AList.mem_replace]
    exact ⟨Or.inr, fun h => h.elim (fun e => e ▸ hm) id⟩
  · exact AList.mem_insert m

lemma size_set_le (m : OrderedMap α β) (k : α) (v : β) : size (set m k v) ≤ size m + 1 := by
  unfold set size
  split_ifs with hm
  · simp
  · have := List.length_erase_le (a := k) (l := m.keys)
    simpa using this

lemma dropFirst_of_le {order : List α} {cap : ℕ} {m : OrderedMap α β} (h : size m ≤ cap) :
    dropFirst order cap m = m := by
  simp [dropFirst, Nat.sub_eq_zero_of_le h, eraseAll]

lemma size_erase {m : OrderedMap α β} {k : α} (h : k ∈ m) : size (m.erase k) + 1 = size m := by
  unfold size
  rw [AList.keys_erase, List.length_erase_of_mem h]
  have hpos := List.length_pos_of_mem (AList.mem_keys.mp h)
  omega

lemma size_eraseAll {m : OrderedMap α β} {ks : List α} (hnodup : ks.Nodup) (h : ∀ k ∈ ks, k ∈ m) :
    size (eraseAll m ks) + ks.length = size m := by
  induction ks generalizing m with
  | nil => rfl
  | cons k ks ih =>
    obtain ⟨hk, hks⟩ := List.nodup_cons.mp hnodup
    have hrest : ∀ k' ∈ ks, k' ∈ m.erase k := fun k' hk' =>
      AList.mem_erase.mpr ⟨fun he => hk (he ▸ hk'), h k' (List.mem_cons_of_mem _ hk')⟩
    have hsize := ih hks hrest
    have hone := size_erase (h k List.mem_cons_self)
    rw [List.length_cons]
    change size (eraseAll (m.erase k) ks) + _ = _
    omega

lemma size_dropFirst_oldest (cap : ℕ) (m : OrderedMap α β) : size (dropFirst (oldest m) cap m) ≤ cap := by
  have hlength : (oldest m).length = size m := List.length_reverse
  have hnodup : ((oldest m).take (size m - cap)).Nodup :=
    (List.nodup_reverse.mpr m.nodupKeys).sublist (List.take_sublist ..)
  have hsize := size_eraseAll hnodup fun k hk =>
    AList.mem_keys.mpr (List.mem_reverse.mp (List.mem_of_mem_take hk))
  rw [List.length_take, hlength] at hsize
  unfold dropFirst
  omega

end OrderedMap
end Yappy
