import Mathlib

/-!
# The first of each key

The entries of a list whose key has not been used before, in the order of the list.
-/
namespace Yappy

variable {α β γ : Type} [DecidableEq β]

/-- Those whose key is neither in `used` nor that of an entry before. -/
def firsts (key : α → β) : List β → List α → List α
  | _, [] => []
  | used, a :: rest =>
    if key a ∈ used then firsts key used rest else a :: firsts key (key a :: used) rest

variable {key : α → β} {used used' : List β} {l l₁ l₂ : List α} {a b : α}

@[simp] lemma firsts_nil : firsts key used [] = [] := rfl

lemma firsts_cons_of_mem (h : key a ∈ used) : firsts key used (a :: l) = firsts key used l :=
  if_pos h

lemma firsts_cons_of_not_mem (h : key a ∉ used) :
    firsts key used (a :: l) = a :: firsts key (key a :: used) l := if_neg h

lemma firsts_sublist : List.Sublist (firsts key used l) l := by
  induction l generalizing used with
  | nil => exact List.Sublist.refl _
  | cons a l ih =>
    by_cases h : key a ∈ used
    · rw [firsts_cons_of_mem h]
      exact ih.cons a
    · rw [firsts_cons_of_not_mem h]
      exact ih.cons_cons a

lemma mem_of_mem_firsts (h : a ∈ firsts key used l) : a ∈ l := firsts_sublist.subset h

lemma unused_of_mem_firsts (h : a ∈ firsts key used l) : key a ∉ used := by
  induction l generalizing used with
  | nil => cases h
  | cons b l ih =>
    by_cases hb : key b ∈ used
    · rw [firsts_cons_of_mem hb] at h
      exact ih h
    · rw [firsts_cons_of_not_mem hb] at h
      rcases List.mem_cons.mp h with rfl | h
      · exact hb
      · exact fun ha => ih h (List.mem_cons_of_mem _ ha)

lemma firsts_nodup : ((firsts key used l).map key).Nodup := by
  induction l generalizing used with
  | nil => exact List.nodup_nil
  | cons a l ih =>
    by_cases h : key a ∈ used
    · rw [firsts_cons_of_mem h]
      exact ih
    · rw [firsts_cons_of_not_mem h, List.map_cons, List.nodup_cons]
      refine ⟨fun ha => ?_, ih⟩
      obtain ⟨b, hb, hkey⟩ := List.mem_map.mp ha
      exact unused_of_mem_firsts hb (hkey ▸ List.mem_cons_self)

lemma firsts_inj (ha : a ∈ firsts key used l) (hb : b ∈ firsts key used l) (h : key a = key b) :
    a = b := List.inj_on_of_nodup_map firsts_nodup ha hb h

lemma exists_mem_firsts (ha : a ∈ l) (h : key a ∉ used) :
    ∃ b ∈ firsts key used l, key b = key a := by
  induction l generalizing used with
  | nil => cases ha
  | cons b l ih =>
    by_cases hb : key b ∈ used
    · rw [firsts_cons_of_mem hb]
      rcases List.mem_cons.mp ha with rfl | ha
      · exact absurd hb h
      · exact ih ha h
    · rw [firsts_cons_of_not_mem hb]
      by_cases hab : key b = key a
      · exact ⟨b, List.mem_cons_self, hab⟩
      · have ha : a ∈ l := (List.mem_cons.mp ha).resolve_left fun he => hab (he ▸ rfl)
        have hnew : key a ∉ key b :: used := by
          rw [List.mem_cons]
          rintro (he | he)
          · exact hab he.symm
          · exact h he
        obtain ⟨c, hc, hkey⟩ := ih ha hnew
        exact ⟨c, List.mem_cons_of_mem _ hc, hkey⟩

lemma firsts_congr (h : ∀ a ∈ l, key a ∈ used ↔ key a ∈ used') :
    firsts key used l = firsts key used' l := by
  induction l generalizing used used' with
  | nil => rfl
  | cons a l ih =>
    have ha := h a List.mem_cons_self
    have hl := fun b hb => h b (List.mem_cons_of_mem a hb)
    by_cases hu : key a ∈ used
    · rw [firsts_cons_of_mem hu, firsts_cons_of_mem (ha.mp hu)]
      exact ih hl
    · rw [firsts_cons_of_not_mem hu, firsts_cons_of_not_mem (fun hu' => hu (ha.mpr hu'))]
      refine congrArg (a :: ·) (ih fun b hb => ?_)
      rw [List.mem_cons, List.mem_cons, hl b hb]

lemma firsts_append : firsts key used (l₁ ++ l₂) =
    firsts key used l₁ ++ firsts key ((firsts key used l₁).map key ++ used) l₂ := by
  induction l₁ generalizing used with
  | nil => rfl
  | cons a l₁ ih =>
    rw [List.cons_append]
    by_cases h : key a ∈ used
    · rw [firsts_cons_of_mem h, firsts_cons_of_mem h]
      exact ih
    · rw [firsts_cons_of_not_mem h, firsts_cons_of_not_mem h, List.cons_append, ih]
      refine congrArg (a :: _ ++ ·) (firsts_congr fun b _ => ?_)
      simp only [List.map_cons, List.mem_append, List.mem_cons]
      tauto

lemma firsts_eq_nil (h : ∀ a ∈ l, key a ∈ used) : firsts key used l = [] := by
  induction l with
  | nil => rfl
  | cons a l ih =>
    rw [firsts_cons_of_mem (h a List.mem_cons_self)]
    exact ih fun b hb => h b (List.mem_cons_of_mem a hb)

lemma firsts_map {δ : Type} (f : δ → α) (l : List δ) :
    firsts key used (l.map f) = (firsts (key ∘ f) used l).map f := by
  induction l generalizing used with
  | nil => rfl
  | cons d l ih =>
    rw [List.map_cons]
    by_cases h : key (f d) ∈ used
    · rw [firsts_cons_of_mem h, @firsts_cons_of_mem _ _ _ (key ∘ f) _ _ _ h]
      exact ih
    · rw [firsts_cons_of_not_mem h, @firsts_cons_of_not_mem _ _ _ (key ∘ f) _ _ _ h, List.map_cons, ih]
      rfl

lemma firsts_flatMap {ι : Type} (is : List ι) (his : is ≠ []) :
    firsts key used (is.flatMap fun _ => l) = firsts key used l := by
  cases is with
  | nil => exact absurd rfl his
  | cons i is =>
    rw [List.flatMap_cons, firsts_append]
    refine (congrArg _ (firsts_eq_nil fun a ha => ?_)).trans (List.append_nil _)
    obtain ⟨-, -, ha⟩ := List.mem_flatMap.mp ha
    rw [List.mem_append]
    by_cases hu : key a ∈ used
    · exact Or.inr hu
    · obtain ⟨b, hb, hkey⟩ := exists_mem_firsts ha hu
      exact Or.inl (hkey ▸ List.mem_map_of_mem hb)

lemma firsts_filter [DecidableEq γ] {p : α → Bool} {g : α → γ} {seen : List γ}
    (hused : ∀ a ∈ l, p a = true → (key a ∈ used ↔ g a ∈ seen))
    (hkey : ∀ a ∈ l, ∀ b ∈ l, p a = true → p b = true → (key a = key b ↔ g a = g b))
    (hapart : ∀ a ∈ l, ∀ b ∈ l, p a = true → p b = false → key a ≠ key b) :
    (firsts key used l).filter p = firsts g seen (l.filter p) := by
  induction l generalizing used seen with
  | nil => rfl
  | cons a l ih =>
    have ih : ∀ {used : List β} {seen : List γ},
        (∀ a ∈ l, p a = true → (key a ∈ used ↔ g a ∈ seen)) →
        (firsts key used l).filter p = firsts g seen (l.filter p) := fun hused =>
      ih hused (fun b hb c hc => hkey b (List.mem_cons_of_mem _ hb) c (List.mem_cons_of_mem _ hc))
        fun b hb c hc => hapart b (List.mem_cons_of_mem _ hb) c (List.mem_cons_of_mem _ hc)
    have hl := fun b hb => hused b (List.mem_cons_of_mem a hb)
    cases hp : p a with
    | false =>
      rw [List.filter_cons_of_neg (by simp [hp])]
      by_cases h : key a ∈ used
      · rw [firsts_cons_of_mem h]
        exact ih hl
      · rw [firsts_cons_of_not_mem h, List.filter_cons_of_neg (by simp [hp])]
        refine ih fun b hb hpb => ?_
        rw [List.mem_cons, ← hl b hb hpb]
        have hne := hapart b (List.mem_cons_of_mem _ hb) a List.mem_cons_self hpb hp
        simp [hne]
    | true =>
      rw [List.filter_cons_of_pos hp]
      have ha := hused a List.mem_cons_self hp
      by_cases h : key a ∈ used
      · rw [firsts_cons_of_mem h, firsts_cons_of_mem (ha.mp h)]
        exact ih hl
      · rw [firsts_cons_of_not_mem h, firsts_cons_of_not_mem (fun hs => h (ha.mpr hs)),
          List.filter_cons_of_pos hp]
        refine congrArg (a :: ·) (ih fun b hb hpb => ?_)
        rw [List.mem_cons, List.mem_cons, hl b hb hpb,
          hkey b (List.mem_cons_of_mem _ hb) a List.mem_cons_self hpb hp]

end Yappy
