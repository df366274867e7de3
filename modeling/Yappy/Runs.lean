import Mathlib

/-!
# Runs

What holds at the start and survives every step holds at the end of every run, and what
survives only the steps that meet a condition holds at the end of the runs that meet it
throughout.
-/
namespace Yappy

/-- A run of `step` in which every step, seen from the state before it, meets `ok`. -/
def RunWhere {σ ι : Type*} (step : σ → ι → σ → Prop) (ok : σ → ι → Prop) : σ → σ → Prop :=
  Relation.ReflTransGen fun s s' => ∃ i, ok s i ∧ step s i s'

namespace RunWhere
variable {σ ι : Type*} {step : σ → ι → σ → Prop} {ok : σ → ι → Prop} {inv : σ → Prop} {s s' : σ}

lemma refl (s : σ) : RunWhere step ok s s := Relation.ReflTransGen.refl

lemma tail {s'' : σ} {i : ι} (h : RunWhere step ok s s') (hok : ok s' i)
    (hs : step s' i s'') : RunWhere step ok s s'' :=
  Relation.ReflTransGen.tail h ⟨i, hok, hs⟩

lemma on {s'' : σ} {i : ι} (h : RunWhere step ok s s') (hs : step s' i s'') (hok : ok s' i) :
    RunWhere step ok s s'' := h.tail hok hs

lemma head {s'' : σ} {i : ι} (hok : ok s i) (hs : step s i s') (h : RunWhere step ok s' s'') :
    RunWhere step ok s s'' :=
  Relation.ReflTransGen.head ⟨i, hok, hs⟩ h

lemma mono {ok' : σ → ι → Prop} (h : RunWhere step ok s s') (hok : ∀ s i, ok s i → ok' s i) :
    RunWhere step ok' s s' := by
  induction h with
  | refl => exact refl s
  | tail _ hlast ih =>
    obtain ⟨i, hi, hs⟩ := hlast
    exact ih.tail (hok _ i hi) hs

/-- An invariant of every step that meets the condition is one of the whole run. -/
theorem invariant (h : RunWhere step ok s s') (h₀ : inv s)
    (hstep : ∀ s i s', inv s → ok s i → step s i s' → inv s') : inv s' := by
  induction h with
  | refl => exact h₀
  | tail _ hlast ih =>
    obtain ⟨i, hok, hs⟩ := hlast
    exact hstep _ i _ ih hok hs

end RunWhere

/-- A run with its record: each step as the state before it, the event and the state after. -/
inductive History {σ ι : Type*} (step : σ → ι → σ → Prop) : σ → List (σ × ι × σ) → σ → Prop
  | start (s : σ) : History step s [] s
  | snoc {s s' s'' : σ} {entries : List (σ × ι × σ)} {i : ι} (h : History step s entries s')
      (hs : step s' i s'') : History step s (entries ++ [(s', i, s'')]) s''

namespace History
variable {σ ι : Type*} {step : σ → ι → σ → Prop} {s s' : σ} {entries : List (σ × ι × σ)}

/-- What one step satisfies from a state with the invariant, every recorded step satisfies. -/
theorem forall_entries {inv : σ → Prop} {ok : σ → ι → Prop} {post : σ → ι → σ → Prop}
    (h : History step s entries s') (h₀ : inv s)
    (hstep : ∀ s i s', inv s → ok s i → step s i s' → inv s' ∧ post s i s')
    (hok : ∀ e ∈ entries, ok e.1 e.2.1) :
    inv s' ∧ ∀ e ∈ entries, post e.1 e.2.1 e.2.2 := by
  induction h with
  | start => exact ⟨h₀, by simp⟩
  | @snoc s' s'' entries i _ hs ih =>
    obtain ⟨hinv, hpost⟩ := ih fun e he => hok e (by simp [he])
    obtain ⟨hinv', hlast⟩ := hstep s' i s'' hinv (hok (s', i, s'') (by simp)) hs
    refine ⟨hinv', fun e he => ?_⟩
    rcases List.mem_append.mp he with he | he
    · exact hpost e he
    · obtain rfl := List.mem_singleton.mp he
      exact hlast

lemma of_run {ok : σ → ι → Prop} (h : RunWhere step ok s s') :
    ∃ entries, History step s entries s' ∧ ∀ e ∈ entries, ok e.1 e.2.1 := by
  induction h with
  | refl => exact ⟨[], .start s, by simp⟩
  | tail _ hlast ih =>
    obtain ⟨i, hok, hs⟩ := hlast
    obtain ⟨entries, hrun, hall⟩ := ih
    refine ⟨_, hrun.snoc hs, fun e he => ?_⟩
    rcases List.mem_append.mp he with he | he
    · exact hall e he
    · obtain rfl := List.mem_singleton.mp he
      exact hok

end History
end Yappy
