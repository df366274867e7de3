import Mathlib

/-!
# Refreshing on Android

`execute` and `refreshTokens` of `ApiClient.kt`: a request that is refused with its access token refreshes under
a lock and is sent once more. Calls overlap in any way, and somebody may sign in or out at any time.
-/
namespace Yappy.AndroidRefresh

/-- Where a call is: under way with a token, refused and queueing for the lock, holding it with what it read,
waiting for the answer to its refresh token, about to be sent again, or done. -/
inductive Stage
  | idle
  | sent (access : ℕ)
  | queued (access : ℕ)
  | holding (access : ℕ) (before : Option ℕ) (refresh : ℕ)
  | posting (access refresh : ℕ)
  | rotated (access : ℕ)
  | done

structure Client where
  access : Option ℕ
  refresh : Option ℕ
  lock : Option ℕ
  calls : ℕ → Stage
  /-- The access tokens so far, those that a refresh has replaced, and those that it got. -/
  issued : List ℕ
  replaced : List ℕ
  gained : List ℕ
  /-- For which token a refresh was requested although one for it had succeeded, the two tokens of each call sent
  again, and the sign-outs without a refusal of the refresh token that was stored. -/
  again : List ℕ
  retried : List (ℕ × Option ℕ)
  unrefused : List ℕ

def Client.move (s : Client) (k : ℕ) (stage : Stage) : Client :=
  { s with calls := Function.update s.calls k stage }

inductive Answer
  | rotated (access refresh : ℕ)
  | rejected
  | transient

inductive Event
  | send (k : ℕ)
  | unauthorized (k : ℕ)
  | other (k : ℕ)
  | lock (k : ℕ)
  | check (k : ℕ)
  | answer (k : ℕ) (a : Answer)
  | retry (k : ℕ)
  | signIn (access refresh : ℕ)
  | signOut

/-- An access token that the server gives out is a new one. A call sent again refreshes no more. -/
def Client.step (s : Client) : Event → Client
  | .send k =>
    match s.calls k, s.access with
    | .idle, some access => s.move k (.sent access)
    | _, _ => s
  | .unauthorized k =>
    match s.calls k with
    | .sent access => s.move k (.queued access)
    | _ => s
  | .other k =>
    match s.calls k with
    | .sent _ => s.move k .done
    | _ => s
  | .lock k =>
    match s.calls k, s.lock with
    | .queued access, none =>
      match s.refresh with
      | none => { s.move k .done with unrefused := k :: s.unrefused }
      | some refresh => { s.move k (.holding access s.access refresh) with lock := some k }
    | _, _ => s
  | .check k =>
    match s.calls k with
    | .holding access before refresh =>
      if before ≠ s.access then { s.move k (.rotated access) with lock := none }
      else { s.move k (.posting access refresh) with
        again := if access ∈ s.replaced then access :: s.again else s.again }
    | _ => s
  | .answer k a =>
    match s.calls k with
    | .posting access refresh =>
      match a with
      | .rotated access' refresh' =>
        if access' ∈ s.issued then s
        else { s.move k (.rotated access) with
          access := some access', refresh := some refresh', lock := none, issued := access' :: s.issued
          replaced := access :: s.replaced, gained := access' :: s.gained }
      | .rejected => { s.move k .done with
          lock := none, unrefused := if s.refresh = some refresh then s.unrefused else k :: s.unrefused }
      | .transient => { s.move k .done with lock := none }
    | _ => s
  | .retry k =>
    match s.calls k with
    | .rotated access => { s.move k .done with retried := (access, s.access) :: s.retried }
    | _ => s
  | .signIn access refresh =>
    if access ∈ s.issued then s
    else { s with access := some access, refresh := some refresh, issued := access :: s.issued }
  | .signOut => { s with access := none, refresh := none }

def run (s : Client) (events : List Event) : Client := events.foldl Client.step s

def start (access refresh : ℕ) : Client :=
  { access := some access, refresh := some refresh, lock := none, calls := fun _ => .idle, issued := [access]
    replaced := [], gained := [], again := [], retried := [], unrefused := [] }

/-- Once a refresh for a token has succeeded no other is requested, a call is sent again with a token that a
refresh got, and signs out only when the stored refresh token was refused. -/
def Client.SingleFlight (s : Client) : Prop :=
  s.again = [] ∧ (∀ r ∈ s.retried, r.2 ≠ some r.1 ∧ ∃ access ∈ s.gained, r.2 = some access) ∧ s.unrefused = []

def Stage.Refreshing : Stage → Prop
  | .holding .. | .posting .. | .rotated _ => True
  | _ => False

/-- A call takes the lock while its token is still the stored one, and nobody signs in or out before it is sent
again. -/
def Orderly (s : Client) : Event → Prop
  | .lock k => ∀ access, s.calls k = .queued access → s.access = some access ∧ s.refresh.isSome
  | .signIn .. | .signOut => ∀ k, ¬ (s.calls k).Refreshing
  | _ => True

def OrderlyRun : Client → List Event → Prop
  | _, [] => True
  | s, e :: events => Orderly s e ∧ OrderlyRun (s.step e) events

def Client.Relies (s : Client) (k : ℕ) : Stage → Prop
  | .sent access | .queued access => access ∈ s.issued
  | .holding access before refresh =>
    s.lock = some k ∧ s.access = some access ∧ before = s.access ∧ s.refresh = some refresh
  | .posting access refresh => s.lock = some k ∧ s.access = some access ∧ s.refresh = some refresh
  | .rotated access => access ∈ s.issued ∧ s.access ≠ some access ∧ ∃ a ∈ s.gained, s.access = some a
  | _ => True

structure Client.Kept (s : Client) : Prop where
  relies : ∀ k, s.Relies k (s.calls k)
  stored : ∀ a, s.access = some a → a ∈ s.issued ∧ a ∉ s.replaced
  replaced : ∀ a ∈ s.replaced, a ∈ s.issued
  single : s.SingleFlight

lemma Client.Kept.move {s s' : Client} (h : s.Kept) {k : ℕ} {stage : Stage}
    (hcalls : s'.calls = Function.update s.calls k stage) (hk : s'.Relies k stage)
    (hother : ∀ k', k' ≠ k → s.Relies k' (s.calls k') → s'.Relies k' (s.calls k'))
    (hstored : ∀ a, s'.access = some a → a ∈ s'.issued ∧ a ∉ s'.replaced)
    (hreplaced : ∀ a ∈ s'.replaced, a ∈ s'.issued) (hsingle : s'.SingleFlight) : s'.Kept where
  relies k' := by
    rw [hcalls, Function.update_apply]
    split_ifs with he
    · exact he ▸ hk
    · exact hother k' he (h.relies k')
  stored := hstored
  replaced := hreplaced
  single := hsingle

theorem Client.Kept.step {s : Client} (h : s.Kept) {e : Event} (hok : Orderly s e) : (s.step e).Kept := by
  obtain ⟨hrelies, hstored, hreplaced, hsingle⟩ := id h
  cases e with
  | send k =>
    simp only [Client.step]
    split
    · rename_i access _ haccess
      exact h.move rfl (hstored access haccess).1 (fun k' _ hk' => hk') hstored hreplaced hsingle
    · exact h
  | unauthorized k =>
    simp only [Client.step]
    split
    · rename_i access hk
      have := hrelies k
      rw [hk] at this
      exact h.move rfl this (fun k' _ hk' => hk') hstored hreplaced hsingle
    · exact h
  | other k =>
    simp only [Client.step]
    split
    · exact h.move rfl trivial (fun k' _ hk' => hk') hstored hreplaced hsingle
    · exact h
  | lock k =>
    simp only [Client.step]
    split
    · rename_i access hk hlock
      obtain ⟨haccess, hrefresh⟩ := hok access hk
      split
      · simp_all
      · rename_i refresh hsome
        refine h.move rfl ⟨rfl, haccess, rfl, hsome⟩ (fun k' _ hk' => ?_) hstored hreplaced hsingle
        cases hstage : s.calls k' <;> simp_all [Client.Relies, Client.move]
    · exact h
  | check k =>
    simp only [Client.step]
    split
    · rename_i access before refresh hk
      obtain ⟨hlock, haccess, hbefore, hrefresh⟩ : s.Relies k (.holding access before refresh) := hk ▸ hrelies k
      rw [if_neg (not_not.mpr hbefore)]
      have hnew : access ∉ s.replaced := (hstored access haccess).2
      refine h.move rfl ⟨hlock, haccess, hrefresh⟩ (fun k' _ hk' => hk') hstored hreplaced ?_
      simpa [Client.SingleFlight, hnew, Client.move] using hsingle
    · exact h
  | answer k a =>
    simp only [Client.step]
    split
    · rename_i access refresh hk
      obtain ⟨hlock, haccess, hrefresh⟩ : s.Relies k (.posting access refresh) := hk ▸ hrelies k
      -- Nobody else has the lock.
      have hother : ∀ k', k' ≠ k → (∀ a b c, s.calls k' ≠ .holding a b c) ∧
          ∀ a b, s.calls k' ≠ .posting a b := by
        intro k' hne
        have hr := hrelies k'
        refine ⟨fun a b c he => ?_, fun a b he => ?_⟩ <;> rw [he] at hr <;>
          exact hne (Option.some.inj (hr.1.symm.trans hlock))
      cases a with
      | rotated access' refresh' =>
        dsimp only
        split_ifs with hin
        · exact h
        have hne : access' ≠ access := fun he => hin (he ▸ (hstored access haccess).1)
        refine h.move rfl ?_ (fun k' hk' hr => ?_) ?_ ?_ ⟨hsingle.1, fun r hr => ?_, hsingle.2.2⟩
        · exact ⟨List.mem_cons_of_mem _ (hstored access haccess).1, by simpa using hne, access', by simp⟩
        · cases hstage : s.calls k' with
          | holding a b c => exact absurd hstage ((hother k' hk').1 a b c)
          | posting a b => exact absurd hstage ((hother k' hk').2 a b)
          | rotated a =>
            obtain ⟨ha, -⟩ : s.Relies k' (.rotated a) := hstage ▸ hr
            have hne : access' ≠ a := fun he => hin (he ▸ ha)
            exact ⟨List.mem_cons_of_mem _ ha, by simpa using hne, access', by simp⟩
          | sent a => exact List.mem_cons_of_mem _ (hstage ▸ hr : s.Relies k' (.sent a))
          | queued a => exact List.mem_cons_of_mem _ (hstage ▸ hr : s.Relies k' (.queued a))
          | _ => trivial
        · rintro a ⟨⟩
          refine ⟨by simp, fun hr => ?_⟩
          rcases List.mem_cons.mp hr with he | hr
          · exact hne he
          · exact hin (hreplaced _ hr)
        · intro a ha
          rcases List.mem_cons.mp ha with rfl | ha
          · exact List.mem_cons_of_mem _ (hstored _ haccess).1
          · exact List.mem_cons_of_mem _ (hreplaced a ha)
        · obtain ⟨h₁, a, ha, h₂⟩ := hsingle.2.1 r hr
          exact ⟨h₁, a, List.mem_cons_of_mem _ ha, h₂⟩
      | rejected =>
        refine h.move rfl trivial (fun k' hk' hr => ?_) hstored hreplaced ?_
        · have hfree := hother k' hk'
          cases hstage : s.calls k' <;> simp_all [Client.Relies, Client.move]
        · simpa [Client.SingleFlight, hrefresh, Client.move] using hsingle
      | transient =>
        refine h.move rfl trivial (fun k' hk' hr => ?_) hstored hreplaced hsingle
        have hfree := hother k' hk'
        cases hstage : s.calls k' <;> simp_all [Client.Relies, Client.move]
    · exact h
  | retry k =>
    simp only [Client.step]
    split
    · rename_i access hk
      obtain ⟨-, hne, hgained⟩ : s.Relies k (.rotated access) := hk ▸ hrelies k
      refine h.move rfl trivial (fun k' _ hk' => hk') hstored hreplaced ⟨hsingle.1, fun r hr => ?_, hsingle.2.2⟩
      rcases List.mem_cons.mp hr with rfl | hr
      · exact ⟨hne, hgained⟩
      · exact hsingle.2.1 r hr
    · exact h
  | signIn access refresh =>
    simp only [Client.step]
    split_ifs with hin
    · exact h
    refine ⟨fun k => ?_, ?_, fun a ha => List.mem_cons_of_mem _ (hreplaced a ha), hsingle⟩
    · have hr := hrelies k
      have hnot := hok k
      cases hstage : s.calls k <;> simp_all [Client.Relies, Stage.Refreshing]
    · rintro a ⟨⟩
      exact ⟨by simp, fun hr => hin (hreplaced _ hr)⟩
  | signOut =>
    refine ⟨fun k => ?_, nofun, hreplaced, hsingle⟩
    have hr := hrelies k
    have hnot := hok k
    cases hstage : s.calls k <;> simp_all [Client.Relies, Client.step, Stage.Refreshing]

lemma Client.Kept.run {s : Client} (h : s.Kept) {events : List Event} (hok : OrderlyRun s events) :
    (run s events).Kept := by
  induction events generalizing s with
  | nil => exact h
  | cons e events ih => exact ih (h.step hok.1) hok.2

end Yappy.AndroidRefresh
