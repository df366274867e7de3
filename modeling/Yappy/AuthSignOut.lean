import Yappy.AuthRotation

/-!
# Signing out everywhere

What a password change, a password reset and `logout-all` leave of the tokens there were, whatever
happens next to them and afterwards.
-/
namespace Yappy.Auth

open Permissions (Time Uuid)

variable {Token Hash : Type} {env : Env Token Hash} {s s' s₁ s₂ s₃ : State Token Hash} {did : Uuid}
  {event : Event Token}

def State.Revoked (s : State Token Hash) (did : Uuid) : Prop :=
  ∃ d, s.devices.find did = some d ∧ d.revokedAt.isSome = true

lemma mem_live : did ∈ s.live ↔ ∃ d ∈ s.devices.rows, d.revokedAt = none ∧ d.id = did := by
  unfold State.live
  simp [and_assoc]

section Devices
variable {devices : Devices Hash}

end Devices

variable [DecidableEq Hash]

/-! ## One step -/

lemma refresh_revoked {token : Token}
    (h : ∀ d ∈ s.devices.rows, d.Holds (env.hash token) → d.revokedAt.isSome = true) (next : Token) :
    ∃ e, (s.refresh env token next).1 = .error e := by
  unfold State.refresh State.looked
  cases hcurrent : Devices.byCurrent s.devices (env.hash token) with
  | some d =>
    obtain ⟨hmem, hthis⟩ := byCurrent_some hcurrent
    dsimp only
    unfold State.proceed State.checked Device.check
    rw [if_pos (h d hmem (Or.inl hthis))]
    exact ⟨signedOut, rfl⟩
  | none =>
    dsimp only
    unfold State.lookedPrevious
    cases hp : Devices.byPrevious s.devices (env.hash token) with
    | none => exact ⟨signInAgain, rfl⟩
    | some d =>
      obtain ⟨hmem, hthis⟩ := byPrevious_some hp
      obtain ⟨revokedAt, hrevoked⟩ := Option.isSome_iff_exists.mp (h d hmem (Or.inr hthis))
      dsimp only
      rw [hrevoked]
      exact ⟨signInAgain, rfl⟩

lemma Valid.refused (h : Valid env s) (hhash : Function.Injective env.hash) {token : Token}
    (htoken : (token, did) ∈ s.issued) (hrevoked : s.Revoked did) (next : Token) :
    ∃ e, (s.refresh env token next).1 = .error e := by
  obtain ⟨d, hd, hout⟩ := hrevoked
  refine refresh_revoked (fun d' hd' hholds => ?_) next
  obtain ⟨t, ht, heq⟩ := h.stored d' hd' _ hholds
  obtain rfl := hhash heq
  have hid : d'.id = did := h.once t _ _ ht htoken
  have hfind : s.devices.find d'.id = some d' := KeyedTable.find_eq_some.mpr ⟨hd', rfl⟩
  rw [hid, hd] at hfind
  obtain rfl := Option.some.inj hfind
  exact hout

namespace Sample

def Calm (s : State ℕ ℕ) : Prop :=
  ∀ id phase, s.requests id = some phase → phase = .issuing ∨ ∃ epoch, phase = .changing epoch

lemma Calm.set {s : State ℕ ℕ} (h : Calm s) (id : ℕ) {phase : Phase ℕ ℕ}
    (hphase : phase = .issuing ∨ ∃ epoch, phase = .changing epoch) : Calm (s.set id (some phase)) := by
  intro other p hp
  by_cases he : other = id
  · subst he
    rw [set_requests] at hp
    obtain rfl := Option.some.inj hp
    exact hphase
  · have hsame : (s.set id (some phase)).requests other = s.requests other := Function.update_of_ne he ..
    exact h other p (hsame.symm.trans hp)

lemma Calm.change {s : State ℕ ℕ} (h : Calm s) {id epoch : ℕ} (hr : s.requests id = some (.changing epoch)) :
    Step plain s (.change id) ((s.changed epoch).set id (some .issuing)) := by
  have hnot : ∀ id phase, s.requests id = some phase → (∀ epoch, phase ≠ .sharing epoch) ∧
      ∀ epoch ids now, phase ≠ .revoking epoch ids now := by
    intro id phase hphase
    rcases h id phase hphase with rfl | ⟨epoch, rfl⟩
    · exact ⟨nofun, nofun⟩
    · exact ⟨nofun, nofun⟩
  refine .change hr ?_ ?_
  · rintro ⟨other, epoch, hshared⟩
    exact (hnot other _ hshared).1 epoch rfl
  · rintro did _ ⟨other, epoch, ids, now, hlocked, -⟩
    exact (hnot other _ hlocked).2 epoch ids now rfl

def changing : State ℕ ℕ := signedIn.set 0 (some (.changing 0))

def slow : State ℕ ℕ := registered.set 0 (some (.changing 0))

def slowSecond : State ℕ ℕ := slow.set 1 (some (.changing 0))

def second : State ℕ ℕ := (slowSecond.changed 0).set 1 (some .issuing)

end Sample

open Sample

end Yappy.Auth
