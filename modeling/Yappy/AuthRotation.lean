import Yappy.AuthSessions

/-!
# Rotation of refresh tokens

What the rows and the requests know of a token is true of it, in every run. From this: what comes of
a token that has been rotated out, and when the token that was returned last is still accepted.
-/
namespace Yappy.Auth

open Permissions (Time Uuid)

variable {Token Hash : Type} {env : Env Token Hash} {s s' : State Token Hash} {id : ℕ} {event : Event Token}

/-! ## Tokens and their sessions -/

/-- The session knows the token of that hash: as its current one, or as the one before. -/
def Device.Holds {Hash : Type} (d : Device Hash) (hash : Hash) : Prop :=
  d.refreshTokenHash = some hash ∨ d.previousRefreshTokenHash = some hash

def Device.Stored (env : Env Token Hash) (issued : List (Token × Uuid)) (d : Device Hash) : Prop :=
  ∀ hash, d.Holds hash → ∃ t, (t, d.id) ∈ issued ∧ env.hash t = hash

/-- What a request has read of a session was once so. -/
def Phase.Sound (env : Env Token Hash) (issued : List (Token × Uuid)) : Phase Token Hash → Prop
  | .found token device | .loaded token device _ => device.Holds (env.hash token) ∧ device.Stored env issued
  | .answering did next => (next, did) ∈ issued
  | _ => True

structure Valid (env : Env Token Hash) (s : State Token Hash) : Prop where
  stored : ∀ d ∈ s.devices.rows, d.Stored env s.issued
  once : ∀ t a b, (t, a) ∈ s.issued → (t, b) ∈ s.issued → a = b
  placed : ∀ x ∈ s.issued, ∃ d, s.devices.find x.2 = some d
  sound : ∀ id phase, s.requests id = some phase → phase.Sound env s.issued
  minted : ∀ claims ∈ s.minted, ∃ d, s.devices.find claims.did = some d
  rotations : ∀ r ∈ s.rotations, (∃ t, (t, r.access.did) ∈ s.issued ∧ env.hash t = env.hash r.presented) ∧
    (r.next, r.access.did) ∈ s.issued
  returned : ∀ x ∈ s.returned, x ∈ s.issued

lemma registered_valid (account : Account) (clock : Time) :
    Valid env (State.registered account clock : State Token Hash) where
  stored _ hd := by cases hd
  once _ _ _ h := by cases h
  placed _ h := by cases h
  sound _ _ h := by cases h
  minted _ h := by cases h
  rotations _ h := by cases h
  returned _ h := by cases h

section Sound
variable {issued issued' : List (Token × Uuid)} {phase : Phase Token Hash} {d : Device Hash}

lemma Device.Stored.mono (h : d.Stored env issued) (hsub : ∀ x ∈ issued, x ∈ issued') : d.Stored env issued' := by
  intro hash hholds
  obtain ⟨t, ht, heq⟩ := h hash hholds
  exact ⟨t, hsub _ ht, heq⟩

lemma Phase.Sound.mono (h : phase.Sound env issued) (hsub : ∀ x ∈ issued, x ∈ issued') :
    phase.Sound env issued' := by
  cases phase with
  | found token device => exact ⟨h.1, h.2.mono hsub⟩
  | loaded token device epoch => exact ⟨h.1, h.2.mono hsub⟩
  | answering did next => exact hsub _ h
  | _ => trivial

end Sound

lemma Valid.set (h : Valid env s) (id : ℕ) {phase : Option (Phase Token Hash)}
    (hphase : ∀ p, phase = some p → p.Sound env s.issued) : Valid env (s.set id phase) where
  stored := h.stored
  once := h.once
  placed := h.placed
  sound other p hp := by
    by_cases he : other = id
    · subst he
      have hself : (s.set other phase).requests other = phase := Function.update_self ..
      exact hphase p (hself.symm.trans hp)
    · have hsame : (s.set id phase).requests other = s.requests other := Function.update_of_ne he ..
      exact h.sound other p (hsame.symm.trans hp)
  minted := h.minted
  rotations := h.rotations
  returned := h.returned

lemma Valid.update (h : Valid env s) (p : Device Hash → Bool) (f : Device Hash → Device Hash)
    (hf : ∀ d, (f d).id = d.id) (hstored : ∀ d ∈ s.devices.rows, p d = true → (f d).Stored env s.issued) :
    Valid env { s with devices := KeyedTable.update s.devices p f hf } where
  stored d hd := by
    obtain ⟨r, hr, rfl⟩ := List.mem_map.mp hd
    split_ifs with hp
    · exact hstored r hr hp
    · exact h.stored r hr
  once := h.once
  placed x hx := by
    obtain ⟨d, hd⟩ := h.placed x hx
    exact ⟨_, by rw [KeyedTable.find_update, hd, Option.map_some]⟩
  sound := h.sound
  minted c hc := by
    obtain ⟨d, hd⟩ := h.minted c hc
    exact ⟨_, by rw [KeyedTable.find_update, hd, Option.map_some]⟩
  rotations := h.rotations
  returned := h.returned

lemma Valid.once_cons (h : Valid env s) {token t : Token} {did a b : Uuid} (hfresh : s.Fresh token)
    (ha : (t, a) ∈ (token, did) :: s.issued) (hb : (t, b) ∈ (token, did) :: s.issued) : a = b := by
  rcases List.mem_cons.mp ha with hnew | hold
  · obtain ⟨ht, hdid⟩ := Prod.mk.inj hnew
    rcases List.mem_cons.mp hb with hnew' | hold'
    · exact hdid.trans (Prod.mk.inj hnew').2.symm
    · exact (hfresh (t, b) hold' ht).elim
  · rcases List.mem_cons.mp hb with hnew' | hold'
    · exact (hfresh (t, a) hold (Prod.mk.inj hnew').1).elim
    · exact h.once t a b hold hold'

lemma Valid.issue (h : Valid env s) {token : Token} {did : Uuid} {epoch : ℕ} (hfresh : s.Fresh token)
    (hdid : ∃ d, s.devices.find did = some d) :
    Valid env { s with issued := (token, did) :: s.issued, minted := ⟨did, epoch⟩ :: s.minted } := by
  have hsub : ∀ x ∈ s.issued, x ∈ (token, did) :: s.issued := fun x hx => List.mem_cons_of_mem _ hx
  refine ⟨fun d hd => (h.stored d hd).mono hsub, fun t a b ha hb => ?_, fun x hx => ?_,
    fun id p hp => (h.sound id p hp).mono hsub, fun c hc => ?_, fun r hr => ?_,
    fun x hx => hsub x (h.returned x hx)⟩
  · exact h.once_cons hfresh ha hb
  · rcases List.mem_cons.mp hx with rfl | hx
    · exact hdid
    · exact h.placed x hx
  · rcases List.mem_cons.mp hc with rfl | hc
    · exact hdid
    · exact h.minted c hc
  · obtain ⟨⟨t, ht, heq⟩, hnext⟩ := h.rotations r hr
    exact ⟨⟨t, hsub _ ht, heq⟩, hsub _ hnext⟩

lemma rotated_valid (h : Valid env s) {token next : Token} {device : Device Hash} {epoch : ℕ}
    (hholds : device.Holds (env.hash token)) (hstored : device.Stored env s.issued) (hfresh : s.Fresh next) :
    Valid env (s.rotated env token next device epoch) := by
  have hplaced : ∃ d, s.devices.find device.id = some d := by
    obtain ⟨t, ht, -⟩ := hstored _ hholds
    exact h.placed _ ht
  have hissued : Valid env { s with issued := (next, device.id) :: s.issued, minted := ⟨device.id, epoch⟩ :: s.minted } :=
    h.issue hfresh hplaced
  have hsub : ∀ x ∈ s.issued, x ∈ (next, device.id) :: s.issued := fun x hx => List.mem_cons_of_mem _ hx
  have hwritten := hissued.update (fun d => d.id = device.id)
    (fun d => d.rotated device (env.hash next) env.refreshTokenTtl s.clock) (fun _ => rfl) ?_
  · refine ⟨hwritten.stored, hwritten.once, hwritten.placed, hwritten.sound, hwritten.minted, fun r hr => ?_,
      hwritten.returned⟩
    rcases List.mem_cons.mp hr with rfl | hr
    · obtain ⟨t, ht, heq⟩ := hstored _ hholds
      exact ⟨⟨t, hsub _ ht, heq⟩, List.mem_cons_self⟩
    · exact hwritten.rotations r hr
  · intro d _ hid hash hh
    have hsame : d.id = device.id := of_decide_eq_true hid
    change ∃ t, (t, d.id) ∈ _ ∧ _
    rw [hsame]
    rcases hh with hcurrent | hprevious
    · exact ⟨next, List.mem_cons_self, Option.some.inj hcurrent⟩
    · obtain ⟨t, ht, heq⟩ := hstored hash (Or.inl hprevious)
      exact ⟨t, hsub _ ht, heq⟩

lemma signedIn_valid (h : Valid env s) {did : Uuid} {token : Token} {epoch : ℕ}
    (hdid : s.devices.find did = none) (hfresh : s.Fresh token) : Valid env (s.signedIn env did token epoch) := by
  let device : Device Hash := .issued did (env.hash token) env.refreshTokenTtl s.clock
  have hfind : ∀ k, (KeyedTable.insertIgnore s.devices device).find k =
      if did = k then some device else s.devices.find k := by
    intro k
    rw [KeyedTable.find_insertIgnore]
    change (if did = k then _ else _) = _
    split_ifs with hk
    · rw [← hk, hdid]
      rfl
    · rfl
  have hkept : ∀ k, (∃ d, s.devices.find k = some d) →
      ∃ d, (KeyedTable.insertIgnore s.devices device).find k = some d := by
    rintro k ⟨d, hd⟩
    rw [hfind]
    split_ifs
    · exact ⟨device, rfl⟩
    · exact ⟨d, hd⟩
  have hnew : ∃ d, (KeyedTable.insertIgnore s.devices device).find did = some d :=
    ⟨device, by rw [hfind, if_pos rfl]⟩
  have hsub : ∀ x ∈ s.issued, x ∈ (token, did) :: s.issued := fun x hx => List.mem_cons_of_mem _ hx
  refine ⟨fun d hd => ?_, fun t a b ha hb => ?_, fun x hx => ?_, fun id p hp => (h.sound id p hp).mono hsub,
    fun c hc => ?_, fun r hr => ?_, fun x hx => hsub x (h.returned x hx)⟩
  · rcases KeyedTable.mem_insertIgnore hd with rfl | hd
    · intro hash hholds
      rcases hholds with hcurrent | hprevious
      · exact ⟨token, List.mem_cons_self, Option.some.inj hcurrent⟩
      · cases hprevious
    · exact (h.stored d hd).mono hsub
  · exact h.once_cons hfresh ha hb
  · rcases List.mem_cons.mp hx with rfl | hx
    · exact hnew
    · exact hkept _ (h.placed x hx)
  · rcases List.mem_cons.mp hc with rfl | hc
    · exact hnew
    · exact hkept _ (h.minted c hc)
  · obtain ⟨⟨t, ht, heq⟩, hnext⟩ := h.rotations r hr
    exact ⟨⟨t, hsub _ ht, heq⟩, hsub _ hnext⟩

@[simp] lemma set_set (s : State Token Hash) (id : ℕ) (p q : Option (Phase Token Hash)) :
    (s.set id p).set id q = s.set id q := by
  unfold State.set
  rw [Function.update_idem]

lemma set_none (h : s.requests id = none) : s.set id none = s := by
  unfold State.set
  rw [Function.update_eq_self_iff.mpr h.symm]

lemma set_requests (s : State Token Hash) (id : ℕ) (p : Option (Phase Token Hash)) :
    (s.set id p).requests id = p := Function.update_self ..

lemma set_unlocked {phase : Option (Phase Token Hash)} (h : ∀ did, ¬ s.Locked did)
    (hphase : ∀ epoch ids now, phase ≠ some (.revoking epoch ids now)) : ∀ did, ¬ (s.set id phase).Locked did := by
  rintro did ⟨other, epoch, ids, now, hr, hmem⟩
  by_cases he : other = id
  · subst he
    rw [set_requests] at hr
    exact hphase epoch ids now hr
  · have hsame : (s.set id phase).requests other = s.requests other := Function.update_of_ne he ..
    exact h did ⟨other, epoch, ids, now, hsame.symm.trans hr, hmem⟩

lemma Valid.unknown (h : Valid env s) (hhash : Function.Injective env.hash) {token : Token} {d : Device Hash}
    (htoken : (token, d.id) ∈ s.issued) (hd : s.devices.find d.id = some d) (hold : ¬ d.Holds (env.hash token)) :
    ∀ d' ∈ s.devices.rows, ¬ d'.Holds (env.hash token) := by
  intro d' hd' hholds
  obtain ⟨t, ht, heq⟩ := h.stored d' hd' _ hholds
  obtain rfl := hhash heq
  have hid : d'.id = d.id := h.once t _ _ ht htoken
  have hfind : s.devices.find d'.id = some d' := KeyedTable.find_eq_some.mpr ⟨hd', rfl⟩
  rw [hid, hd] at hfind
  obtain rfl := Option.some.inj hfind
  exact hold hholds

variable [DecidableEq Hash]

lemma byCurrent_some {devices : Devices Hash} {hash : Hash} {d : Device Hash}
    (h : Devices.byCurrent devices hash = some d) : d ∈ devices.rows ∧ d.refreshTokenHash = some hash :=
  ⟨List.mem_of_find?_eq_some h, by simpa using List.find?_some h⟩

lemma byPrevious_some {devices : Devices Hash} {hash : Hash} {d : Device Hash}
    (h : Devices.byPrevious devices hash = some d) : d ∈ devices.rows ∧ d.previousRefreshTokenHash = some hash :=
  ⟨List.mem_of_find?_eq_some h, by simpa using List.find?_some h⟩

lemma looked_sound (h : Valid env s) (token : Token) : (s.looked env token).Sound env s.issued := by
  unfold State.looked
  cases hd : Devices.byCurrent s.devices (env.hash token) with
  | none => trivial
  | some device =>
    obtain ⟨hmem, hcurrent⟩ := byCurrent_some hd
    exact ⟨Or.inl hcurrent, h.stored device hmem⟩

lemma lookedPrevious_sound (h : Valid env s) {token : Token} {phase : Phase Token Hash}
    (hphase : s.lookedPrevious env token = some phase) : phase.Sound env s.issued := by
  unfold State.lookedPrevious at hphase
  cases hd : Devices.byPrevious s.devices (env.hash token) with
  | none =>
    rw [hd] at hphase
    cases hphase
  | some previous =>
    obtain ⟨hmem, hprevious⟩ := byPrevious_some hd
    rw [hd] at hphase
    dsimp only at hphase
    split_ifs at hphase
    · obtain rfl := Option.some.inj hphase
      exact ⟨Or.inr hprevious, h.stored previous hmem⟩
    · obtain rfl := Option.some.inj hphase
      trivial

lemma step_valid (h : Valid env s) (hs : Step env s event s') : Valid env s' := by
  cases hs with
  | tick => exact ⟨h.stored, h.once, h.placed, h.sound, h.minted, h.rotations, h.returned⟩
  | @abort id => exact h.set id nofun
  | @refresh id token hnone => exact h.set id fun p hp => by obtain rfl := Option.some.inj hp; trivial
  | @lookup id token hr =>
    exact h.set id fun p hp => by obtain rfl := Option.some.inj hp; exact looked_sound h token
  | @lookupPrevious id token hr => exact h.set id fun p hp => lookedPrevious_sound h hp
  | @load id token device hr =>
    refine h.set id fun p hp => ?_
    obtain ⟨epoch, -, rfl⟩ := Option.map_eq_some_iff.mp hp
    have hfound := h.sound id _ hr
    exact hfound
  | @rotate id token next device epoch hr hfresh hfree =>
    obtain ⟨hholds, hstored⟩ := h.sound id _ hr
    refine (rotated_valid h hholds hstored hfresh).set id fun p hp => ?_
    obtain rfl := Option.some.inj hp
    exact List.mem_cons_self
  | @revoke id device hr hfree =>
    have hwritten := h.update (fun d => d.id = device.id) (fun d => d.revoked s.clock) (fun _ => rfl)
      fun d hd _ => h.stored d hd
    exact hwritten.set id nofun
  | @answer id did next hr =>
    have hissued : (next, did) ∈ s.issued := h.sound id _ hr
    have hanswered : Valid env (s.answered did next) :=
      ⟨h.stored, h.once, h.placed, h.sound, h.minted, h.rotations, fun x hx => by
        rcases List.mem_cons.mp hx with rfl | hx
        · exact hissued
        · exact h.returned x hx⟩
    exact hanswered.set id nofun
  | @password id hnone => exact h.set id fun p hp => by obtain rfl := Option.some.inj hp; trivial
  | @change id epoch hr hshare hfree =>
    have hforgot : Valid env (s.changed epoch) := by
      have hwritten := h.update (fun d => d.revokedAt.isNone) (fun d => d.forgotten s.clock)
        (fun _ => rfl) fun d _ _ hash hholds => by rcases hholds with hc | hc <;> cases hc
      exact ⟨hwritten.stored, hwritten.once, hwritten.placed, hwritten.sound, hwritten.minted, hwritten.rotations,
        hwritten.returned⟩
    exact hforgot.set id fun p hp => by obtain rfl := Option.some.inj hp; trivial
  | @signIn id hnone => exact h.set id fun p hp => by obtain rfl := Option.some.inj hp; trivial
  | @share id hr =>
    refine h.set id fun p hp => ?_
    obtain ⟨epoch, -, rfl⟩ := Option.map_eq_some_iff.mp hp
    trivial
  | @issue id epoch did token hr hdid hfresh =>
    refine (signedIn_valid h hdid hfresh).set id fun p hp => ?_
    obtain rfl := Option.some.inj hp
    exact List.mem_cons_self
  | @logoutAll id hnone => exact h.set id fun p hp => by obtain rfl := Option.some.inj hp; trivial
  | @revokeAll id epoch hr hfree => exact h.set id fun p hp => by obtain rfl := Option.some.inj hp; trivial
  | @bump id epoch ids now hr hshare =>
    have hout : Valid env (s.loggedOut epoch ids now) := by
      have hwritten := h.update (fun d => ids.contains d.id) (fun d => d.revoked now)
        (fun _ => rfl) fun d hd _ => h.stored d hd
      exact ⟨hwritten.stored, hwritten.once, hwritten.placed, hwritten.sound, hwritten.minted, hwritten.rotations,
        hwritten.returned⟩
    exact hout.set id nofun

lemma run_valid {ok : State Token Hash → Event Token → Prop} (h : Valid env s)
    (hrun : RunWhere (Step env) ok s s') : Valid env s' :=
  hrun.invariant h fun _ _ _ hinv _ hs => step_valid hinv hs

/-! ## One refresh after another -/

def Anyhow (_ : State Token Hash) (_ : Event Token) : Prop := True

section Alone
variable {token next : Token} {device : Device Hash}

lemma proceed_run (hid : s.requests id = none) (hfresh : s.Fresh next) (hfree : ∀ did, ¬ s.Locked did) :
    RunWhere (Step env) Anyhow (s.set id (some (.found token device))) (s.proceed env token next device).2 := by
  have hload : Step env (s.set id (some (.found token device))) (.load id)
      ((s.set id (some (.found token device))).set id ((s.checked env device).toOption.map (.loaded token device))) :=
    .load (set_requests ..)
  rw [set_set] at hload
  unfold State.proceed
  cases hchecked : s.checked env device with
  | error e =>
    rw [hchecked] at hload
    have hend : s.set id ((Except.error e : Except AppError ℕ).toOption.map (Phase.loaded token device)) = s :=
      set_none hid
    rw [hend] at hload
    exact (RunWhere.refl _).tail trivial hload
  | ok epoch =>
    rw [hchecked] at hload
    change Step env _ _ (s.set id (some (.loaded token device epoch))) at hload
    have hrotate : Step env (s.set id (some (.loaded token device epoch))) (.rotate id next)
        ((State.rotated env (s.set id (some (.loaded token device epoch))) token next device epoch).set id
          (some (.answering device.id next))) :=
      .rotate (set_requests ..) hfresh (set_unlocked hfree (fun _ _ _ h => by cases h) device.id)
    have hanswer : Step env ((s.rotated env token next device epoch).set id (some (.answering device.id next)))
        (.answer id) ((((s.rotated env token next device epoch).set id
          (some (.answering device.id next))).answered device.id next).set id none) :=
      .answer (set_requests ..)
    have hrotated : (State.rotated env (s.set id (some (.loaded token device epoch))) token next device epoch).set id
        (some (.answering device.id next)) =
          (s.rotated env token next device epoch).set id (some (.answering device.id next)) :=
      set_set (s.rotated env token next device epoch) id _ _
    have hend : (((s.rotated env token next device epoch).set id
        (some (.answering device.id next))).answered device.id next).set id none =
          (s.rotated env token next device epoch).answered device.id next := by
      refine (set_set ((s.rotated env token next device epoch).answered device.id next) id _ _).trans ?_
      exact set_none hid
    rw [hrotated] at hrotate
    rw [hend] at hanswer
    exact (((RunWhere.refl _).tail trivial hload).tail trivial hrotate).tail trivial hanswer

lemma refresh_run (hid : s.requests id = none) (hfresh : s.Fresh next) (hfree : ∀ did, ¬ s.Locked did) :
    RunWhere (Step env) Anyhow s (s.refresh env token next).2 := by
  have hstart : Step env s (.refresh id token) (s.set id (some (.refreshing token))) := .refresh hid
  have hlookup : Step env (s.set id (some (.refreshing token))) (.lookup id)
      (s.set id (some (s.looked env token))) := by
    have h : Step env _ _ ((s.set id (some (.refreshing token))).set id
      (some ((s.set id (some (.refreshing token))).looked env token))) := .lookup (set_requests ..)
    rw [set_set] at h
    exact h
  have hrun : RunWhere (Step env) Anyhow s (s.set id (some (s.looked env token))) :=
    ((RunWhere.refl s).tail trivial hstart).tail trivial hlookup
  unfold State.refresh
  unfold State.looked at hrun ⊢
  cases hcurrent : Devices.byCurrent s.devices (env.hash token) with
  | some device =>
    rw [hcurrent] at hrun
    exact hrun.trans (proceed_run hid hfresh hfree)
  | none =>
    rw [hcurrent] at hrun
    have hprevious : Step env (s.set id (some (.missed token))) (.lookupPrevious id)
        (s.set id (s.lookedPrevious env token)) := by
      have h : Step env _ _ ((s.set id (some (.missed token))).set id
        ((s.set id (some (.missed token))).lookedPrevious env token)) := .lookupPrevious (set_requests ..)
      rw [set_set] at h
      exact h
    have hrun' := hrun.tail trivial hprevious
    dsimp only
    unfold State.lookedPrevious at hrun' ⊢
    cases hp : Devices.byPrevious s.devices (env.hash token) with
    | none =>
      rw [hp] at hrun'
      have hdone : RunWhere (Step env) Anyhow s (s.set id none) := hrun'
      rw [set_none hid] at hdone
      exact hdone
    | some previous =>
      rw [hp] at hrun'
      dsimp only at hrun' ⊢
      split_ifs at hrun' ⊢ with hlive hgrace
      · exact hrun'.trans (proceed_run hid hfresh hfree)
      · have hrevoke : Step env (s.set id (some (.reused previous))) (.revoke id)
            ({ s with devices := Devices.revoke s.devices (fun d => d.id = previous.id) s.clock }.set id none) := by
          have h : Step env (s.set id (some (.reused previous))) (.revoke id)
              (({ s with devices := Devices.revoke s.devices (fun d => d.id = previous.id) s.clock }.set id
                (some (.reused previous))).set id none) :=
            .revoke (set_requests ..) (set_unlocked hfree (fun _ _ _ h => by cases h) previous.id)
          rw [set_set] at h
          exact h
        have hend : ({ s with devices := Devices.revoke s.devices (fun d => d.id = previous.id) s.clock } :
            State Token Hash).set id none =
              { s with devices := Devices.revoke s.devices (fun d => d.id = previous.id) s.clock } := set_none hid
        rw [hend] at hrevoke
        exact hrun'.tail trivial hrevoke
      · rw [set_none hid] at hrun'
        exact hrun'

lemma signIn_run {ok : State Token Hash → Event Token → Prop} {did : Uuid} {epoch : ℕ}
    (hid : s.requests id = none) (hdid : s.devices.find did = none)
    (hfresh : s.Fresh token) (haccount : s.account.check env s.clock = .ok epoch)
    (hok : ∀ s', ok s' (.signIn id) ∧ ok s' (.share id) ∧ ok s' (.issue id did token) ∧ ok s' (.answer id)) :
    RunWhere (Step env) ok s ((s.signedIn env did token epoch).answered did token) := by
  have hshare : Step env (s.set id (some .issuing)) (.share id) (s.set id (some (.sharing epoch))) := by
    have h : Step env _ _ ((s.set id (some .issuing)).set id
      (((s.set id (some .issuing)).account.check env s.clock).toOption.map .sharing)) := .share (set_requests ..)
    rw [set_set] at h
    change Step env _ _ (s.set id ((s.account.check env s.clock).toOption.map .sharing)) at h
    rw [haccount] at h
    exact h
  have hissue : Step env (s.set id (some (.sharing epoch))) (.issue id did token)
      ((s.signedIn env did token epoch).set id (some (.answering did token))) := by
    have h : Step env _ _ ((State.signedIn env (s.set id (some (.sharing epoch))) did token epoch).set id
      (some (.answering did token))) := .issue (set_requests ..) hdid hfresh
    have hsame : (State.signedIn env (s.set id (some (.sharing epoch))) did token epoch).set id
        (some (.answering did token)) = (s.signedIn env did token epoch).set id (some (.answering did token)) :=
      set_set (s.signedIn env did token epoch) id _ _
    rw [hsame] at h
    exact h
  have hanswer : Step env ((s.signedIn env did token epoch).set id (some (.answering did token))) (.answer id)
      ((s.signedIn env did token epoch).answered did token) := by
    have h : Step env _ _ ((((s.signedIn env did token epoch).set id (some (.answering did token))).answered did
      token).set id none) := .answer (set_requests ..)
    have hsame : (((s.signedIn env did token epoch).set id (some (.answering did token))).answered did token).set id
        none = (s.signedIn env did token epoch).answered did token :=
      (set_set ((s.signedIn env did token epoch).answered did token) id _ _).trans (set_none hid)
    rw [hsame] at h
    exact h
  exact ((((RunWhere.refl s).tail (hok s).1 (.signIn hid)).tail (hok _).2.1 hshare).tail (hok _).2.2.1 hissue).tail
    (hok _).2.2.2 hanswer

end Alone

/-! ## A token that has been rotated out -/

lemma refresh_unknown {token : Token} (h : ∀ d ∈ s.devices.rows, ¬ d.Holds (env.hash token)) (next : Token) :
    s.refresh env token next = (.error signInAgain, s) := by
  have hcurrent : Devices.byCurrent s.devices (env.hash token) = none := by
    refine List.find?_eq_none.mpr fun d hd hc => h d hd (Or.inl ?_)
    exact of_decide_eq_true hc
  have hprevious : Devices.byPrevious s.devices (env.hash token) = none := by
    refine List.find?_eq_none.mpr fun d hd hc => h d hd (Or.inr ?_)
    exact of_decide_eq_true hc
  unfold State.refresh State.looked State.lookedPrevious
  rw [hcurrent, hprevious]

/-- Presenting a token older than the current and the previous one leaves the session as it was: it
is signed out after just if it was before. -/
theorem rotated_out_iff {ok : State Token Hash → Event Token → Prop} {account : Account} {clock : Time}
    (hhash : Function.Injective env.hash) (hrun : RunWhere (Step env) ok (State.registered account clock) s)
    {token next : Token} {d : Device Hash} (htoken : (token, d.id) ∈ s.issued)
    (hd : s.devices.find d.id = some d) (hold : ¬ d.Holds (env.hash token)) :
    ((∃ e, (s.refresh env token next).1 = .error e) ∧
      ∃ d', (s.refresh env token next).2.devices.find d.id = some d' ∧ d'.revokedAt.isSome) ↔
      d.revokedAt.isSome := by
  have hvalid : Valid env s := run_valid (registered_valid account clock) hrun
  rw [refresh_unknown (hvalid.unknown hhash htoken hd hold) next]
  constructor
  · rintro ⟨-, d', hd', hrevoked⟩
    obtain rfl := Option.some.inj (hd.symm.trans hd')
    exact hrevoked
  · intro hrevoked
    exact ⟨⟨signInAgain, rfl⟩, d, hd, hrevoked⟩

namespace Sample

def plain : Env ℕ ℕ := ⟨fun token => token, 2592000, fun _ => ""⟩

def account : Account := ⟨0, none, none, none⟩

def registered : State ℕ ℕ := .registered account 0

def signedIn : State ℕ ℕ := (registered.signedIn plain 7 0 0).answered 7 0

def once : State ℕ ℕ := (signedIn.refresh plain 0 1).2

def twice : State ℕ ℕ := (once.refresh plain 1 2).2

def session : Device ℕ := ⟨7, some 2, some 1, some 60000, some 2592000000, none⟩

lemma signedIn_run : RunWhere (Step plain) Anyhow registered signedIn :=
  @signIn_run ℕ ℕ plain registered 0 _ 0 Anyhow 7 0 rfl rfl nofun rfl fun _ => ⟨trivial, trivial, trivial, trivial⟩

lemma once_run : RunWhere (Step plain) Anyhow registered once :=
  signedIn_run.trans (@refresh_run ℕ ℕ plain signedIn 0 _ 0 1 rfl (by unfold State.Fresh; decide)
    (by rintro did ⟨_, _, _, _, h, _⟩; cases h))

lemma twice_run : RunWhere (Step plain) Anyhow registered twice :=
  once_run.trans (@refresh_run ℕ ℕ plain once 0 _ 1 2 rfl (by unfold State.Fresh; decide)
    (by rintro did ⟨_, _, _, _, h, _⟩; cases h))

end Sample

/-- The first of three tokens: it is refused, and its session goes on. -/
theorem rotated_out_iff_first :
    ((∃ e, (Sample.twice.refresh Sample.plain 0 3).1 = .error e) ∧
      ∃ d', (Sample.twice.refresh Sample.plain 0 3).2.devices.find 7 = some d' ∧ d'.revokedAt.isSome) ↔
      Sample.session.revokedAt.isSome :=
  @rotated_out_iff ℕ ℕ Sample.plain Sample.twice _ Anyhow Sample.account 0 (fun _ _ h => h) Sample.twice_run 0 3
    Sample.session (by decide) (by decide) (by rintro (h | h) <;> cases h)

/-- A token that is two rotations old comes back, and the session stays. -/
theorem old_token_unnoticed :
    ¬ ∀ (env : Env ℕ ℕ) (account : Account) (clock : Time) (s : State ℕ ℕ), Function.Injective env.hash →
      RunWhere (Step env) Anyhow (State.registered account clock) s →
      ∀ (token next : ℕ) (d : Device ℕ), (token, d.id) ∈ s.issued → s.devices.find d.id = some d →
        ¬ d.Holds (env.hash token) →
        (∃ e, (s.refresh env token next).1 = .error e) ∧
          ∃ d', (s.refresh env token next).2.devices.find d.id = some d' ∧ d'.revokedAt.isSome := by
  intro h
  obtain ⟨-, d, hd, hrevoked⟩ := h Sample.plain Sample.account 0 Sample.twice (fun _ _ h => h) Sample.twice_run 0 3
    Sample.session (by decide) (by decide)
    (by rintro (h | h) <;> cases h)
  have hfind : (Sample.twice.refresh Sample.plain 0 3).2.devices.find 7 =
      some Sample.session := by decide
  obtain rfl := Option.some.inj (hfind.symm.trans hd)
  cases hrevoked

end Yappy.Auth
