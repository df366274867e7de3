import Yappy.SpaceHistory

/-!
# Upgrades among sends

Upgrade and sends lock the group's row first, so what the upgrade does among them is what it does
alone. A send that would lock the row of a group that has become a space is left out of orderly runs,
and so is an upgrade of a group that rows other than mentions and pins go with.
-/
namespace Yappy.Tables
open Permissions (Time Uuid)
open ReadCommitted
open Statement

/-- Nothing goes with the group that the upgrade would leave behind. -/
def Unencumbered (g : Uuid) (rows : Database) : Prop :=
  ∀ k r, rows k = some r → names k r = some g → Follows k

structure Shifted (g channelId : Uuid) (n : ℕ) (before view : Database) : Prop where
  type : conversationType view g = some .space
  head : head view channelId = some n
  messages : ∀ m, view (.message m) = (before (.message m)).map (Message.shifted g channelId)
  mentions : ∀ m user, view (.mention m user) =
    (before (.mention m user)).map (Mention.shifted g channelId)
  unpinned : ∀ m, view (.pin g m) = none
  pins : ∀ m, view (.pin channelId m) = before (.pin g m)
  otherPins : ∀ c m, c ≠ g → c ≠ channelId → view (.pin c m) = before (.pin c m)
  members : ∀ user, (view (.member channelId user)).map cursor =
    (before (.member g user)).map cursor
  reminders : ∀ id, view (.reminder id) = before (.reminder id)
  scheduled : ∀ id, view (.scheduledMessage id) = before (.scheduledMessage id)
  walls : ∀ id, view (.photoWall id) = before (.photoWall id)
  locations : ∀ id, view (.liveLocation id) = before (.liveLocation id)

section Alone
variable {g channelId actor messageId : Uuid} {title : String} {clock : Time}
  {before view view' : Database} {group : Conversation} {n : ℕ}
  {post : Database → Program → Prop} {next : Program}

lemma Shifted.place (h : Shifted g channelId n before view) (m : Uuid) :
    place view m =
      (place before m).map fun p => (if p.1 = g then channelId else p.1, p.2) := by
  unfold Tables.place
  rw [h.messages]
  cases before (.message m) with
  | none => rfl
  | some r =>
    simp only [Option.map_some, Option.some.injEq]
    unfold Message.shifted
    split_ifs <;> rfl

lemma Grouped.unpinned (h : Grouped g channelId before) (m : Uuid) :
    before (.pin channelId m) = none := by
  cases hp : before (.pin channelId m) with
  | none => rfl
  | some r =>
    obtain ⟨c, i, hplace, hn⟩ := h.tied _ r m hp rfl
    obtain rfl := hn channelId rfl
    obtain ⟨k, hk⟩ := h.gapless.placed m _ i hplace
    rw [head, h.unused] at hk
    cases hk

lemma ends_shift (h : Grouped g channelId before)
    (hnext : ∀ view, Shifted g channelId group.messageSeq before view → Ends post
      (writeSystemMessage channelId messageId ⟨"upgraded_to_space", some actor, [], some title⟩
        clock (.commit .done)) view) :
    Ends post (upgradeTransaction g channelId actor messageId title clock group) before := by
  have hne := h.ne
  obtain ⟨conv, hconv, -⟩ := Option.map_eq_some_iff.mp h.type
  refine ends_update (fun hnone => absurd hconv (by simp [hnone])) fun r _ v₁ hv₁ h₁ => ?_
  refine ends_read ?_
  refine ends_insert fun _ v₂ hv₂ h₂ => ?_
  refine ends_moveMessages fun v₃ hv₃ h₃ => ?_
  refine ends_movePins hne fun v₄ hv₄ hv₄' h₄ => ?_
  refine ends_moveMentions fun v₅ hv₅ h₅ => ?_
  refine ends_moveCalls fun v₆ h₆ => ?_
  have hch : v₆ (.conversation channelId) =
      some (group.firstChannel g actor title (activeCount v₁ g)) := by
    rw [h₆ _ (by simp), h₅ _ (by simp), h₄ _ (by simp), h₃ _ (by simp)]
    exact hv₂
  refine ends_copyMembers hch fun v₇ hv₇ hc₇ h₇ => ?_
  refine ends_resetCursors fun v₈ h₈ => hnext v₈ ?_
  obtain ⟨conv', hconv', hseq'⟩ := hc₇
  have hmember : ∀ user, v₆ (.member g user) = before (.member g user) := fun user => by
    rw [h₆ _ (by simp), h₅ _ (by simp), h₄ _ (by simp), h₃ _ (by simp), h₂ _ (by simp),
      h₁ _ (by simp)]
  have hvacant : ∀ user, v₆ (.member channelId user) = none := fun user => by
    rw [h₆ _ (by simp), h₅ _ (by simp), h₄ _ (by simp), h₃ _ (by simp), h₂ _ (by simp),
      h₁ _ (by simp)]
    exact h.vacant user
  have hpin : ∀ c m, v₃ (.pin c m) = before (.pin c m) := fun c m => by
    rw [h₃ _ (by simp), h₂ _ (by simp), h₁ _ (by simp)]
  refine ⟨?_, ?_, fun m => ?_, fun m user => ?_, fun m => ?_, fun m => ?_, fun c m hc hc' => ?_,
    fun user => ?_, fun id => ?_, fun id => ?_, fun id => ?_, fun id => ?_⟩
  · unfold conversationType
    rw [h₈ _ (by simp), h₇ _ (by simp [hne]) (by simp), h₆ _ (by simp), h₅ _ (by simp),
      h₄ _ (by simp), h₃ _ (by simp), h₂ _ (by simp [hne]), hv₁]
    rfl
  · unfold head
    rw [h₈ _ (by simp), hconv']
    simp [hseq', Conversation.firstChannel]
  · rw [h₈ _ (by simp), h₇ _ (by simp) (by simp), h₆ _ (by simp), h₅ _ (by simp), h₄ _ (by simp),
      hv₃, h₂ _ (by simp), h₁ _ (by simp)]
  · rw [h₈ _ (by simp), h₇ _ (by simp) (by simp), h₆ _ (by simp), hv₅, h₄ _ (by simp),
      h₃ _ (by simp), h₂ _ (by simp), h₁ _ (by simp)]
  · rw [h₈ _ (by simp), h₇ _ (by simp) (by simp), h₆ _ (by simp), h₅ _ (by simp), hv₄]
  · rw [h₈ _ (by simp), h₇ _ (by simp) (by simp), h₆ _ (by simp), h₅ _ (by simp), hv₄', hpin, hpin,
      h.unpinned, Option.or_none]
  · rw [h₈ _ (by simp), h₇ _ (by simp) (by simp), h₆ _ (by simp), h₅ _ (by simp),
      h₄ _ (by simp [hc, hc']), hpin]
  · rw [h₈ _ (by simp [Ne.symm hne]), hv₇, hmember, hvacant, Option.or_none, Option.map_map]
    rfl
  all_goals
    rw [h₈ _ (by simp), h₇ _ (by simp) (by simp), h₆ _ (by simp), h₅ _ (by simp), h₄ _ (by simp),
      h₃ _ (by simp), h₂ _ (by simp), h₁ _ (by simp)]

theorem Shifted.upgraded {id : Uuid} (h : Shifted g channelId n before view)
    (hg : Grouped g channelId before) (hun : Unencumbered g before)
    (hid : view (.message id) = none)
    (hclash : ∀ m, Tables.place view m ≠ some (channelId, n + 1))
    (hhead : Tables.head view' channelId = some (n + 1))
    (hnew : Tables.place view' id = some (channelId, n + 1))
    (hframe : ∀ k, k ≠ .conversation channelId → k ≠ .message id → view' k = view k) :
    Upgraded g channelId before view' := by
  have hne := hg.ne
  have hplace : ∀ m, m ≠ id → Tables.place view' m =
      (Tables.place before m).map fun p => (if p.1 = g then channelId else p.1, p.2) :=
    fun m hm => (place_congr (hframe _ (by simp) (by simp [hm]))).trans (h.place m)
  have hold : Tables.place before id = none := by
    have := h.place id
    rw [Tables.place, hid] at this
    cases hp : Tables.place before id with
    | none => rfl
    | some p =>
      rw [hp] at this
      cases this
  obtain ⟨k, hk⟩ := hg.exists_head
  have hnum := hg.gapless.numbered g k hk
  -- the number after the group's as it was read is free, so it was read at the end
  have hkn : k ≤ n := by
    by_contra hlt
    obtain ⟨m, hm, -⟩ := hnum.unique (n + 1) (by omega) (by omega)
    refine hclash m ?_
    rw [h.place, hm]
    simp
  have hchannel : ∀ m i, Tables.place before m ≠ some (channelId, i) := by
    intro m i hm
    obtain ⟨j, hj⟩ := hg.gapless.placed m channelId i hm
    rw [Tables.head, hg.unused] at hj
    cases hj
  refine ⟨?_, fun m i hm => ?_, fun m i hm => ?_, ⟨n + 1, hhead, ⟨id, hnew⟩, fun m i hm => ?_⟩,
    fun key r hr hn => ?_, fun key r m i c hr ha hm hn => ?_, fun key r hr hn => ?_,
    fun user => ?_⟩
  · unfold conversationType
    rw [hframe _ (by simp [hne]) (by simp)]
    exact h.type
  · by_cases he : m = id
    · subst he
      rw [hnew] at hm
      simp only [Option.some.injEq, Prod.mk.injEq] at hm
      exact hne hm.1.symm
    · rw [hplace m he] at hm
      obtain ⟨p, -, hp⟩ := Option.map_eq_some_iff.mp hm
      simp only [Prod.mk.injEq] at hp
      obtain ⟨hp, -⟩ := hp
      split_ifs at hp with hc
      · exact hne hp.symm
      · exact hc hp
  · rw [hplace m, hm]
    · simp
    · rintro rfl
      rw [hold] at hm
      cases hm
  · by_cases he : m = id
    · subst he
      rw [hnew] at hm
      simp only [Option.some.injEq, Prod.mk.injEq, true_and] at hm
      omega
    · rw [hplace m he] at hm
      obtain ⟨⟨c, j⟩, hp, hpair⟩ := Option.map_eq_some_iff.mp hm
      simp only [Prod.mk.injEq] at hpair
      obtain ⟨hc, rfl⟩ := hpair
      split_ifs at hc with hcg
      · subst hcg
        have := (hnum.within m j hp).2
        omega
      · subst hc
        exact absurd hp (hchannel m j)
  · cases key with
    | mention m user =>
      rw [hframe _ (by simp) (by simp), h.mentions] at hr
      obtain ⟨r₀, -, rfl⟩ := Option.map_eq_some_iff.mp hr
      have hn' : (Mention.shifted g channelId r₀).conversationId = g := Option.some.inj hn
      unfold Mention.shifted at hn'
      split_ifs at hn' with hc
      · exact hne hn'.symm
      · exact hc hn'
    | pin c m =>
      obtain rfl : c = g := Option.some.inj hn
      rw [hframe _ (by simp) (by simp), h.unpinned] at hr
      cases hr
    | reminder _ =>
      exact hun _ r ((h.reminders _).symm.trans ((hframe _ (by simp) (by simp)).symm.trans hr)) hn
    | scheduledMessage _ =>
      exact hun _ r ((h.scheduled _).symm.trans ((hframe _ (by simp) (by simp)).symm.trans hr)) hn
    | photoWall _ =>
      exact hun _ r ((h.walls _).symm.trans ((hframe _ (by simp) (by simp)).symm.trans hr)) hn
    | liveLocation _ =>
      exact hun _ r ((h.locations _).symm.trans ((hframe _ (by simp) (by simp)).symm.trans hr)) hn
    | _ => cases hn
  · -- a row that goes with a message of the group belongs to the group before
    have htied : ∀ (r₀ : Row key), before key = some r₀ → about key r₀ = some m →
        ∀ c', names key r₀ = some c' → c' = g := by
      intro r₀ hr₀ ha₀ c' hc'
      obtain ⟨c₀, i₀, hp, hall⟩ := hg.tied key r₀ m hr₀ ha₀
      rw [hm] at hp
      simp only [Option.some.injEq, Prod.mk.injEq] at hp
      exact (hall c' hc').trans hp.1.symm
    cases key with
    | mention m' user =>
      rw [hframe _ (by simp) (by simp), h.mentions] at hr
      obtain ⟨r₀, hr₀, rfl⟩ := Option.map_eq_some_iff.mp hr
      have hg₀ : r₀.conversationId = g := htied r₀ hr₀ ha _ rfl
      have hn' : (Mention.shifted g channelId r₀).conversationId = c := Option.some.inj hn
      unfold Mention.shifted at hn'
      rw [if_pos hg₀] at hn'
      exact hn'.symm
    | pin c' m' =>
      obtain rfl : c' = c := Option.some.inj hn
      by_contra hc
      rw [hframe _ (by simp) (by simp)] at hr
      by_cases hcg : c' = g
      · subst hcg
        rw [h.unpinned] at hr
        cases hr
      · rw [h.otherPins c' m' hcg hc] at hr
        exact hcg (htied r hr ha c' rfl)
    | reminder _ =>
      have hb := (h.reminders _).symm.trans ((hframe _ (by simp) (by simp)).symm.trans hr)
      obtain rfl := htied r hb ha c hn
      exact (hun _ r hb hn).elim
    | liveLocation _ =>
      have hb := (h.locations _).symm.trans ((hframe _ (by simp) (by simp)).symm.trans hr)
      obtain rfl := htied r hb ha c hn
      exact (hun _ r hb hn).elim
    | _ => cases ha
  · have hf := hun key r hr hn
    cases key with
    | mention m user =>
      have hg₀ : Mention.conversationId r = g := Option.some.inj hn
      refine ⟨.mention m user, Mention.shifted g channelId r, ?_, ?_, rfl⟩
      · rw [hframe _ (by simp) (by simp), h.mentions, hr]
        rfl
      · unfold Mention.shifted
        rw [if_pos hg₀]
        rfl
    | pin c m =>
      obtain rfl : c = g := Option.some.inj hn
      refine ⟨.pin channelId m, r, ?_, rfl, rfl⟩
      rw [hframe _ (by simp) (by simp), h.pins, hr]
    | _ => cases hf
  · rw [hframe _ (by simp) (by simp)]
    exact h.members user

lemma ends_upgrade (h : Grouped g channelId before) (hun : Unencumbered g before) :
    Ends (fun rows' rest => Upgraded g channelId before rows' ∧ rest = .done)
      (upgradeTransaction g channelId actor messageId title clock group) before := by
  refine ends_shift h fun view hs => ?_
  refine ends_allocate fun conv hconv v₁ hv₁ h₁ => ?_
  have hn : conv.messageSeq = group.messageSeq := by
    have := hs.head
    rw [Tables.head, hconv] at this
    exact Option.some.inj this
  refine ends_insertMessage fun hid hclash v₂ hv₂ h₂ => ?_
  refine ends_update (fun hnone => ?_) fun r hr v₃ hv₃ h₃ => .commit ⟨?_, rfl⟩
  · rw [h₂ _ (by simp), hv₁] at hnone
    cases hnone
  · rw [h₂ _ (by simp), hv₁] at hr
    obtain rfl := Option.some.inj hr
    refine hs.upgraded h hun ((h₁ _ (by simp)).symm.trans hid) (fun m hm => ?_) ?_ ?_
      fun k hk hk' => ?_
    · refine hclash m ((place_congr (h₁ _ (by simp))).trans ?_)
      rw [hm, systemMessage, hn]
    · unfold Tables.head
      rw [hv₃]
      simp [Conversation.withLast, hn]
    · rw [place_congr (h₃ _ (by simp))]
      unfold Tables.place
      rw [hv₂]
      simp [systemMessage, hn]
    · rw [h₃ k hk, h₂ k hk', h₁ k hk]

end Alone

/-! ## Among sends -/

section Runs
variable (g channelId : Uuid) (permitted : Database → SendInput → Bool)
  (sees : Database → Uuid → Uuid → Bool)

def SendIn (p : Program) : Prop :=
  ∃ input clock, input.conversationId = g ∧ p = send permitted sees input clock

def upgrading (rows : Database) (actor messageId : Uuid) (title : String) (clock : Time) :
    Server Row :=
  (Server.idle rows).set 0 ⟨.empty, upgradeToSpace g channelId actor messageId title clock⟩

/-- Nothing locks the row of a group that has become a space, and the upgrade does not lock it
while something goes with the group that it would leave behind. -/
def Orderly (s : Server Row) : Event Row → Prop
  | .statement id => s.writing id (.conversation g) ≠ none →
    if id = 0 then Unencumbered g s.rows else conversationType s.rows g ≠ some .space
  | _ => True

inductive Opening : Program → Prop
  | done : Opening .done
  | fail : Opening .fail
  | read {next : Database → Program} (h : ∀ view, Opening (next view)) : Opening (read next)
  | post {input : SendInput} {isVirtual : Bool} {scope : Uuid} {clock : Time}
      (h : input.conversationId = g) : Opening (sendMessage sees input isVirtual scope clock)

def Proposed (actor messageId : Uuid) (title : String) (clock : Time) (rows : Database)
    (p : Program) : Prop :=
  p = .done ∨ p = .fail ∨ (Grouped g channelId rows ∧
    (p = upgradeToSpace g channelId actor messageId title clock ∨
      ∃ group, p = upgradeTransaction g channelId actor messageId title clock group))

def Opens (actor messageId : Uuid) (title : String) (clock : Time) (id : RequestId)
    (rows : Database) (p : Program) : Prop :=
  if id = 0 then Proposed g channelId actor messageId title clock rows p else Opening g sees p

def Settled (id : RequestId) (_ : Database) (p : Program) : Prop :=
  if id = 0 then p = .done ∨ p = .fail else Opening g sees p

def Keeps (id : RequestId) (rows rows' : Database) : Prop :=
  if id = 0 then Upgraded g channelId rows rows' else Grouped g channelId rows'

def GroupOrSpace (rows : Database) : Prop :=
  Grouped g channelId rows ∨ conversationType rows g = some .space

end Runs

section Interleaved
variable {g channelId actor messageId : Uuid} {title : String} {clock : Time}
  {permitted : Database → SendInput → Bool} {sees : Database → Uuid → Uuid → Bool}
  {rows : Database} {s s₁ s₂ : Server Row} {id : RequestId}

lemma opening_send {input : SendInput} (h : input.conversationId = g) :
    Opening g sees (send permitted sees input clock) := by
  refine .read fun view => ?_
  split_ifs
  · exact .done
  · refine .read fun view => ?_
    split_ifs
    · exact .fail
    · refine .read fun view => ?_
      split
      · exact .fail
      · split_ifs
        · exact .fail
        · exact .post h

lemma Opening.statement_inv {writes : Database → Changes} {next : Database → Program}
    (h : Opening g sees (.statement writes next)) :
    ((∀ view, writes view = .empty) ∧ ∀ view, Opening g sees (next view)) ∨
      ∃ input isVirtual scope clock, input.conversationId = g ∧
        .statement writes next = sendMessage sees input isVirtual scope clock := by
  generalize hp : ReadCommitted.Program.statement writes next = p at h
  cases h with
  | done => cases hp
  | fail => cases hp
  | read h =>
    cases hp
    exact Or.inl ⟨fun _ => rfl, h⟩
  | post h => exact Or.inr ⟨_, _, _, _, h, rfl⟩

lemma Opening.not_commit {next : Program} : ¬ Opening g sees (.commit next) := by
  intro h
  generalize hp : ReadCommitted.Program.commit next = p at h
  cases h <;> cases hp

lemma GroupOrSpace.exists_row (h : GroupOrSpace g channelId rows) :
    ∃ conv, rows (.conversation g) = some conv := by
  rcases h with h | h
  · obtain ⟨conv, hc, -⟩ := Option.map_eq_some_iff.mp h.type
    exact ⟨conv, hc⟩
  · obtain ⟨conv, hc, -⟩ := Option.map_eq_some_iff.mp h
    exact ⟨conv, hc⟩

lemma proposed_upgrade (h : Grouped g channelId rows) :
    Proposed g channelId actor messageId title clock rows
      (upgradeToSpace g channelId actor messageId title clock) :=
  Or.inr (Or.inr ⟨h, Or.inl rfl⟩)

lemma Proposed.statement {writes : Database → Changes} {next : Database → Program}
    (ho : Proposed g channelId actor messageId title clock rows (.statement writes next))
    (hun : writes rows (.conversation g) ≠ none → Unencumbered g rows) :
    (writes rows = .empty ∧
      Proposed g channelId actor messageId title clock rows (next rows)) ∨
    (writes rows (.conversation g) ≠ none ∧
      Ends (fun rows' rest => Upgraded g channelId rows rows' ∧ rest = .done) (next rows)
        (overlay (writes rows) rows)) := by
  rcases ho with hp | hp | ⟨hg, hp | ⟨group, hp⟩⟩
  · cases hp
  · cases hp
  · cases hp
    refine Or.inl ⟨rfl, ?_⟩
    beta_reduce
    split
    · split_ifs
      · exact Or.inr (Or.inl rfl)
      · exact Or.inr (Or.inl rfl)
      · exact Or.inr (Or.inl rfl)
      · exact Or.inr (Or.inl rfl)
      · exact Or.inr (Or.inr ⟨hg, Or.inr ⟨_, rfl⟩⟩)
    · exact Or.inr (Or.inl rfl)
  · obtain ⟨conv, hconv, -⟩ := Option.map_eq_some_iff.mp hg.type
    have hw := update_writes hp hconv
    have hends := @ends_upgrade g channelId actor messageId title clock rows group hg (hun hw)
    rw [← hp] at hends
    exact Or.inr ⟨hw, hends.statement_inv⟩

lemma Opening.statement {writes : Database → Changes} {next : Database → Program}
    (ho : Opening g sees (.statement writes next)) (hh : GroupOrSpace g channelId rows)
    (htype : writes rows (.conversation g) ≠ none → conversationType rows g ≠ some .space) :
    (writes rows = .empty ∧ Opening g sees (next rows)) ∨
    (writes rows (.conversation g) ≠ none ∧
      Ends (sentPost g channelId) (next rows) (overlay (writes rows) rows)) := by
  rcases ho.statement_inv with ⟨hempty, hnext⟩ | ⟨input, isVirtual, scope, t, hin, hp⟩
  · exact Or.inl ⟨hempty _, hnext _⟩
  · subst hin
    obtain ⟨conv, hconv⟩ := hh.exists_row
    have hw : writes rows (.conversation input.conversationId) ≠ none := by
      unfold sendMessage allocateMessageSeq at hp
      exact update_writes hp hconv
    have hends := @ends_sendMessage channelId rows sees input isVirtual scope t
      (hh.resolve_right (htype hw))
    rw [← hp] at hends
    exact Or.inr ⟨hw, hends.statement_inv⟩

lemma locksFirst :
    LocksFirst (SendIn g permitted sees)
      (fun s e => Orderly g s e ∧ ∀ p, e ≠ .start 0 p) (.conversation g) (GroupOrSpace g channelId)
      (Opens g channelId sees actor messageId title clock) (Keeps g channelId) where
  start {s id program} hok _ hp := by
    have hid : id ≠ 0 := by
      rintro rfl
      exact hok.2 program rfl
    obtain ⟨input, clock, hin, rfl⟩ := hp
    unfold Opens
    rw [if_neg hid]
    exact opening_send hin
  done {rows id} _ := by
    unfold Opens
    split_ifs
    · exact Or.inl rfl
    · exact .done
  statement {s id writes next} hok hr hh ho := by
    have horder : s.writing id (.conversation g) ≠ none →
        if id = 0 then Unencumbered g s.rows else conversationType s.rows g ≠ some .space := hok.1
    rw [writing_of_statement hr] at horder
    unfold Opens Keeps at *
    by_cases hid : id = 0
    · simp only [if_pos hid] at ho horder ⊢
      rcases ho.statement horder with h | ⟨hw, h⟩
      · exact Or.inl h
      · exact Or.inr ⟨hw, h.mono fun _ _ h => ⟨h.1, Or.inl h.2⟩⟩
    · simp only [if_neg hid] at ho horder ⊢
      rcases ho.statement hh horder with h | ⟨hw, h⟩
      · exact Or.inl h
      · exact Or.inr ⟨hw, h.mono fun _ _ h => ⟨h.1, h.2 ▸ .done⟩⟩
  commit {rows id next} h := by
    unfold Opens at h
    split_ifs at h
    · rcases h with hp | hp | ⟨-, hp | ⟨group, hp⟩⟩ <;> cases hp
    · exact h.not_commit
  kept {rows rows' id} _ hk := by
    unfold Keeps at hk
    split_ifs at hk
    · exact Or.inr hk.space
    · exact Or.inl hk
  stable {rows rows' id other program} hne _ hk ho := by
    unfold Opens at ho ⊢
    unfold Keeps at hk
    by_cases hother : other = 0
    · rw [if_pos hother] at ho ⊢
      rw [if_neg fun hid => hne (hother.trans hid.symm)] at hk
      rcases ho with hp | hp | ⟨-, hp⟩
      · exact Or.inl hp
      · exact Or.inr (Or.inl hp)
      · exact Or.inr (Or.inr ⟨hk, hp⟩)
    · rw [if_neg hother] at ho ⊢
      exact ho

/-! ## After the upgrade -/

lemma frozen (hspace : conversationType rows g = some .space) :
    LocksFirst (SendIn g permitted sees)
      (fun s e => Orderly g s e ∧ ∀ p, e ≠ .start 0 p) (.conversation g) (fun rows' => rows' = rows)
      (Settled g sees) (fun _ _ _ => False) where
  start {s id program} hok _ hp := by
    have hid : id ≠ 0 := by
      rintro rfl
      exact hok.2 program rfl
    obtain ⟨input, clock, hin, rfl⟩ := hp
    unfold Settled
    rw [if_neg hid]
    exact opening_send hin
  done {rows id} _ := by
    unfold Settled
    split_ifs
    · exact Or.inl rfl
    · exact .done
  statement {s id writes next} hok hr hh ho := by
    subst hh
    have horder : s.writing id (.conversation g) ≠ none →
        if id = 0 then Unencumbered g s.rows else conversationType s.rows g ≠ some .space := hok.1
    rw [writing_of_statement hr] at horder
    unfold Settled at *
    by_cases hid : id = 0
    · rw [if_pos hid] at ho
      rcases ho with ho | ho <;> cases ho
    · simp only [if_neg hid] at ho horder ⊢
      rcases (@Opening.statement g g sees s.rows writes next ho (Or.inr hspace) horder) with
        h | ⟨hw, -⟩
      · exact Or.inl h
      · exact absurd hspace (horder hw)
  commit {rows id next} h := by
    unfold Settled at h
    split_ifs at h
    · rcases h with h | h <;> cases h
    · exact h.not_commit
  kept _ hk := hk.elim
  stable _ _ hk := hk.elim

lemma upgrading_upheld (hg : Grouped g channelId rows) :
    Upheld (GroupOrSpace g channelId)
      (Serial (.conversation g) (Opens g channelId sees actor messageId title clock)
        (Keeps g channelId)) (upgrading g channelId rows actor messageId title clock) := by
  have hidle := @idle_upheld _ _ (GroupOrSpace g channelId)
    (Serial (.conversation g) (Opens g channelId sees actor messageId title clock)
      (Keeps g channelId)) rows (Or.inl hg)
  refine hidle.set (empty_free _ _) (Or.inl ⟨rfl, ?_⟩)
  unfold Opens
  rw [if_pos rfl]
  exact proposed_upgrade hg

lemma commit_upgraded {s s' : Server Row}
    (h : Upheld (GroupOrSpace g channelId)
      (Serial (.conversation g) (Opens g channelId sees actor messageId title clock)
        (Keeps g channelId)) s)
    (hs : Step (SendIn g permitted sees) s (.commit 0) s') :
    Upgraded g channelId s.rows s'.rows ∧
      Upheld (fun rows => rows = s'.rows)
        (Serial (.conversation g) (Settled g sees) fun _ _ _ => False) s' ∧ s'.requests 0 ≠ none := by
  cases hs with
  | @commit _ changes next hr =>
    obtain ⟨hlock, hkeeps, hopens⟩ :=
      (@locksFirst g channelId actor messageId title clock permitted sees).commits
        (h.stands 0 _ hr)
    have hupgraded : Upgraded g channelId s.rows (overlay changes s.rows) := hkeeps
    refine ⟨hupgraded, ⟨Exclusive.set h.exclusive (empty_free _ _), rfl, fun id r hid => ?_⟩, ?_⟩
    · by_cases he : id = 0
      · subst he
        rw [set_requests_self] at hid
        obtain rfl := Option.some.inj hid
        refine Or.inl ⟨rfl, ?_⟩
        unfold Settled
        rw [if_pos rfl]
        rcases hopens with hp | hp | ⟨hg, -⟩
        · exact Or.inl hp
        · exact Or.inr hp
        · have hspace := hupgraded.space
          rw [hg.type] at hspace
          cases hspace
      · rw [set_requests_of_ne _ he] at hid
        rcases h.stands id r hid with ⟨hempty, ho⟩ | ⟨hk, -⟩
        · unfold Opens at ho
          rw [if_neg he] at ho
          refine Or.inl ⟨hempty, ?_⟩
          unfold Settled
          rwa [if_neg he]
        · exact absurd ((h.exclusive 0 _ hr id r he hid _).resolve_left hk) hlock
    · simp [set_requests_self]

end Interleaved

namespace Sample

def band : Database :=
  Rows.on [.conversation 1, .member 1 7, .user 7, .message 100, .pin 1 100] fun
    | .conversation _ => some { Conversation.new .group with
        ownerId := some 7, memberCount := 1, messageSeq := 1 }
    | .member .. => some { Member.new .owner 3 with lastReadSeq := 1 }
    | .user _ => some ⟨none, none⟩
    | .message _ => some ⟨1, 1, some 7, .text, none, none, none, none, none⟩
    | .pin .. => some ⟨some 7, 0⟩
    | _ => none

def ownerSends (view : Database) (input : SendInput) : Bool :=
  (view (.member input.conversationId input.actorId)).any fun m =>
    m.leftAt.isNone ∧ m.role = .owner

def everyoneSees (_ : Database) (_ _ : Uuid) : Bool := true

def hello : SendInput where
  actorId := 7
  conversationId := 1
  messageId := 101
  type := .text
  nonce := "a"
  preview := "hello"
  expiresAt := none
  liveUntil := none
  mentionIds := []
  broadcast := false
  mentionRoleIds := []

def bandUpgrading : Server Row := upgrading 1 2 band 7 200 "general" 5

def steps (n : ℕ) (id : RequestId) : List (Move Row) := List.replicate n (.go id)

def afterHello : List (Move Row) :=
  .start 1 (send ownerSends everyoneSees hello 5) :: (steps 10 1 ++ steps 13 0)

def helloAgain : List (Move Row) := [.start 2 (send ownerSends everyoneSees hello 6), .go 2]

def follows : Key → Bool
  | .mention .. | .pin .. => true
  | _ => false

def orderly (s : Server Row) (id : RequestId) : Bool :=
  (s.writing id (.conversation 1)).isNone ||
    if id = 0 then
      s.rows.keys.all fun k => (s.rows k).all fun r => names k r ≠ some 1 || follows k
    else conversationType s.rows 1 ≠ some .space

lemma place_band {m c : Uuid} {i : ℕ} : place band m = some (c, i) ↔ m = 100 ∧ c = 1 ∧ i = 1 := by
  unfold place band
  rw [Rows.on_apply]
  split_ifs with h
  · simp only [List.mem_cons, Key.message.injEq, reduceCtorEq, List.not_mem_nil, or_false,
      false_or] at h
    simp [h, eq_comm]
  · simp only [Option.map_none, reduceCtorEq, false_iff]
    rintro ⟨rfl, -, -⟩
    exact h (by simp)

lemma head_band {c : Uuid} {n : ℕ} (h : head band c = some n) : c = 1 ∧ n = 1 := by
  unfold head band at h
  rw [Rows.on_apply] at h
  split_ifs at h with hc
  · exact ⟨by simpa using hc, (Option.some.inj h).symm⟩
  · cases h

lemma band_grouped : Grouped 1 2 band where
  gapless.numbered c n hn := by
    obtain ⟨rfl, rfl⟩ := head_band hn
    refine ⟨fun m i hm => ?_, fun i h1 hn => ⟨100, ?_, fun m hm => (place_band.mp hm).1⟩⟩
    · obtain ⟨-, -, rfl⟩ := place_band.mp hm
      exact ⟨le_refl 1, le_refl 1⟩
    · exact place_band.mpr ⟨rfl, rfl, by omega⟩
  gapless.placed m c i hm := by
    obtain ⟨-, rfl, -⟩ := place_band.mp hm
    exact ⟨1, rfl⟩
  tied k r m hr ha := by
    unfold band at hr
    rw [Rows.on_apply] at hr
    split_ifs at hr with hk
    simp only [List.mem_cons, List.not_mem_nil, or_false] at hk
    rcases hk with rfl | rfl | rfl | rfl | rfl
    · cases ha
    · cases ha
    · cases ha
    · cases ha
    · obtain rfl := Option.some.inj ha
      exact ⟨1, 1, place_band.mpr ⟨rfl, rfl, rfl⟩, fun c' hc' => (Option.some.inj hc').symm⟩
  type := rfl
  unused := rfl
  vacant user := by
    unfold band
    rw [Rows.on_apply, if_neg]
    simp

lemma follows_iff {k : Key} : follows k = true ↔ Follows k := by
  cases k <;> simp [follows, Follows]

lemma orderly_ok (s : Server Row) (id : RequestId) (h : orderly s id = true) :
    Orderly 1 s (.statement id) ∧ Orderly 1 s (.commit id) ∧ Orderly 1 s (.abort id) := by
  refine ⟨fun hw => ?_, trivial, trivial⟩
  unfold orderly at h
  rw [Bool.or_eq_true, Option.isNone_iff_eq_none] at h
  have h := h.resolve_left hw
  split_ifs at h ⊢
  · intro k r hr hn
    rw [List.all_eq_true] at h
    have hk := h k (s.rows.covered k (by simp [hr]))
    rw [hr] at hk
    simpa [hn, follows_iff] using hk
  · simpa using h

end Sample

section Interleaved
variable {g channelId actor messageId : Uuid} {title : String} {clock : Time}
  {permitted : Database → SendInput → Bool} {sees : Database → Uuid → Uuid → Bool}
  {rows : Database} {s s₁ s₂ : Server Row}

/-- Turning a group into a space loses nothing in an orderly run. -/
theorem upgrade_loses_nothing (hg : Grouped g channelId rows)
    (hrun : RunWhere (Step (SendIn g permitted sees)) (Orderly g)
      (upgrading g channelId rows actor messageId title clock) s₁)
    (hcommit : Step (SendIn g permitted sees) s₁ (.commit 0) s₂)
    (hrest : RunWhere (Step (SendIn g permitted sees)) (Orderly g) s₂ s) :
    Upgraded g channelId s₁.rows s.rows := by
  have hstart := @upgrading_upheld g channelId actor messageId title clock sees rows hg
  have hup := locksFirst.upholds.run hstart
    (run_started hrun (by simp [upgrading, set_requests_self])).2
  obtain ⟨hupgraded, hup₂, hid⟩ := commit_upgraded hup hcommit
  have hfrozen := (frozen hupgraded.space).upholds.run hup₂ (run_started hrest hid).2
  rw [hfrozen.holds]
  exact hupgraded

end Interleaved

namespace Sample

lemma sends_run {s : Server Row} {ok : Server Row → Event Row → Prop}
    {good : Server Row → RequestId → Bool} {moves : List (Move Row)}
    (hout : ∀ other, other ∉ [0, 1, 2] → s.requests other = none)
    (hok : ∀ s id, good s id = true → ok s (.statement id) ∧ ok s (.commit id) ∧ ok s (.abort id))
    (hok' : ∀ s id program, ok s (.start id program))
    (hmoves : ∀ id p, Move.start id p ∈ moves → ∃ clock, p = send ownerSends everyoneSees hello clock)
    (h : s.plays [0, 1, 2] good moves = true) :
    RunWhere (Step (SendIn 1 ownerSends everyoneSees)) ok s (s.play moves) := by
  refine run_play hout (fun id p hm => ?_) hok hok' h
  obtain ⟨clock, rfl⟩ := hmoves id p hm
  exact ⟨hello, clock, rfl, rfl⟩

lemma upgrading_out (other : RequestId) (h : other ∉ [0, 1, 2]) :
    bandUpgrading.requests other = none := by
  unfold bandUpgrading upgrading
  rw [set_requests_of_ne]
  · rfl
  · rintro rfl
    simp at h

lemma advance_out {s : Server Row} (hout : ∀ other, other ∉ [0, 1, 2] → s.requests other = none)
    (other : RequestId) (h : other ∉ [0, 1, 2]) : (s.advance 0).requests other = none :=
  @move_requests_out _ _ s [0, 1, 2] other (.go 0) (by simp [Move.request]) h (hout other h)

lemma steps_start {n : ℕ} {id id' : RequestId} {p : Program} : Move.start id p ∉ steps n id' := by
  simp [steps, List.mem_replicate]

end Sample

open Sample in
/-- The message and its pin are in the channel, and the channel's next number is free. -/
theorem upgrade_loses_nothing_band :
    Upgraded 1 2 (bandUpgrading.play afterHello).rows
      (((bandUpgrading.play afterHello).advance 0).play helloAgain).rows := by
  have hplays : bandUpgrading.plays [0, 1, 2] orderly afterHello = true := by decide
  have hout := plays_out upgrading_out hplays
  refine upgrade_loses_nothing band_grouped
    (sends_run upgrading_out orderly_ok (fun _ _ _ => trivial) (fun id p hm => ?_) hplays)
    (step_commit (by decide))
    (sends_run (advance_out hout) orderly_ok (fun _ _ _ => trivial) (fun id p hm => ?_)
      (by decide))
  · simp only [afterHello, List.mem_cons, List.mem_append, steps_start, or_false,
      Move.start.injEq] at hm
    exact ⟨5, hm.2⟩
  · simp only [helloAgain, List.mem_cons, reduceCtorEq, List.not_mem_nil, or_false,
      Move.start.injEq] at hm
    exact ⟨6, hm.2⟩

namespace Sample

def lateHello : List (Move Row) :=
  .start 1 (send ownerSends everyoneSees hello 5) :: (steps 3 1 ++ steps 13 0)

end Sample

open Sample in
/-- A message ends up in the space itself. -/
theorem late_send_lands_in_space : ∃ s₁ s₂ s,
    RunWhere (Step (SendIn 1 ownerSends everyoneSees)) (fun _ _ => True) bandUpgrading s₁ ∧
    Step (SendIn 1 ownerSends everyoneSees) s₁ (.commit 0) s₂ ∧
    RunWhere (Step (SendIn 1 ownerSends everyoneSees)) (fun _ _ => True) s₂ s ∧
    (∀ id r, s.requests id = some r → r.program = .done) ∧
    conversationType s.rows 1 = some .space ∧ place s.rows 101 = some (1, 1) ∧
    ¬ Upgraded 1 2 s₁.rows s.rows := by
  have hplays : bandUpgrading.plays [0, 1, 2] (fun _ _ => true) lateHello = true := by
    decide
  have hout := plays_out upgrading_out hplays
  have hrest : ((bandUpgrading.play lateHello).advance 0).plays [0, 1, 2] (fun _ _ => true)
      (steps 7 1) = true := by decide
  have hplace : place (((bandUpgrading.play lateHello).advance 0).play (steps 7 1)).rows 101 =
      some (1, 1) := by decide
  refine ⟨_, _, _,
    sends_run upgrading_out (fun _ _ _ => ⟨trivial, trivial, trivial⟩) (fun _ _ _ => trivial)
      (fun id p hm => ?_) hplays, step_commit (by decide),
    sends_run (advance_out hout) (fun _ _ _ => ⟨trivial, trivial, trivial⟩) (fun _ _ _ => trivial)
      (fun id p hm => absurd hm steps_start) hrest, fun id r hr => ?_, by decide, hplace,
    fun h => h.empty 101 1 hplace⟩
  · simp only [lateHello, List.mem_cons, List.mem_append, steps_start, or_false,
      Move.start.injEq] at hm
    exact ⟨5, hm.2⟩
  · by_cases hid : id ∈ [0, 1, 2]
    · have hall : ∀ id ∈ [0, 1, 2], (((bandUpgrading.play lateHello).advance 0).play
          (steps 7 1)).finished id = true := by decide
      exact finished_done (hall id hid) hr
    · rw [plays_out (advance_out hout) hrest id hid] at hr
      cases hr

end Yappy.Tables
