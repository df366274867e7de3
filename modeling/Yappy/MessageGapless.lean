import Yappy.MessageSequence

/-!
# The writers keep message numbers gapless

Every writer of messages takes a number only to insert a message with it in the same transaction,
and the sweeps renumber nothing. So the numbering of `Yappy.MessageSequence` holds through every
interleaving of them, rollbacks included.
-/
namespace Yappy.Tables
open Permissions (Time Uuid)
open ReadCommitted
open Statement

def Apart : Key → Prop
  | .message _ | .conversation _ => False
  | _ => True

lemma harmless_apart {writes : Database → Changes}
    (h : ∀ view k x, writes view k = some x → Apart k) : Harmless writes :=
  .of_rows (fun view m x hx => (h view (.message m) x hx).elim)
    fun view c x hx => (h view (.conversation c) x hx).elim

section Statements
variable {k : Key} {p next : Program}

lemma balanced_read {next : Database → Program} (h : ∀ view, Balanced (next view)) :
    Balanced (read next) := .statement harmless_empty h

lemma balanced_insert {r : Row k} (hk : Apart k) (h : Balanced next) :
    Balanced (insert k r next) := by
  refine .statement (harmless_apart fun view k' x hx => ?_) fun view => ?_
  · split_ifs at hx
    · cases hx
    · exact put_eq_some hx ▸ hk
  · split_ifs
    · exact .fail
    · exact h

lemma balanced_insertNew {r : Row k} {next : Bool → Program} (hk : Apart k)
    (h : ∀ b, Balanced (next b)) : Balanced (insertNew k r next) := by
  refine .statement (harmless_apart fun view k' x hx => ?_) fun view => h _
  split_ifs at hx
  · cases hx
  · exact put_eq_some hx ▸ hk

lemma balanced_updateWhere {q : Row k → Bool} {f : Row k → Row k} {next : Option (Row k) → Program}
    (hk : Apart k) (h : ∀ r, Balanced (next r)) : Balanced (updateWhere k q f next) := by
  refine .statement (harmless_apart fun view k' x hx => ?_) fun view => h _
  split at hx
  · exact put_eq_some hx ▸ hk
  · cases hx

lemma balanced_update {f : Row k → Row k} {next : Option (Row k) → Program}
    (hk : Apart k) (h : ∀ r, Balanced (next r)) : Balanced (update k f next) :=
  balanced_updateWhere hk h

lemma balanced_updateConversation {c : Uuid} {f : Conversation → Conversation}
    {next : Option Conversation → Program} (hf : ∀ r, (f r).messageSeq = r.messageSeq)
    (h : ∀ r, Balanced (next r)) : Balanced (update (.conversation c) f next) := by
  refine .statement (.of_rows (fun view m x hx => ?_) fun view c' x hx => ?_) fun view => h _
  · split at hx
    · cases put_eq_some hx
    · cases hx
  · cases hc : view (.conversation c) with
    | none =>
      rw [hc] at hx
      cases hx
    | some r =>
      rw [hc] at hx
      cases put_eq_some hx
      obtain rfl : some (f r) = x := Option.some.inj ((put_self ..).symm.trans hx)
      exact ⟨f r, rfl, Or.inl ⟨r, hc, hf r⟩⟩

lemma balanced_updateAll {keys : Database → List Key} {f : (k : Key) → Row k → Row k}
    (hm : ∀ m (r : Message), (f (.message m) r).conversationId = r.conversationId ∧
      (f (.message m) r).seq = r.seq)
    (hc : ∀ c (r : Conversation), (f (.conversation c) r).messageSeq = r.messageSeq)
    (h : Balanced next) : Balanced (updateAll keys f next) := by
  have hrow : ∀ view k x, Rows.on (keys view) (fun k => (view k).map fun r => some (f k r)) k =
      some x → ∃ r, view k = some r ∧ x = some (f k r) := by
    intro view k x hx
    rw [Rows.on_apply] at hx
    split_ifs at hx
    obtain ⟨r, hr, rfl⟩ := Option.map_eq_some_iff.mp hx
    exact ⟨r, hr, rfl⟩
  refine .statement (.of_rows (fun view m x hx => ?_) fun view c x hx => ?_) fun _ => h
  · obtain ⟨r, hr, rfl⟩ := hrow view _ x hx
    exact ⟨r, f (.message m) r, hr, rfl, hm m r⟩
  · obtain ⟨r, hr, rfl⟩ := hrow view _ x hx
    exact ⟨f (.conversation c) r, rfl, Or.inl ⟨r, hr, hc c r⟩⟩

lemma balanced_insertMentions {messageId : Uuid} {row : Mention} {users : Database → List Uuid}
    (h : Balanced next) : Balanced (insertMentions messageId row users next) := by
  refine .statement (harmless_apart fun view k x hx => ?_) fun _ => h
  rw [Rows.on_apply] at hx
  split_ifs at hx with hk
  obtain ⟨user, -, rfl⟩ := List.mem_map.mp hk
  trivial

lemma balanced_writeSystemMessage {c id : Uuid} {payload : SystemPayload} {clock : Time}
    (h : Balanced next) : Balanced (writeSystemMessage c id payload clock next) := by
  refine .post (fun seq => ⟨rfl, rfl⟩) fun seq => ?_
  exact balanced_updateConversation (fun r => rfl) fun r => h

end Statements

/-! ## The writers -/

section Writers
variable {permitted : Database → SendInput → Bool} {sees : Database → Uuid → Uuid → Bool}

lemma balanced_materialise {c user : Uuid} {clock : Time} {next : Program} (h : Balanced next) :
    Balanced (materialiseChannelMember c user clock next) := by
  refine balanced_read fun view => ?_
  split
  · exact h
  · split
    · exact h
    · exact balanced_insertNew trivial fun _ => h

lemma balanced_shareLocation {input : SendInput} {clock : Time} {next : Program}
    (h : Balanced next) : Balanced (shareLocation input clock next) := by
  unfold shareLocation
  split
  · exact h
  · dsimp only
    split_ifs
    · exact .fail
    · exact balanced_insert trivial h

lemma balanced_sendMessage {input : SendInput} {isVirtual : Bool} {scope : Uuid} {clock : Time} :
    Balanced (sendMessage sees input isVirtual scope clock) := by
  refine .post (fun seq => ⟨rfl, rfl⟩) fun seq => balanced_shareLocation ?_
  refine balanced_insertMentions (balanced_insertMentions (balanced_insertMentions ?_))
  have hlast : Balanced (update (.member input.conversationId input.actorId)
      (Member.sent seq clock) fun _ => .commit .done) := balanced_update trivial fun _ => .commit .done
  cases isVirtual with
  | true => exact balanced_materialise hlast
  | false => exact hlast

lemma balanced_send {input : SendInput} {clock : Time} :
    Balanced (send permitted sees input clock) := by
  refine balanced_read fun view => ?_
  split_ifs
  · exact .done
  · refine balanced_read fun view => ?_
    split_ifs
    · exact .fail
    · refine balanced_read fun view => ?_
      split
      · exact .fail
      · split_ifs
        · exact .fail
        · exact balanced_sendMessage

lemma balanced_writeCallSummary {call : Call} {messageId : Uuid} {summary : CallSummary}
    {preview : String} {clock : Time} {next : Program} (h : Balanced next) :
    Balanced (writeCallSummary call messageId summary preview clock next) := by
  unfold writeCallSummary
  split
  · exact h
  · refine .post (fun seq => ⟨rfl, rfl⟩) fun seq => ?_
    exact balanced_updateConversation (fun r => rfl) fun r => h

lemma balanced_endCall {callId messageId : Uuid} {reason : String} {clock : Time} :
    Balanced (endCall callId messageId reason clock) := by
  refine balanced_read fun view => ?_
  split
  · exact .done
  · split_ifs
    · exact .done
    all_goals exact balanced_update trivial fun _ => balanced_writeCallSummary (.commit .done)

lemma balanced_ringTimeout {callId messageId : Uuid} {clock : Time} :
    Balanced (ringTimeout callId messageId clock) := by
  refine balanced_read fun view => ?_
  split
  · exact .done
  · split_ifs
    · exact .done
    · exact balanced_updateWhere trivial fun _ => balanced_writeCallSummary (.commit .done)

lemma balanced_warnCampfire {c messageId : Uuid} {clock : Time} {endsAt : String} {next : Program}
    (h : Balanced next) : Balanced (warnCampfire c messageId clock endsAt next) := by
  refine .post (fun seq => ⟨rfl, rfl⟩) fun seq => .commit ?_
  exact balanced_updateConversation (fun r => rfl) fun r => .commit h

lemma balanced_warnCampfires {fresh : Uuid → Uuid} {clock : Time} {endsAt : Uuid → String}
    {next : Program} (h : Balanced next) (ids : List Key) :
    Balanced (warnCampfires fresh clock endsAt ids next) := by
  induction ids with
  | nil => exact h
  | cons k rest ih =>
    cases k with
    | conversation id => exact balanced_warnCampfire ih
    | _ => exact ih

lemma balanced_sweepCampfires {fresh : Uuid → Uuid} {clock : Time} {warning : ℕ}
    {endsAt : Uuid → String} : Balanced (sweepCampfires fresh clock warning endsAt) := by
  refine .statement (.of_rows (fun view m x hx => ?_) fun view c x hx => ?_) fun view =>
    .commit (balanced_warnCampfires ?_ _)
  · rw [Rows.on_apply] at hx
    split_ifs at hx
  · rw [Rows.on_apply] at hx
    split_ifs at hx
    obtain ⟨r, hr, rfl⟩ := Option.map_eq_some_iff.mp hx
    exact ⟨_, rfl, Or.inl ⟨r, hr, rfl⟩⟩
  · exact balanced_updateAll (fun m r => ⟨rfl, rfl⟩) (fun c r => rfl) (.commit .done)

lemma balanced_expireInvitesAndBans {clock : Time} : Balanced (expireInvitesAndBans clock) := by
  refine .statement (harmless_apart fun view k x hx => ?_) fun _ => .commit ?_
  · rw [Rows.on_apply] at hx
    split_ifs at hx with hk
    obtain ⟨r, -, hp⟩ := Rows.mem_select.mp hk
    cases k <;> trivial
  · exact balanced_updateAll (fun m r => ⟨rfl, rfl⟩) (fun c r => rfl) (.commit .done)

/-- Requests that insert messages through `writeSystemMessage` alone: `create`, the membership
routes, pins, settings and the rest of its callers. -/
inductive ViaSystemMessage : Program → Prop
  | done : ViaSystemMessage .done
  | fail : ViaSystemMessage .fail
  | commit {next : Program} (h : ViaSystemMessage next) : ViaSystemMessage (.commit next)
  | statement {writes : Database → Changes} {next : Database → Program} (hw : Harmless writes)
      (h : ∀ view, ViaSystemMessage (next view)) : ViaSystemMessage (.statement writes next)
  | system {c id : Uuid} {payload : SystemPayload} {clock : Time} {next : Program}
      (h : ViaSystemMessage next) : ViaSystemMessage (writeSystemMessage c id payload clock next)

lemma ViaSystemMessage.balanced {p : Program} (h : ViaSystemMessage p) : Balanced p := by
  induction h with
  | done => exact .done
  | fail => exact .fail
  | commit _ ih => exact .commit ih
  | statement hw _ ih => exact .statement hw ih
  | system _ ih => exact balanced_writeSystemMessage ih

inductive Writer (permitted : Database → SendInput → Bool) (sees : Database → Uuid → Uuid → Bool) :
    Program → Prop
  | send (input : SendInput) (clock : Time) : Writer permitted sees (send permitted sees input clock)
  | system {p : Program} (h : ViaSystemMessage p) : Writer permitted sees p
  | endCall (callId messageId : Uuid) (reason : String) (clock : Time) :
      Writer permitted sees (endCall callId messageId reason clock)
  | ringTimeout (callId messageId : Uuid) (clock : Time) :
      Writer permitted sees (ringTimeout callId messageId clock)
  | sweepExpiredMessages (clock : Time) : Writer permitted sees (sweepExpiredMessages clock)
  | sweepLiveLocations (clock : Time) : Writer permitted sees (sweepLiveLocations clock)
  | sweepCampfires (fresh : Uuid → Uuid) (clock : Time) (warning : ℕ) (endsAt : Uuid → String) :
      Writer permitted sees (sweepCampfires fresh clock warning endsAt)
  | purgeAccount (user : Uuid) : Writer permitted sees (purgeAccount user)
  | expireInvitesAndBans (clock : Time) : Writer permitted sees (expireInvitesAndBans clock)

lemma Writer.balanced {p : Program} (h : Writer permitted sees p) : Balanced p := by
  cases h with
  | send => exact balanced_send
  | system h => exact h.balanced
  | endCall => exact balanced_endCall
  | ringTimeout => exact balanced_ringTimeout
  | sweepCampfires => exact balanced_sweepCampfires
  | expireInvitesAndBans => exact balanced_expireInvitesAndBans
  | sweepExpiredMessages | sweepLiveLocations | purgeAccount =>
    exact balanced_updateAll (fun m r => ⟨rfl, rfl⟩) (fun c r => rfl) (.commit .done)

lemma writer_upholds (rows₀ : Database) {ok : Server Row → Event Row → Prop} :
    Upholds (Writer permitted sees) ok (Extends rows₀) fun _ => Stands :=
  let h := @balanced_upholds rows₀ ok
  { h with start := fun hok hg hp => h.start hok hg hp.balanced }

/-- In every run of the writers the committed numbers of every conversation are exactly those up to
its `message_seq`, and what is committed later has a greater number than what was before it. -/
theorem run_gapless {rows : Database} {s : Server Row} (hg : Gapless rows)
    (hrun : RunWhere (Step (Writer permitted sees)) (fun _ _ => True) (.idle rows) s) :
    Gapless s.rows ∧ ∀ s', RunWhere (Step (Writer permitted sees)) (fun _ _ => True) s s' →
      ∀ c m m' i j, place s.rows m = some (c, i) → place s.rows m' = none →
        place s'.rows m' = some (c, j) → i < j := by
  have hup : Upheld (Extends rows) (fun _ => Stands) s :=
    (writer_upholds rows).run (idle_upheld ⟨hg, fun _ _ _ h => h⟩) hrun
  refine ⟨hup.holds.1, fun s' hrun' c m m' i j hm hnone hm' => ?_⟩
  have hup' : Upheld (Extends s.rows) (fun _ => Stands) s' :=
    (writer_upholds s.rows).run ⟨hup.exclusive, ⟨hup.holds.1, fun _ _ _ h => h⟩, hup.stands⟩ hrun'
  obtain ⟨hgap', hkept⟩ := hup'.holds
  obtain ⟨n, hn⟩ := hup.holds.1.placed m c i hm
  have hnum := hup.holds.1.numbered c n hn
  have hi := hnum.within m i hm
  by_contra hle
  -- then `j` had its message before, and keeps it
  obtain ⟨n', hn'⟩ := hgap'.placed m' c j hm'
  have hnum' := hgap'.numbered c n' hn'
  have hj := hnum'.within m' j hm'
  obtain ⟨old, hold, -⟩ := hnum.unique j hj.1 (by omega)
  obtain rfl := (hnum'.unique j hj.1 hj.2).unique hm' (hkept old c j hold)
  rw [hnone] at hold
  cases hold

end Writers

namespace Sample

def group : Database :=
  Rows.on [.conversation 1] fun
    | .conversation _ => some (Conversation.new .group)
    | _ => none

def note (messageId : Uuid) : Program :=
  writeSystemMessage 1 messageId ⟨"title_changed", some 7, [], none⟩ 5 (.commit .done)

def notes : List (Move Row) :=
  [.start 0 (note 100), .go 0, .start 1 (note 101), .go 0, .go 0, .go 0, .go 1, .go 1, .go 1, .go 1]

def noted : Server Row := (Server.idle group).play (notes.take 6)

def notedTwice : Server Row := noted.play (notes.drop 6)

lemma group_gapless : Gapless group where
  numbered c n hn := by
    have hplace : ∀ m i, place group m ≠ some (c, i) := by
      intro m i hm
      simp [place, group, Rows.on_apply] at hm
    have hzero : n = 0 := by
      unfold head group at hn
      rw [Rows.on_apply] at hn
      split_ifs at hn
      · exact (Option.some.inj hn).symm
      · cases hn
    exact hzero ▸ numbered_zero hplace
  placed m c i hm := by simp [place, group, Rows.on_apply] at hm

variable {permitted : Database → SendInput → Bool} {sees : Database → Uuid → Uuid → Bool}

lemma notes_run {s : Server Row} {moves : List (Move Row)} (hmoves : moves ⊆ notes)
    (hout : ∀ other, other ∉ [0, 1] → s.requests other = none)
    (h : s.plays [0, 1] (fun _ _ => true) moves = true) :
    RunWhere (Step (Writer permitted sees)) (fun _ _ => True) s (s.play moves) := by
  refine run_play hout (fun id program hm => ?_) (fun _ _ _ => ⟨trivial, trivial, trivial⟩)
    (fun _ _ _ => trivial) h
  have hnote := hmoves hm
  simp only [notes, List.mem_cons, Move.start.injEq, reduceCtorEq, false_or, or_false,
    List.not_mem_nil] at hnote
  rcases hnote with ⟨-, rfl⟩ | ⟨-, rfl⟩ <;> exact .system (.system (.commit .done))

end Sample

/-- The second note gets a number after the first one's. -/
theorem run_gapless_notes : Gapless Sample.noted.rows ∧
    ∀ i j, place Sample.noted.rows 100 = some (1, i) →
      place Sample.notedTwice.rows 101 = some (1, j) → i < j := by
  have hout : ∀ other, other ∉ [0, 1] → (Server.idle Sample.group).requests other = none :=
    fun _ _ => rfl
  have hplays : (Server.idle Sample.group).plays [0, 1] (fun _ _ => true)
      (Sample.notes.take 6) = true := by decide
  have hfirst := @Sample.notes_run (fun _ _ => true) (fun _ _ _ => true) _ _ (List.take_subset 6 _) hout hplays
  have hsecond := @Sample.notes_run (fun _ _ => true) (fun _ _ _ => true) _ _ (List.drop_subset 6 _) (plays_out hout hplays) (by decide)
  obtain ⟨hgap, hlater⟩ := run_gapless Sample.group_gapless hfirst
  exact ⟨hgap, fun i j hi hj => hlater _ hsecond 1 100 101 i j hi rfl hj⟩

end Yappy.Tables
