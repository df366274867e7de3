import Yappy.MessageBookkeeping

/-!
# Every way to die

Every transaction that sends, edits, pins or removes leaves the pins, the reply counts, the names of
cards and the previews in order, and so they stay through every interleaving, as long as the worker
takes only messages that nothing else keeps count of and no call acts on a message that died after
it was looked at.
-/
namespace Yappy.Deletion

open Markdown (Text)
open Permissions (Time Uuid)
open ReadCommitted
open ReadCommitted.Sql

/-! ## Where a request stands -/

def Read (rows : Database) (id : Uuid) (row : Message) : Prop :=
  ∃ m, rows (.message id) = some m ∧ Follows row m

def Passed (rows : Database) (row : Message) (id : Uuid) (last : Option Uuid) : Prop :=
  ∃ conversation, rows (.conversation row.conversationId) = some conversation ∧
    (conversation.lastMessageId = some id → last = some id)

inductive Waiting (permitted : Database → Uuid → Uuid → Bool) (rows : Database) : Program → Prop
  | send (input : SendInput) : Waiting permitted rows (send permitted input)
  | sendChecked (input : SendInput) : Waiting permitted rows (sendChecked permitted input)
  | sendReply (input : SendInput) (target : Uuid) : Waiting permitted rows (sendReply input target)
  | sendTransaction (input : SendInput) (root : Option Uuid) :
      Waiting permitted rows (sendTransaction input root)
  | edit (actorId messageId : Uuid) (content : Option (Option Text)) :
      Waiting permitted rows (edit permitted actorId messageId content)
  | editChecked (actorId messageId : Uuid) (row : Message) (content : Option Text) :
      Waiting permitted rows (editChecked permitted actorId messageId row content)
  | editTransaction (messageId : Uuid) (row : Message) (last : Option Uuid) (content : Option Text) :
      Waiting permitted rows (editTransaction messageId row last content)
  | remove (actorId messageId : Uuid) (clock : Time) :
      Waiting permitted rows (remove permitted actorId messageId clock)
  | removeChecked (actorId messageId : Uuid) (row : Message) (clock : Time)
      (hread : Read rows messageId row) :
      Waiting permitted rows (removeChecked permitted actorId messageId row clock)
  | markDeleted (actorId messageId : Uuid) (row : Message) (last : Option Uuid) (clock : Time)
      (hread : Read rows messageId row) (hpassed : Passed rows row messageId last) :
      Waiting permitted rows (markDeleted actorId messageId row last clock)
  | pin (actorId conversationId messageId systemId : Uuid) :
      Waiting permitted rows (pin permitted actorId conversationId messageId systemId)
  | pinChecked (actorId conversationId messageId systemId : Uuid) :
      Waiting permitted rows (pinChecked actorId conversationId messageId systemId)
  | pinCounted (actorId conversationId messageId systemId : Uuid) :
      Waiting permitted rows (pinCounted actorId conversationId messageId systemId)
  | insertPin (conversationId messageId systemId : Uuid) (p : Pin) :
      Waiting permitted rows
        (insertPin conversationId messageId p (announcePin conversationId systemId))
  | unpin (actorId conversationId messageId : Uuid) :
      Waiting permitted rows (unpin permitted actorId conversationId messageId)
  | deletePin (conversationId messageId : Uuid) :
      Waiting permitted rows (deletePin conversationId messageId)
  | buryAll (due : Database → List Key) (clock : Time)
      (hdue : ∀ view k, k ∈ due view → ∃ id, k = .message id) :
      Waiting permitted rows (buryAll due clock)
  | done : Waiting permitted rows .done

def staleAfter (messageId : Uuid) (row : Message) (last : Option Uuid) : Option Uuid :=
  if last = some messageId then some row.conversationId else none

structure Marked (rows : Database) (changes : Changes) (messageId : Uuid) (row : Message)
    (last : Option Uuid) : Prop where
  locked : changes (.message messageId) ≠ none
  good : Good rows changes row.threadRootId (staleAfter messageId row last) ∨
    Good rows changes none (staleAfter messageId row last) ∧
      ∃ m, rows (.message messageId) = some m ∧ m.deletedAt ≠ none

inductive Stage (permitted : Database → Uuid → Uuid → Bool) (rows : Database) :
    Changes → Program → Prop
  | waiting {program : Program} (h : Waiting permitted rows program) :
      Stage permitted rows .empty program
  | numbered {changes : Changes} (input : SendInput) (root : Option Uuid) (seq : ℕ)
      (conversation : Conversation)
      (hc : rows (.conversation input.conversationId) = some conversation)
      (hw : ∀ k, changes k = put (.conversation input.conversationId)
        (conversation.stamped input.messageId input.preview).numbered k) :
      Stage permitted rows changes (sendInsert input root seq)
  | announcing {changes : Changes} (conversationId systemId : Uuid)
      (h : Good rows changes none none) :
      Stage permitted rows changes (announcePin conversationId systemId)
  | inserting {changes : Changes} (conversationId systemId : Uuid) (seq : ℕ)
      (h : Good rows changes none none) :
      Stage permitted rows changes (insertSystem conversationId systemId seq)
  | stamping {changes : Changes} (conversationId systemId : Uuid) (seq : ℕ)
      (h : Good rows changes none none) (hnew : rows (.message systemId) = none)
      (hm : changes (.message systemId) = some (some (systemMessage conversationId seq))) :
      Stage permitted rows changes (stampSystem conversationId systemId)
  | previewing {changes : Changes} (row : Message) (content : Option Text)
      (h : Good rows changes none none) : Stage permitted rows changes (editPreview row content)
  | marked {changes : Changes} (messageId : Uuid) (row : Message) (last : Option Uuid)
      (h : Marked rows changes messageId row last) :
      Stage permitted rows changes (removePins messageId row last)
  | unpinned {changes : Changes} (messageId : Uuid) (row : Message) (last : Option Uuid)
      (h : Marked rows changes messageId row last) :
      Stage permitted rows changes (removeReply messageId row last)
  | counted {changes : Changes} (messageId : Uuid) (row : Message) (last : Option Uuid)
      (h : Good rows changes none (staleAfter messageId row last)) :
      Stage permitted rows changes (removeRest messageId row last)
  | committing {changes : Changes} (h : Good rows changes none none) :
      Stage permitted rows changes (.commit .done)
  | failed {changes : Changes} : Stage permitted rows changes .fail

/-! ## What must not happen -/

/-- The next statement acts on no message that died after its request looked, and the worker takes
no message that something else keeps count of. -/
structure Mindful (rows view : Database) (program : Program) : Prop where
  /-- A removal of a thread reply that was deleted already finds the count at 0. -/
  remove : ∀ messageId row last root m r, program = removeReply messageId row last →
    row.threadRootId = some root → rows (.message messageId) = some m → m.deletedAt ≠ none →
    view (.message root) = some r → r.threadReplyCount = 0
  /-- An edit writes no preview while the conversation's last message is deleted. -/
  edit : ∀ row content conversation l m, program = editPreview row content →
    view (.conversation row.conversationId) = some conversation →
    conversation.lastMessageId = some l → view (.message l) = some m → m.deletedAt = none
  /-- A message the worker takes is no reply, no card and no conversation's last. -/
  bury : ∀ due clock id m, program = buryAll due clock → .message id ∈ due view →
    view (.message id) = some m → m.threadRootId = none ∧ m.cardKey = none ∧
      ∀ c conversation, view (.conversation c) = some conversation →
        conversation.lastMessageId ≠ some id

/-- A pin is committed on a message that is not deleted, and a deletion once it has taken every
pin that is committed. -/
structure Unpinning (rows : Database) (changes : Changes) : Prop where
  pinned : ∀ c k p m, changes (.pin c k) = some (some p) →
    overlay changes rows (.message k) = some m → m.deletedAt = none
  taken : ∀ c k m, changes (.message k) = some (some m) → m.deletedAt ≠ none →
    rows (.pin c k) ≠ none → changes (.pin c k) = some none

def Careful (s : Server Row) : Event Row → Prop
  | .statement id => ∀ changes program, s.requests id = some ⟨changes, program⟩ →
      Mindful s.rows (overlay changes s.rows) program
  | .commit id => ∀ changes program, s.requests id = some ⟨changes, program⟩ →
      Unpinning s.rows changes
  | .start .. | .abort _ => True

/-! ## One statement -/

section Statements
variable {permitted : Database → Uuid → Uuid → Bool} {rows : Database} {changes other : Changes}
  {program : Program} {writes : Database → Changes} {next : Database → Program}
  {id c messageId systemId : Uuid} {row m : Message} {last root : Option Uuid}

lemma Good.absent (h : Good rows changes none (some c))
    (hc : overlay changes rows (.conversation c) = none) : Good rows changes none none :=
  { h with
    previews := by
      intro c' conversation l m _ hx hl hm hdel
      refine h.previews c' conversation l m ?_ hx hl hm hdel
      rintro he
      obtain rfl := Option.some.inj he
      rw [hc] at hx
      cases hx
    announces := by
      intro c' conversation l m m' _ hx hl hm hdel hm' hdel'
      refine h.announces c' conversation l m m' ?_ hx hl hm hdel hm' hdel'
      rintro he
      obtain rfl := Option.some.inj he
      obtain ⟨conversation', hx', -⟩ := h.moved c conversation hx
      rw [hc] at hx'
      cases hx' }

lemma Good.weaken {stale : Option Uuid} {owed : Option Uuid} (h : Good rows changes owed none) :
    Good rows changes owed stale :=
  { h with
    previews := fun c conversation l m _ => h.previews c conversation l m (Option.some_ne_none c).symm
    announces := fun c conversation l m m' _ =>
      h.announces c conversation l m m' (Option.some_ne_none c).symm }

lemma inserted_of_root_none {view : Database} (hr : m.threadRootId = none) :
    inserted view id m = put (.message id) m := by
  unfold inserted
  rw [hr]

lemma inserted_self (view : Database) (id : Uuid) (m : Message) :
    inserted view id m (.message id) = some (some m) := by
  unfold inserted
  split
  · exact put_self _ _
  · split
    · exact put_self _ _
    · rw [andThen_apply, put_self, Option.some_or]

lemma inserted_conversation (view : Database) (id : Uuid) (m : Message) (c : Uuid) :
    inserted view id m (.conversation c) = none := by
  unfold inserted
  split
  · exact put_of_ne _ (by simp)
  · split
    · exact put_of_ne _ (by simp)
    · rw [andThen_apply, put_of_ne _ (by simp), put_of_ne _ (by simp), Option.none_or]

lemma not_violates {view : Database} (hv : violates view id m = false) :
    view (.message id) = none ∧ ∀ r, m.threadRootId = some r → (view (.message r)).isSome := by
  simp only [violates, Bool.or_eq_false_iff, Option.isSome_eq_false_iff,
    Option.isNone_iff_eq_none] at hv
  refine ⟨hv.1.1.1, fun r hr => ?_⟩
  have hroot := hv.2
  rw [hr] at hroot
  simpa [Option.isSome_iff_ne_none] using hroot

lemma Good.inserted (h : Good rows changes none none)
    (hid : overlay changes rows (.message id) = none)
    (hroots : ∀ r, m.threadRootId = some r → (overlay changes rows (.message r)).isSome)
    (hlive : m.deletedAt = none)
    (hzero : m.threadReplyCount = 0) (hnamed : m.cardKey = none → m.Nameless) :
    Good rows (andThen changes (inserted (overlay changes rows) id m)) none none := by
  cases hr : m.threadRootId with
  | none =>
    rw [inserted_of_root_none hr]
    exact h.insert hid hr hlive hzero hnamed
  | some r =>
    obtain ⟨x, hx⟩ := Option.isSome_iff_exists.mp (hroots r hr)
    have hne : id ≠ r := by
      rintro rfl
      rw [hid] at hx
      cases hx
    have hreplied : Good rows (andThen changes (put (.message r) x.replied)) (some r) none := by
      refine h.rewrite hx (Follows.replied x) Iff.rfl (fun n hn => ?_) fun root hroot => ?_
      · rw [if_neg (Option.some_ne_none r).symm] at hn
        simpa [Message.replied] using hn
      · simp [Ne.symm hroot]
    have hid' : overlay (andThen changes (put (.message r) x.replied)) rows (.message id) = none :=
      (view_put_of_ne _ (by simpa using hne)).trans hid
    have hinsert := hreplied.insert hid' hr hlive hzero hnamed
    unfold Deletion.inserted
    rw [hr]
    dsimp only
    rw [hx]
    refine hinsert.congr (fun k => ?_) fun c => ?_
    · simp only [andThen_apply, Option.or_assoc]
    · simp only [andThen_apply, Option.or_assoc]

lemma removeRest_statement (h : Good rows changes none (staleAfter messageId row last))
    (hp : .statement writes next = removeRest messageId row last) :
    Stage permitted rows (andThen changes (writes (overlay changes rows)))
      (next (overlay changes rows)) := by
  unfold removeRest at hp
  unfold staleAfter at h
  split_ifs at hp h with hl
  rcases update_inv hp (overlay changes rows) with ⟨hc, hw, hn⟩ | ⟨conversation, hc, hw, hn⟩
  · rw [hw, hn]
    exact .committing (h.absent hc)
  · rw [hw, hn]
    refine .committing (h.putConversation hc (Or.inl rfl) (fun _ _ _ _ _ => rfl) fun c' hne _ he => ?_)
    exact hne (Option.some.inj he).symm

lemma removeReply_statement (h : Marked rows changes messageId row last)
    (hp : .statement writes next = removeReply messageId row last)
    (hm : Mindful rows (overlay changes rows) (.statement writes next)) :
    Stage permitted rows (andThen changes (writes (overlay changes rows)))
      (next (overlay changes rows)) := by
  have hmindful := fun root m r => hm.remove messageId row last root m r hp
  unfold removeReply at hp
  split at hp
  · rename_i hroot
    refine removeRest_statement ?_ hp
    rcases h.good with hg | ⟨hg, -⟩
    · rwa [hroot] at hg
    · exact hg
  · rename_i root hroot
    rcases update_inv hp (overlay changes rows) with ⟨hr, hw, hn⟩ | ⟨r, hr, hw, hn⟩
    · rw [hw, hn]
      refine .counted messageId row last ?_
      rcases h.good with hg | ⟨hg, -⟩
      · have := hg.owes root hroot
        rw [hr] at this
        cases this
      · exact hg
    · rw [hw, hn]
      refine .counted messageId row last ?_
      rcases h.good with hg | ⟨hg, m, hcommitted, hdeleted⟩
      · refine hg.rewrite hr (Follows.unreplied r) Iff.rfl (fun n hcount => ?_) fun root' hne => ?_
        · rw [if_pos hroot] at hcount
          rw [if_neg (Option.some_ne_none root).symm]
          change r.threadReplyCount - 1 = n + 0
          omega
        · simp [hroot, Ne.symm hne]
      · have hzero := hmindful root m r hroot hcommitted hdeleted hr
        refine hg.rewrite hr (Follows.unreplied r) Iff.rfl (fun n hcount => ?_) fun _ _ => Iff.rfl
        rw [if_neg (Option.some_ne_none root).symm] at hcount ⊢
        change r.threadReplyCount - 1 = n + 0
        omega

lemma markDeleted_statement {actorId : Uuid} {clock : Time} (hs : Sound rows)
    (hread : Read rows messageId row) (hpassed : Passed rows row messageId last)
    (hp : .statement writes next = markDeleted actorId messageId row last clock) :
    Stage permitted rows (andThen .empty (writes rows)) (next rows) := by
  obtain ⟨m, hm, hf⟩ := hread
  rcases update_inv hp rows with ⟨hnone, -, -⟩ | ⟨m', hm', hw, hn⟩
  · rw [hm] at hnone
    cases hnone
  rw [hm] at hm'
  obtain rfl := Option.some.inj hm'
  rw [hw, hn]
  refine .marked messageId row last ⟨by simp [andThen_apply], ?_⟩
  have hfollows : Follows m (row.removed actorId clock m) := hf.removed (hs.named messageId m hm)
  have hempty := good_empty hs
  by_cases hdel : m.deletedAt = none
  · left
    rw [← hf.threadRootId]
    refine hempty.mark hm hfollows hdel (Option.some_ne_none clock) rfl fun c conversation hc hl => ?_
    obtain ⟨x, hx, hxc⟩ := hs.last c conversation messageId hc hl
    rw [hm] at hx
    obtain rfl := Option.some.inj hx
    obtain ⟨conversation', hc', hlast⟩ := hpassed
    rw [← hf.conversationId, hxc] at hc'
    rw [overlay_empty, hc'] at hc
    obtain rfl := Option.some.inj hc
    rw [staleAfter, if_pos (hlast hl), ← hf.conversationId, hxc]
  · right
    refine ⟨Good.weaken ?_, m, hm, hdel⟩
    refine hempty.rewrite hm hfollows ?_ (fun n hn => hn) fun _ _ => Iff.rfl
    exact ⟨fun h => absurd h (Option.some_ne_none clock), fun h => absurd h hdel⟩

lemma editPreview_statement {content : Option Text} (h : Good rows changes none none)
    (hp : .statement writes next = editPreview row content)
    (hm : Mindful rows (overlay changes rows) (.statement writes next)) :
    Stage permitted rows (andThen changes (writes (overlay changes rows)))
      (next (overlay changes rows)) := by
  rcases update_inv hp (overlay changes rows) with ⟨-, hw, hn⟩ | ⟨conversation, hc, hw, hn⟩
  · rw [hw, hn]
    exact .committing h
  · rw [hw, hn]
    refine .committing (h.putConversation hc (Or.inl rfl) (fun l m hl hml hdel => ?_)
      fun _ _ => id)
    exact absurd (hm.edit row content conversation l m hp hc hl hml) hdel

lemma sendInsert_statement {input : SendInput} {seq : ℕ} {conversation : Conversation}
    (hs : Sound rows) (hc : rows (.conversation input.conversationId) = some conversation)
    (hch : ∀ k, changes k = put (.conversation input.conversationId)
      (conversation.stamped input.messageId input.preview).numbered k)
    (hp : .statement writes next = sendInsert input root seq) :
    Stage permitted rows (andThen changes (writes (overlay changes rows)))
      (next (overlay changes rows)) := by
  obtain ⟨rfl, rfl⟩ := Program.statement.inj hp
  beta_reduce
  split_ifs with hv
  · exact .failed
  let m := input.message root seq
  let conversation' := (conversation.stamped input.messageId input.preview).numbered
  have hmessage : ∀ k, changes (.message k) = none := fun k =>
    (hch _).trans (put_of_ne _ (by simp))
  have hview : ∀ k, overlay changes rows (.message k) = rows (.message k) := fun k =>
    overlay_of_none (hmessage k)
  have hsame : inserted (overlay changes rows) input.messageId m = inserted rows input.messageId m := by
    unfold inserted
    simp only [hview]
  obtain ⟨hid, hroots⟩ := not_violates (Bool.eq_false_iff.mpr hv)
  simp only [hview] at hid hroots
  have hnamed : m.cardKey = none → m.Nameless := by
    intro hcard
    refine ⟨hcard, fun c a k he => ?_⟩
    have hkey := Option.some.inj he
    unfold SendInput.key at hkey
    rw [show input.cardKey = none from hcard] at hkey
    cases hkey
  -- It comes to the same as writing the conversation after the message.
  have hinsert : Good rows (andThen .empty (inserted rows input.messageId m)) none none :=
    (good_empty hs).inserted hid hroots rfl rfl hnamed
  have hwritten : overlay (andThen .empty (inserted rows input.messageId m)) rows
      (.message input.messageId) = some m := overlay_of_some (by
    rw [andThen_apply, inserted_self, Option.some_or])
  have hboth := @Good.putConversation _ _ none none none input.conversationId conversation conversation'
    hinsert (by rw [overlay_of_none, hc]; rw [andThen_apply, inserted_conversation]; rfl)
    (Or.inr ⟨input.messageId, m, rfl, hid, hwritten, rfl⟩)
    (by
      intro l x hl hx hdel
      obtain rfl := Option.some.inj hl
      rw [hwritten] at hx
      obtain rfl := Option.some.inj hx
      exact absurd rfl hdel) fun _ _ => id
  rw [hsame]
  refine .committing (hboth.congr (fun k => ?_) fun c => ?_)
  · simp only [andThen_apply, hmessage, put_of_ne _ (show Key.message k ≠ .conversation _ by simp)]
    rfl
  · simp only [andThen_apply, inserted_conversation, hch, Option.none_or]
    exact (Option.or_none ..).symm

lemma announcePin_statement {conversationId : Uuid} (h : Good rows changes none none)
    (hp : .statement writes next = announcePin conversationId systemId) :
    Stage permitted rows (andThen changes (writes (overlay changes rows)))
      (next (overlay changes rows)) := by
  rcases update_inv hp (overlay changes rows) with ⟨-, hw, hn⟩ | ⟨conversation, hc, hw, hn⟩
  · rw [hn]
    exact .failed
  · rw [hw, hn]
    refine .inserting conversationId systemId _
      (h.putConversation hc (Or.inl rfl) (fun l m hl hm hdel => ?_) fun _ _ => id)
    exact h.previews conversationId conversation l m (Option.some_ne_none _).symm hc hl hm hdel

lemma insertSystem_statement {conversationId : Uuid} {seq : ℕ} (h : Good rows changes none none)
    (hp : .statement writes next = insertSystem conversationId systemId seq) :
    Stage permitted rows (andThen changes (writes (overlay changes rows)))
      (next (overlay changes rows)) := by
  obtain ⟨rfl, rfl⟩ := Program.statement.inj hp
  beta_reduce
  split_ifs with hv
  · exact .failed
  obtain ⟨hid, -⟩ := not_violates (Bool.eq_false_iff.mpr hv)
  rw [inserted_of_root_none rfl]
  refine .stamping conversationId systemId seq
    (h.insert hid rfl rfl rfl fun _ => ⟨rfl, fun _ _ _ he => by cases he⟩) ?_ ?_
  · by_contra hne
    obtain ⟨m, hm⟩ := Option.ne_none_iff_exists'.mp hne
    obtain ⟨m', hm', -⟩ := h.kept systemId m hm
    rw [hid] at hm'
    cases hm'
  · rw [andThen_apply, put_self, Option.some_or]

lemma stampSystem_statement {conversationId : Uuid} {seq : ℕ} (h : Good rows changes none none)
    (hnew : rows (.message systemId) = none)
    (hm : changes (.message systemId) = some (some (systemMessage conversationId seq)))
    (hp : .statement writes next = stampSystem conversationId systemId) :
    Stage permitted rows (andThen changes (writes (overlay changes rows)))
      (next (overlay changes rows)) := by
  have hview : overlay changes rows (.message systemId) = some (systemMessage conversationId seq) :=
    overlay_of_some hm
  rcases update_inv hp (overlay changes rows) with ⟨-, hw, hn⟩ | ⟨conversation, hc, hw, hn⟩
  · rw [hw, hn]
    exact .committing h
  · rw [hw, hn]
    refine .committing (h.putConversation hc (Or.inr ⟨systemId, _, rfl, hnew, hview, rfl⟩)
      (fun l m hl hml hdel => ?_) fun _ _ => id)
    obtain rfl := Option.some.inj hl
    rw [hview] at hml
    obtain rfl := Option.some.inj hml
    exact absurd rfl hdel

lemma buryAll_statement {due : Database → List Key} {clock : Time} (hs : Sound rows)
    (hdue : ∀ view k, k ∈ due view → ∃ id, k = .message id)
    (hp : .statement writes next = buryAll due clock)
    (hm : Mindful rows rows (.statement writes next)) :
    Stage permitted rows (andThen .empty (writes rows)) (next rows) := by
  have hbury := fun id m => hm.bury due clock id m hp
  obtain ⟨rfl, rfl⟩ := Program.statement.inj hp
  beta_reduce
  refine .committing (Good.congr (good_buried hs (fun c => ?_) fun k => ?_)
    (fun _ => Option.or_none ..) fun _ => Option.or_none ..)
  · rw [Rows.on_apply, if_neg]
    intro hc
    obtain ⟨id, he⟩ := hdue rows _ hc
    cases he
  · rw [Rows.on_apply]
    split_ifs with hk
    · cases hrow : rows (.message k) with
      | none => exact Or.inl rfl
      | some m =>
        obtain ⟨hroot, hcard, hlast⟩ := hbury k m hk hrow
        exact Or.inr ⟨m, clock, rfl, rfl, hroot, hs.named k m hrow hcard, hlast⟩
    · exact Or.inl rfl

theorem Waiting.statement (h : Waiting permitted rows program) (hs : Sound rows)
    (hp : program = .statement writes next) (hm : Mindful rows rows program) :
    Stage permitted rows (andThen .empty (writes rows)) (next rows) := by
  cases h with
  | send input =>
    cases hp
    beta_reduce
    split_ifs
    · exact .waiting .done
    · exact .waiting (.sendChecked input)
  | sendChecked input =>
    cases hp
    beta_reduce
    split_ifs
    · exact .failed
    · split
      · exact .waiting (.sendTransaction input _)
      · exact .waiting (.sendReply input _)
  | sendReply input target =>
    cases hp
    beta_reduce
    split
    · exact .failed
    · split_ifs
      · exact .failed
      · exact .waiting (.sendTransaction input _)
  | sendTransaction input root =>
    rcases update_inv hp.symm rows with ⟨-, -, hn⟩ | ⟨conversation, hc, hw, hn⟩
    · rw [hn]
      exact .failed
    · rw [hw, hn]
      exact .numbered input root _ conversation hc fun k => Option.or_none ..
  | edit actorId messageId content =>
    cases hp
    beta_reduce
    split
    · exact .failed
    · split_ifs
      · exact .failed
      · exact .waiting (.editChecked actorId messageId _ _)
  | editChecked actorId messageId row content =>
    cases hp
    beta_reduce
    split
    · exact .failed
    · split_ifs
      · exact .failed
      · exact .waiting (.editTransaction messageId row _ content)
  | editTransaction messageId row last content =>
    have hgood : Good rows (andThen .empty (writes rows)) none none := by
      rcases update_inv hp.symm rows with ⟨-, hw, -⟩ | ⟨m, hrow, hw, -⟩
      · rw [hw]
        exact good_empty hs
      · rw [hw]
        exact (good_empty hs).rewrite hrow (Follows.content m content) Iff.rfl (fun _ hn => hn)
          fun _ _ => Iff.rfl
    have hn : next rows = if last = some messageId then editPreview row content else .commit .done := by
      cases hp
      rfl
    rw [hn]
    split_ifs
    · exact .previewing row content hgood
    · exact .committing hgood
  | remove actorId messageId clock =>
    cases hp
    beta_reduce
    split
    · exact .failed
    · rename_i row hrow
      exact .waiting (.removeChecked actorId messageId row clock ⟨row, hrow, Follows.refl row⟩)
  | removeChecked actorId messageId row clock hread =>
    cases hp
    beta_reduce
    split
    · exact .failed
    · rename_i conversation hc
      split_ifs
      · exact .failed
      · exact .waiting (.markDeleted actorId messageId row _ clock hread ⟨conversation, hc, id⟩)
  | markDeleted actorId messageId row last clock hread hpassed =>
    exact markDeleted_statement hs hread hpassed hp.symm
  | pin actorId conversationId messageId systemId =>
    cases hp
    beta_reduce
    split_ifs
    · exact .failed
    · exact .waiting (.pinChecked actorId conversationId messageId systemId)
  | pinChecked actorId conversationId messageId systemId =>
    cases hp
    beta_reduce
    split
    · exact .failed
    · split_ifs
      · exact .failed
      · exact .waiting (.pinCounted actorId conversationId messageId systemId)
  | pinCounted actorId conversationId messageId systemId =>
    cases hp
    beta_reduce
    dsimp only
    split_ifs
    · exact .failed
    · exact .waiting (.insertPin conversationId messageId systemId _)
  | insertPin conversationId messageId systemId p =>
    obtain ⟨rfl, rfl⟩ := Program.statement.inj hp.symm
    beta_reduce
    have hgood := fun w : Changes => @Good.andThen_pins rows .empty none none w (good_empty hs)
    split_ifs with hmissing
    · exact .failed
    · refine .announcing conversationId systemId (hgood _ fun k hk => ?_)
      exact absurd rfl hk
    · exact .failed
    · refine .announcing conversationId systemId (hgood _ fun k hk => ?_)
      by_contra hno
      refine hk (put_of_ne _ fun he => hno ?_)
      exact ⟨conversationId, messageId, he⟩
  | unpin actorId conversationId messageId =>
    cases hp
    beta_reduce
    split_ifs
    · exact .failed
    · exact .waiting (.deletePin conversationId messageId)
  | deletePin conversationId messageId =>
    obtain ⟨rfl, rfl⟩ := Program.statement.inj hp.symm
    refine .committing ((good_empty hs).andThen_pins fun k hk => ?_)
    beta_reduce at hk
    rw [Rows.on_apply, ite_ne_right_iff] at hk
    have hmem := hk.1
    split_ifs at hmem
    · exact ⟨conversationId, messageId, List.mem_singleton.mp hmem⟩
    · exact absurd hmem List.not_mem_nil
  | buryAll due clock hdue =>
    rw [hp] at hm
    exact buryAll_statement hs hdue hp.symm hm
  | done => cases hp

lemma removePins_statement (h : Marked rows changes messageId row last)
    (hp : .statement writes next = removePins messageId row last) :
    Stage permitted rows (andThen changes (writes (overlay changes rows)))
      (next (overlay changes rows)) := by
  obtain ⟨rfl, rfl⟩ := Program.statement.inj hp
  beta_reduce
  have hpins : ∀ k ∈ pinsOf messageId (overlay changes rows), ∃ c m, k = .pin c m := by
    intro k hk
    obtain ⟨r, -, hpin⟩ := Rows.mem_select.mp hk
    cases k with
    | pin c m => exact ⟨c, m, rfl⟩
    | conversation | message => cases hpin
  refine .unpinned messageId row last ⟨?_, ?_⟩
  · rw [andThen_apply]
    simp [h.locked]
  · have hwrites : ∀ {owed stale}, Good rows changes owed stale → Good rows (andThen changes
        (Rows.on (pinsOf messageId (overlay changes rows)) fun _ => some none)) owed stale := by
      intro owed stale hg
      refine hg.andThen_pins fun k hk => ?_
      rw [Rows.on_apply, ite_ne_right_iff] at hk
      exact hpins k hk.1
    rcases h.good with hg | ⟨hg, hrest⟩
    · exact Or.inl (hwrites hg)
    · exact Or.inr ⟨hwrites hg, hrest⟩

lemma Stage.statement (h : Stage permitted rows changes program) (hs : Sound rows)
    (hp : program = .statement writes next) (hm : Mindful rows (overlay changes rows) program) :
    Stage permitted rows (andThen changes (writes (overlay changes rows)))
      (next (overlay changes rows)) := by
  cases h with
  | waiting h => exact h.statement hs hp hm
  | numbered input root seq conversation hc hw => exact sendInsert_statement hs hc hw hp.symm
  | announcing conversationId systemId h => exact announcePin_statement h hp.symm
  | inserting conversationId systemId seq h => exact insertSystem_statement h hp.symm
  | stamping conversationId systemId seq h hnew hmessage =>
    exact stampSystem_statement h hnew hmessage hp.symm
  | previewing row content h =>
    rw [hp] at hm
    exact editPreview_statement h hp.symm hm
  | marked messageId row last h => exact removePins_statement h hp.symm
  | unpinned messageId row last h =>
    rw [hp] at hm
    exact removeReply_statement h hp.symm hm
  | counted messageId row last h => exact removeRest_statement h hp.symm
  | committing => cases hp
  | failed => cases hp

/-! ## Commits -/

lemma Waiting.not_commit {rest : Program} (h : Waiting permitted rows program) :
    program ≠ .commit rest := by
  rintro hp
  cases h <;> cases hp

lemma removeRest_commit {rest : Program}
    (h : Good rows changes none (staleAfter messageId row last))
    (hp : removeRest messageId row last = .commit rest) :
    Good rows changes none none ∧ rest = .done := by
  unfold removeRest at hp
  unfold staleAfter at h
  split_ifs at hp h
  · cases hp
  · cases hp
    exact ⟨h, rfl⟩

lemma Stage.commit_inv {rest : Program} (h : Stage permitted rows changes program)
    (hp : program = .commit rest) : Good rows changes none none ∧ rest = .done := by
  cases h with
  | waiting h => exact absurd hp h.not_commit
  | unpinned messageId row last h =>
    unfold removeReply at hp
    split at hp
    · rename_i hroot
      refine removeRest_commit ?_ hp
      rcases h.good with hg | ⟨hg, -⟩
      · rwa [hroot] at hg
      · exact hg
    · cases hp
  | counted messageId row last h => exact removeRest_commit h hp
  | committing h =>
    cases hp
    exact ⟨h, rfl⟩
  | numbered | announcing | inserting | stamping | previewing | marked | failed => cases hp

lemma Good.commit (h : Good rows changes none none) (hs : Sound rows)
    (hu : Unpinning rows changes) : Sound (overlay changes rows) := by
  refine h.sound fun c k p m hp hm => ?_
  cases hpin : changes (.pin c k) with
  | some x =>
    rw [overlay_of_some hpin] at hp
    subst hp
    exact hu.pinned c k p m hpin hm
  | none =>
    rw [overlay_of_none hpin] at hp
    cases hmessage : changes (.message k) with
    | none =>
      rw [overlay_of_none hmessage] at hm
      exact hs.pins c k p m hp hm
    | some x =>
      rw [overlay_of_some hmessage] at hm
      subst hm
      by_contra hdel
      have htaken := hu.taken c k m hmessage hdel (by simp [hp])
      rw [hpin] at htaken
      cases htaken

section Other
variable (hd : ∀ k, changes k = none ∨ other k = none) (ho : Good rows other none none)
include ho

lemma Read.stable (h : Read rows id row) : Read (overlay other rows) id row := by
  obtain ⟨m, hm, hf⟩ := h
  obtain ⟨m', hm', hf'⟩ := ho.kept id m hm
  exact ⟨m', hm', hf.trans hf'⟩

lemma Passed.stable (h : Passed rows row id last) (hread : Read rows id row) :
    Passed (overlay other rows) row id last := by
  obtain ⟨conversation, hc, hl⟩ := h
  obtain ⟨conversation', hc', hl'⟩ := ho.moved _ conversation hc
  obtain ⟨m, hm, -⟩ := hread
  refine ⟨conversation', hc', fun he => ?_⟩
  rcases hl' id he with hold | hnew
  · exact hl hold
  · rw [hm] at hnew
    cases hnew

lemma Waiting.stable (h : Waiting permitted rows program) :
    Waiting permitted (overlay other rows) program := by
  cases h with
  | removeChecked actorId messageId row clock hread =>
    exact .removeChecked actorId messageId row clock (hread.stable ho)
  | markDeleted actorId messageId row last clock hread hpassed =>
    exact .markDeleted actorId messageId row last clock (hread.stable ho) (hpassed.stable ho hread)
  | buryAll due clock hdue => exact .buryAll due clock hdue
  | _ => constructor

include hd

lemma Marked.stable (h : Marked rows changes messageId row last) (hs : Sound rows) :
    Marked (overlay other rows) changes messageId row last where
  locked := h.locked
  good := by
    rcases h.good with hg | ⟨hg, m, hm, hdel⟩
    · exact Or.inl (hg.stable hd ho hs)
    · exact Or.inr ⟨hg.stable hd ho hs, m, (view_locked hd h.locked).2.trans hm, hdel⟩

lemma Stage.stable (h : Stage permitted rows changes program) (hs : Sound rows) :
    Stage permitted (overlay other rows) changes program := by
  cases h with
  | waiting h => exact .waiting (h.stable ho)
  | numbered input root seq conversation hc hw =>
    refine .numbered input root seq conversation ?_ hw
    have hlock : changes (.conversation input.conversationId) ≠ none := by simp [hw]
    exact (view_locked hd hlock).2.trans hc
  | announcing c systemId h => exact .announcing c systemId (h.stable hd ho hs)
  | inserting c systemId seq h => exact .inserting c systemId seq (h.stable hd ho hs)
  | stamping c systemId seq h hnew hm =>
    refine .stamping c systemId seq (h.stable hd ho hs) ?_ hm
    exact (view_locked hd (by simp [hm])).2.trans hnew
  | previewing row content h => exact .previewing row content (h.stable hd ho hs)
  | marked messageId row last h => exact .marked messageId row last (h.stable hd ho hs)
  | unpinned messageId row last h => exact .unpinned messageId row last (h.stable hd ho hs)
  | counted messageId row last h => exact .counted messageId row last (h.stable hd ho hs)
  | committing h => exact .committing (h.stable hd ho hs)
  | failed => exact .failed

end Other

lemma Accepted.waiting (h : Accepted permitted program) : Waiting permitted rows program := by
  cases h with
  | send input => exact .send input
  | edit actorId messageId content => exact .edit actorId messageId content
  | remove actorId messageId clock => exact .remove actorId messageId clock
  | pin actorId conversationId messageId systemId =>
    exact .pin actorId conversationId messageId systemId
  | unpin actorId conversationId messageId => exact .unpin actorId conversationId messageId
  | sweepExpiredMessages clock =>
    refine .buryAll _ clock fun view k hk => ?_
    obtain ⟨r, -, hm⟩ := Rows.mem_select.mp (List.mem_of_mem_take hk)
    cases k with
    | message id => exact ⟨id, rfl⟩
    | conversation | pin => cases hm
  | quarantineMedia mediaId clock =>
    refine .buryAll _ clock fun view k hk => ?_
    obtain ⟨r, -, hm⟩ := Rows.mem_select.mp hk
    cases k with
    | message id => exact ⟨id, rfl⟩
    | conversation | pin => cases hm

end Statements

namespace Sample

def silent : Database :=
  Rows.on [.conversation 1] fun
    | .conversation _ => some ⟨0, none, none⟩
    | _ => none

def anyone : Database → Uuid → Uuid → Bool := fun _ _ _ => true

def notice : SendInput where
  actorId := 7
  conversationId := 1
  messageId := 100
  type := .text
  content := some [104, 105]
  cardText := none
  isEncrypted := false
  replyToId := none
  threadRootId := none
  mediaIds := []
  nonce := "n"
  cardKey := none
  expiresAt := some 10

def sending : Server Row := (Server.idle silent).move (.start 0 (send anyone notice))

def calm (s : Server Row) : Bool :=
  match s.requests 0 with
  | none => true
  | some r => s.rows.keys.all (fun | .message _ | .pin .. => false | _ => true) &&
    r.changes.keys.all fun
      | .pin .. => false
      | .message id => s.committing 0 && match r.changes (.message id) with
        | some (some (m : Message)) => m.deletedAt.isNone
        | _ => true
      | .conversation _ => true

def moves : List (Move Row) :=
  [.start 0 (send anyone notice)] ++ List.replicate 5 (.go 0) ++
    [.start 1 (pin anyone 7 1 100 101)] ++ List.replicate 8 (.go 1) ++
    [.start 2 (sweepExpiredMessages 20)] ++ List.replicate 2 (.go 2)

def swept : Server Row := (Server.idle silent).play moves

end Sample

open Sample

end Yappy.Deletion
