import Yappy.MessageDeletion

/-!
# What a dead message leaves behind

The pins, the reply counts, the names of cards and the previews, and what a transaction that is not
through may still have to do for them. What other transactions commit meanwhile does not add to it.
-/
namespace Yappy.Deletion

open Permissions (Time Uuid)
open ReadCommitted
open ReadCommitted.Sql

/-- A reply under `root` that is not deleted. -/
def isReply (root : Uuid) : (k : Key) → Row k → Bool
  | .message _, (m : Message) => m.threadRootId = some root ∧ m.deletedAt.isNone
  | _, _ => false

def replyCount (rows : Database) (root : Uuid) : ℕ := (rows.select (isReply root)).length

/-- Neither a name nor the nonce that comes with it. -/
def Message.Nameless (m : Message) : Prop :=
  m.cardKey = none ∧ ∀ conversationId actorId key, m.nonce ≠ some (.card conversationId actorId key)

structure Clean (rows : Database) : Prop where
  pins : ∀ c k p m, rows (.pin c k) = some p → rows (.message k) = some m → m.deletedAt = none
  threads : ∀ root m, rows (.message root) = some m → m.threadReplyCount = replyCount rows root
  names : ∀ k m, rows (.message k) = some m → m.deletedAt ≠ none → m.Nameless
  previews : ∀ c conversation l m, rows (.conversation c) = some conversation →
    conversation.lastMessageId = some l → rows (.message l) = some m → m.deletedAt ≠ none →
    conversation.lastMessagePreview = some deletedPreview

structure Formed (rows : Database) : Prop where
  last : ∀ c conversation l, rows (.conversation c) = some conversation →
    conversation.lastMessageId = some l → ∃ m, rows (.message l) = some m ∧ m.conversationId = c
  roots : ∀ k m root, rows (.message k) = some m → m.threadRootId = some root →
    root ≠ k ∧ (rows (.message root)).isSome
  named : ∀ k m, rows (.message k) = some m → m.cardKey = none → m.Nameless

structure Sound (rows : Database) : Prop extends Clean rows, Formed rows

/-! ## What becomes of a message -/

/-- `m'` is a later version of `m`. -/
structure Follows (m m' : Message) : Prop where
  conversationId : m'.conversationId = m.conversationId
  threadRootId : m'.threadRootId = m.threadRootId
  deleted : m.deletedAt ≠ none → m'.deletedAt ≠ none
  name : (m'.cardKey = m.cardKey ∧ m'.nonce = m.nonce) ∨ (m'.cardKey = none ∧ m'.nonce = none)
  freed : m.deletedAt = none → m'.deletedAt ≠ none → m'.Nameless

namespace Follows
variable {m m' m'' : Message}

lemma refl (m : Message) : Follows m m :=
  ⟨rfl, rfl, id, Or.inl ⟨rfl, rfl⟩, fun h h' => absurd h h'⟩

lemma nameless (h : Follows m m') (hm : m.Nameless) : m'.Nameless := by
  rcases h.name with ⟨hk, hn⟩ | ⟨hk, hn⟩
  · exact ⟨hk.trans hm.1, fun c a k => hn ▸ hm.2 c a k⟩
  · exact ⟨hk, fun c a k => by simp [hn]⟩

lemma trans (h : Follows m m') (h' : Follows m' m'') : Follows m m'' where
  conversationId := h'.conversationId.trans h.conversationId
  threadRootId := h'.threadRootId.trans h.threadRootId
  deleted hd := h'.deleted (h.deleted hd)
  name := by
    rcases h'.name with ⟨hk', hn'⟩ | hnone
    · rcases h.name with ⟨hk, hn⟩ | ⟨hk, hn⟩
      · exact Or.inl ⟨hk'.trans hk, hn'.trans hn⟩
      · exact Or.inr ⟨hk'.trans hk, hn'.trans hn⟩
    · exact Or.inr hnone
  freed hm hm'' := by
    by_cases hm' : m'.deletedAt = none
    · exact h'.freed hm' hm''
    · exact h'.nameless (h.freed hm hm')

lemma replied (m : Message) : Follows m m.replied :=
  ⟨rfl, rfl, id, Or.inl ⟨rfl, rfl⟩, fun h h' => absurd h h'⟩

lemma unreplied (m : Message) : Follows m m.unreplied :=
  ⟨rfl, rfl, id, Or.inl ⟨rfl, rfl⟩, fun h h' => absurd h h'⟩

lemma content (m : Message) (content : Option Markdown.Text) :
    Follows m { m with content := content } :=
  ⟨rfl, rfl, id, Or.inl ⟨rfl, rfl⟩, fun h h' => absurd h h'⟩

lemma removed {row : Message} {actorId : Uuid} {clock : Time} (h : Follows row m)
    (hn : m.cardKey = none → m.Nameless) : Follows m (row.removed actorId clock m) where
  conversationId := rfl
  threadRootId := rfl
  deleted _ := Option.some_ne_none _
  name := by
    cases hk : row.cardKey with
    | some key => exact Or.inr (by simp [Message.removed, hk])
    | none => exact Or.inl (by simp [Message.removed, hk])
  freed _ _ := by
    cases hk : row.cardKey with
    | some key => simp [Message.removed, Message.Nameless, hk]
    | none =>
      have hm : m.cardKey = none := by
        rcases h.name with ⟨he, -⟩ | ⟨he, -⟩
        · exact he.trans hk
        · exact he
      have hnameless := hn hm
      simpa [Message.removed, Message.Nameless, hk] using hnameless

lemma buried {clock : Time} (hn : m.Nameless) : Follows m { m with deletedAt := some clock } :=
  ⟨rfl, rfl, fun _ => Option.some_ne_none _, Or.inl ⟨rfl, rfl⟩, fun _ _ => hn⟩

end Follows

/-! ## Reply counts -/

section Counts
variable {rows view : Database} {root k' : Uuid} {k : Key}

/-- The message stands for a reply under `root` that is not deleted. -/
def Replies (rows : Database) (root k : Uuid) : Prop :=
  ∃ m, rows (.message k) = some m ∧ m.threadRootId = some root ∧ m.deletedAt = none

lemma mem_select_isReply :
    k ∈ rows.select (isReply root) ↔ ∃ id, k = .message id ∧ Replies rows root id := by
  rw [Rows.mem_select]
  constructor
  · rintro ⟨r, hr, hp⟩
    cases k with
    | message id =>
      obtain ⟨hroot, hdeleted⟩ := of_decide_eq_true hp
      exact ⟨id, rfl, r, hr, hroot, Option.isNone_iff_eq_none.mp hdeleted⟩
    | conversation | pin => cases hp
  · rintro ⟨id, rfl, m, hm, hroot, hdeleted⟩
    exact ⟨m, hm, decide_eq_true ⟨hroot, Option.isNone_iff_eq_none.mpr hdeleted⟩⟩

lemma replyCount_congr (h : ∀ id, Replies view root id ↔ Replies rows root id) :
    replyCount view root = replyCount rows root :=
  length_select_congr fun k => by simp only [mem_select_isReply, h]

lemma replyCount_insert {id : Uuid} (hid : ¬ Replies rows root id)
    (h : ∀ id', Replies view root id' ↔ id' = id ∨ Replies rows root id') :
    replyCount view root = replyCount rows root + 1 := by
  refine @length_select_insert _ _ _ _ _ _ (.message id) ?_ fun k' => ?_
  · rintro hm
    obtain ⟨id', he, hr⟩ := mem_select_isReply.mp hm
    cases he
    exact hid hr
  · simp only [mem_select_isReply, h]
    constructor
    · rintro ⟨id', rfl, rfl | hr⟩
      · exact Or.inl rfl
      · exact Or.inr ⟨id', rfl, hr⟩
    · rintro (rfl | ⟨id', rfl, hr⟩)
      · exact ⟨id, rfl, Or.inl rfl⟩
      · exact ⟨id', rfl, Or.inr hr⟩

lemma replies_congr (h : view (.message k') = rows (.message k')) :
    Replies view root k' ↔ Replies rows root k' := by
  unfold Replies
  rw [h]

lemma replies_put {id id' : Uuid} {m : Message} :
    Replies (overlay (put (.message id) m) view) root id' ↔
      if id' = id then m.threadRootId = some root ∧ m.deletedAt = none
      else Replies view root id' := by
  split_ifs with he
  · subst he
    unfold Replies
    rw [overlay_of_some (put_self _ _)]
    constructor
    · rintro ⟨m', hm, h⟩
      obtain rfl := Option.some.inj hm
      exact h
    · exact fun h => ⟨m, rfl, h⟩
  · exact replies_congr (overlay_of_none (put_of_ne _ (by simpa using he)))

end Counts

/-! ## A transaction among others -/

/-- What a transaction has written so far fits the committed rows. It may owe one root of a thread
a lower count, and one conversation a new preview. -/
structure Good (rows : Database) (changes : Changes) (owed stale : Option Uuid) : Prop where
  kept : ∀ k m, rows (.message k) = some m →
    ∃ m', overlay changes rows (.message k) = some m' ∧ Follows m m'
  moved : ∀ c conversation, rows (.conversation c) = some conversation →
    ∃ conversation', overlay changes rows (.conversation c) = some conversation' ∧
      ∀ l, conversation'.lastMessageId = some l →
        conversation.lastMessageId = some l ∨ rows (.message l) = none
  threads : ∀ root m, overlay changes rows (.message root) = some m →
    m.threadReplyCount = replyCount (overlay changes rows) root + if owed = some root then 1 else 0
  names : ∀ k m, overlay changes rows (.message k) = some m → m.deletedAt ≠ none → m.Nameless
  previews : ∀ c conversation l m, stale ≠ some c →
    overlay changes rows (.conversation c) = some conversation →
    conversation.lastMessageId = some l → overlay changes rows (.message l) = some m →
    m.deletedAt ≠ none → conversation.lastMessagePreview = some deletedPreview
  formed : Formed (overlay changes rows)
  founded : ∀ c, overlay changes rows (.conversation c) ≠ none → rows (.conversation c) ≠ none
  owes : ∀ root, owed = some root → (overlay changes rows (.message root)).isSome
  /-- Whoever takes a conversation's last message writes the conversation. -/
  announces : ∀ c conversation l m m', stale ≠ some c → rows (.conversation c) = some conversation →
    conversation.lastMessageId = some l → rows (.message l) = some m → m.deletedAt = none →
    overlay changes rows (.message l) = some m' → m'.deletedAt ≠ none →
    changes (.conversation c) ≠ none

section Transactions
variable {rows : Database} {changes changes' other : Changes} {owed owed' stale stale' : Option Uuid}

lemma good_empty (h : Sound rows) : Good rows .empty none none where
  kept _ m hm := ⟨m, hm, Follows.refl m⟩
  moved _ conversation hc := ⟨conversation, hc, fun _ hl => Or.inl hl⟩
  threads root m hm := by simpa using h.threads root m hm
  names := h.names
  previews c conversation l m _ hc hl hm hd := h.previews c conversation l m hc hl hm hd
  formed := h.toFormed
  founded _ hc := hc
  owes _ hr := by cases hr
  announces c conversation l m m' _ _ _ hm hd hm' hd' := by
    rw [overlay_empty, hm] at hm'
    obtain rfl := Option.some.inj hm'
    exact absurd hd hd'

lemma Good.congr (h : Good rows changes owed stale)
    (hm : ∀ k, changes' (.message k) = changes (.message k))
    (hc : ∀ c, changes' (.conversation c) = changes (.conversation c)) :
    Good rows changes' owed stale := by
  have hmv : ∀ k, overlay changes' rows (.message k) = overlay changes rows (.message k) :=
    fun k => by rw [overlay_apply, overlay_apply, hm]
  have hcv : ∀ c, overlay changes' rows (.conversation c) = overlay changes rows (.conversation c) :=
    fun c => by rw [overlay_apply, overlay_apply, hc]
  have hcount : ∀ root, replyCount (overlay changes' rows) root = replyCount (overlay changes rows) root :=
    fun root => replyCount_congr fun id => replies_congr (hmv _)
  refine ⟨?_, ?_, ?_, ?_, ?_, ⟨?_, ?_, ?_⟩, ?_, ?_, ?_⟩
  · simpa only [hmv] using h.kept
  · simpa only [hcv] using h.moved
  · simpa only [hmv, hcount] using h.threads
  · simpa only [hmv] using h.names
  · simpa only [hmv, hcv] using h.previews
  · simpa only [hmv, hcv] using h.formed.last
  · simpa only [hmv] using h.formed.roots
  · simpa only [hmv] using h.formed.named
  · simpa only [hcv] using h.founded
  · simpa only [hmv] using h.owes
  · simpa only [hmv, hc] using h.announces

lemma Good.isSome (h : Good rows changes owed stale) {k : Uuid}
    (hk : (rows (.message k)).isSome) : (overlay changes rows (.message k)).isSome := by
  obtain ⟨m, hm⟩ := Option.isSome_iff_exists.mp hk
  obtain ⟨m', hm', -⟩ := h.kept k m hm
  simp [hm']

lemma Formed.replyCount_eq_zero (h : Formed rows) {root : Uuid}
    (hroot : rows (.message root) = none) : replyCount rows root = 0 := by
  rw [replyCount, List.length_eq_zero_iff, List.eq_nil_iff_forall_not_mem]
  intro k hk
  obtain ⟨id, -, m, hm, hr, -⟩ := mem_select_isReply.mp hk
  have := (h.roots id m root hm hr).2
  simp [hroot] at this

lemma Good.sound (h : Good rows changes none none)
    (hpins : ∀ c k p m, overlay changes rows (.pin c k) = some p →
      overlay changes rows (.message k) = some m → m.deletedAt = none) :
    Sound (overlay changes rows) where
  pins := hpins
  threads root m hm := by simpa using h.threads root m hm
  names := h.names
  previews c conversation l m hc hl hm hd :=
    h.previews c conversation l m (Option.some_ne_none c).symm hc hl hm hd
  toFormed := h.formed

section Other
/- Another transaction commits, which has written none of the same rows. -/
variable (hd : ∀ k, changes k = none ∨ other k = none)
include hd

lemma view_locked {k : Key} (hk : changes k ≠ none) :
    overlay changes (overlay other rows) k = overlay changes rows k ∧
      overlay other rows k = rows k := by
  obtain ⟨x, hx⟩ := Option.ne_none_iff_exists'.mp hk
  rw [overlay_of_some hx, overlay_of_some hx, overlay_of_none ((hd k).resolve_left hk)]
  exact ⟨rfl, rfl⟩

variable (h : Good rows changes owed stale) (ho : Good rows other none none) (hs : Sound rows)
include h ho

omit h in
lemma Good.isSome_stable {k : Uuid} (hk : (overlay changes rows (.message k)).isSome) :
    (overlay changes (overlay other rows) (.message k)).isSome := by
  by_cases hl : changes (.message k) = none
  · rw [overlay_of_none hl] at hk ⊢
    exact ho.isSome hk
  · rwa [(view_locked hd hl).1]

lemma Good.formed_stable : Formed (overlay changes (overlay other rows)) where
  last c conversation l hc hl := by
    by_cases hlock : changes (.conversation c) = none
    · rw [overlay_of_none hlock] at hc
      obtain ⟨m, hm, hcm⟩ := ho.formed.last c conversation l hc hl
      by_cases hlock' : changes (.message l) = none
      · exact ⟨m, (overlay_of_none hlock').trans hm, hcm⟩
      · rw [(view_locked hd hlock').2] at hm
        obtain ⟨m', hm', hf⟩ := h.kept l m hm
        exact ⟨m', (view_locked hd hlock').1.trans hm', hf.conversationId.trans hcm⟩
    · rw [(view_locked hd hlock).1] at hc
      obtain ⟨m, hm, hcm⟩ := h.formed.last c conversation l hc hl
      by_cases hlock' : changes (.message l) = none
      · rw [overlay_of_none hlock'] at hm
        obtain ⟨m', hm', hf⟩ := ho.kept l m hm
        exact ⟨m', (overlay_of_none hlock').trans hm', hf.conversationId.trans hcm⟩
      · exact ⟨m, (view_locked hd hlock').1.trans hm, hcm⟩
  roots k m root hm hroot := by
    by_cases hlock : changes (.message k) = none
    · rw [overlay_of_none hlock] at hm
      obtain ⟨hne, hsome⟩ := ho.formed.roots k m root hm hroot
      refine ⟨hne, ?_⟩
      by_cases hlock' : changes (.message root) = none
      · rwa [overlay_of_none hlock']
      · rw [(view_locked hd hlock').2] at hsome
        rw [(view_locked hd hlock').1]
        exact h.isSome hsome
    · rw [(view_locked hd hlock).1] at hm
      obtain ⟨hne, hsome⟩ := h.formed.roots k m root hm hroot
      exact ⟨hne, ho.isSome_stable hd hsome⟩
  named k m hm hcard := by
    by_cases hlock : changes (.message k) = none
    · exact ho.formed.named k m ((overlay_of_none hlock).symm.trans hm) hcard
    · exact h.formed.named k m ((view_locked hd hlock).1.symm.trans hm) hcard

include hs

lemma Good.threads_stable (root : Uuid) (m : Message)
    (hm : overlay changes (overlay other rows) (.message root) = some m) :
    m.threadReplyCount = replyCount (overlay changes (overlay other rows)) root +
      if owed = some root then 1 else 0 := by
  have hshift : replyCount (overlay changes (overlay other rows)) root + replyCount rows root =
      replyCount (overlay changes rows) root + replyCount (overlay other rows) root :=
    length_select_overlay fun k hk => (view_locked hd hk).2
  by_cases hlock : changes (.message root) = none
  · have hcount := ho.threads root m ((overlay_of_none hlock).symm.trans hm)
    rw [if_neg (Option.some_ne_none root).symm] at hcount
    have hview : overlay changes rows (.message root) = rows (.message root) := overlay_of_none hlock
    cases hrow : rows (.message root) with
    | none =>
      rw [hrow] at hview
      have howed : owed ≠ some root := fun he => by simpa [hview] using h.owes root he
      have h₁ := hs.toFormed.replyCount_eq_zero hrow
      have h₂ := h.formed.replyCount_eq_zero hview
      rw [if_neg howed]
      omega
    | some m₀ =>
      have h₁ := hs.threads root m₀ hrow
      have h₂ := h.threads root m₀ (hview.trans hrow)
      omega
  · obtain ⟨hview, hrows⟩ := view_locked hd hlock
    have hcount := h.threads root m (hview.symm.trans hm)
    have hsame : replyCount (overlay other rows) root = replyCount rows root := by
      cases hrow : rows (.message root) with
      | none =>
        rw [hs.toFormed.replyCount_eq_zero hrow, ho.formed.replyCount_eq_zero (hrows.trans hrow)]
      | some m₀ =>
        have h₁ := hs.threads root m₀ hrow
        have h₂ := ho.threads root m₀ (hrows.trans hrow)
        rw [if_neg (Option.some_ne_none root).symm] at h₂
        omega
    omega

omit hs in
lemma Good.previews_stable (c : Uuid) (conversation : Conversation) (l : Uuid) (m : Message)
    (hstale : stale ≠ some c)
    (hc : overlay changes (overlay other rows) (.conversation c) = some conversation)
    (hl : conversation.lastMessageId = some l)
    (hm : overlay changes (overlay other rows) (.message l) = some m) (hdel : m.deletedAt ≠ none) :
    conversation.lastMessagePreview = some deletedPreview := by
  have hnone : (none : Option Uuid) ≠ some c := (Option.some_ne_none c).symm
  by_cases hlock : changes (.conversation c) = none
  · rw [overlay_of_none hlock] at hc
    by_cases hlock' : changes (.message l) = none
    · rw [overlay_of_none hlock'] at hm
      exact ho.previews c conversation l m hnone hc hl hm hdel
    · obtain ⟨hview, hrows⟩ := view_locked hd hlock'
      obtain ⟨m₀, hm₀, -⟩ := ho.formed.last c conversation l hc hl
      by_cases hdel₀ : m₀.deletedAt = none
      · exfalso
        rw [hrows] at hm₀
        obtain ⟨conversation₀, hc₀⟩ := Option.ne_none_iff_exists'.mp (ho.founded c (by simp [hc]))
        obtain ⟨x, hx, hlast⟩ := ho.moved c conversation₀ hc₀
        rw [hc] at hx
        obtain rfl := Option.some.inj hx
        have hl₀ := (hlast l hl).resolve_right (by simp [hm₀])
        exact h.announces c conversation₀ l m₀ m hstale hc₀ hl₀ hm₀ hdel₀ (hview.symm.trans hm)
          hdel hlock
      · exact ho.previews c conversation l m₀ hnone hc hl hm₀ hdel₀
  · have hother : other (.conversation c) = none := (hd _).resolve_left hlock
    rw [(view_locked hd hlock).1] at hc
    by_cases hlock' : changes (.message l) = none
    · rw [overlay_of_none hlock'] at hm
      obtain ⟨m₀, hm₀, -⟩ := h.formed.last c conversation l hc hl
      by_cases hdel₀ : m₀.deletedAt = none
      · exfalso
        rw [overlay_of_none hlock'] at hm₀
        obtain ⟨conversation₀, hc₀⟩ := Option.ne_none_iff_exists'.mp (h.founded c (by simp [hc]))
        obtain ⟨x, hx, hlast⟩ := h.moved c conversation₀ hc₀
        rw [hc] at hx
        obtain rfl := Option.some.inj hx
        have hl₀ := (hlast l hl).resolve_right (by simp [hm₀])
        exact ho.announces c conversation₀ l m₀ m hnone hc₀ hl₀ hm₀ hdel₀ hm hdel hother
      · exact h.previews c conversation l m₀ hstale hc hl hm₀ hdel₀
    · exact h.previews c conversation l m hstale hc hl
        ((view_locked hd hlock').1.symm.trans hm) hdel

lemma Good.stable : Good (overlay other rows) changes owed stale where
  kept k m hm := by
    by_cases hlock : changes (.message k) = none
    · exact ⟨m, (overlay_of_none hlock).trans hm, Follows.refl m⟩
    · rw [(view_locked hd hlock).2] at hm
      obtain ⟨m', hm', hf⟩ := h.kept k m hm
      exact ⟨m', (view_locked hd hlock).1.trans hm', hf⟩
  moved c conversation hc := by
    by_cases hlock : changes (.conversation c) = none
    · exact ⟨conversation, (overlay_of_none hlock).trans hc, fun _ hl => Or.inl hl⟩
    · rw [(view_locked hd hlock).2] at hc
      obtain ⟨conversation', hc', hlast⟩ := h.moved c conversation hc
      refine ⟨conversation', (view_locked hd hlock).1.trans hc', fun l hl => ?_⟩
      rcases hlast l hl with hold | hnew
      · exact Or.inl hold
      · obtain ⟨m, hm, -⟩ := h.formed.last c conversation' l hc' hl
        have hlock' : changes (.message l) ≠ none := fun hn => by
          rw [overlay_of_none hn, hnew] at hm
          cases hm
        exact Or.inr ((view_locked hd hlock').2.trans hnew)
  threads := h.threads_stable hd ho hs
  names k m hm hdel := by
    by_cases hlock : changes (.message k) = none
    · exact ho.names k m ((overlay_of_none hlock).symm.trans hm) hdel
    · exact h.names k m ((view_locked hd hlock).1.symm.trans hm) hdel
  previews := h.previews_stable hd ho
  formed := h.formed_stable hd ho
  founded c hc := by
    by_cases hlock : changes (.conversation c) = none
    · rwa [overlay_of_none hlock] at hc
    · rw [(view_locked hd hlock).1] at hc
      rw [(view_locked hd hlock).2]
      exact h.founded c hc
  owes root hr := ho.isSome_stable hd (h.owes root hr)
  announces c conversation l m m' hstale hc hl hm hdel hm' hdel' hlock := by
    by_cases hlock' : changes (.message l) = none
    · rw [overlay_of_none hlock', hm] at hm'
      obtain rfl := Option.some.inj hm'
      exact hdel' hdel
    · obtain ⟨hview, hrows⟩ := view_locked hd hlock'
      rw [hrows] at hm
      obtain ⟨conversation₀, hc₀⟩ := Option.ne_none_iff_exists'.mp (ho.founded c (by simp [hc]))
      obtain ⟨x, hx, hlast⟩ := ho.moved c conversation₀ hc₀
      rw [hc] at hx
      obtain rfl := Option.some.inj hx
      have hl₀ := (hlast l hl).resolve_right (by simp [hm])
      exact h.announces c conversation₀ l m m' hstale hc₀ hl₀ hm hdel (hview.symm.trans hm') hdel'
        hlock

end Other

section Writes
variable {id c root : Uuid} {m m' : Message} {writes : Changes}

lemma view_put (k' : Key) (r : Row k') {k : Key} :
    overlay (andThen changes (put k' r)) rows k = overlay (put k' r) (overlay changes rows) k := by
  rw [overlay_andThen]

lemma view_put_self (k : Key) (r : Row k) :
    overlay (andThen changes (put k r)) rows k = some r := by
  rw [view_put, overlay_of_some (put_self _ _)]

lemma view_put_of_ne {k k' : Key} (r : Row k') (h : k ≠ k') :
    overlay (andThen changes (put k' r)) rows k = overlay changes rows k := by
  rw [view_put, overlay_of_none (put_of_ne _ h)]

lemma andThen_put_of_ne {k k' : Key} (r : Row k') (h : k ≠ k') :
    andThen changes (put k' r) k = changes k := by
  rw [andThen_apply, put_of_ne _ h, Option.none_or]

lemma Good.putMessage (h : Good rows changes owed stale)
    (hm : overlay changes rows (.message id) = some m) (hf : Follows m m')
    (hthreads : ∀ root x, overlay (andThen changes (put (.message id) m')) rows (.message root) = some x →
      x.threadReplyCount = replyCount (overlay (andThen changes (put (.message id) m')) rows) root +
        if owed' = some root then 1 else 0)
    (howes : ∀ root, owed' = some root → (overlay changes rows (.message root)).isSome)
    (hstale : ∀ c, stale' ≠ some c → stale ≠ some c)
    (hlast : m.deletedAt = none → m'.deletedAt ≠ none → ∀ c conversation,
      overlay changes rows (.conversation c) = some conversation →
      conversation.lastMessageId = some id → stale' = some c) :
    Good rows (andThen changes (put (.message id) m')) owed' stale' := by
  have hself := @view_put_self rows changes (.message id) m'
  have hother : ∀ k, k ≠ id →
      overlay (andThen changes (put (.message id) m')) rows (.message k) =
        overlay changes rows (.message k) := fun k hk => view_put_of_ne _ (by simpa using hk)
  have hconv : ∀ c, overlay (andThen changes (put (.message id) m')) rows (.conversation c) =
      overlay changes rows (.conversation c) := fun c => view_put_of_ne _ (by simp)
  have hsome : ∀ k, (overlay changes rows (.message k)).isSome →
      (overlay (andThen changes (put (.message id) m')) rows (.message k)).isSome := by
    intro k hk
    by_cases he : k = id
    · rw [he, hself]
      rfl
    · rwa [hother k he]
  have hnamed : m'.cardKey = none → m'.Nameless := by
    intro hcard
    rcases hf.name with ⟨hk, -⟩ | ⟨hk, hn⟩
    · exact hf.nameless (h.formed.named id m hm (hk.symm.trans hcard))
    · exact ⟨hk, fun c a k => by simp [hn]⟩
  refine ⟨?_, ?_, hthreads, ?_, ?_, ⟨?_, ?_, ?_⟩, ?_, ?_, ?_⟩
  · intro k x hx
    obtain ⟨x', hx', hfx⟩ := h.kept k x hx
    by_cases he : k = id
    · subst he
      rw [hm] at hx'
      obtain rfl := Option.some.inj hx'
      exact ⟨m', hself, hfx.trans hf⟩
    · exact ⟨x', (hother k he).trans hx', hfx⟩
  · intro c conversation hc
    obtain ⟨conversation', hc', hl⟩ := h.moved c conversation hc
    exact ⟨conversation', (hconv c).trans hc', hl⟩
  · intro k x hx hdel
    by_cases he : k = id
    · subst he
      rw [hself] at hx
      obtain rfl := Option.some.inj hx
      by_cases hdel₀ : m.deletedAt = none
      · exact hf.freed hdel₀ hdel
      · exact hf.nameless (h.names k m hm hdel₀)
    · exact h.names k x ((hother k he).symm.trans hx) hdel
  · intro c conversation l x hs hc hl hx hdel
    rw [hconv] at hc
    by_cases he : l = id
    · subst he
      rw [hself] at hx
      obtain rfl := Option.some.inj hx
      by_cases hdel₀ : m.deletedAt = none
      · exact absurd (hlast hdel₀ hdel c conversation hc hl) hs
      · exact h.previews c conversation l m (hstale c hs) hc hl hm hdel₀
    · exact h.previews c conversation l x (hstale c hs) hc hl ((hother l he).symm.trans hx) hdel
  · intro c conversation l hc hl
    obtain ⟨x, hx, hcx⟩ := h.formed.last c conversation l ((hconv c).symm.trans hc) hl
    by_cases he : l = id
    · subst he
      rw [hm] at hx
      obtain rfl := Option.some.inj hx
      exact ⟨m', hself, hf.conversationId.trans hcx⟩
    · exact ⟨x, (hother l he).trans hx, hcx⟩
  · intro k x root hx hroot
    by_cases he : k = id
    · subst he
      rw [hself] at hx
      obtain rfl := Option.some.inj hx
      obtain ⟨hne, hs⟩ := h.formed.roots k m root hm (hf.threadRootId.symm.trans hroot)
      exact ⟨hne, hsome root hs⟩
    · obtain ⟨hne, hs⟩ := h.formed.roots k x root ((hother k he).symm.trans hx) hroot
      exact ⟨hne, hsome root hs⟩
  · intro k x hx
    by_cases he : k = id
    · subst he
      rw [hself] at hx
      obtain rfl := Option.some.inj hx
      exact hnamed
    · exact h.formed.named k x ((hother k he).symm.trans hx)
  · intro c hc
    exact h.founded c (hconv c ▸ hc)
  · intro root hr
    exact hsome root (howes root hr)
  · intro c conversation l x x' hs hc hl hx hdel hx' hdel' hnone
    rw [andThen_put_of_ne _ (by simp)] at hnone
    by_cases he : l = id
    · subst he
      rw [hself] at hx'
      obtain rfl := Option.some.inj hx'
      by_cases hdel₀ : m.deletedAt = none
      · exact hs (hlast hdel₀ hdel' c conversation ((overlay_of_none hnone).trans hc) hl)
      · exact h.announces c conversation l x m (hstale c hs) hc hl hx hdel hm hdel₀ hnone
    · exact h.announces c conversation l x x' (hstale c hs) hc hl hx hdel
        ((hother l he).symm.trans hx') hdel' hnone

lemma Good.rewrite (h : Good rows changes owed stale)
    (hm : overlay changes rows (.message id) = some m) (hf : Follows m m')
    (hdel : m'.deletedAt = none ↔ m.deletedAt = none)
    (hcount : ∀ n, m.threadReplyCount = n + (if owed = some id then 1 else 0) →
      m'.threadReplyCount = n + if owed' = some id then 1 else 0)
    (howed : ∀ root, root ≠ id → (owed' = some root ↔ owed = some root)) :
    Good rows (andThen changes (put (.message id) m')) owed' stale := by
  have hsame : ∀ root, replyCount (overlay (andThen changes (put (.message id) m')) rows) root =
      replyCount (overlay changes rows) root := by
    intro root
    refine replyCount_congr fun id' => ?_
    rw [overlay_andThen, replies_put]
    split_ifs with he
    · subst he
      rw [hf.threadRootId, hdel]
      constructor
      · exact fun hr => ⟨m, hm, hr⟩
      · rintro ⟨x, hx, hr⟩
        rw [hm] at hx
        obtain rfl := Option.some.inj hx
        exact hr
    · rfl
  refine h.putMessage hm hf (fun root x hx => ?_) (fun root hr => ?_) (fun _ hs => hs)
    fun h₁ h₂ => absurd (hdel.mpr h₁) h₂
  · rw [hsame]
    by_cases he : root = id
    · subst he
      rw [view_put_self] at hx
      obtain rfl := Option.some.inj hx
      exact hcount _ (h.threads root m hm)
    · rw [view_put_of_ne _ (by simpa using he)] at hx
      have := h.threads root x hx
      simpa only [howed root he] using this
  · by_cases he : root = id
    · rw [he, hm]
      rfl
    · exact h.owes root ((howed root he).mp hr)

/-- A message that dies leaves its root with a count to give back, and a conversation whose last
message it was with a preview to write. -/
theorem Good.mark (h : Good rows changes none none)
    (hm : overlay changes rows (.message id) = some m) (hf : Follows m m')
    (hlive : m.deletedAt = none) (hdead : m'.deletedAt ≠ none)
    (hcount : m'.threadReplyCount = m.threadReplyCount)
    (hlast : ∀ c conversation, overlay changes rows (.conversation c) = some conversation →
      conversation.lastMessageId = some id → stale = some c) :
    Good rows (andThen changes (put (.message id) m')) m.threadRootId stale := by
  have hreplies : ∀ root id', Replies (overlay (andThen changes (put (.message id) m')) rows) root id' ↔
      id' ≠ id ∧ Replies (overlay changes rows) root id' := by
    intro root id'
    rw [overlay_andThen, replies_put]
    split_ifs with he
    · simp [he, hdead]
    · simp [he]
  refine h.putMessage hm hf (fun root x hx => ?_) (fun root hr => (h.formed.roots id m root hm hr).2)
    (fun c _ => (Option.some_ne_none c).symm) fun _ _ => hlast
  have hold : ∀ root, replyCount (overlay changes rows) root =
      replyCount (overlay (andThen changes (put (.message id) m')) rows) root +
        if m.threadRootId = some root then 1 else 0 := by
    intro root
    split_ifs with hr
    · refine @replyCount_insert _ _ root id (fun hrep => ((hreplies root id).mp hrep).1 rfl) fun id' => ?_
      rw [hreplies]
      by_cases he : id' = id
      · subst he
        simp only [true_or, iff_true]
        exact ⟨m, hm, hr, hlive⟩
      · simp [he]
    · refine replyCount_congr fun id' => ?_
      rw [hreplies]
      constructor
      · intro hrep
        refine ⟨fun he => hr ?_, hrep⟩
        subst he
        obtain ⟨x, hx, hxr, -⟩ := hrep
        rw [hm] at hx
        obtain rfl := Option.some.inj hx
        exact hxr
      · exact fun hrep => hrep.2
  have hcount' : x.threadReplyCount = replyCount (overlay changes rows) root := by
    by_cases he : root = id
    · subst he
      rw [view_put_self] at hx
      obtain rfl := Option.some.inj hx
      rw [hcount]
      simpa using h.threads root m hm
    · rw [view_put_of_ne _ (by simpa using he)] at hx
      simpa using h.threads root x hx
  rw [hcount', hold root]

theorem Good.insert (h : Good rows changes owed stale)
    (hid : overlay changes rows (.message id) = none) (hroot : m.threadRootId = owed)
    (hlive : m.deletedAt = none) (hzero : m.threadReplyCount = 0)
    (hnamed : m.cardKey = none → m.Nameless) :
    Good rows (andThen changes (put (.message id) m)) none stale := by
  have hself := @view_put_self rows changes (.message id) m
  have hother : ∀ k, k ≠ id →
      overlay (andThen changes (put (.message id) m)) rows (.message k) =
        overlay changes rows (.message k) := fun k hk => view_put_of_ne _ (by simpa using hk)
  have hconv : ∀ c, overlay (andThen changes (put (.message id) m)) rows (.conversation c) =
      overlay changes rows (.conversation c) := fun c => view_put_of_ne _ (by simp)
  have hne : ∀ {k x}, overlay changes rows (.message k) = some x → k ≠ id := by
    rintro k x hx rfl
    rw [hid] at hx
    cases hx
  have hold : ∀ {k x}, rows (.message k) = some x → k ≠ id := fun {k x} hx =>
    let ⟨_, hx', _⟩ := h.kept k x hx
    hne hx'
  have hrootne : ∀ r, m.threadRootId = some r → r ≠ id ∧ (overlay changes rows (.message r)).isSome := by
    intro r hr
    have hs := h.owes r (hroot.symm.trans hr)
    obtain ⟨x, hx⟩ := Option.isSome_iff_exists.mp hs
    exact ⟨hne hx, hs⟩
  have hreplies : ∀ root id', Replies (overlay (andThen changes (put (.message id) m)) rows) root id' ↔
      (id' = id ∧ m.threadRootId = some root) ∨ Replies (overlay changes rows) root id' := by
    intro root id'
    rw [overlay_andThen, replies_put]
    split_ifs with he
    · have hno : ¬ Replies (overlay changes rows) root id' := by
        rintro ⟨x, hx, -⟩
        exact hne hx he
      simp [he, hlive, he ▸ hno]
    · simp [he]
  have hcount : ∀ root, replyCount (overlay (andThen changes (put (.message id) m)) rows) root =
      replyCount (overlay changes rows) root + if owed = some root then 1 else 0 := by
    intro root
    split_ifs with hr
    · refine @replyCount_insert _ _ root id ?_ fun id' => ?_
      · rintro ⟨x, hx, -⟩
        exact hne hx rfl
      · simp [hreplies, hroot, hr]
    · refine replyCount_congr fun id' => ?_
      simp [hreplies, hroot, hr]
  refine ⟨?_, ?_, ?_, ?_, ?_, ⟨?_, ?_, ?_⟩, ?_, ?_, ?_⟩
  · intro k x hx
    obtain ⟨x', hx', hf⟩ := h.kept k x hx
    exact ⟨x', (hother k (hne hx')).trans hx', hf⟩
  · intro c conversation hc
    obtain ⟨conversation', hc', hl⟩ := h.moved c conversation hc
    exact ⟨conversation', (hconv c).trans hc', hl⟩
  · intro root x hx
    rw [if_neg (Option.some_ne_none root).symm, hcount]
    by_cases he : root = id
    · subst he
      rw [hself] at hx
      obtain rfl := Option.some.inj hx
      have hno : owed ≠ some root := fun hr => (hrootne root (hroot.trans hr)).1 rfl
      rw [hzero, h.formed.replyCount_eq_zero hid, if_neg hno]
    · rw [hother root he] at hx
      exact h.threads root x hx
  · intro k x hx hdel
    by_cases he : k = id
    · subst he
      rw [hself] at hx
      obtain rfl := Option.some.inj hx
      exact absurd hlive hdel
    · exact h.names k x ((hother k he).symm.trans hx) hdel
  · intro c conversation l x hs hc hl hx hdel
    rw [hconv] at hc
    obtain ⟨x₀, hx₀, -⟩ := h.formed.last c conversation l hc hl
    rw [hother l (hne hx₀)] at hx
    exact h.previews c conversation l x hs hc hl hx hdel
  · intro c conversation l hc hl
    obtain ⟨x, hx, hcx⟩ := h.formed.last c conversation l ((hconv c).symm.trans hc) hl
    exact ⟨x, (hother l (hne hx)).trans hx, hcx⟩
  · intro k x root hx hr
    have hrest : root ≠ k ∧ (overlay changes rows (.message root)).isSome := by
      by_cases he : k = id
      · subst he
        rw [hself] at hx
        obtain rfl := Option.some.inj hx
        exact hrootne root hr
      · exact h.formed.roots k x root ((hother k he).symm.trans hx) hr
    obtain ⟨y, hy⟩ := Option.isSome_iff_exists.mp hrest.2
    refine ⟨hrest.1, ?_⟩
    rw [hother root (hne hy)]
    exact hrest.2
  · intro k x hx
    by_cases he : k = id
    · subst he
      rw [hself] at hx
      obtain rfl := Option.some.inj hx
      exact hnamed
    · exact h.formed.named k x ((hother k he).symm.trans hx)
  · intro c hc
    exact h.founded c (hconv c ▸ hc)
  · intro root hr
    cases hr
  · intro c conversation l x x' hs hc hl hx hdel hx' hdel' hnone
    rw [andThen_put_of_ne _ (by simp)] at hnone
    rw [hother l (hold hx)] at hx'
    exact h.announces c conversation l x x' hs hc hl hx hdel hx' hdel' hnone

lemma Good.putConversation {conversation conversation' : Conversation}
    (h : Good rows changes owed stale)
    (hc : overlay changes rows (.conversation c) = some conversation)
    (hlast : conversation'.lastMessageId = conversation.lastMessageId ∨ ∃ l m,
      conversation'.lastMessageId = some l ∧ rows (.message l) = none ∧
        overlay changes rows (.message l) = some m ∧ m.conversationId = c)
    (hpreview : ∀ l m, conversation'.lastMessageId = some l →
      overlay changes rows (.message l) = some m → m.deletedAt ≠ none →
        conversation'.lastMessagePreview = some deletedPreview)
    (hstale : ∀ c', c' ≠ c → stale' ≠ some c' → stale ≠ some c') :
    Good rows (andThen changes (put (.conversation c) conversation')) owed stale' := by
  have hself := @view_put_self rows changes (.conversation c) conversation'
  have hother : ∀ c', c' ≠ c →
      overlay (andThen changes (put (.conversation c) conversation')) rows (.conversation c') =
        overlay changes rows (.conversation c') := fun c' hk => view_put_of_ne _ (by simpa using hk)
  have hmessage : ∀ k, overlay (andThen changes (put (.conversation c) conversation')) rows (.message k) =
      overlay changes rows (.message k) := fun k => view_put_of_ne _ (by simp)
  have hcount : ∀ root, replyCount (overlay (andThen changes (put (.conversation c) conversation')) rows)
      root = replyCount (overlay changes rows) root := fun root =>
    replyCount_congr fun id => replies_congr (hmessage id)
  refine ⟨?_, ?_, ?_, ?_, ?_, ⟨?_, ?_, ?_⟩, ?_, ?_, ?_⟩
  · simpa only [hmessage] using h.kept
  · intro c' x hx
    obtain ⟨x', hx', hl⟩ := h.moved c' x hx
    by_cases he : c' = c
    · subst he
      rw [hc] at hx'
      obtain rfl := Option.some.inj hx'
      refine ⟨conversation', hself, fun l hl' => ?_⟩
      rcases hlast with hsame | ⟨l', m, hl₁, hnew, -⟩
      · exact hl l (hsame.symm.trans hl')
      · rw [hl₁] at hl'
        obtain rfl := Option.some.inj hl'
        exact Or.inr hnew
    · exact ⟨x', (hother c' he).trans hx', hl⟩
  · simpa only [hmessage, hcount] using h.threads
  · simpa only [hmessage] using h.names
  · intro c' x l m hs hx hl hm hdel
    rw [hmessage] at hm
    by_cases he : c' = c
    · subst he
      rw [hself] at hx
      obtain rfl := Option.some.inj hx
      exact hpreview l m hl hm hdel
    · exact h.previews c' x l m (hstale c' he hs) ((hother c' he).symm.trans hx) hl hm hdel
  · intro c' x l hx hl
    rw [hmessage]
    by_cases he : c' = c
    · subst he
      rw [hself] at hx
      obtain rfl := Option.some.inj hx
      rcases hlast with hsame | ⟨l', m, hl', -, hm, hcm⟩
      · exact h.formed.last c' conversation l hc (hsame.symm.trans hl)
      · rw [hl'] at hl
        obtain rfl := Option.some.inj hl
        exact ⟨m, hm, hcm⟩
    · exact h.formed.last c' x l ((hother c' he).symm.trans hx) hl
  · simpa only [hmessage] using h.formed.roots
  · simpa only [hmessage] using h.formed.named
  · intro c' hx
    by_cases he : c' = c
    · subst he
      exact h.founded c' (by simp [hc])
    · exact h.founded c' (hother c' he ▸ hx)
  · simpa only [hmessage] using h.owes
  · intro c' x l m m' hs hx hl hm hdel hm' hdel' hnone
    rw [hmessage] at hm'
    by_cases he : c' = c
    · subst he
      rw [andThen_apply, put_self] at hnone
      cases hnone
    · rw [andThen_put_of_ne _ (by simpa using he)] at hnone
      exact h.announces c' x l m m' (hstale c' he hs) hx hl hm hdel hm' hdel' hnone

lemma Good.andThen_pins (h : Good rows changes owed stale)
    (hw : ∀ k, writes k ≠ none → ∃ c m, k = .pin c m) : Good rows (andThen changes writes) owed stale := by
  have hnone : ∀ k, (∀ c m, k ≠ .pin c m) → writes k = none := by
    intro k hk
    by_contra hne
    obtain ⟨c, m, he⟩ := hw k hne
    exact hk c m he
  refine h.congr (fun k => ?_) fun c => ?_
  · rw [andThen_apply, hnone _ (by simp), Option.none_or]
  · rw [andThen_apply, hnone _ (by simp), Option.none_or]

lemma good_buried (h : Sound rows)
    (hc : ∀ c, writes (.conversation c) = none)
    (hw : ∀ k, writes (.message k) = none ∨ ∃ m clock, rows (.message k) = some m ∧
      writes (.message k) = some (some { m with deletedAt := some clock }) ∧ m.threadRootId = none ∧
      m.Nameless ∧ ∀ c conversation, rows (.conversation c) = some conversation →
        conversation.lastMessageId ≠ some k) : Good rows writes none none := by
  have hconv : ∀ c, overlay writes rows (.conversation c) = rows (.conversation c) :=
    fun c => overlay_of_none (hc c)
  have hview : ∀ k, overlay writes rows (.message k) = rows (.message k) ∨ ∃ m clock,
      rows (.message k) = some m ∧
      overlay writes rows (.message k) = some { m with deletedAt := some clock } ∧
      m.threadRootId = none ∧ m.Nameless ∧ ∀ c conversation,
        rows (.conversation c) = some conversation → conversation.lastMessageId ≠ some k := by
    intro k
    rcases hw k with hk | ⟨m, clock, hm, hk, hrest⟩
    · exact Or.inl (overlay_of_none hk)
    · exact Or.inr ⟨m, clock, hm, overlay_of_some hk, hrest⟩
  have hback : ∀ k x, overlay writes rows (.message k) = some x → ∃ m, rows (.message k) = some m ∧
      Follows m x ∧ x.threadReplyCount = m.threadReplyCount := by
    intro k x hx
    rcases hview k with he | ⟨m, clock, hm, he, -, hn, -⟩
    · exact ⟨x, he.symm.trans hx, Follows.refl x, rfl⟩
    · rw [hx] at he
      obtain rfl := Option.some.inj he
      exact ⟨m, hm, Follows.buried hn, rfl⟩
  have hlast : ∀ c conversation l, rows (.conversation c) = some conversation →
      conversation.lastMessageId = some l →
      overlay writes rows (.message l) = rows (.message l) := by
    intro c conversation l hx hl
    rcases hview l with he | ⟨m, clock, -, -, -, -, hno⟩
    · exact he
    · exact absurd hl (hno c conversation hx)
  have hsome : ∀ k, (rows (.message k)).isSome → (overlay writes rows (.message k)).isSome := by
    intro k hk
    rcases hview k with he | ⟨m, clock, -, he, -⟩
    · rwa [he]
    · simp [he]
  have hcount : ∀ root, replyCount (overlay writes rows) root = replyCount rows root := by
    intro root
    refine replyCount_congr fun id => ?_
    rcases hview id with he | ⟨m, clock, hm, he, hroot, -, -⟩
    · exact replies_congr he
    · unfold Replies
      rw [he, hm]
      simp [hroot]
  refine ⟨?_, ?_, ?_, ?_, ?_, ⟨?_, ?_, ?_⟩, ?_, ?_, ?_⟩
  · intro k m hm
    obtain ⟨x, hx⟩ := Option.isSome_iff_exists.mp (hsome k (by simp [hm]))
    obtain ⟨m', hm', hf, -⟩ := hback k x hx
    rw [hm] at hm'
    obtain rfl := Option.some.inj hm'
    exact ⟨x, hx, hf⟩
  · exact fun c conversation hx => ⟨conversation, (hconv c).trans hx, fun _ hl => Or.inl hl⟩
  · intro root x hx
    obtain ⟨m, hm, -, hsame⟩ := hback root x hx
    rw [hcount, hsame]
    simpa using h.threads root m hm
  · intro k x hx hdel
    rcases hview k with he | ⟨m, clock, hm, he, -, hn, -⟩
    · exact h.names k x (he.symm.trans hx) hdel
    · rw [hx] at he
      obtain rfl := Option.some.inj he
      exact hn
  · intro c conversation l m _ hx hl hm hdel
    rw [hconv] at hx
    rw [hlast c conversation l hx hl] at hm
    exact h.previews c conversation l m hx hl hm hdel
  · intro c conversation l hx hl
    rw [hconv] at hx
    rw [hlast c conversation l hx hl]
    exact h.last c conversation l hx hl
  · intro k x root hx hroot
    obtain ⟨m, hm, hf, -⟩ := hback k x hx
    obtain ⟨hne, hs⟩ := h.roots k m root hm (hf.threadRootId.symm.trans hroot)
    exact ⟨hne, hsome root hs⟩
  · intro k x hx hcard
    rcases hview k with he | ⟨m, clock, hm, he, -, hn, -⟩
    · exact h.named k x (he.symm.trans hx) hcard
    · rw [hx] at he
      obtain rfl := Option.some.inj he
      exact hn
  · exact fun c hx => hconv c ▸ hx
  · intro root hr
    cases hr
  · intro c conversation l m m' _ hx hl hm hdel hm' hdel'
    rw [hlast c conversation l hx hl, hm] at hm'
    obtain rfl := Option.some.inj hm'
    exact absurd hdel hdel'

end Writes

end Transactions

end Yappy.Deletion
