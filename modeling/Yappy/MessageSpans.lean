import Yappy.MessageService

/-!
# Stored spans

What `sanitiseEntities` keeps describes the text it was checked against. The spans of a message go
on describing its text as long as no call shortens the text under spans it leaves alone.
-/
namespace Yappy.MessageService

open Markdown
open Permissions (AppError Time Uuid ensure bind_eq_ok ensure_eq_ok)

variable {wordish : CodeUnit → Bool}

section Sanitise
variable {content : Text} {list : List Entity}

lemma keepFrom_start {limit last : ℤ} {e : Entity} (h : e ∈ keepFrom limit last list) :
    last ≤ e.start := by
  induction list generalizing last with
  | nil => cases h
  | cons x rest ih =>
    unfold keepFrom at h
    split at h
    · rename_i offset length ho hl
      split_ifs at h with hbad
      · exact ih h
      · rcases List.mem_cons.mp h with rfl | h
        · rw [Entity.start, ho, Option.getD_some]
          omega
        · have hle := ih h
          omega
    · exact ih h

lemma keepFrom_describes (last : ℤ) :
    Describes content (keepFrom content.length last list) := by
  induction list generalizing last with
  | nil => exact .nil content
  | cons x rest ih =>
    unfold keepFrom
    split
    · rename_i offset length ho hl
      split_ifs with hbad
      · exact ih last
      · have hstart : x.start = offset := by rw [Entity.start, ho, Option.getD_some]
        have hstop : x.stop = offset + length := by rw [Entity.stop, hstart, hl, Option.getD_some]
        have hrest := ih (offset + length)
        refine .of_ordered ?_ ?_ ?_
        · refine List.pairwise_cons.mpr ⟨fun e he => ?_, hrest.ordered⟩
          rw [hstop]
          exact keepFrom_start he
        · refine List.forall_mem_cons.mpr ⟨⟨by rw [ho]; rfl, by rw [hl]; rfl, ?_⟩, hrest.nonempty⟩
          omega
        · refine List.forall_mem_cons.mpr ⟨⟨?_, ?_⟩, hrest.within⟩
          · omega
          · omega
    · exact ih last

lemma sanitiseEntities_describes {content : Option Text} {entities : Option (List Entity)}
    (h : sanitiseEntities content entities = some list) : Describes (content.getD []) list := by
  unfold sanitiseEntities at h
  split at h
  · cases h
  · obtain rfl := Option.some.inj h
    exact .nil _
  · obtain rfl := Option.some.inj h
    exact keepFrom_describes 0

lemma keepFrom_eq_self {last : ℤ} (h : Describes content list)
    (hlast : ∀ e ∈ list, last ≤ e.start) : keepFrom content.length last list = list := by
  induction list generalizing last with
  | nil => rfl
  | cons x rest ih =>
    obtain ⟨ho, hl, hlt⟩ := h.nonempty x (List.mem_cons_self ..)
    obtain ⟨h0, hle⟩ := h.within x (List.mem_cons_self ..)
    have hx := hlast x (List.mem_cons_self ..)
    obtain ⟨offset, ho⟩ := Option.isSome_iff_exists.mp ho
    obtain ⟨length, hl⟩ := Option.isSome_iff_exists.mp hl
    have hstart : x.start = offset := by rw [Entity.start, ho, Option.getD_some]
    have hstop : x.stop = offset + length := by rw [Entity.stop, hstart, hl, Option.getD_some]
    have hordered := List.pairwise_cons.mp h.ordered
    have hrest : Describes content rest := .of_ordered hordered.2
      (fun e he => h.nonempty e (List.mem_cons_of_mem _ he))
      fun e he => h.within e (List.mem_cons_of_mem _ he)
    rw [keepFrom, ho, hl]
    dsimp only
    rw [if_neg (by omega), ih hrest fun e he => hstop ▸ hordered.1 e he]

lemma before_iff {a b : Entity} (ha : a.offset.isSome) (hb : b.offset.isSome) :
    before a b = true ↔ a.start ≤ b.start := by
  obtain ⟨x, hx⟩ := Option.isSome_iff_exists.mp ha
  obtain ⟨y, hy⟩ := Option.isSome_iff_exists.mp hb
  simp [before, Entity.start, hx, hy]

lemma sortByOffset_eq_self (h : Describes content list) : sortByOffset list = list := by
  refine List.Pairwise.insertionSort_eq (h.sorted.imp_of_mem fun {a b} ha hb hab => ?_)
  exact (before_iff (h.nonempty a ha).1 (h.nonempty b hb).1).mpr hab

lemma sanitiseEntities_eq_self {content : Option Text}
    (h : Describes (content.getD []) list) : sanitiseEntities content (some list) = some list := by
  cases list with
  | nil => rfl
  | cons x rest =>
    rw [sanitiseEntities, sortByOffset_eq_self h, keepFrom_eq_self h fun e he => (h.within e he).1]
    exact List.cons_ne_nil _ _

end Sanitise

/-! ## What one call does -/

section Calls
variable {db db' : Database} {ctx : Context} {actorId conversationId messageId botId : Uuid}
  {m : Message} {patch : Patch} {input : SendInput}

lemma send_eq_ok {created : Bool}
    (h : send wordish db ctx actorId conversationId messageId input = .ok (db', m, created)) :
    (db.first (fun r => r.senderId = actorId ∧ r.nonce = some input.nonce) = some m ∧ db' = db) ∨
      (db.first (fun r => r.senderId = actorId ∧ r.nonce = some input.nonce) = none ∧
        m = input.message wordish ctx actorId conversationId messageId ∧
        ctx.requirePermission (permissionForType input.type) = .ok () ∧
        checkEmbeds ctx input.embeds input.components = .ok () ∧
        extractMentions ctx m.entities = .ok () ∧ db.insert m = some db') := by
  unfold send at h
  split at h
  · rename_i r hr
    simp only [Except.ok.injEq, Prod.mk.injEq] at h
    obtain ⟨rfl, rfl, -⟩ := h
    exact Or.inl ⟨hr, rfl⟩
  · rename_i hr
    simp only [bind_eq_ok] at h
    obtain ⟨⟨⟩, hp, ⟨⟩, -, ⟨⟩, he, ⟨⟩, hm, h⟩ := h
    split at h
    · cases h
    · split at h
      · cases h
      · rename_i r hi
        simp only [Except.ok.injEq, Prod.mk.injEq] at h
        obtain ⟨rfl, rfl, -⟩ := h
        exact Or.inr ⟨hr, rfl, hp, he, hm, hi⟩

lemma edit_eq_ok : edit db ctx actorId messageId patch = .ok db' ↔
    ∃ row, db.messages.find messageId = some row ∧ checkEdit ctx actorId patch row = .ok () ∧
      db' = db.update (fun m => m.id = messageId) (patch.apply row ctx.clock)
        (patch.apply_frees row ctx.clock) := by
  unfold edit
  cases db.messages.find messageId with
  | none => simp
  | some row =>
    simp only [bind_eq_ok, Permissions.exists_unit, Option.some.injEq, exists_eq_left']
    exact and_congr_right fun _ => ⟨fun h => (Except.ok.inj h).symm, fun h => congrArg _ h.symm⟩

lemma rewriteBotMessage_eq_ok {patch : Rewrite}
    (h : rewriteBotMessage db botId messageId patch = .ok db') :
    ∃ row, db.messages.find messageId = some row ∧
      db' = db.update (fun m => m.id = messageId) patch.apply patch.apply_frees := by
  unfold rewriteBotMessage at h
  split at h
  · cases h
  · rename_i row hrow
    simp only [bind_eq_ok] at h
    obtain ⟨-, -, -, -, h⟩ := h
    exact ⟨row, hrow, (Except.ok.inj h).symm⟩

lemma remove_eq_ok (h : remove db ctx actorId messageId = .ok db') :
    ∃ row, db.messages.find messageId = some row ∧
      db' = db.update (fun m => m.id = messageId) (row.removed actorId ctx.clock)
        (row.removed_frees actorId ctx.clock) := by
  unfold remove at h
  split at h
  · cases h
  · rename_i row hrow
    simp only [bind_eq_ok] at h
    obtain ⟨-, -, -, -, h⟩ := h
    exact ⟨row, hrow, (Except.ok.inj h).symm⟩

lemma forall_update {p : Message → Prop} {f : Message → Message} {hf : Frees f} {row : Message}
    (hrow : db.messages.find messageId = some row) :
    (∀ m ∈ (db.update (fun m => m.id = messageId) f hf).messages.rows, p m) ↔
      (∀ m ∈ db.messages.rows, m.id ≠ messageId → p m) ∧ p (f row) := by
  obtain ⟨hmem, hid⟩ := KeyedTable.find_eq_some.mp hrow
  constructor
  · intro h
    refine ⟨fun m hm hne => ?_, ?_⟩
    · exact h m (Database.mem_update.mpr ⟨m, hm, by simp [hne]⟩)
    · exact h _ (Database.mem_update.mpr ⟨row, hmem, by simp [hid]⟩)
  · rintro ⟨hother, hself⟩ m hm
    obtain ⟨r, hr, rfl⟩ := Database.mem_update.mp hm
    by_cases he : r.id = messageId
    · obtain rfl : r = row := by
        have hr' := KeyedTable.find_eq_some.mpr ⟨hr, he⟩
        exact Option.some.inj (hr'.symm.trans hrow)
      simpa [he] using hself
    · simpa [he] using hother r hr he

end Calls

/-! ## The invariant -/

namespace Message

/-- The stored entities, when not null, describe the stored content. -/
def Described (m : Message) : Prop :=
  ∀ entities, m.entities = some entities → Describes (m.content.getD []) entities

def Fits (m : Message) (content : Option Text) : Prop :=
  ∀ e ∈ m.entities.getD [], e.stop ≤ (content.getD []).length

instance (m : Message) (content : Option Text) : Decidable (m.Fits content) := by
  unfold Fits
  infer_instance

variable {m m' : Message}

lemma described_iff_fits (h : m.Described) (he : m'.entities = m.entities) :
    m'.Described ↔ m.Fits m'.content := by
  constructor
  · intro h' e hmem
    cases hes : m.entities with
    | none =>
      rw [hes] at hmem
      cases hmem
    | some entities =>
      rw [hes] at hmem
      exact ((h' entities (he.trans hes)).within e hmem).2
  · intro hfits entities hes
    rw [he] at hes
    have hold := h entities hes
    refine ⟨hold.sorted, hold.disjoint, hold.nonempty, fun e hmem => ⟨(hold.within e hmem).1, ?_⟩⟩
    exact hfits e (by rw [hes]; exact hmem)

lemma Described.congr (h : m.Described) (hc : m'.content = m.content)
    (he : m'.entities = m.entities) : m'.Described := by
  unfold Described at h ⊢
  rw [hc, he]
  exact h

end Message

/-- The patch gives spans of its own, or leaves a text the old ones fit. -/
def Patch.Keeps (patch : Patch) (row : Message) : Prop :=
  patch.entities = none → ∀ content, patch.content = some content → row.Fits content

lemma Patch.described_iff {patch : Patch} {row : Message} {clock : Time} (h : row.Described) :
    (patch.apply row clock row).Described ↔ patch.Keeps row := by
  cases hp : patch.entities with
  | some entities =>
    have hsame : (patch.apply row clock row).entities =
        sanitiseEntities (patch.apply row clock row).content (some entities) := by
      simp only [Patch.apply, Patch.spans, hp]
    refine ⟨fun _ hn => ?_, fun _ list hl => sanitiseEntities_describes (hsame.symm.trans hl)⟩
    rw [hp] at hn
    cases hn
  | none =>
    have hsame : (patch.apply row clock row).entities = row.entities := by
      simp only [Patch.apply, Patch.spans, hp]
    rw [Message.described_iff_fits h hsame]
    cases hc : patch.content with
    | some content =>
      simp [Patch.Keeps, Patch.apply, Patch.text, hp, hc]
    | none =>
      have hself : row.Fits row.content := (Message.described_iff_fits h rfl).mp h
      simp [Patch.Keeps, Patch.apply, Patch.text, hp, hc, hself]

/-- What a run has to meet: no call leaves a text its message's spans do not fit. -/
def Apt (wordish : CodeUnit → Bool) (db : Database) : Event → Prop
  | .edit _ _ messageId patch =>
    ∀ row, db.messages.find messageId = some row → patch.Keeps row
  | .rewriteBotMessage _ messageId patch =>
    ∀ row, db.messages.find messageId = some row → ∀ content, patch.content = some content →
      row.Fits content
  | .setCard _ actorId conversationId _ key input =>
    ∀ row, db.first (Message.IsCard conversationId actorId key) = some row →
      (input.patch wordish).Keeps row
  | .send .. | .deleteCard .. | .remove .. | .sweepExpiredMessages _ => True

section Invariant
variable {db db' : Database} {event : Event}

lemma send_described {ctx : Context} {actorId conversationId messageId : Uuid} {input : SendInput}
    {sent : Database × Message × Bool} (h : ∀ m ∈ db.messages.rows, m.Described)
    (hs : send wordish db ctx actorId conversationId messageId input = .ok sent) :
    ∀ m ∈ sent.1.messages.rows, m.Described := by
  rcases send_eq_ok hs with ⟨-, he⟩ | ⟨-, hm, -, -, -, hi⟩
  · rw [he]
    exact h
  · rw [(Database.insert_rows hi).1]
    refine List.forall_mem_cons.mpr ⟨fun list hl => ?_, h⟩
    rw [hm] at hl ⊢
    exact sanitiseEntities_describes hl

lemma edit_described_iff {ctx : Context} {actorId messageId : Uuid} {patch : Patch}
    (h : ∀ m ∈ db.messages.rows, m.Described)
    (hs : edit db ctx actorId messageId patch = .ok db') :
    (∀ m ∈ db'.messages.rows, m.Described) ↔
      ∀ row, db.messages.find messageId = some row → patch.Keeps row := by
  obtain ⟨row, hrow, -, rfl⟩ := edit_eq_ok.mp hs
  rw [forall_update hrow, Patch.described_iff (h row (KeyedTable.find_eq_some.mp hrow).1)]
  constructor
  · rintro ⟨-, hk⟩ row' hrow'
    obtain rfl := Option.some.inj (hrow.symm.trans hrow')
    exact hk
  · intro hk
    exact ⟨fun m hm _ => h m hm, hk row hrow⟩

lemma remove_described {ctx : Context} {actorId messageId : Uuid}
    (h : ∀ m ∈ db.messages.rows, m.Described)
    (hs : remove db ctx actorId messageId = .ok db') : ∀ m ∈ db'.messages.rows, m.Described := by
  obtain ⟨row, hrow, rfl⟩ := remove_eq_ok hs
  rw [forall_update hrow]
  exact ⟨fun m hm _ => h m hm, (h row (KeyedTable.find_eq_some.mp hrow).1).congr rfl rfl⟩

lemma step_described_iff (h : ∀ m ∈ db.messages.rows, m.Described)
    (hs : Step wordish db event db') :
    (∀ m ∈ db'.messages.rows, m.Described) ↔ Apt wordish db event := by
  cases event with
  | send ctx actorId conversationId messageId nonce input =>
    obtain ⟨sent, hsent, he⟩ := bind_eq_ok.mp hs
    obtain rfl := Except.ok.inj he
    exact iff_of_true (send_described h hsent) trivial
  | edit ctx actorId messageId patch => exact edit_described_iff h hs
  | rewriteBotMessage botId messageId patch =>
    obtain ⟨row, hrow, rfl⟩ := rewriteBotMessage_eq_ok hs
    have hold := h row (KeyedTable.find_eq_some.mp hrow).1
    have happly : (patch.apply row).Described ↔
        ∀ content, patch.content = some content → row.Fits content := by
      rw [@Message.described_iff_fits row (patch.apply row) hold rfl]
      cases hc : patch.content with
      | some content => simp [Rewrite.apply, hc]
      | none =>
        have hself := (@Message.described_iff_fits row row hold rfl).mp hold
        simp [Rewrite.apply, hc, hself]
    rw [forall_update hrow, happly]
    constructor
    · rintro ⟨-, hk⟩ row' hrow'
      obtain rfl := Option.some.inj (hrow.symm.trans hrow')
      exact hk
    · intro hk
      exact ⟨fun m hm _ => h m hm, hk row hrow⟩
  | setCard ctx actorId conversationId messageId key input =>
    change setCard wordish db ctx actorId conversationId messageId key input = .ok db' at hs
    unfold setCard at hs
    split at hs
    · rename_i existing hfirst
      rw [edit_described_iff h hs]
      have hfind : db.messages.find existing.id = some existing :=
        KeyedTable.find_eq_some.mpr ⟨List.mem_of_find?_eq_some hfirst, rfl⟩
      rw [Apt, hfirst, hfind]
    · rename_i hfirst
      obtain ⟨sent, hsent, he⟩ := bind_eq_ok.mp hs
      obtain rfl := Except.ok.inj he
      refine iff_of_true (send_described h hsent) fun row hrow => ?_
      rw [hfirst] at hrow
      cases hrow
  | deleteCard ctx actorId conversationId key =>
    change deleteCard db ctx actorId conversationId key = .ok db' at hs
    unfold deleteCard at hs
    split at hs
    · cases hs
    · exact iff_of_true (remove_described h hs) trivial
  | remove ctx actorId messageId => exact iff_of_true (remove_described h hs) trivial
  | sweepExpiredMessages clock =>
    obtain rfl := Except.ok.inj hs
    refine iff_of_true (fun m hm => ?_) trivial
    obtain ⟨r, hr, rfl | rfl⟩ := mem_sweepExpiredMessages hm
    · exact h _ hr
    · exact (h r hr).congr rfl rfl

/-- The stored spans describe the stored text after every run whose calls all meet the condition,
and after one call more exactly if that one does. -/
theorem run_described (hrun : RunWhere (Step wordish) (Apt wordish) .empty db) :
    (∀ m ∈ db.messages.rows, m.Described) ∧
      ∀ event db', Step wordish db event db' →
        ((∀ m ∈ db'.messages.rows, m.Described) ↔ Apt wordish db event) := by
  have h : ∀ m ∈ db.messages.rows, m.Described :=
    hrun.invariant (by simp [Database.empty, KeyedTable.empty])
      fun _ _ _ h hok hs => (step_described_iff h hs).mpr hok
  exact ⟨h, fun event db' hs => step_described_iff h hs⟩

end Invariant

/-! ### A bot and its prompt -/

namespace Sample

def context (isBoard : Bool) (clock : Time) : Context where
  isBoard := isBoard
  isForum := false
  disappearingSeconds := 0
  permissions := some Permissions.allPermissions
  isBot := true
  badge := none
  refusal := none
  clock := clock

def after (db : Database) (event : Event) : Database :=
  ((perform (fun _ => false) db event).toOption).getD .empty

lemma step_after {db : Database} {event : Event}
    (h : (perform (fun _ => false) db event).toOption.isSome = true) :
    Step (fun _ => false) db event (after db event) := by
  unfold after Step
  cases hp : perform (fun _ => false) db event with
  | ok db' => rfl
  | error e =>
    rw [hp] at h
    cases h

def prompt : Event :=
  .send (context false 5) 7 1 100 "prompt"
    ⟨.client "prompt", .text, some (text ['p', 'i', 'c', 'k']), none, some [.span .bold 0 4], false,
      none, none, none, none⟩

def answer (content : Text) : Event := .rewriteBotMessage 7 100 ⟨some (some content), none, none⟩

end Sample

open Sample in
/-- The answer to a press leaves the spans of the prompt on a shorter text. -/
theorem spans_outlive_text : ¬ ∀ (wordish : CodeUnit → Bool) (db : Database),
    RunWhere (Step wordish) (fun _ _ => True) .empty db → ∀ m ∈ db.messages.rows, m.Described := by
  intro h
  have hsent : Step (fun _ => false) .empty prompt (after .empty prompt) :=
    step_after (by decide)
  have hanswered : Step (fun _ => false) (after .empty prompt) (answer (text ['o', 'k']))
      (after (after .empty prompt) (answer (text ['o', 'k']))) := step_after (by decide)
  have hall := h _ _ (((RunWhere.refl _).tail trivial hsent).tail trivial hanswered)
  have hbeyond : (after (after .empty prompt) (answer (text ['o', 'k']))).messages.rows.any
      (fun m => m.entities = some [.span .bold 0 4] ∧ m.content = some (text ['o', 'k'])) = true := by
    decide
  obtain ⟨m, hm, hp⟩ := List.any_eq_true.mp hbeyond
  obtain ⟨he, hc⟩ := of_decide_eq_true hp
  have hwithin := ((hall m hm _ he).within _ (List.mem_singleton_self _)).2
  rw [hc] at hwithin
  exact absurd hwithin (by decide)

open Sample in
/-- An answer as long as the prompt leaves them where they were. -/
theorem run_described_answered :
    ∃ m ∈ (after (after .empty prompt) (answer (text ['d', 'o', 'n', 'e']))).messages.rows,
      m.content = some (text ['d', 'o', 'n', 'e']) ∧ m.Described := by
  have hsent : Step (fun _ => false) .empty prompt (after .empty prompt) :=
    step_after (by decide)
  have hanswered : Step (fun _ => false) (after .empty prompt) (answer (text ['d', 'o', 'n', 'e']))
      (after (after .empty prompt) (answer (text ['d', 'o', 'n', 'e']))) :=
    step_after (by decide)
  have hapt : Apt (fun _ => false) (after .empty prompt) (answer (text ['d', 'o', 'n', 'e'])) := by
    intro row hrow content hcontent
    obtain rfl := Option.some.inj hcontent
    have hfits : (((after .empty prompt).messages.find 100).all
        fun row => row.Fits (some (text ['d', 'o', 'n', 'e']))) = true := by decide
    rw [hrow] at hfits
    exact of_decide_eq_true hfits
  have hall := (run_described (((RunWhere.refl _).tail trivial hsent).tail hapt hanswered)).1
  have hanswer : (after (after .empty prompt) (answer (text ['d', 'o', 'n', 'e']))).messages.rows.any
      (fun m => m.content = some (text ['d', 'o', 'n', 'e'])) = true := by decide
  obtain ⟨m, hm, hc⟩ := List.any_eq_true.mp hanswer
  exact ⟨m, hm, of_decide_eq_true hc, hall m hm⟩

end Yappy.MessageService
