import Yappy.MessageSpans

/-!
# Cards

Putting a card takes effect, and putting it again changes nothing, where a card of that name is up,
or where no deleted one holds on to the name and neither pass over the text has anything to do.
-/
namespace Yappy.MessageService

open Markdown
open Permissions (AppError Time Uuid ensure bind_eq_ok ensure_eq_ok)

variable {wordish : CodeUnit → Bool}

/-! ## What the passes do to a text -/

section Passes
variable {content : Option Text} {existing : Option (List Entity)} {parsed : Text × List Entity}

lemma codeBlocksToEntities_eq_some (h : codeBlocksToEntities content existing = some parsed) :
    ∃ original, content = some original ∧ parsed.1.length < original.length ∧
      (existing.getD [] = [] → Describes parsed.1 parsed.2 ∧
        ∃ e ∈ parsed.2, ∃ language, e.kind = .pre language) := by
  unfold codeBlocksToEntities at h
  split at h
  · cases h
  · rename_i original
    dsimp only at h
    split_ifs at h with hfence hempty
    obtain rfl := Option.some.inj h
    have hstripped := @parseCodeBlocks_stripped original
    refine ⟨original, rfl, hstripped.length_lt hempty, fun hnone => ?_⟩
    rw [hnone, List.filterMap_nil, List.nil_append, sortByOffset_eq_self hstripped.describes]
    refine ⟨hstripped.describes, ?_⟩
    obtain ⟨e, he⟩ := List.exists_mem_of_ne_nil _ hempty
    exact ⟨e, he, parseCodeFrom_kind (by simp) e he⟩

lemma markdownToEntities_eq_some (h : markdownToEntities wordish content existing = some parsed) :
    ∃ original, content = some original ∧ existing.getD [] = [] ∧
      parsed.1.length < original.length ∧ Describes parsed.1 parsed.2 ∧
      ∀ e ∈ parsed.2, ∀ language, e.kind ≠ .pre language := by
  unfold markdownToEntities at h
  split at h
  · cases h
  · rename_i original
    dsimp only at h
    split_ifs at h with hskip hempty
    obtain rfl := Option.some.inj h
    rw [not_or, not_not] at hskip
    have hstripped := @parseMarkdown_stripped wordish original
    exact ⟨original, rfl, hskip.2, hstripped.length_lt hempty, hstripped.describes,
      parseFrom_kind (by simp)⟩

end Passes

/-! ## The two ways to put a card -/

section Card
variable {ctx : Context} {actorId conversationId messageId : Uuid} {key : String}
  {input : CardInput}

/-- Neither pass of `send` has anything to do, or only the one that `setCard` makes too. -/
def CardInput.Plain (wordish : CodeUnit → Bool) (ctx : Context) (input : CardInput) : Prop :=
  let body := boardPass wordish ctx ⟨input.content.getD none, input.entities⟩
  codeBlocksToEntities body.content body.entities = none ∧
    (ctx.isBoard = false →
      markdownToEntities wordish (input.content.getD none) input.entities = none)

/-- The author may rewrite a card that was put this way. -/
def CardInput.Rewritable (wordish : CodeUnit → Bool) (ctx : Context) (input : CardInput) : Prop :=
  ctx.requirePermission Permissions.Permission.editOwnMessages = .ok () ∧
    (∀ entities, (input.patch wordish).entities = some entities →
      extractMentions ctx (sanitiseEntities ((input.patch wordish).content.getD none)
        (some entities)) = .ok ()) ∧
    (input.embeds.isSome ∨ input.components.isSome → ctx.isBot = true)

def CardInput.card (wordish : CodeUnit → Bool) (ctx : Context)
    (actorId conversationId messageId : Uuid) (key : String) (input : CardInput) : Message :=
  (input.toSend actorId conversationId key).message wordish ctx actorId conversationId messageId

lemma boardPass_none {entities : Option (List Entity)} :
    boardPass wordish ctx ⟨none, entities⟩ = ⟨none, entities⟩ := by
  unfold boardPass markdownToEntities
  split_ifs <;> rfl

lemma card_content (h : input.content.getD none = none) :
    (input.card wordish ctx actorId conversationId messageId key).content = none := by
  change (fencePass (boardPass wordish ctx ⟨input.content.getD none, input.entities⟩)).content = none
  rw [h, boardPass_none]
  rfl

lemma patch_of_some {parsed : Text × List Entity}
    (h : markdownToEntities wordish (input.content.getD none) input.entities = some parsed) :
    input.patch wordish = ⟨some (some parsed.1), some parsed.2, input.embeds, input.components⟩ := by
  rw [CardInput.patch, h]

lemma patch_of_none
    (h : markdownToEntities wordish (input.content.getD none) input.entities = none) :
    input.patch wordish = ⟨input.content, input.entities, input.embeds, input.components⟩ := by
  rw [CardInput.patch, h]

@[simp] lemma patch_embeds : (input.patch wordish).embeds = input.embeds := by
  unfold CardInput.patch
  split <;> rfl

@[simp] lemma patch_components : (input.patch wordish).components = input.components := by
  unfold CardInput.patch
  split <;> rfl

lemma patch_text :
    (input.patch wordish).text (input.card wordish ctx actorId conversationId messageId key) =
      (input.patch wordish).content.getD none := by
  unfold Patch.text
  cases hm : markdownToEntities wordish (input.content.getD none) input.entities with
  | some parsed => rw [patch_of_some hm, Option.getD_some, Option.getD_some]
  | none =>
    rw [patch_of_none hm]
    cases hc : input.content with
    | some content => rfl
    | none =>
      rw [Option.getD_none, Option.getD_none]
      exact card_content (by rw [hc, Option.getD_none])

lemma checkEdit_card (clock : Time) :
    checkEdit { ctx with clock := clock } actorId (input.patch wordish)
        (input.card wordish ctx actorId conversationId messageId key) = .ok () ↔
      input.Rewritable wordish ctx := by
  have hdeleted : (input.card wordish ctx actorId conversationId messageId key).deletedAt = none := rfl
  have hsender : (input.card wordish ctx actorId conversationId messageId key).senderId = actorId :=
    rfl
  have hkey : (input.card wordish ctx actorId conversationId messageId key).cardKey = some key := rfl
  have htype : (input.card wordish ctx actorId conversationId messageId key).type = .text := rfl
  have hmention : ∀ entities, extractMentions { ctx with clock := clock } entities =
    extractMentions ctx entities := fun _ => rfl
  have hperm : ∀ p, Context.requirePermission { ctx with clock := clock } p =
    ctx.requirePermission p := fun _ => rfl
  have hspans : ∀ entities, (input.patch wordish).entities = some entities →
      (input.patch wordish).spans (input.card wordish ctx actorId conversationId messageId key) =
        sanitiseEntities ((input.patch wordish).content.getD none) (some entities) := by
    intro entities he
    rw [Patch.spans, he, patch_text]
  simp only [checkEdit, bind_eq_ok, Permissions.exists_unit, ensure_eq_ok, hdeleted, hsender, hkey,
    htype, hmention, hperm, patch_embeds, patch_components, Option.isNone_none, Option.isSome_some,
    decide_true, Bool.true_or, true_and, CardInput.Rewritable]
  refine and_congr_right fun _ => ?_
  cases he : (input.patch wordish).entities with
  | none => cases input.embeds <;> cases input.components <;> simp
  | some entities => cases input.embeds <;> cases input.components <;> simp [hspans entities he,
      Permissions.exists_unit]

theorem rewritten_eq_iff :
    ((input.patch wordish).text (input.card wordish ctx actorId conversationId messageId key) =
        (input.card wordish ctx actorId conversationId messageId key).content ∧
      (input.patch wordish).spans (input.card wordish ctx actorId conversationId messageId key) =
        (input.card wordish ctx actorId conversationId messageId key).entities) ↔
      input.Plain wordish ctx := by
  rw [patch_text]
  unfold CardInput.Plain
  generalize hbody : boardPass wordish ctx ⟨input.content.getD none, input.entities⟩ = body
  have hcontent : (input.card wordish ctx actorId conversationId messageId key).content =
      (fencePass body).content := by
    rw [← hbody]
    rfl
  have hentities : (input.card wordish ctx actorId conversationId messageId key).entities =
      sanitiseEntities (fencePass body).content (fencePass body).entities := by
    rw [← hbody]
    rfl
  have hspans : ∀ entities, (input.patch wordish).entities = some entities →
      (input.patch wordish).spans (input.card wordish ctx actorId conversationId messageId key) =
        sanitiseEntities ((input.patch wordish).content.getD none) (some entities) := by
    intro entities he
    rw [Patch.spans, he, patch_text]
  -- where markdown applies, it does on a board, and the rewrite writes what it leaves
  cases hm : markdownToEntities wordish (input.content.getD none) input.entities with
  | some parsed =>
    obtain ⟨original, horiginal, hnone, hlt, hdescribes, hkind⟩ := markdownToEntities_eq_some hm
    have hpatch : (input.patch wordish).content.getD none = some parsed.1 := by
      rw [patch_of_some hm]
      rfl
    have hlist := hspans parsed.2 (by rw [patch_of_some hm])
    have hkept : sanitiseEntities (some parsed.1) (some parsed.2) = some parsed.2 :=
      sanitiseEntities_eq_self hdescribes
    rw [hpatch, hkept] at hlist
    rw [hpatch, hlist, hcontent, hentities]
    cases hf : codeBlocksToEntities body.content body.entities with
    | some fenced =>
      obtain ⟨before, hbefore, hshorter, hpre⟩ := codeBlocksToEntities_eq_some hf
      have hfence : fencePass body = ⟨some fenced.1, some fenced.2⟩ := by rw [fencePass, hf]
      refine iff_of_false ?_ fun h => by
        have hnone := h.1
        rw [hf] at hnone
        cases hnone
      rintro ⟨ht, he⟩
      rw [hfence] at ht he
      obtain ht := Option.some.inj ht
      by_cases hboard : ctx.isBoard = true
      · -- the fence pass has shortened what markdown left
        rw [boardPass, if_pos hboard, hm] at hbody
        rw [← hbody] at hbefore
        rw [← Option.some.inj hbefore, ht] at hshorter
        exact lt_irrefl _ hshorter
      · -- the fence pass leaves blocks, and markdown none
        rw [boardPass, if_neg hboard] at hbody
        obtain ⟨hd, e, he', language, hl⟩ := hpre (by rw [← hbody]; exact hnone)
        have hblocks : sanitiseEntities (some fenced.1) (some fenced.2) = some fenced.2 :=
          sanitiseEntities_eq_self hd
        rw [hblocks] at he
        rw [← Option.some.inj he] at he'
        exact hkind e he' language hl
    | none =>
      have hfence : fencePass body = body := by rw [fencePass, hf]
      rw [hfence]
      by_cases hboard : ctx.isBoard = true
      · rw [boardPass, if_pos hboard, hm] at hbody
        refine iff_of_true ⟨by rw [← hbody], by rw [← hbody, hkept]⟩ ⟨hf, fun h => ?_⟩
        rw [hboard] at h
        cases h
      · rw [boardPass, if_neg hboard] at hbody
        rw [← hbody, horiginal]
        refine iff_of_false ?_ ?_
        · rintro ⟨ht, -⟩
          rw [Option.some.inj ht] at hlt
          exact lt_irrefl _ hlt
        · rintro ⟨-, h⟩
          cases h (Bool.eq_false_iff.mpr hboard)
  | none =>
    have hplain : body = ⟨input.content.getD none, input.entities⟩ := by
      rw [← hbody, boardPass]
      split_ifs
      · rw [hm]
      · rfl
    have hpatch : (input.patch wordish).content = input.content := by rw [patch_of_none hm]
    rw [hpatch, hcontent]
    cases hf : codeBlocksToEntities body.content body.entities with
    | some fenced =>
      obtain ⟨before, hbefore, hshorter, -⟩ := codeBlocksToEntities_eq_some hf
      have hfence : fencePass body = ⟨some fenced.1, some fenced.2⟩ := by rw [fencePass, hf]
      refine iff_of_false ?_ fun h => by
        have hnone := h.1
        rw [hf] at hnone
        cases hnone
      rintro ⟨ht, -⟩
      rw [hplain] at hbefore
      rw [hfence] at ht
      change input.content.getD none = some before at hbefore
      rw [hbefore] at ht
      rw [Option.some.inj ht] at hshorter
      exact lt_irrefl _ hshorter
    | none =>
      have hfence : fencePass body = body := by rw [fencePass, hf]
      refine iff_of_true ⟨by rw [hfence, hplain], ?_⟩ ⟨hf, fun _ => rfl⟩
      cases he : input.entities with
      | some entities =>
        rw [hspans entities (by rw [patch_of_none hm, he]), hentities, hfence, hplain, hpatch, he]
      | none => rw [Patch.spans, patch_of_none hm, he]

end Card

/-! ## One name, one card -/

def Database.cardsNamed (db : Database) (conversationId actorId : Uuid) (key : String) :
    List Message :=
  db.messages.rows.filter (Message.IsCard conversationId actorId key)

namespace Message

def Named (m : Message) : Prop :=
  ∀ conversationId actorId key, m.nonce = some (.card conversationId actorId key) ↔
    m.conversationId = conversationId ∧ m.senderId = actorId ∧ m.cardKey = some key

lemma Named.congr {m m' : Message} (h : m.Named) (hc : m'.conversationId = m.conversationId)
    (hs : m'.senderId = m.senderId) (hn : m'.nonce = m.nonce) (hk : m'.cardKey = m.cardKey) :
    m'.Named := by
  intro conversationId actorId key
  rw [hc, hs, hn, hk]
  exact h conversationId actorId key

lemma isCard_iff {m : Message} {conversationId actorId : Uuid} {key : String} :
    m.IsCard conversationId actorId key = true ↔ m.conversationId = conversationId ∧
      m.senderId = actorId ∧ m.cardKey = some key ∧ m.deletedAt = none := by
  simp [IsCard]

end Message

section Names
variable {db db' : Database} {event : Event} {conversationId actorId : Uuid} {key : String}
  {m : Message}

lemma cardsNamed_eq (h : db.first (Message.IsCard conversationId actorId key) = some m) :
    db.cardsNamed conversationId actorId key = [m] := by
  have hpair : (db.cardsNamed conversationId actorId key).Pairwise fun a b => ¬ a.SharesCard b :=
    db.cards.filter _
  have hhead : (db.cardsNamed conversationId actorId key).head? = some m := by
    rw [Database.cardsNamed, List.head?_filter]
    exact h
  cases hl : db.cardsNamed conversationId actorId key with
  | nil =>
    rw [hl] at hhead
    cases hhead
  | cons a rest =>
    rw [hl] at hhead hpair
    obtain rfl := Option.some.inj hhead
    cases rest with
    | nil => rfl
    | cons b rest =>
      have hmem : ∀ x ∈ [a, b], x.IsCard conversationId actorId key = true := by
        intro x hx
        have hx' : x ∈ db.cardsNamed conversationId actorId key := by
          rw [hl]
          rcases List.mem_cons.mp hx with rfl | hx
          · exact List.mem_cons_self ..
          · rw [List.mem_singleton.mp hx]
            exact List.mem_cons_of_mem _ (List.mem_cons_self ..)
        exact (List.mem_filter.mp hx').2
      obtain ⟨hca, hsa, hka, -⟩ := Message.isCard_iff.mp (hmem a (by simp))
      obtain ⟨hcb, hsb, hkb, -⟩ := Message.isCard_iff.mp (hmem b (by simp))
      refine absurd ⟨?_, hca.trans hcb.symm, hsa.trans hsb.symm, hka.trans hkb.symm⟩
        (List.rel_of_pairwise_cons hpair (List.mem_cons_self ..))
      rw [hka]
      rfl

lemma cardsNamed_eq_nil (h : db.first (Message.IsCard conversationId actorId key) = none) :
    db.cardsNamed conversationId actorId key = [] :=
  List.filter_eq_nil_iff.mpr fun m hm => List.find?_eq_none.mp h m hm

lemma first_of_cardsNamed (h : db.cardsNamed conversationId actorId key = [m]) :
    db.first (Message.IsCard conversationId actorId key) = some m := by
  rw [Database.first, ← List.head?_filter]
  change (db.cardsNamed conversationId actorId key).head? = some m
  rw [h]
  rfl

lemma cardsNamed_edit {patch : Patch} {clock : Time}
    (h : db.cardsNamed conversationId actorId key = [m]) :
    (db.update (fun r => r.id = m.id) (patch.apply m clock) (patch.apply_frees m clock)).cardsNamed
      conversationId actorId key = [patch.apply m clock m] := by
  have hcard : (Message.IsCard conversationId actorId key) ∘
      (fun r => if decide (r.id = m.id) then patch.apply m clock r else r) =
      Message.IsCard conversationId actorId key := by
    funext r
    simp only [Function.comp_apply]
    split_ifs <;> rfl
  change List.filter _ (List.map _ _) = _
  rw [List.filter_map, hcard]
  change List.map _ (db.cardsNamed conversationId actorId key) = _
  rw [h]
  simp

lemma send_named {ctx : Context} {messageId : Uuid} {input : SendInput}
    {sent : Database × Message × Bool} (h : ∀ m ∈ db.messages.rows, m.Named)
    (hs : send wordish db ctx actorId conversationId messageId input = .ok sent)
    (hinput : (input.message wordish ctx actorId conversationId messageId).Named) :
    ∀ m ∈ sent.1.messages.rows, m.Named := by
  rcases send_eq_ok hs with ⟨-, he⟩ | ⟨-, hm, -, -, -, hi⟩
  · rw [he]
    exact h
  · rw [(Database.insert_rows hi).1, hm]
    exact List.forall_mem_cons.mpr ⟨hinput, h⟩

lemma card_named {ctx : Context} {messageId : Uuid} {input : CardInput} :
    (input.card wordish ctx actorId conversationId messageId key).Named := by
  intro conversationId' actorId' key'
  change some (Nonce.card conversationId actorId key) = some (.card conversationId' actorId' key') ↔
    conversationId = conversationId' ∧ actorId = actorId' ∧ some key = some key'
  simp

lemma edit_named {ctx : Context} {messageId : Uuid} {patch : Patch}
    (h : ∀ m ∈ db.messages.rows, m.Named)
    (hs : edit db ctx actorId messageId patch = .ok db') : ∀ m ∈ db'.messages.rows, m.Named := by
  obtain ⟨row, hrow, -, rfl⟩ := edit_eq_ok.mp hs
  rw [forall_update hrow]
  exact ⟨fun m hm _ => h m hm, (h row (KeyedTable.find_eq_some.mp hrow).1).congr rfl rfl rfl rfl⟩

lemma remove_named {ctx : Context} {messageId : Uuid} (h : ∀ m ∈ db.messages.rows, m.Named)
    (hs : remove db ctx actorId messageId = .ok db') : ∀ m ∈ db'.messages.rows, m.Named := by
  obtain ⟨row, hrow, rfl⟩ := remove_eq_ok hs
  rw [forall_update hrow]
  refine ⟨fun m hm _ => h m hm, fun conversationId' actorId' key' => ?_⟩
  cases hk : row.cardKey with
  | some key => simp [Message.removed, hk]
  | none =>
    have hold := h row (KeyedTable.find_eq_some.mp hrow).1 conversationId' actorId' key'
    simpa [Message.removed, hk] using hold

lemma step_named (h : ∀ m ∈ db.messages.rows, m.Named) (hs : Step wordish db event db') :
    ∀ m ∈ db'.messages.rows, m.Named := by
  cases event with
  | send ctx actorId conversationId messageId nonce input =>
    obtain ⟨sent, hsent, he⟩ := bind_eq_ok.mp hs
    obtain rfl := Except.ok.inj he
    refine send_named h hsent fun conversationId' actorId' key' => ?_
    simp [SendInput.message]
  | edit ctx actorId messageId patch => exact edit_named h hs
  | rewriteBotMessage botId messageId patch =>
    obtain ⟨row, hrow, rfl⟩ := rewriteBotMessage_eq_ok hs
    rw [forall_update hrow]
    exact ⟨fun m hm _ => h m hm, (h row (KeyedTable.find_eq_some.mp hrow).1).congr rfl rfl rfl rfl⟩
  | setCard ctx actorId conversationId messageId key input =>
    change setCard wordish db ctx actorId conversationId messageId key input = .ok db' at hs
    unfold setCard at hs
    split at hs
    · exact edit_named h hs
    · obtain ⟨sent, hsent, he⟩ := bind_eq_ok.mp hs
      obtain rfl := Except.ok.inj he
      exact send_named h hsent card_named
  | deleteCard ctx actorId conversationId key =>
    change deleteCard db ctx actorId conversationId key = .ok db' at hs
    unfold deleteCard at hs
    split at hs
    · cases hs
    · exact remove_named h hs
  | remove ctx actorId messageId => exact remove_named h hs
  | sweepExpiredMessages clock =>
    obtain rfl := Except.ok.inj hs
    intro m hm
    obtain ⟨r, hr, rfl | rfl⟩ := mem_sweepExpiredMessages hm
    · exact h _ hr
    · exact (h r hr).congr rfl rfl rfl rfl

lemma run_named (hrun : RunWhere (Step wordish) (fun _ _ => True) .empty db) :
    ∀ m ∈ db.messages.rows, m.Named :=
  hrun.invariant (by simp [Database.empty, KeyedTable.empty]) fun _ _ _ h _ hs => step_named h hs

end Names

/-! ## What putting a card promises -/

section Put
variable (wordish) (db db' : Database) (ctx : Context) (actorId conversationId : Uuid)
  (key : String) (input : CardInput)

/-- Exactly one card of the name is up, with the embeds and components given. -/
def TakesEffect : Prop :=
  ∃ m, db'.cardsNamed conversationId actorId key = [m] ∧
    (∀ embeds, input.embeds = some embeds → m.embeds = embeds) ∧
    ∀ components, input.components = some components → m.components = components

/-- The same call once more leaves the same content and entities. -/
def Repeats : Prop :=
  ∀ clock messageId db'',
    setCard wordish db' { ctx with clock := clock } actorId conversationId messageId key input =
      .ok db'' →
    (db''.cardsNamed conversationId actorId key).map (fun m => (m.content, m.entities)) =
      (db'.cardsNamed conversationId actorId key).map fun m => (m.content, m.entities)

/-- The condition: a card of that name is up; or no deleted one holds on to the name, the embeds
carry no `kind` that would be taken away, and unless a rewrite is refused, the passes of `send` do
nothing that the rewrite would not do. -/
def Settled : Prop :=
  (∃ m ∈ db.messages.rows, m.IsCard conversationId actorId key = true) ∨
    (∀ m ∈ db.messages.rows, ¬ (m.conversationId = conversationId ∧ m.senderId = actorId ∧
      m.cardKey = some key)) ∧
    (∀ embeds, input.embeds = some embeds → sanitiseEmbeds ctx embeds = embeds) ∧
    (input.Rewritable wordish ctx → input.Plain wordish ctx)

end Put

section Claims
variable {db db' : Database} {ctx : Context} {actorId conversationId messageId : Uuid}
  {key : String} {input : CardInput} {m : Message}

lemma setCard_of_card (h : db.cardsNamed conversationId actorId key = [m])
    (hs : setCard wordish db ctx actorId conversationId messageId key input = .ok db') :
    checkEdit ctx actorId (input.patch wordish) m = .ok () ∧
      db'.cardsNamed conversationId actorId key = [(input.patch wordish).apply m ctx.clock m] := by
  have hfirst := first_of_cardsNamed h
  unfold setCard at hs
  rw [hfirst] at hs
  obtain ⟨row, hrow, hcheck, rfl⟩ := edit_eq_ok.mp hs
  have hfind : db.messages.find m.id = some m :=
    KeyedTable.find_eq_some.mpr ⟨List.mem_of_find?_eq_some hfirst, rfl⟩
  obtain rfl := Option.some.inj (hfind.symm.trans hrow)
  exact ⟨hcheck, cardsNamed_edit h⟩

lemma rewritten_settles (h : db.cardsNamed conversationId actorId key = [m])
    (hs : setCard wordish db ctx actorId conversationId messageId key input = .ok db') :
    TakesEffect db' actorId conversationId key input ∧
      Repeats wordish db' ctx actorId conversationId key input := by
  obtain ⟨-, hcards⟩ := setCard_of_card h hs
  refine ⟨⟨_, hcards, fun embeds he => ?_, fun components hc => ?_⟩,
    fun clock messageId' db'' hs' => ?_⟩
  · rw [Patch.apply, patch_embeds, he, Option.getD_some]
  · rw [Patch.apply, patch_components, hc, Option.getD_some]
  · obtain ⟨-, hcards'⟩ := setCard_of_card hcards hs'
    rw [hcards', hcards]
    have htext : (input.patch wordish).text ((input.patch wordish).apply m ctx.clock m) =
        (input.patch wordish).text m := by
      unfold Patch.text
      cases hc : (input.patch wordish).content with
      | some content => rfl
      | none => simp [Patch.apply, Patch.text, hc]
    have hspans : (input.patch wordish).spans ((input.patch wordish).apply m ctx.clock m) =
        (input.patch wordish).spans m := by
      unfold Patch.spans
      rw [htext]
      cases he : (input.patch wordish).entities with
      | some entities => rfl
      | none => simp [Patch.apply, Patch.spans, he]
    change [((input.patch wordish).text _, (input.patch wordish).spans _)] =
      [((input.patch wordish).text m, (input.patch wordish).spans m)]
    rw [htext, hspans]

/-- A card that is put up is as given, apart from what its embeds may not carry, and stays as it is
when it is put again exactly if it is plain or may not be rewritten. -/
theorem created_settles_iff
    (h : db'.cardsNamed conversationId actorId key =
      [input.card wordish ctx actorId conversationId messageId key]) :
    TakesEffect db' actorId conversationId key input ∧
        Repeats wordish db' ctx actorId conversationId key input ↔
      (∀ embeds, input.embeds = some embeds → sanitiseEmbeds ctx embeds = embeds) ∧
        (input.Rewritable wordish ctx → input.Plain wordish ctx) := by
  refine and_congr ?_ ?_
  · constructor
    · rintro ⟨m, hm, hembeds, -⟩ embeds he
      obtain rfl := (List.cons.inj (h.symm.trans hm)).1
      have hcard := hembeds embeds he
      change sanitiseEmbeds ctx (input.embeds.getD []) = embeds at hcard
      rwa [he] at hcard
    · intro hembeds
      refine ⟨_, h, fun embeds he => ?_, fun components hc => ?_⟩
      · change sanitiseEmbeds ctx (input.embeds.getD []) = embeds
        rw [he]
        exact hembeds embeds he
      · change input.components.getD [] = components
        rw [hc, Option.getD_some]
  · have hwritten : ∀ clock messageId' db'',
        setCard wordish db' { ctx with clock := clock } actorId conversationId messageId' key input =
          .ok db'' →
        ((db''.cardsNamed conversationId actorId key).map (fun m => (m.content, m.entities)) =
          (db'.cardsNamed conversationId actorId key).map (fun m => (m.content, m.entities)) ↔
            input.Plain wordish ctx) := by
      intro clock messageId' db'' hs'
      obtain ⟨-, hcards'⟩ := setCard_of_card h hs'
      rw [hcards', h, ← @rewritten_eq_iff wordish ctx actorId conversationId messageId key input]
      simp [Patch.apply]
    constructor
    · intro hrepeats hrewritable
      have hcheck := (@checkEdit_card wordish ctx actorId conversationId messageId key input
        ctx.clock).mpr hrewritable
      have hfirst := first_of_cardsNamed h
      have hfind : db'.messages.find _ = some (input.card wordish ctx actorId conversationId
          messageId key) :=
        KeyedTable.find_eq_some.mpr ⟨List.mem_of_find?_eq_some hfirst, rfl⟩
      obtain ⟨db'', hset⟩ : ∃ db'', setCard wordish db' { ctx with clock := ctx.clock } actorId
          conversationId messageId key input = .ok db'' := by
        unfold setCard
        rw [hfirst]
        exact ⟨_, edit_eq_ok.mpr ⟨_, hfind, hcheck, rfl⟩⟩
      exact (hwritten _ _ _ hset).mp (hrepeats _ _ _ hset)
    · intro hplain clock messageId' db'' hs'
      refine (hwritten clock messageId' db'' hs').mpr (hplain ?_)
      exact (checkEdit_card clock).mp (setCard_of_card h hs').1

/-- After any history, a call that succeeds takes effect and can be repeated exactly under the
condition. -/
theorem setCard_settles_iff (hrun : RunWhere (Step wordish) (fun _ _ => True) .empty db)
    (hs : setCard wordish db ctx actorId conversationId messageId key input = .ok db') :
    TakesEffect db' actorId conversationId key input ∧
        Repeats wordish db' ctx actorId conversationId key input ↔
      Settled wordish db ctx actorId conversationId key input := by
  cases hfirst : db.first (Message.IsCard conversationId actorId key) with
  | some existing =>
    exact iff_of_true (rewritten_settles (cardsNamed_eq hfirst) hs)
      (Or.inl ⟨existing, Database.first_eq_some hfirst⟩)
  | none =>
    have hnone := List.find?_eq_none.mp hfirst
    have hup : ¬ ∃ m ∈ db.messages.rows, m.IsCard conversationId actorId key = true :=
      fun ⟨m, hm, hc⟩ => hnone m hm hc
    rw [Settled, or_iff_right hup]
    unfold setCard at hs
    rw [hfirst] at hs
    obtain ⟨sent, hsent, he⟩ := bind_eq_ok.mp hs
    obtain rfl := Except.ok.inj he
    rcases send_eq_ok hsent with ⟨hheld, hsame⟩ | ⟨hfree, hm, -, -, -, hinsert⟩
    · -- the send finds the deleted card by its nonce, and nothing is up
      obtain ⟨hmem, hp⟩ := Database.first_eq_some hheld
      have hnonce : sent.2.1.nonce = some (.card conversationId actorId key) :=
        (of_decide_eq_true hp).2
      have hname := (run_named hrun _ hmem conversationId actorId key).mp hnonce
      refine iff_of_false (fun ⟨⟨m, hcards, _⟩, _⟩ => ?_) fun ⟨h, _⟩ => h _ hmem hname
      rw [hsame, cardsNamed_eq_nil hfirst] at hcards
      cases hcards
    · have hcards : sent.1.cardsNamed conversationId actorId key =
          [input.card wordish ctx actorId conversationId messageId key] := by
        have hcard : (input.card wordish ctx actorId conversationId messageId key).IsCard
            conversationId actorId key = true := Message.isCard_iff.mpr ⟨rfl, rfl, rfl, rfl⟩
        rw [Database.cardsNamed, (Database.insert_rows hinsert).1, hm]
        refine (List.filter_cons_of_pos hcard).trans ?_
        change _ :: db.cardsNamed conversationId actorId key = _
        rw [cardsNamed_eq_nil hfirst]
      have hname : ∀ m ∈ db.messages.rows, ¬ (m.conversationId = conversationId ∧
          m.senderId = actorId ∧ m.cardKey = some key) := by
        intro m hm hname
        refine List.find?_eq_none.mp hfree m hm (decide_eq_true ⟨hname.2.1, ?_⟩)
        exact (run_named hrun m hm conversationId actorId key).mpr hname
      rw [created_settles_iff hcards, and_iff_right hname]

end Claims

/-! ### A bot and its price -/

namespace Sample

def price (clock : Time) (messageId : Uuid) : Event :=
  .setCard { context false clock with disappearingSeconds := 1 } 7 1 messageId "price"
    ⟨some (some (text ['5'])), none, none, none⟩

def expired : Database := after (after .empty (price 5 100)) (.sweepExpiredMessages 5000)

end Sample

open Sample in
/-- The sweep takes the card down and leaves its name taken, and the next call shows nothing. -/
theorem swept_card_keeps_name : ¬ ∀ (wordish : CodeUnit → Bool) (db db' : Database) (ctx : Context)
    (actorId conversationId messageId : Uuid) (key : String) (input : CardInput),
    RunWhere (Step wordish) (fun _ _ => True) .empty db →
    setCard wordish db ctx actorId conversationId messageId key input = .ok db' →
    TakesEffect db' actorId conversationId key input ∧
      Repeats wordish db' ctx actorId conversationId key input := by
  intro h
  have hput : Step (fun _ => false) .empty (price 5 100) (after .empty (price 5 100)) :=
    step_after (by decide)
  have hswept : Step (fun _ => false) (after .empty (price 5 100)) (.sweepExpiredMessages 5000)
      expired := step_after rfl
  have hagain : Step (fun _ => false) expired (price 6000 101) (after expired (price 6000 101)) :=
    step_after (by decide)
  obtain ⟨⟨m, hm, -⟩, -⟩ := h _ expired _ _ 7 1 101 "price" _
    (((RunWhere.refl _).tail trivial hput).tail trivial hswept) hagain
  have hnone : ((after expired (price 6000 101)).cardsNamed 1 7 "price").isEmpty = true := by
    decide
  rw [hm] at hnone
  cases hnone

open Sample in
/-- Its first call. -/
theorem setCard_settles_iff_first :
    TakesEffect (after .empty (price 5 100)) 7 1 "price" ⟨some (some (text ['5'])), none, none, none⟩ ∧
      Repeats (fun _ => false) (after .empty (price 5 100))
        { context false 5 with disappearingSeconds := 1 } 7 1 "price"
        ⟨some (some (text ['5'])), none, none, none⟩ := by
  have hput : Step (fun _ => false) .empty (price 5 100) (after .empty (price 5 100)) :=
    step_after (by decide)
  refine (setCard_settles_iff (RunWhere.refl _) hput).mpr (Or.inr ⟨?_, ?_, fun _ => ⟨?_, fun _ => ?_⟩⟩)
  · intro m hm
    cases hm
  · intro embeds he
    cases he
  · decide
  · decide

end Yappy.MessageService
