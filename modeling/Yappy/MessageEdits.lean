import Yappy.CodeBlockOffsets
import Yappy.MessageCards

/-!
# Editing and sending

An edit stores its content and spans as they are given, where a send has taken the markdown and the fences out
first. The two agree where there is nothing to take out and the edit says which spans it has.
-/
namespace Yappy.MessageService

open Markdown
open Permissions (Uuid)

/-- Neither pass of a send has anything to take out: there is no fenced block with something in it, and on a
board, where no spans are given, no markdown. -/
def Unmarked (wordish : CodeUnit → Bool) (isBoard : Bool) (content : Option Text)
    (entities : Option (List Entity)) : Prop :=
  ∀ text, content = some text → Segment.allSpans 0 (segments text) = [] ∧
    (isBoard = true → entities.getD [] = [] → (parseMarkdown wordish text).2 = [])

section Passes
variable {wordish : CodeUnit → Bool} {ctx : Context} {content : Option Text}
  {entities existing : Option (List Entity)} {text : Text}

lemma codeBlocksToEntities_eq_none :
    codeBlocksToEntities (some text) existing = none ↔ Segment.allSpans 0 (segments text) = [] := by
  constructor
  · intro h
    by_contra hblock
    rw [codeBlocksToEntities, if_neg (by rw [Option.isNone_iff_eq_none]; exact fence_of_blocks hblock)] at h
    simp only [parseCodeBlocks_segments, if_neg hblock] at h
    cases h
  · intro h
    cases hfenced : codeBlocksToEntities (some text) existing with
    | none => rfl
    | some fenced =>
      rw [codeBlocksToEntities] at hfenced
      simp only [parseCodeBlocks_segments, if_pos h, ite_self] at hfenced
      cases hfenced

lemma markdownToEntities_eq_none :
    markdownToEntities wordish (some text) existing = none ↔
      (existing.getD [] = [] → (parseMarkdown wordish text).2 = []) := by
  unfold markdownToEntities
  dsimp only
  by_cases hskip : text = [] ∨ existing.getD [] ≠ []
  · rw [if_pos hskip]
    refine iff_of_true rfl fun hnone => ?_
    rcases hskip with rfl | hsome
    · rfl
    · exact absurd hnone hsome
  · rw [if_neg hskip]
    rw [not_or, not_not] at hskip
    by_cases hempty : (parseMarkdown wordish text).2 = []
    · rw [if_pos hempty]
      exact iff_of_true rfl fun _ => hempty
    · rw [if_neg hempty]
      exact iff_of_false nofun fun h => hempty (h hskip.2)

lemma fencePass_content {body : Body} (h : body.content = some text) :
    ∃ t, (fencePass body).content = some t ∧ t.length ≤ text.length ∧
      (t.length = text.length → codeBlocksToEntities body.content body.entities = none) := by
  unfold fencePass
  cases hfenced : codeBlocksToEntities body.content body.entities with
  | none => exact ⟨text, h, le_rfl, fun _ => rfl⟩
  | some fenced =>
    obtain ⟨original, horiginal, hlt, -⟩ := codeBlocksToEntities_eq_some hfenced
    obtain rfl := Option.some.inj (h.symm.trans horiginal)
    exact ⟨fenced.1, rfl, hlt.le, fun heq => absurd heq hlt.ne⟩

lemma passes_of_unmarked (h : Unmarked wordish ctx.isBoard content entities) :
    fencePass (boardPass wordish ctx ⟨content, entities⟩) = ⟨content, entities⟩ := by
  cases content with
  | none =>
    rw [boardPass_none]
    rfl
  | some text =>
    obtain ⟨hblocks, hmarkdown⟩ := h text rfl
    have hboard : boardPass wordish ctx ⟨some text, entities⟩ = ⟨some text, entities⟩ := by
      unfold boardPass
      split_ifs with hboard
      · rw [markdownToEntities_eq_none.mpr (hmarkdown hboard)]
      · rfl
    rw [hboard, fencePass, codeBlocksToEntities_eq_none.mpr hblocks]

lemma unmarked_of_passes
    (h : (fencePass (boardPass wordish ctx ⟨content, entities⟩)).content = content) :
    Unmarked wordish ctx.isBoard content entities := by
  rintro text rfl
  -- a board pass that had something to do has shortened the text for good
  have hmarkdown : ctx.isBoard = true → markdownToEntities wordish (some text) entities = none := by
    intro hboard
    cases hparsed : markdownToEntities wordish (some text) entities with
    | none => rfl
    | some parsed =>
      obtain ⟨original, horiginal, -, hlt, -⟩ := markdownToEntities_eq_some hparsed
      obtain rfl := Option.some.inj horiginal
      have hbody : (boardPass wordish ctx ⟨some text, entities⟩).content = some parsed.1 := by
        rw [boardPass, if_pos hboard]
        simp only [hparsed]
      obtain ⟨t, ht, hle, -⟩ := fencePass_content hbody
      obtain rfl := Option.some.inj (ht.symm.trans h)
      omega
  have hbody : boardPass wordish ctx ⟨some text, entities⟩ = ⟨some text, entities⟩ := by
    unfold boardPass
    split_ifs with hboard
    · rw [hmarkdown hboard]
    · rfl
  rw [hbody] at h
  obtain ⟨t, ht, -, hnone⟩ := @fencePass_content text ⟨some text, entities⟩ rfl
  obtain rfl := Option.some.inj (ht.symm.trans h)
  exact ⟨codeBlocksToEntities_eq_none.mp (hnone rfl),
    fun hboard => markdownToEntities_eq_none.mp (hmarkdown hboard)⟩

end Passes

/-! ## The two ways to a text -/

section Edits
variable {wordish : CodeUnit → Bool} {db sentTo editedIn : Database} {ctx : Context}
  {actorId messageId newId : Uuid} {input : SendInput} {embeds : Option (List Embed)}
  {components : Option (List Component)} {row sent edited : Message}

lemma sent_message
    (h : send wordish db ctx actorId row.conversationId newId input = .ok (sentTo, sent, true)) :
    sent = input.message wordish ctx actorId row.conversationId newId := by
  rcases send_eq_ok h with ⟨hheld, -⟩ | ⟨-, hsent, -⟩
  · unfold send at h
    rw [hheld] at h
    cases h
  · exact hsent

lemma edited_message {patch : Patch} (hrow : db.messages.find messageId = some row)
    (h : edit db ctx actorId messageId patch = .ok editedIn)
    (hedited : editedIn.messages.find messageId = some edited) :
    edited.content = patch.text row ∧ edited.entities = patch.spans row := by
  obtain ⟨row', hrow', -, rfl⟩ := edit_eq_ok.mp h
  obtain rfl := Option.some.inj (hrow.symm.trans hrow')
  rw [Database.update, KeyedTable.find_update, hrow, Option.map_some,
    if_pos (decide_eq_true (KeyedTable.find_key hrow))] at hedited
  obtain rfl := Option.some.inj hedited
  exact ⟨rfl, rfl⟩

/-- An edit that is accepted stores what sending the same content and spans would store in the conversation
exactly when a send takes nothing out of them, and spans are given or the message had none. -/
theorem edit_as_sent_iff (hrow : db.messages.find messageId = some row)
    (hsend : send wordish db ctx actorId row.conversationId newId input = .ok (sentTo, sent, true))
    (hedit : edit db ctx actorId messageId ⟨some input.content, input.entities, embeds, components⟩ =
      .ok editedIn)
    (hedited : editedIn.messages.find messageId = some edited) :
    edited.content = sent.content ∧ edited.entities = sent.entities ↔
      Unmarked wordish ctx.isBoard input.content input.entities ∧
        (input.entities = none → row.entities = none) := by
  obtain ⟨hcontent, hentities⟩ := edited_message hrow hedit hedited
  rw [hcontent, hentities, sent_message hsend]
  change input.content = (fencePass (boardPass wordish ctx ⟨input.content, input.entities⟩)).content ∧
    _ = sanitiseEntities (fencePass (boardPass wordish ctx ⟨input.content, input.entities⟩)).content
      (fencePass (boardPass wordish ctx ⟨input.content, input.entities⟩)).entities ↔ _
  constructor
  · rintro ⟨hsame, hspans⟩
    have hunmarked := unmarked_of_passes hsame.symm
    rw [passes_of_unmarked hunmarked] at hspans
    refine ⟨hunmarked, fun hnone => ?_⟩
    rw [hnone] at hspans
    exact hspans
  · rintro ⟨hunmarked, hspans⟩
    rw [passes_of_unmarked hunmarked]
    refine ⟨rfl, ?_⟩
    cases hgiven : input.entities with
    | some entities => rfl
    | none => exact hspans hgiven

end Edits

/-! ### A bot and its prompt -/

namespace Sample

def posted : Database := after .empty prompt

def note (content : Text) : SendInput :=
  ⟨.client "second", .text, some content, none, some [], false, none, none, none, none⟩

def sending (content : Text) : Except Permissions.AppError (Database × Message × Bool) :=
  send (fun _ => false) posted (context false 6) 7 1 101 (note content)

def editing (content : Text) : Except Permissions.AppError Database :=
  edit posted (context false 6) 7 100 ⟨some (note content).content, (note content).entities, none, none⟩

lemma ok_of_map {α β : Type} {result : Except Permissions.AppError α} {f : α → β} {b : β}
    (h : result.toOption.map f = some b) : ∃ a, result = .ok a ∧ f a = b := by
  cases result with
  | error e => cases h
  | ok a => exact ⟨a, rfl, Option.some.inj h⟩

end Sample

open Sample in
/-- A code block that is sent becomes one, and one that is edited in stays as it was typed. -/
theorem fence_stays_when_edited : ¬ ∀ (wordish : CodeUnit → Bool) (db sentTo editedIn : Database)
    (ctx : Context) (actorId messageId newId : Uuid) (input : SendInput) (embeds : Option (List Embed))
    (components : Option (List Component)) (row sent edited : Message),
    db.messages.find messageId = some row →
    send wordish db ctx actorId row.conversationId newId input = .ok (sentTo, sent, true) →
    edit db ctx actorId messageId ⟨some input.content, input.entities, embeds, components⟩ =
      .ok editedIn →
    editedIn.messages.find messageId = some edited →
    edited.content = sent.content ∧ edited.entities = sent.entities := by
  intro h
  let block : Text := text ['`', '`', '`', '\n', 'x', '\n', '`', '`', '`']
  have hposted : (posted.messages.find 100).map Message.conversationId = some 1 := by decide
  obtain ⟨row, hrow, hconversation⟩ := Option.map_eq_some_iff.mp hposted
  have hsend : (sending block).toOption.map (fun r => (r.2.1.content, r.2.2)) =
      some (some (text ['x']), true) := by decide
  obtain ⟨⟨sentTo, sent, created⟩, hsent, hcreated⟩ := ok_of_map hsend
  obtain ⟨hcontent, rfl⟩ := Prod.mk.inj hcreated
  have hedit : (editing block).toOption.map (fun db => (db.messages.find 100).map Message.content) =
      some (some (some block)) := by decide
  obtain ⟨editedIn, hediting, hfind⟩ := ok_of_map hedit
  obtain ⟨edited, hedited, hstays⟩ := Option.map_eq_some_iff.mp hfind
  have hsame := (h (fun _ => false) posted sentTo editedIn (context false 6) 7 100 101 (note block) none none
    row sent edited hrow (by rw [hconversation]; exact hsent) hediting hedited).1
  rw [hstays, hcontent] at hsame
  revert hsame
  decide

open Sample in
/-- A word has nothing to take out. -/
theorem edit_as_sent_iff_word : ∃ (sentTo editedIn : Database) (row sent edited : Message),
    posted.messages.find 100 = some row ∧ sending (text ['o', 'k']) = .ok (sentTo, sent, true) ∧
      editing (text ['o', 'k']) = .ok editedIn ∧ editedIn.messages.find 100 = some edited ∧
      (edited.content = sent.content ∧ edited.entities = sent.entities ↔
        Unmarked (fun _ => false) false (some (text ['o', 'k'])) (some []) ∧
          (some ([] : List Entity) = none → row.entities = none)) := by
  have hposted : (posted.messages.find 100).map Message.conversationId = some 1 := by decide
  obtain ⟨row, hrow, hconversation⟩ := Option.map_eq_some_iff.mp hposted
  have hsend : (sending (text ['o', 'k'])).toOption.map (fun r => r.2.2) = some true := by decide
  obtain ⟨⟨sentTo, sent, created⟩, hsent, rfl⟩ := ok_of_map hsend
  have hedit : (editing (text ['o', 'k'])).toOption.map
      (fun db => (db.messages.find 100).isSome) = some true := by decide
  obtain ⟨editedIn, hediting, hfind⟩ := ok_of_map hedit
  obtain ⟨edited, hedited⟩ := Option.isSome_iff_exists.mp hfind
  refine ⟨sentTo, editedIn, row, sent, edited, hrow, hsent, hediting, hedited, ?_⟩
  have hsent' : send (fun _ => false) posted (context false 6) 7 row.conversationId 101
      (note (text ['o', 'k'])) = .ok (sentTo, sent, true) := by
    rw [hconversation]
    exact hsent
  exact edit_as_sent_iff hrow hsent' hediting hedited

end Yappy.MessageService
