import Yappy.FencedSegments
import Yappy.GreedyWalk

/-!
# Where the spans of a message go once its code blocks are cut out

`offsetMap` matches the content and the text that is left of it along each other. A span is kept, over what it
was over, when every code unit of it and the one that follows is matched, which need not be where those that
are left stood.
-/
namespace Yappy.Markdown

open Yappy.Walk

section Map
variable {original stripped : Text}

lemma lookup_survivors_lt {a b p : ℕ} (h : p < a) : (survivors original a stripped b).lookup p = none := by
  induction original generalizing a b stripped with
  | nil => rfl
  | cons u original ih =>
    cases stripped with
    | nil => rfl
    | cons v stripped =>
      rw [survivors]
      split_ifs
      · rw [List.lookup_cons, beq_false_of_ne (by omega)]
        exact ih (by omega)
      · exact ih (by omega)

lemma lookup_survivors (a b p : ℕ) :
    (survivors original a stripped b).lookup (a + p) =
      if walked original stripped (p + 1) = walked original stripped p + 1 then
        some (b + walked original stripped p)
      else none := by
  induction original generalizing a b stripped p with
  | nil => rfl
  | cons u original ih =>
    cases stripped with
    | nil => rfl
    | cons v stripped =>
      rw [survivors]
      by_cases huv : u = v
      · rw [if_pos huv]
        cases p with
        | zero => simp [walked_cons, huv]
        | succ p =>
          rw [List.lookup_cons, beq_false_of_ne (by omega), walked_cons, walked_cons, if_pos huv, if_pos huv]
          have h := @ih stripped (a + 1) (b + 1) p
          rw [Nat.add_right_comm a 1 p, Nat.add_assoc a p 1] at h
          rw [h]
          simp only [Nat.add_right_cancel_iff]
          rw [Nat.add_right_comm b, Nat.add_assoc b]
      · rw [if_neg huv]
        cases p with
        | zero =>
          rw [lookup_survivors_lt (by omega), walked_cons, if_neg huv, walked_zero, walked_zero,
            if_neg (by omega)]
        | succ p =>
          rw [walked_cons, walked_cons, if_neg huv, if_neg huv]
          have h := @ih (v :: stripped) (a + 1) b p
          rwa [Nat.add_right_comm a 1 p, Nat.add_assoc a p 1] at h

lemma offsetMap_of_lands {p : ℕ} (h : Lands original stripped p) :
    offsetMap original stripped p = some (walked original stripped p) := by
  have hlt := lands_lt h
  have hfound := @lookup_survivors original stripped 0 0 p
  rw [Nat.zero_add, Nat.zero_add, if_pos (lands_iff.mp h)] at hfound
  rw [offsetMap, if_neg (by omega), if_pos (by omega), Int.toNat_natCast, hfound]

lemma offsetMap_end (h : stripped.Sublist original) :
    offsetMap original stripped original.length = some (walked original stripped original.length) := by
  rw [offsetMap, if_pos rfl, walked_length h]

lemma offsetMap_eq_some {p q : ℕ} (hsub : stripped.Sublist original)
    (h : offsetMap original stripped p = some q) :
    q = walked original stripped p ∧ (p = original.length ∨ Lands original stripped p) := by
  by_cases hend : p = original.length
  · rw [hend, offsetMap_end hsub] at h
    exact ⟨by rw [hend, Option.some.inj h], .inl hend⟩
  · have hfound := @lookup_survivors original stripped 0 0 p
    rw [Nat.zero_add, Nat.zero_add] at hfound
    rw [offsetMap, if_neg (by omega), if_pos (by omega), Int.toNat_natCast, hfound] at h
    split_ifs at h with hlands
    exact ⟨(Option.some.inj h).symm, .inr (lands_iff.mpr hlands)⟩

lemma getElem?_slice (t : Text) (i j n : ℕ) :
    (slice t i j)[n]? = if i + n < j then t[i + n]? else none := by
  rw [slice, List.getElem?_drop, List.getElem?_take]

lemma slice_of_lands {p l : ℕ} (h : ∀ q, p ≤ q → q < p + l → Lands original stripped q) :
    slice stripped (walked original stripped p) (walked original stripped p + l) =
      slice original p (p + l) := by
  apply List.ext_getElem?
  intro n
  rw [getElem?_slice, getElem?_slice]
  by_cases hn : n < l
  · rw [if_pos (by omega), if_pos (by omega)]
    have hbefore : walked original stripped (p + n) = walked original stripped p + n :=
      (walked_add_eq_iff n).mpr fun q hq hlt => h q hq (by omega)
    obtain ⟨u, hu, hu'⟩ := getElem_of_lands (h (p + n) (by omega) (by omega))
    rw [← hbefore, hu, hu']
  · rw [if_neg (by omega), if_neg (by omega)]

end Map

/-! ## Spans -/

def left (content : Text) : Text := (segments content).flatMap Segment.shown

/-- Whether each code unit is taken away as part of a fence: its marks, its line, or the newline before it. -/
def Segment.fences : Segment → List Bool
  | copied t => List.replicate t.length false
  | skipped t => List.replicate (t.length - fence.length) false ++ List.replicate fence.length true
  | block info body => List.replicate (fence.length + info.length + 1) true ++
      (List.replicate (blockBody body).length false ++
        List.replicate (body.length - (blockBody body).length + fence.length) true)

/-- An entity of a content, over none of what its fences take away. -/
structure Clear (content : Text) (e : Entity) : Prop where
  integral : e.offset.isSome ∧ e.length.isSome
  nonempty : e.start < e.stop
  within : 0 ≤ e.start ∧ e.stop ≤ content.length
  clear : ∀ p : ℕ, e.start ≤ p → p < e.stop →
    ((segments content).flatMap Segment.fences)[p]? = some false

/-- The same entity, over the same characters of another text. -/
structure Follows (content text : Text) (e moved : Entity) : Prop where
  kind : moved.kind = e.kind
  covers : slice text moved.start.toNat moved.stop.toNat = slice content e.start.toNat e.stop.toNat

/-- Every entity is kept beside the blocks, over what it was over. -/
def Kept (content : Text) (existing : List Entity) : Prop :=
  ∃ text entities moved, codeBlocksToEntities (some content) (some existing) = some (text, entities) ∧
    List.Forall₂ (Follows content text) existing moved ∧
    entities.Perm (moved ++ Segment.allSpans 0 (segments content))

/-- Every code unit of an entity is matched, and the one that follows, unless the content ends there. -/
def Matched (content : Text) (e : Entity) : Prop :=
  (∀ p : ℕ, e.start ≤ p → p < e.stop → Lands content (left content) p) ∧
    (e.stop = content.length ∨ Lands content (left content) e.stop.toNat)

section Spans
variable {content : Text} {existing : List Entity} {e moved : Entity}

lemma Segment.shown_sublist (s : Segment) : s.shown.Sublist s.source := by
  cases s with
  | copied t => exact .refl _
  | skipped t => exact List.nil_sublist _
  | block info body =>
    have hbody : (blockBody body).Sublist body := by
      unfold blockBody
      split_ifs
      · exact List.dropLast_sublist _
      · exact .refl _
    have hline : body.Sublist (unit '\n' :: (body ++ fence)) := (List.sublist_append_left body fence).cons _
    refine (hbody.trans hline).trans ?_
    exact (List.sublist_append_right info _).trans (List.sublist_append_right fence _)

lemma left_sublist (content : Text) : (left content).Sublist content := by
  have h : ∀ segments : List Segment,
      (segments.flatMap Segment.shown).Sublist (segments.flatMap Segment.source) := by
    intro segments
    induction segments with
    | nil => exact .slnil
    | cons s segments ih =>
      rw [List.flatMap_cons, List.flatMap_cons]
      exact s.shown_sublist.append ih
  have hall := h (segments content)
  rwa [segments_source] at hall

lemma Clear.exists_span (h : Clear content e) :
    ∃ kind offset length, e = .span kind offset length ∧ 0 < length ∧
      offset + length ≤ content.length := by
  obtain ⟨kind, _ | offset, _ | length⟩ := e
  · cases h.integral.1
  · cases h.integral.1
  · cases h.integral.2
  have hstart : 0 ≤ offset := h.within.1
  have hlt : offset < offset + length := h.nonempty
  have hle : offset + length ≤ content.length := h.within.2
  refine ⟨kind, offset.toNat, length.toNat, ?_, by omega, by omega⟩
  rw [Entity.span, Int.toNat_of_nonneg hstart, Int.toNat_of_nonneg (by omega)]

lemma shift_span {kind : Kind} {offset length : ℕ}
    (h : shift content (left content) (.span kind offset length) = some moved) :
    (slice (left content) moved.start.toNat moved.stop.toNat).length ≤ length ∧
      ((slice (left content) moved.start.toNat moved.stop.toNat).length = length →
        Matched content (.span kind offset length)) := by
  have hsub := left_sublist content
  simp only [shift, Entity.span, ← Nat.cast_add] at h
  split at h
  · rename_i first last hfirst hlast
    split_ifs at h with hle
    obtain rfl := Option.some.inj h
    obtain ⟨rfl, -⟩ := offsetMap_eq_some hsub hfirst
    obtain ⟨rfl, hend⟩ := offsetMap_eq_some hsub hlast
    have hadd := @walked_add_le _ _ content (left content) offset length
    have hlen := @walked_le_length _ _ content (left content) (offset + length)
    have hcount : (slice (left content) (walked content (left content) offset)
        (walked content (left content) (offset + length))).length =
        walked content (left content) (offset + length) - walked content (left content) offset :=
      length_slice hlen
    have hstop : (walked content (left content) offset : ℤ) +
        ((walked content (left content) (offset + length) - walked content (left content) offset : ℕ) : ℤ) =
        (walked content (left content) (offset + length) : ℕ) := by omega
    simp only [Entity.start, Entity.stop, Option.getD_some, hstop, Int.toNat_natCast, hcount]
    refine ⟨by omega, fun heq => ⟨fun p hp hlt => ?_, ?_⟩⟩
    · rw [Entity.span_start] at hp
      rw [Entity.span_stop] at hlt
      have hadd : walked content (left content) (offset + length) =
          walked content (left content) offset + length := by omega
      exact (walked_add_eq_iff length).mp hadd p (by omega) (by omega)
    · rw [Entity.span_stop, ← Nat.cast_add, Int.toNat_natCast]
      exact hend.imp_left fun hend => by rw [hend]
  · cases h

lemma shift_of_matched {kind : Kind} {offset length : ℕ} (hlength : 0 < length)
    (h : Matched content (.span kind offset length)) :
    ∃ moved, shift content (left content) (.span kind offset length) = some moved ∧
      Follows content (left content) (.span kind offset length) moved := by
  have hstop : (Entity.span kind offset length).stop = (offset + length : ℕ) := by
    rw [Entity.span_stop, Nat.cast_add]
  have hlands : ∀ q, offset ≤ q → q < offset + length → Lands content (left content) q :=
    fun q hq hlt => h.1 q (by rw [Entity.span_start]; omega) (by rw [hstop]; omega)
  have hadd := (walked_add_eq_iff length).mpr hlands
  have hfirst := offsetMap_of_lands (hlands offset le_rfl (by omega))
  have hlast : offsetMap content (left content) (offset + length : ℕ) =
      some (walked content (left content) (offset + length)) := by
    rcases h.2 with hend | hend
    · rw [hstop, Nat.cast_inj] at hend
      rw [hend]
      exact offsetMap_end (left_sublist content)
    · rw [hstop, Int.toNat_natCast] at hend
      exact offsetMap_of_lands hend
  refine ⟨.span kind (walked content (left content) offset) length, ?_, rfl, ?_⟩
  · rw [Nat.cast_add] at hlast
    simp only [shift, Entity.span, hfirst, hlast, hadd]
    rw [if_neg (by omega), Nat.add_sub_cancel_left]
  · rw [Entity.span_start, Entity.span_stop, Entity.span_start, hstop, ← Nat.cast_add, Int.toNat_natCast,
      Int.toNat_natCast, Int.toNat_natCast, Int.toNat_natCast]
    exact slice_of_lands hlands

lemma fence_of_blocks (hblock : Segment.allSpans 0 (segments content) ≠ []) :
    indexOf content fence 0 ≠ none := by
  intro hnone
  have hnil : (parseCodeBlocks content).2 = [] := by
    rw [parseCodeBlocks]
    cases content.length with
    | zero => rfl
    | succ n => simp only [parseCodeFrom, hnone]
  rw [parseCodeBlocks_segments] at hnil
  exact hblock hnil

lemma codeBlocksToEntities_blocks (hblock : Segment.allSpans 0 (segments content) ≠ [])
    (existing : Option (List Entity)) :
    codeBlocksToEntities (some content) existing =
      some (left content, sortByOffset ((existing.getD []).filterMap (shift content (left content)) ++
        Segment.allSpans 0 (segments content))) := by
  rw [codeBlocksToEntities, if_neg (by rw [Option.isNone_iff_eq_none]; exact fence_of_blocks hblock)]
  simp only [parseCodeBlocks_segments, if_neg hblock]
  rfl

end Spans

/-! ## When every span is kept -/

lemma sum_filterMap {α : Type*} (f : α → Option α) (weight : α → ℕ) (l : List α) :
    ((l.filterMap f).map weight).sum = (l.map fun a => ((f a).map weight).getD 0).sum := by
  induction l with
  | nil => rfl
  | cons a l ih =>
    rw [List.filterMap_cons, List.map_cons, List.sum_cons, ← ih]
    cases f a with
    | none => exact (Nat.zero_add _).symm
    | some b => rw [List.map_cons, List.sum_cons]; rfl

section Claims
variable {content : Text} {existing : List Entity} {e : Entity}

def covered (text : Text) (e : Entity) : ℕ := (slice text e.start.toNat e.stop.toNat).length

lemma moved_covers (h : Clear content e) :
    ((shift content (left content) e).map (covered (left content))).getD 0 ≤ covered content e ∧
      (((shift content (left content) e).map (covered (left content))).getD 0 = covered content e →
        Matched content e) := by
  obtain ⟨kind, offset, length, rfl, hlength, hle⟩ := h.exists_span
  have hcovered : covered content (.span kind offset length) = length := by
    rw [covered, Entity.span_start, Entity.span_stop, ← Nat.cast_add, Int.toNat_natCast, Int.toNat_natCast,
      length_slice hle, Nat.add_sub_cancel_left]
  rw [hcovered]
  cases hshift : shift content (left content) (.span kind offset length) with
  | none => exact ⟨Nat.zero_le _, fun hzero => absurd hzero hlength.ne⟩
  | some moved => exact shift_span hshift

lemma map_covered {text : Text} {moved : List Entity}
    (h : List.Forall₂ (Follows content text) existing moved) :
    moved.map (covered text) = existing.map (covered content) := by
  induction h with
  | nil => rfl
  | cons hfollows _ ih => rw [List.map_cons, List.map_cons, ih, covered, covered, hfollows.covers]

lemma forall₂_filterMap {existing : List Entity}
    (h : ∀ e ∈ existing, ∃ moved, shift content (left content) e = some moved ∧
      Follows content (left content) e moved) :
    List.Forall₂ (Follows content (left content)) existing
      (existing.filterMap (shift content (left content))) := by
  induction existing with
  | nil => exact .nil
  | cons e existing ih =>
    obtain ⟨hhead, htail⟩ := List.forall_mem_cons.mp h
    obtain ⟨moved, hmoved, hfollows⟩ := hhead
    rw [List.filterMap_cons_some hmoved]
    exact .cons hfollows (ih htail)

/-- Where a block is recognised, spans that are clear of the fences are all kept, over what they were over,
exactly when each is matched along the content to its end and one code unit more. -/
theorem kept_iff (hblock : Segment.allSpans 0 (segments content) ≠ [])
    (hclear : ∀ e ∈ existing, Clear content e) :
    Kept content existing ↔ ∀ e ∈ existing, Matched content e := by
  constructor
  · rintro ⟨text, entities, moved, hresult, hfollows, hperm⟩ e he
    rw [codeBlocksToEntities_blocks hblock] at hresult
    obtain ⟨rfl, rfl⟩ := Prod.mk.inj (Option.some.inj hresult)
    -- what could be moved covers as much as the entities do
    have hmoved : (existing.filterMap (shift content (left content))).Perm moved :=
      (List.perm_append_right_iff _).mp ((List.perm_insertionSort _ _).symm.trans hperm)
    have hsum := (hmoved.map (covered (left content))).sum_eq
    rw [sum_filterMap, map_covered hfollows] at hsum
    exact (moved_covers (hclear e he)).2
      (eq_of_sum_eq (fun e he => (moved_covers (hclear e he)).1) hsum he)
  · intro hmatched
    refine ⟨_, _, _, codeBlocksToEntities_blocks hblock existing, forall₂_filterMap fun e he => ?_,
      List.perm_insertionSort _ _⟩
    obtain ⟨kind, offset, length, rfl, hlength, -⟩ := (hclear e he).exists_span
    exact shift_of_matched hlength (hmatched _ he)

/-- A mention with a space after it, before a block. -/
theorem kept_iff_before_space :
    Kept (text ['@', 's', 'a', 'm', ' ', '`', '`', '`', '\n', 'x', '\n', '`', '`', '`'])
      [.span (.mention 1) 0 4] ↔
      ∀ e ∈ [Entity.span (.mention 1) 0 4],
        Matched (text ['@', 's', 'a', 'm', ' ', '`', '`', '`', '\n', 'x', '\n', '`', '`', '`']) e := by
  refine kept_iff (by decide) fun e he => ?_
  obtain rfl := List.mem_singleton.mp he
  refine ⟨by decide, by decide, by decide, fun p _ hlt => ?_⟩
  have hlt : p < 4 := by
    rw [Entity.span_stop] at hlt
    omega
  interval_cases p
  all_goals decide

/-- A mention that ends at a fence. -/
theorem mention_at_fence_dropped :
    Segment.allSpans 0
        (segments (text ['@', 's', 'a', 'm', '`', '`', '`', '\n', 'x', '\n', '`', '`', '`'])) ≠ [] ∧
      Clear (text ['@', 's', 'a', 'm', '`', '`', '`', '\n', 'x', '\n', '`', '`', '`'])
        (.span (.mention 1) 0 4) ∧
      ¬ Kept (text ['@', 's', 'a', 'm', '`', '`', '`', '\n', 'x', '\n', '`', '`', '`'])
        [.span (.mention 1) 0 4] := by
  refine ⟨by decide, ⟨by decide, by decide, by decide, fun p _ hlt => ?_⟩, ?_⟩
  · have hlt : p < 4 := by
      rw [Entity.span_stop] at hlt
      omega
    interval_cases p
    all_goals decide
  · rintro ⟨text, entities, moved, hresult, hfollows, hperm⟩
    have hone := congrArg (Option.map fun r => r.2.length) hresult
    have hlength := hperm.length_eq
    rw [List.length_append, ← hfollows.length_eq] at hlength
    rw [Option.map_some, hlength] at hone
    revert hone
    decide

end Claims

end Yappy.Markdown
