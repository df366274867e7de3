import Yappy.MarkdownPieces

/-!
# What fenced blocks are cut out of

`parseCodeBlocks` cuts a text into what it copies, the blocks it recognises, and what it has passed over when
it refuses a fence because prose follows it. Putting the fences back around the spans gives the text back
unless something was passed over.
-/
namespace Yappy.Markdown

inductive Segment
  | copied (t : Text)
  | skipped (t : Text)
  /-- The rest of the opening line, and what is between that line and the closing fence. -/
  | block (info body : Text)

def fenced (language body : Text) : Text :=
  fence ++ (language ++ (unit '\n' :: (body ++ (unit '\n' :: fence))))

namespace Segment

def source : Segment → Text
  | copied t => t
  | skipped t => t
  | block info body => fence ++ (info ++ (unit '\n' :: (body ++ fence)))

def shown : Segment → Text
  | copied t => t
  | skipped _ => []
  | block _ body => blockBody body

def spans (offset : ℕ) : Segment → List Entity
  | block info body =>
    if blockBody body = [] then [] else [.span (blockKind (trim info)) offset (blockBody body).length]
  | _ => []

def normal : Segment → Text
  | copied t => t
  | skipped t => t
  | block info body => if blockBody body = [] then [] else fenced (trim info) (blockBody body)

def outside : Segment → Text
  | copied t => t
  | skipped t => t
  | block _ _ => []

def restored : Segment → Text
  | copied t => t
  | skipped _ => []
  | block info body => (block info body).normal

end Segment

/-- The scan of `parseCodeBlocks` from `i` on. -/
def segmentsFrom (input : Text) : ℕ → ℕ → List Segment
  | 0, i => [.copied (input.drop i)]
  | fuel + 1, i =>
    match indexOf input fence i with
    | none => [.copied (input.drop i)]
    | some opening =>
      match indexOf input [unit '\n'] (opening + fence.length) with
      | none => [.copied (input.drop i)]
      | some lineEnd =>
        let info := slice input (opening + fence.length) lineEnd
        if unit ' ' ∈ trim info then
          .skipped (slice input i (opening + fence.length)) :: segmentsFrom input fuel (opening + fence.length)
        else
          match indexOf input fence (lineEnd + 1) with
          | none => [.copied (input.drop i)]
          | some close =>
            .copied (slice input i opening) :: .block info (slice input (lineEnd + 1) close) ::
              segmentsFrom input fuel (close + fence.length)

def segments (input : Text) : List Segment := segmentsFrom input input.length 0

namespace Segment

def allSpans (offset : ℕ) : List Segment → List Entity
  | [] => []
  | s :: segments => s.spans offset ++ allSpans (offset + s.shown.length) segments

end Segment

def Kind.language : Kind → Text
  | .pre (some language) => language
  | _ => []

def restoreFrom (text : Text) : ℕ → List Entity → Text
  | i, [] => text.drop i
  | i, e :: entities =>
    slice text i e.start.toNat ++
      (fenced e.kind.language (slice text e.start.toNat e.stop.toNat) ++
        restoreFrom text e.stop.toNat entities)

/-- Nothing is lost of an input but fences: putting them back around the spans gives it back, up to how the
fences stood, and what was outside the blocks is there, in order. -/
structure Lossless (input : Text) : Prop where
  restores : restoreFrom (parseCodeBlocks input).1 0 (parseCodeBlocks input).2 =
    (segments input).flatMap Segment.normal
  keeps : ((segments input).flatMap Segment.outside).Sublist (parseCodeBlocks input).1

lemma blockKind_language (language : Text) : (blockKind language).language = language := by
  unfold blockKind
  split_ifs with h
  · exact h.symm
  · rfl

/-! ## Prose after a fence -/

/-- The fence found first from `i` on has prose on the rest of its line. -/
def ProseAfter (input : Text) (i : ℕ) : Prop :=
  ∃ opening lineEnd, indexOf input fence i = some opening ∧
    indexOf input [unit '\n'] (opening + fence.length) = some lineEnd ∧
    unit ' ' ∈ trim (slice input (opening + fence.length) lineEnd)

/-- A block is found from `i` on, and `j` is where it ends. -/
def BlockEnds (input : Text) (i j : ℕ) : Prop :=
  ∃ opening lineEnd close, indexOf input fence i = some opening ∧
    indexOf input [unit '\n'] (opening + fence.length) = some lineEnd ∧
    unit ' ' ∉ trim (slice input (opening + fence.length) lineEnd) ∧
    indexOf input fence (lineEnd + 1) = some close ∧ j = close + fence.length

/-- Block after block from the start of an input on, no fence has prose on its line. -/
def NoProse (input : Text) : Prop :=
  ∀ i, Relation.ReflTransGen (BlockEnds input) 0 i → ¬ ProseAfter input i

/-! ## One round of the scan -/

section Scan
variable {input : Text}

def Ends (input : Text) (i : ℕ) : Prop :=
  ¬ ProseAfter input i ∧ (∀ j, ¬ BlockEnds input i j) ∧
  ∀ fuel, segmentsFrom input (fuel + 1) i = [.copied (input.drop i)] ∧
    ∀ text entities, parseCodeFrom input (fuel + 1) i text entities = (text ++ input.drop i, entities)

def Refuses (input : Text) (i j : ℕ) : Prop :=
  ProseAfter input i ∧ i + fence.length ≤ j ∧ j ≤ input.length ∧
  ∀ fuel, segmentsFrom input (fuel + 1) i = .skipped (slice input i j) :: segmentsFrom input fuel j ∧
    ∀ text entities, parseCodeFrom input (fuel + 1) i text entities =
      parseCodeFrom input fuel j text entities

def Takes (input : Text) (i j : ℕ) (copied info body : Text) : Prop :=
  ¬ ProseAfter input i ∧ BlockEnds input i j ∧ i < j ∧
  input.drop i = copied ++ ((Segment.block info body).source ++ input.drop j) ∧
  ∀ fuel,
    segmentsFrom input (fuel + 1) i = .copied copied :: .block info body :: segmentsFrom input fuel j ∧
    ∀ text entities, parseCodeFrom input (fuel + 1) i text entities =
      parseCodeFrom input fuel j (text ++ copied ++ blockBody body)
        (entities ++ (Segment.block info body).spans (text ++ copied).length)

lemma drop_of_indexOf {pattern : Text} {start i : ℕ} (h : indexOf input pattern start = some i) :
    input.drop start = slice input start i ++ (pattern ++ input.drop (i + pattern.length)) := by
  rw [drop_eq_slice (find_bounds h).1, drop_of_startsAt (find_bounds h).2.2]

lemma scan_cases (input : Text) (i : ℕ) :
    Ends input i ∨ (∃ j, Refuses input i j) ∨
      ∃ j copied info body, Takes input i j copied info body := by
  cases hopening : indexOf input fence i with
  | none =>
    left
    refine ⟨?_, ?_, fun fuel => ⟨by simp only [segmentsFrom, hopening], fun text entities => by
      simp only [parseCodeFrom, hopening]⟩⟩
    · rintro ⟨opening, lineEnd, h, -⟩
      cases hopening.symm.trans h
    · rintro j ⟨opening, lineEnd, close, h, -⟩
      cases hopening.symm.trans h
  | some opening =>
    have ho := (find_bounds hopening).1
    cases hline : indexOf input [unit '\n'] (opening + fence.length) with
    | none =>
      left
      refine ⟨?_, ?_, fun fuel => ⟨by simp only [segmentsFrom, hopening, hline], fun text entities => by
        simp only [parseCodeFrom, hopening, hline]⟩⟩
      · rintro ⟨opening', lineEnd, h, h', -⟩
        obtain rfl := Option.some.inj (hopening.symm.trans h)
        cases hline.symm.trans h'
      · rintro j ⟨opening', lineEnd, close, h, h', -⟩
        obtain rfl := Option.some.inj (hopening.symm.trans h)
        cases hline.symm.trans h'
    | some lineEnd =>
      by_cases hprose : unit ' ' ∈ trim (slice input (opening + fence.length) lineEnd)
      · right; left
        refine ⟨opening + fence.length, ⟨opening, lineEnd, hopening, hline, hprose⟩, by omega,
          (indexOf_bounds fence_ne_nil hopening).2, fun fuel => ⟨?_, ?_⟩⟩
        · simp only [segmentsFrom, hopening, hline, if_pos hprose]
        · intro text entities
          simp only [parseCodeFrom, hopening, hline, if_pos hprose]
      · have hno : ¬ ProseAfter input i := by
          rintro ⟨opening', lineEnd', h, h', hmem⟩
          obtain rfl := Option.some.inj (hopening.symm.trans h)
          obtain rfl := Option.some.inj (hline.symm.trans h')
          exact hprose hmem
        cases hclose : indexOf input fence (lineEnd + 1) with
        | none =>
          left
          refine ⟨hno, ?_, fun fuel => ⟨?_, ?_⟩⟩
          · rintro j ⟨opening', lineEnd', close, h, h', -, h'', -⟩
            obtain rfl := Option.some.inj (hopening.symm.trans h)
            obtain rfl := Option.some.inj (hline.symm.trans h')
            cases hclose.symm.trans h''
          · simp only [segmentsFrom, hopening, hline, if_neg hprose, hclose]
          · intro text entities
            simp only [parseCodeFrom, hopening, hline, if_neg hprose, hclose]
        | some close =>
          right; right
          have hl := (find_bounds hline).1
          have hc := (find_bounds hclose).1
          refine ⟨close + fence.length, slice input i opening, slice input (opening + fence.length) lineEnd,
            slice input (lineEnd + 1) close, hno,
            ⟨opening, lineEnd, close, hopening, hline, hprose, hclose, rfl⟩, by omega, ?_,
            fun fuel => ⟨?_, ?_⟩⟩
          · have hbody := drop_of_indexOf hclose
            have hinfo := drop_of_indexOf hline
            rw [List.length_singleton, hbody] at hinfo
            rw [drop_of_indexOf hopening, hinfo, Segment.source]
            simp only [List.append_assoc, List.cons_append, List.nil_append]
          · simp only [segmentsFrom, hopening, hline, if_neg hprose, hclose]
          · intro text entities
            simp only [parseCodeFrom, hopening, hline, if_neg hprose, hclose, Segment.spans]
            split_ifs with hempty
            · rw [hempty, List.append_nil, List.append_nil]
            · rfl

end Scan

/-! ## The whole scan -/

section Runs
variable {input : Text}

lemma BlockEnds.functional {i j j' : ℕ} (h : BlockEnds input i j) (h' : BlockEnds input i j') : j = j' := by
  obtain ⟨opening, lineEnd, close, ho, hl, -, hc, rfl⟩ := h
  obtain ⟨opening', lineEnd', close', ho', hl', -, hc', rfl⟩ := h'
  obtain rfl := Option.some.inj (ho.symm.trans ho')
  obtain rfl := Option.some.inj (hl.symm.trans hl')
  obtain rfl := Option.some.inj (hc.symm.trans hc')
  rfl

lemma ProseAfter.length_lt {i : ℕ} (h : ProseAfter input i) : i + fence.length ≤ input.length := by
  obtain ⟨opening, lineEnd, ho, -⟩ := h
  have hb := indexOf_bounds fence_ne_nil ho
  omega

lemma segmentsFrom_source (fuel i : ℕ) :
    (segmentsFrom input fuel i).flatMap Segment.source = input.drop i := by
  induction fuel generalizing i with
  | zero => exact List.append_nil _
  | succ fuel ih =>
    rcases scan_cases input i with ⟨-, -, h⟩ | ⟨j, -, hj, -, h⟩ |
      ⟨j, copied, info, body, -, -, -, hsource, h⟩
    · rw [(h fuel).1]
      exact List.append_nil _
    · rw [(h fuel).1, List.flatMap_cons, ih]
      exact (drop_eq_slice (by omega)).symm
    · rw [(h fuel).1, List.flatMap_cons, List.flatMap_cons, ih, hsource]
      rfl

lemma parseCodeFrom_segments (fuel i : ℕ) (text : Text) (entities : List Entity) :
    parseCodeFrom input fuel i text entities =
      (text ++ (segmentsFrom input fuel i).flatMap Segment.shown,
        entities ++ Segment.allSpans text.length (segmentsFrom input fuel i)) := by
  have hlast (text t : Text) (entities : List Entity) : (text ++ t, entities) =
      (text ++ [Segment.copied t].flatMap Segment.shown,
        entities ++ Segment.allSpans text.length [Segment.copied t]) := by
    rw [List.flatMap_singleton]
    exact congrArg (Prod.mk _) (List.append_nil entities).symm
  induction fuel generalizing i text entities with
  | zero => exact hlast ..
  | succ fuel ih =>
    rcases scan_cases input i with ⟨-, -, h⟩ | ⟨j, -, -, -, h⟩ |
      ⟨j, copied, info, body, -, -, -, -, h⟩
    · rw [(h fuel).1, (h fuel).2]
      exact hlast ..
    · rw [(h fuel).1, (h fuel).2, ih]
      rfl
    · rw [(h fuel).1, (h fuel).2, ih, List.flatMap_cons, List.flatMap_cons, Segment.allSpans,
        Segment.allSpans]
      simp only [Segment.shown, Segment.spans, List.length_append, List.append_assoc, List.nil_append,
        Nat.add_assoc]

lemma skipped_iff {fuel i : ℕ} (hf : input.length ≤ i + fuel) :
    (∃ t, Segment.skipped t ∈ segmentsFrom input fuel i) ↔
      ∃ j, Relation.ReflTransGen (BlockEnds input) i j ∧ ProseAfter input j := by
  have hfence : fence.length = 3 := rfl
  -- from where a round ends the scan
  have hends : ∀ {i}, ¬ ProseAfter input i → (∀ j, ¬ BlockEnds input i j) →
      ¬ ∃ j, Relation.ReflTransGen (BlockEnds input) i j ∧ ProseAfter input j := by
    rintro i hprose hblock ⟨j, hreach, hj⟩
    rcases Relation.ReflTransGen.cases_head hreach with rfl | ⟨k, hk, -⟩
    · exact hprose hj
    · exact hblock k hk
  induction fuel generalizing i with
  | zero =>
    refine iff_of_false ?_ (hends (fun h => ?_) fun j h => ?_)
    · rintro ⟨t, ht⟩
      cases List.mem_singleton.mp ht
    · have hlt := h.length_lt
      omega
    · obtain ⟨opening, lineEnd, close, ho, -⟩ := h
      have hb := indexOf_bounds fence_ne_nil ho
      omega
  | succ fuel ih =>
    rcases scan_cases input i with ⟨hprose, hblock, h⟩ | ⟨j, hprose, -, -, h⟩ |
      ⟨j, copied, info, body, hprose, hblock, hlt, -, h⟩
    · refine iff_of_false ?_ (hends hprose hblock)
      rintro ⟨t, ht⟩
      rw [(h fuel).1] at ht
      cases List.mem_singleton.mp ht
    · rw [(h fuel).1]
      exact iff_of_true ⟨_, List.mem_cons_self⟩ ⟨i, .refl, hprose⟩
    · have hmem : (∃ t, Segment.skipped t ∈ segmentsFrom input (fuel + 1) i) ↔
          ∃ t, Segment.skipped t ∈ segmentsFrom input fuel j := by
        simp only [(h fuel).1, List.mem_cons, reduceCtorEq, false_or]
      have hnext : input.length ≤ j + fuel := by omega
      refine hmem.trans ((ih hnext).trans ?_)
      constructor
      · rintro ⟨k, hreach, hk⟩
        exact ⟨k, .head hblock hreach, hk⟩
      · rintro ⟨k, hreach, hk⟩
        rcases Relation.ReflTransGen.cases_head hreach with rfl | ⟨j', hj', hreach⟩
        · exact absurd hk hprose
        · obtain rfl := hblock.functional hj'
          exact ⟨k, hreach, hk⟩

lemma skipped_ne_nil {fuel i : ℕ} {t : Text} (h : Segment.skipped t ∈ segmentsFrom input fuel i) :
    t ≠ [] := by
  have hfence : fence.length = 3 := rfl
  induction fuel generalizing i with
  | zero => cases List.mem_singleton.mp h
  | succ fuel ih =>
    rcases scan_cases input i with ⟨-, -, hr⟩ | ⟨j, -, hj, hend, hr⟩ |
      ⟨j, copied, info, body, -, -, -, -, hr⟩
    · rw [(hr fuel).1] at h
      cases List.mem_singleton.mp h
    · rw [(hr fuel).1] at h
      rcases List.mem_cons.mp h with h | h
      · obtain rfl := Segment.skipped.inj h
        apply List.ne_nil_of_length_pos
        rw [length_slice hend]
        omega
      · exact ih h
    · simp only [(hr fuel).1, List.mem_cons, reduceCtorEq, false_or] at h
      exact ih h

end Runs

/-! ## Putting the fences back -/

lemma eq_of_sum_eq {α : Type*} {f g : α → ℕ} {l : List α} (hle : ∀ a ∈ l, f a ≤ g a)
    (h : (l.map f).sum = (l.map g).sum) {a : α} (ha : a ∈ l) : f a = g a := by
  by_contra hne
  exact (List.sum_lt_sum f g hle ⟨a, ha, lt_of_le_of_ne (hle a ha) hne⟩).ne h

namespace Segment

lemma length_restored_le (s : Segment) : s.restored.length ≤ s.normal.length := by
  cases s with
  | copied t => exact le_rfl
  | skipped t => exact Nat.zero_le _
  | block info body => exact le_rfl

lemma restored_eq_normal {segments : List Segment} (h : ∀ t, skipped t ∉ segments) :
    segments.flatMap restored = segments.flatMap normal := by
  refine List.flatMap_congr fun s hs => ?_
  cases s with
  | copied t => rfl
  | skipped t => exact absurd hs (h t)
  | block info body => rfl

lemma outside_sublist {segments : List Segment} (h : ∀ t, skipped t ∉ segments) :
    (segments.flatMap outside).Sublist (segments.flatMap shown) := by
  induction segments with
  | nil => exact .slnil
  | cons s segments ih =>
    rw [List.flatMap_cons, List.flatMap_cons]
    refine List.Sublist.append ?_ (ih fun t ht => h t (List.mem_cons_of_mem _ ht))
    cases s with
    | copied t => exact .refl _
    | skipped t => exact absurd List.mem_cons_self (h t)
    | block info body => exact List.nil_sublist _

lemma length_eq_of_flatMap_eq {segments : List Segment}
    (h : segments.flatMap restored = segments.flatMap normal) {s : Segment} (hs : s ∈ segments) :
    s.restored.length = s.normal.length := by
  have hlen := congrArg List.length h
  rw [List.length_flatMap, List.length_flatMap] at hlen
  exact eq_of_sum_eq (fun s _ => s.length_restored_le) hlen hs

end Segment

lemma restoreFrom_span (before copied body rest : Text) (language : Text) (entities : List Entity) :
    restoreFrom (before ++ (copied ++ (body ++ rest))) before.length
        (.span (blockKind language) (before.length + copied.length) body.length :: entities) =
      copied ++ (fenced language body ++ restoreFrom (before ++ (copied ++ (body ++ rest)))
        (before.length + copied.length + body.length) entities) := by
  have hcopied : slice (before ++ (copied ++ (body ++ rest))) before.length
      (before.length + copied.length) = copied := slice_middle ..
  have hbody : slice (before ++ (copied ++ (body ++ rest))) (before.length + copied.length)
      (before.length + copied.length + body.length) = body := by
    rw [← List.append_assoc before, ← List.length_append]
    exact slice_middle ..
  have hend : (Entity.span (blockKind language) (before.length + copied.length) body.length).stop.toNat =
      before.length + copied.length + body.length := by
    rw [Entity.span_stop, ← Nat.cast_add, Int.toNat_natCast]
  have hkind : (Entity.span (blockKind language) (before.length + copied.length) body.length).kind.language =
      language := blockKind_language language
  rw [restoreFrom, hend, hkind, Entity.span_start, Int.toNat_natCast, hcopied, hbody]

lemma restoreFrom_allSpans (segments : List Segment) (before copied : Text) :
    restoreFrom (before ++ (copied ++ segments.flatMap Segment.shown)) before.length
        (Segment.allSpans (before.length + copied.length) segments) =
      copied ++ segments.flatMap Segment.restored := by
  induction segments generalizing before copied with
  | nil =>
    rw [Segment.allSpans, restoreFrom, List.drop_left]
    rfl
  | cons s segments ih =>
    -- a segment with no span over it is copied with what is before it
    have hnone (hspans : s.spans (before.length + copied.length) = []) (hsame : s.restored = s.shown) :
        restoreFrom (before ++ (copied ++ (s :: segments).flatMap Segment.shown)) before.length
          (Segment.allSpans (before.length + copied.length) (s :: segments)) =
        copied ++ (s :: segments).flatMap Segment.restored := by
      have h := ih before (copied ++ s.shown)
      rw [List.length_append, ← Nat.add_assoc, List.append_assoc, List.append_assoc] at h
      rw [Segment.allSpans, hspans, List.flatMap_cons, List.flatMap_cons, hsame]
      exact h
    cases s with
    | copied t => exact hnone rfl rfl
    | skipped t => exact hnone rfl rfl
    | block info body =>
      by_cases hempty : blockBody body = []
      · refine hnone (if_pos hempty) ?_
        rw [Segment.restored, Segment.normal, if_pos hempty, Segment.shown, hempty]
      · have h := ih (before ++ (copied ++ blockBody body)) []
        rw [List.length_nil, Nat.add_zero, List.length_append, List.length_append, ← Nat.add_assoc,
          List.append_assoc, List.append_assoc, List.nil_append, List.nil_append] at h
        rw [Segment.allSpans, Segment.spans, if_neg hempty, List.flatMap_cons, List.flatMap_cons,
          Segment.shown, List.singleton_append, restoreFrom_span, h, Segment.restored, Segment.normal,
          if_neg hempty]

/-! ## When nothing is lost -/

lemma segments_source (input : Text) : (segments input).flatMap Segment.source = input :=
  segmentsFrom_source input.length 0

lemma parseCodeBlocks_segments (input : Text) :
    parseCodeBlocks input =
      ((segments input).flatMap Segment.shown, Segment.allSpans 0 (segments input)) :=
  parseCodeFrom_segments input.length 0 [] []

lemma noProse_iff (input : Text) : NoProse input ↔ ∀ t, Segment.skipped t ∉ segments input := by
  have h : (∃ t, Segment.skipped t ∈ segments input) ↔
      ∃ j, Relation.ReflTransGen (BlockEnds input) 0 j ∧ ProseAfter input j :=
    skipped_iff (Nat.le_add_left ..)
  rw [← not_iff_not, NoProse, not_forall, not_forall]
  simpa only [not_not, not_forall, exists_prop] using h.symm

lemma restoreFrom_parseCodeBlocks (input : Text) :
    restoreFrom (parseCodeBlocks input).1 0 (parseCodeBlocks input).2 =
      (segments input).flatMap Segment.restored := by
  rw [parseCodeBlocks_segments]
  exact restoreFrom_allSpans (segments input) [] []

/-- The segments are the input cut up, and nothing of it is lost exactly when no fence that is come to, block
after block, has prose on its line. -/
theorem lossless_iff (input : Text) :
    (segments input).flatMap Segment.source = input ∧ (Lossless input ↔ NoProse input) := by
  refine ⟨segments_source input, ?_⟩
  rw [noProse_iff]
  constructor
  · rintro ⟨hrestores, -⟩ t ht
    rw [restoreFrom_parseCodeBlocks] at hrestores
    have hlen := Segment.length_eq_of_flatMap_eq hrestores ht
    exact skipped_ne_nil ht (List.eq_nil_of_length_eq_zero hlen.symm)
  · intro h
    refine ⟨?_, ?_⟩
    · rw [restoreFrom_parseCodeBlocks]
      exact Segment.restored_eq_normal h
    · rw [parseCodeBlocks_segments]
      exact Segment.outside_sublist h

/-- What is before a fence that prose follows is gone. -/
theorem sentence_lost :
    ¬ Lossless (text ['s', 'e', 'e', ' ', '`', '`', '`', ' ', 'a', ' ', 'b', '\n', '`', '`', '`', '\n', 'x',
      '\n', '`', '`', '`']) := by
  rintro ⟨-, hkeeps⟩
  revert hkeeps
  decide

end Yappy.Markdown
