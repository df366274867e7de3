import Mathlib

/-!
# Markdown and code fences

`packages/shared/src/markdown.ts`. Both passes strip markers from a text and say which stretches of
what is left they stood around. The spans they produce describe the text they leave: sorted,
disjoint, not empty and inside it.
-/
namespace Yappy.Markdown

/-- A UTF-16 code unit, which is what a JavaScript string is made of and what offsets count. -/
abbrev CodeUnit := UInt16

abbrev Text := List CodeUnit

def unit (c : Char) : CodeUnit := c.toNat.toUInt16

def text (cs : List Char) : Text := cs.map unit

/-- `type` of a `MessageEntity`, with what comes with it. -/
inductive Kind
  | mention (userId : ℕ) | mentionAll | mentionRole (roleId : ℕ) | mentionChannel (channelId : ℕ)
  | customEmoji (emojiId : ℕ)
  | link (url : Text)
  | bold | italic | strike | spoiler | code
  | pre (language : Option Text)
  | unknown
  deriving DecidableEq

/-- `MessageEntity`. -/
structure Entity where
  kind : Kind
  offset : Option ℤ
  length : Option ℤ
  deriving DecidableEq

namespace Entity

def span (kind : Kind) (offset length : ℕ) : Entity := ⟨kind, some offset, some length⟩

def start (e : Entity) : ℤ := e.offset.getD 0

def stop (e : Entity) : ℤ := e.start + e.length.getD 0

@[simp] lemma span_start (kind : Kind) (offset length : ℕ) :
    (span kind offset length).start = offset := rfl

@[simp] lemma span_stop (kind : Kind) (offset length : ℕ) :
    (span kind offset length).stop = offset + length := rfl

end Entity

structure Describes (text : Text) (entities : List Entity) : Prop where
  sorted : entities.Pairwise fun a b => a.start ≤ b.start
  disjoint : entities.Pairwise fun a b => a.stop ≤ b.start ∨ b.stop ≤ a.start
  nonempty : ∀ e ∈ entities, e.offset.isSome ∧ e.length.isSome ∧ e.start < e.stop
  within : ∀ e ∈ entities, 0 ≤ e.start ∧ e.stop ≤ text.length

namespace Describes
variable {text more body : Text} {entities : List Entity}

lemma nil (text : Text) : Describes text [] := ⟨.nil, .nil, by simp, by simp⟩

lemma ordered (h : Describes text entities) : entities.Pairwise fun a b => a.stop ≤ b.start := by
  refine (h.sorted.and h.disjoint).imp_of_mem fun {a b} ha hb hab => ?_
  rcases hab.2 with hd | hd
  · exact hd
  · have hb' := (h.nonempty b hb).2.2
    have hle := hab.1
    omega

lemma of_ordered (ho : entities.Pairwise fun a b => a.stop ≤ b.start)
    (hn : ∀ e ∈ entities, e.offset.isSome ∧ e.length.isSome ∧ e.start < e.stop)
    (hw : ∀ e ∈ entities, 0 ≤ e.start ∧ e.stop ≤ text.length) : Describes text entities where
  sorted := ho.imp_of_mem fun {a b} ha _ hab => by
    have hlt := (hn a ha).2.2
    omega
  disjoint := ho.imp Or.inl
  nonempty := hn
  within := hw

lemma append (h : Describes text entities) (more : Text) : Describes (text ++ more) entities where
  sorted := h.sorted
  disjoint := h.disjoint
  nonempty := h.nonempty
  within e he := by
    obtain ⟨h0, hle⟩ := h.within e he
    rw [List.length_append]
    omega

lemma snoc (h : Describes text entities) (kind : Kind) (hb : body ≠ []) :
    Describes (text ++ body) (entities ++ [Entity.span kind text.length body.length]) := by
  have hpos : 0 < body.length := List.length_pos_iff.mpr hb
  refine of_ordered ?_ ?_ ?_
  · refine List.pairwise_append.mpr ⟨h.ordered, List.pairwise_singleton .., fun a ha b hb => ?_⟩
    obtain rfl := List.mem_singleton.mp hb
    exact (h.within a ha).2
  · intro e he
    rcases List.mem_append.mp he with he | he
    · exact h.nonempty e he
    · obtain rfl := List.mem_singleton.mp he
      refine ⟨rfl, rfl, ?_⟩
      rw [Entity.span_start, Entity.span_stop]
      omega
  · intro e he
    rcases List.mem_append.mp he with he | he
    · exact (h.append body).within e he
    · obtain rfl := List.mem_singleton.mp he
      rw [Entity.span_start, Entity.span_stop, List.length_append]
      omega

end Describes

/-! ## Texts -/

/-- `text.startsWith(pattern, i)`. -/
def startsAt (text pattern : Text) (i : ℕ) : Bool := pattern.isPrefixOf (text.drop i)

/-- `text.indexOf(pattern, start)`, for a pattern that is not empty. -/
def indexOf (text pattern : Text) (start : ℕ) : Option ℕ :=
  (List.range' start (text.length - start)).find? (startsAt text pattern)

def slice (text : Text) (i j : ℕ) : Text := (text.take j).drop i

/-- `text[i - 1]`. -/
def preceding (text : Text) (i : ℕ) : Option CodeUnit := if i = 0 then none else text[i - 1]?

/-- `\s`. -/
def isSpace (u : CodeUnit) : Bool :=
  (9 ≤ u && u ≤ 13) || u == 0x20 || u == 0xA0 || u == 0x1680 || (0x2000 ≤ u && u ≤ 0x200A) ||
    u == 0x2028 || u == 0x2029 || u == 0x202F || u == 0x205F || u == 0x3000 || u == 0xFEFF

def trim (text : Text) : Text :=
  ((text.dropWhile isSpace).reverse.dropWhile isSpace).reverse

lemma find_bounds {start len i : ℕ} {p : ℕ → Bool}
    (h : (List.range' start len).find? p = some i) : start ≤ i ∧ i < start + len ∧ p i = true := by
  have hmem := List.mem_range'_1.mp (List.mem_of_find?_eq_some h)
  exact ⟨hmem.1, hmem.2, List.find?_some h⟩

lemma startsAt_length {text pattern : Text} {i : ℕ} (h : startsAt text pattern i = true)
    (hp : pattern ≠ []) : i + pattern.length ≤ text.length := by
  have hlen := (List.isPrefixOf_iff_prefix.mp h).length_le
  have hpos : 0 < pattern.length := List.length_pos_iff.mpr hp
  rw [List.length_drop] at hlen
  omega

lemma indexOf_bounds {text pattern : Text} {start i : ℕ} (hp : pattern ≠ [])
    (h : indexOf text pattern start = some i) :
    start ≤ i ∧ i + pattern.length ≤ text.length := by
  obtain ⟨hle, -, hstarts⟩ := find_bounds h
  exact ⟨hle, startsAt_length hstarts hp⟩

lemma length_slice {text : Text} {i j : ℕ} (h : j ≤ text.length) :
    (slice text i j).length = j - i := by
  rw [slice, List.length_drop, List.length_take, min_eq_left h]

/-! ## Inline markers -/

structure Marker where
  fence : Text
  kind : Kind
  intraword : Bool

/-- `INLINE`: every marker, longest first. -/
def inlineMarkers : List Marker :=
  [⟨text ['`', '`', '`'], .code, true⟩,
   ⟨text ['*', '*'], .bold, true⟩,
   ⟨text ['~', '~'], .strike, true⟩,
   ⟨text ['|', '|'], .spoiler, true⟩,
   ⟨text ['`'], .code, true⟩,
   ⟨text ['_', '_'], .bold, false⟩,
   ⟨text ['_'], .italic, false⟩,
   ⟨text ['*'], .italic, true⟩]

structure Link where
  label : Text
  url : Text

def Link.size (l : Link) : ℕ := l.label.length + l.url.length + 4

def scheme (rest : Text) : Option Text :=
  [text ['h', 't', 't', 'p', 's', ':', '/', '/'], text ['h', 't', 't', 'p', ':', '/', '/']].find?
    (·.isPrefixOf rest)

/-- `LINK.exec(rest)`. -/
def matchLink (rest : Text) : Option Link :=
  match rest with
  | [] => none
  | u :: rest =>
    let label := rest.takeWhile fun u => u ≠ unit ']' ∧ u ≠ unit '\n'
    let rest := rest.drop label.length
    if u ≠ unit '[' ∨ label = [] ∨ !(text [']', '(']).isPrefixOf rest then none
    else
      match scheme (rest.drop 2) with
      | none => none
      | some http =>
        let rest := rest.drop (2 + http.length)
        let address := rest.takeWhile fun u => !isSpace u ∧ u ≠ unit ')'
        if address = [] ∨ (rest.drop address.length).head? ≠ some (unit ')') then none
        else some ⟨label, http ++ address⟩

lemma matchLink_label {rest : Text} {l : Link} (h : matchLink rest = some l) :
    l.label ≠ [] := by
  unfold matchLink at h
  cases rest with
  | nil => cases h
  | cons u rest =>
    dsimp only at h
    split_ifs at h with hlabel
    split at h
    · cases h
    · split_ifs at h
      obtain rfl := Option.some.inj h
      intro he
      exact hlabel (Or.inr (Or.inl he))

lemma matchLink_size {rest : Text} {l : Link} (h : matchLink rest = some l) :
    l.size ≤ rest.length := by
  unfold matchLink at h
  cases rest with
  | nil => cases h
  | cons u rest =>
    dsimp only at h
    split_ifs at h with hlabel
    split at h
    · cases h
    · rename_i http hhttp
      split_ifs at h with haddress
      obtain rfl := Option.some.inj h
      simp only [not_or, not_not] at haddress
      generalize hl : rest.takeWhile (fun u => u ≠ unit ']' ∧ u ≠ unit '\n') = label at *
      generalize ha : ((rest.drop label.length).drop (2 + http.length)).takeWhile
        (fun u => !isSpace u ∧ u ≠ unit ')') = address at *
      have hlast : 0 < (((rest.drop label.length).drop (2 + http.length)).drop address.length).length := by
        apply List.length_pos_iff.mpr
        intro he
        rw [he] at haddress
        cases haddress.2
      rw [List.length_drop, List.length_drop, List.length_drop] at hlast
      simp only [Link.size, List.length_append, List.length_cons]
      omega

section Inline
/- Whether `[\p{L}\p{N}_]` has the code unit. -/
variable (wordish : CodeUnit → Bool) (input : Text)

def opensAt (i : ℕ) (marker : Marker) : Bool :=
  match input[i + marker.fence.length]? with
  | none => false
  | some after =>
    !isSpace after && (marker.intraword || (preceding input i).all fun before => !wordish before)

def closerAt (start : ℕ) (marker : Marker) : Option ℕ :=
  (List.range' start (input.length - start)).find? fun i =>
    startsAt input marker.fence i && ((preceding input i).any fun before => !isSpace before) &&
      (marker.intraword || input[i + marker.fence.length]?.all fun after => !wordish after)

/-- What a marker that opens at `i` stands around, and where it ends. -/
def styledAt (i : ℕ) (marker : Marker) : Option (Kind × Text × ℕ) :=
  if startsAt input marker.fence i && opensAt wordish input i marker then
    match closerAt wordish input (i + marker.fence.length) marker with
    | none => none
    | some close =>
      let body := slice input (i + marker.fence.length) close
      if body = [] then none else some (marker.kind, body, close + marker.fence.length)
  else none

def parseFrom : ℕ → ℕ → Text → List Entity → Text × List Entity
  | 0, _, text, entities => (text, entities)
  | fuel + 1, i, text, entities =>
    if i < input.length then
      match matchLink (input.drop i) with
      | some l =>
        parseFrom fuel (i + l.size) (text ++ l.label)
          (entities ++ [.span (.link l.url) text.length l.label.length])
      | none =>
        match inlineMarkers.findSome? (styledAt wordish input i) with
        | some (kind, body, next) =>
          parseFrom fuel next (text ++ body) (entities ++ [.span kind text.length body.length])
        | none => parseFrom fuel (i + 1) (text ++ input[i]?.toList) entities
    else (text, entities)

/-- Every round gets at least one code unit on, so as many rounds as there are code units will do. -/
def parseMarkdown : Text × List Entity := parseFrom wordish input input.length 0 [] []

end Inline

/-! ## Fenced code blocks -/

def fence : Text := text ['`', '`', '`']

section Fences
variable (input : Text)

def blockKind (language : Text) : Kind := .pre (if language = [] then none else some language)

def blockBody (body : Text) : Text :=
  if body.getLast? = some (unit '\n') then body.dropLast else body

def parseCodeFrom : ℕ → ℕ → Text → List Entity → Text × List Entity
  | 0, i, text, entities => (text ++ input.drop i, entities)
  | fuel + 1, i, text, entities =>
    match indexOf input fence i with
    | none => (text ++ input.drop i, entities)
    | some opening =>
      match indexOf input [unit '\n'] (opening + fence.length) with
      | none => (text ++ input.drop i, entities)
      | some lineEnd =>
        let language := trim (slice input (opening + fence.length) lineEnd)
        -- prose that happened to follow a fence; what was skipped to get here is left out
        if unit ' ' ∈ language then parseCodeFrom fuel (opening + fence.length) text entities
        else
          match indexOf input fence (lineEnd + 1) with
          | none => (text ++ input.drop i, entities)
          | some close =>
            let text := text ++ slice input i opening
            let body := blockBody (slice input (lineEnd + 1) close)
            if body = [] then parseCodeFrom fuel (close + fence.length) text entities
            else
              parseCodeFrom fuel (close + fence.length) (text ++ body)
                (entities ++ [.span (blockKind language) text.length body.length])

def parseCodeBlocks : Text × List Entity := parseCodeFrom input input.length 0 [] []

end Fences

/-! ## What the passes leave -/

/-- What is left of the first `i` code units, and the spans over it. -/
structure Stripped (i : ℕ) (text : Text) (entities : List Entity) : Prop where
  describes : Describes text entities
  length_le : text.length ≤ i
  length_lt : entities ≠ [] → text.length < i

namespace Stripped
variable {input text body : Text} {entities : List Entity} {i j : ℕ}

lemma start : Stripped 0 [] [] := ⟨.nil [], le_rfl, fun h => absurd rfl h⟩

lemma mono (h : Stripped i text entities) (hij : i ≤ j) : Stripped j text entities :=
  ⟨h.describes, h.length_le.trans hij, fun hne => (h.length_lt hne).trans_le hij⟩

lemma plain (h : Stripped i text entities) (hj : i + body.length ≤ j) :
    Stripped j (text ++ body) entities where
  describes := h.describes.append body
  length_le := by
    have hle := h.length_le
    rw [List.length_append]
    omega
  length_lt hne := by
    have hlt := h.length_lt hne
    rw [List.length_append]
    omega

lemma styled (h : Stripped i text entities) (kind : Kind) (hb : body ≠ [])
    (hj : i + body.length < j) :
    Stripped j (text ++ body) (entities ++ [.span kind text.length body.length]) where
  describes := h.describes.snoc kind hb
  length_le := by
    have hle := h.length_le
    rw [List.length_append]
    omega
  length_lt _ := by
    have hle := h.length_le
    rw [List.length_append]
    omega

lemma rest (h : Stripped i text entities) (hi : i ≤ input.length) :
    Stripped input.length (text ++ input.drop i) entities :=
  h.plain (by rw [List.length_drop]; omega)

end Stripped

section Inline
variable {wordish : CodeUnit → Bool} {input : Text}

lemma marker_ne_nil {marker : Marker} (h : marker ∈ inlineMarkers) : marker.fence ≠ [] := by
  revert marker
  decide

lemma marker_kind {marker : Marker} (h : marker ∈ inlineMarkers) (language : Option Text) :
    marker.kind ≠ .pre language := by
  simp only [inlineMarkers, List.mem_cons, List.not_mem_nil, or_false] at h
  rcases h with rfl | rfl | rfl | rfl | rfl | rfl | rfl | rfl
  all_goals exact Kind.noConfusion

lemma styledAt_bounds {i next : ℕ} {marker : Marker} {kind : Kind} {body : Text}
    (hm : marker ∈ inlineMarkers) (h : styledAt wordish input i marker = some (kind, body, next)) :
    body ≠ [] ∧ i + body.length < next ∧ next ≤ input.length ∧ ∀ language, kind ≠ .pre language := by
  have hpos : 0 < marker.fence.length := List.length_pos_iff.mpr (marker_ne_nil hm)
  unfold styledAt at h
  split_ifs at h with hopen
  split at h
  · cases h
  · rename_i close hclose
    obtain ⟨hle, -, hcloses⟩ := find_bounds hclose
    rw [Bool.and_eq_true, Bool.and_eq_true] at hcloses
    have hend := startsAt_length hcloses.1.1 (marker_ne_nil hm)
    dsimp only at h
    split_ifs at h with hbody
    obtain ⟨rfl, rfl, rfl⟩ := Prod.mk.inj (Option.some.inj h) |>.imp id Prod.mk.inj
    refine ⟨hbody, ?_, hend, ?_⟩
    · rw [length_slice (by omega)]
      omega
    · exact marker_kind hm

lemma parseFrom_stripped {fuel i : ℕ} {text : Text} {entities : List Entity}
    (h : Stripped i text entities) (hi : i ≤ input.length) :
    Stripped input.length (parseFrom wordish input fuel i text entities).1
      (parseFrom wordish input fuel i text entities).2 := by
  induction fuel generalizing i text entities with
  | zero => exact h.mono hi
  | succ fuel ih =>
    rw [parseFrom]
    split_ifs with hlt
    · split
      · rename_i l hl
        have hsize := matchLink_size hl
        rw [List.length_drop] at hsize
        refine ih (h.styled _ (matchLink_label hl) ?_) (by omega)
        rw [Link.size]
        omega
      · split
        · rename_i kind body next hs
          obtain ⟨marker, hm, hs⟩ := List.exists_of_findSome?_eq_some hs
          obtain ⟨hb, hn, hle, -⟩ := styledAt_bounds hm hs
          exact ih (h.styled kind hb hn) hle
        · refine ih (h.plain ?_) hlt
          rw [List.getElem?_eq_getElem hlt]
          rfl
    · exact h.mono hi

lemma parseMarkdown_stripped : Stripped input.length (parseMarkdown wordish input).1
    (parseMarkdown wordish input).2 :=
  parseFrom_stripped .start (Nat.zero_le _)

lemma parseFrom_kind {fuel i : ℕ} {text : Text} {entities : List Entity}
    (h : ∀ e ∈ entities, ∀ language, e.kind ≠ .pre language) :
    ∀ e ∈ (parseFrom wordish input fuel i text entities).2, ∀ language, e.kind ≠ .pre language := by
  have hsnoc : ∀ {entities : List Entity} {e : Entity},
      (∀ e ∈ entities, ∀ language, e.kind ≠ .pre language) →
      (∀ language, e.kind ≠ .pre language) →
      ∀ e' ∈ entities ++ [e], ∀ language, e'.kind ≠ .pre language := by
    intro entities e h he e' he'
    rcases List.mem_append.mp he' with he' | he'
    · exact h e' he'
    · obtain rfl := List.mem_singleton.mp he'
      exact he
  induction fuel generalizing i text entities with
  | zero => exact h
  | succ fuel ih =>
    rw [parseFrom]
    split_ifs with hlt
    · split
      · exact ih (hsnoc h fun language => Kind.noConfusion)
      · split
        · rename_i kind body next hs
          obtain ⟨marker, hm, hs⟩ := List.exists_of_findSome?_eq_some hs
          exact ih (hsnoc h (styledAt_bounds hm hs).2.2.2)
        · exact ih h
    · exact h

lemma parseFrom_fuel {fuel i : ℕ} (text : Text) (entities : List Entity)
    (hf : input.length ≤ i + fuel) :
    parseFrom wordish input (fuel + 1) i text entities =
      parseFrom wordish input fuel i text entities := by
  induction fuel generalizing i text entities with
  | zero =>
    conv_lhs => rw [parseFrom, if_neg (by omega)]
    rfl
  | succ fuel ih =>
    rw [parseFrom]
    conv_rhs => rw [parseFrom]
    split_ifs with hlt
    · split
      · rename_i l hl
        have hsize : 0 < l.size := by rw [Link.size]; omega
        exact ih _ _ (by omega)
      · split
        · rename_i kind body next hs
          obtain ⟨marker, hm, hs⟩ := List.exists_of_findSome?_eq_some hs
          have hn := (styledAt_bounds hm hs).2.1
          exact ih _ _ (by omega)
        · exact ih _ _ (by omega)
    · rfl

end Inline

section Fences
variable {input : Text}

lemma fence_ne_nil : fence ≠ [] := by decide

lemma length_blockBody (body : Text) : (blockBody body).length ≤ body.length := by
  unfold blockBody
  split_ifs
  · rw [List.length_dropLast]
    omega
  · rfl

lemma parseCodeFrom_stripped {fuel i : ℕ} {text : Text} {entities : List Entity}
    (h : Stripped i text entities) (hi : i ≤ input.length) :
    Stripped input.length (parseCodeFrom input fuel i text entities).1
      (parseCodeFrom input fuel i text entities).2 := by
  have hfence : fence.length = 3 := rfl
  induction fuel generalizing i text entities with
  | zero => exact h.rest hi
  | succ fuel ih =>
    rw [parseCodeFrom]
    split
    · exact h.rest hi
    · rename_i opening hopening
      obtain ⟨ho, hoend⟩ := indexOf_bounds fence_ne_nil hopening
      split
      · exact h.rest hi
      · rename_i lineEnd hline
        obtain ⟨hl, hlend⟩ := indexOf_bounds (List.cons_ne_nil _ _) hline
        dsimp only
        split_ifs with hlanguage
        · exact ih (h.mono (by omega)) hoend
        · split
          · exact h.rest hi
          · rename_i close hclose
            obtain ⟨hc, hcend⟩ := indexOf_bounds fence_ne_nil hclose
            have hkept : Stripped opening (text ++ slice input i opening) entities := by
              refine h.plain ?_
              rw [length_slice (by omega)]
              omega
            have hbody := length_blockBody (slice input (lineEnd + 1) close)
            rw [length_slice (by omega)] at hbody
            split_ifs with hempty
            · exact ih (hkept.mono (by omega)) hcend
            · exact ih (hkept.styled _ hempty (by omega)) hcend

lemma parseCodeBlocks_stripped :
    Stripped input.length (parseCodeBlocks input).1 (parseCodeBlocks input).2 :=
  parseCodeFrom_stripped .start (Nat.zero_le _)

lemma parseCodeFrom_kind {fuel i : ℕ} {text : Text} {entities : List Entity}
    (h : ∀ e ∈ entities, ∃ language, e.kind = .pre language) :
    ∀ e ∈ (parseCodeFrom input fuel i text entities).2, ∃ language, e.kind = .pre language := by
  induction fuel generalizing i text entities with
  | zero => exact h
  | succ fuel ih =>
    rw [parseCodeFrom]
    split
    · exact h
    · split
      · exact h
      · dsimp only
        split_ifs
        · exact ih h
        · split
          · exact h
          · split_ifs
            · exact ih h
            all_goals
              refine ih fun e he => ?_
              rcases List.mem_append.mp he with he | he
              · exact h e he
              · obtain rfl := List.mem_singleton.mp he
                exact ⟨_, rfl⟩

lemma parseCodeFrom_fuel {fuel i : ℕ} (text : Text) (entities : List Entity)
    (hf : input.length ≤ i + fuel) :
    parseCodeFrom input (fuel + 1) i text entities = parseCodeFrom input fuel i text entities := by
  have hfence : fence.length = 3 := rfl
  induction fuel generalizing i text entities with
  | zero =>
    have hnone : indexOf input fence i = none := by
      cases hs : indexOf input fence i with
      | none => rfl
      | some opening =>
        have hb := indexOf_bounds fence_ne_nil hs
        omega
    conv_lhs => rw [parseCodeFrom, hnone]
    rfl
  | succ fuel ih =>
    rw [parseCodeFrom]
    conv_rhs => rw [parseCodeFrom]
    split
    · rfl
    · rename_i opening hopening
      have ho := indexOf_bounds fence_ne_nil hopening
      split
      · rfl
      · rename_i lineEnd hline
        have hl := indexOf_bounds (List.cons_ne_nil _ _) hline
        dsimp only
        split_ifs
        · exact ih _ _ (by omega)
        · split
          · rfl
          · rename_i close hclose
            have hc := indexOf_bounds fence_ne_nil hclose
            split_ifs
            all_goals exact ih _ _ (by omega)

end Fences

/-! ## The two passes over a message -/

/-- Where each code unit of `original` that survived went, by its index. -/
def survivors : Text → ℕ → Text → ℕ → List (ℕ × ℕ)
  | u :: original, a, v :: stripped, b =>
    if u = v then (a, b) :: survivors original (a + 1) stripped (b + 1)
    else survivors original (a + 1) (v :: stripped) b
  | _, _, _, _ => []

def offsetMap (original stripped : Text) (i : ℤ) : Option ℕ :=
  if i = original.length then some stripped.length
  else if 0 ≤ i then (survivors original 0 stripped 0).lookup i.toNat else none

/-- Where a span stands once the fences are gone, unless it pointed into one. -/
def shift (original stripped : Text) (e : Entity) : Option Entity :=
  match e.offset, e.length with
  | some offset, some length =>
    match offsetMap original stripped offset, offsetMap original stripped (offset + length) with
    | some first, some last => if last ≤ first then none else some (.span e.kind first (last - first))
    | _, _ => none
  | _, _ => none

/-- Where an entity without an integer offset goes is up to the engine, and makes no difference: it
is dropped wherever it is. -/
def before (a b : Entity) : Bool :=
  match a.offset, b.offset with
  | some x, some y => x ≤ y
  | none, some _ => false
  | _, none => true

/-- Sorting by `a.offset - b.offset`, which is stable. -/
def sortByOffset (entities : List Entity) : List Entity :=
  entities.insertionSort fun a b => before a b = true

def codeBlocksToEntities (content : Option Text) (existing : Option (List Entity)) :
    Option (Text × List Entity) :=
  match content with
  | none => none
  | some content =>
    if (indexOf content fence 0).isNone then none
    else
      let parsed := parseCodeBlocks content
      if parsed.2 = [] then none
      else some (parsed.1,
        sortByOffset ((existing.getD []).filterMap (shift content parsed.1) ++ parsed.2))

def markdownToEntities (wordish : CodeUnit → Bool) (content : Option Text)
    (existing : Option (List Entity)) : Option (Text × List Entity) :=
  match content with
  | none => none
  | some content =>
    if content = [] ∨ existing.getD [] ≠ [] then none
    else
      let parsed := parseMarkdown wordish content
      if parsed.2 = [] then none else some parsed

end Yappy.Markdown
