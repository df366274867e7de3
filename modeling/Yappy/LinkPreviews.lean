import Yappy.InternetAddress

/-!
# Link previews

`fetchLinkPreview` of `apps/worker/src/jobs/links.ts` with `storePreviewImage`, and the check of addresses before
them. What `new URL` makes of a text is a parameter. DNS, the servers and their redirects, the page and the cache
answer as they like, each time anew.
-/
namespace Yappy.LinkPreviews

open InternetAddress

/-- `Number` of a text of digits, the only one that an address has between its dots. -/
def number (s : Text) : Option ℕ := if s.all isDigit then some (Nat.ofDigitChars 10 s 0) else none

/-- `isPrivateAddress`, for what is not IPv6. -/
def isPrivateV4 (addr : Text) : Bool :=
  match (addr.splitOn '.').map number with
  | [some a, some b, some _, some _] =>
    a = 0 ∨ a = 10 ∨ a = 127 ∨ (a = 169 ∧ b = 254) ∨ (a = 172 ∧ 16 ≤ b ∧ b ≤ 31) ∨ (a = 192 ∧ b = 168) ∨
      (a = 100 ∧ 64 ≤ b ∧ b ≤ 127) ∨ 224 ≤ a
  | _ => true

def toLowerCase (s : Text) : Text := s.map Char.toLower

def isPrivateAddress (addr : Text) : Bool :=
  if isIP addr = 6 then
    if _ : "::ffff:".toList <+: toLowerCase addr then isPrivateAddress ((toLowerCase addr).drop 7)
    else
      toLowerCase addr = "::1".toList ∨ toLowerCase addr = "::".toList ∨ "fc".toList <+: toLowerCase addr ∨
        "fd".toList <+: toLowerCase addr ∨ "fe80".toList <+: toLowerCase addr
  else isPrivateV4 addr
termination_by addr.length
decreasing_by
  rename_i h
  have hlength : 7 ≤ (toLowerCase addr).length := h.length_le
  have hsame : (toLowerCase addr).length = addr.length := List.length_map ..
  rw [List.length_drop]
  omega

/-! ## Fetches -/

/-- The host of a URL; a domain is no address. -/
inductive Host
  | v4 (a b c d : Fin 256)
  | v6 (words : Fin 8 → Fin 65536)
  | domain (name : Text) (h : isIP name = 0)

def Host.hostname : Host → Text
  | .v4 a b c d => v4Text a b c d
  | .v6 words => '[' :: v6Text (List.ofFn words) ++ [']']
  | .domain name _ => name

structure URL where
  protocol : String
  username : String
  password : String
  host : Host

structure Env where
  /-- `new URL(raw)` -/
  parse : String → Option URL
  /-- `new URL(image, page).toString()` -/
  resolve : String → String → Option String
  /-- `storageConfigured && env.S3_BUCKET_PUBLIC` -/
  storageConfigured : Bool

structure Exchange where
  /-- The answer to the `lookup` of the check. -/
  answer : Option (List Address)
  /-- The addresses that the host has when `fetch` connects. -/
  connects : List Address
  redirects : List (Host × List Address)

/-- `lookup`: a text in brackets is no name. -/
def lookup (host : Host) (answer : Option (List Address)) : Option (List Address) :=
  match host with
  | .domain _ _ => answer
  | _ => none

def tried (host : Host) (addresses : List Address) : List Address :=
  match host with
  | .v4 a b c d => [.v4 a b c d]
  | .v6 words => [.v6 words]
  | .domain _ _ => addresses

structure Fetch where
  url : URL
  exchange : Exchange

def Fetch.connections (f : Fetch) : List Address :=
  tried f.url.host f.exchange.connects ++ f.exchange.redirects.flatMap fun hop => tried hop.1 hop.2

def truthy : Option String → Option String := Option.filter fun s => s ≠ ""

structure OEmbed where
  title : Option String
  image : Option String
  imageFirst : Option String

structure Meta where
  title : Option String
  image : Option String

structure World where
  cached : Bool
  page : Exchange
  oembed : Option OEmbed
  /-- `extractMeta` of the page, if one came. -/
  html : Option Meta
  first : Exchange
  second : Exchange
  kept : Bool

section Worker
variable (env : Env)

def isSafeUrl (answer : Option (List Address)) (raw : String) : Bool :=
  match env.parse raw with
  | none => false
  | some url =>
    if url.protocol ≠ "http:" ∧ url.protocol ≠ "https:" then false
    else if url.username ≠ "" ∨ url.password ≠ "" then false
    else
      let host := url.host.hostname
      if host = "localhost".toList ∨ ".localhost".toList <:+ host ∨ ".internal".toList <:+ host then false
      else if isIP host ≠ 0 then !isPrivateAddress host
      else
        match lookup url.host answer with
        | some resolved => resolved.all fun a => !isPrivateAddress a.text
        | none => false

def fetch (x : Exchange) (raw : String) : List Fetch := (env.parse raw).toList.map fun url => ⟨url, x⟩

def storePreviewImage (x : Exchange) (pageUrl : String) (imageUrl : Option String) : List Fetch :=
  match truthy imageUrl with
  | none => []
  | some image =>
    if env.storageConfigured then
      match env.resolve image pageUrl with
      | some resolved => if isSafeUrl env x.answer resolved then fetch env x resolved else []
      | none => []
    else []

/-- The two pictures of an oEmbed answer: the second one only when the first has come to nothing. -/
def storeImages (w : World) (url : String) (oembed : OEmbed) : List Fetch :=
  let first := storePreviewImage env w.first url oembed.imageFirst
  if first ≠ [] ∧ w.kept then first else first ++ storePreviewImage env w.second url oembed.image

def scrape (w : World) (url : String) : List Fetch :=
  fetch env w.page url ++
    match w.html with
    | some html => if (truthy html.title).isSome then storePreviewImage env w.first url html.image else []
    | none => []

def preview (w : World) (url : String) : List Fetch :=
  if w.cached then []
  else if isSafeUrl env w.page.answer url then
    match w.oembed with
    | some oembed => if (truthy oembed.title).isSome then storeImages env w url oembed else scrape env w url
    | none => scrape env w url
  else []

/-- `fetchLinkPreview`, with the fetches it makes. -/
def fetchLinkPreview (worlds : ℕ → World) (urls : List String) : List Fetch :=
  (urls.take 3).zipIdx.flatMap fun x => preview env (worlds x.2) x.1

end Worker

/-! ## What holds -/

/-- Link-local beyond fe80::/16, and multicast. -/
def Overlooked : Address → Prop
  | .v4 _ _ _ _ => False
  | .v6 words => (LinkLocal words ∧ words 0 ≠ 0xfe80) ∨ MulticastV6 words

/-- A domain has an address that the check has seen, and that is none of the overlooked ones, or one that is not
private anyway; and so is every address that a redirect leads to. -/
structure Fetch.Outside (f : Fetch) : Prop where
  first : ∀ name h, f.url.host = .domain name h → ∀ a ∈ f.exchange.connects,
    ((∃ answer ∈ f.exchange.answer, a ∈ answer) ∧ ¬ Overlooked a) ∨ ¬ a.Private
  redirects : ∀ hop ∈ f.exchange.redirects, ∀ a ∈ tried hop.1 hop.2, ¬ a.Private

/-! ## The check of an address -/

lemma number_dec (n : Fin 256) : number (dec n) = some n.val := by
  revert n
  decide +kernel

lemma isPrivateV4_of_private {a b : Fin 256} (c d : Fin 256) (h : PrivateV4 a b) :
    isPrivateV4 (v4Text a b c d) = true := by
  unfold isPrivateV4
  rw [v4Text_split]
  simp only [List.map_cons, List.map_nil, number_dec]
  refine decide_eq_true ?_
  unfold PrivateV4 at h
  simp only [Fin.ext_iff, Fin.le_def] at h
  have h127 : (127 : Fin 256).val = 127 := rfl
  omega

lemma isPrivateAddress_v4 {a b : Fin 256} (c d : Fin 256) (h : PrivateV4 a b) :
    isPrivateAddress (v4Text a b c d) = true := by
  rw [isPrivateAddress]
  rw [isIP_v4Text, if_neg (by decide)]
  exact isPrivateV4_of_private c d h

lemma isPrivateV4_of_head {c : Char} (hdot : c ≠ '.') (hdigit : isDigit c = false) (t : Text) :
    isPrivateV4 (c :: t) = true := by
  obtain ⟨g, groups, hs⟩ := splitOn_cons hdot t
  have hnone : number (c :: g) = none := by
    unfold number
    rw [List.all_cons, hdigit]
    rfl
  unfold isPrivateV4
  rw [hs, List.map_cons, hnone]

lemma isPrivateAddress_of_prefix {c : Char} (hdot : c ≠ '.') (hdigit : isDigit c = false) {t : Text}
    (hlower : "fc".toList <+: toLowerCase (c :: t) ∨ "fd".toList <+: toLowerCase (c :: t) ∨
      "fe80".toList <+: toLowerCase (c :: t))
    (hmapped : ¬ "::ffff:".toList <+: toLowerCase (c :: t)) : isPrivateAddress (c :: t) = true := by
  rw [isPrivateAddress]
  split_ifs
  · exact decide_eq_true (Or.inr (Or.inr hlower))
  · exact isPrivateV4_of_head hdot hdigit t

lemma toLowerCase_append (s t : Text) : toLowerCase (s ++ t) = toLowerCase s ++ toLowerCase t := List.map_append ..

lemma isPrivateAddress_head {w : Fin 65536} {words : List (Fin 65536)} (hw : w ≠ 0) {c : Char} {t : Text}
    (hhex : hex w = c :: t) (hdot : c ≠ '.') (hdigit : isDigit c = false) (hcolon : c.toLower ≠ ':')
    (hlower : "fc".toList <+: toLowerCase (hex w) ∨ "fd".toList <+: toLowerCase (hex w) ∨
      "fe80".toList <+: toLowerCase (hex w)) : isPrivateAddress (v6Text (w :: words)) = true := by
  obtain ⟨t', ht'⟩ := @v6Text_head w words hw
  have htext : v6Text (w :: words) = c :: (t ++ t') := by rw [ht', hhex, List.cons_append]
  have hmore : ∀ p : Text, p <+: toLowerCase (hex w) → p <+: toLowerCase (c :: (t ++ t')) := by
    intro p hp
    rw [← List.cons_append, ← hhex, toLowerCase_append]
    exact hp.trans (List.prefix_append ..)
  rw [htext]
  refine isPrivateAddress_of_prefix hdot hdigit (hlower.imp (hmore _) (Or.imp (hmore _) (hmore _))) fun hmapped => ?_
  exact hcolon (List.cons_prefix_cons.mp hmapped).1.symm

lemma isPrivateAddress_uniqueLocal {w : Fin 65536} {words : List (Fin 65536)} (h : 0xfc00 ≤ w) (h' : w ≤ 0xfdff) :
    isPrivateAddress (v6Text (w :: words)) = true := by
  have hle : 64512 ≤ w.val := h
  have hge : w.val ≤ 65023 := h'
  have hhex := hex_of_le (w := w) (by omega)
  have hw : w ≠ 0 := by
    rintro rfl
    exact absurd hle (by decide)
  have hhigh : w.val / 256 = 252 ∨ w.val / 256 = 253 := by omega
  rcases hhigh with hhigh | hhigh
  · rw [hhigh, show Nat.toDigits 16 252 = ['f', 'c'] by decide] at hhex
    refine isPrivateAddress_head hw hhex (by decide) (by decide) (by decide) (Or.inl ?_)
    rw [hhex, toLowerCase_append]
    exact List.prefix_append ..
  · rw [hhigh, show Nat.toDigits 16 253 = ['f', 'd'] by decide] at hhex
    refine isPrivateAddress_head hw hhex (by decide) (by decide) (by decide) (Or.inr (Or.inl ?_))
    rw [hhex, toLowerCase_append]
    exact List.prefix_append ..

lemma isPrivateAddress_linkLocal {w : Fin 65536} {words : List (Fin 65536)} (h : w = 0xfe80) :
    isPrivateAddress (v6Text (w :: words)) = true := by
  subst h
  refine isPrivateAddress_head (c := 'f') (t := ['e', '8', '0']) (by decide) (by decide) (by decide) (by decide)
    (by decide) (Or.inr (Or.inr ?_))
  decide

lemma isPrivateAddress_loopback : isPrivateAddress (v6Text [0, 0, 0, 0, 0, 0, 0, 1]) = true := by
  have htext : v6Text [0, 0, 0, 0, 0, 0, 0, 1] = "::1".toList := by decide
  rw [htext, isPrivateAddress]
  split_ifs with hip hmapped
  · exact absurd hmapped (by decide)
  · decide
  · exact isPrivateV4_of_head (by decide) (by decide) _

lemma toLowerCase_dec (n : Fin 256) : toLowerCase (dec n) = dec n := by
  revert n
  decide +kernel

lemma toLowerCase_v4Text (a b c d : Fin 256) : toLowerCase (v4Text a b c d) = v4Text a b c d := by
  have htext : v4Text a b c d = dec a ++ '.' :: (dec b ++ '.' :: (dec c ++ '.' :: dec d)) := by
    simp [v4Text, List.intercalate]
  have hcons : ∀ s : Text, toLowerCase ('.' :: s) = '.' :: toLowerCase s := fun _ => rfl
  rw [htext]
  simp only [toLowerCase_append, toLowerCase_dec, hcons]

lemma isPrivateAddress_mapped {hi lo : Fin 65536}
    (h : PrivateV4 (Fin.ofNat 256 (hi / 256)) (Fin.ofNat 256 hi)) :
    isPrivateAddress (v6Text [0, 0, 0, 0, 0, 0xffff, hi, lo]) = true := by
  have hlower : toLowerCase (v6Text [0, 0, 0, 0, 0, 0xffff, hi, lo]) = "::ffff:".toList ++ dotted hi lo := by
    rw [v6Text_mapped, toLowerCase_append]
    unfold dotted
    rw [toLowerCase_v4Text]
    rfl
  rw [isPrivateAddress]
  split_ifs with hip hmapped
  · rw [hlower]
    exact isPrivateAddress_v4 _ _ h
  · refine absurd ?_ hmapped
    rw [hlower]
    exact List.prefix_append ..
  · rw [v6Text_mapped]
    exact isPrivateV4_of_head (by decide) (by decide) _

lemma ofFn_eq (words : Fin 8 → Fin 65536) : List.ofFn words =
    [words 0, words 1, words 2, words 3, words 4, words 5, words 6, words 7] := by
  simp [List.ofFn_succ]

lemma isPrivateAddress_of_private {a : Address} (h : a.Private) (hseen : ¬ Overlooked a) :
    isPrivateAddress a.text = true := by
  cases a with
  | v4 a b c d => exact isPrivateAddress_v4 c d h
  | v6 words =>
    change isPrivateAddress (v6Text (List.ofFn words)) = true
    rcases h with hloop | ⟨hle, hge⟩ | hlink | hmulti | ⟨⟨h0, h1, h2, h3, h4, h5⟩, hv4⟩
    · rw [hloop]
      exact isPrivateAddress_loopback
    · rw [ofFn_eq]
      exact isPrivateAddress_uniqueLocal hle hge
    · rw [ofFn_eq]
      exact isPrivateAddress_linkLocal (not_not.mp fun hne => hseen (Or.inl ⟨hlink, hne⟩))
    · exact absurd (Or.inr hmulti) hseen
    · rw [ofFn_eq, h0, h1, h2, h3, h4, h5]
      exact isPrivateAddress_mapped hv4

example : isPrivateAddress (v6Text [0xff02, 0, 0, 0, 0, 0, 0, 1]) = false := by
  rw [isPrivateAddress]
  decide

/-! ## The fetches -/

variable {env : Env} {f : Fetch} {raw : String}

lemma isSafeUrl_tried {url : URL} {answer : Option (List Address)} (hsafe : isSafeUrl env answer raw = true)
    (hurl : env.parse raw = some url) :
    (∃ a b c d, url.host = .v4 a b c d ∧ isPrivateAddress (v4Text a b c d) = false) ∨
      ∃ name h, url.host = .domain name h ∧
        ∃ resolved ∈ answer, ∀ a ∈ resolved, isPrivateAddress (Address.text a) = false := by
  unfold isSafeUrl at hsafe
  rw [hurl] at hsafe
  dsimp only at hsafe
  split_ifs at hsafe with _ _ _ hip
  · cases hhost : url.host with
    | v4 a b c d =>
      rw [hhost, Bool.not_eq_true'] at hsafe
      exact Or.inl ⟨a, b, c, d, rfl, hsafe⟩
    | v6 words =>
      rw [hhost] at hip
      exact absurd (isIP_bracket _) hip
    | domain name h =>
      rw [hhost] at hip
      exact absurd h hip
  · cases hhost : url.host with
    | v4 a b c d =>
      rw [hhost, not_not] at hip
      exact absurd (hip.symm.trans (isIP_v4Text a b c d)) (by decide)
    | v6 words =>
      rw [hhost] at hsafe
      cases hsafe
    | domain name h =>
      rw [hhost] at hsafe
      refine Or.inr ⟨name, h, rfl, ?_⟩
      cases answer with
      | none => cases hsafe
      | some resolved => exact ⟨resolved, rfl, by simpa [lookup] using hsafe⟩

def Fetch.Checked (env : Env) (f : Fetch) : Prop :=
  ∃ raw, isSafeUrl env f.exchange.answer raw = true ∧ env.parse raw = some f.url

lemma fetch_checked {x : Exchange} (hsafe : isSafeUrl env x.answer raw = true) (hf : f ∈ fetch env x raw) :
    f.Checked env := by
  obtain ⟨url, hurl, rfl⟩ := List.mem_map.mp hf
  exact ⟨raw, hsafe, Option.mem_toList.mp hurl⟩

lemma storePreviewImage_checked {x : Exchange} {pageUrl : String} {imageUrl : Option String}
    (hf : f ∈ storePreviewImage env x pageUrl imageUrl) : f.Checked env := by
  unfold storePreviewImage at hf
  split at hf
  · cases hf
  · split_ifs at hf
    · split at hf
      · split_ifs at hf with hsafe
        · exact fetch_checked hsafe hf
        · cases hf
      · cases hf
    · cases hf

lemma scrape_checked {w : World} (hsafe : isSafeUrl env w.page.answer raw = true) (hf : f ∈ scrape env w raw) :
    f.Checked env := by
  rcases List.mem_append.mp hf with hf | hf
  · exact fetch_checked hsafe hf
  · split at hf
    · split_ifs at hf
      · exact storePreviewImage_checked hf
      · cases hf
    · cases hf

lemma storeImages_checked {w : World} {oembed : OEmbed} (hf : f ∈ storeImages env w raw oembed) :
    f.Checked env := by
  unfold storeImages at hf
  dsimp only at hf
  split_ifs at hf
  · exact storePreviewImage_checked hf
  · rcases List.mem_append.mp hf with hf | hf
    · exact storePreviewImage_checked hf
    · exact storePreviewImage_checked hf

lemma preview_checked {w : World} (hf : f ∈ preview env w raw) : f.Checked env := by
  unfold preview at hf
  split_ifs at hf with _ hsafe
  · cases hf
  · split at hf
    · split_ifs at hf
      · exact storeImages_checked hf
      · exact scrape_checked hsafe hf
    · exact scrape_checked hsafe hf
  · cases hf

lemma Fetch.Checked.outside_iff (h : f.Checked env) : (∀ a ∈ f.connections, ¬ a.Private) ↔ f.Outside := by
  obtain ⟨raw, hsafe, hurl⟩ := h
  constructor
  · refine fun hall => ⟨fun name h hhost a ha => Or.inr (hall a (List.mem_append_left _ ?_)), fun hop hhop a ha =>
      hall a (List.mem_append_right _ (List.mem_flatMap.mpr ⟨hop, hhop, ha⟩))⟩
    rw [hhost]
    exact ha
  · intro hout a ha
    rcases List.mem_append.mp ha with ha | ha
    · rcases isSafeUrl_tried hsafe hurl with ⟨a', b, c, d, hhost, hpass⟩ | ⟨name, h, hhost, resolved, hresolved, hpass⟩
      · rw [hhost] at ha
        rw [List.mem_singleton.mp ha]
        intro hprivate
        rw [isPrivateAddress_v4 c d hprivate] at hpass
        cases hpass
      · rw [hhost] at ha
        rcases hout.first name h hhost a ha with ⟨⟨answer, hanswer, hmem⟩, hseen⟩ | hpublic
        · intro hprivate
          have hblocked := isPrivateAddress_of_private hprivate hseen
          rw [Option.mem_unique hanswer hresolved] at hmem
          rw [hpass a hmem] at hblocked
          cases hblocked
        · exact hpublic
    · obtain ⟨hop, hhop, ha⟩ := List.mem_flatMap.mp ha
      exact hout.redirects hop hhop a ha

/-- Every address that the job connects to is public just when every fetch it makes meets only addresses that the
check has seen and does not overlook, or public ones, and no redirect leads to a private one. -/
theorem connections_public_iff (env : Env) (worlds : ℕ → World) (urls : List String) :
    (∀ f ∈ fetchLinkPreview env worlds urls, ∀ a ∈ f.connections, ¬ a.Private) ↔
      ∀ f ∈ fetchLinkPreview env worlds urls, f.Outside := by
  have hchecked : ∀ f ∈ fetchLinkPreview env worlds urls, f.Checked env := by
    intro f hf
    obtain ⟨x, -, hx⟩ := List.mem_flatMap.mp hf
    exact preview_checked hx
  exact forall₂_congr fun f hf => (hchecked f hf).outside_iff

/-! ## A redirect -/

def oneSite : Env where
  parse _ := some ⟨"http:", "", "", .domain ['a'] (by decide)⟩
  resolve _ _ := none
  storageConfigured := true

def redirecting : Exchange where
  answer := some [.v4 8 8 8 8]
  connects := [.v4 8 8 8 8]
  redirects := [(.v4 169 254 169 254, [])]

def world : World := ⟨false, redirecting, none, none, redirecting, redirecting, false⟩

lemma redirecting_safe : isSafeUrl oneSite redirecting.answer "http://a" = true := by
  have hpass : isPrivateAddress (v4Text 8 8 8 8) = false := by
    rw [isPrivateAddress]
    decide +kernel
  have hname : isIP (Host.domain ['a'] (by decide)).hostname = 0 := by decide
  have hparse : oneSite.parse "http://a" = some ⟨"http:", "", "", .domain ['a'] (by decide)⟩ := rfl
  unfold isSafeUrl
  rw [hparse]
  dsimp only
  rw [if_neg (by decide), if_neg (by decide), if_neg (by decide), if_neg (not_not.mpr hname)]
  change (!isPrivateAddress (v4Text 8 8 8 8) && true) = true
  rw [hpass]
  rfl

theorem redirect_reaches_metadata : ¬ ∀ (env : Env) (worlds : ℕ → World) (urls : List String),
    ∀ f ∈ fetchLinkPreview env worlds urls, ∀ a ∈ f.connections, ¬ a.Private := by
  intro h
  have hfetched : fetchLinkPreview oneSite (fun _ => world) ["http://a"] =
      [⟨⟨"http:", "", "", .domain ['a'] (by decide)⟩, redirecting⟩] := by
    change [("http://a", 0)].flatMap (fun x => preview oneSite world x.1) = _
    have hpreview : preview oneSite world "http://a" = scrape oneSite world "http://a" := by
      unfold preview
      rw [if_neg (by decide)]
      exact if_pos redirecting_safe
    rw [List.flatMap_cons, hpreview]
    rfl
  refine h oneSite (fun _ => world) ["http://a"] _ (by rw [hfetched]; exact List.mem_cons_self) (.v4 169 254 169 254)
    (by decide) ?_
  exact Or.inr (Or.inr (Or.inr (Or.inl ⟨rfl, rfl⟩)))

end Yappy.LinkPreviews
