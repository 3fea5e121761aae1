import CrwShield.Antibot.Diagnose
import CrwShield.Base.Selection
import Mathlib.Data.List.Find
import Mathlib.Data.List.Nodup

/-!
# The token scan

Crate `antibot`, `src/crates/antibot/src/situation.rs:409–467`. The scan of the catalogue names the
first row with two tokens in the page, or else the first row whose single token is enough. Every
result about a diagnosis reads the scan through this choice.
-/

open CrwShield.Base CrwShield.Base.Str

namespace CrwShield.Antibot

/-- The tokens of a row, at least four bytes long, that occur in the page. -/
def occurring (lower : Str) (entry : ProviderEntry) : List Str :=
  entry.tokensLower.filter fun token ↦ 4 ≤ len token && contains token lower

/-- Two tokens of the row occur. -/
def hasTwo (lower : Str) (entry : ProviderEntry) : Bool := 2 ≤ (occurring lower entry).length

/-- A token of the row occurs. -/
def hasOne (lower : Str) (entry : ProviderEntry) : Bool := !(occurring lower entry).isEmpty

/-- The tokens found are enough to name the row at a status. -/
def isStrong (statusCode : Option Nat) (lower : Str) (entry : ProviderEntry) : Bool :=
  strongEnough statusCode (tokenHits lower entry)

/-- The row named at a status: the first with two tokens, or else the first strong one. -/
def scanned (lower : Str) (statusCode : Option Nat) : Option ProviderEntry :=
  (providers.all.find? (hasTwo lower)).or (providers.all.find? (isStrong statusCode lower))

/-- The report that names a row; `situation.rs:459–467`. -/
def tokenReport (lower : Str) (statusCode : Option Nat) (entry : ProviderEntry) :
    SituationReport :=
  buildReport entry.kind entry.suggestedLadder statusCode
    ((tokenHits lower entry).map fun hit ↦
      ⟨.token, ("\"" : Str) ++ hit.1 ++ "\"@" ++ ofNat hit.2, entry.name⟩)
    (some entry.notes)

section Hits

variable {lower : Str} {statusCode : Option Nat} {entry : ProviderEntry}

private theorem map_fst_filterMap_find (tokens : List Str) :
    (tokens.filterMap fun token ↦ (find token lower).map fun pos ↦ (token, pos)).map Prod.fst =
      tokens.filter (contains · lower) := by
  induction tokens with
  | nil => rfl
  | cons token tokens ih =>
    have hfind : (find token lower).isSome = contains token lower := by
      simp only [find, contains, Option.isSome_map]
    rw [List.filterMap_cons, List.filter_cons, ← hfind]
    cases find token lower with
    | none => simpa using ih
    | some pos => simpa using ih

/-- The hits are the first two tokens that occur. -/
theorem map_fst_tokenHits (lower : Str) (entry : ProviderEntry) :
    (tokenHits lower entry).map Prod.fst = (occurring lower entry).take 2 := by
  rw [tokenHits, List.map_take, map_fst_filterMap_find, occurring, List.filter_filter]
  congr 2
  ext token
  rw [Bool.and_comm]

/-- The scan counts the tokens that occur up to two. -/
theorem length_tokenHits (lower : Str) (entry : ProviderEntry) :
    (tokenHits lower entry).length = min 2 (occurring lower entry).length := by
  rw [← List.length_map (f := Prod.fst), map_fst_tokenHits, List.length_take]

theorem length_tokenHits_eq_two :
    (tokenHits lower entry).length = 2 ↔ hasTwo lower entry = true := by
  rw [length_tokenHits, hasTwo, decide_eq_true_eq]
  omega

theorem hasOne_iff : hasOne lower entry = true ↔ occurring lower entry ≠ [] := by
  simp [hasOne]

theorem hasOne_of_hasTwo (h : hasTwo lower entry = true) : hasOne lower entry = true := by
  rw [hasOne_iff]
  intro hnil
  simp [hasTwo, hnil] at h

/-- Two tokens are enough at every status. -/
theorem isStrong_of_hasTwo (h : hasTwo lower entry = true) :
    isStrong statusCode lower entry = true := by
  have hlen := length_tokenHits_eq_two.mpr h
  unfold isStrong strongEnough
  match tokenHits lower entry, hlen with
  | [_, _], _ => simp

/-- At a status other than 200 one token is enough. -/
theorem isStrong_of_ne (h : statusCode ≠ some 200) : isStrong statusCode lower = hasOne lower := by
  ext entry
  have hmap := map_fst_tokenHits lower entry
  simp only [isStrong, strongEnough, h, if_false, hasOne]
  cases hocc : occurring lower entry with
  | nil =>
    have hnil : tokenHits lower entry = [] := by simpa [hocc] using hmap
    rw [hnil]
    rfl
  | cons token tokens =>
    cases hhits : tokenHits lower entry with
    | nil => simp [hocc, hhits] at hmap
    | cons hit hits => rfl

/-- At 200 two tokens are enough, or one of at least fourteen bytes. -/
theorem isStrong_ok :
    isStrong (some 200) lower entry = true ↔
      hasTwo lower entry = true ∨ ∃ token, occurring lower entry = [token] ∧ 14 ≤ len token := by
  have hmap := map_fst_tokenHits lower entry
  have htwo := @length_tokenHits_eq_two lower entry
  rw [← htwo]
  simp only [isStrong, strongEnough, if_true, singleHitMinLen]
  cases hhits : tokenHits lower entry with
  | nil =>
    have hocc : occurring lower entry = [] := by simpa [hhits] using hmap.symm
    simp [hocc]
  | cons hit hits =>
    cases hits with
    | nil =>
      have hocc : occurring lower entry = [hit.1] := by
        rw [hhits] at hmap
        match occurring lower entry, hmap with
        | [token], hmap => simpa using hmap.symm
      simp only [hocc, List.length_cons, List.length_nil, List.cons.injEq, and_true]
      constructor
      · intro h
        exact .inr ⟨hit.1, rfl, of_decide_eq_true h⟩
      · rintro (h | ⟨token, rfl, h⟩)
        · omega
        · exact decide_eq_true h
    | cons hit' hits =>
      have hlen := length_tokenHits lower entry
      rw [hhits] at hlen
      simp only [List.length_cons] at hlen
      simp only [List.length_cons, true_iff]
      exact .inl (by omega)

/-- A strong row has a token in the page. -/
theorem hasOne_of_isStrong (h : isStrong statusCode lower entry = true) :
    hasOne lower entry = true := by
  by_cases hst : statusCode = some 200
  · subst hst
    rcases isStrong_ok.mp h with h | ⟨token, hocc, -⟩
    · exact hasOne_of_hasTwo h
    · simp [hasOne, hocc]
  · rwa [isStrong_of_ne hst] at h

end Hits

section Scan

variable {lower : Str} {statusCode : Option Nat} {entry : ProviderEntry}

private theorem keepBest_map (lower : Str) (statusCode : Option Nat) (best : Option ProviderEntry)
    (entry : ProviderEntry) :
    keepBest lower statusCode (best.map fun e ↦ (e, tokenHits lower e)) entry =
      (keepBetter (isStrong statusCode lower) (fun e ↦ (tokenHits lower e).length) best entry).map
        fun e ↦ (e, tokenHits lower e) := by
  have hall : (best.map fun e ↦ (e, tokenHits lower e)).all
        (fun kept ↦ kept.2.length < (tokenHits lower entry).length) =
      best.all fun e ↦ (tokenHits lower e).length < (tokenHits lower entry).length := by
    cases best <;> rfl
  rw [keepBest, keepBetter, isStrong, hall]
  split <;> rfl

private theorem foldl_keepBest (lower : Str) (statusCode : Option Nat)
    (entries : List ProviderEntry) :
    entries.foldl (keepBest lower statusCode) none =
      (firstBest (isStrong statusCode lower) (fun e ↦ (tokenHits lower e).length) entries).map
        fun e ↦ (e, tokenHits lower e) := by
  induction entries using List.reverseRecOn with
  | nil => rfl
  | append_singleton entries entry ih =>
    rw [List.foldl_append, List.foldl_cons, List.foldl_nil, ih, firstBest_concat, keepBest_map]

private theorem firstBest_scan (lower : Str) (statusCode : Option Nat)
    (entries : List ProviderEntry) :
    firstBest (isStrong statusCode lower) (fun e ↦ (tokenHits lower e).length) entries =
      (entries.find? (hasTwo lower)).or (entries.find? (isStrong statusCode lower)) := by
  rw [firstBest_eq_or]
  · congr 2
    ext e
    rw [Bool.eq_iff_iff, decide_eq_true_eq, length_tokenHits_eq_two]
  · intro e he
    have hone := hasOne_iff.mp (hasOne_of_isStrong he)
    have hpos := List.length_pos_iff.mpr hone
    rw [length_tokenHits]
    omega
  · intro e he
    exact isStrong_of_hasTwo (length_tokenHits_eq_two.mp he)

/-- The token stage reports the row that the scan names. -/
theorem tokenStage_eq (lower : Str) (statusCode : Option Nat) :
    tokenStage lower statusCode =
      (scanned lower statusCode).map (tokenReport lower statusCode) := by
  rw [tokenStage, foldl_keepBest, firstBest_scan, Option.map_map]
  rfl

/-- The row named is in the catalogue and strong. -/
theorem scanned_some (h : scanned lower statusCode = some entry) :
    entry ∈ providers.all ∧ isStrong statusCode lower entry = true := by
  rcases Option.or_eq_some_iff.mp h with h | ⟨-, h⟩
  · exact ⟨List.mem_of_find?_eq_some h, isStrong_of_hasTwo (List.find?_some h)⟩
  · exact ⟨List.mem_of_find?_eq_some h, List.find?_some h⟩

/-- At a status other than 200 the scan names the first row with two tokens, or else the first row
with one. -/
theorem scanned_of_ne (h : statusCode ≠ some 200) :
    scanned lower statusCode =
      (providers.all.find? (hasTwo lower)).or (providers.all.find? (hasOne lower)) := by
  rw [scanned, isStrong_of_ne h]

/-- The report of a row carries evidence, all of it for the row. -/
theorem exists_evidence_tokenReport {name : Str} (h : isStrong statusCode lower entry = true) :
    (∃ e ∈ (tokenReport lower statusCode entry).evidence, e.provider = name) ↔
      entry.name = name := by
  have hne : tokenHits lower entry ≠ [] := by
    intro hnil
    have hlen := length_tokenHits lower entry
    have hpos := List.length_pos_iff.mpr (hasOne_iff.mp (hasOne_of_isStrong h))
    rw [hnil, List.length_nil] at hlen
    omega
  obtain ⟨hit, hits, hcons⟩ := List.exists_cons_of_ne_nil hne
  simp only [tokenReport, buildReport, hcons, List.mem_map]
  constructor
  · rintro ⟨e, ⟨hit', -, rfl⟩, he⟩
    exact he
  · intro he
    exact ⟨_, ⟨hit, List.mem_cons_self, rfl⟩, he⟩

end Scan

section Catalogue

/-- Rows of the catalogue have different names. -/
theorem providers.nodup_names : (providers.all.map ProviderEntry.name).Nodup := by
  dsimp only [providers.all, List.map,
    providers.akamaiBotManager, providers.awsWaf, providers.cloudflareIuam,
    providers.cloudflareTurnstile, providers.datadomeCaptcha, providers.distil,
    providers.fastlyEdgeChallenge, providers.friendlyCaptcha, providers.funcaptcha,
    providers.geetest, providers.genericAccessDenied, providers.genericCdnBlock,
    providers.genericFingerprint, providers.genericRateLimit, providers.genericVerify,
    providers.geoBlock, providers.hcaptcha, providers.impervaIncapsula, providers.jsOnly,
    providers.kasada, providers.loginWall, providers.perimeterx, providers.reblaze,
    providers.recaptcha, providers.serverError, providers.shapeSecurity, providers.soft404,
    providers.yandexSmartcaptcha]
  repeat rw [String.toList_ofList]
  decide

/-- A row of the catalogue is found by its name. -/
theorem providers.eq_of_name {e e' : ProviderEntry} (h : e ∈ providers.all)
    (h' : e' ∈ providers.all) (hname : e.name = e'.name) : e = e' :=
  List.inj_on_of_nodup_map providers.nodup_names h h' hname

/-- A word holds one token of the catalogue, itself, listed once by the row of a kind. -/
def SoleToken (word : Str) (kind : SituationKind) : Prop :=
  ∀ entry ∈ providers.all,
    (∀ token ∈ entry.tokensLower, contains token word = true → token = word ∧ entry.kind = kind) ∧
      (entry.kind = kind → entry.tokensLower.count word = 1)

instance (word : Str) (kind : SituationKind) : Decidable (SoleToken word kind) :=
  inferInstanceAs (Decidable (∀ entry ∈ providers.all, _ ∧ _))

/-- A word of the row for denied access. -/
def forbidden : Str × SituationKind := ("forbidden", .genericAccessDenied)

/-- A phrase of the row for regional blocks. -/
def yourRegion : Str × SituationKind := ("your region", .geoBlocked)

/-- A long token of the row for hCaptcha. -/
def hcaptchaIframe : Str × SituationKind := ("hcaptcha-iframe", .hcaptcha)

/-- A token of the row for Arkose Labs. -/
def arkose : Str × SituationKind := ("arkose", .funcaptcha)

/-- Words that sample pages are made of. -/
def soleTokens : List (Str × SituationKind) := [forbidden, yourRegion, hcaptchaIframe, arkose]

/-- A short token of the row for Cloudflare challenges. -/
def rayId : Str × SituationKind := ("ray id", .cloudflareIuam)

/-- What is checked of a row: its tokens are words of ASCII, the doubled ones long, and each sample
word holds a token of the row only if the row is the word's own. -/
private def tokensChecked (samples : List (Str × SituationKind)) (kind : SituationKind)
    (tokens : List Str) : Bool :=
  (tokens.all fun token ↦ !token.isEmpty && !List.contains token '~' &&
    (tokens.count token < 2 || singleHitMinLen ≤ len token) &&
    (token.all (·.toNat < 128) && token.head? != some ' ')) &&
  samples.all fun sample ↦ 4 ≤ len sample.1 &&
    (tokens.all fun token ↦ !contains token sample.1 ||
      (token == sample.1 && kind == sample.2)) &&
    (kind != sample.2 || tokens.count sample.1 == 1)

-- The literals are turned into lists of characters first, the kernel is slow to read them.
private theorem providers.all_checked :
    ∀ entry ∈ providers.all,
      tokensChecked (rayId :: soleTokens) entry.kind entry.tokensLower = true := by
  simp only [providers.all, List.forall_mem_cons]
  and_intros
  all_goals
    dsimp only [soleTokens, rayId, forbidden, yourRegion, hcaptchaIframe, arkose,
      providers.akamaiBotManager, providers.awsWaf, providers.cloudflareIuam,
      providers.cloudflareTurnstile, providers.datadomeCaptcha, providers.distil,
      providers.fastlyEdgeChallenge, providers.friendlyCaptcha, providers.funcaptcha,
      providers.geetest, providers.genericAccessDenied, providers.genericCdnBlock,
      providers.genericFingerprint, providers.genericRateLimit, providers.genericVerify,
      providers.geoBlock, providers.hcaptcha, providers.impervaIncapsula, providers.jsOnly,
      providers.kasada, providers.loginWall, providers.perimeterx, providers.reblaze,
      providers.recaptcha, providers.serverError, providers.shapeSecurity, providers.soft404,
      providers.yandexSmartcaptcha]
    repeat rw [String.toList_ofList]
    decide

private theorem providers.checked :
    (∀ entry ∈ providers.all, ∀ token ∈ entry.tokensLower, (token ≠ [] ∧ '~' ∉ token) ∧
      (2 ≤ entry.tokensLower.count token → singleHitMinLen ≤ len token) ∧
      (∀ c ∈ token, c.toNat < 128) ∧ token.head? ≠ some ' ') ∧
    ∀ sample ∈ rayId :: soleTokens, SoleToken sample.1 sample.2 ∧ 4 ≤ len sample.1 := by
  have hall := providers.all_checked
  simp only [tokensChecked, Bool.and_eq_true, List.all_eq_true, Bool.or_eq_true,
    Bool.not_eq_true', List.isEmpty_eq_false_iff, decide_eq_true_eq, bne_iff_ne, beq_iff_eq] at hall
  constructor
  · intro entry hentry token htoken
    obtain ⟨⟨⟨hne, hsep⟩, hcount⟩, hascii, hhead⟩ := (hall entry hentry).1 token htoken
    exact ⟨⟨hne, by simpa using hsep⟩, fun h ↦ hcount.resolve_left (by omega), hascii, hhead⟩
  · intro sample hsample
    have hlen : 4 ≤ len sample.1 :=
      ((hall _ List.mem_cons_self).2 sample hsample).1.1
    refine ⟨fun entry hentry ↦ ?_, hlen⟩
    obtain ⟨⟨-, htokens⟩, hkind⟩ := (hall entry hentry).2 sample hsample
    refine ⟨fun token htoken hin ↦ ?_, fun h ↦ hkind.resolve_left (by simpa using h)⟩
    exact (htokens token htoken).resolve_left (by simp [hin])

/-- A token that a row lists twice is long. -/
theorem providers.long_of_listed_twice {entry : ProviderEntry} {token : Str}
    (hentry : entry ∈ providers.all) (htoken : token ∈ entry.tokensLower)
    (h : 2 ≤ entry.tokensLower.count token) : singleHitMinLen ≤ len token :=
  (providers.checked.1 entry hentry token htoken).2.1 h

/-- A page of words, each set off by a character that no token has, and a filler. -/
def wordPage (words : List Str) (filler : Nat) : Str :=
  words.foldr (fun word rest ↦ word ++ '~' :: rest) (List.replicate filler '~')

theorem toAsciiLowercase_wordPage (words : List Str) (filler : Nat) :
    toAsciiLowercase (wordPage words filler) = wordPage (words.map toAsciiLowercase) filler := by
  induction words with
  | nil =>
    simp only [wordPage, toAsciiLowercase, List.foldr_nil, List.map_nil, List.map_replicate]
    rfl
  | cons word words ih =>
    simp only [toAsciiLowercase, wordPage, List.foldr_cons, List.map_cons, List.map_append] at ih ⊢
    rw [ih]
    rfl

private theorem contains_wordPage {token : Str} (hsep : '~' ∉ token) (hne : token ≠ [])
    (words : List Str) (filler : Nat) :
    contains token (wordPage words filler) = words.any (contains token ·) := by
  induction words with
  | nil =>
    have h : contains token (wordPage [] filler) = contains token [] :=
      contains_append_replicate (s := []) hsep hne filler
    rw [h]
    cases token with
    | nil => exact absurd rfl hne
    | cons c cs => rfl
  | cons word words ih =>
    rw [wordPage, List.foldr_cons, contains_append_cons hsep, List.any_cons, ← ih]
    rfl

/-- Behind characters outside ASCII and a space, a row has the short token only if it is the row for
Cloudflare challenges. -/
theorem occurring_rayId (filler : Nat) {entry : ProviderEntry} (hentry : entry ∈ providers.all) :
    occurring (List.replicate filler '語' ++ ' ' :: rayId.1) entry =
      if entry.kind = rayId.2 then [rayId.1] else [] := by
  obtain ⟨hsole, hlen⟩ := providers.checked.2 rayId List.mem_cons_self
  have hcontains : ∀ token ∈ entry.tokensLower,
      (4 ≤ len token && contains token (List.replicate filler '語' ++ ' ' :: rayId.1)) =
        (token == rayId.1) := by
    intro token htoken
    obtain ⟨⟨hne, -⟩, -, hascii, hhead⟩ := providers.checked.1 entry hentry token htoken
    have hwide : '語' ∉ token := fun hmem ↦ absurd (hascii _ hmem) (by decide)
    have hfiller : contains token (List.replicate filler '語' ++ ' ' :: rayId.1) =
        contains token (' ' :: rayId.1) := by
      induction filler with
      | zero => rfl
      | succ n ih =>
        have hnil : contains token [] = false := by
          cases token with
          | nil => exact absurd rfl hne
          | cons c cs => rfl
        rw [List.replicate_succ, List.cons_append, ← ih]
        exact (contains_append_cons (s := []) hwide).trans (by rw [hnil, Bool.false_or])
    rw [hfiller, Bool.eq_iff_iff, Bool.and_eq_true, beq_iff_eq, contains_iff]
    constructor
    · rintro ⟨-, hin⟩
      rcases List.infix_cons_iff.mp hin with hpre | hin
      · cases token with
        | nil => exact absurd rfl hne
        | cons c cs => exact absurd (by rw [(List.cons_prefix_cons.mp hpre).1]; rfl) hhead
      · exact (hsole entry hentry).1 token htoken (contains_iff.mpr hin) |>.1
    · rintro rfl
      exact ⟨decide_eq_true hlen, List.infix_cons (List.infix_refl _)⟩
  rw [occurring, List.filter_congr hcontains, List.filter_beq]
  by_cases hkind : entry.kind = rayId.2
  · rw [(hsole entry hentry).2 hkind, if_pos hkind]
    rfl
  · rw [if_neg hkind, List.count_eq_zero_of_not_mem, List.replicate_zero]
    intro hmem
    exact hkind ((hsole entry hentry).1 _ hmem (contains_iff.mpr (List.infix_refl _))).2

section Samples

variable {samples : List (Str × SituationKind)} (h : samples ⊆ soleTokens) (filler : Nat)

include h

/-- In a page of sole tokens a row has those of its kind. -/
theorem contains_wordPage_iff {entry : ProviderEntry} {token : Str}
    (hentry : entry ∈ providers.all) (htoken : token ∈ entry.tokensLower) :
    contains token (wordPage (samples.map Prod.fst) filler) = true ↔
      (token, entry.kind) ∈ samples := by
  have hchecked := (providers.checked.1 entry hentry token htoken).1
  rw [contains_wordPage hchecked.2 hchecked.1, List.any_map, List.any_eq_true]
  constructor
  · rintro ⟨s, hs, hin⟩
    have hsole := ((providers.checked.2 s (List.mem_cons_of_mem _ (h hs))).1 entry hentry).1 token
      htoken hin
    rwa [hsole.1, hsole.2]
  · intro hs
    exact ⟨_, hs, contains_iff.mpr (List.infix_refl _)⟩

private theorem find?_sample {entry : ProviderEntry} {sample : Str × SituationKind} :
    samples.find? (·.2 = entry.kind) = some sample ↔ sample ∈ samples ∧ sample.2 = entry.kind := by
  have hkinds : (soleTokens.map Prod.snd).Nodup := by decide
  exact find?_key_iff fun s hs s' hs' hkind ↦
    List.inj_on_of_nodup_map hkinds (h hs) (h hs') hkind

/-- In a page of sole tokens a row has the one of its kind, if any. -/
theorem occurring_wordPage {entry : ProviderEntry} (hentry : entry ∈ providers.all) :
    occurring (wordPage (samples.map Prod.fst) filler) entry =
      ((samples.find? (·.2 = entry.kind)).map Prod.fst).toList := by
  cases hfind : samples.find? (·.2 = entry.kind) with
  | none =>
    rw [Option.map_none, Option.toList_none, occurring, List.filter_eq_nil_iff]
    intro token htoken hin
    rw [Bool.and_eq_true, contains_wordPage_iff h filler hentry htoken] at hin
    exact List.find?_eq_none.mp hfind _ hin.2 (by simp)
  | some s =>
    obtain ⟨hs, hkind⟩ := (find?_sample h).mp hfind
    obtain ⟨hsole, hlen⟩ := providers.checked.2 s (List.mem_cons_of_mem _ (h hs))
    have hfilter : occurring (wordPage (samples.map Prod.fst) filler) entry =
        entry.tokensLower.filter (· == s.1) := by
      refine List.filter_congr fun token htoken ↦ ?_
      rw [Bool.eq_iff_iff, Bool.and_eq_true, decide_eq_true_eq,
        contains_wordPage_iff h filler hentry htoken, beq_iff_eq]
      constructor
      · rintro ⟨-, hin⟩
        have heq := (find?_sample h).mpr ⟨hin, rfl⟩
        rw [hfind] at heq
        rw [Option.some.inj heq]
      · rintro rfl
        exact ⟨hlen, hkind ▸ hs⟩
    rw [hfilter, List.filter_beq, (hsole entry hentry).2 hkind.symm]
    rfl

/-- The scan of a page of sole tokens names the first row of one of their kinds, at 200 only for a
long token. -/
theorem scanned_wordPage (statusCode : Option Nat) :
    scanned (wordPage (samples.map Prod.fst) filler) statusCode =
      providers.all.find? fun entry ↦ (samples.find? (·.2 = entry.kind)).any fun s ↦
        statusCode ≠ some 200 || singleHitMinLen ≤ len s.1 := by
  have htwo : providers.all.find? (hasTwo (wordPage (samples.map Prod.fst) filler)) = none := by
    rw [List.find?_eq_none]
    intro entry hentry
    rw [hasTwo, occurring_wordPage h filler hentry]
    cases samples.find? (·.2 = entry.kind) <;> simp
  rw [scanned, htwo, Option.none_or]
  refine List.find?_congr fun entry hentry ↦ ?_
  have hocc := occurring_wordPage h filler hentry
  by_cases hst : statusCode = some 200
  · subst hst
    rw [Bool.eq_iff_iff, isStrong_ok, hasTwo, hocc]
    cases samples.find? (·.2 = entry.kind) with
    | none => simp
    | some s =>
      simp only [Option.map_some, Option.toList_some, Option.any_some, List.cons.injEq, and_true,
        exists_eq_left', ne_eq, not_true_eq_false, decide_false, Bool.false_or]
      exact ⟨fun h ↦ h.elim (fun htwo ↦ absurd htwo (by simp)) decide_eq_true,
        fun h ↦ .inr (of_decide_eq_true h)⟩
  · rw [isStrong_of_ne hst, hasOne, hocc]
    cases samples.find? (·.2 = entry.kind) <;> simp [hst]

end Samples

end Catalogue

end CrwShield.Antibot
