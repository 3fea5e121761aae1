import CrwShield.Antibot.HeaderOrder
import Mathlib.Data.List.Dedup

/-!
# Evidence for a provider

Crate `antibot`, `src/crates/antibot/src/situation.rs:409–467`: how much of a page has to speak for
the provider that a diagnosis names, and whether another provider has more.
-/

open CrwShield.Base CrwShield.Base.Str

namespace CrwShield.Antibot

/-- A piece of evidence of the report is for the provider. -/
def SituationReport.Names (r : SituationReport) (provider : Str) : Prop :=
  ∃ e ∈ r.evidence, e.provider = provider

/-- Number of different tokens of the row, at least four bytes long, in the page. -/
def distinctTokens (lower : Str) (entry : ProviderEntry) : Nat :=
  (occurring lower entry).dedup.length

/-- The evidence asked of a row at a status: on a success two different tokens or a long one,
otherwise any token; `situation.rs:414–418`. -/
def SufficientlyEvidenced (statusCode : Option Nat) (lower : Str) (entry : ProviderEntry) : Prop :=
  1 ≤ distinctTokens lower entry ∧
    (IsSuccess statusCode → 2 ≤ distinctTokens lower entry ∨
      ∃ token ∈ occurring lower entry, singleHitMinLen ≤ len token)

/-- Two different tokens of the row occur in the page, or one long token. -/
def RuleMet (lower : Str) (entry : ProviderEntry) : Prop :=
  (∃ token ∈ entry.tokensLower, ∃ token' ∈ entry.tokensLower,
      token ≠ token' ∧ contains token lower = true ∧ contains token' lower = true) ∨
    ∃ token ∈ entry.tokensLower, contains token lower = true ∧ singleHitMinLen ≤ len token

instance (lower : Str) (entry : ProviderEntry) : Decidable (RuleMet lower entry) :=
  inferInstanceAs (Decidable (_ ∨ _))

/-- A header of the list names the provider, and one of its body tokens is in the page. -/
def HeaderCorroborated (lower : Str) (headers : Option (List (Str × Str))) (provider : Str) :
    Prop :=
  ∃ header ∈ headers.getD [], ∃ ev, namedBy header = some ev ∧ ev.providerName = provider ∧
    Corroborated lower provider

section Scanned

variable {html lower : Str} {statusCode : Option Nat} {headers : Option (List (Str × Str))}
  {entry : ProviderEntry} {name : Str}

theorem distinctTokens_le (lower : Str) (entry : ProviderEntry) :
    distinctTokens lower entry ≤ (occurring lower entry).length :=
  (List.dedup_sublist _).length_le

theorem one_le_distinctTokens : 1 ≤ distinctTokens lower entry ↔ hasOne lower entry = true := by
  rw [hasOne_iff, distinctTokens, Nat.one_le_iff_ne_zero, Ne, List.length_eq_zero_iff,
    List.dedup_eq_nil]

theorem hasTwo_of_distinctTokens (h : 2 ≤ distinctTokens lower entry) :
    hasTwo lower entry = true := by
  rw [hasTwo, decide_eq_true_eq]
  exact h.trans (distinctTokens_le lower entry)

/-- Past the header stage and the status stage, a report names the row that the scan picks. -/
theorem names_diagnose_iff
    (hheader : headerStage (toAsciiLowercase html) statusCode headers = none)
    (hstatus : statusStage statusCode = none) :
    (diagnose html statusCode headers).Names name ↔
      ∃ entry, scanned (toAsciiLowercase html) statusCode = some entry ∧ entry.name = name := by
  rw [diagnose, hheader, hstatus, Option.none_or, Option.none_or, tokenStage_eq]
  cases hscan : scanned (toAsciiLowercase html) statusCode with
  | some entry =>
    simp only [Option.map_some, Option.some_or, Option.getD_some, Option.some.injEq,
      exists_eq_left']
    exact exists_evidence_tokenReport (scanned_some hscan).2
  | none =>
    rw [Option.map_none, Option.none_or, sizeStage]
    simp only [SituationReport.Names, reduceCtorEq, false_and, exists_false, iff_false]
    split <;> simp [buildReport, SituationReport.clean]

/-- The row named past the header and the status stage has the most different tokens exactly when
the first row with two tokens, if any, has the most. -/
theorem named_has_most_tokens_iff
    (hheader : headerStage (toAsciiLowercase html) statusCode headers = none)
    (hstatus : statusStage statusCode = none) :
    (∀ entry ∈ providers.all, (diagnose html statusCode headers).Names entry.name →
        ∀ other ∈ providers.all,
          SufficientlyEvidenced statusCode (toAsciiLowercase html) other →
            distinctTokens (toAsciiLowercase html) other ≤
              distinctTokens (toAsciiLowercase html) entry) ↔
      ∀ first, providers.all.find? (hasTwo (toAsciiLowercase html)) = some first →
        ∀ other ∈ providers.all, distinctTokens (toAsciiLowercase html) other ≤
          distinctTokens (toAsciiLowercase html) first := by
  generalize hlower : toAsciiLowercase html = lower
  constructor
  · intro h first hfirst other hother
    have hscan : scanned lower statusCode = some first := by rw [scanned, hfirst, Option.some_or]
    have hmem := (scanned_some hscan).1
    have hone := one_le_distinctTokens.mpr (hasOne_of_hasTwo (List.find?_some hfirst))
    by_contra hlt
    -- more tokens than a row with one is enough evidence at every status
    have hsuff : SufficientlyEvidenced statusCode lower other :=
      ⟨by omega, fun _ ↦ .inl (by omega)⟩
    refine hlt (h first hmem ?_ other hother hsuff)
    rw [names_diagnose_iff (hlower ▸ hheader) hstatus, hlower]
    exact ⟨first, hscan, rfl⟩
  · intro h entry hentry hnames other hother hsuff
    rw [names_diagnose_iff (hlower ▸ hheader) hstatus, hlower] at hnames
    obtain ⟨named, hscan, hname⟩ := hnames
    obtain rfl := providers.eq_of_name (scanned_some hscan).1 hentry hname
    rcases Option.or_eq_some_iff.mp hscan with hfirst | ⟨hnone, hstrong⟩
    · exact h named hfirst other hother
    · -- no row has two tokens, and the named row has one
      have hone := one_le_distinctTokens.mpr (hasOne_of_isStrong (List.find?_some hstrong))
      have hother' : ¬ 2 ≤ distinctTokens lower other := fun h2 ↦
        List.find?_eq_none.mp hnone other hother (hasTwo_of_distinctTokens h2)
      omega

/-- A page with one Akamai token and no header. -/
theorem named_has_most_tokens_akamai :
    (∀ entry ∈ providers.all, (diagnose "pm_akamai" (some 403) none).Names entry.name →
        ∀ other ∈ providers.all,
          SufficientlyEvidenced (some 403) (toAsciiLowercase "pm_akamai") other →
            distinctTokens (toAsciiLowercase "pm_akamai") other ≤
              distinctTokens (toAsciiLowercase "pm_akamai") entry) ↔
      ∀ first, providers.all.find? (hasTwo (toAsciiLowercase "pm_akamai")) = some first →
        ∀ other ∈ providers.all, distinctTokens (toAsciiLowercase "pm_akamai") other ≤
          distinctTokens (toAsciiLowercase "pm_akamai") first :=
  named_has_most_tokens_iff (by decide) (by decide)

/-- The scan stops counting Akamai's tokens at two, so it does not see that reCAPTCHA has three. -/
theorem akamai_named_over_recaptcha :
    ¬ ∀ (html : Str) (statusCode : Option Nat) (headers : Option (List (Str × Str))),
      headerStage (toAsciiLowercase html) statusCode headers = none →
      statusStage statusCode = none →
      ∀ entry ∈ providers.all, (diagnose html statusCode headers).Names entry.name →
        ∀ other ∈ providers.all,
          SufficientlyEvidenced statusCode (toAsciiLowercase html) other →
            distinctTokens (toAsciiLowercase html) other ≤
              distinctTokens (toAsciiLowercase html) entry := by
  intro h
  let lower := toAsciiLowercase "akamai-bm-sc grecaptcha.render"
  have hheader : headerStage lower (some 403) none = none := rfl
  have htwo : hasTwo lower providers.akamaiBotManager = true := by decide
  have hscan : scanned lower (some 403) = some providers.akamaiBotManager := by
    rw [scanned, providers.all, List.find?_cons_of_pos htwo, Option.some_or]
  have hpage := h "akamai-bm-sc grecaptcha.render" (some 403) none hheader rfl
    providers.akamaiBotManager (by simp [providers.all])
    ((names_diagnose_iff hheader rfl).mpr ⟨_, hscan, rfl⟩) providers.recaptcha
    (by simp [providers.all])
  have hsuff : SufficientlyEvidenced (some 403) lower providers.recaptcha := by
    refine ⟨by decide, fun hsuccess ↦ ?_⟩
    have := isSuccess_some.mp hsuccess
    omega
  exact absurd (hpage hsuff) (by decide)

end Scanned

section Successes

variable {html lower : Str} {code : Nat} {headers : Option (List (Str × Str))}
  {entry : ProviderEntry}

theorem mem_occurring {token : Str} :
    token ∈ occurring lower entry ↔
      token ∈ entry.tokensLower ∧ 4 ≤ len token ∧ contains token lower = true := by
  simp only [occurring, List.mem_filter, Bool.and_eq_true, decide_eq_true_eq]

/-- Two tokens of a row, counted by position, are enough evidence. -/
theorem ruleMet_of_hasTwo (hentry : entry ∈ providers.all) (h : hasTwo lower entry = true) :
    RuleMet lower entry := by
  rw [hasTwo, decide_eq_true_eq] at h
  cases hocc : occurring lower entry with
  | nil => simp [hocc] at h
  | cons a tail =>
    cases tail with
    | nil => simp [hocc] at h
    | cons b rest =>
      have ha := mem_occurring.mp (hocc ▸ List.mem_cons_self : a ∈ occurring lower entry)
      have hb := mem_occurring.mp
        (hocc ▸ List.mem_cons_of_mem a List.mem_cons_self : b ∈ occurring lower entry)
      by_cases hab : a = b
      · subst hab
        have hsub : (occurring lower entry).Sublist entry.tokensLower := List.filter_sublist
        have hcount : 2 ≤ entry.tokensLower.count a := by
          refine Nat.le_trans ?_ (hsub.count_le a)
          simp [hocc]
        exact .inr ⟨a, ha.1, ha.2.2, providers.long_of_listed_twice hentry ha.1 hcount⟩
      · exact .inl ⟨a, ha.1, b, hb.1, hab, ha.2.2, hb.2.2⟩

/-- At 200 a row is named only on enough evidence. -/
theorem ruleMet_of_isStrong_ok (hentry : entry ∈ providers.all)
    (h : isStrong (some 200) lower entry = true) : RuleMet lower entry := by
  rcases isStrong_ok.mp h with h | ⟨token, hocc, hlen⟩
  · exact ruleMet_of_hasTwo hentry h
  · have htoken := mem_occurring.mp (hocc ▸ List.mem_cons_self : token ∈ occurring lower entry)
    exact .inr ⟨token, htoken.1, htoken.2.2, hlen⟩

/-- The first provider header is corroborated. -/
def FirstCorroborated (lower : Str) (headers : Option (List (Str × Str))) : Prop :=
  ∃ ev, headers.bind matchHeader = some ev ∧ Corroborated lower ev.providerName

theorem headerCorroborated_of_matchHeader {ev : HeaderHit}
    (hev : headers.bind matchHeader = some ev) (hcorr : Corroborated lower ev.providerName) :
    HeaderCorroborated lower headers ev.providerName := by
  obtain ⟨hs, rfl, hmatch⟩ := Option.bind_eq_some_iff.mp hev
  obtain ⟨header, hheader, hnamed⟩ := List.exists_of_findSome?_eq_some hmatch
  exact ⟨header, hheader, ev, hnamed, rfl, hcorr⟩

/-- On a success the header stage reports exactly a corroborated first provider header. -/
theorem headerStage_success (hcode : 200 ≤ code ∧ code ≤ 299) :
    headerStage lower (some code) headers = none ↔ ¬ FirstCorroborated lower headers := by
  change (headers.bind matchHeader).bind (headerOutcome lower (some code)) = none ↔ _
  unfold FirstCorroborated
  cases headers.bind matchHeader with
  | none => simp
  | some ev =>
    rw [Option.bind_some, headerOutcome_eq_none, isSuccess_some]
    simp [hcode]

/-- On a success a diagnosis names providers on enough evidence exactly when the status is 200, or
the first provider header is corroborated, or some row has two tokens in the page, or the first row
with a token has enough. -/
theorem success_evidence_iff (hcode : 200 ≤ code ∧ code ≤ 299) :
    (∀ provider, (diagnose html (some code) headers).Names provider →
        HeaderCorroborated (toAsciiLowercase html) headers provider ∨
        ∃ entry ∈ providers.all, entry.name = provider ∧
          RuleMet (toAsciiLowercase html) entry) ↔
      code = 200 ∨ FirstCorroborated (toAsciiLowercase html) headers ∨
        (∃ entry ∈ providers.all, hasTwo (toAsciiLowercase html) entry = true) ∨
        ∀ first, providers.all.find? (hasOne (toAsciiLowercase html)) = some first →
          HeaderCorroborated (toAsciiLowercase html) headers first.name ∨
            RuleMet (toAsciiLowercase html) first := by
  have hstatus : statusStage (some code) = none := by
    simp only [statusStage, Option.bind_some]
    rw [if_neg (by omega), if_neg (by omega)]
  by_cases hfirst : FirstCorroborated (toAsciiLowercase html) headers
  · -- the header stage reports, and cites a corroborated header
    obtain ⟨ev, hev, hcorr⟩ := hfirst
    refine iff_of_true ?_ (.inr (.inl ⟨ev, hev, hcorr⟩))
    intro provider hnames
    obtain ⟨r, hr⟩ : ∃ r, headerOutcome (toAsciiLowercase html) (some code) ev = some r :=
      Option.ne_none_iff_exists'.mp fun hnone ↦ (headerOutcome_eq_none.mp hnone).2 hcorr
    obtain rfl := headerOutcome_eq_some hr
    rw [diagnose_eq, hev, Option.bind_some, hr, Option.getD_some] at hnames
    obtain ⟨e, he, rfl⟩ := hnames
    obtain rfl := List.mem_singleton.mp he
    exact .inl (headerCorroborated_of_matchHeader hev hcorr)
  · have hheader := (headerStage_success hcode).mpr hfirst
    simp only [names_diagnose_iff hheader hstatus]
    generalize toAsciiLowercase html = lower at hfirst
    constructor
    · intro h
      by_cases h200 : code = 200
      · exact .inl h200
      by_cases htwo : ∃ entry ∈ providers.all, hasTwo lower entry = true
      · exact .inr (.inr (.inl htwo))
      refine .inr (.inr (.inr fun first hone ↦ ?_))
      have hnone : providers.all.find? (hasTwo lower) = none :=
        List.find?_eq_none.mpr fun entry hentry h2 ↦ htwo ⟨entry, hentry, h2⟩
      have hscan : scanned lower (some code) = some first := by
        rw [scanned_of_ne (by simpa using h200), hnone, hone, Option.none_or]
      rcases h first.name ⟨first, hscan, rfl⟩ with hh | ⟨entry, hentry, hname, hrule⟩
      · exact .inl hh
      · obtain rfl := providers.eq_of_name hentry (scanned_some hscan).1 hname
        exact .inr hrule
    · rintro h provider ⟨named, hscan, rfl⟩
      have hmem := (scanned_some hscan).1
      rcases Option.or_eq_some_iff.mp hscan with htwo | ⟨hnone, hstrong⟩
      · exact .inr ⟨named, hmem, rfl, ruleMet_of_hasTwo hmem (List.find?_some htwo)⟩
      · by_cases h200 : code = 200
        · subst h200
          exact .inr ⟨named, hmem, rfl, ruleMet_of_isStrong_ok hmem (List.find?_some hstrong)⟩
        · rw [isStrong_of_ne (by simpa using h200)] at hstrong
          rcases h with h | h | ⟨entry, hentry, h2⟩ | h
          · exact absurd h h200
          · exact absurd h hfirst
          · exact absurd h2 (List.find?_eq_none.mp hnone entry hentry)
          · exact (h named hstrong).imp_right fun hrule ↦ ⟨named, hmem, rfl, hrule⟩

/-- A page of status 201 that names DataDome once. -/
theorem success_evidence_datadome :
    (∀ provider, (diagnose "geo.captcha-delivery" (some 201) none).Names provider →
        HeaderCorroborated (toAsciiLowercase "geo.captcha-delivery") none provider ∨
        ∃ entry ∈ providers.all, entry.name = provider ∧
          RuleMet (toAsciiLowercase "geo.captcha-delivery") entry) ↔
      201 = 200 ∨ FirstCorroborated (toAsciiLowercase "geo.captcha-delivery") none ∨
        (∃ entry ∈ providers.all,
          hasTwo (toAsciiLowercase "geo.captcha-delivery") entry = true) ∨
        ∀ first,
          providers.all.find? (hasOne (toAsciiLowercase "geo.captcha-delivery")) = some first →
            HeaderCorroborated (toAsciiLowercase "geo.captcha-delivery") none first.name ∨
              RuleMet (toAsciiLowercase "geo.captcha-delivery") first :=
  success_evidence_iff (by decide)

/-- A created page that says "forbidden" once is diagnosed as an access denial. -/
theorem created_page_denied :
    ¬ ∀ (html : Str) (code : Nat) (headers : Option (List (Str × Str))),
      200 ≤ code ∧ code ≤ 299 →
        ∀ provider, (diagnose html (some code) headers).Names provider →
          HeaderCorroborated (toAsciiLowercase html) headers provider ∨
          ∃ entry ∈ providers.all, entry.name = provider ∧
            RuleMet (toAsciiLowercase html) entry := by
  intro h
  -- the page is one short token of one row
  have hsub : [forbidden] ⊆ soleTokens := by simp [soleTokens]
  obtain ⟨page, hpage⟩ : ∃ page, page = wordPage ([forbidden].map Prod.fst) 0 := ⟨_, rfl⟩
  have hlower : toAsciiLowercase page = page := by
    rw [hpage]
    exact toAsciiLowercase_wordPage _ _
  have hheader : headerStage (toAsciiLowercase page) (some 201) none = none := rfl
  obtain ⟨named, hscan⟩ : ∃ named, scanned (toAsciiLowercase page) (some 201) = some named := by
    rw [hlower, hpage, scanned_wordPage hsub]
    exact Option.isSome_iff_exists.mp (by decide)
  have hnamed := (scanned_some hscan).1
  have hnames : (diagnose page (some 201) none).Names named.name :=
    (names_diagnose_iff hheader rfl).mpr ⟨named, hscan, rfl⟩
  have hsole {token : Str} (htoken : token ∈ named.tokensLower)
      (hin : contains token page = true) : token = forbidden.1 := by
    have hmem := (contains_wordPage_iff hsub 0 hnamed htoken).mp (hpage ▸ hin)
    exact congrArg Prod.fst (List.mem_singleton.mp hmem)
  rcases h page 201 none (by decide) _ hnames with
    ⟨header, hmem, -⟩ | ⟨entry, hentry, hname, hrule⟩
  · exact absurd hmem (by simp)
  · obtain rfl := providers.eq_of_name hentry hnamed hname
    rw [hlower] at hrule
    rcases hrule with ⟨token, ht, token', ht', hne, hin, hin'⟩ | ⟨token, ht, hin, hlen⟩
    · exact hne ((hsole ht hin).trans (hsole ht' hin').symm)
    · rw [hsole ht hin] at hlen
      exact absurd hlen (by decide)

end Successes
end CrwShield.Antibot
