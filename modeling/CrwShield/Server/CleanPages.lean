import CrwShield.Antibot.PageDetectors
import CrwShield.Server.Scrape

/-!
# Clean pages

A page of status 200 that the structured detector finds clean, as the ladder and the scrape endpoint
treat it: `src/crates/fetch/src/ladder.rs:219–233` and `src/crates/server/src/handlers.rs:893–965`
ask the older detectors again.
-/

open CrwShield.Base CrwShield.Base.Str CrwShield.Antibot CrwShield.Core CrwShield.Fetch

namespace CrwShield.Server

universe u
variable {ω : Type u}

/-- Without the browser no scrape that the ladder answers with the page and its diagnosis ends in
`CHALLENGE_DETECTED`. -/
def NeverChallenged (ω : Type u) (page : FetchResult) : Prop :=
  ∀ (H : Host ω) (U : UrlCrate) (ladder : FetchLadder) (req : ScrapeRequest)
    (st st' : RotationState ω) (result : LadderResult), result.fetch = page →
    result.situation = diagnoseFetch page →
    ladder.fetchWithRotation H.toMachine U req (waited H st) = (.ok result, st') →
      ∀ e, (handleScrape H U false ladder req st).1 = .ok (.error e) →
        e.error ≠ "CHALLENGE_DETECTED"

/-- A clean page that the older detector finds no challenge in is answered. -/
theorem neverChallenged_of_detectChallenge {page : FetchResult}
    (hclean : (diagnoseFetch page).kind = .cleanSuccess)
    (hdetect : detectChallenge page.html = none) : NeverChallenged ω page := by
  intro H U ladder req st st' result hfetch hsituation hrun e he
  unfold handleScrape at he
  split at he
  · -- an invalid URL
    obtain rfl := Except.error.inj (Except.ok.inj he)
    decide
  · rw [hrun] at he
    have hhitl : hitlRequest req.url result.situation = none := by
      simp [hitlRequest, SituationReport.isAntiBot, hsituation, hclean, SituationKind.isAntiBot]
    simp only [respond, answerResult, hhitl, answerPage, Bool.false_eq_true, if_false, hfetch,
      hdetect] at he
    exact absurd (Except.ok.inj he) (by simp)

/-- A page of status 200 that is found clean leaves the HTTP step only through the older
detectors. -/
theorem httpShouldEscalate_clean {page : FetchResult} (hstatus : page.statusCode = 200)
    (hclean : (diagnoseFetch page).kind = .cleanSuccess) :
    httpShouldEscalate page = detectEmptyOrBlocked page.html := by
  unfold diagnoseFetch at hclean
  rw [hstatus] at hclean
  rw [httpShouldEscalate, diagnoseFetch, hstatus, diagnose_clean hclean]
  rfl

/-- For a page that is clean at status 200 the older detectors agree, it stays at the HTTP step and
is answered without the browser, exactly when the first row of the catalogue with a token in the
page is one they pass over. -/
theorem clean_page_agrees_iff {html : Str}
    (hclean : (diagnose html (some 200) none).kind = .cleanSuccess) :
    ((detectEmptyOrBlocked html = false ∧ detectChallenge html = none) ∧
      ∀ page : FetchResult, page.html = html → page.statusCode = 200 →
        (diagnoseFetch page).kind = .cleanSuccess →
          httpShouldEscalate page = false ∧ NeverChallenged ω page) ↔
      ∀ first, providers.all.find? (hasOne (toAsciiLowercase html)) = some first →
        first.kind.IsPassedOver := by
  rw [← detectors_pass_clean_iff hclean]
  constructor
  · intro h
    exact h.1
  · rintro ⟨hblocked, hchallenge⟩
    refine ⟨⟨hblocked, hchallenge⟩, ?_⟩
    rintro page rfl hstatus hpage
    rw [httpShouldEscalate_clean hstatus hpage]
    exact ⟨hblocked, neverChallenged_of_detectChallenge hpage hchallenge⟩

/-- A page without any word. -/
theorem clean_page_agrees_blank :
    ((detectEmptyOrBlocked (wordPage [] 200) = false ∧ detectChallenge (wordPage [] 200) = none) ∧
      ∀ page : FetchResult, page.html = wordPage [] 200 → page.statusCode = 200 →
        (diagnoseFetch page).kind = .cleanSuccess →
          httpShouldEscalate page = false ∧ NeverChallenged Unit page) ↔
      ∀ first,
        providers.all.find? (hasOne (toAsciiLowercase (wordPage [] 200))) = some first →
          first.kind.IsPassedOver :=
  clean_page_agrees_iff
    (@clean_wordPage [] 200 (List.nil_subset _) rfl (by simp) (by decide +kernel))

/-- A long page that says "forbidden" once is clean, and an access denial for the older
detectors. -/
theorem clean_page_challenged :
    ¬ ∀ html : Str, (diagnose html (some 200) none).kind = .cleanSuccess →
      detectEmptyOrBlocked html = false ∧ detectChallenge html = none := by
  intro h
  have hsub : [forbidden] ⊆ soleTokens := by simp [soleTokens]
  have hlower : ([forbidden].map Prod.fst).map toAsciiLowercase = [forbidden].map Prod.fst := by
    decide
  obtain ⟨page, hpage⟩ : ∃ page, page = wordPage ([forbidden].map Prod.fst) 200 := ⟨_, rfl⟩
  have hclean : (diagnose page (some 200) none).kind = .cleanSuccess := by
    rw [hpage]
    exact clean_wordPage hsub hlower (by decide) (by decide +kernel)
  have hscan : (scanned (toAsciiLowercase page) none).any (¬ ·.kind.IsPassedOver) = true := by
    rw [hpage, toAsciiLowercase_wordPage, hlower, scanned_wordPage hsub]
    decide
  obtain ⟨entry, hentry, hkind⟩ := (Option.any_eq_true _ _).mp hscan
  have hpass := (detectors_pass_iff page).mp (h page hclean)
  rw [hentry] at hpass
  exact absurd hpass (of_decide_eq_true hkind)

end CrwShield.Server
