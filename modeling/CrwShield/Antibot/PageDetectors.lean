import CrwShield.Antibot.HeaderOrder

/-!
# Detectors that see the page alone

Crate `antibot`, `src/crates/antibot/src/challenge_detect.rs:19–45`. The two older detectors
diagnose a page without its status and headers, so one short token is enough for them where a
diagnosis at status 200 asks for more.
-/

open CrwShield.Base CrwShield.Base.Str

namespace CrwShield.Antibot

/-- The kinds of catalogue rows that neither detector reacts to. -/
def SituationKind.IsPassedOver (kind : SituationKind) : Prop :=
  kind = .geoBlocked ∨ kind = .loginWall

instance (kind : SituationKind) : Decidable kind.IsPassedOver :=
  inferInstanceAs (Decidable (_ ∨ _))

/-- The test of `detect_empty_or_blocked` on the kind; `challenge_detect.rs:38–44`. -/
private def blockedKind (kind : SituationKind) : Bool :=
  kind = .jsOnly || kind = .serverError || kind = .rateLimited || kind = .softNotFound ||
    (kind ≠ .cleanSuccess && kind.isAntiBot)

private theorem blockedKind_row :
    ∀ entry ∈ providers.all, blockedKind entry.kind = false ↔ entry.kind.IsPassedOver := by
  decide

/-- The kinds passed over are no blocks. -/
theorem isAntiBot_of_isPassedOver {kind : SituationKind} (h : kind.IsPassedOver) :
    kind.isAntiBot = false := by
  rcases h with rfl | rfl <;> rfl

/-- No row of the catalogue is for a clean page. -/
theorem providers.kind_ne_cleanSuccess :
    ∀ entry ∈ providers.all, entry.kind ≠ .cleanSuccess := by
  decide

section Page

variable {html : Str} {headers : Option (List (Str × Str))} {statusCode : Option Nat}

/-- Past the header and the status stage, a page is diagnosed by the row the scan names, or else by
its size. -/
theorem diagnose_scan
    (hheader : headerStage (toAsciiLowercase html) statusCode headers = none)
    (hstatus : statusStage statusCode = none) :
    diagnose html statusCode headers =
      match scanned (toAsciiLowercase html) statusCode with
      | some entry => tokenReport (toAsciiLowercase html) statusCode entry
      | none => (sizeStage html statusCode).getD
          { SituationReport.clean with statusCode := statusCode } := by
  rw [diagnose, hheader, hstatus, Option.none_or, Option.none_or, tokenStage_eq]
  cases scanned (toAsciiLowercase html) statusCode <;> rfl

/-- The detectors pass a page exactly when the scan without a status names a row they pass over, or
no row and the page is not too small. -/
theorem detectors_pass_iff (html : Str) :
    (detectEmptyOrBlocked html = false ∧ detectChallenge html = none) ↔
      match scanned (toAsciiLowercase html) none with
      | some entry => entry.kind.IsPassedOver
      | none => detectEmptyOrBlockedHtml html = false := by
  change blockedKind (diagnose html none none).kind = false ∧
    (if (diagnose html none none).kind.isAntiBot then _ else none) = none ↔ _
  rw [diagnose_scan rfl rfl]
  cases hscan : scanned (toAsciiLowercase html) none with
  | some entry =>
    have hrow := blockedKind_row entry (scanned_some hscan).1
    constructor
    · intro h
      exact hrow.mp h.1
    · intro h
      refine ⟨hrow.mpr h, ?_⟩
      change (if entry.kind.isAntiBot then _ else none) = none
      rw [isAntiBot_of_isPassedOver h]
      rfl
  | none =>
    by_cases hsize : detectEmptyOrBlockedHtml html = true
    · simp [sizeStage, hsize, buildReport, blockedKind]
    · simp [sizeStage, hsize, SituationReport.clean, blockedKind, SituationKind.isAntiBot]

/-- The detectors pass a page whose scan names a row they pass over. -/
theorem detectors_pass_of_scanned
    (h : (scanned (toAsciiLowercase html) none).any (·.kind.IsPassedOver) = true) :
    detectEmptyOrBlocked html = false ∧ detectChallenge html = none := by
  obtain ⟨entry, hentry, hkind⟩ := (Option.any_eq_true _ _).mp h
  rw [detectors_pass_iff, hentry]
  exact of_decide_eq_true hkind

private theorem headerHit_kind {n : Str} {ev : HeaderHit} (h : headerHit n = some ev) :
    ev.kind ≠ .cleanSuccess := by
  unfold headerHit at h
  repeat' split at h
  all_goals
    cases h
    try exact SituationKind.noConfusion

private theorem headerStage_kind {lower : Str} {r : SituationReport}
    (h : headerStage lower statusCode headers = some r) : r.kind ≠ .cleanSuccess := by
  change (headers.bind matchHeader).bind (headerOutcome lower statusCode) = some r at h
  obtain ⟨ev, hev, hout⟩ := Option.bind_eq_some_iff.mp h
  obtain ⟨hs, -, hmatch⟩ := Option.bind_eq_some_iff.mp hev
  obtain ⟨header, -, hhit⟩ := List.exists_of_findSome?_eq_some hmatch
  rw [headerOutcome_eq_some hout]
  exact headerHit_kind hhit

/-- A page of status 200 is clean exactly when the headers report nothing, no row has two tokens or
a long one, and the page is not too small. -/
theorem clean_ok_iff :
    (diagnose html (some 200) headers).kind = .cleanSuccess ↔
      headerStage (toAsciiLowercase html) (some 200) headers = none ∧
        scanned (toAsciiLowercase html) (some 200) = none ∧
        detectEmptyOrBlockedHtml html = false := by
  cases hheader : headerStage (toAsciiLowercase html) (some 200) headers with
  | some r =>
    rw [diagnose, hheader, Option.some_or, Option.getD_some]
    simp [headerStage_kind hheader]
  | none =>
    rw [diagnose_scan hheader rfl]
    cases hscan : scanned (toAsciiLowercase html) (some 200) with
    | some entry =>
      simp [tokenReport, buildReport, providers.kind_ne_cleanSuccess entry (scanned_some hscan).1]
    | none =>
      by_cases hsize : detectEmptyOrBlockedHtml html = true
      · simp [sizeStage, hsize, buildReport]
      · simp [sizeStage, hsize, SituationReport.clean]

/-- The report of a page that is clean at status 200 has nothing else to say. -/
theorem diagnose_clean (hclean : (diagnose html (some 200) headers).kind = .cleanSuccess) :
    diagnose html (some 200) headers = { SituationReport.clean with statusCode := some 200 } := by
  obtain ⟨hheader, hscan, hsize⟩ := clean_ok_iff.mp hclean
  rw [diagnose_scan hheader rfl, hscan]
  simp [sizeStage, hsize]

/-- For a page that is clean at status 200 the detectors ask for a row with one token. -/
theorem detectors_pass_clean_iff
    (hclean : (diagnose html (some 200) headers).kind = .cleanSuccess) :
    (detectEmptyOrBlocked html = false ∧ detectChallenge html = none) ↔
      ∀ first, providers.all.find? (hasOne (toAsciiLowercase html)) = some first →
        first.kind.IsPassedOver := by
  obtain ⟨-, hscan, hsize⟩ := clean_ok_iff.mp hclean
  have htwo := (Option.or_eq_none_iff.mp hscan).1
  rw [detectors_pass_iff, scanned_of_ne (by simp), htwo, Option.none_or]
  cases providers.all.find? (hasOne (toAsciiLowercase html)) with
  | some first => simp
  | none => simp [hsize]

/-- A page of short sole tokens that is not too small is clean at status 200. -/
theorem clean_wordPage {samples : List (Str × SituationKind)} {filler : Nat}
    (h : samples ⊆ soleTokens)
    (hlower : (samples.map Prod.fst).map toAsciiLowercase = samples.map Prod.fst)
    (hshort : ∀ s ∈ samples, len s.1 < singleHitMinLen)
    (hsize : detectEmptyOrBlockedHtml (wordPage (samples.map Prod.fst) filler) = false) :
    (diagnose (wordPage (samples.map Prod.fst) filler) (some 200) none).kind = .cleanSuccess := by
  rw [clean_ok_iff, toAsciiLowercase_wordPage, hlower, scanned_wordPage h]
  refine ⟨rfl, List.find?_eq_none.mpr fun entry hentry ↦ ?_, hsize⟩
  cases hfind : samples.find? (·.2 = entry.kind) with
  | none => simp
  | some s => simp [hshort s (List.mem_of_find?_eq_some hfind)]

end Page
end CrwShield.Antibot
