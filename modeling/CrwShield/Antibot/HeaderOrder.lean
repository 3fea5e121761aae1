import CrwShield.Antibot.TokenScan

/-!
# Headers in any order

Crate `antibot`, `src/crates/antibot/src/situation.rs:313–374,729–797`. The header stage stops at
the first header that names a provider, and the ladder passes the headers in the iteration order of
a hash map (`src/crates/fetch/src/ladder.rs:205–217`).
-/

open CrwShield.Base CrwShield.Base.Str

namespace CrwShield.Antibot

/-- The response was a success, `200..=299`. -/
def IsSuccess (statusCode : Option Nat) : Prop :=
  ∃ code, statusCode = some code ∧ 200 ≤ code ∧ code ≤ 299

/-- A body token of the provider occurs in the page. -/
def Corroborated (lower provider : Str) : Prop :=
  ∃ token ∈ headerBodyTokens provider, contains token lower = true

/-- The provider a header names; `situation.rs:730–731`. -/
def namedBy (header : Str × Str) : Option HeaderHit := headerHit (toAsciiLowercase header.1)

/-- The report of a provider header; `situation.rs:345–371`. -/
def headerReport (statusCode : Option Nat) (ev : HeaderHit) : SituationReport :=
  buildReport ev.kind ev.suggestedLadder statusCode [⟨.header, ev.headerName, ev.providerName⟩]
    (some ev.notes)

/-- What the header stage makes of a provider header; `situation.rs:335–372`. -/
def headerOutcome (lower : Str) (statusCode : Option Nat) (ev : HeaderHit) :
    Option SituationReport :=
  if (statusCode.any fun c ↦ 200 ≤ c && c ≤ 299) &&
      !(headerBodyTokens ev.providerName).any (contains · lower) then none
  else some (headerReport statusCode ev)

/-- What the stages after the headers report; `situation.rs:376–483`. -/
def laterStages (html : Str) (statusCode : Option Nat) : SituationReport :=
  ((statusStage statusCode).or <| (tokenStage (toAsciiLowercase html) statusCode).or <|
    sizeStage html statusCode).getD { SituationReport.clean with statusCode := statusCode }

section Stages

variable {html lower : Str} {statusCode : Option Nat} {headers : Option (List (Str × Str))}
  {ev : HeaderHit} {r : SituationReport}

theorem isSuccess_some {code : Nat} : IsSuccess (some code) ↔ 200 ≤ code ∧ code ≤ 299 := by
  simp [IsSuccess]

/-- A diagnosis is the report of the first provider header, or else that of the later stages. -/
theorem diagnose_eq (html : Str) (statusCode : Option Nat) (headers : Option (List (Str × Str))) :
    diagnose html statusCode headers =
      ((headers.bind matchHeader).bind (headerOutcome (toAsciiLowercase html) statusCode)).getD
        (laterStages html statusCode) := by
  rw [diagnose, laterStages]
  change (Option.or (headerStage _ _ _) _).getD _ = (headerStage _ _ _).getD _
  cases headerStage (toAsciiLowercase html) statusCode headers <;> rfl

theorem headerOutcome_eq_none :
    headerOutcome lower statusCode ev = none ↔
      IsSuccess statusCode ∧ ¬ Corroborated lower ev.providerName := by
  have hsucc : (statusCode.any fun c ↦ 200 ≤ c && c ≤ 299) = true ↔ IsSuccess statusCode := by
    cases statusCode <;> simp [IsSuccess]
  have hcorr : (headerBodyTokens ev.providerName).any (contains · lower) = true ↔
      Corroborated lower ev.providerName := List.any_eq_true
  rw [headerOutcome, ← hsucc, ← hcorr]
  generalize statusCode.any _ = success
  generalize (headerBodyTokens ev.providerName).any _ = corroborated
  cases success <;> cases corroborated <;> simp

theorem headerOutcome_eq_some (h : headerOutcome lower statusCode ev = some r) :
    r = headerReport statusCode ev := by
  unfold headerOutcome at h
  split at h
  · exact absurd h (by simp)
  · exact (Option.some.inj h).symm

private theorem noHeader_statusStage (h : statusStage statusCode = some r) :
    ∀ e ∈ r.evidence, e.kind ≠ .header := by
  simp only [statusStage, Option.bind_eq_some_iff] at h
  obtain ⟨code, -, h⟩ := h
  split at h
  · rw [← Option.some.inj h]
    simp [buildReport]
  · split at h
    · rw [← Option.some.inj h]
      simp [buildReport]
    · exact absurd h (by simp)

private theorem noHeader_tokenStage (h : tokenStage lower statusCode = some r) :
    ∀ e ∈ r.evidence, e.kind ≠ .header := by
  rw [tokenStage_eq] at h
  obtain ⟨entry, -, rfl⟩ := Option.map_eq_some_iff.mp h
  intro e he
  obtain ⟨hit, -, rfl⟩ := List.mem_map.mp he
  exact EvidenceKind.noConfusion

private theorem noHeader_sizeStage (h : sizeStage html statusCode = some r) :
    ∀ e ∈ r.evidence, e.kind ≠ .header := by
  unfold sizeStage at h
  split at h
  · rw [← Option.some.inj h]
    simp [buildReport]
  · exact absurd h (by simp)

/-- Only the header stage cites a header. -/
theorem noHeader_laterStages (html : Str) (statusCode : Option Nat) :
    ∀ e ∈ (laterStages html statusCode).evidence, e.kind ≠ .header := by
  unfold laterStages
  cases hs : statusStage statusCode with
  | some r => exact noHeader_statusStage hs
  | none =>
    cases ht : tokenStage (toAsciiLowercase html) statusCode with
    | some r => exact noHeader_tokenStage ht
    | none =>
      cases hz : sizeStage html statusCode with
      | some r => exact noHeader_sizeStage hz
      | none => simp [SituationReport.clean]

theorem headerReport_ne_laterStages :
    headerReport statusCode ev ≠ laterStages html statusCode := by
  intro h
  have hnot := noHeader_laterStages html statusCode
  rw [← h] at hnot
  exact hnot ⟨.header, ev.headerName, ev.providerName⟩ (by simp [headerReport, buildReport]) rfl

end Stages

section Providers

/-- The providers that headers name; `situation.rs:732–794`. -/
private def headerProviders : List HeaderHit :=
  [⟨"cf-ray", "cloudflare_iuam", .cloudflareIuam, .cdp, "Cloudflare Ray ID present."⟩,
   ⟨"x-iinfo", "imperva_incapsula", .impervaIncapsula, .cdp,
    "Imperva / Incapsula headers present."⟩,
   ⟨"x-akamai-transformed", "akamai_bot_manager", .akamaiBotManager, .cdp,
    "Akamai headers present."⟩,
   ⟨"x-dd-b", "datadome_captcha", .dataDomeCaptcha, .flareSolverr, "DataDome headers present."⟩,
   ⟨"x-kpsdk-ct", "kasada", .kasada, .flareSolverr, "Kasada SDK headers present."⟩,
   ⟨"x-px-cookie", "perimeterx", .perimeterX, .flareSolverr, "PerimeterX headers present."⟩,
   ⟨"x-amzn-requestid", "aws_waf", .awsWaf, .cdp, "AWS WAF headers present."⟩]

private theorem headerHit_mem {n : Str} {ev : HeaderHit} (h : headerHit n = some ev) :
    ev ∈ headerProviders := by
  unfold headerHit at h
  unfold headerProviders
  repeat' split at h
  all_goals
    cases h
    try simp only [List.mem_cons, true_or, or_true]

/-- A provider is named by its name. -/
theorem namedBy_inj {a b : Str × Str} {x y : HeaderHit} (hx : namedBy a = some x)
    (hy : namedBy b = some y) (h : x.providerName = y.providerName) : x = y := by
  have hnodup : (headerProviders.map HeaderHit.providerName).Nodup := by decide
  exact List.inj_on_of_nodup_map hnodup (headerHit_mem hx) (headerHit_mem hy) h

end Providers

section Order

variable {html lower : Str} {statusCode : Option Nat}

/-- Two provider headers lead to one report exactly when they name one provider or are both
dropped. -/
private theorem outcome_eq_iff {x y : HeaderHit} (hxy : x.providerName = y.providerName → x = y) :
    ((some x).bind (headerOutcome (toAsciiLowercase html) statusCode)).getD
        (laterStages html statusCode) =
      ((some y).bind (headerOutcome (toAsciiLowercase html) statusCode)).getD
        (laterStages html statusCode) ↔
      (x.providerName ≠ y.providerName → IsSuccess statusCode ∧
        ¬ Corroborated (toAsciiLowercase html) x.providerName ∧
        ¬ Corroborated (toAsciiLowercase html) y.providerName) := by
  rw [Option.bind_some, Option.bind_some]
  cases hx : headerOutcome (toAsciiLowercase html) statusCode x with
  | none =>
    have hx' := headerOutcome_eq_none.mp hx
    cases hy : headerOutcome (toAsciiLowercase html) statusCode y with
    | none =>
      have hy' := headerOutcome_eq_none.mp hy
      exact ⟨fun _ _ ↦ ⟨hx'.1, hx'.2, hy'.2⟩, fun _ ↦ rfl⟩
    | some r =>
      obtain rfl := headerOutcome_eq_some hy
      constructor
      · intro h
        exact absurd h.symm headerReport_ne_laterStages
      · intro h
        by_cases hname : x.providerName = y.providerName
        · rw [hxy hname, hy] at hx
          exact absurd hx (by simp)
        · have hnone := headerOutcome_eq_none.mpr ⟨hx'.1, (h hname).2.2⟩
          rw [hy] at hnone
          exact absurd hnone (by simp)
  | some r =>
    obtain rfl := headerOutcome_eq_some hx
    cases hy : headerOutcome (toAsciiLowercase html) statusCode y with
    | none =>
      have hy' := headerOutcome_eq_none.mp hy
      constructor
      · intro h
        exact absurd h headerReport_ne_laterStages
      · intro h
        by_cases hname : x.providerName = y.providerName
        · rw [hxy hname, hy] at hx
          exact absurd hx (by simp)
        · have hnone := headerOutcome_eq_none.mpr ⟨hy'.1, (h hname).2.1⟩
          rw [hx] at hnone
          exact absurd hnone (by simp)
    | some r' =>
      obtain rfl := headerOutcome_eq_some hy
      rw [Option.getD_some, Option.getD_some]
      constructor
      · intro h hname
        simp only [headerReport, buildReport, SituationReport.mk.injEq, List.cons.injEq,
          Evidence.mk.injEq] at h
        exact absurd h.2.2.2.1.1.2.2 hname
      · intro h
        by_cases hname : x.providerName = y.providerName
        · rw [hxy hname]
        · have hnone := headerOutcome_eq_none.mpr ⟨(h hname).1, (h hname).2.1⟩
          rw [hx] at hnone
          exact absurd hnone (by simp)

/-- A diagnosis is the same for every order of the headers exactly when any two of them that name
different providers come with a success whose page corroborates neither. -/
theorem diagnose_perm_iff (html : Str) (statusCode : Option Nat) (headers : List (Str × Str)) :
    (∀ headers' : List (Str × Str), headers'.Perm headers →
        diagnose html statusCode (some headers') = diagnose html statusCode (some headers)) ↔
      ∀ a ∈ headers, ∀ b ∈ headers, ∀ x y, namedBy a = some x → namedBy b = some y →
        x.providerName ≠ y.providerName →
          IsSuccess statusCode ∧ ¬ Corroborated (toAsciiLowercase html) x.providerName ∧
            ¬ Corroborated (toAsciiLowercase html) y.providerName := by
  simp only [diagnose_eq, Option.bind_some]
  refine (forall_perm_findSome?_iff (f := namedBy) (fun ev ↦
    (ev.bind (headerOutcome (toAsciiLowercase html) statusCode)).getD
      (laterStages html statusCode)) headers).trans ?_
  constructor
  · intro h a ha b hb x y hx hy
    exact (outcome_eq_iff (namedBy_inj hx hy)).mp (h a ha b hb x y hx hy)
  · intro h a ha b hb x y hx hy
    exact (outcome_eq_iff (namedBy_inj hx hy)).mpr (h a ha b hb x y hx hy)

/-- A forbidden page with a Cloudflare and a DataDome header is diagnosed by whichever comes
first. -/
theorem diagnose_swap_ne :
    ¬ ∀ (html : Str) (statusCode : Option Nat) (headers headers' : List (Str × Str)),
      headers'.Perm headers →
        diagnose html statusCode (some headers') = diagnose html statusCode (some headers) := by
  intro h
  have hswap := h [] (some 403) [("cf-ray", "1"), ("x-datadome", "1")]
    [("x-datadome", "1"), ("cf-ray", "1")] (List.Perm.swap _ _ _)
  have hkind := congrArg SituationReport.kind hswap
  exact absurd hkind (by decide)

end Order
end CrwShield.Antibot
