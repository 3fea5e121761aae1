import CrwShield.Antibot.Providers
import CrwShield.Base.Toml
import Mathlib.Data.List.Nodup

/-!
# The loader of the provider catalogue

Crate `antibot`, `src/crates/antibot/src/situation.rs:595–717`: the embedded TOML text is parsed,
and each table under `providers` becomes a row. What is loaded is well formed, a document that
describes a well-formed catalogue is loaded as that catalogue, and an error is that of the first
table at fault.
-/

open CrwShield.Base CrwShield.Base.Str

namespace CrwShield.Antibot.providers

/-- The keys of the catalogue and their kinds; `situation.rs:675–707`. -/
def tomlKeys : List (Str × SituationKind) :=
  [("cloudflare_iuam", .cloudflareIuam), ("cloudflare_turnstile", .cloudflareTurnstile),
   ("datadome_captcha", .dataDomeCaptcha), ("akamai_bot_manager", .akamaiBotManager),
   ("imperva_incapsula", .impervaIncapsula), ("fastly_edge_challenge", .fastlyEdgeChallenge),
   ("perimeterx", .perimeterX), ("recaptcha", .recaptcha), ("hcaptcha", .hcaptcha),
   ("aws_waf", .awsWaf), ("shape_security", .shapeSecurity), ("kasada", .kasada),
   ("friendly_captcha", .friendlyCaptcha), ("geetest", .geeTest), ("funcaptcha", .funcaptcha),
   ("yandex_smartcaptcha", .yandexSmartCaptcha), ("distil", .distil), ("reblaze", .reblaze),
   ("generic_fingerprint", .genericFingerprint), ("generic_access_denied", .genericAccessDenied),
   ("generic_verify", .genericVerify), ("generic_cdn_block", .genericCdnBlock),
   ("generic_rate_limit", .rateLimited), ("geo_block", .geoBlocked), ("login_wall", .loginWall),
   ("soft_404", .softNotFound), ("server_error", .serverError), ("js_only", .jsOnly)]

/-- The kind of a key; `situation.rs:675–707`. -/
def situationKindFromTomlKey (key : Str) : Option SituationKind :=
  (tomlKeys.find? fun k ↦ k.1 = key).map Prod.snd

section Loader

variable (debug : Str → Str)

/-- The ladder step of a name; `situation.rs:709–717`. Debug formatting is a parameter. -/
def ladderFromStr (s : Str) : Except Str SuggestedLadder :=
  if s = "none" then .ok .none
  else if s = "cdp" then .ok .cdp
  else if s = "flaresolverr" then .ok .flareSolverr
  else if s = "retry-with-delay" then .ok .retryWithDelay
  else .error ("unknown suggested_ladder " ++ debug s)

/-- The row of a table; `situation.rs:623–668`. -/
def providerRow (name : Str) (value : Toml) : Except Str ProviderEntry :=
  match value.asTable with
  | none => .error ("provider " ++ name ++ " is not a table")
  | some entryTable =>
    match situationKindFromTomlKey name with
    | none =>
      .error ("provider " ++ name ++ " has no matching SituationKind — add a mapping in " ++
        "`situation_kind_from_toml_key`")
    | some kind =>
      let suggestedLadder := ((Toml.get? "suggested_ladder" entryTable).bind Toml.asStr).map
        (ladderFromStr debug)
      match suggestedLadder.getD (.ok .cdp) with
      | .error e => .error e
      | .ok suggestedLadder =>
        let tokens := (((Toml.get? "tokens" entryTable).bind Toml.asArray).map fun arr ↦
          arr.filterMap Toml.asStr).getD []
        .ok {
          name := name
          kind := kind
          suggestedLadder := suggestedLadder
          tokensLower := tokens.map toAsciiLowercase
          notes := ((Toml.get? "notes" entryTable).bind Toml.asStr).getD [] }

/-- The rows of the tables, up to the first error; `situation.rs:621–669`. -/
def providerRows : List (Str × Toml) → Except Str (List ProviderEntry)
  | [] => .ok []
  | m :: ms =>
    match providerRow debug m.1 m.2 with
    | .error e => .error e
    | .ok row =>
      match providerRows ms with
      | .error e => .error e
      | .ok rows => .ok (row :: rows)

/-- The table of providers in a parsed document; `situation.rs:612–619`. -/
def providersTable (root : Toml) : Except Str (List (Str × Toml)) :=
  match root.asTable with
  | none => .error "root is not a table"
  | some table =>
    match (Toml.get? "providers" table).bind Toml.asTable with
    | none => .error "missing [providers] table"
    | some providers => .ok providers

/-- Load a catalogue; `situation.rs:611–670`. The parser is that of the crate `toml`. -/
def parseProviders (fromStr : Str → Except Str Toml) (s : Str) :
    Except Str (List ProviderEntry) :=
  match fromStr s with
  | .error e => .error e
  | .ok root =>
    match providersTable root with
    | .error e => .error e
    | .ok providers => providerRows debug providers

end Loader

/-- Rows in the order of their names, each with the kind of its name and with folded tokens. -/
structure WellFormed (rows : List ProviderEntry) : Prop where
  names : (rows.map ProviderEntry.name).Pairwise (· < ·)
  kinds : ∀ r ∈ rows, situationKindFromTomlKey r.name = some r.kind
  tokens : ∀ r ∈ rows, ∀ t ∈ r.tokensLower, toAsciiLowercase t = t

/-- The name that the loader reads as a ladder step. -/
def ladderName : SuggestedLadder → Str
  | .none => "none"
  | .cdp => "cdp"
  | .flareSolverr => "flaresolverr"
  | .retryWithDelay => "retry-with-delay"

/-- A table says what a row says, with tokens in any case and with any other members. -/
structure Describes (table : List (Str × Toml)) (r : ProviderEntry) : Prop where
  ladder : Toml.get? "suggested_ladder" table = some (.string (ladderName r.suggestedLadder))
  tokens : ∃ tokens : List Str, Toml.get? "tokens" table = some (.array (tokens.map .string)) ∧
    tokens.map toAsciiLowercase = r.tokensLower
  notes : Toml.get? "notes" table = some (.string r.notes)

/-- A member of the document that describes a row under its name. -/
def DescribedBy (m : Str × Toml) (r : ProviderEntry) : Prop :=
  m.1 = r.name ∧ ∃ table, m.2 = .table table ∧ Describes table r

section Kinds

theorem nodup_tomlKeys : (tomlKeys.map Prod.snd).Nodup := by
  decide

/-- No two keys have one kind. -/
theorem situationKindFromTomlKey_inj {key key' : Str} {kind : SituationKind}
    (h : situationKindFromTomlKey key = some kind)
    (h' : situationKindFromTomlKey key' = some kind) : key = key' := by
  obtain ⟨k, hk, rfl⟩ := Option.map_eq_some_iff.mp h
  obtain ⟨k', hk', heq⟩ := Option.map_eq_some_iff.mp h'
  have hsame : k' = k :=
    List.inj_on_of_nodup_map nodup_tomlKeys (List.mem_of_find?_eq_some hk')
      (List.mem_of_find?_eq_some hk) heq
  have hkey : k.1 = key := by simpa using List.find?_some hk
  have hkey' : k'.1 = key' := by simpa using List.find?_some hk'
  rw [← hkey, ← hkey', hsame]

/-- The rows of a well-formed catalogue have kinds of their own. -/
theorem WellFormed.nodup_kinds {rows : List ProviderEntry} (h : WellFormed rows) :
    (rows.map ProviderEntry.kind).Nodup := by
  have hnames : rows.Pairwise fun r r' ↦ r.name < r'.name := List.pairwise_map.mp h.names
  rw [List.Nodup, List.pairwise_map]
  refine hnames.imp_of_mem fun {r r'} hr hr' hlt hkind ↦ ?_
  have hname : r.name = r'.name :=
    situationKindFromTomlKey_inj (h.kinds r hr) (hkind ▸ h.kinds r' hr')
  rw [hname] at hlt
  exact List.lt_irrefl _ hlt

end Kinds

section Rows

variable {debug : Str → Str} {m : Str × Toml} {ms : List (Str × Toml)} {r : ProviderEntry}
  {rows : List ProviderEntry}

/-- The name of a ladder step is read as that step. -/
theorem ladderFromStr_ladderName (l : SuggestedLadder) :
    ladderFromStr debug (ladderName l) = .ok l := by
  cases l <;> rfl

/-- What a row has of its table. -/
theorem providerRow_ok (h : providerRow debug m.1 m.2 = .ok r) :
    r.name = m.1 ∧ situationKindFromTomlKey m.1 = some r.kind ∧
      ∀ t ∈ r.tokensLower, toAsciiLowercase t = t := by
  unfold providerRow at h
  split at h
  · exact absurd h (by simp)
  · split at h
    · exact absurd h (by simp)
    · next kind hkind =>
      dsimp only at h
      split at h
      · exact absurd h (by simp)
      · obtain rfl := Except.ok.inj h
        refine ⟨rfl, hkind, fun t ht ↦ ?_⟩
        obtain ⟨token, -, rfl⟩ := List.mem_map.mp ht
        exact toAsciiLowercase_idem token

/-- A table that describes a row is read as that row. -/
theorem providerRow_of_describes (hkind : situationKindFromTomlKey r.name = some r.kind)
    (h : DescribedBy m r) : providerRow debug m.1 m.2 = .ok r := by
  obtain ⟨hname, table, htable, hladder, ⟨tokens, htokens, hlower⟩, hnotes⟩ := h
  have hstrings : (tokens.map Toml.string).filterMap Toml.asStr = tokens := by
    rw [List.filterMap_map]
    exact List.filterMap_some
  unfold providerRow
  simp only [hname, htable, Toml.asTable, hkind, hladder, htokens, hnotes, Option.bind_some,
    Toml.asStr, Toml.asArray, Option.map_some, Option.getD_some, ladderFromStr_ladderName, hstrings,
    hlower]

/-- The rows are those of the tables, one for each. -/
theorem providerRows_ok_iff :
    providerRows debug ms = .ok rows ↔
      List.Forall₂ (fun m r ↦ providerRow debug m.1 m.2 = .ok r) ms rows := by
  induction ms generalizing rows with
  | nil =>
    simp only [providerRows, List.forall₂_nil_left_iff, Except.ok.injEq]
    exact eq_comm
  | cons m ms ih =>
    rw [List.forall₂_cons_left_iff]
    unfold providerRows
    cases hrow : providerRow debug m.1 m.2 with
    | error e => simp
    | ok row =>
      dsimp only
      cases hrest : providerRows debug ms with
      | error e =>
        have hnone : ∀ rows, ¬ List.Forall₂ (fun m r ↦ providerRow debug m.1 m.2 = .ok r) ms rows :=
          fun rows h ↦ absurd (hrest.symm.trans (ih.mpr h)) (by simp)
        simp [hnone]
      | ok rest =>
        constructor
        · intro h
          exact ⟨row, rest, rfl, ih.mp hrest, (Except.ok.inj h).symm⟩
        · rintro ⟨row', rest', hrow', hrest', rfl⟩
          have hsame := hrest.symm.trans (ih.mpr hrest')
          rw [Except.ok.inj hrow', Except.ok.inj hsame]

/-- An error is that of a table behind tables that are read. -/
theorem providerRows_error {e : Str} (h : providerRows debug ms = .error e) :
    ∃ before m after, ms = before ++ m :: after ∧ (∃ rows, providerRows debug before = .ok rows) ∧
      providerRow debug m.1 m.2 = .error e := by
  induction ms with
  | nil => exact absurd h (by simp [providerRows])
  | cons m ms ih =>
    unfold providerRows at h
    cases hrow : providerRow debug m.1 m.2 with
    | error e' =>
      rw [hrow] at h
      obtain rfl := Except.error.inj h
      exact ⟨[], m, ms, rfl, ⟨[], rfl⟩, hrow⟩
    | ok row =>
      rw [hrow] at h
      dsimp only at h
      cases hrest : providerRows debug ms with
      | ok rest => rw [hrest] at h; exact absurd h (by simp)
      | error e' =>
        rw [hrest] at h
        obtain rfl := Except.error.inj h
        obtain ⟨before, m', after, rfl, ⟨rows, hbefore⟩, hm'⟩ := ih hrest
        refine ⟨m :: before, m', after, rfl, ⟨row :: rows, ?_⟩, hm'⟩
        rw [providerRows, hrow, hbefore]

/-- Rows of tables in key order are well formed. -/
theorem wellFormed_of_rows (hkeys : (ms.map Prod.fst).Pairwise (· < ·))
    (h : providerRows debug ms = .ok rows) : WellFormed rows := by
  have hrows := providerRows_ok_iff.mp h
  have hnames : rows.map ProviderEntry.name = ms.map Prod.fst := by
    clear hkeys h
    induction hrows with
    | nil => rfl
    | cons hrow _ ih => rw [List.map_cons, List.map_cons, ih, (providerRow_ok hrow).1]
  have hrow : ∀ r ∈ rows, ∃ m : Str × Toml, providerRow debug m.1 m.2 = .ok r := by
    clear hkeys h hnames
    induction hrows with
    | nil => simp
    | @cons m r _ _ hrow _ ih =>
      intro r' hr'
      rcases List.mem_cons.mp hr' with rfl | hr'
      · exact ⟨m, hrow⟩
      · exact ih r' hr'
  refine ⟨hnames ▸ hkeys, fun r hr ↦ ?_, fun r hr ↦ ?_⟩
  · obtain ⟨m, hm⟩ := hrow r hr
    rw [(providerRow_ok hm).1]
    exact (providerRow_ok hm).2.1
  · obtain ⟨m, hm⟩ := hrow r hr
    exact (providerRow_ok hm).2.2

/-- Tables that describe the rows of a well-formed catalogue are read as these rows. -/
theorem providerRows_of_describes
    (hrows : ∀ r ∈ rows, situationKindFromTomlKey r.name = some r.kind)
    (h : List.Forall₂ DescribedBy ms rows) : providerRows debug ms = .ok rows := by
  rw [providerRows_ok_iff]
  induction h with
  | nil => exact .nil
  | @cons m r ms rows hm _ ih =>
    exact .cons (providerRow_of_describes (hrows r (by simp)) hm)
      (ih fun r hr ↦ hrows r (List.mem_cons_of_mem _ hr))

end Rows

/-- The member of a document for a row. -/
def rowTable (r : ProviderEntry) : Str × Toml :=
  (r.name, .table [("notes", .string r.notes),
    ("suggested_ladder", .string (ladderName r.suggestedLadder)),
    ("tokens", .array (r.tokensLower.map .string))])

/-- A document with the rows of a catalogue. -/
def document (rows : List ProviderEntry) : Toml :=
  .table [("providers", .table (rows.map rowTable))]

section Document

variable {r : ProviderEntry} {rows : List ProviderEntry}

theorem describedBy_rowTable (h : ∀ t ∈ r.tokensLower, toAsciiLowercase t = t) :
    DescribedBy (rowTable r) r := by
  have hfolded : r.tokensLower.map toAsciiLowercase = r.tokensLower := by
    conv_rhs => rw [← List.map_id r.tokensLower]
    exact List.map_congr_left h
  exact ⟨rfl, _, rfl, rfl, ⟨r.tokensLower, rfl, hfolded⟩, rfl⟩

/-- The document describes the catalogue. -/
theorem describes_document (h : WellFormed rows) :
    List.Forall₂ DescribedBy (rows.map rowTable) rows := by
  have htokens := h.tokens
  clear h
  induction rows with
  | nil => exact .nil
  | cons r rows ih =>
    exact .cons (describedBy_rowTable (htokens r (by simp)))
      (ih fun r hr ↦ htokens r (List.mem_cons_of_mem _ hr))

theorem ordered_rowTable (r : ProviderEntry) : (rowTable r).2.Ordered := by
  have hkeys : (["notes", "suggested_ladder", "tokens"] : List Str).Pairwise (· < ·) := by decide
  refine .table hkeys ?_
  simp only [List.mem_cons, List.not_mem_nil, or_false]
  rintro m (rfl | rfl | rfl)
  · exact .string
  · exact .string
  · refine .array fun v hv ↦ ?_
    obtain ⟨s, -, rfl⟩ := List.mem_map.mp hv
    exact .string

/-- The document of a well-formed catalogue has its keys in order. -/
theorem ordered_document (h : WellFormed rows) : (document rows).Ordered := by
  refine .table (by simp) ?_
  simp only [List.mem_singleton]
  rintro m rfl
  refine .table ?_ fun m hm ↦ ?_
  · rw [List.map_map]
    exact h.names
  · obtain ⟨r, -, rfl⟩ := List.mem_map.mp hm
    exact ordered_rowTable r

end Document

-- The literals are turned into lists of characters first, the kernel is slow to read them.
private theorem all_rows :
    ∀ r ∈ all, situationKindFromTomlKey r.name = some r.kind ∧
      ∀ t ∈ r.tokensLower, toAsciiLowercase t = t := by
  simp only [all, List.forall_mem_cons]
  and_intros
  all_goals
    dsimp only [situationKindFromTomlKey, tomlKeys,
      akamaiBotManager, awsWaf, cloudflareIuam, cloudflareTurnstile, datadomeCaptcha, distil,
      fastlyEdgeChallenge, friendlyCaptcha, funcaptcha, geetest, genericAccessDenied,
      genericCdnBlock, genericFingerprint, genericRateLimit, genericVerify, geoBlock, hcaptcha,
      impervaIncapsula, jsOnly, kasada, loginWall, perimeterx, reblaze, recaptcha, serverError,
      shapeSecurity, soft404, yandexSmartcaptcha]
    repeat rw [String.toList_ofList]
    decide

private theorem all_names : (all.map ProviderEntry.name).Pairwise (· < ·) := by
  dsimp only [all, List.map,
    akamaiBotManager, awsWaf, cloudflareIuam, cloudflareTurnstile, datadomeCaptcha, distil,
    fastlyEdgeChallenge, friendlyCaptcha, funcaptcha, geetest, genericAccessDenied,
    genericCdnBlock, genericFingerprint, genericRateLimit, genericVerify, geoBlock, hcaptcha,
    impervaIncapsula, jsOnly, kasada, loginWall, perimeterx, reblaze, recaptcha, serverError,
    shapeSecurity, soft404, yandexSmartcaptcha]
  repeat rw [String.toList_ofList]
  decide

/-- The embedded catalogue is well formed. -/
theorem wellFormed_all : WellFormed all where
  names := all_names
  kinds r hr := (all_rows r hr).1
  tokens r hr := (all_rows r hr).2

/-- What is loaded is well formed, each kind under one name; a text that describes a well-formed
catalogue, and there is a document for each, is loaded as that catalogue; an error is that of the
parser, of a missing table, or of the first table at fault; and the embedded catalogue is well
formed. -/
structure CatalogueSound (debug : Str → Str) (fromStr : Str → Except Str Toml) : Prop where
  wellFormed : ∀ {s rows}, parseProviders debug fromStr s = .ok rows →
    WellFormed rows ∧ (rows.map ProviderEntry.kind).Nodup
  readBack : ∀ {s root ms rows}, WellFormed rows → fromStr s = .ok root →
    providersTable root = .ok ms → List.Forall₂ DescribedBy ms rows →
    parseProviders debug fromStr s = .ok rows
  described : ∀ {rows}, WellFormed rows → ∃ root ms, root.Ordered ∧ providersTable root = .ok ms ∧
    List.Forall₂ DescribedBy ms rows
  firstFault : ∀ {s e}, parseProviders debug fromStr s = .error e →
    fromStr s = .error e ∨ ∃ root, fromStr s = .ok root ∧ (providersTable root = .error e ∨
      ∃ before m after, providersTable root = .ok (before ++ m :: after) ∧
        (∃ rows, providerRows debug before = .ok rows ∧ WellFormed rows) ∧
        providerRow debug m.1 m.2 = .error e)
  embedded : WellFormed all

/-- The providers of an ordered document stand in key order. -/
theorem keys_of_providersTable {root : Toml} {ms : List (Str × Toml)} (h : root.Ordered)
    (hms : providersTable root = .ok ms) : (ms.map Prod.fst).Pairwise (· < ·) := by
  unfold providersTable at hms
  split at hms
  · exact absurd hms (by simp)
  · next table htable =>
    split at hms
    · exact absurd hms (by simp)
    · next providers hproviders =>
      obtain rfl := Except.ok.inj hms
      obtain ⟨v, hget, hv⟩ := Option.bind_eq_some_iff.mp hproviders
      rw [Toml.asTable_eq_some htable] at h
      have hordered := h.of_get? hget
      rw [Toml.asTable_eq_some hv] at hordered
      exact hordered.keys

/-- The loader of the catalogue is sound, whatever text it is given. -/
theorem catalogue_sound (debug : Str → Str) {fromStr : Str → Except Str Toml}
    (hordered : ∀ s root, fromStr s = .ok root → root.Ordered) :
    CatalogueSound debug fromStr where
  wellFormed {s rows} h := by
    unfold parseProviders at h
    cases hroot : fromStr s with
    | error e => rw [hroot] at h; exact absurd h (by simp)
    | ok root =>
      rw [hroot] at h
      dsimp only at h
      cases hms : providersTable root with
      | error e => rw [hms] at h; exact absurd h (by simp)
      | ok ms =>
        rw [hms] at h
        have hwell := wellFormed_of_rows (keys_of_providersTable (hordered s root hroot) hms) h
        exact ⟨hwell, hwell.nodup_kinds⟩
  readBack {s root ms rows} hwell hroot hms hrows := by
    unfold parseProviders
    rw [hroot]
    dsimp only
    rw [hms]
    exact providerRows_of_describes hwell.kinds hrows
  described {rows} hwell :=
    ⟨document rows, rows.map rowTable, ordered_document hwell, rfl, describes_document hwell⟩
  firstFault {s e} h := by
    unfold parseProviders at h
    cases hroot : fromStr s with
    | error e' =>
      rw [hroot] at h
      obtain rfl := Except.error.inj h
      exact .inl rfl
    | ok root =>
      rw [hroot] at h
      dsimp only at h
      refine .inr ⟨root, rfl, ?_⟩
      cases hms : providersTable root with
      | error e' =>
        rw [hms] at h
        obtain rfl := Except.error.inj h
        exact .inl rfl
      | ok ms =>
        rw [hms] at h
        obtain ⟨before, m, after, rfl, ⟨rows, hbefore⟩, hm⟩ := providerRows_error h
        have hkeys := keys_of_providersTable (hordered s root hroot) hms
        rw [List.map_append] at hkeys
        exact .inr ⟨before, m, after, rfl,
          ⟨rows, hbefore, wellFormed_of_rows (List.pairwise_append.mp hkeys).1 hbefore⟩, hm⟩
  embedded := wellFormed_all

/-- The section of one provider. -/
def geetestText : Str :=
  ("[providers.geetest]\nkind = \"captcha\"\ntokens = [\n    \"geetest\",\n" : Str) ++
    "    \"gt.js\",\n    \"geetest_\",\n]\nstatus_codes = []\nheaders = []\n" ++
    "suggested_ladder = \"cdp\"\nnotes = \"Captcha. CDP solves; FlareSolverr works.\"\n"

/-- The table of the provider. -/
def geetestTable : List (Str × Toml) :=
  [("headers", .array []), ("kind", .string "captcha"),
   ("notes", .string "Captcha. CDP solves; FlareSolverr works."), ("status_codes", .array []),
   ("suggested_ladder", .string "cdp"),
   ("tokens", .array [.string "geetest", .string "gt.js", .string "geetest_"])]

/-- A parser that reads this section. -/
def geetestParser (s : Str) : Except Str Toml :=
  if s = geetestText then .ok (.table [("providers", .table [("geetest", .table geetestTable)])])
  else .error "TOML parse error at line 1, column 1"

theorem ordered_geetest {s : Str} {root : Toml} (h : geetestParser s = .ok root) :
    root.Ordered := by
  unfold geetestParser at h
  split at h
  · obtain rfl := Except.ok.inj h
    refine .table (by simp) ?_
    simp only [List.mem_singleton]
    rintro m rfl
    refine .table (by simp) ?_
    simp only [List.mem_singleton]
    rintro m rfl
    refine .table (by decide) ?_
    simp only [geetestTable, List.mem_cons, List.not_mem_nil, or_false]
    rintro m (rfl | rfl | rfl | rfl | rfl | rfl)
    · exact .array (by simp)
    · exact .string
    · exact .string
    · exact .array (by simp)
    · exact .string
    · refine .array fun v hv ↦ ?_
      simp only [List.mem_cons, List.not_mem_nil, or_false] at hv
      rcases hv with rfl | rfl | rfl <;> exact .string
  · exact absurd h (by simp)

/-- A text in quotes. -/
def quoted (s : Str) : Str := ("\"" : Str) ++ s ++ "\""

/-- The section is loaded as its row. -/
theorem catalogue_sound_geetest :
    parseProviders quoted geetestParser geetestText = .ok [geetest] ∧
      CatalogueSound quoted geetestParser := by
  have hsound := @catalogue_sound quoted geetestParser fun _ _ h ↦ ordered_geetest h
  have hwell : WellFormed [geetest] := by
    refine ⟨List.pairwise_singleton _ _, fun r hr ↦ ?_, fun r hr ↦ ?_⟩
    · rw [List.mem_singleton.mp hr]
      rfl
    · rw [List.mem_singleton.mp hr]
      decide
  have htable : Describes geetestTable geetest :=
    ⟨rfl, ⟨["geetest", "gt.js", "geetest_"], rfl, rfl⟩, rfl⟩
  have hrow : DescribedBy ("geetest", .table geetestTable) geetest := ⟨rfl, _, rfl, htable⟩
  exact ⟨hsound.readBack hwell (if_pos rfl) rfl (.cons hrow .nil), hsound⟩

end CrwShield.Antibot.providers
