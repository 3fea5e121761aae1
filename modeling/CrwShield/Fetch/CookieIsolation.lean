import CrwShield.Base.Runs
import CrwShield.Fetch.Http

/-!
# Cookies of different sites

Which response set the cookies that a later request carries. The jar built by a history of
responses stores what the last `Set-Cookie` for a bucket and a name said, so isolation is a matter
of which buckets a response may name: `set_from_set_cookie` takes any `Domain`. Which names are
public suffixes, under which different sites lie, is a parameter.
-/

open CrwShield.Base CrwShield.Base.Str CrwShield.Base.Hierarchy CrwShield.Antibot

namespace CrwShield.Fetch

/-- A response of a host to a request of the HTTP fetcher, at the time its cookies are stored. -/
structure SiteResponse (U : UrlCrate) where
  requestUrl : Str
  response : WireResponse U
  host : Str
  hostStr_url : U.hostStr response.url = some host
  now : Option Nat

namespace SiteResponse

variable {U : UrlCrate}

/-- What the fetcher's cookie loop does to the jar; `http.rs:268–281`. -/
def store (jar : CookieJar) (r : SiteResponse U) : CookieJar :=
  storeSetCookies r.now (hostForCookies U (U.toStr r.response.url) r.requestUrl)
    r.response.setCookies jar

/-- The cookies a response asks to store. -/
def cookies (r : SiteResponse U) : List SetCookie := r.response.setCookies.filterMap parseSetCookie

/-- Every `Domain` is the responding host, or a parent domain of it that is no public suffix, or
names no bucket. -/
def OwnDomains (publicSuffix : Str → Prop) (r : SiteResponse U) : Prop :=
  ∀ c ∈ r.cookies, ∀ d, c.domain = some d →
    normalizeHost d = [] ∨ (Under '.' (normalizeHost r.host) (normalizeHost d) ∧
      (publicSuffix (normalizeHost d) → normalizeHost d = normalizeHost r.host))

end SiteResponse

variable {U : UrlCrate}

/-- The last cookie of a history for a bucket and a name, with the response that set it. -/
def lastSetter (history : List (SiteResponse U)) (b n : Str) :
    Option (SiteResponse U × SetCookie) :=
  (history.flatMap fun r ↦ r.cookies.map (r, ·)).findRev? fun p ↦ (p.2.write p.1.host).hits b n

/-- A host may be sent a cookie of another host: without `Domain` it lies under that host, with
`Domain` both lie under it. -/
def Entitled (setter : Str) (cookie : SetCookie) (host : Str) : Prop :=
  match cookie.domain with
  | none => Under '.' (normalizeHost host) (normalizeHost setter)
  | some d => Under '.' (normalizeHost setter) (normalizeHost d) ∧
      Under '.' (normalizeHost host) (normalizeHost d)

/-- A host is outside the domain of another: there is no name that both lie under but public
suffixes, and it does not lie under the other. -/
def Foreign (publicSuffix : Str → Prop) (a b : Str) : Prop :=
  ∀ d, d ≠ [] → Under '.' (normalizeHost a) d → Under '.' (normalizeHost b) d →
    publicSuffix d ∧ d ≠ normalizeHost a

/-- Cookies reach the hosts their setters may set cookies for, and no response changes what a host
outside its own domain is sent. -/
structure Isolated (publicSuffix : Str → Prop) (history : List (SiteResponse U))
    (jar : CookieJar) : Prop where
  /-- Every cookie sent was set last by a response whose host may set it. -/
  entitled : ∀ url u host now b n e, U.parse url = .ok u → U.hostStr u = some host →
    jar.Sends now U url b n e →
      ∃ r c, lastSetter history b n = some (r, c) ∧
        e = ⟨c.value, CookieJar.expiry r.now c.maxAgeSecs⟩ ∧ Entitled r.host c host
  /-- No response plants, replaces or deletes a cookie of a host outside its own domain. -/
  untouched : ∀ before r after, history = before ++ r :: after →
    ∀ url u host now b n e, U.parse url = .ok u → U.hostStr u = some host →
      Foreign publicSuffix r.host host →
      (((before ++ [r]).foldl SiteResponse.store .new).Sends now U url b n e ↔
        (before.foldl SiteResponse.store .new).Sends now U url b n e)

section Histories

variable {publicSuffix : Str → Prop} (hU : U.Lawful)
include hU

private theorem normalizeHost_idem_host (r : SiteResponse U) :
    normalizeHost (normalizeHost r.host) = normalizeHost r.host :=
  normalizeHost_idem (hU.hostStr_noSpace _ _ r.hostStr_url)

/-- The cookie loop is the list of writes of the response's cookies, filed under its host. -/
theorem store_eq (jar : CookieJar) (r : SiteResponse U) :
    SiteResponse.store jar r = jar.setAll r.now (r.cookies.map (·.write r.host)) := by
  have hhost : hostForCookies U (U.toStr r.response.url) r.requestUrl = r.host := by
    simp only [hostForCookies, hU.parse_toStr, Except.toOption, Option.bind_some, r.hostStr_url,
      Option.getD_some]
  rw [SiteResponse.store, hhost, storeSetCookies_eq]
  rfl

/-- One response: what it sets last is stored, the rest stays. -/
theorem lookup_store (jar : CookieJar) (r : SiteResponse U) (b n : Str) :
    (SiteResponse.store jar r).lookup b n =
      ((r.cookies.findRev? fun c ↦ (c.write r.host).hits b n).map fun c ↦
        (c.write r.host).entry r.now).or (jar.lookup b n) := by
  rw [store_eq hU, CookieJar.lookup_setAll, List.findRev?_eq_find?_reverse, ← List.map_reverse,
    List.find?_map, List.findRev?_eq_find?_reverse, Option.map_map]
  rfl

omit hU in
private theorem lastSetter_append (history : List (SiteResponse U)) (r : SiteResponse U)
    (b n : Str) :
    lastSetter (history ++ [r]) b n =
      ((r.cookies.findRev? fun c ↦ (c.write r.host).hits b n).map (r, ·)).or
        (lastSetter history b n) := by
  simp only [lastSetter, List.findRev?_eq_find?_reverse, List.flatMap_append, List.flatMap_cons,
    List.flatMap_nil, List.append_nil, List.reverse_append, List.find?_append, ← List.map_reverse,
    List.find?_map]
  rfl

omit hU in
private theorem mem_of_lastSetter {history : List (SiteResponse U)} {b n : Str}
    {r : SiteResponse U} {c : SetCookie} (h : lastSetter history b n = some (r, c)) :
    r ∈ history ∧ c ∈ r.cookies ∧ normalizeHost (c.storeHost r.host) = b := by
  rw [lastSetter, List.findRev?_eq_find?_reverse] at h
  have hm := List.mem_of_find?_eq_some h
  obtain ⟨r', hr, hmap⟩ := List.mem_flatMap.mp (List.mem_reverse.mp hm)
  obtain ⟨c', hc, he⟩ := List.mem_map.mp hmap
  obtain ⟨rfl, rfl⟩ := Prod.mk.inj he
  have hhit : (c'.write r'.host).hits b n = true := by simpa using List.find?_some h
  exact ⟨hr, hc, (CookieWrite.hits_iff.mp hhit).1⟩

/-- The jar built by a history stores what its last setters said. -/
theorem lookup_history {history : List (SiteResponse U)} {jar : CookieJar}
    (h : Run (Steps SiteResponse.store) .new history jar) (b n : Str) :
    jar.lookup b n = (lastSetter history b n).map fun p ↦ (p.2.write p.1.host).entry p.1.now := by
  refine h.history (I := fun history jar ↦ jar.lookup b n =
    (lastSetter history b n).map fun p ↦ (p.2.write p.1.host).entry p.1.now) ?_
    (CookieJar.lookup_new b n)
  rintro history jar r jar' ih rfl
  rw [lookup_store hU, ih, lastSetter_append]
  cases r.cookies.findRev? fun c ↦ (c.write r.host).hits b n <;> rfl

/-- The bucket of a cookie is a name its setter lies under, and its own if it is a public
suffix. -/
private theorem under_storeHost {r : SiteResponse U} (hr : r.OwnDomains publicSuffix)
    {c : SetCookie} (hc : c ∈ r.cookies) (hne : normalizeHost (c.storeHost r.host) ≠ []) :
    Under '.' (normalizeHost r.host) (normalizeHost (c.storeHost r.host)) ∧
      (publicSuffix (normalizeHost (c.storeHost r.host)) →
        normalizeHost (c.storeHost r.host) = normalizeHost r.host) := by
  unfold SetCookie.storeHost at hne ⊢
  cases hd : c.domain with
  | none =>
    rw [Option.getD_none, normalizeHost_idem_host hU]
    exact ⟨.refl _, fun _ ↦ rfl⟩
  | some d =>
    rw [hd, Option.getD_some] at hne
    exact (hr c hc d hd).resolve_left hne

/-- A cookie that reaches a host from its own bucket may be set for it. -/
private theorem entitled_of_under {r : SiteResponse U} (hr : r.OwnDomains publicSuffix)
    {c : SetCookie} (hc : c ∈ r.cookies) {host : Str}
    (hne : normalizeHost (c.storeHost r.host) ≠ [])
    (hu : Under '.' (normalizeHost host) (normalizeHost (c.storeHost r.host))) :
    Entitled r.host c host := by
  have hown := (under_storeHost hU hr hc hne).1
  unfold Entitled
  cases hd : c.domain with
  | none =>
    rw [SetCookie.storeHost, hd, Option.getD_none, normalizeHost_idem_host hU] at hu
    exact hu
  | some d =>
    rw [SetCookie.storeHost, hd, Option.getD_some] at hu hown
    exact ⟨hown, hu⟩

/-- The buckets read for a URL are names that its host lies under. -/
private theorem under_of_candidate {url : Str} {u : U.Url} {host h b : Str}
    (hp : U.parse url = .ok u) (hh : U.hostStr u = some host) (hurl : urlHost U url = some h)
    (hb : b ∈ hostCandidates h) : b ≠ [] ∧ Under '.' (normalizeHost host) b := by
  simp only [urlHost, hp, hh, Option.map_some, Option.some.injEq] at hurl
  obtain ⟨hne, hu⟩ := mem_hostCandidates.mp hb
  rw [← hurl, normalizeHost_idem (hU.hostStr_noSpace _ _ hh)] at hu
  exact ⟨hne, hu⟩

/-- A response leaves the buckets of hosts outside its own domain alone. -/
private theorem lookup_store_foreign (jar : CookieJar) {r : SiteResponse U}
    (hr : r.OwnDomains publicSuffix) {host b n : Str} (hforeign : Foreign publicSuffix r.host host)
    (hne : b ≠ []) (hb : Under '.' (normalizeHost host) b) :
    (SiteResponse.store jar r).lookup b n = jar.lookup b n := by
  have hnone : (r.cookies.findRev? fun c ↦ (c.write r.host).hits b n) = none := by
    rw [List.findRev?_eq_find?_reverse, List.find?_eq_none]
    intro c hc hhit
    obtain ⟨rfl, -⟩ := CookieWrite.hits_iff.mp hhit
    obtain ⟨hown, hsuffix⟩ := under_storeHost hU hr (List.mem_reverse.mp hc) hne
    obtain ⟨hpublic, hother⟩ := hforeign _ hne hown hb
    exact hother (hsuffix hpublic)
  rw [lookup_store hU, hnone]
  rfl

/-- Where responses name only their own domains, cookies of different sites stay apart, whatever
the public suffixes are. -/
theorem isolated_of_ownDomains {history : List (SiteResponse U)} {jar : CookieJar}
    (h : Run (Guarded (fun _ r ↦ r.OwnDomains publicSuffix) (Steps SiteResponse.store)) .new
      history jar) : Isolated publicSuffix history jar := by
  have hown := h.guarded_mem
  refine ⟨?_, ?_⟩
  · rintro url u host now b n e hp hh ⟨h', hurl, hb, hl, -⟩
    obtain ⟨hne, hu⟩ := under_of_candidate hU hp hh hurl hb
    rw [lookup_history hU h.of_guarded] at hl
    obtain ⟨⟨r, c⟩, hset, rfl⟩ := Option.map_eq_some_iff.mp hl
    obtain ⟨hr, hc, rfl⟩ := mem_of_lastSetter hset
    exact ⟨r, c, hset, rfl, entitled_of_under hU (hown r hr) hc hne hu⟩
  · rintro before r after rfl url u host now b n e hp hh hforeign
    have hr : r.OwnDomains publicSuffix := hown r (by simp)
    rw [List.foldl_append]
    refine exists_congr fun h' ↦ and_congr_right fun hurl ↦ and_congr_right fun hb ↦ ?_
    obtain ⟨hne, hu⟩ := under_of_candidate hU hp hh hurl hb
    rw [List.foldl_cons, List.foldl_nil, lookup_store_foreign hU _ hr hforeign hne hu]

end Histories

/-- A response of `evil.example` with one `Set-Cookie` value. -/
def evilResponse (setCookie : Str) : SiteResponse .plain where
  requestUrl := "https://evil.example/"
  response :=
    { url := ⟨"https://evil.example/", by decide⟩
      status := 200
      statusText := "200 OK"
      headers := [("set-cookie", some setCookie)]
      body := .ok [] }
  host := "evil.example"
  hostStr_url := UrlCrate.hostStr_plain _ (by decide)
  now := some 0

/-- The suffix of the example sites. -/
def exampleSuffix (d : Str) : Prop := d = "example"

private theorem ownDomains_evil :
    (evilResponse "id=7; Domain=.evil.example").OwnDomains exampleSuffix := by
  have hc : (evilResponse "id=7; Domain=.evil.example").cookies =
      [⟨"id", "7", none, some "evil.example"⟩] := by decide
  intro c hm d hd
  rw [hc, List.mem_singleton] at hm
  subst hm
  rw [← Option.some.inj hd]
  exact .inr ⟨.inl (by decide), fun _ ↦ by decide⟩

theorem isolated_of_ownDomains_evil :
    Isolated exampleSuffix [evilResponse "id=7; Domain=.evil.example"]
      (SiteResponse.store .new (evilResponse "id=7; Domain=.evil.example")) :=
  isolated_of_ownDomains UrlCrate.lawful_plain (.snoc .nil ⟨ownDomains_evil, rfl⟩)

/-- A response of one site plants a cookie for another by naming it in `Domain`, whatever the
public suffixes are. -/
theorem not_isolated_foreignDomain :
    ¬ ∃ publicSuffix : Str → Prop,
      ∀ (U : UrlCrate) (history : List (SiteResponse U)) (jar : CookieJar), U.Lawful →
        Run (Steps SiteResponse.store) .new history jar → Isolated publicSuffix history jar := by
  rintro ⟨publicSuffix, h⟩
  let r := evilResponse "session=stolen; Domain=bank.example"
  have hiso := h .plain [r] _ UrlCrate.lawful_plain (.snoc .nil rfl)
  have hc : r.cookies = [⟨"session", "stolen", none, some "bank.example"⟩] := by decide
  have hsends : (SiteResponse.store .new r).Sends (some 0) .plain "https://bank.example/"
      "bank.example" "session" ⟨"stolen", none⟩ :=
    ⟨"bank.example", by decide, by decide, by decide, rfl⟩
  have hplain : isPlainUrl "https://bank.example/" = true := by decide
  obtain ⟨r', c, hset, -, hent⟩ := hiso.entitled _ _ "bank.example" _ _ _ _
    (UrlCrate.parse_plain hplain) (UrlCrate.hostStr_plain hplain (by decide)) hsends
  obtain ⟨hr, hm, -⟩ := mem_of_lastSetter hset
  obtain rfl := List.mem_singleton.mp hr
  obtain rfl := List.mem_singleton.mp (hc ▸ hm)
  exact absurd hent.1 (by decide)

end CrwShield.Fetch
