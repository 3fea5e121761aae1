import CrwShield.Proxy.Response

/-!
# The fingerprint issued upstream

Headers as `src/tls-proxy/main.go` rewrites them: `263–306` on a tunnel, `367–391` for a plain
request, with the tables and the identities of `625–789`. A server that compares the `User-Agent`,
the client hints and the TLS handshake should find one browser in them, and nothing of the client's
own.
-/

open CrwShield.Base CrwShield.Base.Bytes

namespace CrwShield.Proxy

/-- A header map; an absent key has no values. -/
abbrev Header := Bytes → List Bytes

/-- `Header.Set` of a canonical key. -/
def Header.set (h : Header) (k v : Bytes) : Header := Function.update h k [v]

/-- `Header.Del` of a canonical key. -/
def Header.del (h : Header) (k : Bytes) : Header := Function.update h k []

/-- The header map of the fields of a request. -/
def headerOf (fields : List Field) : Header := fun k ↦ valuesOf k (fields.map Field.canonical)

/-- `fixPragmaCacheControl` of `net/http`. -/
def fixPragmaCacheControl (h : Header) : Header :=
  if (h "Pragma").head? = some (ascii "no-cache") ∧ h "Cache-Control" = [] then
    h.set "Cache-Control" "no-cache"
  else h

/-- The framing that `readTransfer` of `net/http` leaves in a header: one length, and no coding. -/
def fixTransfer (h : Header) : Header :=
  if h "Transfer-Encoding" = [] then
    match h "Content-Length" with
    | [] => h
    | cl :: _ => h.set "Content-Length" cl
  else ((h.del "Transfer-Encoding").del "Content-Length").del "Trailer"

/-- What `http.ReadRequest` changes in the header it has read. -/
def fixRequestHeader (h : Header) : Header := fixTransfer (fixPragmaCacheControl (h.del "Host"))

/-- The TLS profiles that a name can stand for. -/
inductive ClientProfile
  | chrome120
  | chrome117
  | chrome116PSK
  | chrome116PSKPQ
  | chrome112
  | chrome110
  | chrome107
  | firefox123
  | firefox120
  | firefox117
  | firefox110
  | safari16_0
  | safari15_6_1
  deriving DecidableEq

/-- `strings.ToLower` as far as its result is ASCII: beside the capitals these are the Kelvin sign
and the dotted `I`. Other bytes of a longer encoding stay outside ASCII, and so stay as they are. -/
def lowerName : Bytes → Bytes
  | 0xE2 :: 0x84 :: 0xAA :: s => 107 :: lowerName s
  | 0xC4 :: 0xB0 :: s => 105 :: lowerName s
  | b :: s => lower b :: lowerName s
  | [] => []

/-- The names of the profiles; `main.go:655–682`. -/
def profileNames : List (Bytes × ClientProfile) :=
  [("chrome_120", .chrome120), ("chrome-120", .chrome120),
    ("chrome_117", .chrome117), ("chrome-117", .chrome117),
    ("chrome_116_psk", .chrome116PSK),
    ("chrome_116_psk_pq", .chrome116PSKPQ),
    ("chrome_112", .chrome112),
    ("chrome_110", .chrome110), ("chrome-110", .chrome110),
    ("chrome_107", .chrome107), ("chrome-107", .chrome107),
    ("firefox_123", .firefox123),
    ("firefox_120", .firefox120),
    ("firefox_117", .firefox117),
    ("firefox_110", .firefox110),
    ("safari_16_0", .safari16_0), ("safari-16-0", .safari16_0),
    ("safari_15_6_1", .safari15_6_1)]

/-- The TLS profile of a name, Chrome 120 for one without a profile; `main.go:654–686`. -/
def resolveProfile (name : Bytes) : ClientProfile :=
  (profileNames.lookup (lowerName name)).getD .chrome120

/-- Whether a profile is one of Firefox; `main.go:650–652`. -/
def isFirefoxProfile (profile : Bytes) : Bool := (ascii "firefox_").isPrefixOf profile

/-- Default headers of Chrome; `main.go:620–635`. -/
def chromeDefaultHeaders : List (Bytes × Bytes) :=
  [("User-Agent", "Mozilla/5.0 (X11; Linux x86_64) AppleWebKit/537.36 (KHTML, like Gecko) Chrome/120.0.0.0 Safari/537.36"),
    ("sec-ch-ua", "\"Not_A Brand\";v=\"8\", \"Chromium\";v=\"120\", \"Google Chrome\";v=\"120\""),
    ("sec-ch-ua-mobile", "?0"),
    ("sec-ch-ua-platform", "\"Linux\""),
    ("Upgrade-Insecure-Requests", "1"),
    ("Accept", "text/html,application/xhtml+xml,application/xml;q=0.9,image/avif,image/webp,image/apng,*/*;q=0.8,application/signed-exchange;v=b3;q=0.7"),
    ("Accept-Encoding", "gzip, deflate, br"),
    ("Accept-Language", "en-US,en;q=0.9"),
    ("sec-fetch-mode", "navigate"),
    ("sec-fetch-site", "none"),
    ("sec-fetch-user", "?1"),
    ("sec-fetch-dest", "document")]

/-- Default headers of Firefox; `main.go:637–648`. -/
def firefoxDefaultHeaders : List (Bytes × Bytes) :=
  [("User-Agent", "Mozilla/5.0 (X11; Linux x86_64; rv:123.0) Gecko/20100101 Firefox/123.0"),
    ("Accept", "text/html,application/xhtml+xml,application/xml;q=0.9,image/avif,image/webp,*/*;q=0.8"),
    ("Accept-Encoding", "gzip, deflate, br"),
    ("Accept-Language", "en-US,en;q=0.5"),
    ("sec-fetch-mode", "navigate"),
    ("sec-fetch-site", "none"),
    ("sec-fetch-user", "?1"),
    ("sec-fetch-dest", "document")]

/-- The client hints that a tunnel strips; `main.go:705–731`. -/
def isUACH (k : Bytes) : Bool :=
  ([ascii "Sec-Ch-Ua", ascii "Sec-Ch-Ua-Mobile", ascii "Sec-Ch-Ua-Platform",
    ascii "Sec-Ch-Ua-Arch", ascii "Sec-Ch-Ua-Model", ascii "Sec-Ch-Ua-Bitness",
    ascii "Sec-Ch-Ua-Full-Version-List", ascii "Sec-Ch-Ua-Platform-Version",
    ascii "Sec-Ch-Ua-WoW64", ascii "Sec-Ch-Ua-Form-Factors", ascii "Sec-Ch-Prefers-Color-Scheme",
    ascii "Sec-Ch-Viewport-Width", ascii "Sec-Ch-Viewport-Height", ascii "Sec-Ch-Dpr",
    ascii "Sec-Ch-Device-Memory", ascii "Sec-Ch-Rtt", ascii "Sec-Ch-Downlink", ascii "Sec-Ch-Ect",
    ascii "Sec-Ch-Save-Data", ascii "Sec-Ch-Prefers-Reduced-Motion",
    ascii "Sec-Ch-Prefers-Reduced-Transparency", ascii "Sec-Ch-Prefers-Contrast",
    ascii "Sec-Ch-Forced-Colors"]).contains k

/-- The headers that a tunnel replaces by defaults; `main.go:738–750`. -/
def isChromeOverridden (k : Bytes) : Bool :=
  ([ascii "User-Agent", ascii "Accept", ascii "Accept-Encoding",
    ascii "Accept-Language"]).contains k || (ascii "Sec-Fetch-").isPrefixOf k

/-- The brand list of a version, `grease` for the brand that is none. -/
def brandList (grease v : Bytes) : Bytes :=
  ascii "\"Not_A Brand\";v=\"" ++ grease ++ ascii "\", \"Chromium\";v=\"" ++ v ++
    ascii "\", \"Google Chrome\";v=\"" ++ v ++ ascii "\""

/-- A version without what follows the first `_` or `-` in it; `main.go:770–772`. -/
def stripSuffixes (v : Bytes) : Bytes :=
  match v.findIdx? fun b ↦ b == 95 || b == 45 with
  | some idx => if idx > 0 then v.take idx else v
  | none => v

/-- The brand list sent for a profile; `main.go:760–780`. -/
def secChUa (profile : Bytes) : Bytes :=
  let secChUa := brandList "8" "120"
  if (ascii "chrome_").isPrefixOf profile then
    let v := profile.drop (ascii "chrome_").length
    if v.isEmpty then secChUa
    else
      let v := stripSuffixes v
      if (ascii "1").isPrefixOf v || (ascii "12").isPrefixOf v || (ascii "13").isPrefixOf v then
        brandList "8" v
      else if (ascii "11").isPrefixOf v then brandList "99" v
      else secChUa
  else secChUa

/-- Client hints of the profile; `main.go:756–789`. -/
def overrideUACH (profile : Bytes) (h : Header) : Header :=
  if isFirefoxProfile profile then h
  else
    (((h.set "Sec-Ch-Ua" (secChUa profile)).set "Sec-Ch-Ua-Mobile" "?0").set
      "Sec-Ch-Ua-Platform" "\"Linux\"").set "Sec-Ch-Ua-Arch" "\"x86\""

/-- Default headers of a profile; `main.go:295–300`. -/
def defaultHeaders (profile : Bytes) : List (Bytes × Bytes) :=
  if isFirefoxProfile profile then firefoxDefaultHeaders else chromeDefaultHeaders

/-- Defaults for the keys that a header lacks; `main.go:301–306`. -/
def mergeDefaults (defaults : List (Bytes × Bytes)) (h : Header) : Header :=
  defaults.foldl (fun h d ↦
    let ck := canonicalHeaderKey d.1
    if h ck = [] then h.set ck d.2 else h) h

/-- The values of the keys that are not dropped; `main.go:263–283`, `367–374`. -/
def forward (drop : Bytes → Bool) (h : Header) : Header := fun k ↦ if drop k then [] else h k

/-- The header issued for a request on a tunnel; `main.go:263–306`. -/
def mitmHeader (profile : Bytes) (h : Header) : Header :=
  mergeDefaults (defaultHeaders profile)
    (overrideUACH profile (forward (fun k ↦ isHopByHop k || isUACH k || isChromeOverridden k) h))

/-- The header issued for a plain request; `main.go:367–391`. -/
def plainHeader (profile : Bytes) (h : Header) : Header :=
  mergeDefaults (defaultHeaders profile) (forward isHopByHop h)

/-- The two ways of a request through the sidecar. -/
inductive Route
  | mitm
  | plain
  deriving DecidableEq

/-- The header issued upstream for the fields of a request. -/
def issuedHeader (route : Route) (profile : Bytes) (fields : List Field) : Header :=
  match route with
  | .mitm => mitmHeader profile (fixRequestHeader (headerOf fields))
  | .plain => plainHeader profile (headerOf fields)

/-- Browser families. -/
inductive Family
  | chrome
  | firefox
  | safari
  deriving DecidableEq

/-- A browser: its family and major version. -/
structure Browser where
  family : Family
  major : Nat
  deriving DecidableEq

/-- The browser whose handshake a profile has. -/
def ClientProfile.browser : ClientProfile → Browser
  | .chrome120 => ⟨.chrome, 120⟩
  | .chrome117 => ⟨.chrome, 117⟩
  | .chrome116PSK => ⟨.chrome, 116⟩
  | .chrome116PSKPQ => ⟨.chrome, 116⟩
  | .chrome112 => ⟨.chrome, 112⟩
  | .chrome110 => ⟨.chrome, 110⟩
  | .chrome107 => ⟨.chrome, 107⟩
  | .firefox123 => ⟨.firefox, 123⟩
  | .firefox120 => ⟨.firefox, 120⟩
  | .firefox117 => ⟨.firefox, 117⟩
  | .firefox110 => ⟨.firefox, 110⟩
  | .safari16_0 => ⟨.safari, 16⟩
  | .safari15_6_1 => ⟨.safari, 15⟩

/-- The text after the first occurrence of another. -/
def after (pat : Bytes) : Bytes → Option Bytes
  | [] => none
  | b :: s => if pat.isPrefixOf (b :: s) then some ((b :: s).drop pat.length) else after pat s

/-- The number after the first occurrence of a text. -/
def versionAfter (pat s : Bytes) : Option Nat :=
  (after pat s).bind fun rest ↦ parseDecimal (rest.takeWhile fun b ↦ 48 ≤ b && b ≤ 57)

/-- The browser that a `User-Agent` names; Edge and Opera name Chrome too, and are none of the
families. -/
def uaBrowser (ua : Bytes) : Option Browser :=
  if (after "Edg/" ua).isSome || (after "OPR/" ua).isSome then none
  else if (after "Firefox/" ua).isSome then (versionAfter "Firefox/" ua).map (⟨.firefox, ·⟩)
  else if (after "Chrome/" ua).isSome then (versionAfter "Chrome/" ua).map (⟨.chrome, ·⟩)
  else if (after "Safari/" ua).isSome then (versionAfter "Version/" ua).map (⟨.safari, ·⟩)
  else none

/-- The browser that a `Sec-CH-UA` names: a brand list of Chrome, with the version of Chromium. -/
def chUaBrowser (brands : Bytes) : Option Browser :=
  if (after "\"Google Chrome\";v=\"" brands).isSome then
    ((after "\"Chromium\";v=\"" brands).bind fun rest ↦
      parseDecimal (rest.takeWhile (· ≠ 34))).map (⟨.chrome, ·⟩)
  else none

/-- The headers by which a client could be told from another. -/
def isFamily (k : Bytes) : Bool :=
  ([ascii "User-Agent", ascii "Accept", ascii "Accept-Encoding",
    ascii "Accept-Language"]).contains k || (ascii "Sec-Fetch-").isPrefixOf k ||
      (ascii "Sec-Ch-").isPrefixOf k

/-- Two headers differ at most in those. -/
def SameOthers (h h' : Header) : Prop := ∀ k, isFamily k = false → h k = h' k

/-- A header tells of the browser of the TLS profile, and of no other. -/
structure Agrees (profile : Bytes) (h : Header) : Prop where
  userAgent_ne_nil : h "User-Agent" ≠ []
  userAgent : ∀ ua ∈ h "User-Agent", uaBrowser ua = some (resolveProfile profile).browser
  secChUa : ∀ ch ∈ h "Sec-Ch-Ua", chUaBrowser ch = some (resolveProfile profile).browser

/-- Two requests issue the same header, and it agrees with the TLS profile. -/
def FingerprintHidden (route : Route) (profile : Bytes) (fields fields' : List Field) : Prop :=
  issuedHeader route profile fields = issuedHeader route profile fields' ∧
    Agrees profile (issuedHeader route profile fields)

/-- A client hint that is not in the list of those that a tunnel strips. -/
def isStrayHint (k : Bytes) : Bool := (ascii "Sec-Ch-").isPrefixOf k && !isUACH k

/-- Default values of a key. -/
def defaultValues (profile k : Bytes) : List Bytes :=
  (((defaultHeaders profile).find? fun d ↦ canonicalHeaderKey d.1 = k).map Prod.snd).toList

/-- The browser of the default headers. -/
def defaultBrowser (profile : Bytes) : Browser :=
  if isFirefoxProfile profile then ⟨.firefox, 123⟩ else ⟨.chrome, 120⟩

/-- The version in the name of a profile, as far as the brand list takes it from there. -/
def namedVersion (profile : Bytes) : Option Bytes :=
  if (ascii "chrome_").isPrefixOf profile then
    let v := stripSuffixes (profile.drop (ascii "chrome_").length)
    if (ascii "1").isPrefixOf v then some v else none
  else none

/-- The names of every profile but Chrome 120. -/
def otherNames : List Bytes := (profileNames.filter (·.2 ≠ .chrome120)).map Prod.fst

/-- The identities of a profile fit together: those of Firefox 123, or those of Chrome 120 where the
name brings no other version into the brand list. -/
def Consistent (profile : Bytes) : Prop :=
  profile = ascii "firefox_123" ∨
    isFirefoxProfile profile = false ∧ lowerName profile ∉ otherNames ∧
      ∀ v ∈ namedVersion profile, parseDecimal (v.takeWhile (· ≠ 34)) = some 120

/-- Values of a key that come out the same once a default stands in for none. -/
def SentAlike (default vs vs' : List Bytes) : Prop :=
  vs = vs' ∨ vs = [] ∧ vs' = default ∨ vs' = [] ∧ vs = default

/-- What a client itself says of its browser is that of the TLS profile, and so is a default that
stands in for it. -/
structure TellsProfile (profile : Bytes) (h : Header) : Prop where
  userAgent : ∀ ua ∈ h "User-Agent", uaBrowser ua = some (resolveProfile profile).browser
  no_userAgent : h "User-Agent" = [] → defaultBrowser profile = (resolveProfile profile).browser
  secChUa : ∀ ch ∈ h "Sec-Ch-Ua", chUaBrowser ch = some (resolveProfile profile).browser
  no_secChUa : h "Sec-Ch-Ua" = [] → isFirefoxProfile profile = false →
    (resolveProfile profile).browser = ⟨.chrome, 120⟩

/-- When a route hides one client behind the profile: on a tunnel for equal stray hints and a
consistent profile, for plain requests only where the clients look alike, and like the profile, by
themselves. -/
def Hides (route : Route) (profile : Bytes) (h h' : Header) : Prop :=
  match route with
  | .mitm => (∀ k, isStrayHint k = true → h k = h' k) ∧ Consistent profile
  | .plain =>
    (∀ k, isFamily k = true → SentAlike (defaultValues profile k) (h k) (h' k)) ∧
      TellsProfile profile h

@[simp] theorem Header.set_apply (h : Header) (k v k' : Bytes) :
    h.set k v k' = if k' = k then [v] else h k' := Function.update_apply h k [v] k'

@[simp] theorem Header.del_apply (h : Header) (k k' : Bytes) :
    h.del k k' = if k' = k then [] else h k' := Function.update_apply h k [] k'

section Merge

variable {defaults : List (Bytes × Bytes)} {profile : Bytes} {h : Header} {k : Bytes}

theorem mergeDefaults_apply : mergeDefaults defaults h k =
    if h k = [] then ((defaults.find? fun d ↦ canonicalHeaderKey d.1 = k).map Prod.snd).toList
    else h k := by
  induction defaults generalizing h with
  | nil =>
    show h k = if h k = [] then [] else h k
    split
    next hk => exact hk
    next => rfl
  | cons d defaults ih =>
    rw [mergeDefaults, List.foldl_cons, ← mergeDefaults, ih, List.find?_cons]
    by_cases hd : canonicalHeaderKey d.1 = k
    · subst hd
      by_cases hk : h (canonicalHeaderKey d.1) = []
      · simp [hk]
      · simp [hk]
    · have hne : ¬k = canonicalHeaderKey d.1 := fun hk ↦ hd hk.symm
      by_cases hk : h (canonicalHeaderKey d.1) = []
      · simp [hk, hd, hne]
      · simp [hk, hd]

theorem merged_apply : mergeDefaults (defaultHeaders profile) h k =
    if h k = [] then defaultValues profile k else h k := mergeDefaults_apply

end Merge

theorem contains_eq_false {p : Bytes → Bool} {keys : List Bytes} {k : Bytes}
    (hkeys : ∀ x ∈ keys, p x = false) (hk : p k = true) : keys.contains k = false := by
  rw [List.contains_eq_mem, decide_eq_false_iff_not]
  intro hmem
  exact absurd hk (by simp [hkeys k hmem])

-- In this section and below, the literals of a table are turned into lists of characters before it
-- is evaluated, the kernel is slow to read them.
section Keys

variable {k : Bytes}

theorem isHopByHop_of_isFamily (hk : isFamily k = true) : isHopByHop k = false := by
  refine contains_eq_false ?_ hk
  unfold isFamily ascii
  repeat rw [String.toList_ofList]
  decide

/-- What a tunnel drops of the client's identity is all but the stray hints. -/
theorem dropped_or_isStrayHint (hk : isFamily k = true) :
    isUACH k = true ∨ isChromeOverridden k = true ∨ isStrayHint k = true := by
  have hsplit : (isChromeOverridden k || (ascii "Sec-Ch-").isPrefixOf k) = true := hk
  cases hover : isChromeOverridden k with
  | true => exact .inr (.inl rfl)
  | false =>
    rw [hover, Bool.false_or] at hsplit
    cases huach : isUACH k with
    | true => exact .inl rfl
    | false => exact .inr (.inr (by rw [isStrayHint, hsplit, huach]; rfl))

theorem not_dropped_of_isStrayHint (hk : isStrayHint k = true) :
    isFamily k = true ∧ isUACH k = false ∧ isChromeOverridden k = false := by
  obtain ⟨hhint, huach⟩ := Bool.and_eq_true_iff.mp hk
  refine ⟨?_, by simpa using huach, ?_⟩
  · rw [isFamily, hhint, Bool.or_true]
  · rw [isChromeOverridden, Bool.or_eq_false_iff]
    have hoverridden : ∀ x ∈ [ascii "User-Agent", ascii "Accept", ascii "Accept-Encoding",
        ascii "Accept-Language"], isStrayHint x = false := by decide
    refine ⟨contains_eq_false hoverridden hk, ?_⟩
    rw [Bool.eq_false_iff]
    intro hfetch
    have hpre := List.isPrefixOf_iff_prefix.mp hhint
    have hboth := List.prefix_of_prefix_length_le hpre (List.isPrefixOf_iff_prefix.mp hfetch)
      (by decide)
    exact absurd hboth (by decide)

end Keys

section Requests

variable {h h' : Header}

theorem SameOthers.set (hsame : SameOthers h h') (k v : Bytes) :
    SameOthers (h.set k v) (h'.set k v) := by
  intro k' hk'
  rw [Header.set_apply, Header.set_apply, hsame k' hk']

theorem SameOthers.del (hsame : SameOthers h h') (k : Bytes) :
    SameOthers (h.del k) (h'.del k) := by
  intro k' hk'
  rw [Header.del_apply, Header.del_apply, hsame k' hk']

theorem SameOthers.fixPragmaCacheControl (hsame : SameOthers h h') :
    SameOthers (fixPragmaCacheControl h) (fixPragmaCacheControl h') := by
  unfold Proxy.fixPragmaCacheControl
  rw [hsame (ascii "Pragma") (by decide), hsame (ascii "Cache-Control") (by decide)]
  split
  next => exact hsame.set _ _
  next => exact hsame

theorem SameOthers.fixTransfer (hsame : SameOthers h h') :
    SameOthers (fixTransfer h) (fixTransfer h') := by
  unfold Proxy.fixTransfer
  rw [hsame (ascii "Transfer-Encoding") (by decide), hsame (ascii "Content-Length") (by decide)]
  split
  next =>
    split
    next => exact hsame
    next => exact hsame.set _ _
  next => exact ((hsame.del _).del _).del _

theorem SameOthers.fixRequestHeader (hsame : SameOthers h h') :
    SameOthers (fixRequestHeader h) (fixRequestHeader h') :=
  (hsame.del _).fixPragmaCacheControl.fixTransfer

/-- The server library leaves the client's identity as it is. -/
theorem fixRequestHeader_apply {k : Bytes} (hk : isFamily k = true) :
    fixRequestHeader h k = h k := by
  have hne : ∀ k', isFamily k' = false → k ≠ k' := by
    rintro k' hk' rfl
    exact absurd hk (by simp [hk'])
  have htransfer : ∀ h : Header, fixTransfer h k = h k := by
    intro h
    unfold Proxy.fixTransfer
    split
    next =>
      cases h (ascii "Content-Length") with
      | nil => rfl
      | cons cl _ => simp [hne (ascii "Content-Length") (by decide)]
    next =>
      simp [hne (ascii "Transfer-Encoding") (by decide), hne (ascii "Content-Length") (by decide),
        hne (ascii "Trailer") (by decide)]
  have hpragma : ∀ h : Header, fixPragmaCacheControl h k = h k := by
    intro h
    unfold Proxy.fixPragmaCacheControl
    split
    next => simp [hne (ascii "Cache-Control") (by decide)]
    next => rfl
  rw [fixRequestHeader, htransfer, hpragma]
  simp [hne (ascii "Host") (by decide)]

end Requests

section Tunnel

variable {profile : Bytes} {h h' : Header} {k : Bytes}

theorem defaultValues_of_isStrayHint (hk : isStrayHint k = true) :
    defaultValues profile k = [] := by
  have hnone : ∀ d ∈ firefoxDefaultHeaders ++ chromeDefaultHeaders,
      isStrayHint (canonicalHeaderKey d.1) = false := by
    unfold firefoxDefaultHeaders chromeDefaultHeaders isStrayHint isUACH ascii
    repeat rw [String.toList_ofList]
    decide
  have hsub : ∀ d ∈ defaultHeaders profile, d ∈ firefoxDefaultHeaders ++ chromeDefaultHeaders := by
    intro d hd
    rw [defaultHeaders] at hd
    split at hd
    next => exact List.mem_append_left _ hd
    next => exact List.mem_append_right _ hd
  have hfind : ((defaultHeaders profile).find? fun d ↦ canonicalHeaderKey d.1 = k) = none := by
    rw [List.find?_eq_none]
    intro d hd heq
    rw [decide_eq_true_eq] at heq
    exact absurd hk (by simp [← heq, hnone d (hsub d hd)])
  rw [defaultValues, hfind]
  rfl

/-- A key that is no client hint of the profile keeps its values. -/
theorem overrideUACH_apply (hk : isUACH k = false) : overrideUACH profile h k = h k := by
  have hne : ∀ k', isUACH k' = true → k ≠ k' := by
    rintro k' hk' rfl
    exact absurd hk' (by simp [hk])
  unfold overrideUACH
  split
  next => rfl
  next =>
    simp [hne (ascii "Sec-Ch-Ua") (by decide), hne (ascii "Sec-Ch-Ua-Mobile") (by decide),
      hne (ascii "Sec-Ch-Ua-Platform") (by decide), hne (ascii "Sec-Ch-Ua-Arch") (by decide)]

/-- A stray hint goes through a tunnel as the client sent it. -/
theorem mitmHeader_of_isStrayHint (hk : isStrayHint k = true) : mitmHeader profile h k = h k := by
  obtain ⟨hfamily, huach, hover⟩ := not_dropped_of_isStrayHint hk
  rw [mitmHeader, merged_apply, defaultValues_of_isStrayHint hk, overrideUACH_apply huach, forward,
    isHopByHop_of_isFamily hfamily, huach, hover]
  simp

/-- A tunnel issues the same header for two requests exactly when they carry the same stray
hints. -/
theorem mitmHeader_eq_iff (hsame : SameOthers h h') :
    mitmHeader profile h = mitmHeader profile h' ↔ ∀ k, isStrayHint k = true → h k = h' k := by
  constructor
  · intro heq k hk
    have hsent := congrFun heq k
    rwa [mitmHeader_of_isStrayHint hk, mitmHeader_of_isStrayHint hk] at hsent
  · intro hstray
    have hforward : forward (fun k ↦ isHopByHop k || isUACH k || isChromeOverridden k) h =
        forward (fun k ↦ isHopByHop k || isUACH k || isChromeOverridden k) h' := by
      ext1 k
      unfold forward
      split
      next => rfl
      next hkeep =>
        cases hfamily : isFamily k with
        | false => exact hsame k hfamily
        | true =>
          rw [Bool.or_eq_true, Bool.or_eq_true, not_or, not_or] at hkeep
          rcases dropped_or_isStrayHint hfamily with huach | hover | hk
          · exact absurd huach hkeep.1.2
          · exact absurd hover hkeep.2
          · exact hstray k hk
    rw [mitmHeader, hforward, mitmHeader]

end Tunnel

section Profiles

variable {profile : Bytes}

theorem lower_eq_digit {b c : UInt8} (hc : c < 65) (h : lower b = c) : b = c := by
  unfold lower at h
  split at h
  next hcap =>
    have hsum : (b + 32).toNat = b.toNat + 32 := by
      have hle := UInt8.le_iff_toNat_le.mp hcap.2
      rw [UInt8.toNat_add]
      exact Nat.mod_eq_of_lt (by simp at hle ⊢; omega)
    have hlow := UInt8.le_iff_toNat_le.mp hcap.1
    rw [← h, UInt8.lt_iff_toNat_lt, hsum] at hc
    simp at hc hlow
    omega
  next => exact h

theorem lowerName_cons_digit {s t : Bytes} {c : UInt8} (hc : c < 65) (h : lowerName s = c :: t) :
    ∃ s', s = c :: s' ∧ lowerName s' = t := by
  fun_cases lowerName s with
  | case1 s =>
    obtain ⟨rfl, -⟩ := List.cons_eq_cons.mp h
    exact absurd hc (by decide)
  | case2 s =>
    obtain ⟨rfl, -⟩ := List.cons_eq_cons.mp h
    exact absurd hc (by decide)
  | case3 b s hk hi =>
    rw [lowerName.eq_3 b s hk hi] at h
    obtain ⟨hb, rfl⟩ := List.cons_eq_cons.mp h
    exact ⟨s, by rw [lower_eq_digit hc hb], rfl⟩
  | case4 => exact absurd h (by simp [lowerName])

theorem lowerName_eq_nil {s : Bytes} (h : lowerName s = []) : s = [] := by
  fun_cases lowerName s with
  | case1 s => exact absurd h (by simp [lowerName])
  | case2 s => exact absurd h (by simp [lowerName])
  | case3 b s hk hi => exact absurd h (by simp [lowerName.eq_3 b s hk hi])
  | case4 => rfl

theorem mem_profileNames {name : Bytes} {p : ClientProfile}
    (h : profileNames.lookup name = some p) : (name, p) ∈ profileNames := by
  obtain ⟨l, l', heq, -⟩ := List.lookup_eq_some_iff.mp h
  rw [heq]
  exact List.mem_append_right l List.mem_cons_self

theorem browser_eq_chrome120 {p : ClientProfile} : p.browser = ⟨.chrome, 120⟩ ↔ p = .chrome120 := by
  cases p <;> decide

theorem browser_eq_firefox123 {p : ClientProfile} :
    p.browser = ⟨.firefox, 123⟩ ↔ p = .firefox123 := by
  cases p <;> decide

theorem resolveProfile_chrome120_iff :
    (resolveProfile profile).browser = ⟨.chrome, 120⟩ ↔ lowerName profile ∉ otherNames := by
  have hother : ∀ name, name ∈ otherNames ↔ ∃ p, (name, p) ∈ profileNames ∧ p ≠ .chrome120 := by
    intro name
    rw [otherNames, List.mem_map]
    constructor
    · rintro ⟨⟨_, p⟩, hmem, rfl⟩
      obtain ⟨hmem, hp⟩ := List.mem_filter.mp hmem
      exact ⟨p, hmem, by simpa using hp⟩
    · rintro ⟨p, hmem, hp⟩
      exact ⟨(name, p), List.mem_filter.mpr ⟨hmem, by simpa using hp⟩, rfl⟩
  rw [browser_eq_chrome120, hother, resolveProfile]
  constructor
  · rintro hresolve ⟨p, hmem, hp⟩
    have hall : ∀ entry ∈ profileNames, profileNames.lookup entry.1 = some entry.2 := by
      unfold profileNames ascii
      repeat rw [String.toList_ofList]
      decide
    rw [hall _ hmem] at hresolve
    exact hp hresolve
  · intro hnot
    cases hlookup : profileNames.lookup (lowerName profile) with
    | none => rfl
    | some p => exact not_not.mp fun hp ↦ hnot ⟨p, mem_profileNames hlookup, hp⟩

theorem resolveProfile_firefox123_iff (hfirefox : isFirefoxProfile profile = true) :
    (resolveProfile profile).browser = ⟨.firefox, 123⟩ ↔ profile = ascii "firefox_123" := by
  rw [browser_eq_firefox123]
  constructor
  · intro hresolve
    have hname : lowerName profile = ascii "firefox_123" := by
      rw [resolveProfile] at hresolve
      cases hlookup : profileNames.lookup (lowerName profile) with
      | none => exact absurd hresolve (by simp [hlookup])
      | some p =>
        rw [hlookup] at hresolve
        have hall : ∀ entry ∈ profileNames, entry.2 = .firefox123 →
            entry.1 = ascii "firefox_123" := by
          unfold profileNames ascii
          repeat rw [String.toList_ofList]
          decide
        exact hall _ (mem_profileNames hlookup) hresolve
    -- the prefix is in lower case as it stands, and digits have no other case
    obtain ⟨s, rfl⟩ := List.isPrefixOf_iff_prefix.mp hfirefox
    have hdigits : lowerName s = ascii "123" :=
      @List.append_cancel_left _ (ascii "firefox_") _ _ hname
    obtain ⟨s₁, rfl, h₁⟩ := lowerName_cons_digit (by decide) hdigits
    obtain ⟨s₂, rfl, h₂⟩ := lowerName_cons_digit (by decide) h₁
    obtain ⟨s₃, rfl, h₃⟩ := lowerName_cons_digit (by decide) h₂
    rw [lowerName_eq_nil h₃]
    rfl
  · rintro rfl
    decide

end Profiles

section Agreement

variable {profile : Bytes} {h h' : Header}

theorem after_isSome {pat s : Bytes} (hpat : pat ≠ []) (h : pat <:+: s) : (after pat s).isSome := by
  obtain ⟨pre, rest, rfl⟩ := h
  induction pre with
  | nil =>
    obtain ⟨b, pat, rfl⟩ := List.exists_cons_of_ne_nil hpat
    have hprefix : (b :: pat).isPrefixOf (b :: (pat ++ rest)) = true :=
      List.isPrefixOf_iff_prefix.mpr (List.prefix_append (b :: pat) rest)
    simp [after, hprefix]
  | cons b pre ih =>
    rw [List.cons_append, List.cons_append, after]
    split
    next => rfl
    next => exact ih

/-- The brand list tells of Chrome in the version that stands in it up to a quotation mark. -/
theorem chUaBrowser_brandList (v : Bytes) : chUaBrowser (brandList "8" v) =
    (parseDecimal (v.takeWhile (· ≠ 34))).map (⟨.chrome, ·⟩) := by
  have hbrand : ascii "\"Google Chrome\";v=\"" <:+: brandList "8" v :=
    ⟨ascii "\"Not_A Brand\";v=\"8\", \"Chromium\";v=\"" ++ v ++ ascii "\", ", v ++ ascii "\"", by
      simp [brandList, ascii]⟩
  have hchromium : after "\"Chromium\";v=\"" (brandList "8" v) =
      some (v ++ ascii "\", \"Google Chrome\";v=\"" ++ v ++ ascii "\"") := rfl
  have hversion : (v ++ ascii "\", \"Google Chrome\";v=\"" ++ v ++ ascii "\"").takeWhile (· ≠ 34) =
      v.takeWhile (· ≠ 34) := by
    rw [List.append_assoc, List.append_assoc, List.takeWhile_append]
    split
    next hall =>
      have hself := (List.takeWhile_prefix (l := v) (· ≠ (34 : UInt8))).eq_of_length hall
      exact (List.append_nil v).trans hself.symm
    next => rfl
  rw [chUaBrowser, if_pos (after_isSome (by decide) hbrand), hchromium, Option.bind_some, hversion]

/-- Versions that start with `11` are versions that start with `1`, so the other brand list is never
sent. -/
theorem secChUa_eq : secChUa profile = brandList "8" ((namedVersion profile).getD "120") := by
  unfold secChUa namedVersion
  split
  next =>
    cases profile.drop (ascii "chrome_").length with
    | nil => rfl
    | cons b v =>
      simp only [List.isEmpty_cons, Bool.false_eq_true, if_false]
      generalize stripSuffixes (b :: v) = v
      cases hone : (ascii "1").isPrefixOf v with
      | true => simp only [Bool.true_or, if_true, Option.getD_some]
      | false =>
        have hno : ∀ pat, ascii "1" <+: pat → pat.isPrefixOf v = false := by
          intro pat hpat
          rw [Bool.eq_false_iff]
          intro hv
          have hpre := hpat.trans (List.isPrefixOf_iff_prefix.mp hv)
          rw [List.isPrefixOf_iff_prefix.mpr hpre] at hone
          exact absurd hone (by decide)
        simp only [hno (ascii "11") (by decide), hno (ascii "12") (by decide),
          hno (ascii "13") (by decide), Bool.or_self, Bool.false_eq_true, if_false,
          Option.getD_none]
  next => rfl

theorem defaultValues_userAgent : ∃ ua, defaultValues profile "User-Agent" = [ua] ∧
    uaBrowser ua = some (defaultBrowser profile) := by
  unfold defaultValues defaultHeaders defaultBrowser
  split
  next =>
    refine ⟨_, rfl, ?_⟩
    unfold ascii
    repeat rw [String.toList_ofList]
    decide
  next =>
    refine ⟨_, rfl, ?_⟩
    unfold ascii
    repeat rw [String.toList_ofList]
    decide

theorem defaultValues_secChUa : defaultValues profile "Sec-Ch-Ua" =
    if isFirefoxProfile profile then [] else [brandList "8" "120"] := by
  unfold defaultValues defaultHeaders
  split
  next =>
    unfold firefoxDefaultHeaders ascii
    repeat rw [String.toList_ofList]
    decide
  next =>
    unfold chromeDefaultHeaders brandList ascii
    repeat rw [String.toList_ofList]
    decide

theorem mitmHeader_userAgent :
    mitmHeader profile h "User-Agent" = defaultValues profile "User-Agent" := by
  have hover : isChromeOverridden "User-Agent" = true := by decide
  have huach : isUACH "User-Agent" = false := by
    unfold isUACH ascii
    repeat rw [String.toList_ofList]
    decide
  rw [mitmHeader, merged_apply, overrideUACH_apply huach, forward, hover, Bool.or_true,
    if_pos rfl, if_pos rfl]

theorem mitmHeader_secChUa : mitmHeader profile h "Sec-Ch-Ua" =
    if isFirefoxProfile profile then [] else [secChUa profile] := by
  rw [mitmHeader, merged_apply, defaultValues_secChUa]
  unfold overrideUACH
  split
  next => simp [forward, isUACH]
  next => simp [ascii]

theorem plainHeader_apply {k : Bytes} (hk : isFamily k = true) : plainHeader profile h k =
    if h k = [] then defaultValues profile k else h k := by
  rw [plainHeader, merged_apply, forward, isHopByHop_of_isFamily hk]
  rfl

/-- On a tunnel the header agrees with the TLS profile exactly for a consistent profile. -/
theorem mitmHeader_agrees_iff : Agrees profile (mitmHeader profile h) ↔ Consistent profile := by
  obtain ⟨ua, hdefault, hua⟩ := @defaultValues_userAgent profile
  have hsent := (@mitmHeader_userAgent profile h).trans hdefault
  have hhints := @mitmHeader_secChUa profile h
  have hagrees : Agrees profile (mitmHeader profile h) ↔
      defaultBrowser profile = (resolveProfile profile).browser ∧
        (isFirefoxProfile profile = false →
          chUaBrowser (secChUa profile) = some (resolveProfile profile).browser) := by
    constructor
    · intro h
      refine ⟨?_, fun hfirefox ↦ h.secChUa _ ?_⟩
      · exact Option.some.inj (hua.symm.trans (h.userAgent ua (by simp [hsent])))
      · simp [hhints, hfirefox]
    · rintro ⟨hbrowser, hchrome⟩
      refine ⟨by simp [hsent], ?_, ?_⟩
      · intro ua' hmem
        rw [hsent, List.mem_singleton] at hmem
        rw [hmem, hua, hbrowser]
      · intro ch hmem
        rw [hhints] at hmem
        cases hfirefox : isFirefoxProfile profile with
        | true => simp [hfirefox] at hmem
        | false =>
          simp only [hfirefox, Bool.false_eq_true, if_false, List.mem_singleton] at hmem
          rw [hmem, hchrome hfirefox]
  rw [hagrees, Consistent, defaultBrowser]
  cases hfirefox : isFirefoxProfile profile with
  | true =>
    rw [if_pos rfl, eq_comm, resolveProfile_firefox123_iff hfirefox]
    simp
  | false =>
    have hname : profile ≠ ascii "firefox_123" := by
      rintro rfl
      exact absurd hfirefox (by decide)
    rw [if_neg (by simp), eq_comm, resolveProfile_chrome120_iff, secChUa_eq, chUaBrowser_brandList]
    simp only [hname, false_or, true_and, forall_const]
    constructor
    · rintro ⟨hother, hversion⟩
      refine ⟨hother, ?_⟩
      intro v hv
      rw [hv, resolveProfile_chrome120_iff.mpr hother, Option.getD_some,
        Option.map_eq_some_iff] at hversion
      obtain ⟨major, hparse, hmajor⟩ := hversion
      rw [hparse, (Browser.mk.inj hmajor).2]
    · rintro ⟨hother, hversion⟩
      refine ⟨hother, ?_⟩
      rw [resolveProfile_chrome120_iff.mpr hother]
      cases hnamed : namedVersion profile with
      | none => decide
      | some v => rw [Option.getD_some, hversion v hnamed, Option.map_some]

/-- A plain request agrees with the TLS profile exactly where the client itself does. -/
theorem plainHeader_agrees_iff :
    Agrees profile (plainHeader profile h) ↔ TellsProfile profile h := by
  obtain ⟨ua, hdefault, hua⟩ := @defaultValues_userAgent profile
  have hsent : plainHeader profile h "User-Agent" =
      if h "User-Agent" = [] then [ua] else h "User-Agent" :=
    hdefault ▸ plainHeader_apply (by decide)
  have hhints : plainHeader profile h "Sec-Ch-Ua" =
      if h "Sec-Ch-Ua" = [] then if isFirefoxProfile profile then [] else [brandList "8" "120"]
      else h "Sec-Ch-Ua" :=
    @defaultValues_secChUa profile ▸ plainHeader_apply (by decide)
  have hbrands : chUaBrowser (brandList "8" "120") = some ⟨.chrome, 120⟩ := by
    rw [chUaBrowser_brandList]
    decide
  constructor
  · intro hagrees
    constructor
    · intro ua' hmem
      refine hagrees.userAgent ua' ?_
      rwa [hsent, if_neg (List.ne_nil_of_mem hmem)]
    · intro hnone
      have hmem := hagrees.userAgent ua (by simp [hsent, hnone])
      exact Option.some.inj (hua.symm.trans hmem)
    · intro ch hmem
      refine hagrees.secChUa ch ?_
      rwa [hhints, if_neg (List.ne_nil_of_mem hmem)]
    · intro hnone hfirefox
      have hmem := hagrees.secChUa (brandList "8" "120") (by simp [hhints, hnone, hfirefox])
      exact (Option.some.inj (hbrands.symm.trans hmem)).symm
  · intro htells
    constructor
    · rw [hsent]
      split
      next => exact List.cons_ne_nil ua []
      next hsome => exact hsome
    · intro ua' hmem
      rw [hsent] at hmem
      split at hmem
      next hnone =>
        rw [List.mem_singleton.mp hmem, hua, htells.no_userAgent hnone]
      next => exact htells.userAgent ua' hmem
    · intro ch hmem
      rw [hhints] at hmem
      split at hmem
      next hnone =>
        cases hfirefox : isFirefoxProfile profile with
        | true => simp [hfirefox] at hmem
        | false =>
          simp only [hfirefox, Bool.false_eq_true, if_false, List.mem_singleton] at hmem
          rw [hmem, hbrands, htells.no_secChUa hnone hfirefox]
      next => exact htells.secChUa ch hmem

theorem sentAlike_iff {default vs vs' : List Bytes} :
    SentAlike default vs vs' ↔
      (if vs = [] then default else vs) = if vs' = [] then default else vs' := by
  unfold SentAlike
  by_cases hvs : vs = []
  · by_cases hvs' : vs' = []
    · simp [hvs, hvs']
    · simp [hvs, hvs', Ne.symm hvs', eq_comm]
  · by_cases hvs' : vs' = []
    · simp [hvs, hvs']
    · simp [hvs, hvs']

/-- A plain request issues what the client sent of its identity, defaults only in its gaps. -/
theorem plainHeader_eq_iff (hsame : SameOthers h h') :
    plainHeader profile h = plainHeader profile h' ↔
      ∀ k, isFamily k = true → SentAlike (defaultValues profile k) (h k) (h' k) := by
  constructor
  · intro heq k hk
    have hsent := congrFun heq k
    rwa [plainHeader_apply hk, plainHeader_apply hk, ← sentAlike_iff] at hsent
  · intro halike
    ext1 k
    cases hk : isFamily k with
    | true => rw [plainHeader_apply hk, plainHeader_apply hk, sentAlike_iff.mp (halike k hk)]
    | false =>
      rw [plainHeader, plainHeader, merged_apply, merged_apply, forward, forward, hsame k hk]

end Agreement

/-- Of two requests that differ only in what tells clients apart, a route issues one header that
agrees with the TLS profile exactly under the conditions of `Hides`. -/
theorem fingerprint_hidden_iff (route : Route) (profile : Bytes) (fields fields' : List Field)
    (hsame : SameOthers (headerOf fields) (headerOf fields')) :
    FingerprintHidden route profile fields fields' ↔
      Hides route profile (headerOf fields) (headerOf fields') := by
  cases route with
  | mitm =>
    have hstray : (∀ k, isStrayHint k = true →
          fixRequestHeader (headerOf fields) k = fixRequestHeader (headerOf fields') k) ↔
        ∀ k, isStrayHint k = true → headerOf fields k = headerOf fields' k := by
      refine forall₂_congr fun k hk ↦ ?_
      have hfamily := (not_dropped_of_isStrayHint hk).1
      rw [fixRequestHeader_apply hfamily, fixRequestHeader_apply hfamily]
    exact and_congr ((mitmHeader_eq_iff hsame.fixRequestHeader).trans hstray) mitmHeader_agrees_iff
  | plain => exact and_congr (plainHeader_eq_iff hsame) plainHeader_agrees_iff

theorem headerOf_eq_nil {fields : List Field} {k : Bytes}
    (hfields : ∀ f ∈ fields, canonicalHeaderKey f.name ≠ k) : headerOf fields k = [] := by
  rw [headerOf, valuesOf, List.map_eq_nil_iff, List.filter_eq_nil_iff]
  intro f hf
  obtain ⟨g, hg, rfl⟩ := List.mem_map.mp hf
  rw [decide_eq_true_eq]
  exact hfields g hg

/-- The header of fields whose keys all have a property is empty elsewhere. -/
theorem headerOf_eq_nil_of_forall {p : Bytes → Bool} {fields : List Field} {k : Bytes}
    (hfields : ∀ f ∈ fields, p (canonicalHeaderKey f.name) = true) (hk : p k = false) :
    headerOf fields k = headerOf [] k := by
  refine headerOf_eq_nil fun f hf heq ↦ ?_
  rw [← heq, hfields f hf] at hk
  exact absurd hk (by decide)

/-- A tunnel hides a newer Chrome behind Chrome 120. -/
theorem fingerprint_hidden_chrome : FingerprintHidden .mitm "chrome_120"
    [⟨"user-agent", "Mozilla/5.0 Chrome/149.0.0.0 Safari/537.36"⟩,
      ⟨"SEC-CH-UA", "\"Chromium\";v=\"149\", \"Not)A;Brand\";v=\"24\""⟩] [] := by
  refine (fingerprint_hidden_iff _ _ _ _ fun k ↦ headerOf_eq_nil_of_forall ?_).mpr
    ⟨fun k hk ↦ ?_, ?_⟩
  · decide
  · refine headerOf_eq_nil_of_forall (p := fun k ↦ !isStrayHint k) ?_ (by simp [hk])
    decide
  · refine .inr ?_
    unfold otherNames profileNames ascii
    repeat rw [String.toList_ofList]
    decide

/-- A name that is not canonical in the list of hints, a profile whose `User-Agent` is that of
another version, and a plain request: each tells the client or the sidecar from Chrome. -/
theorem not_hidden_wow64 :
    SameOthers (headerOf [⟨"Sec-CH-UA-WoW64", "?1"⟩]) (headerOf []) ∧
      ¬ FingerprintHidden .mitm "chrome_120" [⟨"Sec-CH-UA-WoW64", "?1"⟩] [] ∧
      ¬ FingerprintHidden .mitm "chrome_117" [] [] ∧
      ¬ FingerprintHidden .plain "chrome_120" [⟨"User-Agent", "curl/8.5.0"⟩] [] := by
  have hsame : SameOthers (headerOf [⟨"Sec-CH-UA-WoW64", "?1"⟩]) (headerOf []) :=
    fun k ↦ headerOf_eq_nil_of_forall (by decide)
  refine ⟨hsame, ?_, ?_, ?_⟩
  · intro h
    have hstray : isStrayHint "Sec-Ch-Ua-Wow64" = true := by
      unfold isStrayHint isUACH ascii
      repeat rw [String.toList_ofList]
      decide
    have hsent := (mitmHeader_eq_iff hsame.fixRequestHeader).mp h.1 _ hstray
    exact absurd hsent (by decide)
  · intro h
    rcases mitmHeader_agrees_iff.mp h.2 with hname | ⟨-, hother, -⟩
    · exact absurd hname (by decide)
    · refine absurd hother ?_
      unfold otherNames profileNames ascii
      repeat rw [String.toList_ofList]
      decide
  · intro h
    exact absurd (congrFun h.1 (ascii "User-Agent")) (by decide)

end CrwShield.Proxy
