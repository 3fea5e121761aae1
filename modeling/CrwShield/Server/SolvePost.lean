import CrwShield.Server.CookieText
import CrwShield.Server.HitlHost
import CrwShield.Server.HitlSolve
import CrwShield.Server.SolveUi

/-!
# From the solve form to the sent header

Crate `server`, `src/crates/server/src/handlers.rs:697–809`. The form is shown for an entry of the
queue. A posted text is parsed, its cookies without a domain get the host of the entry, and the rest
is the solve of the JSON endpoint.
-/

open CrwShield.Base CrwShield.Base.Str CrwShield.Base.Hierarchy CrwShield.Antibot

namespace CrwShield.Server

/-- The page for an id without an entry; `handlers.rs:704–709,793–798`. -/
def unknownIdPage (id : Str) : Str :=
  ("<!DOCTYPE html><html><head><meta charset=\"utf-8\"><title>Unknown hitl_id</title></head>" ++
    "<body style=\"font-family:sans-serif;max-width:600px;margin:3rem auto;padding:0 1rem;\">" ++
    "<h1>Unknown hitl_id</h1><p>No HITL queue entry found for id <code>" : Str) ++ htmlEscape id ++
    "</code>.</p></body></html>"

/-- `Value::as_u64`. -/
def asU64 : Json → Option Nat
  | .num literal => parseU64 literal
  | _ => none

/-- Cookies without a domain get the host of the entry; `handlers.rs:753–761`. -/
def backfill (host : Option Str) (cookies : List HitlCookie) : List HitlCookie :=
  cookies.map fun c ↦ { c with domain := c.domain.or host }

/-- The page of a solve, from its answer; `handlers.rs:766–807`. -/
def solvePage (id : Str) : Except (Nat × Json) Json → Nat × Str
  | .ok value =>
    let n := ((value.get? "cookies_stored").bind asU64).getD 0
    let host := ((value.get? "host").bind Json.asStr).getD "?"
    (200, renderSolveResultSuccess id n host)
  | .error (status, errVal) =>
    let errMsg := ((errVal.get? "error").bind Json.asStr).getD "unknown error"
    if status = 404 then (404, unknownIdPage id) else (status, renderSolveResultError id errMsg)

section Handlers

universe u
variable {ω : Type u} (io : HitlIo ω) (fromJson : Str → Except Str (List HitlCookie))

/-- `handlers.rs:697–723`. -/
def hitlSolveUiGet (id : Str) (w : ω) : Nat × Str :=
  match handleHitlResult io id w with
  | .error _ => (404, unknownIdPage id)
  | .ok entry => (200, renderSolveUiForm id (some entry))

/-- `handlers.rs:728–809`, with the text of the form. -/
def hitlSolveUiPost (persistencePath : Option Str) (id form : Str) (jar : CookieJar) (w : ω) :
    (Nat × Str) × CookieJar × ω :=
  match parseCookiesText fromJson form with
  | .error e => ((400, renderSolveResultError id e), jar, w)
  | .ok cookies =>
    let host := ((handleHitlResult io id w).toOption.bind entryHost)
    let (answer, jar, w) := handleHitlSolve io persistencePath id ⟨backfill host cookies⟩ jar w
    (solvePage id answer, jar, w)

end Handlers

section Backfill

variable {host : Str} {cookies : List HitlCookie}

/-- The host that a form stamps: the domain of the first cookie, or else the host of the entry. -/
def formHost (host : Str) (cookies : List HitlCookie) : Str :=
  (cookies.head?.bind HitlCookie.domain).getD host

theorem resolvedHost_backfill (h : cookies ≠ []) (urlHost : Option Str) :
    resolvedHost (backfill (some host) cookies) urlHost = some (formHost host cookies) := by
  obtain ⟨c, rest, rfl⟩ := List.exists_cons_of_ne_nil h
  rw [resolvedHost, backfill, List.map_cons, formHost, List.head?_cons, Option.bind_some]
  cases c.domain <;> simp

/-- Every cookie is filed under its domain, or else under the host of the entry. -/
theorem solveWrites_backfill (resolved : Str) :
    solveWrites resolved (backfill (some host) cookies) = solveWrites host cookies := by
  rw [solveWrites, backfill, List.map_map, solveWrites]
  refine List.map_congr_left fun c _ ↦ ?_
  cases hdomain : c.domain <;> simp [hdomain]

end Backfill

section Solve

universe u
variable {ω : Type u} {io : HitlIo ω} {persistencePath : Option Str} {id host : Str}
  {cookies : List HitlCookie} {entry : Json} {walk : SolveWalk ω} {queue : List Str}

/-- What a solve answers that has stored its cookies and fails afterwards: the step that failed,
with its error. -/
inductive FailedStep (io : HitlIo ω) : Str → Prop
  | serialize {entry : Json} {e : Str} (h : io.printJson entry = .error e) :
      FailedStep io ("serialize entry: " ++ e)
  | parse {line e : Str} (h : io.parseJson line = .error e) :
      FailedStep io ("parse queue entry: " ++ e)
  | write {path text e : Str} {w w' : ω} (h : io.write path text w = (.error e, w')) :
      FailedStep io ("write tmp queue file: " ++ e)
  | rename {source target e : Str} {w w' : ω} (h : io.rename source target w = (.error e, w')) :
      FailedStep io ("rename tmp queue file: " ++ e)

/-- A walk that solved its entry, and ended well or on a step that failed. -/
inductive Solved (io : HitlIo ω) (host : Str) (jar : CookieJar) :
    Except (Nat × Json) Unit × SolveWalk ω → Prop
  | intro {answer : Except (Nat × Json) Unit} {walk : SolveWalk ω} :
      (answer = .ok () ∨ ∃ e, FailedStep io e ∧ answer = .error (solveError 500 e)) →
      walk.found = true → walk.targetHost = some host → walk.jar = jar →
      Solved io host jar (answer, walk)

theorem solveMatched_solved (h : resolvedHost cookies (entryHost entry) = some host) :
    Solved io host (solveJar (io.now walk.world) host cookies walk.jar)
      (solveMatched io persistencePath cookies entry walk) := by
  rw [entryHost] at h
  unfold solveMatched
  simp only [h]
  split
  · next e hprint => exact .intro (.inr ⟨_, .serialize hprint, rfl⟩) rfl rfl rfl
  · exact .intro (.inl rfl) rfl rfl rfl

/-- Behind the entry the walk changes no cookie. -/
theorem solveLines_solved (hfound : walk.found = true) (hhost : walk.targetHost = some host) :
    Solved io host walk.jar (solveLines io persistencePath id cookies queue walk) := by
  induction queue generalizing walk with
  | nil => exact .intro (.inl rfl) hfound hhost rfl
  | cons line rest ih =>
    unfold solveLines
    split
    · exact ih hfound hhost
    · split
      · next e hparse => exact .intro (.inr ⟨_, .parse hparse, rfl⟩) hfound hhost rfl
      · simp only [hfound, Bool.not_true, Bool.false_and, Bool.false_eq_true, if_false]
        exact @ih { walk with found := true, outLines := walk.outLines ++ [line] } rfl hhost

/-- The walk solves the entry that a lookup of the id finds. -/
theorem solveLines_of_findEntry (hfound : walk.found = false)
    (hentry : findEntry io id queue = .ok entry)
    (hhost : resolvedHost cookies (entryHost entry) = some host) :
    Solved io host (solveJar (io.now walk.world) host cookies walk.jar)
      (solveLines io persistencePath id cookies queue walk) := by
  induction queue generalizing walk with
  | nil => exact absurd hentry (by simp [findEntry])
  | cons line rest ih =>
    unfold findEntry at hentry
    unfold solveLines
    split at hentry
    · next hblank =>
      rw [if_pos hblank]
      exact ih hfound hentry
    · next hblank =>
      rw [if_neg hblank]
      split at hentry
      · exact absurd hentry (by simp)
      · next e _ =>
        split at hentry
        · next hid =>
          obtain rfl := Except.ok.inj hentry
          have hid : (e.get? "id").bind Json.asStr = some id := hid
          simp only [hfound, hid, Bool.not_false, decide_true, Bool.and_true, if_true]
          have hsolved : Solved io host (solveJar (io.now walk.world) host cookies walk.jar)
              (solveMatched io persistencePath cookies e walk) := solveMatched_solved hhost
          cases hmatched : solveMatched io persistencePath cookies e walk with
          | mk answer walk' =>
            rw [hmatched] at hsolved
            obtain ⟨hanswer, hfound', hhost', hjar⟩ := hsolved
            cases answer with
            | error err => exact .intro hanswer hfound' hhost' hjar
            | ok done =>
              rw [← hjar]
              exact solveLines_solved hfound' hhost'
        · next hid =>
          have hid : (e.get? "id").bind Json.asStr ≠ some id := hid
          simp only [hfound, hid, Bool.not_false, decide_false, Bool.and_false, Bool.false_eq_true,
            if_false]
          exact @ih { walk with found := false, outLines := walk.outLines ++ [line] } rfl hentry

/-- Where a lookup of the id fails, the walk fails or finds nothing, and changes nothing. -/
theorem solveLines_of_findEntry_error {e : Str} (hfound : walk.found = false)
    (hentry : findEntry io id queue = .error e) :
    ∃ answer walk', solveLines io persistencePath id cookies queue walk = (answer, walk') ∧
      (answer = .ok () ∨ ∃ err, answer = .error (solveError 500 err)) ∧ walk'.found = false ∧
      walk'.jar = walk.jar ∧ walk'.world = walk.world := by
  induction queue generalizing walk with
  | nil => exact ⟨_, _, rfl, .inl rfl, hfound, rfl, rfl⟩
  | cons line rest ih =>
    unfold findEntry at hentry
    unfold solveLines
    split at hentry
    · next hblank =>
      rw [if_pos hblank]
      exact ih hfound hentry
    · next hblank =>
      rw [if_neg hblank]
      split at hentry
      · exact ⟨_, _, rfl, .inr ⟨_, rfl⟩, hfound, rfl, rfl⟩
      · next parsed _ =>
        split at hentry
        · exact absurd hentry (by simp)
        · next hid =>
          have hid : (parsed.get? "id").bind Json.asStr ≠ some id := hid
          simp only [hfound, hid, Bool.not_false, decide_false, Bool.and_false, Bool.false_eq_true,
            if_false]
          exact @ih { walk with found := false, outLines := walk.outLines ++ [line] } rfl hentry

/-- A solve of the entry that is shown stores the posted cookies, whatever becomes of the files. -/
theorem handleHitlSolve_of_result {jar : CookieJar} {w : ω} (hne : cookies ≠ [])
    (hresult : handleHitlResult io id w = .ok entry)
    (hhost : resolvedHost cookies (entryHost entry) = some host) :
    ∃ answer w', handleHitlSolve io persistencePath id ⟨cookies⟩ jar w =
        (answer, solveJar (io.now w) host cookies jar, w') ∧
      ((∃ value, answer = .ok value ∧ value.get? "host" = some (.str host) ∧
          value.get? "cookies_stored" = some (.num (ofNat cookies.length))) ∨
        ∃ e, FailedStep io e ∧ answer = .error (solveError 500 e)) := by
  unfold handleHitlResult at hresult
  dsimp only at hresult
  unfold handleHitlSolve
  rw [if_neg (by simpa using hne)]
  dsimp only
  split at hresult
  · exact absurd hresult (by simp)
  · next content _ =>
    set start : SolveWalk ω := ⟨false, none, none, [], jar, w⟩ with hstart
    have hfresh : start.found = false := rfl
    have hsolved : Solved io host (solveJar (io.now start.world) host cookies start.jar)
        (solveLines io persistencePath id cookies (lines content) start) :=
      solveLines_of_findEntry hfresh hresult hhost
    cases hlines : solveLines io persistencePath id cookies (lines content) start with
    | mk answer walk =>
      rw [hlines] at hsolved
      obtain ⟨hanswer, hfound, htarget, hjar⟩ := hsolved
      rcases hanswer with rfl | ⟨e, hfailed, rfl⟩
      · simp only [hfound, hjar, Bool.not_true, Bool.false_eq_true, if_false]
        split
        · next hwrite => exact ⟨_, _, rfl, .inr ⟨_, .write hwrite, rfl⟩⟩
        · split
          · next hrename => exact ⟨_, _, rfl, .inr ⟨_, .rename hrename, rfl⟩⟩
          · refine ⟨_, _, rfl, .inl ⟨_, rfl, ?_, ?_⟩⟩
            · rw [htarget]
              rfl
            · rfl
      · exact ⟨_, _, congrArg (fun jar ↦ (_, jar, _)) hjar, .inr ⟨e, hfailed, rfl⟩⟩

/-- Where no entry is shown a solve changes nothing. -/
theorem handleHitlSolve_of_result_error {jar : CookieJar} {w : ω} {e : Str}
    (hresult : handleHitlResult io id w = .error e) :
    ∃ status text, handleHitlSolve io persistencePath id ⟨cookies⟩ jar w =
        (.error (solveError status text), jar, w) ∧ status ∈ [400, 404, 500] := by
  unfold handleHitlResult at hresult
  dsimp only at hresult
  unfold handleHitlSolve
  dsimp only
  split
  · exact ⟨_, _, rfl, by simp⟩
  · split at hresult
    · exact ⟨_, _, rfl, by simp⟩
    · next content _ =>
      set start : SolveWalk ω := ⟨false, none, none, [], jar, w⟩ with hstart
      have hfresh : start.found = false := rfl
      obtain ⟨answer, walk, hlines, hanswer, hfound, hjar, hworld⟩ :
          ∃ answer walk, solveLines io persistencePath id cookies (lines content) start =
              (answer, walk) ∧ (answer = .ok () ∨ ∃ err, answer = .error (solveError 500 err)) ∧
            walk.found = false ∧ walk.jar = start.jar ∧ walk.world = start.world :=
        solveLines_of_findEntry_error hfresh hresult
      rw [hlines]
      rcases hanswer with rfl | ⟨err, rfl⟩
      · simp only [hfound, hjar, hworld, Bool.not_false, if_true]
        exact ⟨_, _, rfl, by simp⟩
      · simp only [hjar, hworld]
        exact ⟨_, _, rfl, by simp⟩

end Solve

section Text

variable {fromJson : Str → Except Str (List HitlCookie)} {pairs : List (Str × Str)} {text : Str}

/-- A text that is not a JSON array is read as its entries. -/
theorem parseCookiesText_entries (hne : entriesOf text ≠ [])
    (hhead : (text.dropWhile isWhitespace).head? ≠ some '[') :
    parseCookiesText fromJson text = .ok (entriesOf text) := by
  have hentries : ((trim text).splitOnP isSeparator).filterMap parseCookieEntry = entriesOf text :=
    entriesOf_trim text
  have htext : (trim text).isEmpty = false := by
    rw [List.isEmpty_eq_false_iff]
    intro hnil
    rw [hnil] at hentries
    exact hne hentries.symm
  have hjson : startsWith "[" (trim text) = false := by
    rw [startsWith, Bool.eq_false_iff]
    intro hprefix
    obtain ⟨tail, htail⟩ : ("[" : Str) <+: text.dropWhile isWhitespace :=
      (List.isPrefixOf_iff_prefix.mp hprefix).trans (List.rdropWhile_prefix _ _)
    exact hhead (by rw [← htail]; rfl)
  have hsome : (entriesOf text).isEmpty = false := by simpa using hne
  rw [parseCookiesText, htext, hjson]
  dsimp only
  rw [if_neg Bool.false_ne_true, if_neg Bool.false_ne_true, hentries, hsome,
    if_neg Bool.false_ne_true]

/-- What a pasted text files under a host: for each name the value that comes last. -/
theorem findRev?_solveWrites (host b n : Str) :
    ((solveWrites host (pairs.map cookieOf)).findRev? (·.hits b n)) =
      if normalizeHost host = b then
        (pairs.findRev? (·.1 = n)).map fun pair ↦ ⟨host, pair.1, pair.2, none⟩
      else none := by
  have hwrites : solveWrites host (pairs.map cookieOf) =
      pairs.map fun pair ↦ ⟨host, pair.1, pair.2, none⟩ := by
    rw [solveWrites, List.map_map]
    rfl
  rw [hwrites, List.findRev?_eq_find?_reverse, ← List.map_reverse, List.find?_map,
    List.findRev?_eq_find?_reverse]
  by_cases hb : normalizeHost host = b
  · rw [if_pos hb]
    congr 2
    funext pair
    simp [CookieWrite.hits, hb]
  · rw [if_neg hb, Option.map_eq_none_iff, List.find?_eq_none]
    intro pair _
    simp [CookieWrite.hits, hb]

end Text

/-- A text pasted into the form that is shown for an entry, whose URL spells the host `h`. -/
structure Pasting {ω : Type*} (U : UrlCrate) (io : HitlIo ω) (id : Str) (w : ω) (url h : Str)
    (pairs : List (Str × Str)) (form : Str) : Prop where
  entry : ∃ entry, handleHitlResult io id w = .ok entry ∧ entryText entry "url" = some url
  host : ∃ u, U.parse url = .ok u ∧ U.hostStr u = some h
  named : normalizeHost h ≠ []
  spelled : SpellsHost url h
  text : Pasted pairs form
  plain : ∀ pair ∈ pairs, PlainPair pair
  first : ∀ pair, pairs.head? = some pair → pair.1.head? ≠ some '['
  some_pair : pairs ≠ []
  in_range : pairs.length < 2 ^ 64

/-- The page says what was stored, or which step failed after that; under the host the jar has the
last value of every name, and no other cookie has changed; the host is stamped; and each such cookie
is sent with requests for the URL. -/
structure PastedCookies {ω : Type*} (U : UrlCrate) (io : HitlIo ω) (id : Str) (w : ω) (url h : Str)
    (pairs : List (Str × Str)) (jar : CookieJar) (result : (Nat × Str) × CookieJar × ω) : Prop where
  page : result.1 = (200, renderSolveResultSuccess id pairs.length (normalizeHost h)) ∨
    ∃ err, FailedStep io err ∧ result.1 = (500, renderSolveResultError id err)
  stored : ∀ b n, result.2.1.lookup b n =
    if b = normalizeHost h then
      ((pairs.findRev? (·.1 = n)).map fun pair ↦ ⟨pair.2, none⟩).or (jar.lookup b n)
    else jar.lookup b n
  stamped : result.2.1.lastHitlSolvedUnix[normalizeHost h]? = some ((io.now w).getD 0)
  sent : ∀ now pair, pairs.findRev? (·.1 = pair.1) = some pair →
    pair.1 ++ "=" ++ pair.2 ∈ result.2.1.sentCookies now U url

/-- Where the form is not shown a post changes nothing, and where it is shown the text pasted into
it becomes the cookies of its host. -/
structure SolveUiSound {ω : Type*} (U : UrlCrate) (io : HitlIo ω)
    (fromJson : Str → Except Str (List HitlCookie)) (persistencePath : Option Str) (id : Str)
    (jar : CookieJar) (w : ω) : Prop where
  hidden : ∀ form, (hitlSolveUiGet io id w).1 = 404 →
    ∃ status page, hitlSolveUiPost io fromJson persistencePath id form jar w =
      ((status, page), jar, w) ∧ status ∈ [400, 404, 500]
  shown : ∀ url h pairs form, Pasting U io id w url h pairs form →
    PastedCookies U io id w url h pairs jar
      (hitlSolveUiPost io fromJson persistencePath id form jar w)

section Post

universe u
variable {ω : Type u} {U : UrlCrate} {io : HitlIo ω} {fromJson : Str → Except Str (List HitlCookie)}
  {persistencePath : Option Str} {id url h form : Str} {pairs : List (Str × Str)} {jar : CookieJar}
  {w : ω}

/-- A printed number is read back. -/
theorem parseU64_ofNat {n : Nat} (h : n < 2 ^ 64) : parseU64 (ofNat n) = some n := by
  have hdigits : ∀ c ∈ ofNat n, c.isDigit = true :=
    fun c hc ↦ Nat.isDigit_of_mem_toDigits (by decide) (by decide) hc
  have hne : ofNat n ≠ [] := Nat.toDigits_ne_nil
  have hplus : (ofNat n).head? ≠ some '+' := by
    intro hhead
    have hdigit := hdigits '+' (List.mem_of_mem_head? hhead)
    exact absurd hdigit (by decide)
  have hvalue : (ofNat n).foldl (fun acc c ↦ acc * 10 + (c.toNat - 48)) 0 = n := by
    have hfold := @Nat.ofDigitChars_ten_toDigits n
    rw [Nat.ofDigitChars_eq_foldl] at hfold
    simp only [Nat.mul_comm 10] at hfold
    exact hfold
  have hguard : ((ofNat n).isEmpty || !(ofNat n).all Char.isDigit) = false := by
    rw [Bool.or_eq_false_iff]
    refine ⟨List.isEmpty_eq_false_iff.mpr hne, ?_⟩
    rw [List.all_eq_true.mpr hdigits]
    rfl
  rw [parseU64, if_neg hplus, parseDigits, hguard, if_neg Bool.false_ne_true, hvalue,
    Option.bind_some, if_pos h]

theorem solvePage_error (id : Str) (status : Nat) (text : Str) :
    solvePage id (.error (solveError status text)) =
      if status = 404 then (404, unknownIdPage id) else (status, renderSolveResultError id text) :=
  rfl

theorem solvePage_ok {value : Json} {n : Nat} {host : Str} (hn : n < 2 ^ 64)
    (hhost : value.get? "host" = some (.str host))
    (hstored : value.get? "cookies_stored" = some (.num (ofNat n))) :
    solvePage id (.ok value) = (200, renderSolveResultSuccess id n host) := by
  have hcount : (value.get? "cookies_stored").bind asU64 = some n := by
    rw [hstored]
    exact parseU64_ofNat hn
  have hname : (value.get? "host").bind Json.asStr = some host := by
    rw [hhost]
    rfl
  unfold solvePage
  dsimp only
  rw [hcount, hname]
  rfl

namespace Pasting

variable (paste : Pasting U io id w url h pairs form)
include paste

/-- The pasted text is parsed to its cookies. -/
theorem parsed : parseCookiesText fromJson form = .ok (pairs.map cookieOf) := by
  have hentries := entriesOf_pasted paste.text paste.plain
  rw [parseCookiesText_entries ?_ (head_dropWhile_pasted paste.text paste.plain paste.first),
    hentries]
  rw [hentries]
  simpa using paste.some_pair

/-- The host of the entry, as the form finds it. -/
theorem entryHost_eq {entry : Json} (hentry : entryText entry "url" = some url) :
    entryHost entry = some (normalizeHost h) := by
  obtain ⟨rest, hrest⟩ : ∃ rest, Follows "://" url rest := ⟨_, (follows_iff (by decide)).mpr rfl⟩
  obtain ⟨hne, hsame⟩ := (spellsHost_iff hrest).mp paste.spelled
  have hempty : (handPiece rest).isEmpty = false := List.isEmpty_eq_false_iff.mpr hne
  have hurl : (entry.get? "url").bind Json.asStr = some url := hentry
  rw [entryHost, hurl, Option.bind_some, urlHostStr_eq hrest, hempty, if_neg Bool.false_ne_true,
    hsame]

/-- The jar finds the URL under the same host. -/
theorem urlHost_eq : urlHost U url = some (normalizeHost h) := by
  obtain ⟨u, hparse, hhost⟩ := paste.host
  simp only [urlHost, hparse, hhost, Option.map_some]

/-- No pasted cookie has a domain, so all are filed under the host of the entry. -/
theorem formHost_eq : formHost (normalizeHost h) (pairs.map cookieOf) = normalizeHost h := by
  obtain ⟨pair, rest, rfl⟩ := List.exists_cons_of_ne_nil paste.some_pair
  rfl

/-- The post answers for the stored cookies, or for the step that failed after them. -/
theorem post_eq : ∃ page w', hitlSolveUiPost io fromJson persistencePath id form jar w =
      (page, solveJar (io.now w) (normalizeHost h)
        (backfill (some (normalizeHost h)) (pairs.map cookieOf)) jar, w') ∧
    (page = (200, renderSolveResultSuccess id pairs.length (normalizeHost h)) ∨
      ∃ err, FailedStep io err ∧ page = (500, renderSolveResultError id err)) := by
  obtain ⟨entry, hresult, hurl⟩ := paste.entry
  have hcookies : pairs.map cookieOf ≠ [] := by simpa using paste.some_pair
  have hfilled : backfill (some (normalizeHost h)) (pairs.map cookieOf) ≠ [] := by
    simpa [backfill] using hcookies
  have hhost : resolvedHost (backfill (some (normalizeHost h)) (pairs.map cookieOf))
      (entryHost entry) = some (normalizeHost h) := by
    rw [resolvedHost_backfill hcookies, paste.formHost_eq]
  obtain ⟨answer, w', hsolve, hanswer⟩ :=
    @handleHitlSolve_of_result ω io persistencePath id _ _ _ jar w hfilled hresult hhost
  have hfound : (handleHitlResult io id w).toOption.bind entryHost = some (normalizeHost h) := by
    rw [hresult]
    exact paste.entryHost_eq hurl
  refine ⟨solvePage id answer, w', ?_, ?_⟩
  · unfold hitlSolveUiPost
    rw [paste.parsed]
    dsimp only
    rw [hfound, hsolve]
  · rcases hanswer with ⟨value, rfl, hvalue, hstored⟩ | ⟨e, hfailed, rfl⟩
    · left
      rw [backfill, List.length_map, List.length_map] at hstored
      exact solvePage_ok paste.in_range hvalue hstored
    · right
      exact ⟨e, hfailed, rfl⟩

end Pasting

/-- The form files what is pasted into it for an entry that it shows, and nothing else. -/
theorem solveUi_sound (hU : U.Lawful) (io : HitlIo ω)
    (fromJson : Str → Except Str (List HitlCookie)) (persistencePath : Option Str) (id : Str)
    (jar : CookieJar) (w : ω) : SolveUiSound U io fromJson persistencePath id jar w := by
  constructor
  case hidden =>
    intro form hget
    obtain ⟨e, hresult⟩ : ∃ e, handleHitlResult io id w = .error e := by
      unfold hitlSolveUiGet at hget
      split at hget
      · next e hresult => exact ⟨e, hresult⟩
      · exact absurd hget (show (200 : Nat) ≠ 404 by decide)
    unfold hitlSolveUiPost
    split
    · exact ⟨400, _, rfl, by simp⟩
    · next cookies _ =>
      dsimp only
      obtain ⟨status, text, hsolve, hstatus⟩ := handleHitlSolve_of_result_error hresult
      rw [hsolve]
      dsimp only
      rw [solvePage_error]
      split
      · exact ⟨404, _, rfl, by simp⟩
      · exact ⟨status, _, rfl, hstatus⟩
  case shown =>
    intro url h pairs form paste
    obtain ⟨page, w', hpost, hpage⟩ := paste.post_eq
    rw [hpost]
    obtain ⟨u, hparse, hhost⟩ := paste.host
    have hnormal : normalizeHost (normalizeHost h) = normalizeHost h :=
      normalizeHost_idem (hU.hostStr_noSpace u h hhost)
    have hstored : ∀ b n, (solveJar (io.now w) (normalizeHost h)
        (backfill (some (normalizeHost h)) (pairs.map cookieOf)) jar).lookup b n =
        if b = normalizeHost h then
          ((pairs.findRev? (·.1 = n)).map fun pair ↦ ⟨pair.2, none⟩).or (jar.lookup b n)
        else jar.lookup b n := by
      intro b n
      rw [lookup_solveJar, CookieJar.lookup_setAll, solveWrites_backfill, findRev?_solveWrites,
        hnormal]
      by_cases hb : b = normalizeHost h
      · rw [if_pos hb, if_pos hb.symm, Option.map_map]
        rfl
      · rw [if_neg hb, if_neg (Ne.symm hb)]
        rfl
    refine ⟨hpage, hstored, ?_, ?_⟩
    · show (Std.ExtTreeMap.insert _ (normalizeHost (normalizeHost h)) _)[_]? = _
      rw [hnormal, Std.ExtTreeMap.getElem?_insert_self]
    · intro now pair hlast
      refine CookieJar.mem_sentCookies.mpr ⟨normalizeHost h, pair.1, ⟨pair.2, none⟩,
        ⟨normalizeHost h, paste.urlHost_eq, ?_, ?_, rfl⟩, rfl⟩
      · rw [mem_hostCandidates, hnormal]
        exact ⟨paste.named, .refl _⟩
      · rw [hstored, if_pos rfl, hlast]
        rfl

end Post

/-- Two cookies, one of them pasted twice. -/
def shopPairs : List (Str × Str) := [("cf", "0"), ("seen", "a=b"), ("cf", "1")]

/-- The text that the console prints for them. -/
def shopForm : Str := "cf=0; seen=a=b; cf=1"

theorem pasting_shop :
    Pasting .plain shopQueue "1" () "https://www.shop.example/" "www.shop.example" shopPairs
      shopForm := by
  have hplainUrl : isPlainUrl "https://www.shop.example/" = true := by decide
  have hnil : Blank [] := by simp [Blank]
  have hspace : Blank [' '] := by simp [Blank, isWhitespace]
  constructor
  case entry => exact ⟨_, rfl, rfl⟩
  case host => exact ⟨_, UrlCrate.parse_plain hplainUrl, UrlCrate.hostStr_plain hplainUrl rfl⟩
  case named => decide
  case spelled =>
    refine ⟨"www.shop.example", "/", .found "https" _ rfl (by decide), by decide, by decide,
      by decide, fun c hc ↦ ?_, rfl⟩
    exact .inl (Option.some.inj hc).symm
  case text =>
    exact @Pasted.join _ _ _ _ ';' rfl (.entry "cf" "0" hnil hnil)
      (@Pasted.join _ _ _ _ ';' rfl (.entry "seen" "a=b" hspace hnil)
        (.entry "cf" "1" hspace hnil))
  case plain =>
    intro pair hpair
    rcases List.mem_cons.mp hpair with rfl | hpair
    · exact ⟨by decide, by decide, List.all_iff_forall_prop.mp (by decide), by decide,
        List.all_iff_forall_prop.mp (by decide)⟩
    · rcases List.mem_pair.mp hpair with rfl | rfl
      · exact ⟨by decide, by decide, List.all_iff_forall_prop.mp (by decide), by decide,
          List.all_iff_forall_prop.mp (by decide)⟩
      · exact ⟨by decide, by decide, List.all_iff_forall_prop.mp (by decide), by decide,
          List.all_iff_forall_prop.mp (by decide)⟩
  case first =>
    rintro pair hpair
    obtain rfl := Option.some.inj hpair
    decide
  case some_pair => decide
  case in_range => decide

/-- The value pasted last is the one sent. -/
theorem solveUi_sound_shop :
    ("cf" : Str) ++ "=" ++ "1" ∈ (hitlSolveUiPost shopQueue (fun _ ↦ .error "not JSON") none "1"
      shopForm .new ()).2.1.sentCookies (some 20) .plain "https://www.shop.example/" :=
  ((solveUi_sound UrlCrate.lawful_plain shopQueue (fun _ ↦ .error "not JSON") none "1" .new
    ()).shown _ _ _ _ pasting_shop).sent (some 20) ("cf", "1") (by decide)

end CrwShield.Server
