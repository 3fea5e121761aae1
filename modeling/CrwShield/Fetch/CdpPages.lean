import CrwShield.Fetch.CookieScript

/-!
# The pages of a browser

Crate `fetch`, `src/crates/fetch/src/cdp.rs:436–566,594–691`. A fetch opens a page and closes it at
its end. Between the two it may give up at the navigation, at an action whose element is missing,
or at reading the content, and then the page stays open.
-/

open CrwShield.Base CrwShield.Base.Str CrwShield.Core

namespace CrwShield.Fetch

universe u

/-- What the fetcher does with a browser and a page of it. Results that the code drops are left
out; errors are given as their display texts. -/
structure PageDriver (σ : Type u) where
  /-- `CdpFetcher::get_or_init`. -/
  getOrInit : σ → Except CrwError Unit × σ
  newPage : σ → Except Str Unit × σ
  evaluateOnNewDocument : σ → σ
  /-- `Page::evaluate`; the value if it is a string. -/
  evaluate : Str → σ → Option Str × σ
  goto : Str → σ → Except Str Unit × σ
  sleep : Nat → σ → σ
  humanise : σ → σ
  findElement : Str → σ → Except Str Unit × σ
  click : Str → σ → Except Str Unit × σ
  typeStr : Str → Str → σ → σ
  content : σ → Except Str Str × σ
  url : σ → Option Str × σ
  screenshot : Bool → σ → Option (List UInt8) × σ
  close : σ → σ

/-- A browser and the number of its open pages. -/
structure Tabs (σ : Type u) where
  world : σ
  openPages : Nat

/-- Hosts that get the humanised session; `cdp.rs:674–691`. -/
def isEcommerceHost (url : Str) : Bool :=
  ([("amazon." : Str), "leboncoin.", "fnac.", "cdiscount.", "darty.", "cdiscount.com", "shopify",
    "aliexpress.", "ebay."]).any fun needle ↦ Str.contains needle (toAsciiLowercase url)

/-- A character of a JSON string, as `serde_json` writes it. -/
def jsonChar (c : Char) : Str :=
  if c = '"' then "\\\""
  else if c = '\\' then "\\\\"
  else if c.toNat = 8 then "\\b"
  else if c = '\t' then "\\t"
  else if c = '\n' then "\\n"
  else if c.toNat = 12 then "\\f"
  else if c = '\r' then "\\r"
  else if c.toNat < 32 then "\\u00" ++ (if c.toNat < 16 then "0" else "1") ++
    [Nat.digitChar (c.toNat % 16)]
  else [c]

/-- `serde_json::to_string` of a string. -/
def jsonString (s : Str) : Str := "\"" ++ s.flatMap jsonChar ++ "\""

/-- The script that presses a key; `cdp.rs:626–631`. -/
def pressScript (key : Str) : Str :=
  "document.dispatchEvent(new KeyboardEvent('keydown', \x7b key: " ++ jsonString key ++
    ", bubbles: true \x7d));\n                   " ++
    "document.dispatchEvent(new KeyboardEvent('keyup',   \x7b key: " ++ jsonString key ++
    ", bubbles: true \x7d));"

/-- The script that scrolls; `cdp.rs:638–645`. -/
def scrollScript (direction : ScrollDirection) (amount : Nat) : Str :=
  match direction with
  | .down => "window.scrollBy(0, " ++ ofNat amount ++ ");"
  | .up => "window.scrollBy(0, -" ++ ofNat amount ++ ");"

section Steps

variable {σ : Type u} (driver : PageDriver σ)

/-- A step whose failure ends the fetch. -/
def orFail {α : Type} (what : Str) (step : Except Str α × σ) : Except CrwError α × σ :=
  (step.1.mapError fun e ↦ .fetch (what ++ ": " ++ e), step.2)

/-- Find an element and click on it; `cdp.rs:601–610`. -/
def clickElement (selector : Str) (w : σ) : Except CrwError Unit × σ :=
  match orFail "click find" (driver.findElement selector w) with
  | (.error e, w) => (.error e, w)
  | (.ok (), w) => orFail "click" (driver.click selector w)

/-- Find the body and type into it; a failure to type is dropped; `cdp.rs:615–624`. -/
def writeBody (text : Str) (w : σ) : Except CrwError Unit × σ :=
  match orFail "write find body" (driver.findElement "body" w) with
  | (.error e, w) => (.error e, w)
  | (.ok (), w) => (.ok (), driver.typeStr "body" text w)

/-- One action; `cdp.rs:596–662`. -/
def applyAction (action : BrowserAction) (w : σ) : Except CrwError Unit × σ :=
  match action with
  | .wait milliseconds => (.ok (), driver.sleep milliseconds w)
  | .click selector => clickElement driver selector w
  | .screenshot _ => (.ok (), w)
  | .write text => writeBody driver text w
  | .press key => (.ok (), (driver.evaluate (pressScript key) w).2)
  | .scroll direction amount => (.ok (), (driver.evaluate (scrollScript direction amount) w).2)
  | .scrape => (.ok (), w)
  | .executeJavascript script => (.ok (), (driver.evaluate script w).2)

/-- The actions up to the first that fails; `cdp.rs:503–510`. -/
def applyActions : List BrowserAction → σ → Except CrwError Unit × σ
  | [], w => (.ok (), w)
  | action :: actions, w =>
    match applyAction driver action w with
    | (.error e, w) => (.error e, w)
    | (.ok (), w) => applyActions actions w

/-- A page that was opened, before it navigates; `cdp.rs:449–483`. -/
def preparePage (enableStealth : Bool) (cookieHeader : Option Str) (w : σ) : σ :=
  let w := if enableStealth then driver.evaluateOnNewDocument w else w
  match cookieHeader with
  | none => w
  | some header => (driver.evaluate (cookieScript header) w).2

/-- A page that has navigated, before the actions; `cdp.rs:491–501`. -/
def settle (request : ScrapeRequest) (w : σ) : σ :=
  let w := if 0 < request.waitFor then driver.sleep request.waitFor w else w
  if 0 < request.waitFor ∨ isEcommerceHost request.url then driver.humanise w else w

/-- What is read from a page once its content is; `cdp.rs:517–555`. -/
def readPage (U : UrlCrate) (request : ScrapeRequest) (html : Str) (w : σ) : RenderedPage × σ :=
  let (finalUrl, w) := driver.url w
  let host := (U.parse (finalUrl.getD request.url)).toOption.bind U.hostStr
  let (documentCookie, w) :=
    if host.isSome then driver.evaluate "() => document.cookie" w else (none, w)
  let fullPage := hasScreenshotAction request
  let (shot, w) :=
    if request.formats.any (· = .screenshot) || fullPage then driver.screenshot fullPage w
    else (none, w)
  (⟨html, finalUrl, documentCookie, fun _ ↦ shot⟩, w)

/-- The URL that a page navigates to: the parsed URL of the request, written out. -/
def navigationTarget (U : UrlCrate) (request : ScrapeRequest) : Str :=
  ((U.parse request.url).toOption.map U.toStr).getD request.url

/-- A page from the navigation to its reading, without the close; `cdp.rs:485–555`. -/
def usePage (U : UrlCrate) (request : ScrapeRequest) (w : σ) : Except CrwError RenderedPage × σ :=
  match driver.goto (navigationTarget U request) w with
  | (.error e, w) => (.error (.fetch ("navigate: " ++ e)), w)
  | (.ok (), w) =>
    match applyActions driver request.actions (settle driver request w) with
    | (.error e, w) => (.error e, w)
    | (.ok (), w) =>
      match driver.content w with
      | (.error e, w) => (.error (.fetch ("content: " ++ e)), w)
      | (.ok html, w) =>
        let (page, w) := readPage driver U request html w
        (.ok page, w)

/-- The browser that a driver makes; the page is closed when it was read; `cdp.rs:441–556`. -/
def pageBrowser (U : UrlCrate) (enableStealth : Bool) : Browser (Tabs σ) where
  render request cookieHeader tabs :=
    match driver.getOrInit tabs.world with
    | (.error e, w) => (.error e, ⟨w, tabs.openPages⟩)
    | (.ok (), w) =>
      match driver.newPage w with
      | (.error e, w) => (.error (.fetch ("new_page: " ++ e)), ⟨w, tabs.openPages⟩)
      | (.ok (), w) =>
        let opened := tabs.openPages + 1
        match usePage driver U request (preparePage driver enableStealth cookieHeader w) with
        | (.error e, w) => (.error e, ⟨w, opened⟩)
        | (.ok page, w) => (.ok page, ⟨driver.close w, opened - 1⟩)

/-- What an action cannot do without: a click its element and the click itself, text the body. -/
def Doable (action : BrowserAction) (w : σ) : Prop :=
  match action with
  | .click selector => (driver.findElement selector w).1.isOk ∧
      (driver.click selector (driver.findElement selector w).2).1.isOk
  | .write _ => (driver.findElement "body" w).1.isOk
  | .wait _ | .screenshot _ | .press _ | .scroll .. | .scrape | .executeJavascript _ => True

/-- Every action can be done when its turn comes. -/
def AllDoable : List BrowserAction → σ → Prop
  | [], _ => True
  | action :: actions, w =>
    Doable driver action w ∧ AllDoable actions (applyAction driver action w).2

/-- The page can be used to the end: it navigates, every action can be done, and the content can be
read. -/
structure Usable (U : UrlCrate) (request : ScrapeRequest) (w : σ) : Prop where
  navigates : (driver.goto (navigationTarget U request) w).1.isOk
  doable : AllDoable driver request.actions
    (settle driver request (driver.goto (navigationTarget U request) w).2)
  content : (driver.content (applyActions driver request.actions
    (settle driver request (driver.goto (navigationTarget U request) w).2)).2).1.isOk

/-- If a page is opened at all, it can be used. -/
def OpensUsable (U : UrlCrate) (enableStealth : Bool) (request : ScrapeRequest)
    (cookieHeader : Option Str) (w : σ) : Prop :=
  (U.parse request.url).isOk → (driver.getOrInit w).1.isOk →
    (driver.newPage (driver.getOrInit w).2).1.isOk →
      Usable driver U request
        (preparePage driver enableStealth cookieHeader (driver.newPage (driver.getOrInit w).2).2)

end Steps

section Counting

variable {σ : Type u} {driver : PageDriver σ} {w : σ}

/-- An action fails exactly when it lacks what it cannot do without. -/
theorem applyAction_ok_iff (action : BrowserAction) (w : σ) :
    (applyAction driver action w).1.isOk = true ↔ Doable driver action w := by
  cases action with
  | click selector =>
    change (clickElement driver selector w).1.isOk = true ↔
      (driver.findElement selector w).1.isOk = true ∧
        (driver.click selector (driver.findElement selector w).2).1.isOk = true
    unfold clickElement orFail
    rcases driver.findElement selector w with ⟨e | _, w'⟩
    · exact iff_of_false Bool.false_ne_true fun h ↦ Bool.false_ne_true h.1
    · dsimp only [Except.mapError]
      rcases driver.click selector w' with ⟨e | _, w''⟩
      · exact iff_of_false Bool.false_ne_true fun h ↦ Bool.false_ne_true h.2
      · exact iff_of_true rfl ⟨rfl, rfl⟩
  | write text =>
    change (writeBody driver text w).1.isOk = true ↔ (driver.findElement "body" w).1.isOk = true
    unfold writeBody orFail
    rcases driver.findElement "body" w with ⟨e | _, w'⟩ <;> exact Iff.rfl
  | wait _ | screenshot _ | press _ | scroll _ _ | scrape | executeJavascript _ =>
    exact iff_of_true rfl trivial

/-- The actions succeed exactly when all can be done. -/
theorem applyActions_ok_iff (actions : List BrowserAction) (w : σ) :
    (applyActions driver actions w).1.isOk = true ↔ AllDoable driver actions w := by
  induction actions generalizing w with
  | nil => exact iff_of_true rfl trivial
  | cons action actions ih =>
    have hstep : (applyAction driver action w).1.isOk = true ↔ Doable driver action w :=
      applyAction_ok_iff action w
    rw [AllDoable, ← hstep, applyActions]
    rcases applyAction driver action w with ⟨e | _, w'⟩
    · exact iff_of_false Bool.false_ne_true fun h ↦ Bool.false_ne_true h.1
    · exact (ih w').trans ⟨fun h ↦ ⟨rfl, h⟩, fun h ↦ h.2⟩

/-- A page is read exactly when it can be used. -/
theorem usePage_ok_iff (U : UrlCrate) (request : ScrapeRequest) (w : σ) :
    (usePage driver U request w).1.isOk = true ↔ Usable driver U request w := by
  have hactions (w : σ) : (applyActions driver request.actions w).1.isOk = true ↔
      AllDoable driver request.actions w :=
    applyActions_ok_iff request.actions w
  constructor
  · intro h
    unfold usePage at h
    rcases hgoto : driver.goto (navigationTarget U request) w with ⟨e | _, w₁⟩
    · rw [hgoto] at h
      exact absurd h Bool.false_ne_true
    · rw [hgoto] at h
      dsimp only at h
      rcases hacts : applyActions driver request.actions (settle driver request w₁) with ⟨e | _, w₂⟩
      · rw [hacts] at h
        exact absurd h Bool.false_ne_true
      · rw [hacts] at h
        dsimp only at h
        rcases hcontent : driver.content w₂ with ⟨e | html, w₃⟩
        · rw [hcontent] at h
          exact absurd h Bool.false_ne_true
        · constructor
          · rw [hgoto]
            rfl
          · rw [hgoto, ← hactions, hacts]
            rfl
          · rw [hgoto, hacts, hcontent]
            rfl
  · rintro ⟨hnavigates, hdoable, hcontent⟩
    rw [← hactions] at hdoable
    unfold usePage
    rcases hgoto : driver.goto (navigationTarget U request) w with ⟨e | _, w₁⟩
    · rw [hgoto] at hnavigates
      exact absurd hnavigates Bool.false_ne_true
    · rw [hgoto] at hdoable hcontent
      dsimp only at hdoable hcontent ⊢
      rcases hacts : applyActions driver request.actions (settle driver request w₁) with ⟨e | _, w₂⟩
      · rw [hacts] at hdoable
        exact absurd hdoable Bool.false_ne_true
      · rw [hacts] at hcontent
        dsimp only at hcontent ⊢
        rcases hread : driver.content w₂ with ⟨e | html, w₃⟩
        · rw [hread] at hcontent
          exact absurd hcontent Bool.false_ne_true
        · rfl

end Counting

namespace CdpFetcher

variable {σ : Type u} (U : UrlCrate) (driver : PageDriver σ) (enableStealth : Bool)
  (now : Tabs σ → Option Nat) (fetcher : CdpFetcher)

/-- A fetch leaves as many pages open as there were before it exactly when every page that it opens
can be used to the end. -/
theorem openPages_runFetch_iff (request : ScrapeRequest) (env : Env (Tabs σ)) :
    (fetcher.runFetch U (pageBrowser driver U enableStealth) now request env).2.world.openPages =
        env.world.openPages ↔
      OpensUsable driver U enableStealth request (fetcher.cookieHeader U now request.url env)
        env.world.world := by
  unfold runFetch OpensUsable
  rcases hparse : U.parse request.url with e | url
  · exact iff_of_true rfl fun h ↦ absurd h Bool.false_ne_true
  · dsimp only [pageBrowser]
    rcases hinit : driver.getOrInit env.world.world with ⟨e | _, w₁⟩
    · exact iff_of_true rfl fun _ h ↦ absurd h Bool.false_ne_true
    · dsimp only
      rcases hpage : driver.newPage w₁ with ⟨e | _, w₂⟩
      · exact iff_of_true rfl fun _ _ h ↦ absurd h Bool.false_ne_true
      · dsimp only
        rw [← usePage_ok_iff]
        rcases usePage driver U request _ with ⟨e | page, w₃⟩
        · -- an early exit leaves the page that was opened
          exact iff_of_false (Nat.succ_ne_self _) fun h ↦ Bool.false_ne_true (h rfl rfl rfl)
        · exact iff_of_true rfl fun _ _ _ ↦ rfl

/-- A browser in which every step succeeds but the search for an element. -/
def emptyPage : PageDriver Unit where
  getOrInit w := (.ok (), w)
  newPage w := (.ok (), w)
  evaluateOnNewDocument w := w
  evaluate _ w := (none, w)
  goto _ w := (.ok (), w)
  sleep _ w := w
  humanise w := w
  findElement _ w := (.error "Could not find node with given id", w)
  click _ w := (.ok (), w)
  typeStr _ _ w := w
  content w := (.ok "<html></html>", w)
  url w := (none, w)
  screenshot _ w := (none, w)
  close w := w

/-- A click on an element that is not there leaves a page open. -/
theorem not_openPages_runFetch_click :
    ((⟨0⟩ : CdpFetcher).runFetch UrlCrate.plain (pageBrowser emptyPage UrlCrate.plain true)
        (fun _ ↦ none)
        { ScrapeRequest.defaultForUrl "https://example.com/" with actions := [.click "#next"] }
        ⟨fun _ ↦ Antibot.CookieJar.new, ⟨(), 0⟩⟩).2.world.openPages ≠ 0 := by
  decide

end CdpFetcher
end CrwShield.Fetch
