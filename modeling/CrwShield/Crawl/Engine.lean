import CrwShield.Base.Runs
import CrwShield.Base.UrlCrate
import CrwShield.Core.Types

/-!
# The crawl engine

Crate `crawl`, `src/crates/crawl/src/lib.rs`. The loop is a step relation: a batch of tasks is
started, the tasks of a batch complete in any order, each with any answer of the runner, and the
crawl returns when the page limit is reached or no work is left. URL parsing, regular expressions
and the extraction of links come from outside.
-/

open CrwShield.Base CrwShield.Base.Str CrwShield.Core

namespace CrwShield.Crawl

/-- What the engine uses from outside. -/
structure CrawlEnv where
  U : UrlCrate
  /-- `Regex::new` and `is_match` of the crate `regex`; none when the pattern does not compile. -/
  regexMatch : Str → Str → Option Bool
  /-- `extract_links` of the crate `extract`, from a page and its URL. -/
  extractLinks : Str → Str → List Str

/-- A URL handed to the runner, with its depth; the pairs of `lib.rs:207`. -/
structure CrawlTask where
  url : Str
  depth : UInt32
  deriving DecidableEq

/-- Regular expression for a glob pattern; `lib.rs:74–87`. -/
def globRegex (pattern : Str) : Str :=
  "^" ++ pattern.flatMap (fun ch ↦
    if ch = '*' then ['.', '*']
    else if ch = '?' || ch = '.' then ['.']
    else if ("()[]\x7b\x7d+|^$\\" : Str).contains ch then ['\\', ch]
    else [ch]) ++ "$"

/-- Normalized URL for de-duplication; `lib.rs:181–188`. -/
def normalizeUrl (U : UrlCrate) (ignoreQueryParameters : Bool) (url : U.Url) : Str :=
  let cloned := U.dropFragment url
  U.toStr (if ignoreQueryParameters then U.dropQuery cloned else cloned)

/-- Text in which links are looked for when the page lists none; `lib.rs:290–308`. -/
def fetchHtmlForLinks (data : ScrapeData) : Str :=
  let nonempty (s : Option Str) := s.filter fun h ↦ !h.isEmpty
  ((nonempty data.rawHtml).or ((nonempty data.html).or (nonempty data.markdown))).getD []

namespace CrawlEnv

variable (E : CrawlEnv)

/-- Whether a path matches a glob pattern; `lib.rs:73–91`. -/
def globMatch (pattern text : Str) : Bool := (E.regexMatch (globRegex pattern) text).getD false

/-- Whether a URL passes the include and exclude patterns; `lib.rs:27–38`. -/
def shouldVisit (url : E.U.Url) (includes excludes : List Str) : Bool :=
  let path := trimStartMatches '/' (E.U.path url)
  if excludes.any (E.globMatch · path) then false
  else includes.isEmpty || includes.any (E.globMatch · path)

/-- Whether a URL is on the seed's host, or allowed beyond it; `lib.rs:43–64`. -/
def isInScope (seed candidate : E.U.Url) (allowSubdomains allowExternal : Bool) : Bool :=
  if allowExternal then true
  else
    match E.U.hostStr seed, E.U.hostStr candidate with
    | some s, some c => s = c || (allowSubdomains && endsWith ('.' :: s) c)
    | _, _ => false

/-- Links of a page; `lib.rs:231–238`. -/
def newLinks (data : ScrapeData) (url : Str) : List Str :=
  data.links.getD
    (let html := fetchHtmlForLinks data
    if html.isEmpty then [] else E.extractLinks html url)

end CrawlEnv

/-- State of the loop, with the tasks started and the tasks whose pages were collected so far. -/
structure CrawlState where
  visited : List Str
  queue : List CrawlTask
  inFlight : List CrawlTask
  collected : List ScrapeData
  returned : Bool
  requested : List CrawlTask
  scraped : List CrawlTask

/-- What happens in the loop. -/
inductive CrawlEvent where
  /-- The next batch is started. -/
  | batch
  /-- A task in flight completes. -/
  | complete (task : CrawlTask) (result : Except CrwError ScrapeData)
  /-- No work is left. -/
  | finish

/-- Increment of a `u32`, which must not overflow. -/
def checkedSucc (depth : UInt32) : Option UInt32 :=
  if depth.toNat + 1 < 2 ^ 32 then some (depth + 1) else none

section Loop

variable (E : CrawlEnv) (req : CrawlRequest) (seed : E.U.Url)

/-- Deepest depth at which links are followed to; `lib.rs:240`. -/
def maxDepth : UInt32 := req.maxDiscoveryDepth.getD 0xFFFFFFFF

/-- Page limit; `lib.rs:199`. -/
def pageLimit : Nat := max req.limit 1

/-- Size of a batch; `lib.rs:198`. -/
def maxConcurrency : Nat := max (req.maxConcurrency.getD 5) 1

/-- Key under which a URL counts as visited. -/
def urlKey (url : E.U.Url) : Str := normalizeUrl E.U req.ignoreQueryParameters url

/-- A link that parses, is in scope and passes the patterns; `lib.rs:243–261`. -/
def admitLink (link : Str) : Option E.U.Url :=
  match E.U.parse link with
  | .error _ => none
  | .ok parsed =>
    if E.isInScope seed parsed req.allowSubdomains req.allowExternalLinks &&
        E.shouldVisit parsed req.includePaths req.excludePaths then some parsed
    else none

/-- One link of a page: enqueue it unless it is not admitted or was seen; no result when the depth
overflows; `lib.rs:242–268`. -/
def discover (depth : UInt32) (acc : List Str × List CrawlTask) (link : Str) :
    Option (List Str × List CrawlTask) :=
  match admitLink E req seed link with
  | none => some acc
  | some parsed =>
    let key := urlKey E req parsed
    if acc.1.contains key then some acc
    else (checkedSucc depth).map fun d ↦ (acc.1 ++ [key], acc.2 ++ [⟨E.U.toStr parsed, d⟩])

/-- One completed task; `lib.rs:228–279`. -/
def complete (task : CrawlTask) (result : Except CrwError ScrapeData) (s : CrawlState) :
    Option CrawlState :=
  match result with
  | .error _ => some s
  | .ok data =>
    (if req.sitemap ≠ .skip ∧ task.depth < maxDepth req then
      (E.newLinks data task.url).foldlM (discover E req seed task.depth) (s.visited, s.queue)
    else some (s.visited, s.queue)).map fun found ↦
      { s with
        visited := found.1
        queue := found.2
        collected := s.collected ++ [data]
        returned := pageLimit req ≤ s.collected.length + 1
        scraped := s.scraped ++ [task] }

/-- Start the next batch; `lib.rs:214–226`. -/
def startBatch (s : CrawlState) : CrawlState :=
  let batch := s.queue.take (maxConcurrency req)
  { s with
    queue := s.queue.drop (maxConcurrency req)
    inFlight := batch
    requested := s.requested ++ batch }

/-- Steps of the loop; `lib.rs:214–281`. -/
inductive CrawlStep : CrawlState → CrawlEvent → CrawlState → Prop
  | batch {s : CrawlState} (hrun : s.returned = false) (hidle : s.inFlight = [])
      (hwork : s.queue ≠ []) : CrawlStep s .batch (startBatch req s)
  | complete {s s' : CrawlState} {before after : List CrawlTask} {task : CrawlTask}
      {result : Except CrwError ScrapeData} (hrun : s.returned = false)
      (hflight : s.inFlight = before ++ task :: after)
      (hdone : Crawl.complete E req seed task result { s with inFlight := before ++ after } =
        some s') : CrawlStep s (.complete task result) s'
  | finish {s : CrawlState} (hrun : s.returned = false) (hidle : s.inFlight = [])
      (hwork : s.queue = []) : CrawlStep s .finish { s with returned := true }

/-- The task of the seed. -/
def seedTask : CrawlTask := ⟨E.U.toStr seed, 0⟩

/-- State in which the loop is entered; `lib.rs:206–212`. -/
def initialState : CrawlState where
  visited := [urlKey E req seed]
  queue := [seedTask E seed]
  inFlight := []
  collected := []
  returned := false
  requested := []
  scraped := []

end Loop

/-- A crawl that is entered: the parsed seed and the state of the loop; `lib.rs:193–212`. -/
def crwCrawl (E : CrawlEnv) (req : CrawlRequest) : Except CrwError (E.U.Url × CrawlState) :=
  match E.U.parse req.url with
  | .error e => .error (.invalidUrl e)
  | .ok seed => .ok (seed, initialState E req seed)

end CrwShield.Crawl
