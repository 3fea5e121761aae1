import CrwShield.Antibot.CookieWrites
import CrwShield.Base.Json

/-!
# The human-in-the-loop queue

Crate `server`, `src/crates/server/src/handlers.rs:29–380`: entries are appended to a file of JSON
lines, and a solve injects the posted cookies into the shared jar and rewrites its line. Files, the
clock and the JSON crate come from outside. One reading of the clock stands for those of one solve:
the source reads it for every cookie that it stores, and again for the stamp.
-/

open CrwShield.Base CrwShield.Base.Str CrwShield.Antibot

namespace CrwShield.Server

/-- A page that needs a human; `handlers.rs:43–52`. -/
structure HitlRequest where
  url : Str
  challengeKind : Option Str
  note : Option Str

/-- Answer to an enqueue; `handlers.rs:55–62`. -/
structure HitlEnqueueResponse where
  success : Bool
  hitlRequired : Bool
  id : Str
  queueFile : Str
  instructions : Str
  createdAt : Str

/-- A cookie posted by the operator; `handlers.rs:208–219`. -/
structure HitlCookie where
  name : Str
  value : Str
  domain : Option Str
  maxAgeSecs : Option Nat

/-- The cookies posted for an entry; `handlers.rs:203–205`. -/
structure HitlSolveRequest where
  cookies : List HitlCookie

universe u

/-- Operations of the world that the queue uses. Failures carry the text of the I/O error. -/
structure HitlIo (ω : Type u) where
  /-- The variable `HITL_QUEUE_PATH`. -/
  queuePathVar : Option Str
  /-- `SystemTime::now` in seconds since the epoch, if the clock is past it. -/
  now : ω → Option Nat
  /-- `Utc::now` as RFC 3339 text. -/
  nowRfc3339 : ω → Str
  /-- `Uuid::new_v4`. -/
  newId : ω → Str × ω
  /-- `serde_json::from_str`. -/
  parseJson : Str → Except Str Json
  /-- `serde_json::to_string`. -/
  printJson : Json → Except Str Str
  /-- Open a file for appending, creating it if need be. -/
  openAppend : Str → ω → Except Str Unit × ω
  /-- Append to the file opened at a path. -/
  writeAll : Str → Str → ω → Except Str Unit × ω
  /-- `std::fs::read_to_string`. -/
  readToString : Str → ω → Except Str Str
  /-- `std::fs::write`. -/
  write : Str → Str → ω → Except Str Unit × ω
  /-- `std::fs::rename`. -/
  rename : Str → Str → ω → Except Str Unit × ω
  /-- Write a jar snapshot to a path, `cookie_jar.rs:385–444`. -/
  saveJar : Str → OnDiskJar → ω → Except Str Unit × ω

/-- Default queue file; `handlers.rs:64`. -/
def hitlQueuePathDefault : Str := "/tmp/hitl_queue.json"

/-- Queue file in use; `handlers.rs:70–77`. -/
def hitlQueuePath (var : Option Str) : Str :=
  (var.filter fun s ↦ !s.isEmpty).getD hitlQueuePathDefault

/-- Host of a URL by hand, lowercased and without port; `handlers.rs:474–486`. -/
def urlHostStr (url : Str) : Option Str :=
  let afterScheme := ((splitOnce "://" url).map Prod.snd).getD url
  let hostPart := ((splitOnce "/" afterScheme).map Prod.fst).getD afterScheme
  let host := (split ':' hostPart).headD []
  if host.isEmpty then none else some (toAsciiLowercase (trimStartMatches '.' (trim host)))

/-- The entry written for a request; `handlers.rs:107–114`. -/
def hitlEntry (id createdAt : Str) (req : HitlRequest) : Json :=
  .ofMembers
    [("id", .str id), ("url", .str req.url),
     ("challenge_kind", (req.challengeKind.map Json.str).getD .null),
     ("note", (req.note.map Json.str).getD .null), ("status", .str "pending"),
     ("created_at", .str createdAt)]

/-- The answer for an appended entry; `handlers.rs:131–145`. -/
def enqueueResponse (id createdAt : Str) (req : HitlRequest) : HitlEnqueueResponse where
  success := true
  hitlRequired := true
  id := id
  queueFile := hitlQueuePathDefault
  instructions :=
    ("Open " : Str) ++ req.url ++ " in a visible browser, solve the challenge, then write " ++
      "the resulting cookies (name=value; domain=...) to " ++ hitlQueuePathDefault ++ " with id=" ++
      id ++ " and status='solved'. A subsequent /v2/scrape call with these cookies will succeed."
  createdAt := createdAt

section Handlers

variable {ω : Type u} (io : HitlIo ω)

/-- Append an entry to the queue; `handlers.rs:101–146`. -/
def handleHitlEnqueue (req : HitlRequest) (w : ω) : Except Str HitlEnqueueResponse × ω :=
  let id := (io.newId w).1
  let w := (io.newId w).2
  let createdAt := io.nowRfc3339 w
  let path := hitlQueuePath io.queuePathVar
  match io.printJson (hitlEntry id createdAt req) with
  | .error e => (.error ("serialize entry: " ++ e), w)
  | .ok line =>
    match io.openAppend path w with
    | (.error e, w) => (.error ("open queue file " ++ path ++ ": " ++ e), w)
    | (.ok (), w) =>
      match io.writeAll path (line ++ "\n") w with
      | (.error e, w) => (.error ("append to queue file: " ++ e), w)
      | (.ok (), w) => (.ok (enqueueResponse id createdAt req), w)

/-- Host under which a solve files cookies without a domain, and which it stamps: the first
explicit domain, else the host of the entry's URL; `handlers.rs:274–292`. -/
def resolvedHost (cookies : List HitlCookie) (urlHost : Option Str) : Option Str :=
  (cookies.findSome? HitlCookie.domain).or urlHost

/-- Store the posted cookies; `handlers.rs:298–301`. -/
def injectCookies (now : Option Nat) (host : Str) (cookies : List HitlCookie) (jar : CookieJar) :
    CookieJar :=
  cookies.foldl (fun jar c ↦ jar.setCookie now (c.domain.getD host) c.name c.value c.maxAgeSecs) jar

/-- Jar after a solve for a host: the posted cookies, and the stamp; `handlers.rs:293–325`. -/
def solveJar (now : Option Nat) (host : Str) (cookies : List HitlCookie) (jar : CookieJar) :
    CookieJar :=
  (injectCookies now host cookies jar).markHitlSolved host (now.getD 0)

/-- The writes of a solve for a host. -/
def solveWrites (host : Str) (cookies : List HitlCookie) : List CookieWrite :=
  cookies.map fun c ↦ ⟨c.domain.getD host, c.name, c.value, c.maxAgeSecs⟩

/-- Storing posted cookies is the list of their writes. -/
theorem injectCookies_eq (now : Option Nat) (host : Str) (cookies : List HitlCookie)
    (jar : CookieJar) :
    injectCookies now host cookies jar = jar.setAll now (solveWrites host cookies) := by
  rw [solveWrites, CookieJar.setAll, List.foldl_map]
  rfl

/-- A solve stores the posted cookies; the stamp changes no cookie. -/
theorem lookup_solveJar (now : Option Nat) (host : Str) (cookies : List HitlCookie)
    (jar : CookieJar) (b n : Str) :
    (solveJar now host cookies jar).lookup b n =
      (jar.setAll now (solveWrites host cookies)).lookup b n := by
  rw [← injectCookies_eq]
  rfl

/-- The `id` of an entry. -/
def entryId (entry : Json) : Option Str := (entry.get? "id").bind Json.asStr

/-- The matched entry, marked solved; `handlers.rs:327–333`. -/
def solvedEntry (entry : Json) (solvedAt host : Str) (count : Nat) : Json :=
  match entry with
  | .obj members =>
    let members := Json.insert "status" (.str "solved") members
    let members := Json.insert "solved_at" (.str solvedAt) members
    let members := Json.insert "cookies_stored" (.num (ofNat count)) members
    .obj (Json.insert "host" (.str host) members)
  | other => other

/-- An error answer; the `json!` objects of `handle_hitl_solve`. -/
def solveError (status : Nat) (text : Str) : Nat × Json :=
  (status, .ofMembers [("success", .bool false), ("error", .str text)])

/-- What the walk over the queue file has produced so far. -/
structure SolveWalk (ω : Type u) where
  found : Bool
  targetHost : Option Str
  updatedEntry : Option Json
  outLines : List Str
  jar : CookieJar
  world : ω

/-- Inject the cookies, save and stamp the jar and rewrite the entry; `handlers.rs:270–340`. -/
def solveMatched (persistencePath : Option Str) (cookies : List HitlCookie) (entry : Json)
    (walk : SolveWalk ω) : Except (Nat × Json) Unit × SolveWalk ω :=
  match resolvedHost cookies (((entry.get? "url").bind Json.asStr).bind urlHostStr) with
  | none =>
    (.error (solveError 400 ("could not resolve host: provide `domain` in the cookie entries or " ++
      "enqueue an entry with a valid URL")), { walk with found := true })
  | some host =>
    let now := io.now walk.world
    let injected := injectCookies now host cookies walk.jar
    -- a snapshot that cannot be written is left to the background loop
    let world := (persistencePath.map fun path ↦
      (io.saveJar path injected.snapshot walk.world).2).getD walk.world
    let newEntry := solvedEntry entry (io.nowRfc3339 world) host cookies.length
    let walk : SolveWalk ω :=
      { walk with
        found := true
        targetHost := some host
        updatedEntry := some newEntry
        jar := solveJar now host cookies walk.jar
        world := world }
    match io.printJson newEntry with
    | .error e => (.error (solveError 500 ("serialize entry: " ++ e)), walk)
    | .ok line => (.ok (), { walk with outLines := walk.outLines ++ [line] })

/-- Walk the lines of the queue; blank lines are dropped, and the first line with the id is the
match; `handlers.rs:253–350`. -/
def solveLines (persistencePath : Option Str) (id : Str) (cookies : List HitlCookie) :
    List Str → SolveWalk ω → Except (Nat × Json) Unit × SolveWalk ω
  | [], walk => (.ok (), walk)
  | line :: rest, walk =>
    if (trim line).isEmpty then solveLines persistencePath id cookies rest walk
    else
      match io.parseJson line with
      | .error e => (.error (solveError 500 ("parse queue entry: " ++ e)), walk)
      | .ok entry =>
        if !walk.found && (entry.get? "id").bind Json.asStr = some id then
          match solveMatched io persistencePath cookies entry walk with
          | (.error e, walk) => (.error e, walk)
          | (.ok (), walk) => solveLines persistencePath id cookies rest walk
        else
          solveLines persistencePath id cookies rest
            { walk with outLines := walk.outLines ++ [line] }

/-- The first entry with an id among the lines of the queue; `handlers.rs:181–190`. -/
def findEntry (id : Str) : List Str → Except Str Json
  | [] => .error ("HITL queue entry " ++ id ++ " not found")
  | line :: rest =>
    if (trim line).isEmpty then findEntry id rest
    else
      match io.parseJson line with
      | .error e => .error ("parse queue entry: " ++ e)
      | .ok entry => if entryId entry = some id then .ok entry else findEntry id rest

/-- Current state of a queue entry; `handlers.rs:175–192`. -/
def handleHitlResult (id : Str) (w : ω) : Except Str Json :=
  let path := hitlQueuePath io.queuePathVar
  match io.readToString path w with
  | .error e => .error ("read queue file " ++ path ++ ": " ++ e)
  | .ok content => findEntry io id (lines content)

/-- `PathBuf::with_extension` for a path whose last component is a file name. -/
def withExtension (ext path : Str) : Str :=
  let file := (path.reverse.takeWhile (· ≠ '/')).reverse
  let dir := path.take (path.length - file.length)
  let stem := (file.reverse.dropWhile (· ≠ '.')).tail.reverse
  dir ++ (if stem.isEmpty then file else stem) ++ "." ++ ext

/-- Inject the cookies posted for a queue entry; `handlers.rs:232–380`. -/
def handleHitlSolve (persistencePath : Option Str) (id : Str) (req : HitlSolveRequest)
    (jar : CookieJar) (w : ω) : Except (Nat × Json) Json × CookieJar × ω :=
  if req.cookies.isEmpty then (.error (solveError 400 "no cookies provided"), jar, w)
  else
    let path := hitlQueuePath io.queuePathVar
    match io.readToString path w with
    | .error e => (.error (solveError 500 ("read queue file " ++ path ++ ": " ++ e)), jar, w)
    | .ok content =>
      match solveLines io persistencePath id req.cookies (lines content)
          ⟨false, none, none, [], jar, w⟩ with
      | (.error e, walk) => (.error e, walk.jar, walk.world)
      | (.ok (), walk) =>
        if !walk.found then
          (.error (solveError 404 ("HITL queue entry " ++ id ++ " not found")), walk.jar,
            walk.world)
        else
          let tmp := withExtension "json.tmp" path
          match io.write tmp (join "\n" walk.outLines ++ "\n") walk.world with
          | (.error e, w) =>
            (.error (solveError 500 ("write tmp queue file: " ++ e)), walk.jar, w)
          | (.ok (), w) =>
            match io.rename tmp path w with
            | (.error e, w) =>
              (.error (solveError 500 ("rename tmp queue file: " ++ e)), walk.jar, w)
            | (.ok (), w) =>
              (.ok (.ofMembers
                [("success", .bool true), ("hitl_id", .str id),
                 ("host", (walk.targetHost.map Json.str).getD .null),
                 ("cookies_stored", .num (ofNat req.cookies.length)),
                 ("entry", walk.updatedEntry.getD .null)]), walk.jar, w)

end Handlers
end CrwShield.Server
