import CrwShield.Base.Refinement
import CrwShield.Server.Desk
import CrwShield.Server.HitlQueue
import CrwShield.Server.HitlSolve

/-!
# The handlers are the desk

The handlers of `src/crates/server/src/handlers.rs:101–380`, one after the other on a disk whose
steps may fail, refine the desk of tickets: the queue file shows the tickets, one entry a line.
-/

open CrwShield.Base CrwShield.Base.Str CrwShield.Antibot

namespace CrwShield.Server

/-- A solved entry, its members in the order of their keys. -/
def solvedObject (id createdAt : Str) (req : HitlRequest) (solvedAt host : Str) (count : Nat) :
    Json :=
  .obj
    [("challenge_kind", (req.challengeKind.map Json.str).getD .null),
     ("cookies_stored", .num (ofNat count)), ("created_at", .str createdAt), ("host", .str host),
     ("id", .str id), ("note", (req.note.map Json.str).getD .null), ("solved_at", .str solvedAt),
     ("status", .str "solved"), ("url", .str req.url)]

theorem solvedEntry_hitlEntry (id createdAt : Str) (req : HitlRequest) (solvedAt host : Str)
    (count : Nat) : solvedEntry (hitlEntry id createdAt req) solvedAt host count =
      solvedObject id createdAt req solvedAt host count := rfl

/-- A second solve of an entry replaces what the first one noted. -/
theorem solvedEntry_solvedObject (id createdAt : Str) (req : HitlRequest)
    (solvedAt host solvedAt' host' : Str) (count count' : Nat) :
    solvedEntry (solvedObject id createdAt req solvedAt host count) solvedAt' host' count' =
      solvedObject id createdAt req solvedAt' host' count' := rfl

namespace Ticket

variable (t : Ticket) (m : Mark)

@[simp] theorem id_marked : (t.marked m).id = t.id := rfl

/-- The entry of a ticket has its id. -/
theorem entryId_entry : entryId t.entry = some t.id := by
  cases hmark : t.mark with
  | none => simp only [entry, hmark]; rfl
  | some m =>
    simp only [entry, hmark, entryId_solvedEntry]
    rfl

/-- A solve reads the host of a ticket off its URL. -/
theorem entryHost_entry : entryHost t.entry = urlHostStr t.request.url := by
  unfold entryHost
  cases hmark : t.mark with
  | none => simp only [entry, hmark]; rfl
  | some m =>
    simp only [entry, hmark]
    rw [get?_solvedEntry _ _ _ _ (by decide) (by decide) (by decide) (by decide)]
    rfl

/-- A solve of the entry of a ticket is for the host of the ticket. -/
theorem resolvedHost_entry (cookies : List HitlCookie) :
    resolvedHost cookies (((t.entry.get? "url").bind Json.asStr).bind urlHostStr) =
      t.hostFor cookies :=
  congrArg (resolvedHost cookies) t.entryHost_entry

/-- Marking the entry of a ticket, solved before or not, notes the solve on the ticket. -/
theorem solvedEntry_entry : solvedEntry t.entry m.solvedAt m.host m.count = (t.marked m).entry := by
  cases hmark : t.mark with
  | none => simp only [entry, hmark, marked]
  | some _ =>
    simp only [entry, hmark, marked, solvedEntry_hitlEntry, solvedEntry_solvedObject]

end Ticket

section Desk

variable {ω : Type u} (io : HitlIo ω) (persistencePath : Option Str) (text staged : ω → Str)

/-- The handlers, one after the other; others change the jar and the world, the queue file apart. -/
inductive HandlerStep : CookieJar × ω → DeskCall → CookieJar × ω → Prop
  | enqueue {jar : CookieJar} {w : ω} (req : HitlRequest) :
      HandlerStep (jar, w) (.enqueue req (handleHitlEnqueue io req w).1)
        (jar, (handleHitlEnqueue io req w).2)
  | solve {jar : CookieJar} {w : ω} (id : Str) (cookies : List HitlCookie) :
      HandlerStep (jar, w)
        (.solve id cookies (handleHitlSolve io persistencePath id ⟨cookies⟩ jar w).1)
        (handleHitlSolve io persistencePath id ⟨cookies⟩ jar w).2
  | result {jar : CookieJar} {w : ω} (id : Str) :
      HandlerStep (jar, w) (.result id (handleHitlResult io id w)) (jar, w)
  | elsewhere {jar jar' : CookieJar} {w w' : ω} (htext : text w' = text w) :
      HandlerStep (jar, w) .elsewhere (jar', w')

/-- The disk under the queue, whose steps may fail: one that succeeds does what it says, and one
that fails leaves the text of the queue file as it was. The file need not be there before the first
line. Ids are new, and values print on lines of their own. -/
structure QueueDisk : Prop where
  jsonLines : JsonLines io
  read : ∀ {w content}, io.readToString (queuePath io) w = .ok content → content = text w
  newId : ∀ w, text (io.newId w).2 = text w
  fresh : ∀ {w entries}, Represents io (text w) entries → some (io.newId w).1 ∉ entries.map entryId
  openAppend : ∀ w, text (io.openAppend (queuePath io) w).2 = text w
  appended : ∀ {w w' line}, io.writeAll (queuePath io) line w = (.ok (), w') →
    text w' = text w ++ line
  notAppended : ∀ {w w' line e}, io.writeAll (queuePath io) line w = (.error e, w') →
    text w' = text w
  write : ∀ w content, text (io.write (queueTmpPath (queuePath io)) content w).2 = text w
  written : ∀ {w w' content}, io.write (queueTmpPath (queuePath io)) content w = (.ok (), w') →
    staged w' = content
  renamed : ∀ {w w'}, io.rename (queueTmpPath (queuePath io)) (queuePath io) w = (.ok (), w') →
    text w' = staged w
  notRenamed : ∀ {w w' e},
    io.rename (queueTmpPath (queuePath io)) (queuePath io) w = (.error e, w') → text w' = text w
  saveJar : ∀ path ∈ persistencePath, ∀ snapshot w, text (io.saveJar path snapshot w).2 = text w

/-- The file shows the tickets of the desk, and the jar is that of the desk. -/
def Shows (s : CookieJar × ω) (d : Desk) : Prop :=
  s.1 = d.jar ∧ Represents io (text s.2) (d.tickets.map Ticket.entry)

variable {io persistencePath text staged}

/-- A step that leaves the text of the file leaves the tickets that it shows. -/
theorem Shows.keep {s s' : CookieJar × ω} {d d' : Desk} (h : Shows io text s d)
    (htext : text s'.2 = text s.2) (htickets : d'.tickets = d.tickets) (hjar : s'.1 = d'.jar) :
    Shows io text s' d' := by
  refine ⟨hjar, ?_⟩
  rw [htext, htickets]
  exact h.2

/-- A lookup among the entries is a lookup among the tickets. -/
theorem lookup_entries (d : Desk) (id : Str) :
    lookup (d.tickets.map Ticket.entry) id = (d.find id).map Ticket.entry := by
  rw [lookup, Desk.find, List.find?_map]
  congr 2
  funext t
  simp [Function.comp_apply, Ticket.entryId_entry]

theorem map_entryId_entries (tickets : List Ticket) :
    (tickets.map Ticket.entry).map entryId = tickets.map fun t ↦ some t.id := by
  rw [List.map_map]
  exact List.map_congr_left fun t _ ↦ t.entryId_entry

/-- An id that no entry has is not found. -/
theorem findEntry_of_lookup_none {id : Str} {queue : List Str} {entries : List Json}
    (h : List.Forall₂ (LineOf io) queue entries) (hfind : lookup entries id = none) :
    findEntry io id queue = .error ("HITL queue entry " ++ id ++ " not found") := by
  induction h with
  | nil => rfl
  | @cons line e queue entries hline _ ih =>
    obtain ⟨⟨-, -, hne⟩, hparse⟩ := hline
    have hid : entryId e ≠ some id := by
      intro hid
      simp [lookup, hid] at hfind
    have hrest : lookup entries id = none := by simpa [lookup, hid] using hfind
    simpa [findEntry, hne, hparse, hid] using ih hrest

section Walk

variable {id : Str} {cookies : List HitlCookie} {walk : SolveWalk ω} {queue : List Str}

/-- A walk that meets no entry with the id keeps every line. -/
theorem solveLines_absent {entries : List Json} (h : List.Forall₂ (LineOf io) queue entries)
    (hfind : lookup entries id = none) (hstart : walk.found = false) :
    solveLines io persistencePath id cookies queue walk =
      (.ok (), { walk with outLines := walk.outLines ++ queue }) := by
  induction h generalizing walk with
  | nil => simp [solveLines]
  | @cons line e queue entries hline _ ih =>
    have hid : entryId e ≠ some id := by
      intro hid
      simp [lookup, hid] at hfind
    have hrest : lookup entries id = none := by simpa [lookup, hid] using hfind
    have hkept : ({ walk with outLines := walk.outLines ++ [line] } : SolveWalk ω).found = false :=
      hstart
    rw [solveLines_keep hline (.inr hid), ih hrest hkept]
    simp

/-- A walk to a ticket keeps the lines around its line, and any line of the marked ticket in its
place shows the tickets after the solve. -/
theorem solveLines_present {tickets : List Ticket} {t : Ticket}
    (h : List.Forall₂ (LineOf io) queue (tickets.map Ticket.entry))
    (hdistinct : (tickets.map Ticket.id).Nodup)
    (hfind : tickets.find? (fun t ↦ t.id = id) = some t) (hstart : walk.found = false) :
    ∃ before after,
      (∀ line m, LineOf io line (t.marked m).entry → List.Forall₂ (LineOf io)
        (before ++ line :: after) ((Desk.markTicket id m tickets).map Ticket.entry)) ∧
      solveLines io persistencePath id cookies queue walk =
        match solveMatched io persistencePath cookies t.entry
          { walk with outLines := walk.outLines ++ before } with
        | (.error e, walk) => (.error e, walk)
        | (.ok (), walk) => (.ok (), { walk with outLines := walk.outLines ++ after }) := by
  induction tickets generalizing queue walk with
  | nil => exact absurd hfind (by simp)
  | cons first rest ih =>
    rw [List.map_cons] at h hdistinct
    obtain ⟨hfirst, hdistinct⟩ := List.nodup_cons.mp hdistinct
    cases h with
    | @cons line _ queue _ hline hrest =>
    by_cases hid : first.id = id
    · -- the ticket is the first one, and no later one has its id
      obtain rfl : first = t := by simpa [List.find?_cons, hid] using hfind
      refine ⟨[], queue, fun line m hnew ↦ ?_, ?_⟩
      · have hmark : Desk.markTicket id m (first :: rest) = first.marked m :: rest := by
          have hrest : Desk.markTicket id m rest = rest :=
            Desk.markTicket_of_notMem (hid ▸ hfirst) m
          rw [Desk.markTicket] at hrest ⊢
          rw [List.map_cons, if_pos hid, hrest]
        rw [hmark]
        exact .cons hnew hrest
      · have hentry : entryId first.entry = some id := by rw [Ticket.entryId_entry, hid]
        rw [solveLines_match hline hstart hentry, List.append_nil]
        cases hmatched : solveMatched io persistencePath cookies first.entry walk with
        | mk answer walk' =>
          cases answer with
          | error e => rfl
          | ok u =>
            obtain ⟨_, _, _, _, _, hset⟩ := solveMatched_outLines hmatched
            exact solveLines_keepAll hrest hset
    · have hfind' : rest.find? (fun t ↦ t.id = id) = some t := by
        simpa [List.find?_cons, hid] using hfind
      have hkept :
          ({ walk with outLines := walk.outLines ++ [line] } : SolveWalk ω).found = false := hstart
      obtain ⟨before, after, hshow, hwalk⟩ := ih hrest hdistinct hfind' hkept
      refine ⟨line :: before, after, fun newLine m hnew ↦ ?_, ?_⟩
      · have hmark : Desk.markTicket id m (first :: rest) =
            first :: Desk.markTicket id m rest := by
          rw [Desk.markTicket, List.map_cons, if_neg hid]
        rw [hmark]
        exact .cons hline (hshow newLine m hnew)
      · have hentry : entryId first.entry ≠ some id := by
          rw [Ticket.entryId_entry]
          exact fun h ↦ hid (Option.some.inj h)
        rw [solveLines_keep hline (.inr hentry), hwalk]
        simp only [List.append_assoc, List.singleton_append]

end Walk

/-- Lines joined for a rewrite stand for their entries. -/
theorem represents_rewritten {queue : List Str} {entries : List Json}
    (h : List.Forall₂ (LineOf io) queue entries) (hne : queue ≠ []) :
    Represents io (join "\n" queue ++ "\n") entries :=
  ⟨queue, join_eq_queueText hne, h⟩

section Calls

variable (hdisk : QueueDisk io persistencePath text staged) {jar : CookieJar} {w : ω} {d : Desk}
include hdisk

/-- An enqueue puts its ticket on the desk, or fails and changes nothing. -/
theorem enqueue_refines (hshows : Shows io text (jar, w) d) (req : HitlRequest) :
    ∃ d', DeskStep (queuePath io) d (.enqueue req (handleHitlEnqueue io req w).1) d' ∧
      Shows io text (jar, (handleHitlEnqueue io req w).2) d' := by
  have hid := hdisk.fresh hshows.2
  rw [map_entryId_entries] at hid
  unfold handleHitlEnqueue
  dsimp only
  have hnew := hdisk.newId w
  generalize (io.newId w).2 = w₁ at hnew ⊢
  generalize (io.newId w).1 = id at hid ⊢
  cases hprint : io.printJson (hitlEntry id (io.nowRfc3339 w₁) req) with
  | error e =>
    exact ⟨d, .notEntered (by simp [enqueueFailures]), hshows.keep hnew rfl hshows.1⟩
  | ok line =>
    dsimp only
    have hopened := hdisk.openAppend w₁
    cases hopen : io.openAppend (hitlQueuePath io.queuePathVar) w₁ with
    | mk opened w₂ =>
      have htext₂ : text w₂ = text w := by
        rw [← hnew, ← hopened]
        exact congrArg (fun r ↦ text r.2) hopen.symm
      cases opened with
      | error e =>
        exact ⟨d, .notEntered (by simp [enqueueFailures, queuePath]),
          hshows.keep htext₂ rfl hshows.1⟩
      | ok _ =>
        dsimp only
        cases hwrite : io.writeAll (hitlQueuePath io.queuePathVar) (line ++ "\n") w₂ with
        | mk written w₃ =>
          cases written with
          | error e =>
            have htext₃ : text w₃ = text w := (hdisk.notAppended hwrite).trans htext₂
            exact ⟨d, .notEntered (by simp [enqueueFailures]), hshows.keep htext₃ rfl hshows.1⟩
          | ok _ =>
            have hfresh : id ∉ d.tickets.map Ticket.id := by
              simpa [List.mem_map] using hid
            refine ⟨_, .entered hfresh, hshows.1, ?_⟩
            show Represents io (text w₃) ((d.tickets ++ [_]).map Ticket.entry)
            rw [hdisk.appended hwrite, htext₂, List.map_append]
            exact hshows.2.append (hdisk.jsonLines _ _ hprint)

/-- A lookup shows the ticket. -/
theorem result_refines (hshows : Shows io text (jar, w) d) (id : Str) :
    DeskStep (queuePath io) d (.result id (handleHitlResult io id w)) d := by
  unfold handleHitlResult
  dsimp only
  cases hread : io.readToString (hitlQueuePath io.queuePathVar) w with
  | error e => exact .unreadable
  | ok content =>
    obtain rfl := hdisk.read hread
    have hlines := hshows.2.lines
    have hlookup := lookup_entries d id
    cases hfind : d.find id with
    | none =>
      rw [hfind, Option.map_none] at hlookup
      have hnone := findEntry_of_lookup_none hlines hlookup
      dsimp only
      rw [hnone]
      exact .unknown hfind
    | some t =>
      rw [hfind, Option.map_some] at hlookup
      have hfound := findEntry_of_lookup hlines hlookup
      dsimp only
      rw [hfound]
      exact .shown hfind

variable {id : Str} {cookies : List HitlCookie}

/-- A match with a ticket stores the cookies, saves the jar and marks the ticket. -/
theorem solveMatched_ticket {t : Ticket} {host : Str} (hhost : t.hostFor cookies = some host)
    (walk : SolveWalk ω) :
    ∃ solvedAt w', text w' = text walk.world ∧
      let solved := (t.marked ⟨solvedAt, host, cookies.length⟩).entry
      let walk' : SolveWalk ω :=
        { walk with
          found := true
          targetHost := some host
          updatedEntry := some solved
          jar := solveJar (io.now walk.world) host cookies walk.jar
          world := w' }
      solveMatched io persistencePath cookies t.entry walk =
        match io.printJson solved with
        | .error e => (.error (solveError 500 ("serialize entry: " ++ e)), walk')
        | .ok line => (.ok (), { walk' with outLines := walk.outLines ++ [line] }) := by
  have hresolved := (t.resolvedHost_entry cookies).trans hhost
  set w' : ω := (persistencePath.map fun path ↦
    (io.saveJar path (injectCookies (io.now walk.world) host cookies walk.jar).snapshot
      walk.world).2).getD walk.world with hw'
  refine ⟨io.nowRfc3339 w', w', ?_, ?_⟩
  · cases hpath : persistencePath with
    | none => simp only [hw', hpath, Option.map_none, Option.getD_none]
    | some path =>
      simp only [hw', hpath, Option.map_some, Option.getD_some]
      exact hdisk.saveJar path (by simp [hpath]) _ _
  · dsimp only
    rw [← t.solvedEntry_entry]
    simp only [solveMatched, hresolved]
    rfl

/-- A solve marks its ticket, or fails and marks none. -/
theorem solve_refines (hshows : Shows io text (jar, w) d) :
    ∃ d', DeskStep (queuePath io) d
        (.solve id cookies (handleHitlSolve io persistencePath id ⟨cookies⟩ jar w).1) d' ∧
      Shows io text (handleHitlSolve io persistencePath id ⟨cookies⟩ jar w).2 d' := by
  unfold handleHitlSolve
  dsimp only
  by_cases hempty : cookies.isEmpty = true
  · obtain rfl := List.isEmpty_iff.mp hempty
    exact ⟨d, .noCookies, hshows⟩
  have hcookies : cookies ≠ [] := fun h ↦ hempty (by simp [h])
  rw [if_neg hempty]
  cases hread : io.readToString (hitlQueuePath io.queuePathVar) w with
  | error e => exact ⟨d, .notRead hcookies, hshows⟩
  | ok content =>
    obtain rfl := hdisk.read hread
    dsimp only
    cases hfind : d.find id with
    | none =>
      have hnone : lookup (d.tickets.map Ticket.entry) id = none := by
        rw [lookup_entries, hfind, Option.map_none]
      rw [solveLines_absent hshows.2.lines hnone rfl]
      exact ⟨d, .noTicket hcookies hfind, hshows⟩
    | some t =>
      obtain ⟨before, after, hshow, hwalk⟩ :=
        @solveLines_present ω io persistencePath id cookies ⟨false, none, none, [], jar, w⟩ _ _ t
          hshows.2.lines d.distinct hfind rfl
      rw [hwalk]
      cases hhost : t.hostFor cookies with
      | none =>
        have hresolved := (t.resolvedHost_entry cookies).trans hhost
        simp only [solveMatched, hresolved]
        exact ⟨d, .noHost hcookies hfind hhost, hshows⟩
      | some host =>
        obtain ⟨solvedAt, w₁, hworld, hmatched⟩ := @solveMatched_ticket ω io persistencePath text
          staged hdisk cookies t host hhost ⟨false, none, none, [] ++ before, jar, w⟩
        dsimp only at hworld hmatched
        rw [hmatched]
        set solved := (t.marked ⟨solvedAt, host, cookies.length⟩).entry with hsolved
        have hstored : ∀ w' : ω, text w' = text w → Shows io text
            (solveJar (io.now w) host cookies jar, w')
            { d with jar := solveJar (io.now w) host cookies d.jar } :=
          fun w' hw' ↦ hshows.keep hw' rfl (congrArg (solveJar (io.now w) host cookies) hshows.1)
        cases hprint : io.printJson solved with
        | error e =>
          exact ⟨_, .stored hcookies hfind hhost (by simp [solveFailures]), hstored _ hworld⟩
        | ok line =>
          have hqueue := hshow line _ (hdisk.jsonLines _ _ hprint)
          simp only [List.nil_append, Bool.not_true, Bool.false_eq_true, if_false,
            List.append_assoc, List.singleton_append]
          set content := join "\n" (before ++ line :: after) ++ "\n" with hcontent
          have hwrite := hdisk.write w₁ content
          cases hwritten : io.write (withExtension "json.tmp" (hitlQueuePath io.queuePathVar))
              content w₁ with
          | mk answer w₂ =>
            have htext₂ : text w₂ = text w := by
              rw [← hworld, ← hwrite]
              exact congrArg (fun r ↦ text r.2) hwritten.symm
            cases answer with
            | error e =>
              exact ⟨_, .stored hcookies hfind hhost (by simp [solveFailures]), hstored _ htext₂⟩
            | ok _ =>
              dsimp only
              cases hrename : io.rename (withExtension "json.tmp" (hitlQueuePath io.queuePathVar))
                  (hitlQueuePath io.queuePathVar) w₂ with
              | mk answer w₃ =>
                cases answer with
                | error e =>
                  have htext₃ : text w₃ = text w := (hdisk.notRenamed hrename).trans htext₂
                  exact ⟨_, .stored hcookies hfind hhost (by simp [solveFailures]),
                    hstored _ htext₃⟩
                | ok _ =>
                  refine ⟨_, @DeskStep.solved _ d id host solvedAt cookies t (io.now w) hcookies
                    hfind hhost, congrArg (solveJar (io.now w) host cookies) hshows.1, ?_⟩
                  show Represents io (text w₃) _
                  rw [hdisk.renamed hrename, hdisk.written hwritten]
                  exact represents_rewritten hqueue (by simp)

/-- The handlers behave as the desk. -/
theorem hitl_refines :
    Refines (HandlerStep io persistencePath text) (DeskStep (queuePath io)) (Shows io text) := by
  intro s e s' d hshows hstep
  cases hstep with
  | enqueue req => exact enqueue_refines hdisk hshows req
  | solve id cookies => exact solve_refines hdisk hshows
  | result id => exact ⟨d, result_refines hdisk hshows id, hshows⟩
  | @elsewhere _ jar' _ _ htext =>
    exact ⟨{ d with jar := jar' }, .elsewhere, hshows.keep htext rfl rfl⟩

end Calls
end Desk

/-- Over any calls, on a disk that may fail at every step, the handlers behave as a desk of tickets:
each answer is one that the desk gives, the file shows the tickets of the desk at the end, and these
are told by the calls. -/
theorem hitlDesk_sound {ω : Type*} {io : HitlIo ω} {persistencePath : Option Str}
    {text staged : ω → Str} (hdisk : QueueDisk io persistencePath text staged)
    {s s' : CookieJar × ω} {d : Desk} {calls : List DeskCall} (hshows : Shows io text s d)
    (hrun : Run (HandlerStep io persistencePath text) s calls s') :
    ∃ d', Run (DeskStep (queuePath io)) d calls d' ∧ Shows io text s' d' ∧ Told d calls d' :=
  (hitl_refines hdisk).history (I := Told d) (fun _ _ _ _ h hstep ↦ h.step hstep) hrun hshows
    (.refl d)

/-- The queue file, if there is one, and the temporary file. -/
structure TwoFiles where
  queue : Option Str
  tmp : Str

/-- The text of the queue file. -/
def TwoFiles.text (w : TwoFiles) : Str := w.queue.getD []

/-- A world with these files, which prints and parses the entries of the table. It hands out an id
of the table that no line has. -/
def tableIo : HitlIo TwoFiles where
  queuePathVar := none
  now _ := some 0
  nowRfc3339 _ := deskTime
  newId w :=
    (([idA, idB].find? fun id ↦ (lines w.text).all fun line ↦
      (deskIo.parseJson line).toOption.bind entryId ≠ some id).getD [], w)
  parseJson := deskIo.parseJson
  printJson := deskIo.printJson
  openAppend _ w := (.ok (), { w with queue := some w.text })
  writeAll _ line w := (.ok (), { w with queue := some (w.text ++ line) })
  readToString _ w :=
    match w.queue with
    | some content => .ok content
    | none => .error "No such file or directory (os error 2)"
  write _ content w := (.ok (), { w with tmp := content })
  rename _ _ w := (.ok (), { w with queue := some w.tmp })
  saveJar _ _ w := (.ok (), w)

/-- An entry is that of a line. -/
theorem Represents.line_of_mem {ω : Type*} {io : HitlIo ω} {text : Str} {entries : List Json}
    (h : Represents io text entries) {e : Json} (he : e ∈ entries) :
    ∃ line ∈ Str.lines text, io.parseJson line = .ok e := by
  have hlines := h.lines
  clear h
  generalize Str.lines text = queue at hlines ⊢
  induction hlines with
  | nil => exact absurd he (by simp)
  | @cons line first queue rest hline _ ih =>
    rcases List.mem_cons.mp he with rfl | he
    · exact ⟨line, by simp, hline.2⟩
    · obtain ⟨line', hmem, hparse⟩ := ih he
      exact ⟨line', List.mem_cons_of_mem _ hmem, hparse⟩

theorem queueDisk_table : QueueDisk tableIo none TwoFiles.text TwoFiles.tmp where
  jsonLines := jsonLines_desk
  read {w content} h := by
    cases hqueue : w.queue with
    | none => simp [tableIo, hqueue] at h
    | some text =>
      have hread : tableIo.readToString (queuePath tableIo) w = .ok text := by
        simp only [tableIo, hqueue]
      rw [TwoFiles.text, hqueue]
      exact Except.ok.inj (h.symm.trans hread)
  newId _ := rfl
  fresh {w entries} h hmem := by
    obtain ⟨e, he, hid⟩ := List.mem_map.mp hmem
    obtain ⟨line, hline, hparse⟩ := h.line_of_mem he
    have hparse : deskIo.parseJson line = .ok e := hparse
    dsimp only [tableIo] at hid
    cases hfind : [idA, idB].find? fun id ↦ (lines w.text).all fun line ↦
        (deskIo.parseJson line).toOption.bind entryId ≠ some id with
    | some id =>
      rw [hfind] at hid
      have hfresh := List.find?_some hfind
      have hall := List.all_eq_true.mp hfresh line hline
      rw [hparse] at hall
      have hother : entryId e ≠ some id := of_decide_eq_true hall
      exact hother hid
    | none =>
      rw [hfind] at hid
      have htable : ∀ entry ∈ deskTable, entryId entry.1 ≠ some [] := by
        unfold deskTable pendingLine solvedLine solvedEntry hitlEntry idA idB deskTime
        repeat rw [String.toList_ofList]
        decide +kernel
      simp only [deskIo] at hparse
      split at hparse
      · next entry hentry =>
        obtain rfl := Except.ok.inj hparse
        exact htable entry (List.mem_of_find?_eq_some hentry) hid
      · exact absurd hparse (by simp)
  openAppend _ := rfl
  appended h := by
    obtain ⟨-, rfl⟩ := Prod.mk.inj h
    rfl
  notAppended h := absurd (Prod.mk.inj h).1 (by simp)
  write _ _ := rfl
  written h := by
    obtain ⟨-, rfl⟩ := Prod.mk.inj h
    rfl
  renamed h := by
    obtain ⟨-, rfl⟩ := Prod.mk.inj h
    rfl
  notRenamed h := absurd (Prod.mk.inj h).1 (by simp)
  saveJar _ h := absurd h (by simp)

/-- A page comes in, is solved under an id and asked for. -/
def threeCalls {ω : Type*} (io : HitlIo ω) (req : HitlRequest) (id : Str)
    (cookies : List HitlCookie) (w : ω) : List DeskCall :=
  let entered := handleHitlEnqueue io req w
  let solved := handleHitlSolve io none id ⟨cookies⟩ .new entered.2
  [.enqueue req entered.1, .solve id cookies solved.1,
    .result id (handleHitlResult io id solved.2.2)]

theorem run_threeCalls {ω : Type*} (io : HitlIo ω) (text : ω → Str) (req : HitlRequest) (id : Str)
    (cookies : List HitlCookie) (w : ω) :
    ∃ s, Run (HandlerStep io none text) (.new, w) (threeCalls io req id cookies w) s :=
  ⟨_, ((Run.nil.snoc (.enqueue req)).snoc (.solve id cookies)).snoc (.result id)⟩

/-- The page is on the desk and solved. -/
theorem hitlDesk_sound_table :
    let calls := threeCalls tableIo (deskRequest "https://a.example/") idA [⟨"cf", "1", none, none⟩]
      ⟨none, []⟩
    (lastSolve idA calls).isSome ∧
      ∃ s d', Run (DeskStep (queuePath tableIo)) ⟨[], List.nodup_nil, .new⟩ calls d' ∧
        Shows tableIo TwoFiles.text s d' ∧ Told ⟨[], List.nodup_nil, .new⟩ calls d' := by
  refine ⟨?_, ?_⟩
  · unfold tableIo deskIo deskTable pendingLine solvedLine idA idB deskTime
    repeat rw [String.toList_ofList]
    decide +kernel
  · obtain ⟨s, hrun⟩ := run_threeCalls tableIo TwoFiles.text (deskRequest "https://a.example/") idA
      [⟨"cf", "1", none, none⟩] ⟨none, []⟩
    exact ⟨s, hitlDesk_sound queueDisk_table ⟨rfl, represents_nil⟩ hrun⟩

end CrwShield.Server
