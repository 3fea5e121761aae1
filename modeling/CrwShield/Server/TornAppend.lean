import CrwShield.Base.JsonText
import CrwShield.Base.Utf8
import CrwShield.Server.FailedSolve
import CrwShield.Server.HitlQueue

/-!
# A queue with a torn append

Crate `server`, `src/crates/server/src/handlers.rs:101–366`: the queue file after one append was cut
short somewhere in its bytes, with the appends of acknowledged enqueues before and after it. A
lookup and a solve read the file line by line and stop at the first line that is no JSON text.
-/

open CrwShield.Base CrwShield.Base.Str CrwShield.Base.JsonText CrwShield.Antibot

namespace CrwShield.Server

universe u
variable {ω : Type u} {io : HitlIo ω}

/-- `serde_json::from_str` accepts nothing but JSON texts. -/
def ParsesJson (io : HitlIo ω) : Prop := ∀ line v, io.parseJson line = .ok v → Structured line

/-- `serde_json::to_string` prints an object without white space, its first member in front. -/
def PrintsCompact (io : HitlIo ω) : Prop :=
  ∀ (name : Str) (value : Json) (members : List (Str × Json)) (line : Str),
    (∀ c ∈ name, c.isAlpha = true ∨ c = '_') →
    io.printJson (.obj ((name, value) :: members)) = .ok line →
    ∃ body, line = '\x7b' :: '"' :: (name ++ '"' :: ':' :: (body ++ ['\x7d']))

/-- The line of an entry that an enqueue has printed. -/
def EnqueuedLine (io : HitlIo ω) (line : Str) (entry : Json) : Prop :=
  ∃ id createdAt req, entry = hitlEntry id createdAt req ∧ io.printJson entry = .ok line

/-- The bytes of the queue file: the lines of acknowledged enqueues, with the first bytes of one
more append, not all of them, in between. Ids are not used twice. -/
structure TornQueue (io : HitlIo ω) (w : ω) (before after : List (Str × Json)) (torn : List UInt8)
    (line : Str) (entry : Json) : Prop where
  enqueuedBefore : ∀ p ∈ before, EnqueuedLine io p.1 p.2
  enqueuedAfter : ∀ p ∈ after, EnqueuedLine io p.1 p.2
  enqueued : EnqueuedLine io line entry
  cut : torn <+: utf8 (line ++ ['\n'])
  proper : torn ≠ utf8 (line ++ ['\n'])
  distinct : ((before ++ (line, entry) :: after).map fun p ↦ entryId p.2).Nodup
  file : ∀ content, io.readToString (hitlQueuePath io.queuePathVar) w = .ok content ↔
    utf8 content = utf8 (queueText (before.map Prod.fst)) ++ torn ++
      utf8 (queueText (after.map Prod.fst))

/-- The entry is returned for its id, and a solve with these cookies succeeds. -/
def Survives (io : HitlIo ω) (persistencePath : Option Str) (cookies : List HitlCookie)
    (jar : CookieJar) (w : ω) (entry : Json) : Prop :=
  ∀ id, entryId entry = some id →
    handleHitlResult io id w = .ok entry ∧
      ∃ answer jar' w', handleHitlSolve io persistencePath id ⟨cookies⟩ jar w =
        (.ok answer, jar', w')

/-- Cookies for a host, and a world that prints the entries they solve and takes the writes. -/
structure Solvable (io : HitlIo ω) (cookies : List HitlCookie) (host : Str)
    (entries : List (Str × Json)) : Prop where
  resolves : cookies.findSome? HitlCookie.domain = some host
  prints : ∀ p ∈ entries, ∀ w, ∃ l,
    io.printJson (solvedEntry p.2 (io.nowRfc3339 w) host cookies.length) = .ok l
  writes : ∀ path text w, (io.write path text w).1 = .ok ()
  renames : ∀ path path' w, (io.rename path path' w).1 = .ok ()

section Line

variable {line : Str} {entry : Json}

/-- The line of an entry opens an object with a plain first name. -/
theorem EnqueuedLine.shape (hprint : PrintsCompact io) (h : EnqueuedLine io line entry) :
    ∃ body, line = '\x7b' :: '"' :: 'c' :: (body ++ ['\x7d']) := by
  obtain ⟨id, createdAt, req, rfl, hline⟩ := h
  have hplain : ∀ c ∈ ("challenge_kind" : Str), c.isAlpha = true ∨ c = '_' := by simp
  obtain ⟨body, rfl⟩ := hprint "challenge_kind" _ _ line hplain hline
  exact ⟨"hallenge_kind" ++ '"' :: ':' :: body, by simp⟩

theorem EnqueuedLine.lineOf (hlines : JsonLines io) (h : EnqueuedLine io line entry) :
    LineOf io line entry := by
  obtain ⟨id, createdAt, req, rfl, hline⟩ := h
  exact hlines _ _ hline

theorem EnqueuedLine.structured (hlines : JsonLines io) (hparse : ParsesJson io)
    (h : EnqueuedLine io line entry) : Structured line :=
  hparse _ _ (h.lineOf hlines).2

/-- The bytes of a line start a character. -/
theorem EnqueuedLine.startsChar (hprint : PrintsCompact io) (h : EnqueuedLine io line entry)
    (bytes : List UInt8) : StartsChar (utf8 line ++ bytes) := by
  obtain ⟨body, rfl⟩ := h.shape hprint
  intro b hb
  have hbrace : b = 0x7b := by
    simpa [String.utf8EncodeChar] using hb.symm
  rw [hbrace]
  decide

end Line

/-- Lines whose last has no end are read back. -/
theorem lines_queueText_append {queue : List Str} {last : Str}
    (h : ∀ line ∈ queue, CleanLine line) (hlast : '\n' ∉ last) (hne : last ≠ []) :
    lines (queueText queue ++ last) = queue ++ [last] := by
  have htext : ∀ queue : List Str, queueText queue ++ last =
      ['\n'].intercalate (queue ++ [last]) := by
    intro queue
    induction queue with
    | nil => simp [queueText, List.intercalate]
    | cons line queue ih =>
      have hcons : queueText (line :: queue) = line ++ ['\n'] ++ queueText queue := rfl
      rw [hcons, List.append_assoc, ih]
      cases queue with
      | nil => simp [List.intercalate]
      | cons next queue => simp [List.intercalate]
  have hpieces : split '\n' (queueText queue ++ last) = queue ++ [last] := by
    rw [htext, split]
    refine List.splitOn_intercalate _ ?_ (by simp)
    intro line hline
    rcases List.mem_append.mp hline with hline | hline
    · exact (h line hline).1
    · rwa [List.mem_singleton.mp hline]
  have hstrip : queue.map (fun l ↦ if l.getLast? = some '\r' then l.dropLast else l) = queue := by
    conv_rhs => rw [← List.map_id queue]
    exact List.map_congr_left fun line hline ↦ if_neg (h line hline).2.1
  unfold lines
  simp only [hpieces, List.dropLast_concat, List.getLast?_concat, hstrip]

/-- A walk over lines of which one does not parse fails. -/
theorem solveLines_error (persistencePath : Option Str) (id : Str) (cookies : List HitlCookie)
    {queue : List Str} {l e : Str} (hl : l ∈ queue) (hblank : blankLine l = false)
    (hbad : io.parseJson l = .error e) (walk : SolveWalk ω) :
    ∃ error walk', solveLines io persistencePath id cookies queue walk = (.error error, walk') := by
  induction queue generalizing walk with
  | nil => exact absurd hl (by simp)
  | cons line rest ih =>
    rcases List.mem_cons.mp hl with rfl | hl
    · exact ⟨_, _, solveLines_bad hblank hbad⟩
    · cases hb : blankLine line with
      | true =>
        rw [solveLines_blank hb]
        exact ih hl walk
      | false =>
        cases hparse : io.parseJson line with
        | error e => exact ⟨_, _, solveLines_bad hb hparse⟩
        | ok found =>
          by_cases hid : walk.found = false ∧ entryId found = some id
          · rw [solveLines_hit hb hparse hid.1 hid.2]
            cases solveMatched io persistencePath cookies found walk with
            | mk r walk₁ =>
              cases r with
              | error e => exact ⟨_, _, rfl⟩
              | ok u => exact ih hl walk₁
          · have hother : walk.found = true ∨ entryId found ≠ some id := by
              cases hf : walk.found with
              | true => exact .inl rfl
              | false => exact .inr fun h ↦ hid ⟨hf, h⟩
            rw [solveLines_other hb hparse hother]
            exact ih hl _

/-- Every line of a queue stands for an entry. -/
theorem exists_lineOf {queue : List Str} {entries : List Json}
    (h : List.Forall₂ (LineOf io) queue entries) : ∀ l ∈ queue, ∃ v, LineOf io l v := by
  induction h with
  | nil => simp
  | cons hline _ ih => exact List.forall_mem_cons.mpr ⟨⟨_, hline⟩, ih⟩

/-- A walk over lines that all parse finds the first entry with the id. -/
theorem findMatch_of_lookup {id : Str} {queue : List Str} {entries : List Json} {entry : Json}
    (h : List.Forall₂ (LineOf io) queue entries) (hfind : lookup entries id = some entry) :
    ∃ kept rest, findMatch io id queue = some (kept, entry, rest) ∧
      ∀ l ∈ rest, ∃ v, io.parseJson l = .ok v := by
  induction h with
  | nil => exact absurd hfind (by simp [lookup])
  | @cons line e queue entries hline hrest ih =>
    obtain ⟨⟨-, -, hblank⟩, hparse⟩ := hline
    have hblank' : ¬ blankLine line = true := by simp [blankLine, hblank]
    unfold findMatch
    rw [if_neg hblank', hparse]
    dsimp only
    by_cases hid : entryId e = some id
    · obtain rfl : e = entry := by simpa [lookup, hid] using hfind
      rw [if_pos hid]
      refine ⟨[], queue, rfl, fun l hl ↦ ?_⟩
      obtain ⟨v, hv⟩ := exists_lineOf hrest l hl
      exact ⟨v, hv.2⟩
    · obtain ⟨kept, rest, hmatch, hall⟩ := ih (by simpa [lookup, hid] using hfind)
      rw [if_neg hid, hmatch]
      exact ⟨line :: kept, rest, rfl, hall⟩

/-- A queue whose lines all parse survives, the torn line among them or not. -/
theorem survives_of_lines {w : ω} {content host : Str} {cookies : List HitlCookie}
    {persistencePath : Option Str} {jar : CookieJar} {entries : List (Str × Json)}
    (hread : io.readToString (hitlQueuePath io.queuePathVar) w = .ok content)
    (hqueue : List.Forall₂ (LineOf io) (lines content) (entries.map Prod.snd))
    (hnodup : ((entries.map Prod.snd).map entryId).Nodup) {p : Str × Json} (hp : p ∈ entries)
    (hsolvable : Solvable io cookies host [p]) :
    Survives io persistencePath cookies jar w p.2 := by
  intro id hid
  have hlookup : lookup (entries.map Prod.snd) id = some p.2 :=
    lookup_of_nodup hnodup (List.mem_map_of_mem hp) hid
  constructor
  · simp only [handleHitlResult, hread, findEntry_of_lookup hqueue hlookup]
  · obtain ⟨kept, rest, hmatch, hrest⟩ := findMatch_of_lookup hqueue hlookup
    have hcookies : ¬ cookies.isEmpty = true := by
      rw [List.isEmpty_iff]
      rintro rfl
      exact absurd hsolvable.resolves (by simp)
    have hinj : injection io id cookies w = some ⟨kept, p.2, rest, host⟩ := by
      unfold injection
      rw [if_neg hcookies, hread]
      simp [Except.toOption, hmatch, resolvedHost, hsolvable.resolves]
    rcases handleHitlSolve_injected persistencePath jar hinj with
      ⟨e, w', hfails, -⟩ | ⟨-, hsolved⟩
    · -- nothing can fail after the injection
      cases (hfails w').mpr rfl with
      | serialize hprint =>
        obtain ⟨l, hl⟩ := hsolvable.prints p (by simp) _
        exact absurd (hl.symm.trans hprint) (by simp)
      | parse _ hl _ hparse =>
        obtain ⟨v, hv⟩ := hrest _ hl
        exact absurd (hv.symm.trans hparse) (by simp)
      | write _ _ hwrite =>
        exact absurd ((hsolvable.writes _ _ _).symm.trans (congrArg Prod.fst hwrite)) (by simp)
      | rename _ _ _ hrename =>
        exact absurd ((hsolvable.renames _ _ _).symm.trans (congrArg Prod.fst hrename)) (by simp)
    · exact hsolved

namespace TornQueue

variable {w : ω} {before after : List (Str × Json)} {torn : List UInt8} {line : Str} {entry : Json}

/-- The torn bytes are read back as the first characters of the torn line, if the file is text. -/
theorem content_eq (hprint : PrintsCompact io) (h : TornQueue io w before after torn line entry)
    {content : Str} (hread : io.readToString (hitlQueuePath io.queuePathVar) w = .ok content) :
    ∃ t, utf8 t = torn ∧ t <+: line ∧
      content = queueText (before.map Prod.fst) ++ t ++ queueText (after.map Prod.fst) := by
  have hfile := (h.file content).mp hread
  have hafter : StartsChar (utf8 (queueText (after.map Prod.fst))) := by
    cases hcases : after with
    | nil => exact fun b hb ↦ absurd hb (by simp [queueText])
    | cons p rest =>
      have hp := h.enqueuedAfter p (by simp [hcases])
      have hstart := hp.startsChar hprint (utf8 ('\n' :: queueText (rest.map Prod.fst)))
      rw [← utf8_append] at hstart
      simpa [queueText] using hstart
  have htorn : StartsChar torn := by
    obtain ⟨more, hmore⟩ := h.cut
    intro b hb
    have hstart := h.enqueued.startsChar hprint (utf8 ['\n'])
    rw [← utf8_append, ← hmore] at hstart
    cases torn with
    | nil => exact absurd hb (by simp)
    | cons first rest => exact hstart b hb
  obtain ⟨head, tail, rfl, hhead, htail⟩ := split_of_startsChar hfile hafter
  obtain ⟨front, t, rfl, hfront, rfl⟩ := split_of_startsChar hhead htorn
  rw [utf8_injective hfront, utf8_injective htail]
  refine ⟨t, rfl, ?_, rfl⟩
  have hcut := prefix_of_utf8_prefix h.cut
  rcases List.prefix_concat_iff.mp hcut with rfl | hshort
  · exact absurd rfl h.proper
  · exact hshort

private theorem forall₂_of_enqueued (hlines : JsonLines io) {entries : List (Str × Json)}
    (h : ∀ p ∈ entries, EnqueuedLine io p.1 p.2) :
    List.Forall₂ (LineOf io) (entries.map Prod.fst) (entries.map Prod.snd) := by
  induction entries with
  | nil => exact .nil
  | cons p entries ih =>
    obtain ⟨hp, hrest⟩ := List.forall_mem_cons.mp h
    exact .cons (hp.lineOf hlines) (ih hrest)

private theorem cleanLines (hlines : JsonLines io) {entries : List (Str × Json)}
    (h : ∀ p ∈ entries, EnqueuedLine io p.1 p.2) : ∀ l ∈ entries.map Prod.fst, CleanLine l := by
  intro l hl
  obtain ⟨p, hp, rfl⟩ := List.mem_map.mp hl
  exact ((h p hp).lineOf hlines).1

/-- A nonempty fragment, alone or with a line behind it, is a line that does not parse. -/
theorem exists_bad_line (hlines : JsonLines io) (hparse : ParsesJson io) (hprint : PrintsCompact io)
    (h : TornQueue io w before after torn line entry) {t : Str} (ht : t <+: line) (hne : t ≠ [])
    (hcut : ¬ (t = line ∧ after = [])) :
    ∃ l ∈ lines (queueText (before.map Prod.fst) ++ t ++ queueText (after.map Prod.fst)),
      blankLine l = false ∧ ∃ e, io.parseJson l = .error e := by
  obtain ⟨body, hbody⟩ := h.enqueued.shape hprint
  obtain ⟨u, rfl⟩ : ∃ u, t = '\x7b' :: u := by
    obtain ⟨more, hmore⟩ := ht
    cases t with
    | nil => exact absurd rfl hne
    | cons c u =>
      rw [hbody, List.cons_append, List.cons.injEq] at hmore
      exact ⟨u, by rw [hmore.1]⟩
  have hclean := (h.enqueued.lineOf hlines).1
  have hbefore := cleanLines hlines h.enqueuedBefore
  have hbad : ∀ l, ¬ Structured l → ∃ e, io.parseJson l = .error e := by
    intro l hl
    cases hp : io.parseJson l with
    | ok v => exact absurd (hparse l v hp) hl
    | error e => exact ⟨e, rfl⟩
  have hblank : ∀ l : Str, blankLine ('\x7b' :: l) = false := by
    intro l
    have hws : ¬ isWhitespace '\x7b' = true := by decide
    simp [blankLine, trim, hws, List.rdropWhile_eq_nil_iff]
  have hnewline : '\n' ∉ ('\x7b' :: u : Str) := fun hmem ↦ hclean.1 (ht.subset hmem)
  cases hafter : after with
  | nil =>
    -- the fragment is the last line
    refine ⟨'\x7b' :: u, ?_, hblank u, hbad _ ?_⟩
    · simp only [List.map_nil, queueText, List.flatMap_nil, List.append_nil]
      rw [← queueText, lines_queueText_append hbefore hnewline hne]
      simp
    · obtain ⟨more, hmore⟩ := ht
      have hmorene : more ≠ [] := by
        rintro rfl
        exact hcut ⟨by rw [← hmore, List.append_nil], hafter⟩
      have hlast : more.getLast? = some '\x7d' := by
        have hend : line.getLast? = some '\x7d' := by
          rw [hbody]
          simp [List.getLast?_cons, List.getLast?_append]
        rwa [← hmore, List.getLast?_append_of_ne_nil _ hmorene] at hend
      have hstructured := h.enqueued.structured hlines hparse
      rw [← hmore] at hstructured
      exact not_structured_prefix hstructured hlast (by decide)
  | cons p rest =>
    -- the fragment is glued to the line after it
    have hp := h.enqueuedAfter p (by simp [hafter])
    obtain ⟨pbody, hpbody⟩ := hp.shape hprint
    have hpclean := (hp.lineOf hlines).1
    have hpne : p.1 ≠ [] := by simp [hpbody]
    have hglued : CleanLine ('\x7b' :: u ++ p.1) := by
      refine ⟨fun hmem ↦ ?_, ?_, hblank _⟩
      · exact (List.mem_append.mp hmem).elim hnewline hpclean.1
      · rw [List.getLast?_append_of_ne_nil _ hpne]
        exact hpclean.2.1
    have hrest : ∀ l ∈ rest.map Prod.fst, CleanLine l := by
      refine cleanLines hlines fun q hq ↦ h.enqueuedAfter q ?_
      rw [hafter]
      exact List.mem_cons_of_mem p hq
    have htext : queueText (before.map Prod.fst) ++ '\x7b' :: u ++
        queueText ((p :: rest).map Prod.fst) =
        queueText (before.map Prod.fst ++ ('\x7b' :: u ++ p.1) :: rest.map Prod.fst) := by
      simp [queueText]
    refine ⟨'\x7b' :: u ++ p.1, ?_, hblank _, hbad _ ?_⟩
    · rw [htext, lines_queueText]
      · simp
      · intro l hl
        rcases List.mem_append.mp hl with hl | hl
        · exact hbefore l hl
        · rcases List.mem_cons.mp hl with rfl | hl
          · exact hglued
          · exact hrest l hl
    · have hstructured := hp.structured hlines hparse
      rw [hpbody] at hstructured ⊢
      exact not_structured_glued hstructured (by decide)

end TornQueue

/-- A solve of a queue with a line that does not parse fails. -/
theorem handleHitlSolve_error {w : ω} {content l e : Str} (persistencePath : Option Str)
    (id : Str) (cookies : List HitlCookie) (jar : CookieJar)
    (hread : io.readToString (hitlQueuePath io.queuePathVar) w = .ok content)
    (hl : l ∈ lines content) (hblank : blankLine l = false) (hbad : io.parseJson l = .error e) :
    ∃ error jar' w', handleHitlSolve io persistencePath id ⟨cookies⟩ jar w =
      (.error error, jar', w') := by
  unfold handleHitlSolve
  split
  · exact ⟨_, _, _, rfl⟩
  · obtain ⟨error, walk', hwalk⟩ := solveLines_error persistencePath id cookies hl hblank hbad
      ⟨false, none, none, [], jar, w⟩
    simp only [hread, hwalk]
    exact ⟨_, _, _, rfl⟩

/-- Every acknowledged entry is still returned and can still be solved exactly when there is none,
when nothing of the torn append was written, or when all of it but the line end was written and
nothing was appended after it. -/
theorem queue_survives_torn_iff {w : ω} {before after : List (Str × Json)} {torn : List UInt8}
    {line host : Str} {entry : Json} {cookies : List HitlCookie} {persistencePath : Option Str}
    {jar : CookieJar} (hlines : JsonLines io) (hparse : ParsesJson io) (hprint : PrintsCompact io)
    (h : TornQueue io w before after torn line entry)
    (hsolvable : Solvable io cookies host (before ++ after)) :
    (∀ p ∈ before ++ after, Survives io persistencePath cookies jar w p.2) ↔
      before ++ after = [] ∨ torn = [] ∨ (torn = utf8 line ∧ after = []) := by
  have hsolvable' : ∀ p ∈ before ++ after, Solvable io cookies host [p] := fun p hp ↦
    ⟨hsolvable.resolves, fun q hq ↦ hsolvable.prints q (List.mem_singleton.mp hq ▸ hp),
      hsolvable.writes, hsolvable.renames⟩
  constructor
  · intro hsurvive
    by_contra hcond
    rw [not_or, not_or] at hcond
    obtain ⟨hne, htorn, hwhole⟩ := hcond
    obtain ⟨p, hp⟩ := List.exists_mem_of_ne_nil _ hne
    have henqueued : EnqueuedLine io p.1 p.2 :=
      (List.mem_append.mp hp).elim (h.enqueuedBefore p) (h.enqueuedAfter p)
    obtain ⟨id, createdAt, req, hentry, -⟩ := henqueued
    obtain ⟨hresult, answer, jar', w', hsolve⟩ := hsurvive p hp id (by rw [hentry]; rfl)
    cases hread : io.readToString (hitlQueuePath io.queuePathVar) w with
    | error e => exact absurd hresult (by simp [handleHitlResult, hread])
    | ok content =>
      obtain ⟨t, rfl, ht, rfl⟩ := h.content_eq hprint hread
      obtain ⟨l, hl, hblank, e, hbad⟩ := h.exists_bad_line hlines hparse hprint ht
        (fun h ↦ htorn (by rw [h]; rfl)) (fun h ↦ hwhole ⟨by rw [h.1], h.2⟩)
      obtain ⟨error, jar₁, w₁, herror⟩ := handleHitlSolve_error persistencePath id cookies jar
        hread hl hblank hbad
      exact absurd (congrArg Prod.fst (hsolve.symm.trans herror)) (by simp)
  · rintro (hnone | rfl | ⟨rfl, rfl⟩) p hp
    · rw [hnone] at hp
      exact absurd hp (by simp)
    · -- nothing was written
      have henqueued : ∀ p ∈ before ++ after, EnqueuedLine io p.1 p.2 := fun p hp ↦
        (List.mem_append.mp hp).elim (h.enqueuedBefore p) (h.enqueuedAfter p)
      have hread : io.readToString (hitlQueuePath io.queuePathVar) w =
          .ok (queueText ((before ++ after).map Prod.fst)) :=
        (h.file _).mpr (by simp [queueText])
      have hnodup : (((before ++ after).map Prod.snd).map entryId).Nodup := by
        rw [List.map_map]
        exact (((List.sublist_cons_self _ after).append_left before).map _).nodup h.distinct
      refine survives_of_lines hread ?_ hnodup hp (hsolvable' p hp)
      rw [lines_queueText (TornQueue.cleanLines hlines henqueued)]
      exact TornQueue.forall₂_of_enqueued hlines henqueued
    · -- the torn line is whole, and the last one
      have henqueued : ∀ p ∈ before ++ [(line, entry)], EnqueuedLine io p.1 p.2 := fun p hp ↦
        (List.mem_append.mp hp).elim (h.enqueuedBefore p) fun hp ↦
          List.mem_singleton.mp hp ▸ h.enqueued
      have hread : io.readToString (hitlQueuePath io.queuePathVar) w =
          .ok (queueText (before.map Prod.fst) ++ line) :=
        (h.file _).mpr (by simp [queueText])
      have hnodup : (((before ++ [(line, entry)]).map Prod.snd).map entryId).Nodup := by
        rw [List.map_map]
        exact h.distinct
      rw [List.append_nil] at hp
      refine survives_of_lines hread ?_ hnodup (List.mem_append_left _ hp)
        (hsolvable' p (List.mem_append_left _ hp))
      have hclean := (h.enqueued.lineOf hlines).1
      have hne : line ≠ [] := by
        rintro rfl
        exact absurd hclean.2.2 (by decide)
      rw [lines_queueText_append (TornQueue.cleanLines hlines h.enqueuedBefore) hclean.1 hne]
      have hall := TornQueue.forall₂_of_enqueued hlines henqueued
      simpa using hall

/-- The desk's world, with a queue file of this text. -/
def deskFile (content : Str) : HitlIo Unit :=
  { deskIo with readToString := fun _ _ ↦ .ok content }

/-- Two entries of the desk, with their lines. -/
def deskA : Str × Json :=
  (pendingLine idA "https://a.example/", hitlEntry idA deskTime (deskRequest "https://a.example/"))

@[inherit_doc deskA]
def deskB : Str × Json :=
  (pendingLine idB "https://b.example/", hitlEntry idB deskTime (deskRequest "https://b.example/"))

/-- A cookie that solves the first of them. -/
def deskCookie : HitlCookie := ⟨"cf", "1", some "a.example", none⟩

private theorem enqueuedLine_desk (content : Str) :
    EnqueuedLine (deskFile content) deskA.1 deskA.2 ∧
      EnqueuedLine (deskFile content) deskB.1 deskB.2 := by
  have hprint : ∀ p ∈ [deskA, deskB], (deskIo.printJson p.2).toOption = some p.1 := by
    unfold deskA deskB deskIo deskTable solvedEntry hitlEntry pendingLine solvedLine idA idB
      deskTime
    repeat rw [String.toList_ofList]
    decide +kernel
  have hok : ∀ p ∈ [deskA, deskB], deskIo.printJson p.2 = .ok p.1 := by
    intro p hp
    have hp := hprint p hp
    cases hout : deskIo.printJson p.2 with
    | error e => exact absurd hp (by simp [hout, Except.toOption])
    | ok l =>
      rw [hout] at hp
      rw [Option.some.inj hp]
  exact ⟨⟨_, _, _, rfl, hok deskA (by simp)⟩, ⟨_, _, _, rfl, hok deskB (by simp)⟩⟩

private theorem jsonLines_deskFile (content : Str) : JsonLines (deskFile content) := jsonLines_desk

private theorem parsesJson_desk (content : Str) : ParsesJson (deskFile content) := by
  have htable : ∀ entry ∈ deskTable, Structured entry.2 := by
    unfold deskTable pendingLine solvedLine idA idB deskTime
    repeat rw [String.toList_ofList]
    decide +kernel
  intro line v hparse
  simp only [deskFile, deskIo] at hparse
  split at hparse
  · next entry hfind =>
    have hline : entry.2 = line := by simpa using List.find?_some hfind
    rw [← hline]
    exact htable entry (List.mem_of_find?_eq_some hfind)
  · exact absurd hparse (by simp)

/-- The entry is a record whose first member names the challenge. -/
private def NamesChallengeFirst : Json → Prop
  | .obj (m :: _) => m.1 = "challenge_kind"
  | _ => False

private theorem printsCompact_desk (content : Str) : PrintsCompact (deskFile content) := by
  have htable : ∀ entry ∈ deskTable,
      NamesChallengeFirst entry.1 ∧
      entry.2 = '\x7b' :: '"' :: (("challenge_kind" : Str) ++ '"' :: ':' ::
        ((entry.2.drop 18).dropLast ++ ['\x7d'])) := by
    intro entry hentry
    simp only [deskTable, List.mem_cons, List.not_mem_nil, or_false] at hentry
    have hlines : ∀ line ∈ [pendingLine idA "https://a.example/",
        pendingLine idB "https://b.example/", solvedLine idA "https://a.example/" "a.example"],
        line = '\x7b' :: '"' :: (("challenge_kind" : Str) ++ '"' :: ':' ::
          ((line.drop 18).dropLast ++ ['\x7d'])) := by
      unfold pendingLine solvedLine idA idB deskTime
      repeat rw [String.toList_ofList]
      decide +kernel
    rcases hentry with rfl | rfl | rfl
    · exact ⟨rfl, hlines _ (by simp)⟩
    · exact ⟨rfl, hlines _ (by simp)⟩
    · exact ⟨rfl, hlines _ (by simp)⟩
  intro name value members line _ hprint
  simp only [deskFile, deskIo] at hprint
  split at hprint
  · next entry hfind =>
    obtain rfl := Except.ok.inj hprint
    obtain ⟨hname, hline⟩ := htable entry (List.mem_of_find?_eq_some hfind)
    have hv : entry.1 = .obj ((name, value) :: members) := by simpa using List.find?_some hfind
    rw [hv] at hname
    obtain rfl : name = "challenge_kind" := hname
    exact ⟨_, hline⟩
  · exact absurd hprint (by simp)

private theorem solvable_desk (content : Str) :
    Solvable (deskFile content) [deskCookie] "a.example" [deskA] where
  resolves := rfl
  prints p hp w := by
    rw [List.mem_singleton.mp hp]
    have hok : (deskIo.printJson (solvedEntry deskA.2 deskTime "a.example" 1)).isOk = true := by
      unfold deskA deskIo deskTable solvedEntry hitlEntry pendingLine solvedLine idA idB deskTime
      repeat rw [String.toList_ofList]
      decide
    cases hout : deskIo.printJson (solvedEntry deskA.2 deskTime "a.example" 1) with
    | error e =>
      rw [hout] at hok
      exact absurd hok (by simp [Except.isOk, Except.toBool])
    | ok l => exact ⟨l, hout⟩
  writes _ _ _ := rfl
  renames _ _ _ := rfl

/-- The append of the second entry is cut short within its line, or just before its end. -/
private theorem tornQueue_desk {t : Str} (ht : t <+: deskB.1) :
    TornQueue (deskFile (deskA.1 ++ '\n' :: t)) () [deskA] [] (utf8 t) deskB.1 deskB.2 where
  enqueuedBefore p hp := by
    obtain rfl := List.mem_singleton.mp hp
    exact (enqueuedLine_desk _).1
  enqueuedAfter p hp := absurd hp (by simp)
  enqueued := (enqueuedLine_desk _).2
  cut := by
    obtain ⟨more, hmore⟩ := ht
    exact ⟨utf8 (more ++ ['\n']), by rw [← utf8_append, ← List.append_assoc, hmore]⟩
  proper heq := by
    have hlen := ht.length_le
    rw [utf8_injective heq, List.length_append] at hlen
    exact absurd hlen (by simp)
  distinct := by decide
  file content := by
    have htext : utf8 (queueText ([deskA].map Prod.fst)) ++ utf8 t ++
        utf8 (queueText (([] : List (Str × Json)).map Prod.fst)) =
        utf8 (deskA.1 ++ '\n' :: t) := by
      simp [queueText]
    rw [htext]
    exact ⟨fun h ↦ by rw [← Except.ok.inj h], fun h ↦ by rw [utf8_injective h]; rfl⟩

theorem queue_survives_torn_desk :
    Survives (deskFile (deskA.1 ++ '\n' :: deskB.1)) none [deskCookie] .new () deskA.2 :=
  (queue_survives_torn_iff (jsonLines_deskFile _) (parsesJson_desk _) (printsCompact_desk _)
    (tornQueue_desk List.prefix_rfl) (solvable_desk _)).mpr (.inr (.inr ⟨rfl, rfl⟩)) deskA
    (by simp)

/-- One byte of the second append was written: the first entry can no longer be solved. -/
theorem not_survives_torn_desk :
    ¬ ∀ (io : HitlIo Unit) (w : Unit) (before after : List (Str × Json)) (torn : List UInt8)
        (line host : Str) (entry : Json) (cookies : List HitlCookie) (persistencePath : Option Str)
        (jar : CookieJar),
      JsonLines io → ParsesJson io → PrintsCompact io →
      TornQueue io w before after torn line entry → Solvable io cookies host (before ++ after) →
      ∀ p ∈ before ++ after, Survives io persistencePath cookies jar w p.2 := by
  intro hall
  have hbrace : (['\x7b'] : Str) <+: deskB.1 := by
    refine ⟨deskB.1.tail, ?_⟩
    unfold deskB pendingLine idB deskTime
    repeat rw [String.toList_ofList]
    rfl
  obtain ⟨-, answer, jar', w', hsolve⟩ := hall _ () [deskA] [] _ _ _ _ [deskCookie] none .new
    (jsonLines_deskFile _) (parsesJson_desk _) (printsCompact_desk _) (tornQueue_desk hbrace)
    (solvable_desk _) deskA (by simp) idA rfl
  have hfailed : (handleHitlSolve (deskFile (deskA.1 ++ ['\n', '\x7b'])) none idA ⟨[deskCookie]⟩
      .new ()).1.isOk = false := by
    unfold deskFile deskIo deskA deskTable pendingLine solvedLine idA idB deskTime
    repeat rw [String.toList_ofList]
    decide +kernel
  rw [hsolve] at hfailed
  exact absurd hfailed (by simp [Except.isOk, Except.toBool])

end CrwShield.Server
