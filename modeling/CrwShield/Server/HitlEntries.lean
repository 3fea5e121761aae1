import CrwShield.Server.Hitl
import Mathlib.Data.List.Forall2

/-!
# The entries of the queue file

What the text of the queue, `src/crates/server/src/handlers.rs:101–366`, stands for: one entry a
line. An enqueue adds an entry at the end, a solve marks the first entry with its id, and a lookup
finds the first entry with an id.
-/

open CrwShield.Base CrwShield.Base.Str CrwShield.Antibot

namespace CrwShield.Server

/-- A line that reads back as it was written. -/
def CleanLine (line : Str) : Prop :=
  '\n' ∉ line ∧ line.getLast? ≠ some '\r' ∧ (trim line).isEmpty = false

instance (line : Str) : Decidable (CleanLine line) := inferInstanceAs (Decidable (_ ∧ _ ∧ _))

/-- Lines, each with its end. -/
def queueText (queue : List Str) : Str := queue.flatMap (· ++ ['\n'])

theorem queueText_append (queue : List Str) (line : Str) :
    queueText (queue ++ [line]) = queueText queue ++ (line ++ ['\n']) := by
  simp [queueText]

/-- Ended lines are lines separated from each other and from nothing. -/
theorem queueText_eq_intercalate (queue : List Str) :
    queueText queue = ['\n'].intercalate (queue ++ [[]]) := by
  induction queue with
  | nil => rfl
  | cons line queue ih =>
    have hcons : queueText (line :: queue) = line ++ ['\n'] ++ queueText queue := rfl
    rw [hcons, ih]
    cases queue with
    | nil => simp [List.intercalate]
    | cons next queue => simp [List.intercalate]

/-- The joined lines of a rewrite, with a last end, are ended lines. -/
theorem join_eq_queueText {queue : List Str} (h : queue ≠ []) :
    join "\n" queue ++ "\n" = queueText queue := by
  induction queue with
  | nil => exact absurd rfl h
  | cons line queue ih =>
    cases queue with
    | nil => simp [join, queueText, List.intercalate]
    | cons next queue =>
      have hjoin : join "\n" (line :: next :: queue) =
          line ++ ['\n'] ++ join "\n" (next :: queue) := by
        simp [join, List.intercalate]
      rw [hjoin, List.append_assoc, ih (by simp)]
      rfl

/-- Clean lines are read back. -/
theorem lines_queueText {queue : List Str} (h : ∀ line ∈ queue, CleanLine line) :
    lines (queueText queue) = queue := by
  have hpieces : split '\n' (queueText queue) = queue ++ [[]] := by
    rw [queueText_eq_intercalate, split]
    refine List.splitOn_intercalate _ ?_ (by simp)
    intro line hline
    rcases List.mem_append.mp hline with hline | hline
    · exact (h line hline).1
    · simp [List.mem_singleton.mp hline]
  have hstrip : queue.map (fun l ↦ if l.getLast? = some '\r' then l.dropLast else l) = queue := by
    conv_rhs => rw [← List.map_id queue]
    exact List.map_congr_left fun line hline ↦ if_neg (h line hline).2.1
  unfold lines
  simp only [hpieces, List.dropLast_concat, List.getLast?_concat, hstrip]

universe u
variable {ω : Type u} {io : HitlIo ω}

/-- A line of the queue and the entry it stands for. -/
def LineOf (io : HitlIo ω) (line : Str) (entry : Json) : Prop :=
  CleanLine line ∧ io.parseJson line = .ok entry

/-- Printed values are clean lines and parse to what was printed. -/
def JsonLines (io : HitlIo ω) : Prop := ∀ v line, io.printJson v = .ok line → LineOf io line v

/-- The text stands for the entries. -/
def Represents (io : HitlIo ω) (text : Str) (entries : List Json) : Prop :=
  ∃ queue, text = queueText queue ∧ List.Forall₂ (LineOf io) queue entries

/-- The first entry with an id. -/
def lookup (entries : List Json) (id : Str) : Option Json :=
  entries.find? fun e ↦ entryId e = some id

theorem represents_nil : Represents io [] [] := ⟨[], rfl, .nil⟩

/-- The lines of a text that stands for entries. -/
theorem Represents.lines {text : Str} {entries : List Json} (h : Represents io text entries) :
    List.Forall₂ (LineOf io) (lines text) entries := by
  obtain ⟨queue, rfl, hqueue⟩ := h
  have hclean : ∀ line ∈ queue, CleanLine line := by
    induction hqueue with
    | nil => simp
    | cons hline _ ih =>
      intro l hl
      rcases List.mem_cons.mp hl with rfl | hl
      · exact hline.1
      · exact ih l hl
  rw [lines_queueText hclean]
  exact hqueue

/-- An appended line adds its entry. -/
theorem Represents.append {text line : Str} {entries : List Json} {entry : Json}
    (h : Represents io text entries) (hline : LineOf io line entry) :
    Represents io (text ++ (line ++ "\n")) (entries ++ [entry]) := by
  obtain ⟨queue, rfl, hqueue⟩ := h
  exact ⟨queue ++ [line], (queueText_append queue line).symm,
    List.rel_append hqueue (.cons hline .nil)⟩

/-- A lookup in the file finds the first entry with the id. -/
theorem findEntry_of_lookup {id : Str} {queue : List Str} {entries : List Json} {entry : Json}
    (h : List.Forall₂ (LineOf io) queue entries) (hfind : lookup entries id = some entry) :
    findEntry io id queue = .ok entry := by
  induction h with
  | nil => exact absurd hfind (by simp [lookup])
  | @cons line e queue entries hline _ ih =>
    obtain ⟨⟨-, -, hne⟩, hparse⟩ := hline
    simp only [findEntry, hne, hparse]
    by_cases hid : entryId e = some id
    · simp only [lookup, List.find?_cons, hid, decide_true] at hfind
      simpa [hid] using hfind
    · simp only [lookup, List.find?_cons, hid, decide_false] at hfind
      simpa [hid] using ih hfind

/-- A lookup fails exactly when no entry has the id. -/
theorem lookup_eq_none {entries : List Json} {id : Str} :
    lookup entries id = none ↔ some id ∉ entries.map entryId := by
  simp [lookup, List.find?_eq_none]

/-- An entry is found under an id of its own. -/
theorem lookup_of_nodup {entries : List Json} (h : (entries.map entryId).Nodup) {e : Json}
    {id : Str} (he : e ∈ entries) (hid : entryId e = some id) : lookup entries id = some e := by
  induction entries with
  | nil => exact absurd he (by simp)
  | cons first rest ih =>
    rw [List.map_cons, List.nodup_cons] at h
    rcases List.mem_cons.mp he with rfl | he
    · simp [lookup, hid]
    · have hne : entryId first ≠ some id := by
        intro hfirst
        apply h.1
        rw [hfirst, ← hid]
        exact List.mem_map_of_mem he
      have hrest := ih h.2 he
      simpa [lookup, hne] using hrest

/-- A lookup after an entry was added. -/
theorem lookup_append (entries : List Json) (entry : Json) (id : Str) :
    lookup (entries ++ [entry]) id =
      (lookup entries id).or (if entryId entry = some id then some entry else none) := by
  unfold lookup
  rw [List.find?_append]
  congr 1
  by_cases hid : entryId entry = some id <;> simp [hid]

/-- The first entry with an id is marked solved. -/
inductive Marks (id : Str) : List Json → List Json → Prop
  | here {e : Json} {rest : List Json} (hid : entryId e = some id) (solvedAt host : Str)
      (count : ℕ) : Marks id (e :: rest) (solvedEntry e solvedAt host count :: rest)
  | there {e : Json} {rest rest' : List Json} (hid : entryId e ≠ some id)
      (hrest : Marks id rest rest') : Marks id (e :: rest) (e :: rest')

/-- A solve sets four members of an object and leaves the others. -/
theorem get?_solvedEntry (e : Json) (solvedAt host : Str) (count : ℕ) {key : Str}
    (hstatus : ("status" : Str) ≠ key) (hsolvedAt : ("solved_at" : Str) ≠ key)
    (hstored : ("cookies_stored" : Str) ≠ key) (hhost : ("host" : Str) ≠ key) :
    (solvedEntry e solvedAt host count).get? key = e.get? key := by
  cases e with
  | obj members =>
    unfold solvedEntry
    rw [Json.get?_insert, if_neg hhost, Json.get?_insert, if_neg hstored, Json.get?_insert,
      if_neg hsolvedAt, Json.get?_insert, if_neg hstatus]
  | _ => rfl

/-- An entry keeps its id when it is marked. -/
theorem entryId_solvedEntry (e : Json) (solvedAt host : Str) (count : ℕ) :
    entryId (solvedEntry e solvedAt host count) = entryId e := by
  unfold entryId
  rw [get?_solvedEntry e solvedAt host count (by decide) (by decide) (by decide) (by decide)]

/-- A marked entry says that it is solved. -/
theorem status_solvedEntry {e : Json} {id : Str} (hid : entryId e = some id) (solvedAt host : Str)
    (count : ℕ) :
    (solvedEntry e solvedAt host count).get? "status" = some (.str "solved") := by
  have hhost : ("host" : Str) ≠ "status" := by decide
  have hstored : ("cookies_stored" : Str) ≠ "status" := by decide
  have hsolvedAt : ("solved_at" : Str) ≠ "status" := by decide
  cases e with
  | obj members =>
    unfold solvedEntry
    rw [Json.get?_insert, if_neg hhost, Json.get?_insert, if_neg hstored, Json.get?_insert,
      if_neg hsolvedAt, Json.get?_insert, if_pos rfl]
  | _ => exact absurd hid (by simp [entryId, Json.get?])

/-- Marking an entry leaves the lookups of the other ids alone. -/
theorem Marks.lookup_ne {id id' : Str} {entries entries' : List Json}
    (h : Marks id entries entries') (hne : id' ≠ id) :
    lookup entries' id' = lookup entries id' := by
  induction h with
  | here hid solvedAt host count =>
    have hother : some id ≠ some id' := fun h ↦ hne (Option.some.inj h).symm
    simp [lookup, entryId_solvedEntry, hid, hother]
  | there hid _ ih =>
    simp only [lookup, List.find?_cons] at ih ⊢
    rw [ih]

/-- A marked entry is found under its id, solved. -/
theorem Marks.lookup_self {id : Str} {entries entries' : List Json}
    (h : Marks id entries entries') :
    ∃ e, lookup entries' id = some e ∧ e.get? "status" = some (.str "solved") := by
  induction h with
  | here hid solvedAt host count =>
    refine ⟨_, ?_, status_solvedEntry hid solvedAt host count⟩
    simp [lookup, entryId_solvedEntry, hid]
  | there hid _ ih =>
    obtain ⟨e, he, hstatus⟩ := ih
    exact ⟨e, by simpa [lookup, List.find?_cons, hid] using he, hstatus⟩

/-- Marking an entry keeps the ids. -/
theorem Marks.map_entryId {id : Str} {entries entries' : List Json}
    (h : Marks id entries entries') : entries'.map entryId = entries.map entryId := by
  induction h with
  | here hid solvedAt host count => simp [entryId_solvedEntry]
  | there hid _ ih => simp [ih]

section Walk

variable {persistencePath : Option Str} {id : Str} {cookies : List HitlCookie}
  {walk walk' : SolveWalk ω}

/-- The walk continues behind a line that is kept. -/
theorem solveLines_keep {line : Str} {entry : Json} (hline : LineOf io line entry)
    (hother : walk.found = true ∨ entryId entry ≠ some id) (queue : List Str) :
    solveLines io persistencePath id cookies (line :: queue) walk =
      solveLines io persistencePath id cookies queue
        { walk with outLines := walk.outLines ++ [line] } := by
  obtain ⟨⟨-, -, hne⟩, hparse⟩ := hline
  have hskip : ¬ ((!walk.found) = true ∧ (entry.get? "id").bind Json.asStr = some id) := by
    rintro ⟨hfound, hid⟩
    rcases hother with h | h
    · simp [h] at hfound
    · exact h hid
  rw [solveLines, if_neg (by simp [hne])]
  simp only [hparse]
  rw [if_neg (by simpa using hskip)]

/-- The walk matches the first line with the id. -/
theorem solveLines_match {line : Str} {entry : Json} (hline : LineOf io line entry)
    (hstart : walk.found = false) (hid : entryId entry = some id) (queue : List Str) :
    solveLines io persistencePath id cookies (line :: queue) walk =
      match solveMatched io persistencePath cookies entry walk with
      | (.error error, walk) => (.error error, walk)
      | (.ok (), walk) => solveLines io persistencePath id cookies queue walk := by
  obtain ⟨⟨-, -, hne⟩, hparse⟩ := hline
  have hmatch : (!walk.found && decide ((entry.get? "id").bind Json.asStr = some id)) = true := by
    rw [hstart]
    exact decide_eq_true hid
  rw [solveLines, if_neg (by simp [hne])]
  simp only [hparse]
  exact if_pos hmatch

/-- Behind the match every line is kept. -/
theorem solveLines_keepAll {queue : List Str} {entries : List Json}
    (h : List.Forall₂ (LineOf io) queue entries) (hfound : walk.found = true) :
    solveLines io persistencePath id cookies queue walk =
      (.ok (), { walk with outLines := walk.outLines ++ queue }) := by
  induction h generalizing walk with
  | nil => simp [solveLines]
  | @cons line e queue entries hline _ ih =>
    have hkept : ({ walk with outLines := walk.outLines ++ [line] } : SolveWalk ω).found = true :=
      hfound
    rw [solveLines_keep hline (.inl hfound), ih hkept]
    simp

/-- A match that succeeds adds the line of the marked entry. -/
theorem solveMatched_outLines {entry : Json}
    (h : solveMatched io persistencePath cookies entry walk = (.ok (), walk')) :
    ∃ solvedAt host line,
      io.printJson (solvedEntry entry solvedAt host cookies.length) = .ok line ∧
      walk'.outLines = walk.outLines ++ [line] ∧ walk'.found = true := by
  unfold solveMatched at h
  split at h
  · exact absurd h (by simp)
  · next host _ =>
    dsimp only at h
    split at h
    · exact absurd h (by simp)
    · next line hline =>
      obtain rfl := (Prod.mk.inj h).2
      exact ⟨_, host, line, hline, rfl, rfl⟩

/-- A walk that finds its entry puts out the lines of the queue with that entry marked. -/
theorem solveLines_marks (hlines : JsonLines io) {queue : List Str} {entries : List Json}
    (h : List.Forall₂ (LineOf io) queue entries) (hstart : walk.found = false)
    (hsolve : solveLines io persistencePath id cookies queue walk = (.ok (), walk'))
    (hfound : walk'.found = true) :
    ∃ queue' entries', walk'.outLines = walk.outLines ++ queue' ∧
      List.Forall₂ (LineOf io) queue' entries' ∧ Marks id entries entries' := by
  induction h generalizing walk with
  | nil =>
    obtain rfl := (Prod.mk.inj hsolve).2
    exact absurd hfound (by simp [hstart])
  | @cons line e queue entries hline hrest ih =>
    by_cases hid : entryId e = some id
    · rw [solveLines_match hline hstart hid] at hsolve
      split at hsolve
      · exact absurd hsolve (by simp)
      · next marked hmarked =>
        obtain ⟨solvedAt, host, newLine, hprint, hout, hset⟩ := solveMatched_outLines hmarked
        rw [solveLines_keepAll hrest hset] at hsolve
        obtain rfl := (Prod.mk.inj hsolve).2
        refine ⟨newLine :: queue, _, ?_, .cons (hlines _ _ hprint) hrest,
          .here hid solvedAt host cookies.length⟩
        simp [hout]
    · rw [solveLines_keep hline (.inr hid)] at hsolve
      have hkept :
          ({ walk with outLines := walk.outLines ++ [line] } : SolveWalk ω).found = false := hstart
      obtain ⟨queue', entries', hout, hqueue', hmarks⟩ := ih hkept hsolve
      refine ⟨line :: queue', e :: entries', ?_, .cons hline hqueue', .there hid hmarks⟩
      simp [hout]

end Walk

/-- The text that a solve writes in place of the one it has read. -/
def rewrittenQueue (io : HitlIo ω) (persistencePath : Option Str) (id : Str)
    (cookies : List HitlCookie) (jar : CookieJar) (w : ω) (content : Str) : Option Str :=
  match solveLines io persistencePath id cookies (lines content)
      ⟨false, none, none, [], jar, w⟩ with
  | (.error _, _) => none
  | (.ok (), walk) => if walk.found then some (join "\n" walk.outLines ++ "\n") else none

/-- A text that stands for entries is rewritten to one in which the first entry with the id is
marked. -/
theorem rewrittenQueue_marks (hlines : JsonLines io) {persistencePath : Option Str} {id : Str}
    {cookies : List HitlCookie} {jar : CookieJar} {w : ω} {content newContent : Str}
    {entries : List Json}
    (h : rewrittenQueue io persistencePath id cookies jar w content = some newContent)
    (hcontent : Represents io content entries) :
    ∃ entries', Represents io newContent entries' ∧ Marks id entries entries' := by
  unfold rewrittenQueue at h
  split at h
  · exact absurd h (by simp)
  · next walk hsolve =>
    split at h
    · next hfound =>
      obtain rfl := Option.some.inj h
      obtain ⟨queue', entries', hout, hqueue', hmarks⟩ :=
        solveLines_marks hlines hcontent.lines rfl hsolve hfound
      rw [List.nil_append] at hout
      have hne : queue' ≠ [] := by
        rintro rfl
        cases hqueue'
        cases hmarks
      exact ⟨entries', ⟨queue', by rw [hout, join_eq_queueText hne], hqueue'⟩, hmarks⟩
    · exact absurd h (by simp)

end CrwShield.Server
