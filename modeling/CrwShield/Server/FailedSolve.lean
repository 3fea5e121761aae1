import CrwShield.Server.HitlSolve

/-!
# What a failed solve leaves

Crate `server`, `src/crates/server/src/handlers.rs:232–366`: the cookies of a solve are stored,
saved and stamped inside the walk over the queue, and the walk, the write and the rename can still
fail after that.
-/

open CrwShield.Base CrwShield.Base.Str CrwShield.Antibot

namespace CrwShield.Server

universe u

section FailedSolve

variable {ω : Type u} (io : HitlIo ω) (persistencePath : Option Str) (id : Str)
  (cookies : List HitlCookie)

/-- Whether a line is walked over. -/
def blankLine (line : Str) : Bool := (trim line).isEmpty

/-- The lines kept before the first entry with an id, that entry, and the lines after it, when the
lines before it parse. -/
def findMatch : List Str → Option (List Str × Json × List Str)
  | [] => none
  | line :: rest =>
    if blankLine line then findMatch rest
    else
      match io.parseJson line with
      | .error _ => none
      | .ok entry =>
        if entryId entry = some id then some ([], entry, rest)
        else (findMatch rest).map fun found ↦ (line :: found.1, found.2)

/-- A solve that gets to store its cookies: the lines before its entry, the entry, the lines after
it, and the host. -/
structure Injection where
  kept : List Str
  entry : Json
  rest : List Str
  host : Str

/-- The injection of a solve, unless it is refused before. -/
def injection (w : ω) : Option Injection :=
  if cookies.isEmpty then none
  else
    (io.readToString (hitlQueuePath io.queuePathVar) w).toOption.bind fun content ↦
      (findMatch io id (lines content)).bind fun found ↦
        (resolvedHost cookies (entryHost found.2.1)).map fun host ↦
          ⟨found.1, found.2.1, found.2.2, host⟩

namespace Injection

variable (inj : Injection)

/-- The world once the jar has been saved. -/
def saved (jar : CookieJar) (w : ω) : ω :=
  (persistencePath.map fun path ↦
    (io.saveJar path (injectCookies (io.now w) inj.host cookies jar).snapshot w).2).getD w

/-- The entry that is put in place of the matched one. -/
def newEntry (jar : CookieJar) (w : ω) : Json :=
  solvedEntry inj.entry (io.nowRfc3339 (inj.saved io persistencePath cookies jar w)) inj.host
    cookies.length

/-- The text put in place of the queue, with the new line of the entry. -/
def newText (line : Str) : Str :=
  join "\n" (inj.kept ++ line :: inj.rest.filter fun l ↦ !blankLine l) ++ "\n"

/-- A step after the injection fails, and leaves this world. -/
inductive Fails (jar : CookieJar) (w : ω) : ω → Prop
  | serialize {e : Str}
      (hprint : io.printJson (inj.newEntry io persistencePath cookies jar w) = .error e) :
      Fails jar w (inj.saved io persistencePath cookies jar w)
  | parse {line l e : Str}
      (hprint : io.printJson (inj.newEntry io persistencePath cookies jar w) = .ok line)
      (hl : l ∈ inj.rest) (hblank : blankLine l = false) (hparse : io.parseJson l = .error e) :
      Fails jar w (inj.saved io persistencePath cookies jar w)
  | write {line e : Str} {w' : ω}
      (hprint : io.printJson (inj.newEntry io persistencePath cookies jar w) = .ok line)
      (hrest : ∀ l ∈ inj.rest, blankLine l = false → ∃ v, io.parseJson l = .ok v)
      (hwrite : io.write (withExtension "json.tmp" (hitlQueuePath io.queuePathVar))
        (inj.newText line) (inj.saved io persistencePath cookies jar w) = (.error e, w')) :
      Fails jar w w'
  | rename {line e : Str} {w' w'' : ω}
      (hprint : io.printJson (inj.newEntry io persistencePath cookies jar w) = .ok line)
      (hrest : ∀ l ∈ inj.rest, blankLine l = false → ∃ v, io.parseJson l = .ok v)
      (hwrite : io.write (withExtension "json.tmp" (hitlQueuePath io.queuePathVar))
        (inj.newText line) (inj.saved io persistencePath cookies jar w) = (.ok (), w'))
      (hrename : io.rename (withExtension "json.tmp" (hitlQueuePath io.queuePathVar))
        (hitlQueuePath io.queuePathVar) w' = (.error e, w'')) : Fails jar w w''

end Injection

variable {io persistencePath id cookies}

section Lines

variable {line : Str} {rest : List Str} {entry : Json} {walk : SolveWalk ω}

theorem solveLines_blank (hblank : blankLine line = true) :
    solveLines io persistencePath id cookies (line :: rest) walk =
      solveLines io persistencePath id cookies rest walk := by
  rw [solveLines]
  exact if_pos hblank

theorem solveLines_bad {e : Str} (hblank : blankLine line = false)
    (hparse : io.parseJson line = .error e) :
    solveLines io persistencePath id cookies (line :: rest) walk =
      (.error (solveError 500 ("parse queue entry: " ++ e)), walk) := by
  have hline : ¬ (trim line).isEmpty = true := by simpa [blankLine] using hblank
  rw [solveLines, if_neg hline, hparse]

theorem solveLines_other (hblank : blankLine line = false) (hparse : io.parseJson line = .ok entry)
    (hother : walk.found = true ∨ entryId entry ≠ some id) :
    solveLines io persistencePath id cookies (line :: rest) walk =
      solveLines io persistencePath id cookies rest
        { walk with outLines := walk.outLines ++ [line] } := by
  have hline : ¬ (trim line).isEmpty = true := by simpa [blankLine] using hblank
  have hskip : ¬ (!walk.found && decide ((entry.get? "id").bind Json.asStr = some id)) = true := by
    rcases hother with hfound | hid
    · simp [hfound]
    · simp only [Bool.and_eq_true, decide_eq_true_eq]
      exact fun h ↦ hid h.2
  rw [solveLines, if_neg hline, hparse]
  exact if_neg hskip

theorem solveLines_hit (hblank : blankLine line = false) (hparse : io.parseJson line = .ok entry)
    (hf : walk.found = false) (hid : entryId entry = some id) :
    solveLines io persistencePath id cookies (line :: rest) walk =
      match solveMatched io persistencePath cookies entry walk with
      | (.error e, walk) => (.error e, walk)
      | (.ok (), walk) => solveLines io persistencePath id cookies rest walk := by
  have hline : ¬ (trim line).isEmpty = true := by simpa [blankLine] using hblank
  have hmatch : (!walk.found && decide ((entry.get? "id").bind Json.asStr = some id)) = true := by
    rw [hf]
    exact decide_eq_true hid
  rw [solveLines, if_neg hline, hparse]
  exact if_pos hmatch

end Lines

/-- A walk without a match changes nothing, whether it fails or not. -/
theorem solveLines_of_findMatch_none {queue : List Str} {walk : SolveWalk ω}
    (hf : walk.found = false) (hmatch : findMatch io id queue = none) :
    ∃ r out, solveLines io persistencePath id cookies queue walk =
      (r, { walk with outLines := out }) := by
  induction queue generalizing walk with
  | nil => exact ⟨.ok (), walk.outLines, rfl⟩
  | cons line rest ih =>
    unfold findMatch at hmatch
    cases hblank : blankLine line with
    | true =>
      rw [if_pos hblank] at hmatch
      rw [solveLines_blank hblank]
      exact ih hf hmatch
    | false =>
      rw [if_neg (by simp [hblank])] at hmatch
      cases hparse : io.parseJson line with
      | error e => exact ⟨_, walk.outLines, solveLines_bad hblank hparse⟩
      | ok entry =>
        simp only [hparse] at hmatch
        by_cases hid : entryId entry = some id
        · rw [if_pos hid] at hmatch
          exact absurd hmatch (by simp)
        · rw [if_neg hid, Option.map_eq_none_iff] at hmatch
          rw [solveLines_other hblank hparse (.inr hid)]
          have hkept : ({ walk with outLines := walk.outLines ++ [line] } : SolveWalk ω).found =
            false := hf
          exact ih hkept hmatch

/-- A walk comes to its match with the lines before it kept. -/
theorem solveLines_of_findMatch {queue kept rest : List Str} {entry : Json} {walk : SolveWalk ω}
    (hf : walk.found = false) (hmatch : findMatch io id queue = some (kept, entry, rest)) :
    solveLines io persistencePath id cookies queue walk =
      match solveMatched io persistencePath cookies entry
          { walk with outLines := walk.outLines ++ kept } with
      | (.error e, walk) => (.error e, walk)
      | (.ok (), walk) => solveLines io persistencePath id cookies rest walk := by
  induction queue generalizing walk kept with
  | nil => exact absurd hmatch (by simp [findMatch])
  | cons line queue ih =>
    unfold findMatch at hmatch
    cases hblank : blankLine line with
    | true =>
      rw [if_pos hblank] at hmatch
      rw [solveLines_blank hblank]
      exact ih hf hmatch
    | false =>
      rw [if_neg (by simp [hblank])] at hmatch
      cases hparse : io.parseJson line with
      | error e => exact absurd hmatch (by simp [hparse])
      | ok found =>
        simp only [hparse] at hmatch
        by_cases hid : entryId found = some id
        · rw [if_pos hid] at hmatch
          obtain ⟨rfl, rfl, rfl⟩ : [] = kept ∧ found = entry ∧ queue = rest := by
            simpa using hmatch
          rw [solveLines_hit hblank hparse hf hid, List.append_nil]
        · rw [if_neg hid] at hmatch
          obtain ⟨⟨kept', entry', rest'⟩, hfound, heq⟩ := Option.map_eq_some_iff.mp hmatch
          obtain ⟨rfl, rfl, rfl⟩ : line :: kept' = kept ∧ entry' = entry ∧ rest' = rest := by
            simpa using heq
          have hkept : ({ walk with outLines := walk.outLines ++ [line] } : SolveWalk ω).found =
            false := hf
          rw [solveLines_other hblank hparse (.inr hid), ih hkept hfound]
          simp only [List.append_assoc, List.singleton_append]

/-- The walk after the match fails on a line that does not parse, or keeps the lines. -/
theorem solveLines_rest {queue : List Str} {walk : SolveWalk ω} (hf : walk.found = true) :
    ((∃ l ∈ queue, blankLine l = false ∧ ∃ e, io.parseJson l = .error e) ∧
      ∃ e out, solveLines io persistencePath id cookies queue walk =
        (.error e, { walk with outLines := out })) ∨
    ((∀ l ∈ queue, blankLine l = false → ∃ v, io.parseJson l = .ok v) ∧
      solveLines io persistencePath id cookies queue walk =
        (.ok (), { walk with outLines :=
          walk.outLines ++ queue.filter fun l ↦ !blankLine l })) := by
  induction queue generalizing walk with
  | nil => exact .inr ⟨by simp, by simp [solveLines]⟩
  | cons line rest ih =>
    cases hblank : blankLine line with
    | true =>
      rw [solveLines_blank hblank]
      rcases ih hf with ⟨⟨l, hl, hbad⟩, hwalk⟩ | ⟨hall, hwalk⟩
      · exact .inl ⟨⟨l, List.mem_cons_of_mem line hl, hbad⟩, hwalk⟩
      · refine .inr ⟨List.forall_mem_cons.mpr ⟨fun h ↦ absurd hblank (by simp [h]), hall⟩, ?_⟩
        rw [hwalk, List.filter_cons_of_neg (by simp [hblank])]
    | false =>
      cases hparse : io.parseJson line with
      | error e =>
        exact .inl ⟨⟨line, List.mem_cons_self, hblank, e, hparse⟩, _, walk.outLines,
          solveLines_bad hblank hparse⟩
      | ok entry =>
        rw [solveLines_other hblank hparse (.inl hf)]
        have hkept : ({ walk with outLines := walk.outLines ++ [line] } : SolveWalk ω).found =
          true := hf
        rcases ih hkept with ⟨⟨l, hl, hbad⟩, e, out, hwalk⟩ | ⟨hall, hwalk⟩
        · exact .inl ⟨⟨l, List.mem_cons_of_mem line hl, hbad⟩, e, out, hwalk⟩
        · refine .inr ⟨List.forall_mem_cons.mpr ⟨fun _ ↦ ⟨entry, hparse⟩, hall⟩, ?_⟩
          rw [hwalk, List.filter_cons_of_pos (by simp [hblank])]
          simp only [List.append_assoc, List.singleton_append]

variable (persistencePath) (jar : CookieJar) {w : ω}

/-- A solve that does not get to store its cookies changes nothing. -/
theorem handleHitlSolve_refused (h : injection io id cookies w = none) :
    ∃ e, handleHitlSolve io persistencePath id ⟨cookies⟩ jar w = (.error e, jar, w) := by
  unfold injection at h
  unfold handleHitlSolve
  by_cases hcookies : cookies.isEmpty = true
  · rw [if_pos hcookies]
    exact ⟨_, rfl⟩
  · rw [if_neg hcookies] at h ⊢
    dsimp only
    cases hread : io.readToString (hitlQueuePath io.queuePathVar) w with
    | error e => exact ⟨_, rfl⟩
    | ok content =>
      simp only [hread, Except.toOption, Option.bind_some] at h
      dsimp only
      cases hmatch : findMatch io id (lines content) with
      | none =>
        obtain ⟨r, out, hwalk⟩ := @solveLines_of_findMatch_none _ io persistencePath id cookies _
          ⟨false, none, none, [], jar, w⟩ rfl hmatch
        rw [hwalk]
        cases r with
        | error e => exact ⟨e, rfl⟩
        | ok u => exact ⟨_, rfl⟩
      | some found =>
        obtain ⟨kept, entry, rest⟩ := found
        rw [hmatch, Option.bind_some, Option.map_eq_none_iff] at h
        rw [solveLines_of_findMatch rfl hmatch]
        have hhost : resolvedHost cookies (((entry.get? "url").bind Json.asStr).bind urlHostStr) =
          none := h
        simp only [solveMatched, hhost]
        exact ⟨_, rfl⟩

/-- The match itself: the jar and the world it leaves, and the line it adds unless the entry cannot
be printed. -/
theorem solveMatched_injected {inj : Injection} {out : List Str}
    (hhost : resolvedHost cookies (entryHost inj.entry) = some inj.host) :
    let walk : SolveWalk ω :=
      ⟨true, some inj.host, some (inj.newEntry io persistencePath cookies jar w), out,
        solveJar (io.now w) inj.host cookies jar, inj.saved io persistencePath cookies jar w⟩
    solveMatched io persistencePath cookies inj.entry ⟨false, none, none, out, jar, w⟩ =
      match io.printJson (inj.newEntry io persistencePath cookies jar w) with
      | .error e => (.error (solveError 500 ("serialize entry: " ++ e)), walk)
      | .ok line => (.ok (), { walk with outLines := out ++ [line] }) := by
  have hhost' : resolvedHost cookies (((inj.entry.get? "url").bind Json.asStr).bind urlHostStr) =
    some inj.host := hhost
  simp only [solveMatched, hhost']
  rfl

/-- A solve that stores its cookies has walked to its entry. -/
theorem solveLines_injected {inj : Injection} (h : injection io id cookies w = some inj) :
    ∃ content, cookies.isEmpty = false ∧
      io.readToString (hitlQueuePath io.queuePathVar) w = .ok content ∧
      solveLines io persistencePath id cookies (lines content) ⟨false, none, none, [], jar, w⟩ =
        match solveMatched io persistencePath cookies inj.entry
            ⟨false, none, none, inj.kept, jar, w⟩ with
        | (.error e, walk) => (.error e, walk)
        | (.ok (), walk) => solveLines io persistencePath id cookies inj.rest walk := by
  unfold injection at h
  split at h
  · exact absurd h (by simp)
  · next hcookies =>
    obtain ⟨content, hread, h⟩ := Option.bind_eq_some_iff.mp h
    obtain ⟨⟨kept, entry, rest⟩, hmatch, h⟩ := Option.bind_eq_some_iff.mp h
    obtain ⟨host, hhost, rfl⟩ := Option.map_eq_some_iff.mp h
    refine ⟨content, by simpa using hcookies, ?_, ?_⟩
    · cases hr : io.readToString (hitlQueuePath io.queuePathVar) w with
      | error e => exact absurd hread (by simp [hr, Except.toOption])
      | ok c =>
        rw [hr] at hread
        rw [Option.some.inj hread]
    · have hf : (⟨false, none, none, [], jar, w⟩ : SolveWalk ω).found = false := rfl
      exact solveLines_of_findMatch hf hmatch

/-- The host of an injection is the one its entry resolves to. -/
theorem resolvedHost_injected {inj : Injection} (h : injection io id cookies w = some inj) :
    resolvedHost cookies (entryHost inj.entry) = some inj.host := by
  unfold injection at h
  split at h
  · exact absurd h (by simp)
  · obtain ⟨content, -, h⟩ := Option.bind_eq_some_iff.mp h
    obtain ⟨found, -, h⟩ := Option.bind_eq_some_iff.mp h
    obtain ⟨host, hhost, rfl⟩ := Option.map_eq_some_iff.mp h
    exact hhost

/-- The walk of a solve that stores its cookies ends with a failed print, on a later line that does
not parse, or with the lines of the new text. -/
theorem solveLines_injected_cases {inj : Injection} (h : injection io id cookies w = some inj) :
    ∃ content, cookies.isEmpty = false ∧
      io.readToString (hitlQueuePath io.queuePathVar) w = .ok content ∧
      ∃ r walk, solveLines io persistencePath id cookies (lines content)
          ⟨false, none, none, [], jar, w⟩ = (r, walk) ∧
        walk.found = true ∧ walk.jar = solveJar (io.now w) inj.host cookies jar ∧
        walk.world = inj.saved io persistencePath cookies jar w ∧
        (((∃ e, r = .error e) ∧
            ((∃ e, io.printJson (inj.newEntry io persistencePath cookies jar w) = .error e) ∨
              ∃ line, io.printJson (inj.newEntry io persistencePath cookies jar w) = .ok line ∧
                ∃ l ∈ inj.rest, blankLine l = false ∧ ∃ e, io.parseJson l = .error e)) ∨
          (r = .ok () ∧ ∃ line,
            io.printJson (inj.newEntry io persistencePath cookies jar w) = .ok line ∧
            (∀ l ∈ inj.rest, blankLine l = false → ∃ v, io.parseJson l = .ok v) ∧
            join "\n" walk.outLines ++ "\n" = inj.newText line)) := by
  obtain ⟨content, hcookies, hread, hwalk⟩ := solveLines_injected persistencePath jar h
  refine ⟨content, hcookies, hread, ?_⟩
  have hmatched := @solveMatched_injected _ io persistencePath cookies jar w inj inj.kept
    (resolvedHost_injected h)
  dsimp only at hmatched
  rw [hwalk, hmatched]
  cases hprint : io.printJson (inj.newEntry io persistencePath cookies jar w) with
  | error e => exact ⟨_, _, rfl, rfl, rfl, rfl, .inl ⟨⟨_, rfl⟩, .inl ⟨e, rfl⟩⟩⟩
  | ok line =>
    dsimp only
    have hrest := @solveLines_rest _ io persistencePath id cookies inj.rest
      ⟨true, some inj.host, some (inj.newEntry io persistencePath cookies jar w),
        inj.kept ++ [line], solveJar (io.now w) inj.host cookies jar,
        inj.saved io persistencePath cookies jar w⟩ rfl
    rcases hrest with ⟨hbad, e, out, hlines⟩ | ⟨hall, hlines⟩
    · exact ⟨_, _, hlines, rfl, rfl, rfl, .inl ⟨⟨e, rfl⟩, .inr ⟨line, rfl, hbad⟩⟩⟩
    · refine ⟨_, _, hlines, rfl, rfl, rfl, .inr ⟨rfl, line, rfl, hall, ?_⟩⟩
      simp [Injection.newText]

variable {persistencePath jar} in
/-- Where the walk succeeds, what fails later is the write or the rename. -/
theorem Injection.Fails.late {inj : Injection} {line : Str} {w'' : ω}
    (hf : inj.Fails io persistencePath cookies jar w w'')
    (hprint : io.printJson (inj.newEntry io persistencePath cookies jar w) = .ok line)
    (hrest : ∀ l ∈ inj.rest, blankLine l = false → ∃ v, io.parseJson l = .ok v) :
    (∃ e, io.write (withExtension "json.tmp" (hitlQueuePath io.queuePathVar))
      (inj.newText line) (inj.saved io persistencePath cookies jar w) = (.error e, w'')) ∨
    ∃ w' e, io.write (withExtension "json.tmp" (hitlQueuePath io.queuePathVar))
      (inj.newText line) (inj.saved io persistencePath cookies jar w) = (.ok (), w') ∧
      io.rename (withExtension "json.tmp" (hitlQueuePath io.queuePathVar))
        (hitlQueuePath io.queuePathVar) w' = (.error e, w'') := by
  cases hf with
  | serialize hp => exact absurd (hprint.symm.trans hp) (by simp)
  | parse hp hl hblank hparse =>
    obtain ⟨v, hv⟩ := hrest _ hl hblank
    exact absurd (hparse.symm.trans hv) (by simp)
  | write hp _ hw =>
    obtain rfl := Except.ok.inj (hprint.symm.trans hp)
    exact .inl ⟨_, hw⟩
  | rename hp _ hw hn =>
    obtain rfl := Except.ok.inj (hprint.symm.trans hp)
    exact .inr ⟨_, _, hw, hn⟩

/-- A solve that stores its cookies either has a later step fail, and answers with an error while
the cookies stay stored and the stamp set, or answers with success. -/
theorem handleHitlSolve_injected {inj : Injection} (h : injection io id cookies w = some inj) :
    (∃ e w', (∀ w'', inj.Fails io persistencePath cookies jar w w'' ↔ w'' = w') ∧
      handleHitlSolve io persistencePath id ⟨cookies⟩ jar w =
        (.error e, solveJar (io.now w) inj.host cookies jar, w')) ∨
    (∀ w'', ¬ inj.Fails io persistencePath cookies jar w w'') ∧
      ∃ answer jar' w', handleHitlSolve io persistencePath id ⟨cookies⟩ jar w =
        (.ok answer, jar', w') := by
  obtain ⟨content, hcookies, hread, r, walk, hwalk, hfound, hjar, hworld, hcases⟩ :=
    solveLines_injected_cases persistencePath jar h
  unfold handleHitlSolve
  simp only [hcookies, Bool.false_eq_true, if_false, hread, hwalk]
  rcases hcases with ⟨⟨e, rfl⟩, hfailed⟩ | ⟨rfl, line, hprint, hrest, htext⟩
  · -- the walk itself has failed
    refine .inl ⟨e, walk.world, fun w'' ↦ ?_, Prod.ext rfl (Prod.ext hjar rfl)⟩
    rw [hworld]
    rcases hfailed with ⟨e, hprint⟩ | ⟨line, hprint, l, hl, hblank, e, hparse⟩
    · refine ⟨fun hf ↦ ?_, fun heq ↦ heq ▸ .serialize hprint⟩
      cases hf with
      | serialize _ | parse _ _ _ _ => rfl
      | write hp _ _ | rename hp _ _ _ => exact absurd (hprint.symm.trans hp) (by simp)
    · refine ⟨fun hf ↦ ?_, fun heq ↦ heq ▸ .parse hprint hl hblank hparse⟩
      cases hf with
      | serialize _ | parse _ _ _ _ => rfl
      | write _ hr _ | rename _ hr _ _ =>
        obtain ⟨v, hv⟩ := hr l hl hblank
        exact absurd (hparse.symm.trans hv) (by simp)
  · simp only [hfound, Bool.not_true, Bool.false_eq_true, if_false, htext, hworld]
    -- the walk has not failed, and the text to write is known
    have hlate := fun w'' (hf : inj.Fails io persistencePath cookies jar w w'') ↦
      hf.late hprint hrest
    cases hwrite : io.write (withExtension "json.tmp" (hitlQueuePath io.queuePathVar))
        (inj.newText line) (inj.saved io persistencePath cookies jar w) with
    | mk answer w₁ =>
      rw [hwrite] at hlate
      cases answer with
      | error e =>
        refine .inl ⟨_, w₁, fun w'' ↦ ⟨fun hf ↦ ?_, fun heq ↦ heq ▸ .write hprint hrest hwrite⟩,
          Prod.ext rfl (Prod.ext hjar rfl)⟩
        rcases hlate w'' hf with ⟨e', he⟩ | ⟨w', e', he, -⟩
        · exact (Prod.mk.inj he).2.symm
        · exact absurd (Prod.mk.inj he).1 (by simp)
      | ok u =>
        dsimp only
        cases hrename : io.rename (withExtension "json.tmp" (hitlQueuePath io.queuePathVar))
            (hitlQueuePath io.queuePathVar) w₁ with
        | mk answer w₂ =>
          have hrenamed : ∀ w'', inj.Fails io persistencePath cookies jar w w'' →
              ∃ e, (answer, w₂) = (.error e, w'') := by
            intro w'' hf
            rcases hlate w'' hf with ⟨e', he⟩ | ⟨w', e', he, hn⟩
            · exact absurd (Prod.mk.inj he).1 (by simp)
            · rw [← (Prod.mk.inj he).2, hrename] at hn
              exact ⟨e', hn⟩
          cases answer with
          | error e =>
            refine .inl ⟨_, w₂, fun w'' ↦ ⟨fun hf ↦ ?_,
              fun heq ↦ heq ▸ .rename hprint hrest hwrite hrename⟩,
              Prod.ext rfl (Prod.ext hjar rfl)⟩
            obtain ⟨e', he⟩ := hrenamed w'' hf
            exact (Prod.mk.inj he).2.symm
          | ok u =>
            refine .inr ⟨fun w'' hf ↦ ?_, _, _, _, rfl⟩
            obtain ⟨e', he⟩ := hrenamed w'' hf
            exact absurd (Prod.mk.inj he).1 (by simp)

/-- The jar with its stamps, the queue file and the cookie file are what they were. -/
def LeftAlone (io : HitlIo ω) (persistencePath : Option Str) (jar : CookieJar) (w : ω)
    (jar' : CookieJar) (w' : ω) : Prop :=
  jar' = jar ∧
    io.readToString (hitlQueuePath io.queuePathVar) w' =
      io.readToString (hitlQueuePath io.queuePathVar) w ∧
    ∀ path ∈ persistencePath, io.readToString path w' = io.readToString path w

/-- No step of a solve fails once its cookies are stored. -/
def NoLateFailure (io : HitlIo ω) (persistencePath : Option Str) (id : Str)
    (cookies : List HitlCookie) (jar : CookieJar) (w : ω) : Prop :=
  ∀ inj, injection io id cookies w = some inj →
    ∀ w', ¬ inj.Fails io persistencePath cookies jar w w'

/-- The stamp of a solve is new when its host was not stamped at this time before. -/
theorem solveJar_ne {now : Option Nat} {host : Str}
    (h : jar.lastHitlSolvedUnix[normalizeHost host]? ≠ some (now.getD 0)) :
    solveJar now host cookies jar ≠ jar := by
  intro heq
  rw [← heq] at h
  exact h Std.ExtTreeMap.getElem?_insert_self

/-- A failed solve leaves everything alone when no step fails once its cookies are stored. Unless
the host was already stamped in this very second, it leaves everything alone only then. -/
theorem failed_solve_leftAlone (io : HitlIo ω) (persistencePath : Option Str) (id : Str)
    (cookies : List HitlCookie) (jar : CookieJar) (w : ω) :
    let leftAlone := ∀ e jar' w',
      handleHitlSolve io persistencePath id ⟨cookies⟩ jar w = (.error e, jar', w') →
        LeftAlone io persistencePath jar w jar' w'
    (NoLateFailure io persistencePath id cookies jar w → leftAlone) ∧
      ((∀ inj, injection io id cookies w = some inj →
          jar.lastHitlSolvedUnix[normalizeHost inj.host]? ≠ some ((io.now w).getD 0)) →
        (leftAlone ↔ NoLateFailure io persistencePath id cookies jar w)) := by
  intro leftAlone
  cases hinj : injection io id cookies w with
  | none =>
    obtain ⟨e, hrefused⟩ := handleHitlSolve_refused persistencePath jar hinj
    have hall : leftAlone := by
      intro e' jar' w' h
      rw [hrefused] at h
      simp only [Prod.mk.injEq] at h
      obtain ⟨-, rfl, rfl⟩ := h
      exact ⟨rfl, rfl, fun _ _ ↦ rfl⟩
    refine ⟨fun _ ↦ hall, fun _ ↦ ⟨fun _ inj h ↦ ?_, fun _ ↦ hall⟩⟩
    exact absurd (hinj.symm.trans h) (by simp)
  | some inj =>
    have hlate : NoLateFailure io persistencePath id cookies jar w ↔
        ∀ w', ¬ inj.Fails io persistencePath cookies jar w w' := by
      unfold NoLateFailure
      simp only [hinj, Option.some.injEq, forall_eq']
    rw [hlate]
    rcases handleHitlSolve_injected persistencePath jar hinj with
      ⟨e, w₁, hfails, hout⟩ | ⟨hnever, answer, jar₁, w₁, hout⟩
    · -- a step fails after the injection: the stamp stays
      have hfailed : ¬ ∀ w', ¬ inj.Fails io persistencePath cookies jar w w' :=
        fun h ↦ h w₁ ((hfails w₁).mpr rfl)
      refine ⟨fun h ↦ absurd h hfailed, fun hstamp ↦ iff_of_false (fun h ↦ ?_) hfailed⟩
      exact solveJar_ne jar (hstamp inj rfl) (h _ _ _ hout).1
    · have hall : leftAlone := by
        intro e' jar' w' heq
        rw [hout] at heq
        exact absurd (Prod.mk.inj heq).1 (by simp)
      exact ⟨fun _ ↦ hall, fun _ ↦ iff_of_true hall hnever⟩

end FailedSolve
/-- A queue whose second line is no JSON text, on a disk that takes every write, at second zero. -/
def brokenQueue : HitlIo Unit where
  queuePathVar := none
  now _ := some 0
  nowRfc3339 _ := "1970-01-01T00:00:00+00:00"
  newId w := ("1", w)
  parseJson line :=
    if line = "entry" then
      .ok (.ofMembers [("id", .str "1"), ("url", .str "https://www.shop.example/")])
    else .error "EOF while parsing an object at line 1 column 1"
  printJson _ := .ok "solved"
  openAppend _ w := (.ok (), w)
  writeAll _ _ w := (.ok (), w)
  readToString _ _ := .ok "entry\n\x7b\n"
  write _ _ w := (.ok (), w)
  rename _ _ w := (.ok (), w)
  saveJar _ _ w := (.ok (), w)

/-- An id that the queue lacks: the solve fails before it stores anything. The id of the first line:
it fails on the second. -/
theorem failed_solve_leftAlone_brokenQueue :
    (∀ e jar' w', handleHitlSolve brokenQueue none "2" ⟨[clearance]⟩ .new () =
        (.error e, jar', w') →
      LeftAlone brokenQueue none .new () jar' w') ∧
    ¬ ∀ e jar' w', handleHitlSolve brokenQueue none "1" ⟨[clearance]⟩ .new () =
        (.error e, jar', w') →
      LeftAlone brokenQueue none .new () jar' w' := by
  have hunknown : injection brokenQueue "2" [clearance] () = none := by decide
  let brace : Str := "\x7b"
  have hknown : (injection brokenQueue "1" [clearance] ()).any (fun inj ↦ inj.rest = [brace]) =
      true := by
    decide
  constructor
  · refine (failed_solve_leftAlone brokenQueue none "2" [clearance] .new ()).1 fun inj h ↦ ?_
    exact absurd (hunknown.symm.trans h) (by simp)
  · intro hall
    obtain ⟨inj, hinj, hrest⟩ := (Option.any_eq_true _ _).mp hknown
    have hfresh := (failed_solve_leftAlone brokenQueue none "1" [clearance] .new ()).2
      fun inj _ ↦ by simp [CookieJar.new]
    have hmem : brace ∈ inj.rest := by
      rw [of_decide_eq_true hrest]
      exact List.mem_cons_self
    have hparse : (brokenQueue.parseJson brace).toOption = none := by decide
    cases hp : brokenQueue.parseJson brace with
    | ok v => exact absurd hparse (by simp [hp, Except.toOption])
    | error e => exact hfresh.mp hall inj hinj () (.parse rfl hmem (by decide) hp)

/-- The solve fails on the second line after it has stored the cookies of the first. -/
theorem not_leftAlone_brokenQueue :
    ¬ ∀ (io : HitlIo Unit) (persistencePath : Option Str) (id : Str) (cookies : List HitlCookie)
        (jar jar' : CookieJar) (w w' : Unit) (e : Nat × Json),
      handleHitlSolve io persistencePath id ⟨cookies⟩ jar w = (.error e, jar', w') →
      LeftAlone io persistencePath jar w jar' w' := by
  intro hall
  have hfailed : (handleHitlSolve brokenQueue none "1" ⟨[clearance]⟩ .new ()).1.isOk = false := by
    decide
  have hstamp : (handleHitlSolve brokenQueue none "1" ⟨[clearance]⟩ .new
      ()).2.1.lastHitlSolvedUnix[("www.shop.example" : Str)]? = some 0 := by
    decide
  rcases hout : handleHitlSolve brokenQueue none "1" ⟨[clearance]⟩ .new () with ⟨answer, jar', w'⟩
  rw [hout] at hfailed hstamp
  cases answer with
  | ok answer => exact absurd hfailed (by simp [Except.isOk, Except.toBool])
  | error e =>
    obtain ⟨hjar, -, -⟩ := hall brokenQueue none "1" [clearance] .new jar' () w' e hout
    rw [hjar] at hstamp
    exact absurd hstamp
      (show ¬ CookieJar.new.lastHitlSolvedUnix[("www.shop.example" : Str)]? = some 0 by
        decide)

end CrwShield.Server
