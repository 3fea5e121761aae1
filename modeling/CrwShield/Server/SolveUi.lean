import CrwShield.Base.HtmlTokens
import CrwShield.Server.Hitl

/-!
# Pages of the solve form

Crate `server`, `src/crates/server/src/handlers.rs:499–694`. Texts from outside are escaped and
stand between tags or in quoted attribute values.
-/

open CrwShield.Base CrwShield.Base.Str CrwShield.Base.HtmlTokens

namespace CrwShield.Server

/-- One character escaped. -/
def escapedChar (c : Char) : Str :=
  if c = '&' then "&amp;"
  else if c = '<' then "&lt;"
  else if c = '>' then "&gt;"
  else if c = '"' then "&quot;"
  else if c = '\'' then "&#39;"
  else [c]

/-- `handlers.rs:499–512`. -/
def htmlEscape (s : Str) : Str := s.flatMap escapedChar

/-- Text of a page before its title; `handlers.rs:588–592`. -/
def shellTop : Str :=
  ["<!DOCTYPE html>\n",
    "<html lang=\"en\">\n",
    "<head>\n",
    "<meta charset=\"utf-8\">\n",
    "<meta name=\"viewport\" content=\"width=device-width,initial-scale=1\">\n",
    "<title>"].flatMap String.toList

/-- Text between the title and the body; `handlers.rs:592–613`. -/
def shellStyle : Str :=
  ["</title>\n",
    "<style>\n",
    ":root \x7b color-scheme: light dark; \x7d\n",
    "body \x7b font-family: -apple-system, BlinkMacSystemFont, \"Segoe UI\", system-ui, ",
    "sans-serif; max-width: 720px; margin: 2rem auto; padding: 0 1rem; line-height: 1.5; ",
    "\x7d\n",
    "@media (prefers-color-scheme: dark) \x7b body \x7b background: #111; color: #e6e6e6; ",
    "\x7d a \x7b color: #8ab4f8; \x7d textarea, input \x7b background: #1d1d1d; color: ",
    "#e6e6e6; border: 1px solid #444; \x7d button \x7b background: #2563eb; color: #fff; ",
    "border: none; \x7d \x7d\n",
    "h1 \x7b font-size: 1.4rem; margin-bottom: 0.25rem; \x7d\n",
    ".url \x7b color: #666; font-family: ui-monospace, SFMono-Regular, Menlo, monospace; ",
    "word-break: break-all; font-size: 0.9rem; \x7d\n",
    ".banner \x7b padding: 0.75rem 1rem; border-radius: 6px; margin: 1rem 0; \x7d\n",
    ".banner.ok \x7b background: rgba(34, 197, 94, 0.15); border: 1px solid rgba(34, 197, ",
    "94, 0.4); \x7d\n",
    ".banner.warn \x7b background: rgba(234, 179, 8, 0.15); border: 1px solid rgba(234, 179, ",
    "8, 0.4); \x7d\n",
    ".banner.err \x7b background: rgba(239, 68, 68, 0.15); border: 1px solid rgba(239, 68, ",
    "68, 0.4); \x7d\n",
    "textarea \x7b width: 100%; min-height: 160px; font-family: ui-monospace, ",
    "SFMono-Regular, Menlo, monospace; font-size: 0.9rem; padding: 0.5rem; box-sizing: ",
    "border-box; border-radius: 4px; \x7d\n",
    "button \x7b padding: 0.6rem 1.4rem; border-radius: 4px; font-size: 1rem; cursor: ",
    "pointer; margin-top: 0.75rem; \x7d\n",
    "a.back \x7b display: inline-block; margin-top: 1rem; \x7d\n",
    "details \x7b margin-top: 1.5rem; padding: 0.5rem 0.75rem; border: 1px solid #ccc; ",
    "border-radius: 6px; \x7d\n",
    "summary \x7b cursor: pointer; font-weight: 500; \x7d\n",
    "code \x7b background: rgba(127,127,127,0.15); padding: 0.1rem 0.3rem; border-radius: ",
    "3px; \x7d\n",
    "</style>\n",
    "</head>\n",
    "<body>\n"].flatMap String.toList

/-- Text behind the body; `handlers.rs:613–615`. -/
def shellEnd : Str :=
  ["\n",
    "</body>\n",
    "</html>"].flatMap String.toList

/-- Text of the form behind its address; `handlers.rs:654–671`. -/
def formHelp : Str :=
  ["/solve-ui\">\n",
    "  <label for=\"cookies\"><strong>Cookies</strong></label><br>\n",
    "  <textarea name=\"cookies\" id=\"cookies\" placeholder=\"Paste your cookies here. You ",
    "can paste raw document.cookie output (semicolon-separated name=value pairs) OR a JSON ",
    "array.\"></textarea><br>\n",
    "  <button type=\"submit\">Solve</button>\n",
    "</form>\n",
    "<details>\n",
    "  <summary>How to get these cookies?</summary>\n",
    "  <ol>\n",
    "    <li>Open the target URL in a normal (non-headless) browser and solve the ",
    "challenge.</li>\n",
    "    <li>Open DevTools (F12 / Cmd+Opt+I) → <strong>Console</strong> tab.</li>\n",
    "    <li>Type <code>document.cookie</code> and press Enter. The browser prints ",
    "<code>name=value; name2=value2; ...</code>.</li>\n",
    "    <li>Copy the entire output and paste it into the textarea above.</li>\n",
    "    <li>Click <strong>Solve</strong>. The cookies are stored on the server and reused ",
    "for future scrapes.</li>\n",
    "  </ol>\n",
    "  <p>If you have a JSON array (e.g. from another scraper), paste that directly — both ",
    "formats are accepted.</p>\n",
    "</details>"].flatMap String.toList

/-- `handlers.rs:584–616`. -/
def pageShell (title body : Str) : Str :=
  shellTop ++ htmlEscape title ++ shellStyle ++ body ++ shellEnd

/-- A member of an entry that is a string. -/
def entryText (entry : Json) (key : Str) : Option Str := (entry.get? key).bind Json.asStr

/-- The entry is marked as solved; `handlers.rs:627–632`. -/
def isSolved (entry : Json) : Bool := (entryText entry "status").getD "pending" = ("solved" : Str)

/-- The note about an earlier solution; `handlers.rs:632–639`. -/
def solvedBanner (entry : Json) : Str :=
  if isSolved entry then
    "<div class=\"banner ok\">Already solved at <code>" ++
      htmlEscape ((entryText entry "solved_at").getD []) ++
      "</code>. Resubmitting will overwrite the stored cookies.</div>"
  else []

/-- The body of the form, with its slots filled. -/
def formBody (host url id banner : Str) : Str :=
  "<h1>Solve HITL challenge for " ++ htmlEscape host ++ "</h1>\n<div class=\"url\">URL: " ++
    htmlEscape url ++ "</div>\n<div class=\"url\">HITL id: <code>" ++ htmlEscape id ++
    "</code></div>\n" ++ banner ++ "\n<form method=\"post\" action=\"/v2/scrape/hitl/" ++
    htmlEscape id ++ formHelp

/-- `handlers.rs:620–671`. -/
def renderSolveUiForm (id : Str) (entry : Option Json) : Str :=
  pageShell "Solve HITL challenge"
    (match entry with
    | some e =>
      let url := (entryText e "url").getD []
      formBody ((urlHostStr url).getD url) url id (solvedBanner e)
    | none => formBody "(unknown host)" [] id [])

/-- `handlers.rs:673–683`. -/
def renderSolveResultSuccess (id : Str) (n : Nat) (host : Str) : Str :=
  pageShell "Solved"
    ("<h1>✅ Solved!</h1>\n<div class=\"banner ok\"><strong>" ++ ofNat n ++ "</strong> cookie" ++
      (if n = 1 then [] else ['s']) ++ " stored for host <code>" ++ htmlEscape host ++
      "</code> (id <code>" ++ htmlEscape id ++
      "</code>). You can close this tab and re-run your scrape.</div>\n" ++
      "<a class=\"back\" href=\"/v2/scrape/hitl/" ++ htmlEscape id ++ "/solve-ui\">← Back</a>")

/-- `handlers.rs:685–694`. -/
def renderSolveResultError (id err : Str) : Str :=
  pageShell "Solve failed"
    ("<h1>❌ Solve failed</h1>\n<div class=\"banner err\"><strong>Error:</strong> " ++
      htmlEscape err ++ "</div>\n<a class=\"back\" href=\"/v2/scrape/hitl/" ++ htmlEscape id ++
      "/solve-ui\">← Back to the form</a>")

section Escape

variable {s : Str} {c : Char}

theorem not_special_of_mem_escapedChar {d : Char} (h : d ∈ escapedChar c) :
    d ≠ '<' ∧ d ≠ '>' ∧ d ≠ '"' ∧ d ≠ '\'' := by
  unfold escapedChar at h
  split_ifs at h with hamp hlt hgt hquot hapos
  all_goals simp at h
  · rcases h with rfl | rfl | rfl | rfl | rfl <;> decide
  · rcases h with rfl | rfl | rfl | rfl <;> decide
  · rcases h with rfl | rfl | rfl | rfl <;> decide
  · rcases h with rfl | rfl | rfl | rfl | rfl | rfl <;> decide
  · rcases h with rfl | rfl | rfl | rfl | rfl <;> decide
  · rw [h]
    exact ⟨hlt, hgt, hquot, hapos⟩

/-- An escaped text has no angle bracket, quote or apostrophe. -/
theorem not_special_of_mem_htmlEscape {d : Char} (h : d ∈ htmlEscape s) :
    d ≠ '<' ∧ d ≠ '>' ∧ d ≠ '"' ∧ d ≠ '\'' := by
  obtain ⟨c, -, hd⟩ := List.mem_flatMap.mp h
  exact not_special_of_mem_escapedChar hd

private theorem decodeFrom_escapedChar (c : Char) (s : Str) :
    decodeFrom 0 (escapedChar c ++ s) = c :: decodeFrom 0 s := by
  unfold escapedChar
  split_ifs with hamp hlt hgt hquot hapos
  · rw [hamp]
    rfl
  · rw [hlt]
    rfl
  · rw [hgt]
    rfl
  · rw [hquot]
    rfl
  · rw [hapos]
    rfl
  · rw [List.singleton_append, decodeFrom, if_neg hamp]

/-- An escaped text is displayed as it was. -/
theorem decodeReferences_htmlEscape (s : Str) : decodeReferences (htmlEscape s) = s := by
  unfold decodeReferences
  induction s with
  | nil => rfl
  | cons c s ih =>
    rw [htmlEscape, List.flatMap_cons, ← htmlEscape, decodeFrom_escapedChar, ih]

theorem htmlEscape_eq_self (h : ∀ d ∈ s, d ≠ '&' ∧ d ≠ '<' ∧ d ≠ '>' ∧ d ≠ '"' ∧ d ≠ '\'') :
    htmlEscape s = s := by
  have hself : ∀ d ∈ s, escapedChar d = [d] := by
    intro d hd
    obtain ⟨hamp, hlt, hgt, hquot, hapos⟩ := h d hd
    rw [escapedChar, if_neg hamp, if_neg hlt, if_neg hgt, if_neg hquot, if_neg hapos]
  rw [htmlEscape, List.flatMap_congr hself, List.flatMap_singleton']

end Escape

section Pages

/-- The chrome around the parts of a body. -/
def shellParts (title : Str) (body : List Part) : List Part :=
  .fixed shellTop :: .slot title :: .fixed shellStyle :: body ++ [.fixed shellEnd]

/-- The parts of the note about an earlier solution. -/
def bannerParts (entry : Json) : List Part :=
  if isSolved entry then
    [.fixed "<div class=\"banner ok\">Already solved at <code>",
      .slot ((entryText entry "solved_at").getD []),
      .fixed "</code>. Resubmitting will overwrite the stored cookies.</div>"]
  else []

/-- The parts of the form. -/
def formParts (host url id : Str) (banner : List Part) : List Part :=
  [.fixed "<h1>Solve HITL challenge for ", .slot host,
    .fixed "</h1>\n<div class=\"url\">URL: ", .slot url,
    .fixed "</div>\n<div class=\"url\">HITL id: <code>", .slot id, .fixed "</code></div>\n"] ++
  banner ++
  [.fixed "\n<form method=\"post\" action=\"/v2/scrape/hitl/", .slot id, .fixed formHelp]

/-- The parts of the form of an entry. -/
def entryParts (id : Str) : Option Json → List Part
  | some e =>
    let url := (entryText e "url").getD []
    formParts ((urlHostStr url).getD url) url id (bannerParts e)
  | none => formParts "(unknown host)" [] id []

/-- The parts of the page of a success; the digits and the ending of a plural need no escape. -/
def successParts (id : Str) (n : Nat) (host : Str) : List Part :=
  [.fixed "<h1>✅ Solved!</h1>\n<div class=\"banner ok\"><strong>", .slot (ofNat n),
    .fixed "</strong> cookie", .slot (if n = 1 then [] else ['s']),
    .fixed " stored for host <code>", .slot host, .fixed "</code> (id <code>", .slot id,
    .fixed "</code>). You can close this tab and re-run your scrape.</div>\n",
    .fixed "<a class=\"back\" href=\"/v2/scrape/hitl/", .slot id,
    .fixed "/solve-ui\">← Back</a>"]

/-- The parts of the page of a failure. -/
def errorParts (id err : Str) : List Part :=
  [.fixed "<h1>❌ Solve failed</h1>\n<div class=\"banner err\"><strong>Error:</strong> ", .slot err,
    .fixed "</div>\n<a class=\"back\" href=\"/v2/scrape/hitl/", .slot id,
    .fixed "/solve-ui\">← Back to the form</a>"]

theorem mem_slots_shellParts {s : Str} (title : Str) {body : List Part} (h : s ∈ slots body) :
    s ∈ slots (shellParts title body) := by
  rw [shellParts, slots_append]
  exact List.mem_append_left _ (List.mem_cons_of_mem _ h)

theorem slots_formParts (host url id : Str) (banner : List Part) :
    slots (formParts host url id banner) = [host, url, id] ++ slots banner ++ [id] := by
  rw [formParts, slots_append, slots_append]
  rfl

theorem pageShell_render (title : Str) (body : List Part) :
    pageShell title (render htmlEscape body) = render htmlEscape (shellParts title body) := by
  rw [shellParts, List.cons_append, List.cons_append, List.cons_append]
  simp only [pageShell, render_fixed, render_slot, render_append, render_nil, List.append_assoc,
    List.append_nil]

theorem solvedBanner_eq (entry : Json) :
    solvedBanner entry = render htmlEscape (bannerParts entry) := by
  unfold solvedBanner bannerParts
  split
  · simp only [render_fixed, render_slot, render_nil, List.append_assoc, List.append_nil]
  · rfl

theorem formBody_eq (host url id : Str) (banner : List Part) :
    formBody host url id (render htmlEscape banner) =
      render htmlEscape (formParts host url id banner) := by
  unfold formBody formParts
  rw [render_append, render_append]
  simp only [render_fixed, render_slot, render_nil, List.append_assoc, List.nil_append]
  rw [List.append_nil formHelp]

theorem renderSolveUiForm_eq (id : Str) (entry : Option Json) : renderSolveUiForm id entry =
    render htmlEscape (shellParts "Solve HITL challenge" (entryParts id entry)) := by
  rw [← pageShell_render]
  cases entry with
  | none =>
    rw [entryParts, ← formBody_eq]
    rfl
  | some e =>
    rw [entryParts, ← formBody_eq, ← solvedBanner_eq]
    rfl

theorem htmlEscape_ofNat (n : Nat) : htmlEscape (ofNat n) = ofNat n := by
  apply htmlEscape_eq_self
  intro d hd
  have hdigit : d.isDigit = true := Nat.isDigit_of_mem_toDigits (by decide) (by decide) hd
  refine ⟨?_, ?_, ?_, ?_, ?_⟩
  all_goals
    rintro rfl
    exact absurd hdigit (by decide)

theorem renderSolveResultSuccess_eq (id : Str) (n : Nat) (host : Str) :
    renderSolveResultSuccess id n host =
      render htmlEscape (shellParts "Solved" (successParts id n host)) := by
  have hplural : htmlEscape (if n = 1 then [] else ['s']) = if n = 1 then [] else ['s'] := by
    split <;> rfl
  rw [← pageShell_render, renderSolveResultSuccess]
  simp only [successParts, render_fixed, render_slot, render_nil, List.append_assoc,
    List.append_nil, htmlEscape_ofNat, hplural]

theorem renderSolveResultError_eq (id err : Str) :
    renderSolveResultError id err =
      render htmlEscape (shellParts "Solve failed" (errorParts id err)) := by
  rw [← pageShell_render, renderSolveResultError]
  simp only [errorParts, render_fixed, render_slot, render_nil, List.append_assoc, List.append_nil]

/-- The template of the form. -/
def formSkeleton (solved : Bool) : List (Option Str) :=
  skeleton (shellParts [] (formParts [] [] []
    (if solved then
      [.fixed "<div class=\"banner ok\">Already solved at <code>", .slot [],
        .fixed "</code>. Resubmitting will overwrite the stored cookies.</div>"]
    else [])))

theorem skeleton_form (title id : Str) (entry : Option Json) :
    skeleton (shellParts title (entryParts id entry)) = formSkeleton (entry.any isSolved) := by
  cases entry with
  | none => rfl
  | some e =>
    unfold entryParts bannerParts
    dsimp only
    rw [Option.any_some]
    cases isSolved e <;> rfl

private theorem modeAfter_shellTop : modeAfter .data shellTop = .rawText "title" := by
  unfold shellTop
  simp only [List.flatMap_cons, List.flatMap_nil, List.append_nil]
  repeat rw [String.toList_ofList]
  decide +kernel

private theorem modeAfter_shellStyle : modeAfter (.rawText "title") shellStyle = .data := by
  unfold shellStyle
  simp only [List.flatMap_cons, List.flatMap_nil, List.append_nil]
  repeat rw [String.toList_ofList]
  decide +kernel

private theorem modeAfter_shellEnd : modeAfter .data shellEnd = .data := by
  unfold shellEnd
  simp only [List.flatMap_cons, List.flatMap_nil, List.append_nil]
  repeat rw [String.toList_ofList]
  decide +kernel

/-- A body is read as it is in the chrome around it. -/
theorem modeThrough_shellParts (title : Str) {body : List Part}
    (h : modeThrough .data (skeleton body) = some .data) :
    modeThrough .data (skeleton (shellParts title body)) = some .data := by
  have hbody : skeleton (shellParts title body) =
      [some shellTop, none, some shellStyle] ++ (skeleton body ++ [some shellEnd]) := by
    simp [shellParts, skeleton]
  have htitle : IsText (.rawText "title") = true := rfl
  have htop : modeThrough .data [some shellTop, none, some shellStyle] = some .data := by
    rw [modeThrough, modeAfter_shellTop, modeThrough, if_pos htitle, modeThrough,
      modeAfter_shellStyle, modeThrough]
  rw [hbody, modeThrough_append htop, modeThrough_append h, modeThrough, modeAfter_shellEnd,
    modeThrough]

theorem modeThrough_formParts (host url id : Str) :
    modeThrough .data (skeleton (formParts host url id [])) = some .data := by
  show modeThrough .data [some _, none, some _, none, some _, none, some _, some _, none,
    some _] = _
  unfold formHelp
  simp only [List.flatMap_cons, List.flatMap_nil, List.append_nil]
  repeat rw [String.toList_ofList]
  decide +kernel

theorem modeThrough_formParts_solved (host url id solvedAt : Str) :
    modeThrough .data (skeleton (formParts host url id
      [.fixed "<div class=\"banner ok\">Already solved at <code>", .slot solvedAt,
        .fixed "</code>. Resubmitting will overwrite the stored cookies.</div>"])) =
      some .data := by
  show modeThrough .data [some _, none, some _, none, some _, none, some _, some _, none, some _,
    some _, none, some _] = _
  unfold formHelp
  simp only [List.flatMap_cons, List.flatMap_nil, List.append_nil]
  repeat rw [String.toList_ofList]
  decide +kernel

theorem modeThrough_entryParts (id : Str) (entry : Option Json) :
    modeThrough .data (skeleton (entryParts id entry)) = some .data := by
  cases entry with
  | none => exact modeThrough_formParts _ _ _
  | some e =>
    unfold entryParts bannerParts
    dsimp only
    split
    · exact modeThrough_formParts_solved _ _ _ _
    · exact modeThrough_formParts _ _ _

theorem modeThrough_successParts (id : Str) (n : Nat) (host : Str) :
    modeThrough .data (skeleton (successParts id n host)) = some .data := by
  show modeThrough .data [some _, none, some _, none, some _, none, some _, none, some _, some _,
    none, some _] = _
  repeat rw [String.toList_ofList]
  decide +kernel

theorem modeThrough_errorParts (id err : Str) :
    modeThrough .data (skeleton (errorParts id err)) = some .data := by
  show modeThrough .data [some _, none, some _, none, some _] = _
  repeat rw [String.toList_ofList]
  decide +kernel

end Pages

/-- The pages are safe: their tags depend on the texts from outside only through the mark that an
entry is solved, every text is shown between tags or in a quoted value, and an escaped text is
displayed as it was and holds no character that ends it. -/
structure SolvePagesSafe : Prop where
  form : ∀ id id' entry entry', entry.any isSolved = entry'.any isSolved →
    tagsOf (renderSolveUiForm id entry) = tagsOf (renderSolveUiForm id' entry')
  success : ∀ id id' n n' host host',
    tagsOf (renderSolveResultSuccess id n host) = tagsOf (renderSolveResultSuccess id' n' host')
  error : ∀ id id' err err',
    tagsOf (renderSolveResultError id err) = tagsOf (renderSolveResultError id' err')
  formShows : ∀ id e, ∀ s ∈ id :: (entryText e "url").getD [] ::
      (urlHostStr ((entryText e "url").getD [])).getD ((entryText e "url").getD []) ::
      (if isSolved e then [(entryText e "solved_at").getD []] else []),
    Shows htmlEscape .data (renderSolveUiForm id (some e)) s
  successShows : ∀ id n host, ∀ s ∈ [id, host],
    Shows htmlEscape .data (renderSolveResultSuccess id n host) s
  errorShows : ∀ id err, ∀ s ∈ [id, err],
    Shows htmlEscape .data (renderSolveResultError id err) s
  decodable : ∀ s, decodeReferences (htmlEscape s) = s
  plain : ∀ s, ∀ c ∈ htmlEscape s, c ≠ '<' ∧ c ≠ '>' ∧ c ≠ '"' ∧ c ≠ '\''

private theorem escape_safe : ∀ s, ∀ c ∈ htmlEscape s, c ≠ '<' ∧ c ≠ '"' := fun _ _ hc ↦
  ⟨(not_special_of_mem_htmlEscape hc).1, (not_special_of_mem_htmlEscape hc).2.2.1⟩

/-- The pages of the solve form cannot be injected. -/
theorem solvePages_safe : SolvePagesSafe := by
  constructor
  case form =>
    intro id id' entry entry' hsolved
    have htags : ∀ id entry, tagsOf (renderSolveUiForm id entry) =
        skeletonTags .data (formSkeleton (entry.any isSolved)) := by
      intro id entry
      rw [renderSolveUiForm_eq, tagsOf, tagsFrom_render escape_safe
        (modeThrough_shellParts _ (modeThrough_entryParts id entry)), skeleton_form]
    rw [htags, htags, hsolved]
  case success =>
    intro id id' n n' host host'
    rw [renderSolveResultSuccess_eq, renderSolveResultSuccess_eq, tagsOf, tagsOf,
      tagsFrom_render escape_safe (modeThrough_shellParts _ (modeThrough_successParts id n host)),
      tagsFrom_render escape_safe
        (modeThrough_shellParts _ (modeThrough_successParts id' n' host'))]
    rfl
  case error =>
    intro id id' err err'
    rw [renderSolveResultError_eq, renderSolveResultError_eq, tagsOf, tagsOf,
      tagsFrom_render escape_safe (modeThrough_shellParts _ (modeThrough_errorParts id err)),
      tagsFrom_render escape_safe (modeThrough_shellParts _ (modeThrough_errorParts id' err'))]
    rfl
  case formShows =>
    intro id e s hs
    rw [renderSolveUiForm_eq]
    apply shows_of_mem escape_safe (modeThrough_shellParts _ (modeThrough_entryParts id (some e)))
    apply mem_slots_shellParts
    have hslots : slots (entryParts id (some e)) =
        [(urlHostStr ((entryText e "url").getD [])).getD ((entryText e "url").getD []),
          (entryText e "url").getD [], id] ++
        (if isSolved e then [(entryText e "solved_at").getD []] else []) ++ [id] := by
      rw [entryParts, slots_formParts, bannerParts]
      split <;> rfl
    rw [hslots]
    simp only [List.mem_append, List.mem_cons, List.not_mem_nil, or_false] at hs ⊢
    tauto
  case successShows =>
    intro id n host s hs
    rw [renderSolveResultSuccess_eq]
    apply shows_of_mem escape_safe (modeThrough_shellParts _ (modeThrough_successParts id n host))
    apply mem_slots_shellParts
    show s ∈ [_, _, host, id, id]
    rcases List.mem_pair.mp hs with rfl | rfl <;> simp
  case errorShows =>
    intro id err s hs
    rw [renderSolveResultError_eq]
    apply shows_of_mem escape_safe (modeThrough_shellParts _ (modeThrough_errorParts id err))
    apply mem_slots_shellParts
    show s ∈ [err, id]
    rcases List.mem_pair.mp hs with rfl | rfl <;> simp
  case decodable => exact decodeReferences_htmlEscape
  case plain => exact fun _ _ ↦ not_special_of_mem_htmlEscape

end CrwShield.Server
