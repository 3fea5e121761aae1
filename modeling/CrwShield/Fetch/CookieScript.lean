import CrwShield.Base.JsString
import CrwShield.Fetch.Cdp
import Mathlib.Data.Bool.AllAny

/-!
# The script that sets the cookies of a page

Crate `fetch`, `src/crates/fetch/src/cdp.rs:455–483`. The cookie header stands in the script as a
string literal in single quotes. The quotes of the header are escaped and nothing else is.
-/

open CrwShield.Base CrwShield.Base.Str CrwShield.Base.JsString CrwShield.Antibot CrwShield.Core

namespace CrwShield.Fetch

/-- The script up to the literal; `cdp.rs:463–465`. -/
def cookieScriptHead : Str := "(() => \x7b\n                    const raw = "

/-- The script behind the literal; `cdp.rs:465–477`. -/
def cookieScriptTail : Str :=
  join "\n"
    [";",
      "                    const pairs = raw.split(';');",
      "                    for (const p of pairs) \x7b",
      "                        const eq = p.indexOf('=');",
      "                        if (eq <= 0) continue;",
      "                        const name = p.slice(0, eq).trim();",
      "                        const value = p.slice(eq + 1).trim();",
      "                        if (!name) continue;",
      "                        try \x7b",
      "                            document.cookie = name + '=' + value + '; path=/';",
      "                        \x7d catch (e) \x7b\x7d",
      "                    \x7d",
      "                \x7d)()"]

/-- The script for a cookie header; `cdp.rs:460–477`. -/
def cookieScript (cookieHeader : Str) : Str :=
  cookieScriptHead ++ '\'' :: (escapeQuotes cookieHeader ++ '\'' :: cookieScriptTail)

/-- The first string literal of a script and what follows it, if it ends. -/
def firstLiteral (script : Str) : Option (List Nat × Str) :=
  readFrom .plain ((script.dropWhile (· ≠ '\'')).drop 1)

theorem firstLiteral_cookieScript (header : Str) :
    firstLiteral (cookieScript header) =
      readFrom .plain (escapeQuotes header ++ '\'' :: cookieScriptTail) := by
  have hnone : '\'' ∉ cookieScriptHead := by decide
  have hhead : ∀ c ∈ cookieScriptHead, c ≠ '\'' := fun c hc heq ↦ hnone (heq ▸ hc)
  have hdrop : ∀ s : Str, (cookieScriptHead ++ '\'' :: s).dropWhile (· ≠ '\'') = '\'' :: s := by
    intro s
    rw [List.dropWhile_append_of_pos fun c hc ↦ decide_eq_true (hhead c hc)]
    exact List.dropWhile_cons_of_neg (by simp)
  rw [firstLiteral, cookieScript, hdrop]
  rfl

/-- A joined text consists of characters of a kind when the separator and the parts do. -/
theorem forall_mem_join_iff {P : Char → Prop} {sep : Str} (hsep : ∀ c ∈ sep, P c)
    (parts : List Str) :
    (∀ c ∈ join sep parts, P c) ↔ ∀ part ∈ parts, ∀ c ∈ part, P c := by
  unfold join
  induction parts with
  | nil => simp [List.intercalate_nil]
  | cons part parts ih =>
    cases parts with
    | nil => simp [List.intercalate_singleton]
    | cons next parts =>
      rw [List.intercalate_cons_cons, List.forall_mem_append, List.forall_mem_append, ih]
      constructor
      · exact fun h ↦ List.forall_mem_cons.mpr ⟨h.1.1, h.2⟩
      · intro h
        obtain ⟨hpart, hparts⟩ := List.forall_mem_cons.mp h
        exact ⟨⟨hpart, hsep⟩, hparts⟩

namespace CdpFetcher

variable {ω : Type*} (U : UrlCrate) (now : ω → Option Nat) (fetcher : CdpFetcher)

/-- The literal of the script that a fetch evaluates ends behind the header, and is the header. -/
def ScriptExact (url : Str) (env : Env ω) : Prop :=
  ∀ header ∈ fetcher.cookieHeader U now url env,
    firstLiteral (cookieScript header) = some (utf16 header, cookieScriptTail)

/-- No cookie that is sent has a backslash or a line end in its name or value. -/
def SendsPlain (url : Str) (env : Env ω) : Prop :=
  ∀ b n e, (env.jars fetcher.cookies).Sends (now env.world) U url b n e →
    (∀ c ∈ n, Plain c) ∧ ∀ c ∈ e.value, Plain c

/-- The script is exact for the plain cookies and for no others. -/
theorem scriptExact_iff (url : Str) (env : Env ω) :
    fetcher.ScriptExact U now url env ↔ fetcher.SendsPlain U now url env := by
  have hsep : ∀ c ∈ ("; " : Str), Plain c := List.all_iff_forall_prop.mp (by decide)
  have hequals : ∀ c ∈ ("=" : Str), Plain c := List.all_iff_forall_prop.mp (by decide)
  have hparts : (∀ part ∈ (env.jars fetcher.cookies).sentCookies (now env.world) U url,
      ∀ c ∈ part, Plain c) ↔ fetcher.SendsPlain U now url env := by
    constructor
    · intro h b n e hsends
      have hpart := h _ (CookieJar.mem_sentCookies.mpr ⟨b, n, e, hsends, rfl⟩)
      rw [List.forall_mem_append, List.forall_mem_append] at hpart
      exact ⟨hpart.1.1, hpart.2⟩
    · intro h part hpart
      obtain ⟨b, n, e, hsends, rfl⟩ := CookieJar.mem_sentCookies.mp hpart
      rw [List.forall_mem_append, List.forall_mem_append]
      exact ⟨⟨(h b n e hsends).1, hequals⟩, (h b n e hsends).2⟩
  rw [← hparts, ← forall_mem_join_iff hsep]
  simp only [ScriptExact, cookieHeader, CookieJar.cookieHeaderFor_eq, firstLiteral_cookieScript,
    readFrom_escapeQuotes_iff]
  split
  next hnone =>
    rw [List.isEmpty_iff.mp hnone]
    simp [join, List.intercalate_nil]
  next => simp

/-- A jar in which a site has stored a value with a backslash before a quote. -/
def quotedJar : CookieJar :=
  CookieJar.new.setFromSetCookie (some 0) "example.com" "a=\\'-alert(1)//"

/-- The backslash in the value escapes the one put before its quote, which ends the literal. -/
theorem not_scriptExact_quoted :
    ¬ (⟨0⟩ : CdpFetcher).ScriptExact UrlCrate.plain (fun _ : Unit ↦ some 0)
      "https://example.com/" ⟨fun _ ↦ quotedJar, ()⟩ := by
  intro h
  have hheader : CookieJar.cookieHeaderFor UrlCrate.plain quotedJar (some 0)
      "https://example.com/" = some "a=\\'-alert(1)//" := by decide
  have hexact := h _ hheader
  rw [firstLiteral_cookieScript, readFrom_escapeQuotes_iff] at hexact
  exact absurd (hexact '\\' (by decide)) (by decide)

end CdpFetcher
end CrwShield.Fetch
