import CrwShield.Base.Str

/-!
# The `url` crate

The crates parse, compare and print URLs with the third-party crate `url`, which is a parameter
of the development. `UrlCrate` names the operations in use, `UrlCrate.Lawful` the documented
behaviour that results rely on.
-/

namespace CrwShield.Base

/-- Operations of `url::Url`. -/
structure UrlCrate where
  /-- A parsed URL. -/
  Url : Type
  /-- `Url::parse`; the error is the display text of its `ParseError`. -/
  parse : Str → Except Str Url
  /-- `Url::host_str`. -/
  hostStr : Url → Option Str
  /-- `Url::path`. -/
  path : Url → Str
  /-- `Url::to_string`, the serialization. -/
  toStr : Url → Str
  /-- `Url::set_fragment(None)`. -/
  dropFragment : Url → Url
  /-- `Url::set_query(None)`. -/
  dropQuery : Url → Url

/-- Documented behaviour of `url::Url`. -/
structure UrlCrate.Lawful (U : UrlCrate) : Prop where
  /-- A serialization parses back to the URL it was taken from. -/
  parse_toStr : ∀ u, U.parse (U.toStr u) = .ok u
  /-- White space cannot occur in a host. -/
  hostStr_noSpace : ∀ u h, U.hostStr u = some h → ∀ c ∈ h, Str.isWhitespace c = false

/-- Host of an already normal `https` URL. -/
def plainHost (s : Str) : Str := (s.drop 8).takeWhile (· ≠ '/')

/-- An `https` URL with a lowercase host and a path that every parser leaves as it is. -/
def isPlainUrl (s : Str) : Bool :=
  let path := (s.drop 8).drop (plainHost s).length
  Str.startsWith "https://" s && !(plainHost s).isEmpty &&
    (plainHost s).all (fun c ↦ c.isLower || c.isDigit || c == '.' || c == '-') &&
    path.head? == some '/' &&
    path.all fun c ↦ c.isAlphanum || c == '/' || c == '-' || c == '_'

/-- The operations of `url::Url` on URLs that are already normal. -/
def UrlCrate.plain : UrlCrate where
  Url := { s : Str // isPlainUrl s = true }
  parse s := if h : isPlainUrl s = true then .ok ⟨s, h⟩ else .error "relative URL without a base"
  hostStr u := some (plainHost u.val)
  path u := (u.val.drop 8).drop (plainHost u.val).length
  toStr u := u.val
  dropFragment u := u
  dropQuery u := u

theorem isWhitespace_of_hostChar {c : Char}
    (h : c.isLower || c.isDigit || c == '.' || c == '-') : Str.isWhitespace c = false := by
  simp only [Bool.or_eq_true, beq_iff_eq] at h
  have hn : (97 ≤ c.toNat ∧ c.toNat ≤ 122) ∨ (48 ≤ c.toNat ∧ c.toNat ≤ 57) ∨ c.toNat = 46 ∨
      c.toNat = 45 := by
    rcases h with ((h | h) | rfl) | rfl
    · obtain ⟨hlow, hhigh⟩ := Bool.and_eq_true_iff.mp (show (_ && _) = true from h)
      exact .inl ⟨of_decide_eq_true hlow, of_decide_eq_true hhigh⟩
    · simp only [Char.isDigit, Bool.and_eq_true, decide_eq_true_eq] at h
      exact .inr (.inl h)
    · exact .inr (.inr (.inl rfl))
    · exact .inr (.inr (.inr rfl))
  simp only [Str.isWhitespace, Bool.or_eq_false_iff, Bool.and_eq_false_iff, decide_eq_false_iff_not,
    beq_eq_false_iff_ne]
  omega

theorem UrlCrate.lawful_plain : UrlCrate.plain.Lawful where
  parse_toStr u := dif_pos u.property
  hostStr_noSpace u h hh c hc := by
    have hall : (plainHost u.val).all
        (fun c ↦ c.isLower || c.isDigit || c == '.' || c == '-') = true := by
      have hp := u.property
      simp only [isPlainUrl, Bool.and_eq_true] at hp
      exact hp.1.1.2
    obtain rfl : plainHost u.val = h := Option.some.inj hh
    exact isWhitespace_of_hostChar (List.all_eq_true.mp hall c hc)

theorem UrlCrate.parse_plain {s : Str} (h : isPlainUrl s = true) :
    UrlCrate.plain.parse s = .ok ⟨s, h⟩ := dif_pos h

theorem UrlCrate.hostStr_plain {s host : Str} (h : isPlainUrl s = true) (hh : plainHost s = host) :
    UrlCrate.plain.hostStr ⟨s, h⟩ = some host := congrArg some hh

end CrwShield.Base
