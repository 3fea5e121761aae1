import CrwShield.Base.Str

/-!
# References to URLs

Resolution of a reference against a base URL, RFC 3986 §5.2, on the components of both. A reference
of a kind takes some components of the base and replaces the others, so two bases give the same
exactly when they agree on what is taken.
-/

namespace CrwShield.Base.UrlReference

/-- The components of a URL; a path is its segments. -/
structure Components where
  scheme : Str
  authority : Option Str
  path : List Str
  query : Option Str
  fragment : Option Str
  deriving DecidableEq

/-- A reference without a scheme. An authority is given in the form that a scheme gives it, without
the scheme's default port. -/
inductive Relative where
  /-- `//host/path` -/
  | network (authority : Str → Str) (path : List Str) (query fragment : Option Str)
  /-- `/path` -/
  | rooted (path : List Str) (query fragment : Option Str)
  /-- `path` -/
  | beside (path : List Str) (query fragment : Option Str)
  /-- `?query` -/
  | query (query : Str) (fragment : Option Str)
  /-- `#fragment`, or nothing -/
  | same (fragment : Option Str)

/-- A reference. One with a scheme alone, `scheme:path`, is taken without the scheme against a base
that has it, and may be a URL otherwise. -/
inductive Reference where
  | absolute (url : Components)
  | schemed (scheme : Str) (url : Option Components) (relative : Relative)
  | relative (relative : Relative)

/-- A path after some segments, without the segments `.` and `..`; one at the end leaves an empty
segment. -/
def removeDotSegments (out : List Str) : List Str → List Str
  | [] => out
  | segment :: rest =>
    if segment = ".." then removeDotSegments (out.dropLast ++ if rest = [] then [[]] else []) rest
    else if segment = "." then removeDotSegments (out ++ if rest = [] then [[]] else []) rest
    else removeDotSegments (out ++ [segment]) rest

/-- A relative reference resolved against a base. -/
def merge (base : Components) : Relative → Components
  | .network authority path query fragment =>
    ⟨base.scheme, some (authority base.scheme), removeDotSegments [] path, query, fragment⟩
  | .rooted path query fragment =>
    ⟨base.scheme, base.authority, removeDotSegments [] path, query, fragment⟩
  | .beside path query fragment =>
    ⟨base.scheme, base.authority, removeDotSegments base.path.dropLast path, query, fragment⟩
  | .query query fragment => ⟨base.scheme, base.authority, base.path, some query, fragment⟩
  | .same fragment => ⟨base.scheme, base.authority, base.path, base.query, fragment⟩

/-- A reference resolved against a base, if it means anything there. -/
def resolve (base : Components) : Reference → Option Components
  | .absolute url => some url
  | .schemed scheme url relative => if base.scheme = scheme then some (merge base relative) else url
  | .relative relative => some (merge base relative)

/-- What a reference means without a base. -/
def Reference.alone : Reference → Option Components
  | .absolute url => some url
  | .schemed _ url _ => url
  | .relative _ => none

/-- Two bases agree on what a relative reference takes from them. -/
def SameFor (b b' : Components) : Relative → Prop
  | .network .. => b.scheme = b'.scheme
  | .rooted .. => b.scheme = b'.scheme ∧ b.authority = b'.authority
  | .beside path .. => b.scheme = b'.scheme ∧ b.authority = b'.authority ∧
      removeDotSegments b.path.dropLast path = removeDotSegments b'.path.dropLast path
  | .query .. => b.scheme = b'.scheme ∧ b.authority = b'.authority ∧ b.path = b'.path
  | .same _ => b.scheme = b'.scheme ∧ b.authority = b'.authority ∧ b.path = b'.path ∧
      b.query = b'.query

variable {b b' : Components}

/-- Two bases give the same exactly when they agree on what is taken. -/
theorem merge_eq_merge_iff {r : Relative} : merge b r = merge b' r ↔ SameFor b b' r := by
  cases r with
  | network authority path query fragment =>
    simp only [merge, SameFor, Components.mk.injEq, Option.some.injEq, and_true]
    exact ⟨fun h ↦ h.1, fun h ↦ ⟨h, congrArg authority h⟩⟩
  | rooted path query fragment =>
    simp only [merge, SameFor, Components.mk.injEq, and_true]
  | beside path query fragment =>
    simp only [merge, SameFor, Components.mk.injEq, and_true]
  | query query fragment =>
    simp only [merge, SameFor, Components.mk.injEq, and_true]
  | same fragment =>
    simp only [merge, SameFor, Components.mk.injEq, and_true]

/-- Segments without dots are appended. -/
theorem removeDotSegments_eq_append {path : List Str} (h : ∀ s ∈ path, s ≠ ".." ∧ s ≠ ".")
    (out : List Str) : removeDotSegments out path = out ++ path := by
  induction path generalizing out with
  | nil => exact (List.append_nil out).symm
  | cons segment rest ih =>
    obtain ⟨⟨hup, hhere⟩, hrest⟩ := List.forall_mem_cons.mp h
    rw [removeDotSegments, if_neg hup, if_neg hhere, ih hrest, List.append_assoc]
    rfl

/-- A relative path without dots means the same in the same directory only. -/
theorem sameFor_beside_iff {path : List Str} {query fragment : Option Str}
    (h : ∀ s ∈ path, s ≠ ".." ∧ s ≠ ".") :
    SameFor b b' (.beside path query fragment) ↔
      b.scheme = b'.scheme ∧ b.authority = b'.authority ∧
        b.path.dropLast = b'.path.dropLast := by
  rw [SameFor, removeDotSegments_eq_append h, removeDotSegments_eq_append h,
    List.append_left_inj]

theorem SameFor.refl (b : Components) (r : Relative) : SameFor b b r :=
  merge_eq_merge_iff.mp rfl

theorem authority_merge (h : b.authority.isSome = true) (r : Relative) :
    (merge b r).authority.isSome = true := by
  cases r with
  | network authority path query fragment => rfl
  | rooted path query fragment => exact h
  | beside path query fragment => exact h
  | query query fragment => exact h
  | same fragment => exact h

end CrwShield.Base.UrlReference
