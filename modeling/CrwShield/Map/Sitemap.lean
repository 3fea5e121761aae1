import CrwShield.Base.Str
import CrwShield.Core.Types

/-!
# Sitemaps

Crate `map`, `src/crates/map/src/lib.rs`: the parsers of sitemaps and sitemap indexes. The XML
reader of the crate `quick_xml` comes from outside; the parsers walk the events it reports.
-/

open CrwShield.Base CrwShield.Base.Str CrwShield.Core

namespace CrwShield.Map

/-- Events of `quick_xml::Reader`; the end of a list is `Eof`. -/
inductive XmlEvent where
  | start (name : Str)
  | empty (name : Str)
  | text (s : Str)
  | cdata (s : Str)
  | close (name : Str)
  | other
  | error (e : Str)
  deriving DecidableEq

/-- The reader: the events of a text, with `trim_text` on. -/
abbrev XmlReader := Str → List XmlEvent

/-- First nonempty text of every element of a name, in the order in which the elements end;
the loops of `lib.rs:22–61` and `lib.rs:95–130`. -/
def collectTexts (element : Str) : List XmlEvent → Option Str → List Str → Except Str (List Str)
  | [], _, out => .ok out
  | .start name :: events, current, out =>
    collectTexts element events (if toAsciiLowercase name = element then some [] else current) out
  | .text s :: events, current, out =>
    collectTexts element events (current.map fun cur ↦ if cur.isEmpty then s else cur) out
  | .close name :: events, current, out =>
    if toAsciiLowercase name = element then
      collectTexts element events none (out ++ (current.filter fun cur ↦ !cur.isEmpty).toList)
    else collectTexts element events current out
  | .error e :: _, _, _ => .error e
  | .empty _ :: events, current, out
  | .cdata _ :: events, current, out
  | .other :: events, current, out => collectTexts element events current out

variable (reader : XmlReader)

/-- What both parsers do with a text. -/
def parseTexts (element what xml : Str) : Except CrwError (List Str) :=
  if !startsWith "<" (trimStart xml) then .error (.extraction (what ++ ": input is not XML"))
  else (collectTexts element (reader xml) none []).mapError fun e ↦
    .extraction (what ++ ": " ++ e)

/-- Links of a sitemap; `lib.rs:10–63`. -/
def parseSitemap (xml : Str) : Except CrwError (List MapLink) :=
  (parseTexts reader "url" "sitemap parse" xml).map fun urls ↦ urls.map fun url ↦ ⟨url, none, none⟩

/-- Whether a text looks like a sitemap index; `lib.rs:68–79`. -/
def looksLikeSitemapIndex (xml : Str) : Bool :=
  match trimStart (toAsciiLowercase xml) with
  | '<' :: after => after.takeWhile Char.isAlpha = "sitemapindex"
  | _ => false

/-- Child sitemaps of a sitemap index; `lib.rs:83–132`. -/
def parseSitemapIndex (xml : Str) : Except CrwError (List Str) :=
  parseTexts reader "sitemap" "sitemap index parse" xml

end CrwShield.Map
