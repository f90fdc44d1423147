import Scorebook.Text.Search

/-!
# Document types

A document type names the kind of page and may identify its definition.  From these follows whether
the page is laid out by the rules of old pages.
-/

namespace Scorebook.Markup
open Text

def isMarkupBlank (c : Char) : Bool :=
  c == ' ' || c == '\t' || c == '\n' || c == '\x0c' || c == '\r'

/-- A document type as read. -/
structure Doctype where
  name : List Char
  publicId : Option (List Char)
  systemId : Option (List Char)
  malformed : Bool

/-- Text in lower case, up to ASCII letters. -/
def lowered (cs : List Char) : List Char := cs.map Char.toLower

def skipBlanks (cs : List Char) : List Char := cs.dropWhile isMarkupBlank

/-- Reads an identifier between quotes: the identifier and the rest, or the rest of an identifier
that is not closed. -/
def quotedId? : List Char → Option (List Char × Option (List Char))
  | c :: cs =>
    if c = '"' ∨ c = '\x27' then
      let id := cs.takeWhile (· ≠ c)
      match cs.dropWhile (· ≠ c) with
      | _ :: rest => some (id, some rest)
      | [] => some (id, none)
    else none
  | [] => none

def afterPublicId (name publicId rest : List Char) : Doctype :=
  match skipBlanks rest with
  | [] => ⟨name, some publicId, none, false⟩
  | rest =>
    match quotedId? rest with
    | some (systemId, some _) => ⟨name, some publicId, some systemId, false⟩
    | some (systemId, none) => ⟨name, some publicId, some systemId, true⟩
    | none => ⟨name, some publicId, none, true⟩

def afterName (name rest : List Char) : Doctype :=
  match skipBlanks rest with
  | [] => ⟨name, none, none, false⟩
  | rest =>
    let keyword := lowered (rest.take 6)
    if keyword = "public".toList then
      match quotedId? (skipBlanks (rest.drop 6)) with
      | some (publicId, some rest) => afterPublicId name publicId rest
      | some (publicId, none) => ⟨name, some publicId, none, true⟩
      | none => ⟨name, none, none, true⟩
    else if keyword = "system".toList then
      match quotedId? (skipBlanks (rest.drop 6)) with
      | some (systemId, some _) => ⟨name, none, some systemId, false⟩
      | some (systemId, none) => ⟨name, none, some systemId, true⟩
      | none => ⟨name, none, none, true⟩
    else ⟨name, none, none, true⟩

/-- Reads a document type from the text between its keyword and `>`. -/
def readDoctype (cs : List Char) : Doctype :=
  let cs := skipBlanks cs
  let name := lowered (cs.takeWhile fun c => !isMarkupBlank c)
  if name.isEmpty then ⟨[], none, none, true⟩
  else afterName name (cs.dropWhile fun c => !isMarkupBlank c)

def oldPublicIds : List String :=
  ["-//w3o//dtd w3 html strict 3.0//en//", "-/w3c/dtd html 4.0 transitional/en", "html"]

def oldSystemIds : List String :=
  ["http://www.ibm.com/data/dtd/v11/ibmxhtml1-transitional.dtd"]

def oldPublicStarts : List String :=
  ["+//silmaril//dtd html pro v0r11 19970101//", "-//as//dtd html 3.0 aswedit + extensions//",
    "-//advasoft ltd//dtd html 3.0 aswedit + extensions//",
    "-//ietf//dtd html 2.0 level 1//", "-//ietf//dtd html 2.0 level 2//",
    "-//ietf//dtd html 2.0 strict level 1//", "-//ietf//dtd html 2.0 strict level 2//",
    "-//ietf//dtd html 2.0 strict//", "-//ietf//dtd html 2.0//", "-//ietf//dtd html 2.1e//",
    "-//ietf//dtd html 3.0//", "-//ietf//dtd html 3.2 final//", "-//ietf//dtd html 3.2//",
    "-//ietf//dtd html 3//", "-//ietf//dtd html level 0//", "-//ietf//dtd html level 1//",
    "-//ietf//dtd html level 2//", "-//ietf//dtd html level 3//",
    "-//ietf//dtd html strict level 0//", "-//ietf//dtd html strict level 1//",
    "-//ietf//dtd html strict level 2//", "-//ietf//dtd html strict level 3//",
    "-//ietf//dtd html strict//", "-//ietf//dtd html//",
    "-//metrius//dtd metrius presentational//",
    "-//microsoft//dtd internet explorer 2.0 html strict//",
    "-//microsoft//dtd internet explorer 2.0 html//",
    "-//microsoft//dtd internet explorer 2.0 tables//",
    "-//microsoft//dtd internet explorer 3.0 html strict//",
    "-//microsoft//dtd internet explorer 3.0 html//",
    "-//microsoft//dtd internet explorer 3.0 tables//",
    "-//netscape comm. corp.//dtd html//", "-//netscape comm. corp.//dtd strict html//",
    "-//o'reilly and associates//dtd html 2.0//",
    "-//o'reilly and associates//dtd html extended 1.0//",
    "-//o'reilly and associates//dtd html extended relaxed 1.0//",
    "-//softquad software//dtd hotmetal pro 6.0::19990601::extensions to html 4.0//",
    "-//softquad//dtd hotmetal pro 4.0::19971010::extensions to html 4.0//",
    "-//spyglass//dtd html 2.0 extended//", "-//sq//dtd html 2.0 hotmetal + extensions//",
    "-//sun microsystems corp.//dtd hotjava html//",
    "-//sun microsystems corp.//dtd hotjava strict html//",
    "-//w3c//dtd html 3 1995-03-24//", "-//w3c//dtd html 3.2 draft//",
    "-//w3c//dtd html 3.2 final//", "-//w3c//dtd html 3.2//", "-//w3c//dtd html 3.2s draft//",
    "-//w3c//dtd html 4.0 frameset//", "-//w3c//dtd html 4.0 transitional//",
    "-//w3c//dtd html experimental 19960712//", "-//w3c//dtd html experimental 970421//",
    "-//w3c//dtd w3 html//", "-//w3o//dtd w3 html 3.0//", "-//webtechs//dtd mozilla html 2.0//",
    "-//webtechs//dtd mozilla html//"]

/-- What public identifiers start with that are of old pages without a system identifier. -/
def oldWithoutSystem : List String :=
  ["-//w3c//dtd html 4.01 frameset//", "-//w3c//dtd html 4.01 transitional//"]

def startsWithAny (starts : List String) (cs : List Char) : Bool :=
  starts.any fun s => (afterStart? s.toList cs).isSome

/-- Whether a document type asks for the rules of old pages. -/
def Doctype.isOld (d : Doctype) : Bool :=
  let publicId := d.publicId.map lowered
  let systemId := d.systemId.map lowered
  d.malformed || d.name != "html".toList ||
    publicId.any (fun p => oldPublicIds.any fun s => s.toList == p) ||
    systemId.any (fun p => oldSystemIds.any fun s => s.toList == p) ||
    publicId.any (startsWithAny oldPublicStarts) ||
    (systemId.isNone && publicId.any (startsWithAny oldWithoutSystem))

end Scorebook.Markup
