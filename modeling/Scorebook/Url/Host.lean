import Scorebook.Url.Domain

/-!
# Hosts of URLs

The host of an absolute URL, in its standard form.  Schemes that everyone shares have rules of their
own: their slashes may be any number and lean either way, and they always have a host; the host of a
file is optional.  Of other schemes the host is taken as it stands.
-/

namespace Scorebook.Url
open Text

inductive SchemeKind where
  | file
  | shared
  | other
deriving DecidableEq, Repr

/-- The kind of a scheme in lower case. -/
def SchemeKind.ofName (name : String) : SchemeKind :=
  if name == "file" then .file
  else if ["http", "https", "ws", "wss", "ftp"].contains name then .shared
  else .other

/-- The characters of a URL that count: without controls and blanks at its ends, and without tabs
and line breaks anywhere. -/
def urlChars (s : String) : List Char :=
  let isEdge := fun (c : Char) => c.toNat ≤ 0x20
  let cs := ((s.toList.dropWhile isEdge).reverse.dropWhile isEdge).reverse
  cs.filter fun c => c != '\t' && c != '\n' && c != '\r'

/-- Whether a character may stand in a scheme behind its first letter. -/
def isSchemeChar (c : Char) : Bool := c.isAlphanum || c == '+' || c == '-' || c == '.'

/-- The scheme in lower case and what follows its colon. -/
def scheme? (cs : List Char) : Option (String × List Char) :=
  match cs with
  | c :: _ =>
    if c.isAlpha then
      match cs.dropWhile isSchemeChar with
      | ':' :: rest => some (String.ofList ((cs.takeWhile isSchemeChar).map Char.toLower), rest)
      | _ => none
    else none
  | [] => none

def isSlash (c : Char) : Bool := c == '/' || c == '\\'

/-- What follows the last `@`; the part in front of it names a user. -/
def afterUser (cs : List Char) : List Char := (cs.reverse.takeWhile (· ≠ '@')).reverse

/-- The part in front of the first colon that is not within brackets, and the rest. -/
def cutPort (inBrackets : Bool) : List Char → List Char × List Char
  | [] => ([], [])
  | c :: cs =>
    if c = ':' && !inBrackets then ([], c :: cs)
    else
      let inBrackets := if c = '[' then true else if c = ']' then false else inBrackets
      let (host, rest) := cutPort inBrackets cs
      (c :: host, rest)

/-- Whether what follows a host is a port, or nothing. -/
def isPort : List Char → Bool
  | ':' :: cs =>
    let rest := cs.dropWhile Char.isDigit
    (rest.isEmpty || rest.head? == some '\\') && digitsValue (leadingDigits cs) ≤ maxU16
  | cs => cs.isEmpty

/-- Reads a host of a shared scheme or of a file. -/
def readHost? (cs : List Char) : Option String :=
  if cs.head? == some '[' then readBracketed? cs
  else do
    let domain ← asciiDomain? cs
    if endsInNumber domain then readFourBytes? domain else some (String.ofList domain)

/-- A character of a host that is taken as it stands; what is not plain ASCII is written with
percent signs. -/
def opaqueChar (c : Char) : List Char :=
  if 0x20 ≤ c.toNat && c.toNat < 0x7F then [c]
  else
    c.toString.toUTF8.toList.flatMap fun b =>
      '%' :: (if b.toNat < 16 then ['0'] else []) ++ (hexDigits b.toNat).map Char.toUpper

def readOpaqueHost? (cs : List Char) : Option String :=
  if cs.head? == some '[' then readBracketed? cs
  else if cs.any fun c => c.toNat == 0 || " #/:<>?@[\\]^|".contains c then none
  else some (String.ofList (cs.flatMap opaqueChar))

/-- The host of an authority: between user and port, and not empty. -/
def authorityHost? (kind : SchemeKind) (cs : List Char) : Option String :=
  let ends := fun c => c == '/' || c == '?' || c == '#' || kind == .shared && c == '\\'
  let (host, rest) := cutPort false (afterUser (cs.takeWhile fun c => !ends c))
  if host.isEmpty || !isPort rest then none
  else if kind == .shared then readHost? host
  else readOpaqueHost? host

def isDrive : List Char → Bool
  | [letter, mark] => letter.isAlpha && (mark == ':' || mark == '|')
  | _ => false

/-- The host of a file, from behind its two slashes.  A drive is none, and makes a host in front of
it void. -/
def fileHost? (cs : List Char) : Option String :=
  let ends := fun c => isSlash c || c == '?' || c == '#'
  let host := cs.takeWhile fun c => !ends c
  let path := cs.dropWhile fun c => !ends c
  let step := if path.head?.any isSlash then path.drop 1 else path
  if host.isEmpty || isDrive host then none
  else
    (readHost? host).filter fun name =>
      name != "localhost" && !isDrive (step.takeWhile fun c => !ends c)

/-- The host of a URL, if it has one. -/
def host? (s : String) : Option String := do
  let (scheme, rest) ← scheme? (urlChars s)
  match SchemeKind.ofName scheme with
  | .shared => authorityHost? .shared (rest.dropWhile isSlash)
  | .other =>
    match rest with
    | '/' :: '/' :: rest => authorityHost? .other rest
    | _ => none
  | .file =>
    match rest with
    | a :: b :: rest => if isSlash a && isSlash b then fileHost? rest else none
    | _ => none

/-- The host of a URL, empty when it has none. -/
def host (s : String) : String := (host? s).getD ""

end Scorebook.Url
