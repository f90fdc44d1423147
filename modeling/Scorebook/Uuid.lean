import Scorebook.Text.Case

/-!
# Universally unique identifiers

An identifier is its 32 hexadecimal digits in lower case.  It is read bare, hyphenated, hyphenated
in braces, or hyphenated after `urn:uuid:`, in any case, and written hyphenated.
-/

namespace Scorebook

/-- The characters of a hexadecimal digit in lower case. -/
def isLowerHex (c : Char) : Bool := c.isDigit || ('a' ≤ c && c ≤ 'f')

/-- A universally unique identifier. -/
structure Uuid where
  /-- The digits in lower case, without hyphens. -/
  digits : List Char
  wellFormed : (digits.length == 32 && digits.all isLowerHex) = true
deriving DecidableEq

namespace Uuid

def nil : Uuid := ⟨List.replicate 32 '0', by decide⟩

instance : Inhabited Uuid := ⟨nil⟩

/-- The identifier with the given digits, in any case. -/
def ofDigits? (cs : List Char) : Option Uuid :=
  let ds := cs.map Char.toLower
  if h : (ds.length == 32 && ds.all isLowerHex) = true then some ⟨ds, h⟩ else none

/-- Whether the hyphens of a 36-character text stand after 8, 12, 16 and 20 digits. -/
def hasHyphens (cs : List Char) : Bool :=
  [8, 13, 18, 23].all fun i => cs[i]? == some '-'

def ofHyphenated? (cs : List Char) : Option Uuid :=
  if cs.length = 36 ∧ hasHyphens cs then
    ofDigits? (cs.take 8 ++ (cs.drop 9).take 4 ++ (cs.drop 14).take 4 ++ (cs.drop 19).take 4 ++
      cs.drop 24)
  else none

/-- The text in front of a hyphenated identifier used as a name. -/
def urnStart : List Char := ['u', 'r', 'n', ':', 'u', 'u', 'i', 'd', ':']

def read? (s : String) : Option Uuid :=
  let cs := s.toList
  if s.utf8ByteSize = 32 then ofDigits? cs
  else if s.utf8ByteSize = 36 then ofHyphenated? cs
  else if s.utf8ByteSize = 38 ∧ cs.head? = some '\x7b' ∧ cs.getLast? = some '\x7d' then
    ofHyphenated? (cs.drop 1).dropLast
  else if s.utf8ByteSize = 45 ∧ cs.take 9 = urnStart then ofHyphenated? (cs.drop 9)
  else none

def text (u : Uuid) : String :=
  let ds := u.digits
  String.ofList (ds.take 8 ++ '-' :: (ds.drop 8).take 4 ++ '-' :: (ds.drop 12).take 4 ++
    '-' :: (ds.drop 16).take 4 ++ '-' :: ds.drop 20)

end Uuid

end Scorebook
