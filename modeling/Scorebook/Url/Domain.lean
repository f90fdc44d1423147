import Scorebook.Text.Case
import Scorebook.Text.Quoted
import Scorebook.Text.Search
import Scorebook.Url.Address
import Scorebook.Url.Punycode

/-!
# Domains

A domain is brought into its ASCII form: percent signs are resolved, letters lowered, characters
that do not count dropped, and labels outside ASCII written in Punycode.

Covered are names in ASCII, and names outside it that are composed already and need no other mapping
than these.  Compatibility characters, such as ligatures, are not taken apart, marks are not joined
to their letters, and the rule on labels that run from right to left is not checked.
-/

namespace Scorebook.Url
open Text

/-- The bytes of a text, with every percent sign and two hexadecimal digits as one byte. -/
def percentDecoded : List Char → List UInt8
  | [] => []
  | '%' :: a :: b :: rest =>
    match hexValue? a, hexValue? b with
    | some x, some y => UInt8.ofNat (x * 16 + y) :: percentDecoded rest
    | _, _ => '%'.toUInt8 :: percentDecoded (a :: b :: rest)
  | c :: rest => c.toString.toUTF8.toList ++ percentDecoded rest
termination_by cs => cs.length

def textOfBytes? (bytes : List UInt8) : Option (List Char) :=
  (String.fromUTF8? ⟨bytes.toArray⟩).map String.toList

def isIgnored (c : Char) : Bool :=
  let n := c.toNat
  n == 0xAD || n == 0x34F || n == 0x200B || n == 0x2060 || n == 0x2064 || n == 0xFEFF ||
    0x180B ≤ n && n ≤ 0x180D || 0xFE00 ≤ n && n ≤ 0xFE0F

def isDot (c : Char) : Bool :=
  c == '.' || c.toNat == 0x3002 || c.toNat == 0xFF0E || c.toNat == 0xFF61

/-- What a character becomes in a domain, if it may stand in one. -/
def domainChar? (c : Char) : Option (List Char) :=
  let n := c.toNat
  if n < 0x80 then some [c.toLower]
  else if isDot c then some ['.']
  else if 0xFF01 ≤ n && n ≤ 0xFF5E then some [(Char.ofNat (n - 0xFEE0)).toLower]
  else if isIgnored c then some []
  else if inRanges n unprintableRanges then none
  else some (lowerChar c)

/-- ASCII characters that may not stand in a domain. -/
def isForbidden (c : Char) : Bool :=
  c.toNat ≤ 0x20 || c.toNat == 0x7F || "#%/:<>?@[\\]^|".contains c

/-- What a label of Punycode has to stand for: a label outside ASCII in its own domain form. -/
def isPlainLabel (label : List Char) : Bool :=
  label.any (fun c => 0x80 ≤ c.toNat) &&
    label.all fun c => domainChar? c == some [c] && c != '.' && !isForbidden c

def asciiLabel? (label : List Char) : Option (List Char) :=
  match afterStart? "xn--".toList label with
  | some rest =>
    match Punycode.decode rest with
    | some decoded => if isPlainLabel decoded then some label else none
    | none => none
  | none =>
    if label.all fun c => c.toNat < 0x80 then some label
    else if label.head?.any fun c => inRanges c.toNat graphemeExtendRanges then none
    else some ("xn--".toList ++ Punycode.encode label)

def asciiDomain? (cs : List Char) : Option (List Char) := do
  let cs ← textOfBytes? (percentDecoded cs)
  let mapped ← cs.mapM domainChar?
  let labels ← (splitAtChar '.' mapped.flatten).mapM asciiLabel?
  let domain := List.intercalate ['.'] labels
  if domain.isEmpty || domain.any isForbidden then none else some domain

end Scorebook.Url
