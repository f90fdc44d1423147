import Scorebook.Text.CaseTable
import Scorebook.Text.LowerTable

/-!
# Letter case

`upper` is full Unicode upper-casing: a character may become several (`ß` becomes `SS`).
`asciiUpper` touches ASCII letters only, `lowerChar` is the lower case of a character, and `foldKey`
lowers what can take part in an ASCII key.
-/

namespace Scorebook.Text

/-- A mapping run covers a code point when it lies between the ends and on the stride. -/
def inRun (n first last stride : Nat) : Bool :=
  first ≤ n && n ≤ last && (n - first) % stride == 0

def upperChar (c : Char) : List Char :=
  let n := c.toNat
  if n < 0x80 then [c.toUpper]
  else
    match upperExpansions.find? fun (m, _) => m == n with
    | some (_, cs) => cs.map Char.ofNat
    | none =>
      match upperRuns.find? fun (first, last, stride, _) => inRun n first last stride with
      | some (_, _, _, delta) => [Char.ofNat ((n : Int) + delta).toNat]
      | none => [c]

def upper (cs : List Char) : List Char := cs.flatMap upperChar

def uppered (s : String) : String := String.ofList (upper s.toList)

def lowerChar (c : Char) : List Char :=
  let n := c.toNat
  if n < 0x80 then [c.toLower]
  else if n = 0x130 then ['i', Char.ofNat 0x307]
  else
    match lowerRuns.find? fun (first, last, stride, _) => inRun n first last stride with
    | some (_, _, _, delta) => [Char.ofNat ((n : Int) + delta).toNat]
    | none => [c]

/-- A string with its ASCII letters in upper case. -/
def asciiUppered (s : String) : String := String.ofList (s.toList.map Char.toUpper)

/-- A string with its ASCII letters in lower case. -/
def asciiLowered (s : String) : String := String.ofList (s.toList.map Char.toLower)

/-- Whether two strings agree up to the case of ASCII letters. -/
def sameIgnoringAsciiCase (s t : String) : Bool := asciiLowered s == asciiLowered t

/-- The lower case of the characters whose lower case is an ASCII letter: the ASCII capitals and
the Kelvin sign.  No other character can make a key equal to an ASCII one. -/
def foldKeyChar (c : Char) : Char := if c.toNat = 0x212A then 'k' else c.toLower

/-- A key with the characters lowered that can take part in an ASCII key. -/
def foldKey (s : String) : String := String.ofList (s.toList.map foldKeyChar)

end Scorebook.Text
