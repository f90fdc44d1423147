import Scorebook.Text.PrintableTable

/-!
# Quoted text

The form in which messages show a piece of text: between double quotes, with the quote, the
backslash, the common controls, the unprintable characters and the attaching characters escaped.
-/

namespace Scorebook.Text

def inRanges (n : Nat) (ranges : List (Nat × Nat)) : Bool :=
  ranges.any fun (low, high) => low ≤ n && n ≤ high

/-- Whether quoted text shows the character by its code point. -/
def needsCodePoint (c : Char) : Bool :=
  let n := c.toNat
  if 0x20 ≤ n && n < 0x7F then false
  else inRanges n graphemeExtendRanges || inRanges n unprintableRanges

def hexDigits (n : Nat) : List Char := Nat.toDigits 16 n

def quoteChar (c : Char) : List Char :=
  if c = '\x00' then ['\\', '0']
  else if c = '\t' then ['\\', 't']
  else if c = '\r' then ['\\', 'r']
  else if c = '\n' then ['\\', 'n']
  else if c = '\\' then ['\\', '\\']
  else if c = '"' then ['\\', '"']
  else if needsCodePoint c then ['\\', 'u', '\x7b'] ++ hexDigits c.toNat ++ ['\x7d']
  else [c]

def quoted (s : String) : String :=
  String.ofList ('"' :: (s.toList.flatMap quoteChar ++ ['"']))

end Scorebook.Text
