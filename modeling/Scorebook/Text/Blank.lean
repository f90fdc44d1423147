/-!
# Blanks, trimming and words

The blank characters are those with the Unicode property White_Space.  Text is trimmed, cut into
words and collapsed by this class everywhere in the library.  The work is done on `List Char`;
the functions on `String` only convert.
-/

namespace Scorebook.Text

def isBlank (c : Char) : Bool :=
  let n := c.toNat
  (0x09 ≤ n && n ≤ 0x0D) || n == 0x20 || n == 0x85 || n == 0xA0 || n == 0x1680 ||
  (0x2000 ≤ n && n ≤ 0x200A) || n == 0x2028 || n == 0x2029 || n == 0x202F || n == 0x205F ||
  n == 0x3000

def trimLeft (cs : List Char) : List Char := cs.dropWhile isBlank

def trimRight (cs : List Char) : List Char := (cs.reverse.dropWhile isBlank).reverse

def trim (cs : List Char) : List Char := trimRight (trimLeft cs)

def words (cs : List Char) : List (List Char) :=
  (cs.splitOnP isBlank).filter fun w => !w.isEmpty

def joinWords : List (List Char) → List Char
  | [] => []
  | [w] => w
  | w :: ws => w ++ ' ' :: joinWords ws

/-- One blank for every run of blanks, none at the ends. -/
def collapse (cs : List Char) : List Char := joinWords (words cs)

/-- A string without the blanks at its ends. -/
def trimmed (s : String) : String := String.ofList (trim s.toList)

/-- A string with its runs of blanks collapsed. -/
def collapsed (s : String) : String := String.ofList (collapse s.toList)

def isBlankText (s : String) : Bool := s.toList.all isBlank

end Scorebook.Text
