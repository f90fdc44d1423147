/-!
# Cutting text at a marker

Finding a piece of text inside another, cutting at its first occurrence, and replacing every
occurrence.
-/

namespace Scorebook.Text

/-- What follows `head`, when the text starts with it. -/
def afterStart? : List Char → List Char → Option (List Char)
  | [], cs => some cs
  | _ :: _, [] => none
  | h :: hs, c :: cs => if h = c then afterStart? hs cs else none

/-- The parts before and after the first occurrence of `mark`. -/
def cutAt? (mark : List Char) : List Char → Option (List Char × List Char)
  | [] => (afterStart? mark []).map ([], ·)
  | c :: cs =>
    match afterStart? mark (c :: cs) with
    | some rest => some ([], rest)
    | none => (cutAt? mark cs).map fun (before, after) => (c :: before, after)

def hasPiece (mark cs : List Char) : Bool := (cutAt? mark cs).isSome

/-- The parts between the occurrences of a character. -/
def splitAtChar (mark : Char) (cs : List Char) : List (List Char) := cs.splitOnP (· == mark)

/-- Every occurrence of one character replaced by a piece of text. -/
def replaceChar (old : Char) (new : List Char) (cs : List Char) : List Char :=
  cs.flatMap fun c => if c = old then new else [c]

def leadingDigits (cs : List Char) : List Char := cs.takeWhile Char.isDigit

end Scorebook.Text
