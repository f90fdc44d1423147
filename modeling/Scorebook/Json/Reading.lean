import Scorebook.Json.Number
import Scorebook.Text.Search

/-!
# Reading JSON

A text is cut into lexemes, and the lexemes are read in one pass with a stack of the arrays and
objects that are open.  At most `maxDepth` of them may be open at a time.
-/

namespace Scorebook.Json
open Text

/-- How many arrays and objects may be open at a time. -/
def maxDepth : Nat := 127

/-- A piece of JSON text. -/
inductive Lexeme where
  | openArray
  | closeArray
  | openObject
  | closeObject
  | comma
  | colon
  | text (s : String)
  | value (v : Json)

def hex4? (a b c d : Char) : Option Nat := do
  let a ← hexValue? a
  let b ← hexValue? b
  let c ← hexValue? c
  let d ← hexValue? d
  some (((a * 16 + b) * 16 + c) * 16 + d)

def simpleEscape? (c : Char) : Option Char :=
  if c = '"' ∨ c = '\\' ∨ c = '/' then some c
  else if c = 'b' then some '\x08'
  else if c = 'f' then some '\x0c'
  else if c = 'n' then some '\n'
  else if c = 'r' then some '\r'
  else if c = 't' then some '\t'
  else none

/-- Reads the inside of a string up to its closing quote.  `high` is the first half of a pair of
escapes whose second half has to follow; `done` holds the characters read, last first. -/
def stringFrom (high : Option Nat) (done : List Char) : List Char → Option (String × List Char)
  | [] => none
  | '"' :: cs => if high.isSome then none else some (String.ofList done.reverse, cs)
  | '\\' :: 'u' :: a :: b :: c :: d :: cs =>
    match hex4? a b c d with
    | none => none
    | some n =>
      match high with
      | some h =>
        if 0xDC00 ≤ n ∧ n ≤ 0xDFFF then
          stringFrom none (Char.ofNat (0x10000 + (h - 0xD800) * 0x400 + (n - 0xDC00)) :: done) cs
        else none
      | none =>
        if 0xD800 ≤ n ∧ n ≤ 0xDBFF then stringFrom (some n) done cs
        else if 0xDC00 ≤ n ∧ n ≤ 0xDFFF then none
        else stringFrom none (Char.ofNat n :: done) cs
  | '\\' :: c :: cs =>
    match high, simpleEscape? c with
    | none, some e => stringFrom none (e :: done) cs
    | _, _ => none
  | c :: cs =>
    if high.isSome ∨ c.toNat < 0x20 ∨ c = '\\' then none else stringFrom none (c :: done) cs

def isJsonBlank (c : Char) : Bool := c == ' ' || c == '\n' || c == '\t' || c == '\r'

/-- The first lexeme of a text without leading blanks, and the rest. -/
def lexeme? : List Char → Option (Lexeme × List Char)
  | [] => none
  | '[' :: cs => some (.openArray, cs)
  | ']' :: cs => some (.closeArray, cs)
  | '\x7b' :: cs => some (.openObject, cs)
  | '\x7d' :: cs => some (.closeObject, cs)
  | ',' :: cs => some (.comma, cs)
  | ':' :: cs => some (.colon, cs)
  | '"' :: cs => (stringFrom none [] cs).map fun (s, rest) => (.text s, rest)
  | c :: cs =>
    if c = 'n' then (afterStart? ['u', 'l', 'l'] cs).map (.value .null, ·)
    else if c = 't' then (afterStart? ['r', 'u', 'e'] cs).map (.value (.bool true), ·)
    else if c = 'f' then (afterStart? ['a', 'l', 's', 'e'] cs).map (.value (.bool false), ·)
    else (JsonNumber.read (c :: cs)).map fun (n, rest) => (.value (.num n), rest)

/-- The lexemes of a text.  A lexeme takes at least one character; the test of the lengths makes
that visible to the recursion. -/
def lexemes? (cs : List Char) : Option (List Lexeme) :=
  match cs with
  | [] => some []
  | c :: rest =>
    if isJsonBlank c then lexemes? rest
    else
      match lexeme? (c :: rest) with
      | none => none
      | some (l, after) =>
        if _h : after.length < (c :: rest).length then (lexemes? after).map (l :: ·) else none
termination_by cs.length
decreasing_by
  · exact Nat.lt_succ_self rest.length
  · assumption

/-- An array or object that is open, with its finished parts, last first. -/
inductive Frame where
  | items (done : List Json)
  | fields (done : List (String × Json))
  | field (done : List (String × Json)) (name : String)

/-- What has just been read, which decides what may follow. -/
inductive Position where
  | beforeValue
  | afterOpenArray
  | afterOpenObject
  | beforeName
  | afterName (name : String)
  | afterValue (v : Json)

/-- The state of reading: the open frames, innermost first, and the position. -/
structure Progress where
  frames : List Frame
  position : Position

def Progress.push (frames : List Frame) (f : Frame) (p : Position) : Option Progress :=
  if frames.length < maxDepth then some ⟨f :: frames, p⟩ else none

def Progress.value (frames : List Frame) : Lexeme → Option Progress
  | .text s => some ⟨frames, .afterValue (.str s)⟩
  | .value v => some ⟨frames, .afterValue v⟩
  | .openArray => Progress.push frames (.items []) .afterOpenArray
  | .openObject => Progress.push frames (.fields []) .afterOpenObject
  | _ => none

def Progress.next (v : Json) : List Frame → Lexeme → Option Progress
  | .items done :: frames, .comma => some ⟨.items (v :: done) :: frames, .beforeValue⟩
  | .items done :: frames, .closeArray => some ⟨frames, .afterValue (.arr (v :: done).reverse)⟩
  | .field done name :: frames, .comma => some ⟨.fields ((name, v) :: done) :: frames, .beforeName⟩
  | .field done name :: frames, .closeObject =>
    some ⟨frames, .afterValue (.obj ((name, v) :: done).reverse)⟩
  | _, _ => none

def Progress.step (p : Progress) (l : Lexeme) : Option Progress :=
  match p.position, l with
  | .beforeValue, l => Progress.value p.frames l
  | .afterOpenArray, .closeArray =>
    match p.frames with
    | _ :: frames => some ⟨frames, .afterValue (.arr [])⟩
    | [] => none
  | .afterOpenArray, l => Progress.value p.frames l
  | .afterOpenObject, .closeObject =>
    match p.frames with
    | _ :: frames => some ⟨frames, .afterValue (.obj [])⟩
    | [] => none
  | .afterOpenObject, .text s => some ⟨p.frames, .afterName s⟩
  | .beforeName, .text s => some ⟨p.frames, .afterName s⟩
  | .afterName name, .colon =>
    match p.frames with
    | .fields done :: frames => some ⟨.field done name :: frames, .beforeValue⟩
    | _ => none
  | .afterValue v, l => Progress.next v p.frames l
  | _, _ => none

def Progress.run : Progress → List Lexeme → Option Json
  | ⟨[], .afterValue v⟩, [] => some v
  | _, [] => none
  | p, l :: ls =>
    match p.step l with
    | some p => Progress.run p ls
    | none => none

/-- Reads a text as one JSON value; repeated field names are kept. -/
def read? (s : String) : Option Json :=
  match lexemes? s.toList with
  | some ls => Progress.run ⟨[], .beforeValue⟩ ls
  | none => none

end Scorebook.Json
