/-!
# Sets of team codes

A set of codes is the list of its members in ascending order, without repetition.
-/

namespace Scorebook.Franchise

/-- Puts a code at its place among ascending codes, unless it is there. -/
def putCode (code : String) : List String → List String
  | [] => [code]
  | c :: cs =>
    if code < c then code :: c :: cs else if code = c then c :: cs else c :: putCode code cs

structure CodeSet where
  members : List String
deriving DecidableEq, Repr

namespace CodeSet

def ofList (codes : List String) : CodeSet :=
  ⟨codes.foldl (fun done code => putCode code done) []⟩

def contains (s : CodeSet) (code : String) : Bool := s.members.contains code

theorem mem_putCode {c code : String} {cs : List String} :
    c ∈ putCode code cs ↔ c = code ∨ c ∈ cs := by
  induction cs with
  | nil => simp [putCode]
  | cons d ds ih =>
    by_cases h : code < d
    · simp [putCode, h]
    · by_cases he : code = d
      · simp [putCode, he]
      · simp only [putCode, h, he, if_false, List.mem_cons, ih]
        exact ⟨fun
          | .inl h => .inr (.inl h)
          | .inr (.inl h) => .inl h
          | .inr (.inr h) => .inr (.inr h), fun
          | .inl h => .inr (.inl h)
          | .inr (.inl h) => .inl h
          | .inr (.inr h) => .inr (.inr h)⟩

theorem mem_foldl_putCode {c : String} (codes done : List String) :
    c ∈ codes.foldl (fun done code => putCode code done) done ↔ c ∈ codes ∨ c ∈ done := by
  induction codes generalizing done with
  | nil => simp
  | cons d ds ih =>
    simp only [List.foldl_cons, ih, mem_putCode, List.mem_cons]
    constructor
    · rintro (h | h | h) <;> simp_all
    · rintro ((h | h) | h) <;> simp_all

theorem contains_ofList (codes : List String) (c : String) :
    (ofList codes).contains c = true ↔ c ∈ codes := by
  simp [contains, ofList, mem_foldl_putCode]

end CodeSet

end Scorebook.Franchise
