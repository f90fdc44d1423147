import Scorebook.Roster.Basic

/-!
# Lineups

The players that a game's lineup page links, by printed name.
-/

namespace Scorebook

/-- Candidates by name; names are in the order in which they were first seen. -/
structure Lineup where
  players : List (String × List Candidate)
deriving Repr

namespace Lineup
open Text

def empty : Lineup := ⟨[]⟩

/-- Adds a candidate unless its player is among the others. -/
def addCandidate (c : Candidate) (others : List Candidate) : List Candidate :=
  if others.any fun o => o.player == c.player then others else others ++ [c]

def addUnder (name : String) (c : Candidate) :
    List (String × List Candidate) → List (String × List Candidate)
  | [] => [(name, [c])]
  | (n, cs) :: rest =>
    if n = name then (n, addCandidate c cs) :: rest else (n, cs) :: addUnder name c rest

/-- The lineup with a linked player.  Blanks around the name do not count, and a blank name is not
taken. -/
def insert (l : Lineup) (name : String) (c : Candidate) : Lineup :=
  if isBlankText name then l else ⟨addUnder (trimmed name) c l.players⟩

def candidates (l : Lineup) (name : String) : List Candidate :=
  (l.players.lookup (trimmed name)).getD []

def size (l : Lineup) : Nat := l.players.length

end Lineup

end Scorebook
