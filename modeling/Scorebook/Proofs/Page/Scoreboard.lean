import Scorebook.Page.Layout

/-!
# Scoreboards that are read

A scoreboard is read exactly when the signature of the page has one, and every row that is taken by
its number while reading it exists.
-/

namespace Scorebook.Page

variable {tables : List Table} {t : Table}

theorem isSome_scoreboard? :
    (scoreboard? tables).isSome = (Signature.ofTables tables).hasScoreboard := by
  show (scoreboard? tables).isSome = (tables.any isScoreboard ||
    (tables.any isTeamPart && tables.any isInningPart && tables.any isTotalsPart))
  simp only [← List.isSome_find?, scoreboard?]
  cases tables.find? isScoreboard with
  | some t => rfl
  | none =>
    cases tables.find? isTeamPart <;> cases tables.find? isInningPart <;>
      cases tables.find? isTotalsPart <;> rfl

/-! ### Rows by number -/

/-- The row of a side, if the table has it. -/
def rowOf? (t : Table) : Side → Option (List Cell)
  | .away => t.rows[0]?
  | .home => t.rows[1]?

/-- A line for each side, unless one is missing. -/
def bothLines? (f : Side → Option TeamLine) : Option (PerSide TeamLine) := do
  let away ← f .away
  let home ← f .home
  some ⟨away, home⟩

/-- Reads a scoreboard in one table; a row that does not exist ends the reading. -/
def readWhole? (t : Table) : Option (PerSide TeamLine) :=
  bothLines? fun side => do
    let row ← rowOf? t side
    some (lineOf (textAt? row (t.column? teamHeaders)) (halvesOf t row) t row)

/-- Reads a scoreboard in three tables; a row that does not exist ends the reading. -/
def readParts? (team innings totals : Table) : Option (PerSide TeamLine) :=
  bothLines? fun side => do
    let named ← rowOf? team side
    let played ← rowOf? innings side
    let totalled ← rowOf? totals side
    some (lineOf (textAt? named (team.column? teamHeaders)) (halvesOf innings played) totals
      totalled)

/-- Reads the scoreboard of a page, if it has one; `none` when a row was taken that does not
exist. -/
def scoreboardByRows? (tables : List Table) : Option (Option (PerSide TeamLine)) :=
  match tables.find? isScoreboard with
  | some t => (readWhole? t).map some
  | none =>
    match tables.find? isTeamPart, tables.find? isInningPart, tables.find? isTotalsPart with
    | some team, some innings, some totals => (readParts? team innings totals).map some
    | _, _, _ => some none

theorem rowOf?_of_hasTwoRows (h : hasTwoRows t = true) (side : Side) :
    rowOf? t side = some (rowOf t side) := by
  have hlength : 2 ≤ t.rows.length := of_decide_eq_true h
  cases side with
  | away =>
    have hrow := List.getElem?_eq_getElem (Nat.lt_of_lt_of_le Nat.zero_lt_two hlength)
    simp only [rowOf?, rowOf, hrow, Option.getD_some]
  | home =>
    have hrow := List.getElem?_eq_getElem (Nat.lt_of_lt_of_le Nat.one_lt_two hlength)
    simp only [rowOf?, rowOf, hrow, Option.getD_some]

theorem readWhole?_eq (h : hasTwoRows t = true) : readWhole? t = some (readWhole t) := by
  simp only [readWhole?, rowOf?_of_hasTwoRows h]
  rfl

theorem readParts?_eq {team innings totals : Table} (hteam : hasTwoRows team = true)
    (hinnings : hasTwoRows innings = true) (htotals : hasTwoRows totals = true) :
    readParts? team innings totals = some (readParts team innings totals) := by
  simp only [readParts?, rowOf?_of_hasTwoRows hteam, rowOf?_of_hasTwoRows hinnings,
    rowOf?_of_hasTwoRows htotals]
  rfl

/-- The tables of a scoreboard have the rows that are read. -/
theorem scoreboardByRows?_eq : scoreboardByRows? tables = some (scoreboard? tables) := by
  unfold scoreboardByRows? scoreboard?
  cases hwhole : tables.find? isScoreboard with
  | some t =>
    have htest : isScoreboard t = true := List.find?_some hwhole
    simp only [readWhole?_eq (Bool.and_eq_true_iff.1 htest).right, Option.map_some]
  | none =>
    cases hteam : tables.find? isTeamPart with
    | none => rfl
    | some team =>
      cases hinnings : tables.find? isInningPart with
      | none => rfl
      | some innings =>
        cases htotals : tables.find? isTotalsPart with
        | none => rfl
        | some totals =>
          have hteam : isTeamPart team = true := List.find?_some hteam
          have hinnings : isInningPart innings = true := List.find?_some hinnings
          have htotals : isTotalsPart totals = true := List.find?_some htotals
          simp only [readParts?_eq (Bool.and_eq_true_iff.1 hteam).right
            (Bool.and_eq_true_iff.1 hinnings).right (Bool.and_eq_true_iff.1 htotals).right,
            Option.map_some]
          rfl

end Scorebook.Page
