import Scorebook.Proofs.Page.Scoreboard
import Scorebook.Proofs.Text.Ends

/-!
# One scoreboard in two markups

A scoreboard in one table, and the same scoreboard cut between its columns into the tables of the
teams, of the innings and of the totals, are read alike.  What tells the columns apart is their
headers: a header of a team, of an inning or of a total is never taken for one of another kind.
-/

namespace Scorebook.Page
open Text

/-! ### Headers of different kinds -/

theorem isWanted_iff {wanted : List String} {header : String} :
    Table.isWanted wanted header = true ↔
      ∃ w ∈ wanted, asciiLowered header = asciiLowered w := by
  simp only [Table.isWanted, sameIgnoringAsciiCase, List.any_eq_true, beq_iff_eq]

/-- A header that is one of some words is none of other words, when no word is among both. -/
theorem isWanted_eq_false {words others : List String} {header : String}
    (h : Table.isWanted words header = true)
    (hd : words.all (fun w => !Table.isWanted others w) = true) :
    Table.isWanted others header = false := by
  obtain ⟨w, hw, heq⟩ := isWanted_iff.1 h
  have hother := List.all_eq_true.1 hd w hw
  rw [Bool.not_eq_true'] at hother
  rw [Bool.eq_false_iff]
  intro hheader
  obtain ⟨o, ho, hsame⟩ := isWanted_iff.1 hheader
  rw [isWanted_iff.2 ⟨o, ho, heq.symm.trans hsame⟩] at hother
  cases hother

/-- A character with which a numeral may begin. -/
def beginsNumeral (c : Char) : Bool := c.isDigit || c == '+'

theorem head_of_readDigits {bound acc n : Nat} {c : Char} {cs : List Char}
    (h : readDigitsFrom bound acc (c :: cs) = .ok n) : c.isDigit = true := by
  unfold readDigitsFrom at h
  by_cases hc : c.isDigit = true
  · exact hc
  · rw [Bool.not_eq_true] at hc
    rw [hc] at h
    cases h

theorem head_of_numeral? {bound n : Nat} {cs : List Char} (h : numeral? bound cs = some n) :
    ∃ c rest, cs = c :: rest ∧ beginsNumeral c = true := by
  unfold numeral? readNumeral at h
  split at h
  · cases h
  · cases h
  · cases h
  · rename_i rest _
    exact ⟨'+', rest, rfl, rfl⟩
  · rename_i hempty _ _ _
    cases cs with
    | nil => exact absurd rfl hempty
    | cons c rest =>
      cases hread : readDigitsFrom bound 0 (c :: rest) with
      | error e =>
        rw [hread] at h
        cases h
      | ok m => exact ⟨c, rest, rfl, by rw [beginsNumeral, head_of_readDigits hread]; rfl⟩

theorem head_of_isInningHeader {header : String} (h : isInningHeader header = true) :
    ∃ c rest, header.toList = c :: rest ∧ beginsNumeral c = true := by
  unfold isInningHeader at h
  split at h
  · rename_i n hn
    obtain ⟨c, rest, hcs, hc⟩ := head_of_numeral? hn
    have hpre : (header.toList.reverse.dropWhile (· == '회')).reverse <+: header.toList :=
      List.rdropWhile_prefix _ _
    rw [hcs] at hpre
    obtain ⟨more, hmore⟩ := hpre
    exact ⟨c, rest ++ more, hmore.symm, hc⟩
  · cases h

theorem toLower_of_beginsNumeral {c : Char} (h : beginsNumeral c = true) : c.toLower = c := by
  have hascii : c.toNat < 128 := by
    rcases Bool.or_eq_true_iff.1 h with hd | hp
    · exact toNat_lt_of_isAlphanum (isAlphanum_of_isDigit hd)
    · rw [beq_iff_eq.1 hp]
      decide
  revert h
  exact forall_ascii (P := fun c => beginsNumeral c = true → c.toLower = c) (by decide) hascii

/-- The header of an inning begins like a numeral, so it is none of words that do not. -/
theorem isWanted_of_isInningHeader {words : List String} {header : String}
    (h : isInningHeader header = true)
    (hd : words.all (fun w => !(asciiLowered w).toList.head?.any beginsNumeral) = true) :
    Table.isWanted words header = false := by
  obtain ⟨c, rest, hheader, hc⟩ := head_of_isInningHeader h
  rw [Bool.eq_false_iff]
  intro hwanted
  obtain ⟨w, hw, heq⟩ := isWanted_iff.1 hwanted
  have hword := List.all_eq_true.1 hd w hw
  have hhead : (asciiLowered header).toList.head? = some c := by
    simp [asciiLowered, hheader, toLower_of_beginsNumeral hc]
  rw [← heq, hhead, Option.any_some, hc] at hword
  cases hword

theorem halvesOf_eq (t : Table) (row : List Cell) : halvesOf t row =
    (t.headers.zipIdx.filter fun x => isInningHeader x.1).map fun x =>
      (textAt? row (some x.2)).bind readCount? := rfl

/-! ### Columns cut out of a table -/

/-- So many columns of a table, from a place on, as a table of their own. -/
def Table.columns (t : Table) (start count : Nat) : Table :=
  ⟨none, (t.headers.drop start).take count, t.rows.map fun row => (row.drop start).take count⟩

section
variable (t : Table) (start count : Nat)

theorem hasTwoRows_columns : hasTwoRows (t.columns start count) = hasTwoRows t := by
  simp only [hasTwoRows, Table.columns, List.length_map]

theorem rowOf_columns (side : Side) :
    rowOf (t.columns start count) side = ((rowOf t side).drop start).take count := by
  cases side
  · cases h : t.rows[0]? <;> simp [rowOf, Table.columns, h]
  · cases h : t.rows[1]? <;> simp [rowOf, Table.columns, h]

theorem textAt?_columns (row : List Cell) {i : Nat} (h : i < count) :
    textAt? ((row.drop start).take count) (some i) = textAt? row (some (start + i)) := by
  simp only [textAt?, Option.bind_some, List.getElem?_take_of_lt h, List.getElem?_drop]

end

/-! ### The parts of a scoreboard -/

/-- A scoreboard in one table, by its headers: a team, innings, and totals. -/
structure IsBoard (t : Table) (team : String) (innings totals : List String) : Prop where
  headers : t.headers = team :: (innings ++ totals)
  named : Table.isWanted teamHeaders team = true
  played : ∀ h ∈ innings, isInningHeader h = true
  enough : 3 ≤ innings.length
  totalled : ∀ h ∈ totals, Table.isWanted teamHeaders h = false ∧ isInningHeader h = false ∧
    Table.isWanted playerHeaders h = false
  runs : totals.any (Table.isWanted ["R"]) = true
  hits : totals.any (Table.isWanted ["H"]) = true
  rows : hasTwoRows t = true

def teamPart (t : Table) : Table := t.columns 0 1

def inningPart (t : Table) (innings : List String) : Table := t.columns 1 innings.length

def totalsPart (t : Table) (innings totals : List String) : Table :=
  t.columns (1 + innings.length) totals.length

/-- Words of which none is the header of a team or of an inning. -/
structure Elsewhere (words : List String) : Prop where
  teams : teamHeaders.all (fun w => !Table.isWanted words w) = true
  innings : words.all (fun w => !(asciiLowered w).toList.head?.any beginsNumeral) = true

theorem elsewhere_runs : Elsewhere ["R"] := ⟨by decide, by decide⟩

theorem elsewhere_hits : Elsewhere ["H"] := ⟨by decide, by decide⟩

theorem elsewhere_errors : Elsewhere ["E"] := ⟨by decide, by decide⟩

theorem elsewhere_players : Elsewhere playerHeaders := ⟨by decide, by decide⟩

namespace IsBoard

variable {t : Table} {team : String} {innings totals : List String}
  (hb : IsBoard t team innings totals)
include hb

theorem headers_teamPart : (teamPart t).headers = [team] := by
  simp [teamPart, Table.columns, hb.headers]

theorem headers_inningPart : (inningPart t innings).headers = innings := by
  simp [inningPart, Table.columns, hb.headers]

theorem headers_totalsPart : (totalsPart t innings totals).headers = totals := by
  simp [totalsPart, Table.columns, hb.headers, Nat.add_comm 1]

theorem team_unwanted {words : List String} (hw : Elsewhere words) :
    Table.isWanted words team = false :=
  isWanted_eq_false hb.named hw.teams

theorem innings_unwanted {words : List String} (hw : Elsewhere words) :
    innings.any (Table.isWanted words) = false := by
  rw [List.any_eq_false]
  intro h hm
  rw [isWanted_of_isInningHeader (hb.played h hm) hw.innings]
  exact Bool.false_ne_true

theorem no_team_inning : innings.any (Table.isWanted teamHeaders) = false := by
  rw [List.any_eq_false]
  intro h hm
  rw [isWanted_of_isInningHeader (hb.played h hm) (by decide)]
  exact Bool.false_ne_true

theorem no_team_total : totals.any (Table.isWanted teamHeaders) = false := by
  rw [List.any_eq_false]
  intro h hm
  rw [(hb.totalled h hm).1]
  exact Bool.false_ne_true

theorem no_player_total : totals.any (Table.isWanted playerHeaders) = false := by
  rw [List.any_eq_false]
  intro h hm
  rw [(hb.totalled h hm).2.2]
  exact Bool.false_ne_true

/-! ### Which table is which -/

theorem isScoreboard_board : isScoreboard t = true := by
  have hheader : ∀ words, t.hasHeader words = (Table.isWanted words team ||
      (innings.any (Table.isWanted words) || totals.any (Table.isWanted words))) := by
    intro words
    rw [Table.hasHeader, hb.headers, List.any_cons, List.any_append]
  simp only [isScoreboard, hasTotals, hheader, hb.named, hb.runs, hb.hits, hb.rows,
    hb.team_unwanted elsewhere_players, hb.innings_unwanted elsewhere_players, hb.no_player_total,
    Bool.or_true, Bool.true_or, Bool.or_false, Bool.not_false, Bool.and_true]

theorem hasTotals_totalsPart : hasTotals (totalsPart t innings totals) = true := by
  simp only [hasTotals, Table.hasHeader, hb.headers_totalsPart, hb.runs, hb.hits,
    hb.no_player_total, Bool.not_false, Bool.and_true]

theorem hasTotals_teamPart : hasTotals (teamPart t) = false := by
  simp only [hasTotals, Table.hasHeader, hb.headers_teamPart, List.any_cons, List.any_nil,
    hb.team_unwanted elsewhere_runs, Bool.or_false, Bool.false_and]

theorem hasTotals_inningPart : hasTotals (inningPart t innings) = false := by
  simp only [hasTotals, Table.hasHeader, hb.headers_inningPart,
    hb.innings_unwanted elsewhere_runs, Bool.false_and]

/-- The part of the teams is the team table of a scoreboard and no other table of one. -/
theorem tests_teamPart : isScoreboard (teamPart t) = false ∧ isTeamPart (teamPart t) = true ∧
    isInningPart (teamPart t) = false ∧ isTotalsPart (teamPart t) = false := by
  have hteam : (teamPart t).hasHeader teamHeaders = true := by
    simp only [Table.hasHeader, hb.headers_teamPart, List.any_cons, hb.named, Bool.true_or]
  have hrows : hasTwoRows (teamPart t) = true := (hasTwoRows_columns t 0 1).trans hb.rows
  simp [isScoreboard, isTeamPart, isInningPart, isTotalsPart, hteam, hrows,
    hb.hasTotals_teamPart]

theorem tests_inningPart : isScoreboard (inningPart t innings) = false ∧
    isTeamPart (inningPart t innings) = false ∧ isInningPart (inningPart t innings) = true ∧
    isTotalsPart (inningPart t innings) = false := by
  have hteam : (inningPart t innings).hasHeader teamHeaders = false := by
    simp only [Table.hasHeader, hb.headers_inningPart, hb.no_team_inning]
  have hrows : hasTwoRows (inningPart t innings) = true := (hasTwoRows_columns t 1 _).trans hb.rows
  have hcount : (inningPart t innings).headers.countP isInningHeader = innings.length := by
    rw [hb.headers_inningPart, List.countP_eq_length]
    exact hb.played
  simp [isScoreboard, isTeamPart, isInningPart, isTotalsPart, hteam, hrows, hcount, hb.enough,
    hb.hasTotals_inningPart]

theorem tests_totalsPart : isScoreboard (totalsPart t innings totals) = false ∧
    isTeamPart (totalsPart t innings totals) = false ∧
    isInningPart (totalsPart t innings totals) = false ∧
    isTotalsPart (totalsPart t innings totals) = true := by
  have hteam : (totalsPart t innings totals).hasHeader teamHeaders = false := by
    simp only [Table.hasHeader, hb.headers_totalsPart, hb.no_team_total]
  have hrows : hasTwoRows (totalsPart t innings totals) = true :=
    (hasTwoRows_columns t _ _).trans hb.rows
  simp [isScoreboard, isTeamPart, isInningPart, isTotalsPart, hteam, hrows,
    hb.hasTotals_totalsPart]

/-! ### The lines -/

/-- A word that is elsewhere than a team or an inning leads to the same cell of a total. -/
theorem textAt?_total {words : List String} (hw : Elsewhere words) (row : List Cell) :
    textAt? ((row.drop (1 + innings.length)).take totals.length)
        ((totalsPart t innings totals).column? words) =
      textAt? row (t.column? words) := by
  have hinnings : innings.findIdx? (Table.isWanted words) = none := by
    rw [List.findIdx?_eq_none_iff]
    intro h hm
    rw [Bool.eq_false_iff]
    exact List.any_eq_false.1 (hb.innings_unwanted hw) h hm
  have hwhole : t.column? words =
      (totals.findIdx? (Table.isWanted words)).map (1 + innings.length + ·) := by
    rw [Table.column?, hb.headers, List.findIdx?_cons, hb.team_unwanted hw, List.findIdx?_append,
      hinnings]
    simp only [Bool.false_eq_true, if_false, Option.none_or, Option.map_map]
    congr 1
    funext i
    simp only [Function.comp_apply]
    omega
  rw [hwhole, Table.column?, hb.headers_totalsPart]
  cases hfound : totals.findIdx? (Table.isWanted words) with
  | none => rfl
  | some i =>
    have hi : i < totals.length := (List.findIdx?_eq_some_iff_getElem.1 hfound).1
    exact textAt?_columns _ _ row hi

theorem textAt?_team (row : List Cell) :
    textAt? ((row.drop 0).take 1) ((teamPart t).column? teamHeaders) =
      textAt? row (t.column? teamHeaders) := by
  have hpart : (teamPart t).column? teamHeaders = some 0 := by
    rw [Table.column?, hb.headers_teamPart, List.findIdx?_cons, hb.named, if_pos rfl]
  have hwhole : t.column? teamHeaders = some 0 := by
    rw [Table.column?, hb.headers, List.findIdx?_cons, hb.named, if_pos rfl]
  rw [hpart, hwhole]
  exact textAt?_columns _ _ row Nat.zero_lt_one

theorem team_no_inning : isInningHeader team = false := by
  rw [Bool.eq_false_iff]
  intro hinning
  have hunnamed : Table.isWanted teamHeaders team = false :=
    isWanted_of_isInningHeader hinning (by decide)
  rw [hb.named] at hunnamed
  cases hunnamed

/-- The innings stand behind the team and before the totals, and no other header is one. -/
theorem halvesOf_inningPart (row : List Cell) :
    halvesOf (inningPart t innings) ((row.drop 1).take innings.length) = halvesOf t row := by
  have hall : ∀ start, (innings.zipIdx start).filter (fun x => isInningHeader x.1) =
      innings.zipIdx start := by
    intro start
    rw [List.filter_eq_self]
    exact fun x hx => hb.played x.1 (List.fst_mem_of_mem_zipIdx hx)
  have htotals : (totals.zipIdx (1 + innings.length)).filter
      (fun x => isInningHeader x.1) = [] := by
    rw [List.filter_eq_nil_iff]
    intro x hx
    exact Bool.eq_false_iff.1 (hb.totalled x.1 (List.fst_mem_of_mem_zipIdx hx)).2.1
  have hwhole : t.headers.zipIdx.filter (fun x => isInningHeader x.1) = innings.zipIdx 1 := by
    have hteam : ∀ rest : List (String × Nat), ((team, 0) :: rest).filter
        (fun x => isInningHeader x.1) = rest.filter (fun x => isInningHeader x.1) :=
      fun rest => List.filter_cons_of_neg (Bool.eq_false_iff.1 hb.team_no_inning)
    rw [hb.headers, List.zipIdx_cons, hteam, List.zipIdx_append, List.filter_append, Nat.zero_add,
      hall, htotals, List.append_nil]
  rw [halvesOf_eq, halvesOf_eq, hb.headers_inningPart, hall, hwhole, List.zipIdx_succ, List.map_map]
  refine List.map_congr_left fun x hx => ?_
  have hi : x.2 < innings.length := List.snd_lt_of_mem_zipIdx hx
  simp only [Function.comp_apply, textAt?_columns _ _ row hi, Nat.add_comm 1]

theorem readParts_eq_readWhole :
    readParts (teamPart t) (inningPart t innings) (totalsPart t innings totals) = readWhole t := by
  have hline : ∀ side,
      lineOf (textAt? (rowOf (teamPart t) side) ((teamPart t).column? teamHeaders))
        (halvesOf (inningPart t innings) (rowOf (inningPart t innings) side))
        (totalsPart t innings totals) (rowOf (totalsPart t innings totals) side) =
      lineOf (textAt? (rowOf t side) (t.column? teamHeaders)) (halvesOf t (rowOf t side)) t
        (rowOf t side) := by
    intro side
    rw [teamPart, rowOf_columns, ← teamPart, hb.textAt?_team, inningPart, rowOf_columns,
      ← inningPart, hb.halvesOf_inningPart]
    simp only [lineOf]
    rw [totalsPart, rowOf_columns, ← totalsPart, hb.textAt?_total elsewhere_runs,
      hb.textAt?_total elsewhere_hits, hb.textAt?_total elsewhere_errors]
  simp only [readParts, readWhole, hline]

end IsBoard

/-- What is found does not depend on the order of a list when only one element passes the test. -/
theorem find?_of_perm {α : Type} {l others : List α} {p : α → Bool} {a : α} (hp : l.Perm others)
    (h : others.filter p = [a]) : l.find? p = some a := by
  have hfilter : (l.filter p).Perm [a] := h ▸ hp.filter p
  rw [← List.head?_filter, List.perm_singleton.1 hfilter, List.head?_cons]

variable {t : Table} {team : String} {innings totals : List String}

/-- A scoreboard in one table and the same scoreboard cut into its team, its innings and its
totals, in whatever order they stand, are each recognised for what they are, and both give the
same lines. -/
theorem whole_and_parts_agree (hb : IsBoard t team innings totals) {tables : List Table}
    (hp : tables.Perm [teamPart t, inningPart t innings, totalsPart t innings totals]) :
    hasWhole [t] = true ∧ hasWhole tables = false ∧ hasParts tables = true ∧
      ∃ lines, scoreboard? [t] = some lines ∧ scoreboard? tables = some lines := by
  obtain ⟨hwhole₁, hteam₁, hinnings₁, htotals₁⟩ := hb.tests_teamPart
  obtain ⟨hwhole₂, hteam₂, hinnings₂, htotals₂⟩ := hb.tests_inningPart
  obtain ⟨hwhole₃, hteam₃, hinnings₃, htotals₃⟩ := hb.tests_totalsPart
  have hteam : tables.find? isTeamPart = some (teamPart t) :=
    find?_of_perm hp (by simp [hteam₁, hteam₂, hteam₃])
  have hinnings : tables.find? isInningPart = some (inningPart t innings) :=
    find?_of_perm hp (by simp [hinnings₁, hinnings₂, hinnings₃])
  have htotals : tables.find? isTotalsPart = some (totalsPart t innings totals) :=
    find?_of_perm hp (by simp [htotals₁, htotals₂, htotals₃])
  have hno : hasWhole tables = false := by
    rw [hasWhole, hp.any_eq]
    simp [hwhole₁, hwhole₂, hwhole₃]
  have hnone : tables.find? isScoreboard = none := by
    have hsome : (tables.find? isScoreboard).isSome = false := List.isSome_find?.trans hno
    exact Option.isNone_iff_eq_none.1 (Option.isSome_eq_false_iff.1 hsome)
  refine ⟨?_, hno, ?_, readWhole t, ?_, ?_⟩
  · rw [hasWhole, List.any_cons, hb.isScoreboard_board, Bool.true_or]
  · rw [hasParts, ← List.isSome_find?, hteam, ← List.isSome_find?, hinnings, ← List.isSome_find?,
      htotals]
    rfl
  · rw [scoreboard?, List.find?_cons, hb.isScoreboard_board]
  · rw [scoreboard?, hnone, hteam, hinnings, htotals]
    exact congrArg some hb.readParts_eq_readWhole

/-- A scoreboard of three innings, of which the home team did not bat in the last. -/
def shortBoard : Table :=
  ⟨none, ["팀", "1", "2", "3회", "R", "H", "E", "B"],
    [["KIA", "0", "2", "0", "2", "5", "1", "3"].map (⟨·, none, none⟩),
      ["LG", "1", "3", "-", "4", "7", "0", "2"].map (⟨·, none, none⟩)]⟩

theorem isBoard_shortBoard : IsBoard shortBoard "팀" ["1", "2", "3회"] ["R", "H", "E", "B"] where
  headers := rfl
  named := by decide
  played := by decide
  enough := by decide
  totalled := by decide
  runs := by decide
  hits := by decide
  rows := by decide

theorem shortBoard_and_its_parts_agree :
    IsBoard shortBoard "팀" ["1", "2", "3회"] ["R", "H", "E", "B"] ∧
      ∃ lines,
        scoreboard? [shortBoard] = some lines ∧
        scoreboard? [teamPart shortBoard, inningPart shortBoard ["1", "2", "3회"],
          totalsPart shortBoard ["1", "2", "3회"] ["R", "H", "E", "B"]] = some lines :=
  ⟨isBoard_shortBoard, (whole_and_parts_agree isBoard_shortBoard (List.Perm.refl _)).2.2.2⟩

end Scorebook.Page
