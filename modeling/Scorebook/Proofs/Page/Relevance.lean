import Scorebook.Proofs.Page.Layout

/-!
# Tables that matter

A page is read from some of its tables only: those with a known identifier, scoreboards and their
parts, and those with the headers of hitters or of pitchers.  Whatever else stands among them,
wherever it stands, changes nothing.
-/

namespace Scorebook.Page

/-- The tests by which the tables of a page are looked for: a known identifier, that of the notes, a
scoreboard or a part of one, and the headers of hitters or of pitchers. -/
def tableTests : List (Table → Bool) :=
  [hasKnownId, fun t => t.id == some notesId, isScoreboard, isTeamPart, isInningPart, isTotalsPart,
    fun t => areHitterHeaders t.headers, fun t => arePitcherHeaders t.headers]

def isRelevant (t : Table) : Bool := tableTests.any fun test => test t

def relevant (tables : List Table) : List Table := tables.filter isRelevant

/-! ### Looking for tables among the relevant ones -/

/-- Only relevant tables pass the test. -/
def FindsRelevant (test : Table → Bool) : Prop := ∀ t, test t = true → isRelevant t = true

section
variable {test : Table → Bool}

theorem findsRelevant_of_mem (h : test ∈ tableTests) : FindsRelevant test :=
  fun _ ht => List.any_eq_true.2 ⟨test, h, ht⟩

theorem FindsRelevant.filter_eq (h : FindsRelevant test) (tables : List Table) :
    (relevant tables).filter test = tables.filter test := by
  rw [relevant, List.filter_filter]
  refine List.filter_congr fun t _ => ?_
  cases ht : test t with
  | false => exact Bool.false_and _
  | true => rw [h t ht, Bool.and_self]

theorem FindsRelevant.find?_eq (h : FindsRelevant test) (tables : List Table) :
    (relevant tables).find? test = tables.find? test := by
  rw [← List.head?_filter, ← List.head?_filter, h.filter_eq]

theorem find?_relevant (h : test ∈ tableTests) (tables : List Table) :
    (relevant tables).find? test = tables.find? test :=
  (findsRelevant_of_mem h).find?_eq tables

theorem any_relevant (h : test ∈ tableTests) (tables : List Table) :
    (relevant tables).any test = tables.any test := by
  rw [← List.isSome_find?, ← List.isSome_find?, find?_relevant h]

end

section
variable (tables : List Table)

theorem roleTable?_relevant (role : TableRole) (side : Side) :
    roleTable? (relevant tables) role side = roleTable? tables role side := by
  have hfinds : FindsRelevant fun t => t.id == some (role.id side) := by
    intro t h
    have hknown : knownIds.contains (role.id side) = true := by
      cases role <;> cases side <;> decide
    have hid : hasKnownId t = true := by
      rw [hasKnownId, beq_iff_eq.1 h, Option.any_some, hknown]
    exact findsRelevant_of_mem List.mem_cons_self t hid
  exact hfinds.find?_eq tables

theorem tablesByHeaders_relevant {test : List String → Bool}
    (h : (fun t : Table => test t.headers) ∈ tableTests) :
    tablesByHeaders (relevant tables) test = tablesByHeaders tables test := by
  have hfinds : FindsRelevant fun t => !hasKnownId t && test t.headers :=
    fun t ht => findsRelevant_of_mem h t (Bool.and_eq_true_iff.1 ht).2
  exact hfinds.filter_eq tables

theorem scoreboard?_relevant : scoreboard? (relevant tables) = scoreboard? tables := by
  have hwhole := find?_relevant (by simp [tableTests] : isScoreboard ∈ tableTests) tables
  have hteam := find?_relevant (by simp [tableTests] : isTeamPart ∈ tableTests) tables
  have hinnings := find?_relevant (by simp [tableTests] : isInningPart ∈ tableTests) tables
  have htotals := find?_relevant (by simp [tableTests] : isTotalsPart ∈ tableTests) tables
  simp only [scoreboard?, hwhole, hteam, hinnings, htotals]

theorem notes_relevant : notes (relevant tables) = notes tables := by
  have hnotes : tableById? (relevant tables) notesId = tableById? tables notesId :=
    find?_relevant (List.mem_cons_of_mem _ List.mem_cons_self) tables
  simp only [notes, hnotes]

/-! ### Reading only the relevant tables -/

theorem ofTables_relevant : Signature.ofTables (relevant tables) = Signature.ofTables tables := by
  have hwhole : hasWhole (relevant tables) = hasWhole tables :=
    any_relevant (by simp [tableTests]) tables
  have hparts : hasParts (relevant tables) = hasParts tables := by
    rw [hasParts, any_relevant (by simp [tableTests]), any_relevant (by simp [tableTests]),
      any_relevant (by simp [tableTests]), hasParts]
  have hothers : ∀ test : List String → Bool, (fun t : Table => test t.headers) ∈ tableTests →
      ((relevant tables).filter fun t => !hasKnownId t).countP (fun t => test t.headers) =
        (tables.filter fun t => !hasKnownId t).countP fun t => test t.headers := by
    intro test h
    rw [countP_others, countP_others, tablesByHeaders_relevant tables h]
  simp only [Signature.ofTables, countRole, roleTable?_relevant, hwhole, hparts,
    hothers areHitterHeaders (by simp [tableTests]),
    hothers arePitcherHeaders (by simp [tableTests])]

theorem readLines_relevant (era : Era) :
    readLines era (relevant tables) = readLines era tables := by
  cases era with
  | modern =>
    simp only [readLines, readModern, requireRole, pitchersById, roleTable?_relevant,
      scoreboard?_relevant]
  | legacy => simp only [readLines, readLegacy, requireRole, pitchersById, roleTable?_relevant]
  | transitional =>
    have hhitters := tablesByHeaders_relevant tables
      (by simp [tableTests] : (fun t => areHitterHeaders t.headers) ∈ tableTests)
    have hpitchers := tablesByHeaders_relevant tables
      (by simp [tableTests] : (fun t => arePitcherHeaders t.headers) ∈ tableTests)
    simp only [readLines, readTransitional, scoreboard?_relevant, hhitters, hpitchers]

end

/-! ### Pages with the same relevant tables -/

/-- Pages with the same relevant tables in the same order are read alike. -/
theorem alike_of_relevant {tables others : List Table} (h : relevant others = relevant tables) :
    Signature.ofTables others = Signature.ofTables tables ∧
      (∀ era, readLines era others = readLines era tables) ∧ notes others = notes tables := by
  refine ⟨?_, fun era => ?_, ?_⟩
  · rw [← ofTables_relevant others, h, ofTables_relevant]
  · rw [← readLines_relevant others, h, readLines_relevant]
  · rw [← notes_relevant others, h, notes_relevant]

/-- The page with a table inserted in front of the one at a place, or behind the last. -/
def insertTable (p : Page) (i : Nat) (t : Table) : Page :=
  { p with tables := p.tables.take i ++ t :: p.tables.drop i }

theorem relevant_insertTable {p : Page} {t : Table} (h : isRelevant t = false) (i : Nat) :
    relevant (p.insertTable i t).tables = relevant p.tables := by
  have hnot : ¬ isRelevant t = true := Bool.eq_false_iff.1 h
  rw [relevant, insertTable, List.filter_append, List.filter_cons_of_neg hnot,
    ← List.filter_append, List.take_append_drop, relevant]

/-- A table that is not relevant may stand anywhere on a page: the signature and the era of the
page, what any era reads from its tables, its notes and the box score that is extracted are those of
the page without the table. -/
theorem irrelevant_table_ignored (p : Page) (i : Nat) (t : Table) (h : isRelevant t = false) :
    Signature.ofTables (p.insertTable i t).tables = Signature.ofTables p.tables ∧
      (Signature.ofTables (p.insertTable i t).tables).era? = (Signature.ofTables p.tables).era? ∧
      (∀ era, readLines era (p.insertTable i t).tables = readLines era p.tables) ∧
      notes (p.insertTable i t).tables = notes p.tables ∧
      ∀ history gameId date,
        extract history (p.insertTable i t) gameId date = extract history p gameId date := by
  obtain ⟨hsignature, hlines, hnotes⟩ := alike_of_relevant (relevant_insertTable (p := p) h i)
  refine ⟨hsignature, congrArg Signature.era? hsignature, hlines, hnotes, ?_⟩
  intro history gameId date
  simp only [extract, assemble, hsignature, hlines, hnotes]
  rfl

/-- A page without identifiers: a scoreboard, the hitters and the pitchers of both sides. -/
def staticPage : Page where
  tables :=
    [⟨none, ["팀", "1", "R", "H"], [["KIA", "1", "1", "2"], ["LG", "0", "0", "1"]].map
      (·.map (⟨·, none, none⟩))⟩,
    ⟨none, ["선수명", "타수"], [["김도영", "4"].map (⟨·, none, none⟩)]⟩,
    ⟨none, ["선수명", "타수"], [["홍창기", "3"].map (⟨·, none, none⟩)]⟩,
    ⟨none, ["선수명", "이닝", "삼진"], [["양현종", "8", "5"].map (⟨·, none, none⟩)]⟩,
    ⟨none, ["선수명", "이닝", "삼진"], [["임찬규", "9", "7"].map (⟨·, none, none⟩)]⟩]
  info := none

def umpireTable : Table :=
  ⟨some "tblUmpire", ["주심", "1루심"], [["이민호", "문동균"].map (⟨·, none, none⟩)]⟩

/-- The table of the umpires stands between those of the hitters. -/
theorem umpireTable_ignored :
    isRelevant umpireTable = false ∧
      (Signature.ofTables (staticPage.insertTable 2 umpireTable).tables).era? =
        some .transitional ∧
      readLines .transitional (staticPage.insertTable 2 umpireTable).tables =
        readLines .transitional staticPage.tables ∧
      (readLines .transitional staticPage.tables).isOk = true := by
  have hirrelevant : isRelevant umpireTable = false := by decide +kernel
  have hera : (Signature.ofTables staticPage.tables).era? = some .transitional := by decide +kernel
  obtain ⟨-, hsame, hlines, -⟩ := irrelevant_table_ignored staticPage 2 umpireTable hirrelevant
  exact ⟨hirrelevant, hsame.trans hera, hlines .transitional, by decide +kernel⟩

end Scorebook.Page
