import Mathlib.Data.List.DropRight
import Scorebook.Proofs.Calendar.Timestamps
import Scorebook.Proofs.Store.Checked

/-!
# What a store answers after its operations

Performed on an empty store, operations leave in each table of games one row for a game at most: the
accepted games have the row of the last time the game was saved, and the games set aside have the
row of the last time it was set aside since then.  This is a fact about rows alone.  The games that
are read are then those of the log, as far as box scores and times are read back as they were
written.
-/

namespace Scorebook.Store

inductive Operation where
  | save (b : BoxScore) (v : Validation) (now : Instant)
  | setAside (b : BoxScore) (v : Validation) (now : Instant)
  | recordOutcome (o : OutcomeRecord)
  | flag (items : List ReviewItem) (now : Instant)
  | recordRun (r : RunSummary)
  | addRosterEntry (e : RosterEntry)

namespace Operation

def perform (st : Store) : Operation → Store
  | save b v now => st.save b v now
  | setAside b v now => st.setAside b v now
  | recordOutcome o => st.recordOutcome o
  | flag items now => st.flag items now
  | recordRun r => st.recordRun r
  | addRosterEntry e => st.addRosterEntry e

/-- The game that is saved or set aside. -/
def game? : Operation → Option String
  | save b _ _ => some b.gameId
  | setAside b _ _ => some b.gameId
  | _ => none

def saved? (gameId : String) : Operation → Option StoredGame
  | save b v now => if b.gameId = gameId then some ⟨b, v, now⟩ else none
  | _ => none

def setAside? (gameId : String) : Operation → Option StoredGame
  | setAside b v now => if b.gameId = gameId then some ⟨b, v, now⟩ else none
  | _ => none

end Operation

def performAll (ops : List Operation) : Store := ops.foldl Operation.perform .empty

theorem performAll_concat (ops : List Operation) (o : Operation) :
    performAll (ops ++ [o]) = o.perform (performAll ops) :=
  List.foldl_concat ..

/-! ### The log -/

/-- What was saved last for a game. -/
def lastSaved? (gameId : String) (ops : List Operation) : Option StoredGame :=
  (ops.filterMap (Operation.saved? gameId)).getLast?

/-- The operations after the last one that saved a game. -/
def sinceSaved (gameId : String) (ops : List Operation) : List Operation :=
  ops.rtakeWhile fun o => (o.saved? gameId).isNone

/-- What was set aside last for a game, unless the game was saved after that. -/
def lastSetAside? (gameId : String) (ops : List Operation) : Option StoredGame :=
  ((sinceSaved gameId ops).filterMap (Operation.setAside? gameId)).getLast?

section
variable {gameId : String} {ops : List Operation} {o : Operation} {g : StoredGame}

theorem getLast?_filterMap_concat {α β : Type} (f : α → Option β) (l : List α) (a : α) :
    ((l ++ [a]).filterMap f).getLast? = (f a).or (l.filterMap f).getLast? := by
  rw [filterMap_concat, List.getLast?_append]
  cases f a <;> rfl

theorem lastSaved?_concat :
    lastSaved? gameId (ops ++ [o]) = (o.saved? gameId).or (lastSaved? gameId ops) :=
  getLast?_filterMap_concat ..

theorem lastSetAside?_concat_saved (h : o.saved? gameId = some g) :
    lastSetAside? gameId (ops ++ [o]) = none := by
  have hsince : sinceSaved gameId (ops ++ [o]) = [] :=
    List.rtakeWhile_concat_neg _ _ _ (by simp [h])
  rw [lastSetAside?, hsince]
  rfl

theorem lastSetAside?_concat (h : o.saved? gameId = none) :
    lastSetAside? gameId (ops ++ [o]) = (o.setAside? gameId).or (lastSetAside? gameId ops) := by
  have hsince : sinceSaved gameId (ops ++ [o]) = sinceSaved gameId ops ++ [o] :=
    List.rtakeWhile_concat_pos _ _ _ (by simp [h])
  rw [lastSetAside?, hsince]
  exact getLast?_filterMap_concat ..

end

/-! ### Rows -/

def StoredGame.gameRow (g : StoredGame) : Row := Store.gameRow g.boxScore g.validation g.storedAt

def StoredGame.quarantineRow (g : StoredGame) : Row :=
  Store.quarantineRow g.boxScore g.validation g.storedAt

section
variable {gameId : String} {ops : List Operation} {o : Operation} {g : StoredGame} (st : Store)

/-- An operation that saves a game puts its row in place of all others of the game. -/
theorem rows_of_saved (h : o.saved? gameId = some g) :
    rowsWith "game_id" gameId (o.perform st).games = [g.gameRow] ∧
      rowsWith "game_id" gameId (o.perform st).quarantine = [] := by
  cases o with
  | save b v now =>
    obtain ⟨rfl, hg⟩ := Option.ite_none_right_eq_some.1 h
    cases hg
    rw [Operation.perform, save_eq]
    exact ⟨rowsWith_putRow rfl, rowsWith_filter_ne st.quarantine⟩
  | _ => cases h

theorem rows_of_setAside (h : o.setAside? gameId = some g) :
    rowsWith "game_id" gameId (o.perform st).quarantine = [g.quarantineRow] ∧
      (o.perform st).games = st.games := by
  cases o with
  | setAside b v now =>
    obtain ⟨rfl, hg⟩ := Option.ite_none_right_eq_some.1 h
    cases hg
    rw [Operation.perform, setAside_eq]
    exact ⟨rowsWith_putRow rfl, rfl⟩
  | _ => cases h

/-- An operation that neither saves a game nor sets it aside leaves the rows of the game alone. -/
theorem rows_of_other (h : o.game? ≠ some gameId) :
    rowsWith "game_id" gameId (o.perform st).games = rowsWith "game_id" gameId st.games ∧
      rowsWith "game_id" gameId (o.perform st).quarantine =
        rowsWith "game_id" gameId st.quarantine := by
  cases o with
  | save b v now =>
    have hne : b.gameId ≠ gameId := fun he => h (congrArg some he)
    rw [Operation.perform, save_eq]
    exact ⟨rowsWith_putRow_of_ne rfl hne, rowsWith_filter_ne_of_ne hne st.quarantine⟩
  | setAside b v now =>
    have hne : b.gameId ≠ gameId := fun he => h (congrArg some he)
    rw [Operation.perform, setAside_eq]
    exact ⟨rfl, rowsWith_putRow_of_ne rfl hne⟩
  | recordOutcome o => exact ⟨rfl, rfl⟩
  | flag items now => exact ⟨rfl, rfl⟩
  | recordRun r => exact ⟨rfl, rfl⟩
  | addRosterEntry e => exact ⟨rfl, rfl⟩

/-- What an operation is to a game. -/
theorem Operation.cases_of (o : Operation) (gameId : String) :
    (∃ g, o.saved? gameId = some g) ∨
      (o.saved? gameId = none ∧ ∃ g, o.setAside? gameId = some g) ∨
      (o.saved? gameId = none ∧ o.setAside? gameId = none ∧ o.game? ≠ some gameId) := by
  cases o with
  | save b v now =>
    by_cases hg : b.gameId = gameId
    · exact .inl ⟨⟨b, v, now⟩, if_pos hg⟩
    · exact .inr (.inr ⟨if_neg hg, rfl, fun he => hg (Option.some.inj he)⟩)
  | setAside b v now =>
    by_cases hg : b.gameId = gameId
    · exact .inr (.inl ⟨rfl, ⟨b, v, now⟩, if_pos hg⟩)
    · exact .inr (.inr ⟨rfl, if_neg hg, fun he => hg (Option.some.inj he)⟩)
  | _ => exact .inr (.inr ⟨rfl, rfl, nofun⟩)

/-- The rows of a game are those of the log. -/
theorem rows_performAll (ops : List Operation) (gameId : String) :
    rowsWith "game_id" gameId (performAll ops).games =
        (lastSaved? gameId ops).toList.map StoredGame.gameRow ∧
      rowsWith "game_id" gameId (performAll ops).quarantine =
        (lastSetAside? gameId ops).toList.map StoredGame.quarantineRow := by
  induction ops using List.reverseRecOn with
  | nil => exact ⟨rfl, rfl⟩
  | append_singleton ops o ih =>
    -- The last operation saves the game, sets it aside, or has nothing to do with it.
    obtain ⟨hgames, hquarantine⟩ := ih
    rw [performAll_concat, lastSaved?_concat]
    rcases o.cases_of gameId with ⟨g, hsaved⟩ | ⟨hsaved, g, haside⟩ | ⟨hsaved, haside, hother⟩
    · obtain ⟨hnew, hgone⟩ := rows_of_saved (performAll ops) hsaved
      rw [hnew, hgone, hsaved, lastSetAside?_concat_saved hsaved]
      exact ⟨rfl, rfl⟩
    · obtain ⟨hnew, hkept⟩ := rows_of_setAside (performAll ops) haside
      rw [hnew, hkept, hsaved, lastSetAside?_concat hsaved, haside]
      exact ⟨hgames, rfl⟩
    · obtain ⟨hkept, hkept'⟩ := rows_of_other (performAll ops) hother
      rw [hkept, hkept', hsaved, lastSetAside?_concat hsaved, haside]
      exact ⟨hgames, hquarantine⟩

end

/-! ### Reads -/

/-- A game that validation has gone over, in a form and at a time that are read back as written. -/
structure StoredGame.Legible (g : StoredGame) : Prop where
  validated : g.validation.isValid = g.validation.errors.isEmpty
  rereads : decode BoxScore.ofJson? g.boxScore.toJson.compact = .ok g.boxScore
  clock : g.storedAt.OfClock

/-- Games are saved when they are valid. -/
def Operation.Proper : Operation → Prop
  | save b v now => StoredGame.Legible ⟨b, v, now⟩ ∧ v.isValid = true
  | setAside b v now => StoredGame.Legible ⟨b, v, now⟩
  | _ => True

theorem decodeInstant_offsetText {t : Instant} (h : t.OfClock) :
    decodeInstant t.offsetText = .ok t := by
  rw [decodeInstant, Instant.readStrict_offsetText h]

section
variable {gameId : String} {ops : List Operation} {o : Operation} {g : StoredGame}

theorem StoredGame.Legible.readGameRow (h : g.Legible) (hv : g.validation.isValid = true) :
    readGameRow g.gameRow = .ok g := by
  obtain ⟨b, v, now⟩ := g
  have hnone : v.errors = [] := List.isEmpty_iff.1 (h.validated.symm.trans hv)
  have hread := readGameRow_gameRow h.rereads (decodeInstant_offsetText h.clock) v
  have hsame : (⟨true, [], v.warnings⟩ : Validation) = v := by
    rw [← hnone]
    exact congrArg (Validation.mk · v.errors v.warnings) hv.symm
  rwa [hsame] at hread

theorem StoredGame.Legible.readQuarantineRow (h : g.Legible) :
    readQuarantineRow g.quarantineRow = .ok g := by
  obtain ⟨b, v, now⟩ := g
  have hread := readQuarantineRow_quarantineRow h.rereads (decodeInstant_offsetText h.clock) v
  have hsame : (⟨v.errors.isEmpty, v.errors, v.warnings⟩ : Validation) = v :=
    congrArg (Validation.mk · v.errors v.warnings) h.validated.symm
  rwa [hsame] at hread

theorem Operation.Proper.saved (h : o.Proper) (hg : o.saved? gameId = some g) :
    g.Legible ∧ g.validation.isValid = true := by
  cases o with
  | save b v now =>
    obtain ⟨-, hg⟩ := Option.ite_none_right_eq_some.1 hg
    cases hg
    exact h
  | _ => cases hg

theorem Operation.Proper.setAside (h : o.Proper) (hg : o.setAside? gameId = some g) :
    g.Legible := by
  cases o with
  | setAside b v now =>
    obtain ⟨-, hg⟩ := Option.ite_none_right_eq_some.1 hg
    cases hg
    exact h
  | _ => cases hg

theorem exists_of_lastSaved? (h : lastSaved? gameId ops = some g) :
    ∃ o ∈ ops, o.saved? gameId = some g :=
  List.mem_filterMap.1 (List.mem_of_getLast? h)

theorem exists_of_lastSetAside? (h : lastSetAside? gameId ops = some g) :
    ∃ o ∈ ops, o.setAside? gameId = some g := by
  obtain ⟨o, ho, hg⟩ := List.mem_filterMap.1 (List.mem_of_getLast? h)
  exact ⟨o, (List.rtakeWhile_suffix _ ops).subset ho, hg⟩

theorem game_congr {st st' : Store}
    (h : rowsWith "game_id" gameId st.games = rowsWith "game_id" gameId st'.games) :
    st.game gameId = st'.game gameId := by
  rw [game, h, game]

theorem gameSetAside_congr {st st' : Store}
    (h : rowsWith "game_id" gameId st.quarantine = rowsWith "game_id" gameId st'.quarantine) :
    st.gameSetAside gameId = st'.gameSetAside gameId := by
  rw [gameSetAside, h, gameSetAside]

theorem game_performAll (h : ∀ o ∈ ops, o.Proper) :
    (performAll ops).game gameId = .ok (lastSaved? gameId ops) := by
  rw [game, (rows_performAll ops gameId).1]
  cases hlast : lastSaved? gameId ops with
  | none => rfl
  | some g =>
    obtain ⟨o, ho, hg⟩ := exists_of_lastSaved? hlast
    obtain ⟨hlegible, hvalid⟩ := (h o ho).saved hg
    have hread := hlegible.readGameRow hvalid
    simp only [Option.toList_some, List.map_cons, List.map_nil, List.head?_cons, readRow?, hread]
    rfl

theorem gameSetAside_performAll (h : ∀ o ∈ ops, o.Proper) :
    (performAll ops).gameSetAside gameId = .ok (lastSetAside? gameId ops) := by
  rw [gameSetAside, (rows_performAll ops gameId).2]
  cases hlast : lastSetAside? gameId ops with
  | none => rfl
  | some g =>
    obtain ⟨o, ho, hg⟩ := exists_of_lastSetAside? hlast
    have hread := ((h o ho).setAside hg).readQuarantineRow
    simp only [Option.toList_some, List.map_cons, List.map_nil, List.head?_cons, readRow?, hread]
    rfl

end

/-- After any operations a store answers for a game with what the log of the operations says: with
what was saved last, and with what was set aside last if that was after the last save.  Setting a
game aside does not change the first answer, and what is done for other games or in other tables
changes neither. -/
theorem reads_follow_log {ops : List Operation} (h : ∀ o ∈ ops, o.Proper) (gameId : String) :
    (performAll ops).game gameId = .ok (lastSaved? gameId ops) ∧
      (performAll ops).gameSetAside gameId = .ok (lastSetAside? gameId ops) ∧
      (∀ (st : Store) b v now, (st.setAside b v now).game gameId = st.game gameId) ∧
      ∀ (st : Store) (o : Operation), o.game? ≠ some gameId →
        (o.perform st).game gameId = st.game gameId ∧
          (o.perform st).gameSetAside gameId = st.gameSetAside gameId := by
  refine ⟨game_performAll h, gameSetAside_performAll h, fun st b v now => rfl, ?_⟩
  intro st o hother
  obtain ⟨hgames, hquarantine⟩ := rows_of_other st hother
  exact ⟨game_congr hgames, gameSetAside_congr hquarantine⟩

/-! ### A log of games -/

/-- The line of a team that is its own franchise. -/
def playedLine (name code : String) (score : Count) (halves : List (Option Count)) : TeamLine :=
  { TeamLine.blank with
    name := some name
    code := some code
    franchiseCode := some code
    score := some score
    halves := halves }

/-- A row of a hitter with his runs and one column of his own. -/
def playedHitter (side : Side) (team name : String) (runs : Count) : HitterRow where
  appearance := ⟨some ⟨76232⟩, name, some team, side, some "8", 1⟩
  battingOrder := some 3
  position := some "三"
  isStarter := true
  line := (BattingLine.blank.setCount .atBats (some 4)).setCount .runs (some runs)
  extras := Extras.empty.insert "1" "안타"

/-- A row of a pitcher who was never identified. -/
def playedPitcher (side : Side) (team name : String) : PitcherRow where
  appearance := ⟨none, name, some team, side, none, 1⟩
  isStarting := true
  line := { PitchingLine.blank with outs := some ⟨19⟩, decision := some .win }
  extras := .empty

/-- A game with a hitter and a pitcher on each side, with the line of the home team. -/
def fullGame (gameId : String) (era : Era) (home : TeamLine) : BoxScore :=
  { BoxScore.blank gameId (some ⟨2024, 5, 5, by decide⟩) era with
    teams := ⟨playedLine "한화" "HH" 3 [some 1, some 2], home⟩
    hitters := ⟨[playedHitter .away "HH" "노시환" 3], [playedHitter .home "LG" "문보경" 2]⟩
    pitchers := ⟨[playedPitcher .away "HH" "류현진"], [playedPitcher .home "LG" "임찬규"]⟩ }

/-- What validation finds in a record when these are the clubs. -/
def validated (b : BoxScore) : Validation := .ofBoxScore ⟨["HH", "LG", "LT"]⟩ b

/-- A copy whose home team has no franchise. -/
def unresolvedCopy : BoxScore :=
  fullGame "20240505HHLG0" .legacy
    { playedLine "청룡" "MBC" 2 [some 0, some 2] with franchiseCode := none }

/-- A copy that is valid, although the halves of the home team do not add up. -/
def validCopy : BoxScore :=
  fullGame "20240505HHLG0" .modern (playedLine "LG" "LG" 2 [some 0, some 1])

/-- A copy in which one side has no pitcher and the other one no hitter. -/
def thinCopy : BoxScore :=
  { fullGame "20240505HHLG0" .modern (playedLine "LG" "LG" 2 [some 0, some 2]) with
    hitters := ⟨[playedHitter .away "HH" "노시환" 3], []⟩
    pitchers := ⟨[], [playedPitcher .home "LG" "임찬규"]⟩ }

/-- A copy of another game. -/
def otherGame : BoxScore :=
  fullGame "20240505HHLT0" .modern (playedLine "롯데" "LT" 2 [some 2, none])

/-- A log in which a game is set aside, saved and set aside again, and another one is saved. -/
def mixedLog : List Operation :=
  [.setAside unresolvedCopy (validated unresolvedCopy) .epoch,
    .save validCopy (validated validCopy) ⟨Date.epoch, 3600, 0⟩,
    .addRosterEntry ⟨⟨1⟩, "김민수", "LG", 2024, some "11"⟩,
    .setAside thinCopy (validated thinCopy) ⟨Date.epoch, 7200, 0⟩,
    .save otherGame (validated otherGame) .epoch,
    .flag [⟨"20240505HHLG0", .away, "류현진", some "HH", some 2024, .unknownPlayer⟩] .epoch]

/-- The copy that was saved is read beside the one that was set aside after it, and the copy that was
set aside before is gone. -/
theorem reads_of_mixedLog :
    (performAll mixedLog).game "20240505HHLG0" =
        .ok (some ⟨validCopy, validated validCopy, ⟨Date.epoch, 3600, 0⟩⟩) ∧
      (performAll mixedLog).gameSetAside "20240505HHLG0" =
        .ok (some ⟨thinCopy, validated thinCopy, ⟨Date.epoch, 7200, 0⟩⟩) ∧
      (performAll mixedLog).gameSetAside "20240505HHLT0" = .ok none ∧
      validated validCopy =
        ⟨true, [], ["home line score (1) != total score (2)"]⟩ ∧
      validated thinCopy =
        ⟨false, ["No pitcher rows for away", "No hitter rows for home"], []⟩ := by
  have hlegible : ∀ b second, second < 86400 → b.toJson.isPlain Json.maxDepth = true →
      BoxScore.ofJson? b.toJson = some b →
        StoredGame.Legible ⟨b, validated b, ⟨Date.epoch, second, 0⟩⟩ := by
    intro b second hsecond hplain hread
    refine ⟨rfl, decode_plain hplain hread, ?_, ?_, hsecond, .inl ?_⟩
    · exact (by decide : 0 ≤ Date.epoch.year)
    · exact (by decide : Date.epoch.year ≤ 9999)
    · exact (by decide : 0 < 1000000000)
  have hproper : ∀ o ∈ mixedLog, o.Proper := by
    simp only [mixedLog, List.forall_mem_cons]
    refine ⟨?_, ⟨?_, by decide +kernel⟩, trivial, ?_, ⟨?_, by decide +kernel⟩, trivial,
      List.forall_mem_nil _⟩
    · exact hlegible _ 0 (by decide) (by decide +kernel) (by decide +kernel)
    · exact hlegible _ 3600 (by decide) (by decide +kernel) (by decide +kernel)
    · exact hlegible _ 7200 (by decide) (by decide +kernel) (by decide +kernel)
    · exact hlegible _ 0 (by decide) (by decide +kernel) (by decide +kernel)
  obtain ⟨hgame, haside, -⟩ := reads_follow_log hproper "20240505HHLG0"
  obtain ⟨-, hother, -⟩ := reads_follow_log hproper "20240505HHLT0"
  exact ⟨hgame, haside, hother, by decide +kernel, by decide +kernel⟩

end Scorebook.Store
