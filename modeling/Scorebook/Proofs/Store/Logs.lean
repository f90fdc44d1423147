import Scorebook.Proofs.Review
import Scorebook.Proofs.Store.History
import Scorebook.Proofs.Uuid

/-!
# What a store has logged

Performed on an empty store, operations leave a row for every outcome and for every review item, in
order, and one row for a run, that of the last time it was recorded.  The rows are read back as the
records that were written: a text stands in the column in which it is looked for, and every counter
under the name of its status.
-/

namespace Scorebook.Store

namespace Operation

def recorded? (run : Uuid) : Operation → Option OutcomeRecord
  | recordOutcome o => if o.run = run then some o else none
  | _ => none

def flagged (gameId : String) : Operation → List ReviewItem
  | flag items _ => items.filter fun i => i.gameId = gameId
  | _ => []

def summed? (run : Uuid) : Operation → Option RunSummary
  | recordRun r => if r.run = run then some r else none
  | _ => none

/-- The timestamps that are read back are those of a clock, and seasons are words. -/
def Recordable : Operation → Prop
  | recordOutcome o => o.recordedAt.OfClock
  | flag items _ => ∀ i ∈ items, i.Worded
  | recordRun r => r.started.OfClock ∧ r.finished.OfClock
  | _ => True

end Operation

/-- The summary that was recorded last for a run. -/
def lastSummed? (run : Uuid) (ops : List Operation) : Option RunSummary :=
  (ops.filterMap (Operation.summed? run)).getLast?

/-! ### Rows -/

section
variable (st : Store) (o : Operation) (ops : List Operation) (run : Uuid) (gameId : String)

theorem outcomeRows_perform :
    rowsWith "run_id" run.text (o.perform st).outcomes.toList =
      rowsWith "run_id" run.text st.outcomes.toList ++ (o.recorded? run).toList.map outcomeRow := by
  cases o with
  | recordOutcome r =>
    have hcell : (outcomeRow r).cell "run_id" = .text r.run.text := rfl
    have hnew : rowsWith "run_id" run.text [outcomeRow r] =
        (if r.run = run then some r else none).toList.map outcomeRow := by
      by_cases h : r.run = run
      · rw [if_pos h]
        exact List.filter_cons_of_pos (by simp [hcell, h])
      · rw [if_neg h]
        exact List.filter_cons_of_neg (by simp [hcell, Uuid.text_inj, h])
    rw [Operation.perform, recordOutcome, Log.toList_append, rowsWith_append, hnew]
    rfl
  | _ => exact (List.append_nil _).symm

theorem outcomeRows_performAll :
    rowsWith "run_id" run.text (performAll ops).outcomes.toList =
      (ops.filterMap (Operation.recorded? run)).map outcomeRow := by
  induction ops using List.reverseRecOn with
  | nil => rfl
  | append_singleton ops o ih =>
    rw [performAll_concat, outcomeRows_perform, ih, filterMap_concat, List.map_append]

theorem reviewRows_perform : ∃ now,
    rowsWith "game_id" gameId (o.perform st).review.toList =
      rowsWith "game_id" gameId st.review.toList ++ (o.flagged gameId).map (reviewRow now) := by
  cases o with
  | flag items now =>
    have hnew : rowsWith "game_id" gameId (items.map (reviewRow now)) =
        (items.filter fun i => i.gameId = gameId).map (reviewRow now) := by
      rw [rowsWith, List.filter_map]
      congr 2
      funext i
      have hcell : (reviewRow now i).cell "game_id" = .text i.gameId := rfl
      rw [Function.comp_apply, hcell, Bool.eq_iff_iff, beq_iff_eq, Cell.text.injEq,
        decide_eq_true_iff]
    refine ⟨now, ?_⟩
    rw [Operation.perform, Store.flag, Log.toList_appendAll, rowsWith_append, hnew]
    rfl
  | _ => exact ⟨.epoch, (List.append_nil _).symm⟩

theorem textIn_reviewRows (now : Instant) (items : List ReviewItem) :
    (items.map (reviewRow now)).mapM (textIn · "item_json") =
      .ok (items.map fun i => i.toJson.compact) := by
  rw [List.mapM_map]
  exact List.mapM_pure

theorem reviewTexts_performAll :
    (rowsWith "game_id" gameId (performAll ops).review.toList).mapM (textIn · "item_json") =
      .ok ((ops.flatMap (Operation.flagged gameId)).map fun i => i.toJson.compact) := by
  induction ops using List.reverseRecOn with
  | nil => rfl
  | append_singleton ops o ih =>
    obtain ⟨now, hrows⟩ := reviewRows_perform (performAll ops) o gameId
    rw [performAll_concat, hrows, List.mapM_append, ih, textIn_reviewRows, List.flatMap_append,
      List.flatMap_singleton, List.map_append]
    rfl

theorem runRows_perform :
    rowsWith "run_id" run.text (o.perform st).runs =
      match o.summed? run with
      | some r => [runRow r]
      | none => rowsWith "run_id" run.text st.runs := by
  cases o with
  | recordRun r =>
    have hcell : (runRow r).cell "run_id" = .text r.run.text := rfl
    by_cases h : r.run = run
    · rw [Operation.summed?, if_pos h]
      exact rowsWith_putRow (h ▸ hcell)
    · rw [Operation.summed?, if_neg h]
      exact rowsWith_putRow_of_ne hcell fun htext => h (Uuid.text_inj.1 htext)
  | _ => rfl

theorem runRows_performAll :
    rowsWith "run_id" run.text (performAll ops).runs = (lastSummed? run ops).toList.map runRow := by
  induction ops using List.reverseRecOn with
  | nil => rfl
  | append_singleton ops o ih =>
    have hlast : lastSummed? run (ops ++ [o]) = (o.summed? run).or (lastSummed? run ops) :=
      getLast?_filterMap_concat ..
    rw [performAll_concat, runRows_perform, hlast]
    cases o.summed? run with
    | none => exact ih
    | some r => rfl

end

/-! ### Reads -/

theorem decodeRun_text (u : Uuid) : decodeRun u.text = .ok u := by
  rw [decodeRun, Uuid.read?_text]

theorem decodeStatus_name (g : GameStatus) : decodeStatus g.name = .ok g := by
  rw [decodeStatus, GameStatus.ofName?_name]

/-- The texts and numbers that a row holds of an outcome. -/
def cellsOf (o : OutcomeRecord) : OutcomeCells where
  run := o.run.text
  gameId := o.gameId
  status := o.status.name
  attempts := o.attempts
  messages := messagesText o.messages
  recordedAt := o.recordedAt.offsetText

theorem outcomeCells_outcomeRow (o : OutcomeRecord) :
    outcomeCells (outcomeRow o) = .ok (cellsOf o) := by
  have hattempts : countIn (outcomeRow o) "attempts" = .ok o.attempts := countIn_of_cell rfl
  rw [outcomeCells, hattempts]
  rfl

theorem read_cellsOf {o : OutcomeRecord} (h : o.recordedAt.OfClock) :
    (cellsOf o).read = .ok o := by
  simp only [OutcomeCells.read, cellsOf, decodeRun_text, decodeStatus_name,
    decodeMessages_messagesText, decodeInstant_offsetText h]
  rfl

/-- Every counter is found under the name of its status. -/
theorem counts_runRow (s : RunSummary) :
    (GameStatus.all.mapM fun g => countIn (runRow s) g.name) =
      .ok (GameStatus.all.map s.withStatus) := by
  have hcount : ∀ g, countIn (runRow s) g.name = .ok (s.withStatus g) := by
    intro g
    apply countIn_of_cell
    cases g <;> rfl
  simp only [hcount]
  rfl

theorem ofCounts_all (s : RunSummary) :
    RunSummary.ofCounts s.run s.started s.finished s.total (GameStatus.all.map s.withStatus) =
      s := by
  have hcounts : (fun g => (GameStatus.all.map s.withStatus)[GameStatus.all.idxOf g]?.getD 0) =
      s.withStatus := by
    funext g
    cases g <;> rfl
  rw [RunSummary.ofCounts, hcounts]

theorem readRunRow_runRow {s : RunSummary} (hs : s.started.OfClock) (hf : s.finished.OfClock) :
    readRunRow (runRow s) = .ok s := by
  have hrun : textIn (runRow s) "run_id" = .ok s.run.text := rfl
  have hstarted : textIn (runRow s) "started_at" = .ok s.started.offsetText := rfl
  have hfinished : textIn (runRow s) "finished_at" = .ok s.finished.offsetText := rfl
  have htotal : countIn (runRow s) "total" = .ok s.total := countIn_of_cell rfl
  rw [readRunRow, hrun, hstarted, hfinished, htotal, counts_runRow]
  simp only [bind, Except.bind, decodeRun_text, decodeInstant_offsetText hs,
    decodeInstant_offsetText hf, ofCounts_all]

theorem exists_of_lastSummed? {ops : List Operation} {run : Uuid} {s : RunSummary}
    (h : lastSummed? run ops = some s) : ∃ o ∈ ops, o.summed? run = some s :=
  List.mem_filterMap.1 (List.mem_of_getLast? h)

namespace Operation.Recordable
variable {o : Operation} (h : o.Recordable)
include h

theorem recorded {run : Uuid} {r : OutcomeRecord} (hr : o.recorded? run = some r) :
    r.recordedAt.OfClock := by
  cases o with
  | recordOutcome o =>
    obtain ⟨-, hr⟩ := Option.ite_none_right_eq_some.1 hr
    cases hr
    exact h
  | _ => cases hr

theorem flagged {gameId : String} {i : ReviewItem} (hi : i ∈ o.flagged gameId) : i.Worded := by
  cases o with
  | flag items now => exact h i (List.mem_filter.1 hi).1
  | _ => cases hi

theorem summed {run : Uuid} {s : RunSummary} (hs : o.summed? run = some s) :
    s.started.OfClock ∧ s.finished.OfClock := by
  cases o with
  | recordRun r =>
    obtain ⟨-, hs⟩ := Option.ite_none_right_eq_some.1 hs
    cases hs
    exact h
  | _ => cases hs

end Operation.Recordable

section
variable {ops : List Operation} (h : ∀ o ∈ ops, o.Recordable)
include h

theorem outcomesOf_performAll (run : Uuid) :
    (performAll ops).outcomesOf run = .ok (ops.filterMap (Operation.recorded? run)) := by
  have hread : ∀ r ∈ ops.filterMap (Operation.recorded? run), (cellsOf r).read = .ok r := by
    intro r hr
    obtain ⟨o, ho, hor⟩ := List.mem_filterMap.1 hr
    exact read_cellsOf ((h o ho).recorded hor)
  have hcells : ((ops.filterMap (Operation.recorded? run)).map outcomeRow).mapM outcomeCells =
      .ok ((ops.filterMap (Operation.recorded? run)).map cellsOf) := by
    rw [List.mapM_map, Function.comp_def]
    simp only [outcomeCells_outcomeRow]
    exact List.mapM_pure
  rw [outcomesOf, outcomeRows_performAll, hcells]
  exact mapM_map_eq hread

theorem reviewItemsOf_performAll (gameId : String) :
    (performAll ops).reviewItemsOf gameId = .ok (ops.flatMap (Operation.flagged gameId)) := by
  have hread : ∀ i ∈ ops.flatMap (Operation.flagged gameId),
      decode ReviewItem.ofJson? i.toJson.compact = .ok i := by
    intro i hi
    obtain ⟨o, ho, hoi⟩ := List.mem_flatMap.1 hi
    have hworded := (h o ho).flagged hoi
    exact decode_plain (ReviewItem.isPlain_toJson hworded) (ReviewItem.ofJson?_toJson hworded)
  rw [reviewItemsOf, reviewTexts_performAll]
  exact mapM_map_eq hread

theorem runOf_performAll (run : Uuid) : (performAll ops).runOf run = .ok (lastSummed? run ops) := by
  rw [runOf, runRows_performAll]
  cases hlast : lastSummed? run ops with
  | none => rfl
  | some s =>
    obtain ⟨o, ho, hos⟩ := exists_of_lastSummed? hlast
    obtain ⟨hstarted, hfinished⟩ := (h o ho).summed hos
    have hread := readRunRow_runRow hstarted hfinished
    simp only [Option.toList_some, List.map_cons, List.map_nil, List.head?_cons, readRow?, hread]
    rfl

end

/-- After any operations a store answers with what they recorded, whatever else was done between:
with all outcomes of a run and all review items of a game, as they were written and in the order in
which they were written, and with the summary that was recorded last for a run. -/
theorem logs_read_back {ops : List Operation} (h : ∀ o ∈ ops, o.Recordable) (run : Uuid)
    (gameId : String) :
    (performAll ops).outcomesOf run = .ok (ops.filterMap (Operation.recorded? run)) ∧
      (performAll ops).reviewItemsOf gameId = .ok (ops.flatMap (Operation.flagged gameId)) ∧
      (performAll ops).runOf run = .ok (lastSummed? run ops) :=
  ⟨outcomesOf_performAll h run, reviewItemsOf_performAll h gameId, runOf_performAll h run⟩

/-- The last nanosecond of a day that ends in a leap second. -/
def lateInstant : Instant := ⟨Date.epoch, 86399, 1999999999⟩

def otherRun : Uuid := ⟨List.replicate 32 'f', by decide⟩

/-- How a game ended, with as many messages as attempts. -/
def sampleOutcome (run : Uuid) (gameId : String) (status : GameStatus) (messages : List String) :
    OutcomeRecord :=
  ⟨run, gameId, status, UInt32.ofNat messages.length, messages, lateInstant⟩

def sampleSummary (run : Uuid) (accepted failed : Count) : RunSummary :=
  { RunSummary.blank run .epoch with
    finished := lateInstant
    total := accepted + failed
    withStatus := fun g => match g with
      | .accepted => accepted
      | .failed => failed
      | _ => 0 }

def sampleItem (gameId : String) (kind : ReviewKind) : ReviewItem :=
  ⟨gameId, .home, "김민수", some "LG", some 2024, kind⟩

/-- A log in which two runs and the items of two games alternate. -/
def interleavedLog : List Operation :=
  [.recordOutcome (sampleOutcome .nil "20240323HHLG0" .failed ["\"no\" rows", "줄\n"]),
    .recordRun (sampleSummary .nil 1 1),
    .flag [sampleItem "20240323HHLG0" (.ambiguousPlayer [⟨7⟩, ⟨4294967295⟩]),
      sampleItem "20240323LTSS0" .unknownPlayer] .epoch,
    .recordOutcome (sampleOutcome otherRun "20240323HHLG0" .accepted []),
    .save validCopy (validated validCopy) .epoch,
    .recordRun (sampleSummary otherRun 1 0),
    .flag [sampleItem "20240323HHLG0" (.unresolvedTeam "엘지")] .epoch,
    .recordOutcome (sampleOutcome .nil "20240323LTSS0" .noData ["none"]),
    .recordRun (sampleSummary .nil 3 2)]

theorem reads_of_interleavedLog :
    (performAll interleavedLog).outcomesOf .nil =
        .ok [sampleOutcome .nil "20240323HHLG0" .failed ["\"no\" rows", "줄\n"],
          sampleOutcome .nil "20240323LTSS0" .noData ["none"]] ∧
      (performAll interleavedLog).reviewItemsOf "20240323HHLG0" =
        .ok [sampleItem "20240323HHLG0" (.ambiguousPlayer [⟨7⟩, ⟨4294967295⟩]),
          sampleItem "20240323HHLG0" (.unresolvedTeam "엘지")] ∧
      (performAll interleavedLog).runOf .nil = .ok (some (sampleSummary .nil 3 2)) := by
  have hepoch : Instant.epoch.OfClock := ⟨by decide, by decide, by decide, .inl (by decide)⟩
  have hlate : lateInstant.OfClock :=
    ⟨by decide, by decide, by decide, .inr ⟨by decide, by decide⟩⟩
  have hworded : ∀ gameId kind, (sampleItem gameId kind).Worded := by
    intro gameId kind season hseason
    cases hseason
    decide
  have hrecordable : ∀ o ∈ interleavedLog, o.Recordable := by
    simp only [interleavedLog, List.forall_mem_cons]
    exact ⟨hlate, ⟨hepoch, hlate⟩, by simp [Operation.Recordable, hworded], hlate, trivial,
      ⟨hepoch, hlate⟩, by simp [Operation.Recordable, hworded], hlate, ⟨hepoch, hlate⟩,
      List.forall_mem_nil _⟩
  exact logs_read_back hrecordable .nil "20240323HHLG0"

end Scorebook.Store
