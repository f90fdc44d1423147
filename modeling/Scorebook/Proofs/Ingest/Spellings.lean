import Mathlib.Data.List.Nodup
import Scorebook.Proofs.GameId
import Scorebook.Proofs.Ingest.Completion
import Scorebook.Proofs.Ingest.Dealings

/-!
# Spellings of a game

The segments of an identifier may be written in either case, so a game has several spellings.  A
batch is rid of identifiers that are written alike, before they are decoded: every spelling of a
game in a batch is a game of its own.  So a game has one result, and is kept at most once, exactly
when the batch spells it in one way.
-/

namespace Scorebook.Ingest
open Text

/-! ### Identifiers and the games they spell -/

def spells (gameId id : String) : Bool :=
  match GameId.decode id with
  | .ok g => g.text == gameId
  | .error _ => false

def spellings (ids : List String) (gameId : String) : List String :=
  (batchIds ids).filter (spells gameId)

/-- The identifier under which the result of an identifier is reported. -/
def resultId (id : String) : String :=
  match GameId.decode id with
  | .ok g => g.text
  | .error _ => id

theorem Answers.gameId {s : Setup} {id : String} {g : GameResult} (h : Answers s id g) :
    g.gameId = resultId id := by
  unfold Answers at h
  unfold resultId
  cases hd : GameId.decode id with
  | ok game =>
    simp only [hd] at h ⊢
    exact h.1
  | error e =>
    simp only [hd] at h ⊢
    rw [h]

theorem gameIds_of_answers {s : Setup} {l : List String} {results : List GameResult}
    (h : List.Forall₂ (Answers s) l results) :
    results.map GameResult.gameId = l.map resultId := by
  induction h with
  | nil => rfl
  | cons ha _ ih => rw [List.map_cons, List.map_cons, ha.gameId, ih]

theorem resultId_eq_iff_spells {t id : String} {g : GameId} (ht : GameId.decode t = .ok g) :
    resultId id = t ↔ spells t id = true := by
  unfold resultId spells
  cases hd : GameId.decode id with
  | ok game => exact beq_iff_eq.symm
  | error e =>
    refine ⟨fun h => ?_, fun h => by cases h⟩
    subst h
    cases hd.symm.trans ht

theorem resultId_eq_iff_eq {t id : String} {e : GameIdError} (ht : GameId.decode t = .error e) :
    resultId id = t ↔ id = t := by
  unfold resultId
  cases hd : GameId.decode id with
  | ok game =>
    refine ⟨fun h => ?_, fun h => ?_⟩
    · have htext := GameId.decode_text hd
      rw [show game.text = t from h, ht] at htext
      cases htext
    · rw [h, ht] at hd
      cases hd
  | error e => exact Iff.rfl

theorem spells_eq_false {t id : String} {e : GameIdError} (ht : GameId.decode t = .error e) :
    spells t id = false := by
  unfold spells
  cases hd : GameId.decode id with
  | ok game =>
    apply beq_false_of_ne
    intro h
    have htext := GameId.decode_text hd
    rw [h, ht] at htext
    cases htext
  | error e => rfl

/-- A game has as many results as spellings. -/
theorem count_resultIds {t : String} {g : GameId} (ht : GameId.decode t = .ok g)
    (ids : List String) : ((batchIds ids).map resultId).count t = (spellings ids t).length := by
  have hs : (batchIds ids).filter ((fun x => x == t) ∘ resultId) = spellings ids t :=
    List.filter_congr fun id _ => by
      rw [Bool.eq_iff_iff]
      exact beq_iff_eq.trans (resultId_eq_iff_spells ht)
  rw [List.count, List.countP_map, List.countP_eq_length_filter, hs]

/-- Results stand under different identifiers when no game is spelled twice. -/
theorem nodup_resultIds (ids : List String) :
    ((batchIds ids).map resultId).Nodup ↔ ∀ t, (spellings ids t).length ≤ 1 := by
  rw [List.nodup_iff_count_le_one]
  apply forall_congr'
  intro t
  cases ht : GameId.decode t with
  | ok g => rw [count_resultIds ht]
  | error e =>
    -- A text that is no identifier stands for itself, and the batch has it once.
    have hs : (batchIds ids).filter ((fun x => x == t) ∘ resultId) =
        (batchIds ids).filter fun x => x == t :=
      List.filter_congr fun id _ => by
        rw [Bool.eq_iff_iff]
        exact (beq_iff_eq.trans (resultId_eq_iff_eq ht)).trans beq_iff_eq.symm
    have hone := List.nodup_iff_count_le_one.1 (nodup_batchIds ids) t
    have hnone : spellings ids t = [] :=
      List.filter_eq_nil_iff.2 fun id _ => by
        rw [spells_eq_false ht]
        exact Bool.false_ne_true
    rw [List.count, List.countP_eq_length_filter] at hone
    rw [List.count, List.countP_map, List.countP_eq_length_filter, hs, hnone]
    exact ⟨fun _ => Nat.zero_le 1, fun _ => hone⟩

/-! ### Kept games -/

/-- The games that exchanges keep, accepted or set aside, once for every write that tries to. -/
def keptIn (xs : List Exchange) : List String := (writesOf xs).filterMap SinkCall.kept?

theorem keptIn_append (xs ys : List Exchange) : keptIn (xs ++ ys) = keptIn xs ++ keptIn ys := by
  simp only [keptIn, writesOf_append, List.filterMap_append]

theorem keptIn_perm {xs ys : List Exchange} (h : xs.Perm ys) : (keptIn xs).Perm (keptIn ys) :=
  (h.filterMap _).filterMap _

theorem Keeps.count_le {gameId : String} {cs : List SinkCall} (h : Keeps gameId cs) (t : String) :
    (cs.filterMap SinkCall.kept?).count t ≤ if gameId = t then 1 else 0 := by
  by_cases ht : gameId = t
  · rw [if_pos ht]
    exact Nat.le_trans List.count_le_length h.once
  · rw [if_neg ht]
    refine Nat.le_of_eq (List.count_eq_zero.2 fun hm => ht ?_)
    obtain ⟨c, hc, hk⟩ := List.mem_filterMap.1 hm
    have habout := h.about c hc
    cases c with
    | save b v => exact habout.symm.trans (Option.some.inj hk)
    | setAside b v => exact habout.symm.trans (Option.some.inj hk)
    | flag items => cases hk
    | outcome g => cases hk
    | run summary => cases hk

theorem count_keptIn_le {s : Setup} {job : Job} {xs : List Exchange} {ending : Ending}
    (h : (workOn s job).Ends xs ending) (t : String) :
    (keptIn xs).count t ≤ if job.game.text = t then 1 else 0 := by
  rcases workOn_ends h with ⟨_, _, hw⟩ | ⟨g, _, hs⟩
  · rw [keptIn, hw]
    exact Nat.zero_le _
  · obtain ⟨cs, hcs, hkeeps⟩ := hs.writes
    have hlast : [SinkCall.outcome g].filterMap SinkCall.kept? = [] := rfl
    rw [keptIn, hcs, List.filterMap_append, hlast, List.append_nil]
    exact hkeeps.count_le t

theorem Course.Possible.count_kept_le {s : Setup} {c : Course} (h : c.Possible s) (t : String) :
    (keptIn c.exchanged).count t ≤ if c.job.game.text = t then 1 else 0 := by
  have hb : keptIn c.before = [] := congrArg _ h.before.writes_nil
  rw [Course.exchanged, keptIn_append, hb, List.nil_append]
  have hplace := h.place
  cases hp : c.place with
  | waiting =>
    simp only [hp, Place.Fits] at hplace
    rw [hplace]
    exact Nat.zero_le _
  | held w =>
    simp only [hp, Place.Fits] at hplace
    obtain ⟨ys, ending, hw⟩ := Worker.exists_continues hplace.1
    have hle := count_keptIn_le (hplace.2 ys ending hw) t
    rw [keptIn_append, List.count_append] at hle
    exact Nat.le_trans (Nat.le_add_right ..) hle
  | settled g =>
    simp only [hp, Place.Fits] at hplace
    exact count_keptIn_le hplace t

theorem count_kept_courses_le {s : Setup} {cs : List Course} (h : ∀ c ∈ cs, c.Possible s)
    (t : String) : (keptIn (cs.flatMap Course.exchanged)).count t ≤
      (cs.map fun c => c.job.game.text).count t := by
  induction cs with
  | nil => exact Nat.le_refl 0
  | cons c rest ih =>
    obtain ⟨hc, hrest⟩ := List.forall_mem_cons.1 h
    have hfirst := hc.count_kept_le t
    rw [List.flatMap_cons, keptIn_append, List.count_append, List.map_cons, List.count_cons]
    have hle := Nat.add_le_add hfirst (ih hrest)
    rw [Nat.add_comm] at hle
    simpa only [beq_iff_eq, Nat.add_comm] using hle

namespace Run

section
variable {s : Setup} {n : Nat} {id : Uuid} {now : Instant} {shared : Shared} {ids : List String}
  {past : List Dealing} {r : Run}

/-- The games that a run starts with, by their text, are those that the batch spells. -/
theorem count_first_games (t : String) :
    ((startWith n id now shared ids).queue.map fun job => job.game.text).count t =
      (spellings ids t).length := by
  simp only [startWith, spellings]
  induction batchIds ids with
  | nil => rfl
  | cons x rest ih =>
    cases hd : GameId.decode x with
    | error e =>
      have hs : spells t x = false := by simp only [spells, hd]
      rw [List.filterMap_cons_none (firstJob?_of_error hd), List.filter_cons_of_neg (by simp [hs])]
      exact ih
    | ok g =>
      have hs : spells t x = (g.text == t) := by simp only [spells, hd]
      rw [List.filterMap_cons_some (firstJob?_of_ok hd), List.map_cons, List.count_cons, ih,
        List.filter_cons, hs]
      split <;> rfl

theorem Reached.keptIn_own (h : Reached s (startWith n id now shared ids) past r) :
    keptIn (ownExchanges past) = [] := by
  apply List.filterMap_eq_nil_iff.2
  intro c hc
  have hrecord := h.isRecord_of_own c hc
  cases c with
  | outcome g => rfl
  | run summary => rfl
  | _ => cases hrecord

theorem Reached.count_kept_le (h : Reached s (startWith n id now shared ids) past r) (t : String) :
    (keptIn (past.map Dealing.exchange)).count t ≤ (spellings ids t).length := by
  obtain ⟨cs, ht⟩ := h.tracked
  have hall := keptIn_perm (exchanges_perm past)
  rw [keptIn_append, h.keptIn_own, List.nil_append] at hall
  have hgames := ht.games.map GameId.text
  rw [List.map_map, List.map_map] at hgames
  rw [hall.count_eq, (keptIn_perm ht.exchanged).count_eq]
  refine Nat.le_trans (count_kept_courses_le ht.possible t) (Nat.le_of_eq ?_)
  exact (hgames.count_eq t).trans (count_first_games t)

theorem Reached.report_ids_perm (h : Reached s (startWith n id now shared ids) past r)
    (hn : 1 ≤ n) (he : r.ended = true) :
    (r.report.results.map GameResult.gameId).Perm ((batchIds ids).map resultId) := by
  obtain ⟨results, hperm, hall⟩ := h.exists_answers hn he
  rw [← gameIds_of_answers hall]
  exact (hperm.map _).symm

/-- A run keeps a game at most as often as the batch spells it.  Its results stand under different
identifiers and no game is kept twice exactly when the batch spells no game in two ways. -/
theorem one_result_iff_one_spelling (hn : 1 ≤ n)
    (h : Reached s (startWith n id now shared ids) past r) :
    (∀ t, (keptIn (past.map Dealing.exchange)).count t ≤ (spellings ids t).length) ∧
      (r.ended = true →
        (((r.report.results.map GameResult.gameId).Nodup ∧
            ∀ t, (keptIn (past.map Dealing.exchange)).count t ≤ 1) ↔
          ∀ t, (spellings ids t).length ≤ 1)) := by
  refine ⟨h.count_kept_le, fun he => ?_⟩
  rw [(h.report_ids_perm hn he).nodup_iff, nodup_resultIds]
  exact ⟨fun hs => hs.1, fun hs => ⟨hs, fun t => Nat.le_trans (h.count_kept_le t) (hs t)⟩⟩

end

/-- A game that a batch names twice in one spelling has one result. -/
theorem one_result_of_repeated_spelling :
    ∃ past r, 1 ≤ 1 ∧
      Reached bareSetup (bareStart 1 [" 20240323hhlg0", "20240323hhlg0 "]) past r ∧
      r.ended = true ∧ (r.report.results.map GameResult.gameId).Nodup ∧
      ∀ t, (keptIn (past.map Dealing.exchange)).count t ≤ 1 := by
  have hview : ((bareStart 1 [" 20240323hhlg0", "20240323hhlg0 "]).follow bareSetup
      (takeGame 0 ++ missPage 0 true ++ [.finish .epoch none])).map (fun p => p.2.ended) = some true := by rfl
  obtain ⟨⟨past, r⟩, hfollow, hended⟩ := Option.map_eq_some_iff.1 hview
  have hreached := Reached.start.follow hfollow
  have hone : ∀ t, (spellings [" 20240323hhlg0", "20240323hhlg0 "] t).length ≤ 1 :=
    fun t => List.length_filter_le ..
  exact ⟨past, r, Nat.le_refl 1, hreached, hended,
    ((one_result_iff_one_spelling (Nat.le_refl 1) hreached).2 hended).2 hone⟩

/-- A game that a batch names in two spellings has two results. -/
theorem two_results_of_two_spellings :
    ∃ past r, Reached bareSetup (bareStart 1 ["20240323HHLG0", "20240323hhlg0"]) past r ∧
      r.ended = true ∧ ¬(r.report.results.map GameResult.gameId).Nodup := by
  have hview : ((bareStart 1 ["20240323HHLG0", "20240323hhlg0"]).follow bareSetup
      (takeGame 0 ++ missPage 0 true ++ .tick 60000 :: takeGame 0 ++ missPage 0 false ++
        [.finish .epoch none])).map
        (fun p => (p.2.ended, p.2.results.map GameResult.gameId)) =
          some (true, ["20240323HHLG0", "20240323HHLG0"]) := by decide +kernel
  obtain ⟨⟨past, r⟩, hfollow, hr⟩ := Option.map_eq_some_iff.1 hview
  obtain ⟨hended, hresults⟩ := Prod.ext_iff.1 hr
  refine ⟨past, r, Reached.start.follow hfollow, hended, ?_⟩
  rw [((report_results_perm r).map GameResult.gameId).nodup_iff, show r.results.map _ = _ from hresults]
  decide

end Run

end Scorebook.Ingest
