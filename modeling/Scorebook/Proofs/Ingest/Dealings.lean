import Scorebook.Proofs.Ingest.Courses

/-!
# Dealings belong to a game

Whatever a run deals with its surroundings, it deals either for itself, and then it only records
something, or for one of the games that it started with, and then it writes about this game and
fetches pages of this game only.
-/

namespace Scorebook.Ingest
open Text

theorem gameExchanges_subset (gameId : String) (past : List Dealing) :
    gameExchanges gameId past ⊆ past.map Dealing.exchange := by
  intro x hx
  obtain ⟨d, hd, he⟩ := List.mem_filterMap.1 hx
  unfold Dealing.forGame? at he
  split at he
  · cases he
  · split at he
    · exact List.mem_map.2 ⟨d, hd, Option.some.inj he⟩
    · cases he

def SinkCall.isRecord : SinkCall → Bool
  | .outcome _ => true
  | .run _ => true
  | _ => false

/-- A run for itself only records; for a job it deals with the game of the job only. -/
def Dealing.Proper (s : Setup) (games : List GameId) (d : Dealing) : Prop :=
  match d.job with
  | none => ∃ c failure, d.exchange = .write c failure ∧ c.isRecord = true
  | some job => job.game ∈ games ∧
    (∀ c, d.exchange.write? = some c → c.About job.game.text) ∧
    ∀ p, d.exchange.page? = some p → p.1 = job.game.lineupUrl s.settings.baseUrl ∨
      p.1 = job.game.reviewUrl s.settings.baseUrl

theorem about_of_workOn {s : Setup} {job : Job} {xs : List Exchange} {ending : Ending}
    (h : (workOn s job).Ends xs ending) : ∀ c ∈ writesOf xs, c.About job.game.text := by
  intro c hc
  rcases workOn_ends h with ⟨_, _, hw⟩ | ⟨g, _, hs⟩
  · rw [hw] at hc
    cases hc
  · obtain ⟨cs, hcs, hkeeps⟩ := hs.writes
    rw [hcs] at hc
    rcases List.mem_append.1 hc with hc | hc
    · exact hkeeps.about c hc
    · rw [List.mem_singleton.1 hc]
      exact hs.gameId

namespace Run

section
variable {s : Setup} {start : Run} {past : List Dealing} {r : Run} {cs : List Course}

/-- The exchange of a turn belongs to the work on the job of its worker. -/
theorem Tracks.work_of_move {i : Nat} {w : Worker} {t : Turn} {run : Uuid}
    (h : Tracks s start past r cs) (hi : r.workers[i]? = some w)
    (ht : Worker.Turned run r.shared w t) :
    ∃ job xs ending, t.worker.job? = some job ∧ job.game ∈ start.queue.map Job.game ∧
      (workOn s job).Ends xs ending ∧ t.exchanged ⊆ xs := by
  obtain ⟨job, hw, hv⟩ := ht.job
  obtain ⟨xs, ys, rest, htr, _, hys⟩ := h.course_of_held hi hw
  obtain ⟨zs, ending, hz⟩ := Worker.exists_continues hv
  refine ⟨job, ys ++ t.exchanged ++ zs, ending, hv, ?_, hys.turn ht zs ending hz, ?_⟩
  · exact htr.games.mem_iff.1 List.mem_cons_self
  · exact fun x hx => List.mem_append_left _ (List.mem_append_right _ hx)

theorem Tracks.proper_of_move {i : Nat} {w : Worker} {t : Turn} {run : Uuid}
    (h : Tracks s start past r cs) (hi : r.workers[i]? = some w)
    (ht : Worker.Turned run r.shared w t) :
    ∀ d ∈ t.exchanged.map (fun x => (⟨t.worker.job?, x⟩ : Dealing)),
      d.Proper s (start.queue.map Job.game) := by
  obtain ⟨job, xs, ending, hv, hgame, hends, hsub⟩ := h.work_of_move hi ht
  intro d hd
  obtain ⟨x, hx, rfl⟩ := List.mem_map.1 hd
  simp only [Dealing.Proper, hv]
  refine ⟨hgame, fun c hc => ?_, fun p hp => ?_⟩
  · exact about_of_workOn hends c (List.mem_filterMap.2 ⟨x, hsub hx, hc⟩)
  · exact pagesOf_workOn hends p (List.mem_filterMap.2 ⟨x, hsub hx, hp⟩)

end

section
variable {s : Setup} {n : Nat} {id : Uuid} {now : Instant} {shared : Shared} {ids : List String}
  {past : List Dealing} {r : Run}

/-- All dealings of a run belong to the run itself or to a game that it started with. -/
theorem Reached.proper (h : Reached s (startWith n id now shared ids) past r) :
    ∀ d ∈ past, d.Proper s ((startWith n id now shared ids).queue.map Job.game) := by
  refine h.invariant (P := fun past _ =>
    ∀ d ∈ past, d.Proper s ((startWith n id now shared ids).queue.map Job.game))
    (fun d hd => by cases hd) ?_
  intro past r ds r' hr _ hs ih
  have hds : ∀ d ∈ ds, d.Proper s ((startWith n id now shared ids).queue.map Job.game) := by
    cases hs with
    | @refuse now failure g rest hg =>
      intro d hd
      rw [List.mem_singleton.1 hd]
      exact ⟨.outcome g, failure, rfl, rfl⟩
    | move hi ht =>
      obtain ⟨cs, htr⟩ := hr.tracked
      exact htr.proper_of_move hi (Worker.turned_of_turn ht)
    | @finish now failure hrf hp =>
      intro d hd
      rw [List.mem_singleton.1 hd]
      exact ⟨.run (r.closing now), failure, rfl, rfl⟩
    | _ => exact fun d hd => by cases hd
  intro d hd
  rcases List.mem_append.1 hd with hd | hd
  · exact ih d hd
  · exact hds d hd

theorem Reached.isRecord_of_own (h : Reached s (startWith n id now shared ids) past r) :
    ∀ c ∈ writesOf (ownExchanges past), c.isRecord = true := by
  intro c hc
  obtain ⟨x, hx, hxc⟩ := List.mem_filterMap.1 hc
  obtain ⟨d, hd, hdx⟩ := List.mem_filterMap.1 hx
  have hp := h.proper d hd
  unfold Dealing.Proper at hp
  unfold Dealing.own? at hdx
  cases hj : d.job with
  | some job =>
    simp only [hj] at hdx
    cases hdx
  | none =>
    simp only [hj] at hp hdx
    obtain ⟨c', failure, hw, hrecord⟩ := hp
    obtain rfl := Option.some.inj hdx
    rw [hw] at hxc
    rwa [← Option.some.inj hxc]

/-- What is exchanged for no game of a run is nothing. -/
theorem Reached.gameExchanges_eq_nil (h : Reached s (startWith n id now shared ids) past r)
    {gameId : String} (hg : ∀ g ∈ (startWith n id now shared ids).queue.map Job.game,
      g.text ≠ gameId) : gameExchanges gameId past = [] := by
  apply List.filterMap_eq_nil_iff.2
  intro d hd
  have hp := h.proper d hd
  unfold Dealing.Proper at hp
  unfold Dealing.forGame?
  cases hj : d.job with
  | none => rfl
  | some job =>
    simp only [hj] at hp
    exact if_neg (hg _ hp.1)

end

end Run

end Scorebook.Ingest
