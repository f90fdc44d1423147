import Scorebook.Proofs.GameId.Encoding
import Scorebook.Proofs.Ingest.Completion
import Scorebook.Proofs.Page.Extraction

/-!
# Identifiers in a run

The game of a worker's job is one that was decoded, so decoding its text gives the game again, and
no page is refused for the identifier of the game it was fetched for.
-/

namespace Scorebook.Ingest.Run
open Text

section
variable {s : Setup} {n : Nat} {id : Uuid} {now : Instant} {shared : Shared} {ids : List String}
  {past : List Dealing} {r : Run}

theorem Reached.decode_job (h : Reached s (startWith n id now shared ids) past r) {i : Nat}
    {w : Worker} {job : Job} (hi : r.workers[i]? = some w) (hw : w.job? = some job) :
    GameId.decode job.game.text = .ok job.game := by
  obtain ⟨cs, ht⟩ := h.tracked
  obtain ⟨xs, ys, rest, htr, -, -⟩ := ht.course_of_held hi hw
  have hgame : job.game ∈ (startWith n id now shared ids).queue.map Job.game :=
    htr.games.mem_iff.1 List.mem_cons_self
  obtain ⟨x, hx⟩ := decoded_of_mem_first_games hgame
  exact GameId.decode_text hx

end

/-- Identifiers are read as what they were written from, exactly those are written that can be, and
a decoded identifier is decoded to itself.  Every worker of a run has such an identifier, for which
no page is refused as having a bad one. -/
theorem identifiers_round_trip :
    (∀ (d : Date) (away home : String) (k : Nat) (x : String), 0 ≤ d.year → d.year ≤ 9999 →
      GameId.encode d away home k = .ok x →
        GameId.decode x = .ok ⟨x, d, d.year, asciiUppered away, asciiUppered home, k⟩) ∧
    (∀ (d : Date) (away home : String) (k : Nat), (∃ x, GameId.encode d away home k = .ok x) ↔
      (∀ t ∈ [away, home], t.toList.length = 2 ∧ ∀ c ∈ t.toList, c.isAlphanum = true) ∧ k ≤ 9) ∧
    (∀ (x : String) (g : GameId), GameId.decode x = .ok g → GameId.decode g.text = .ok g) ∧
    (∀ (s : Setup) (n : Nat) (id : Uuid) (now : Instant) (shared : Shared) (ids : List String)
      (past : List Dealing) (r : Run), Reached s (startWith n id now shared ids) past r →
        ∀ (i : Nat) (w : Worker) (job : Job), r.workers[i]? = some w → w.job? = some job →
          GameId.decode job.game.text = .ok job.game ∧
            ∀ (page : Page) (date : Option Date) (e : GameIdError),
              page.extract s.history job.game.text date ≠ .error (.badGameId e)) := by
  refine ⟨?_, ?_, ?_, ?_⟩
  · intro d away home k x hlow hhigh h
    exact GameId.decode_encode hlow hhigh h
  · intro d away home k
    constructor
    · rintro ⟨x, hx⟩
      obtain ⟨ha, hh, hk, -⟩ := GameId.encode_eq_ok_iff.1 hx
      refine ⟨?_, hk⟩
      rintro t (_ | ⟨_, _ | ⟨_, ht⟩⟩)
      · exact GameId.isSegment_iff.1 ha
      · exact GameId.isSegment_iff.1 hh
      · cases ht
    · rintro ⟨hsegments, hk⟩
      have ha := GameId.isSegment_iff.2 (hsegments away (by simp))
      have hh := GameId.isSegment_iff.2 (hsegments home (by simp))
      exact ⟨_, GameId.encode_eq_ok_iff.2 ⟨ha, hh, hk, rfl⟩⟩
  · intro x g h
    exact GameId.decode_text h
  · intro s n id now shared ids past r hr i w job hi hw
    have hdecode := hr.decode_job hi hw
    exact ⟨hdecode, fun page date => Page.notBadId_extract hdecode⟩

/-- An identifier of the year 7 in small letters, and a worker that has taken a game. -/
theorem identifiers_of_early_game_and_taken_game :
    GameId.decode "00070401HHLG9" =
      .ok ⟨"00070401HHLG9", ⟨7, 4, 1, by decide⟩, 7, "HH", "LG", 9⟩ ∧
    GameId.decode "20240323HHLG0" = .ok ⟨"20240323HHLG0", ⟨2024, 3, 23, by decide⟩, 2024, "HH",
      "LG", 0⟩ ∧
    ∃ past r w job, Reached bareSetup (bareStart 1 ["20240323hhlg0"]) past r ∧
      r.workers[0]? = some w ∧ w.job? = some job ∧ job.game.text = "20240323HHLG0" ∧
      ∀ (page : Page) (date : Option Date) (e : GameIdError),
        page.extract bareSetup.history job.game.text date ≠ .error (.badGameId e) := by
  obtain ⟨hwritten, -, hread, hruns⟩ := identifiers_round_trip
  have hview : ((bareStart 1 ["20240323hhlg0"]).follow bareSetup (takeGame 0)).map
      (fun p => (p.2.workers[0]?.bind Worker.job?).map (·.game.text)) =
        some (some "20240323HHLG0") := by rfl
  obtain ⟨⟨past, r⟩, hfollow, hr⟩ := Option.map_eq_some_iff.1 hview
  obtain ⟨job, hjob, htext⟩ := Option.map_eq_some_iff.1 hr
  obtain ⟨w, hi, hw⟩ := Option.bind_eq_some_iff.1 hjob
  have hreached := Reached.start.follow hfollow
  refine ⟨?_, ?_, past, r, w, job, hreached, hi, hw, htext, ?_⟩
  · have hsegments : asciiUppered "hh" = "HH" ∧ asciiUppered "Lg" = "LG" := by decide +kernel
    have hearly := hwritten ⟨7, 4, 1, by decide⟩ "hh" "Lg" 9 "00070401HHLG9" (by decide)
      (by decide) (by rfl)
    rwa [hsegments.1, hsegments.2] at hearly
  · have hspelled : GameId.decode " 20240323hhlg0 " = .ok ⟨"20240323HHLG0",
        ⟨2024, 3, 23, by decide⟩, 2024, "HH", "LG", 0⟩ := by rfl
    have hagain := hread _ _ hspelled
    exact hagain
  · exact (hruns _ _ _ _ _ _ _ _ hreached 0 w job hi hw).2

end Scorebook.Ingest.Run
