import Scorebook.Proofs.Ingest.Dealt

/-!
# The calls of a kept record

A record that a page came to is saved or set aside by one call, and another one flags what stayed
open.  Which calls were made, and whether they succeeded, is told by the record and the outcome.
-/

namespace Scorebook.Ingest

variable {s : Setup} {b : BoxScore} {review : List ReviewItem}
  {calls : List (SinkCall × Option String)} {o : GameOutcome}

theorem keepingCall_eq_save {b' : BoxScore} {v : Validation} :
    keepingCall s b = .save b' v ↔ b = b' ∧ v = s.validation b' ∧ v.isValid = true := by
  unfold keepingCall
  split
  · rename_i hvalid
    rw [SinkCall.save.injEq]
    constructor
    · rintro ⟨rfl, rfl⟩
      exact ⟨rfl, rfl, hvalid⟩
    · rintro ⟨rfl, rfl, -⟩
      exact ⟨rfl, rfl⟩
  · rename_i hvalid
    refine ⟨nofun, ?_⟩
    rintro ⟨rfl, rfl, h⟩
    exact absurd h hvalid

theorem keepingCall_eq_setAside {b' : BoxScore} {v : Validation} :
    keepingCall s b = .setAside b' v ↔ b = b' ∧ v = s.validation b' ∧ v.isValid = false := by
  unfold keepingCall
  split
  · rename_i hvalid
    refine ⟨nofun, ?_⟩
    rintro ⟨rfl, rfl, h⟩
    rw [h] at hvalid
    cases hvalid
  · rename_i hvalid
    rw [SinkCall.setAside.injEq]
    constructor
    · rintro ⟨rfl, rfl⟩
      exact ⟨rfl, rfl, Bool.eq_false_iff.2 hvalid⟩
    · rintro ⟨rfl, rfl, -⟩
      exact ⟨rfl, rfl⟩

theorem keepingCall_ne_flag (items : List ReviewItem) : keepingCall s b ≠ .flag items := by
  unfold keepingCall
  split <;> nofun

theorem keptOutcome_eq_accepted {warnings : List String} :
    keptOutcome s b = .accepted warnings ↔
      (s.validation b).isValid = true ∧ warnings = (s.validation b).warnings := by
  unfold keptOutcome
  split
  · rename_i hvalid
    simp [hvalid, eq_comm]
  · rename_i hvalid
    simp [hvalid]

theorem keptOutcome_eq_quarantined {errors : List String} :
    keptOutcome s b = .quarantined errors ↔
      (s.validation b).isValid = false ∧ errors = (s.validation b).errors := by
  unfold keptOutcome
  split
  · rename_i hvalid
    simp [hvalid]
  · rename_i hvalid
    simp [hvalid, eq_comm]

theorem keptOutcome_ne_noData : keptOutcome s b ≠ .noData := by
  unfold keptOutcome
  split <;> nofun

theorem keptOutcome_ne_failed (e : String) : keptOutcome s b ≠ .failed e := by
  unfold keptOutcome
  split <;> nofun

namespace CallsFor

theorem exists_mem_iff (hk : CallsFor s b review calls o) {c : SinkCall}
    (hc : ∀ items, c ≠ .flag items) : (∃ f, (c, f) ∈ calls) ↔ keepingCall s b = c := by
  cases hk <;> simp [hc, eq_comm]

theorem exists_flag_iff (hk : CallsFor s b review calls o) {items : List ReviewItem} :
    (∃ f, (.flag items, f) ∈ calls) ↔
      items ≠ [] ∧ review = items ∧ (keepingCall s b, none) ∈ calls := by
  have hne : SinkCall.flag items ≠ keepingCall s b := (keepingCall_ne_flag items).symm
  have hflag : review ≠ [] → ∀ f' : Option String, ((∃ f, (SinkCall.flag items, f) ∈
      [(keepingCall s b, none), (.flag review, f')]) ↔
        items ≠ [] ∧ review = items ∧
          (keepingCall s b, none) ∈ [(keepingCall s b, none), (.flag review, f')]) := by
    intro hopen f'
    simp only [List.mem_cons, Prod.mk.injEq, hne, false_and, List.not_mem_nil, or_false, false_or,
      SinkCall.flag.injEq, exists_eq_right, true_or, and_true]
    exact ⟨fun h => ⟨h ▸ hopen, h.symm⟩, fun h => h.2.symm⟩
  cases hk with
  | lost e => simp [hne]
  | clear h =>
    subst h
    simp [hne]
  | unflagged h e => exact hflag h _
  | flagged h => exact hflag h _

/-- All calls succeeded and the game has its outcome, or one failed and the outcome says so. -/
theorem outcome (hk : CallsFor s b review calls o) :
    (∀ call ∈ calls, call.2 = none) ∧ o = keptOutcome s b ∨
      ∃ c e, (c, some e) ∈ calls ∧ o = storeFailure e := by
  cases hk with
  | lost e => exact .inr ⟨_, e, List.mem_singleton_self _, rfl⟩
  | clear h => exact .inl ⟨by simp, rfl⟩
  | unflagged h e => exact .inr ⟨_, e, List.mem_cons_of_mem _ (List.mem_singleton_self _), rfl⟩
  | flagged h => exact .inl ⟨by simp, rfl⟩

theorem failure_unique (hk : CallsFor s b review calls o) {c : SinkCall} {e : String}
    (h : (c, some e) ∈ calls) : o = storeFailure e := by
  cases hk with
  | lost e' =>
    cases List.mem_singleton.1 h
    rfl
  | clear h' => cases List.mem_singleton.1 h
  | unflagged h' e' =>
    rcases List.mem_cons.1 h with h | h
    · cases h
    · cases List.mem_singleton.1 h
      rfl
  | flagged h' =>
    rcases List.mem_cons.1 h with h | h
    · cases h
    · cases List.mem_singleton.1 h

/-- An outcome other than a failure is that of a record all of whose calls succeeded. -/
theorem outcome_iff (hk : CallsFor s b review calls o) (kept : GameOutcome)
    (hne : ∀ e, kept ≠ .failed e) :
    o = kept ↔ (∀ call ∈ calls, call.2 = none) ∧ keptOutcome s b = kept := by
  rcases hk.outcome with ⟨hall, rfl⟩ | ⟨c, e, hmem, rfl⟩
  · exact (and_iff_right hall).symm
  · exact ⟨fun h => absurd h.symm (hne _), fun h => absurd (h.1 _ hmem) nofun⟩

theorem sequence (hk : CallsFor s b review calls o) :
    (∃ f, calls = [(keepingCall s b, f)]) ∨
      review ≠ [] ∧ ∃ f, calls = [(keepingCall s b, none), (.flag review, f)] := by
  cases hk with
  | lost e => exact .inl ⟨_, rfl⟩
  | clear h => exact .inl ⟨_, rfl⟩
  | unflagged h e => exact .inr ⟨h, _, rfl⟩
  | flagged h => exact .inr ⟨h, _, rfl⟩

theorem saved_iff (hk : CallsFor s b review calls o) {b' : BoxScore} {v : Validation} :
    (∃ f, (.save b' v, f) ∈ calls) ↔ b = b' ∧ v = s.validation b' ∧ v.isValid = true :=
  (hk.exists_mem_iff (c := .save b' v) fun _ => nofun).trans keepingCall_eq_save

theorem setAside_iff (hk : CallsFor s b review calls o) {b' : BoxScore} {v : Validation} :
    (∃ f, (.setAside b' v, f) ∈ calls) ↔ b = b' ∧ v = s.validation b' ∧ v.isValid = false :=
  (hk.exists_mem_iff (c := .setAside b' v) fun _ => nofun).trans keepingCall_eq_setAside

theorem accepted_iff (hk : CallsFor s b review calls o) (warnings : List String) :
    o = .accepted warnings ↔ (∀ call ∈ calls, call.2 = none) ∧
      ∃ b' v f, (.save b' v, f) ∈ calls ∧ warnings = v.warnings := by
  rw [hk.outcome_iff (.accepted warnings) fun _ => nofun, keptOutcome_eq_accepted]
  refine and_congr_right fun _ => ⟨?_, ?_⟩
  · rintro ⟨hvalid, rfl⟩
    obtain ⟨f, hmem⟩ := hk.saved_iff.2 ⟨rfl, rfl, hvalid⟩
    exact ⟨b, _, f, hmem, rfl⟩
  · rintro ⟨b', v, f, hmem, rfl⟩
    obtain ⟨rfl, rfl, hvalid⟩ := hk.saved_iff.1 ⟨f, hmem⟩
    exact ⟨hvalid, rfl⟩

theorem quarantined_iff (hk : CallsFor s b review calls o) (errors : List String) :
    o = .quarantined errors ↔ (∀ call ∈ calls, call.2 = none) ∧
      ∃ b' v f, (.setAside b' v, f) ∈ calls ∧ errors = v.errors := by
  rw [hk.outcome_iff (.quarantined errors) fun _ => nofun, keptOutcome_eq_quarantined]
  refine and_congr_right fun _ => ⟨?_, ?_⟩
  · rintro ⟨hvalid, rfl⟩
    obtain ⟨f, hmem⟩ := hk.setAside_iff.2 ⟨rfl, rfl, hvalid⟩
    exact ⟨b, _, f, hmem, rfl⟩
  · rintro ⟨b', v, f, hmem, rfl⟩
    obtain ⟨rfl, rfl, hvalid⟩ := hk.setAside_iff.1 ⟨f, hmem⟩
    exact ⟨hvalid, rfl⟩

theorem failed_iff (hk : CallsFor s b review calls o) :
    (∃ e, o = .failed e) ↔ ∃ call ∈ calls, call.2 ≠ none := by
  constructor
  · rintro ⟨e, h⟩
    rcases hk.outcome with ⟨-, rfl⟩ | ⟨c, e, hmem, rfl⟩
    · exact absurd h (keptOutcome_ne_failed e)
    · exact ⟨_, hmem, nofun⟩
  · rintro ⟨⟨c, failure⟩, hmem, hfailure⟩
    obtain ⟨e, rfl⟩ := Option.ne_none_iff_exists'.1 hfailure
    exact ⟨_, hk.failure_unique hmem⟩

theorem rest_of_lost (hk : CallsFor s b review calls o) {c : SinkCall} {e : String}
    {rest : List (SinkCall × Option String)} (h : calls = (c, some e) :: rest) : rest = [] := by
  rcases hk.sequence with ⟨f, hs⟩ | ⟨-, f, hs⟩
  · rw [h] at hs
    exact (List.cons.inj hs).2
  · rw [h] at hs
    cases hs

end CallsFor

end Scorebook.Ingest
