import Scorebook.Proofs.BoxScore.Rereading

/-!
# Valid box scores

What it means for a box score to be valid, and that validation finds the same in a box score that
was written and read back.
-/

namespace Scorebook
open Text

/-- A box score that may be accepted. -/
structure BoxScore.Acceptable (codes : Franchise.CodeSet) (b : BoxScore) : Prop where
  gameId : isBlankText b.gameId = false
  date : b.date.isSome = true
  franchise : ∀ side, ∃ code franchise, (b.teams.get side).code = some code ∧
    (b.teams.get side).franchiseCode = some franchise ∧ codes.contains franchise = true
  hitters : ∀ side, b.hitters.get side ≠ []
  pitchers : ∀ side, b.pitchers.get side ≠ []

namespace Validation

variable {codes : Franchise.CodeSet} {b b' : BoxScore}

/-! ### Errors -/

theorem identityErrors_eq_nil :
    identityErrors b = [] ↔ isBlankText b.gameId = false ∧ b.date.isSome = true := by
  unfold identityErrors
  cases isBlankText b.gameId <;> cases b.date <;> simp

theorem teamErrors_eq_nil {side : Side} {t : TeamLine} :
    teamErrors codes side t = [] ↔ ∃ code franchise, t.code = some code ∧
      t.franchiseCode = some franchise ∧ codes.contains franchise = true := by
  unfold teamErrors
  split
  · rename_i hcode
    simp [hcode]
  · rename_i code hcode
    split
    · rename_i hfranchise
      simp [hfranchise]
    · rename_i franchise hfranchise
      simp [hcode, hfranchise]

theorem lineupErrors_eq_nil {side : Side} :
    lineupErrors b side = [] ↔ b.hitters.get side ≠ [] ∧ b.pitchers.get side ≠ [] := by
  unfold lineupErrors
  cases b.hitters.get side <;> cases b.pitchers.get side <;> simp

/-- A box score is valid exactly when it may be accepted. -/
theorem isValid_ofBoxScore : (ofBoxScore codes b).isValid = true ↔ b.Acceptable codes := by
  have hvalid : (ofBoxScore codes b).isValid = true ↔ allErrors codes b = [] := List.isEmpty_iff
  have hsides : ∀ f : Side → List String, Side.both.flatMap f = [] ↔ ∀ side, f side = [] := by
    intro f
    rw [List.flatMap_eq_nil_iff]
    exact ⟨fun h side => h side side.mem_both, fun h side _ => h side⟩
  rw [hvalid, allErrors, List.append_eq_nil_iff, List.append_eq_nil_iff, identityErrors_eq_nil,
    hsides, hsides]
  simp only [teamErrors_eq_nil, lineupErrors_eq_nil]
  constructor
  · rintro ⟨⟨⟨hid, hdate⟩, hteams⟩, hrows⟩
    exact ⟨hid, hdate, hteams, fun side => (hrows side).1, fun side => (hrows side).2⟩
  · intro h
    exact ⟨⟨⟨h.gameId, h.date⟩, h.franchise⟩, fun side => ⟨h.hitters side, h.pitchers side⟩⟩

theorem head?_append_of_some {s t : String} {c : Char} (h : s.toList.head? = some c) :
    (s ++ t).toList.head? = some c := by
  rw [String.toList_append, List.head?_append, h, Option.some_or]

theorem not_invalid_of_head? {e : String} {c : Char} (h : e.toList.head? = some c) (hc : c ≠ 'I') :
    ¬"Invalid ".toList <+: e.toList := by
  rintro ⟨rest, hrest⟩
  have hhead : ("Invalid ".toList ++ rest).head? = some 'I' := rfl
  rw [hrest, h] at hhead
  exact hc (Option.some.inj hhead)

theorem head?_of_mem_identityErrors {e : String} (he : e ∈ identityErrors b) :
    e.toList.head? = some 'M' := by
  simp only [identityErrors, List.mem_append, List.mem_ite_nil_right, List.mem_singleton] at he
  rcases he with ⟨-, rfl⟩ | ⟨-, rfl⟩ <;> rfl

theorem head?_of_mem_lineupErrors {side : Side} {e : String} (he : e ∈ lineupErrors b side) :
    e.toList.head? = some 'N' := by
  simp only [lineupErrors, List.mem_append, List.mem_ite_nil_right, List.mem_singleton] at he
  rcases he with ⟨-, rfl⟩ | ⟨-, rfl⟩ <;> exact head?_append_of_some rfl

theorem head?_of_mem_teamErrors {side : Side} {t : TeamLine} {e : String}
    (hcanonical : ∀ c, t.franchiseCode = some c → codes.contains c = true)
    (he : e ∈ teamErrors codes side t) : e.toList.head? = some 'M' ∨ e.toList.head? = some 'U' := by
  unfold teamErrors at he
  split at he
  · obtain rfl := List.mem_singleton.1 he
    exact .inl (head?_append_of_some (head?_append_of_some rfl))
  · split at he
    · obtain rfl := List.mem_singleton.1 he
      right
      iterate 4 apply head?_append_of_some
      rfl
    · rename_i franchise hfranchise
      rw [if_pos (hcanonical franchise hfranchise)] at he
      cases he

/-- A code is called invalid only when its franchise code is not canonical. -/
theorem not_invalid_of_canonical
    (hcanonical : ∀ side c, (b.teams.get side).franchiseCode = some c → codes.contains c = true)
    {e : String} (he : e ∈ (ofBoxScore codes b).errors) : ¬"Invalid ".toList <+: e.toList := by
  simp only [ofBoxScore, allErrors, List.mem_append, List.mem_flatMap] at he
  obtain (he | ⟨side, -, he⟩) | ⟨side, -, he⟩ := he
  · exact not_invalid_of_head? (head?_of_mem_identityErrors he) (by decide)
  · rcases head?_of_mem_teamErrors (hcanonical side) he with hhead | hhead
    · exact not_invalid_of_head? hhead (by decide)
    · exact not_invalid_of_head? hhead (by decide)
  · exact not_invalid_of_head? (head?_of_mem_lineupErrors he) (by decide)

/-! ### Box scores that agree -/

theorem hitterRuns_eq {rows rows' : List HitterRow}
    (h : List.Forall₂ (fun r r' => r.line.counts = r'.line.counts) rows rows') :
    hitterRuns rows' = hitterRuns rows := by
  induction h with
  | nil => rfl
  | cons hrow _ ih =>
    simp only [hitterRuns, List.filterMap_cons, ← hrow] at ih ⊢
    rw [ih]

theorem isEmpty_eq_of_length {α β : Type} {as : List α} {bs : List β}
    (h : as.length = bs.length) : as.isEmpty = bs.isEmpty := by
  rw [Bool.eq_iff_iff, List.isEmpty_iff_length_eq_zero, List.isEmpty_iff_length_eq_zero, h]

/-- Validation finds the same in box scores that agree in what it looks at. -/
theorem ofBoxScore_eq_of_sameChecks (h : b.SameChecks b') :
    ofBoxScore codes b' = ofBoxScore codes b := by
  have hidentity : identityErrors b' = identityErrors b := by
    simp only [identityErrors, h.gameId, ← Option.not_isSome, h.date]
  have hlineup : lineupErrors b' = lineupErrors b := by
    funext side
    have hhitters := isEmpty_eq_of_length (h.hitters side).length_eq.symm
    have hpitchers := isEmpty_eq_of_length (h.pitchers side)
    simp only [lineupErrors, hhitters, hpitchers]
  have hruns : ∀ side, hitterRunsWarnings side (b.teams.get side) (b'.hitters.get side) =
      hitterRunsWarnings side (b.teams.get side) (b.hitters.get side) := by
    intro side
    simp only [hitterRunsWarnings, hitterRuns_eq (h.hitters side)]
  simp only [ofBoxScore, allErrors, allWarnings, hidentity, hlineup, h.team, hruns]

end Validation

end Scorebook
