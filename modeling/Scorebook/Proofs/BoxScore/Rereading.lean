import Scorebook.Proofs.Json.Decoding
import Scorebook.Validation

/-!
# Box scores that are read back

The rates of a box score may come back rounded, so it is not said that a box score is read back as
it was.  What is said covers everything that validation looks at: the identifier, whether there is a
date, the team lines, the counts of the hitters, and how many rows there are.
-/

namespace Scorebook
open Json

theorem optionalCount_rereads : Rereads optionalCount (nullable? count?) Eq :=
  kept_count?.rereads nullable_count?

theorem TeamLine.rereads : Rereads TeamLine.toJson TeamLine.ofJson? Eq := by
  intro t t' w hw h
  unfold TeamLine.ofJson? at h
  split at h
  · rename_i hgiven
    obtain ⟨ws, hws, halike⟩ := alike_of_record? hgiven (by decide) rfl hw
    obtain ⟨_, _, rfl, hname, _, _, rfl, hcode, _, _, rfl, hfranchise, _, _, rfl, hscore,
      _, _, rfl, hhits, _, _, rfl, herrors, _, _, rfl, hhalves, rfl⟩ := halike
    cases hws
    obtain rfl := kept_text? _ _ hname
    obtain rfl := kept_text? _ _ hcode
    obtain rfl := kept_text? _ _ hfranchise
    obtain rfl := kept_count? _ _ hscore
    obtain rfl := kept_count? _ _ hhits
    obtain rfl := kept_count? _ _ herrors
    simp only [optional_text?, optional_count?, Option.bind_eq_bind, Option.bind_some] at h
    obtain ⟨halves, hread, h⟩ := Option.bind_eq_some_iff.1 h
    cases h
    rw [← optionalCount_rereads.list_eq _ _ _ hhalves hread]
  · cases h

/-- The counts of a batting line come back as they are. -/
theorem BattingLine.rereads :
    Rereads BattingLine.toJson BattingLine.ofJson? fun l l' => l.counts = l'.counts := by
  intro l l' w hw h
  obtain ⟨given, hgiven, h⟩ := Option.bind_eq_some_iff.1 h
  obtain ⟨ws, rfl, hws⟩ := alike_of_record? hgiven (by decide) rfl hw
  rw [List.map_append, List.map_map, List.map_map] at hws
  obtain ⟨counts, rates, rfl, hcounts, -⟩ := alikeItems_append hws
  have hkept : counts = (BattingCount.all.map l.counts).map
      fun n => ofNat? (n.map UInt32.toNat) := by
    apply kept_count?.items
    rw [List.map_map]
    exact hcounts
  have hlength : (counts.map Given.value).length = BattingCount.all.length := by
    rw [hkept, List.length_map, List.length_map, List.length_map]
  have hread : ((counts ++ rates).map Given.value |>.take BattingCount.all.length).mapM
      (·.optional count?) = some (BattingCount.all.map l.counts) := by
    rw [List.map_append, List.take_left' hlength, hkept]
    exact mapM_optional_count? _
  obtain ⟨found, hfound, h⟩ := Option.bind_eq_some_iff.1 h
  cases hread.symm.trans hfound
  obtain ⟨rates', -, h⟩ := Option.bind_eq_some_iff.1 h
  cases h
  funext c
  simp only [List.getElem?_map, List.getElem?_idxOf (BattingCount.mem_all c), Option.map_some,
    Option.join_some]

/-- The number of runs, or any other count, of a hitter comes back as it is. -/
theorem HitterRow.rereads :
    Rereads HitterRow.toJson HitterRow.ofJson? fun r r' => r.line.counts = r'.line.counts := by
  intro r r' w hw h
  unfold HitterRow.ofJson? at h
  split at h
  · rename_i hgiven
    obtain ⟨ws, hws, halike⟩ := alike_of_record? hgiven (by decide) rfl hw
    obtain ⟨_, _, rfl, -, _, _, rfl, -, _, _, rfl, -, _, _, rfl, -, _, _, rfl, -, _, _, rfl, -,
      _, _, rfl, -, _, _, rfl, -, _, _, rfl, -, _, _, rfl, hline, _, _, rfl, -, rfl⟩ := halike
    cases hws
    obtain ⟨player, -, h⟩ := Option.bind_eq_some_iff.1 h
    obtain ⟨name, -, h⟩ := Option.bind_eq_some_iff.1 h
    obtain ⟨team, -, h⟩ := Option.bind_eq_some_iff.1 h
    obtain ⟨side, -, h⟩ := Option.bind_eq_some_iff.1 h
    obtain ⟨uniform, -, h⟩ := Option.bind_eq_some_iff.1 h
    obtain ⟨order, -, h⟩ := Option.bind_eq_some_iff.1 h
    obtain ⟨position, -, h⟩ := Option.bind_eq_some_iff.1 h
    obtain ⟨starter, -, h⟩ := Option.bind_eq_some_iff.1 h
    obtain ⟨sequence, -, h⟩ := Option.bind_eq_some_iff.1 h
    obtain ⟨line, hread, h⟩ := Option.bind_eq_some_iff.1 h
    obtain ⟨extras, -, h⟩ := Option.bind_eq_some_iff.1 h
    cases h
    exact BattingLine.rereads _ _ _ hline hread
  · cases h

theorem PerSide.rereads {α : Type} {write : α → Json} {decode : Decoder α} {R : α → α → Prop}
    (h : Rereads write decode R) :
    Rereads (PerSide.toJson write) (PerSide.ofJson? decode)
      fun p p' => ∀ side, R (p.get side) (p'.get side) := by
  intro p p' w hw hdecode
  unfold PerSide.ofJson? at hdecode
  split at hdecode
  · rename_i hgiven
    obtain ⟨ws, hws, halike⟩ := alike_of_record? hgiven (by decide) rfl hw
    obtain ⟨_, _, rfl, haway, _, _, rfl, hhome, rfl⟩ := halike
    cases hws
    obtain ⟨away, hreadAway, hdecode⟩ := Option.bind_eq_some_iff.1 hdecode
    obtain ⟨home, hreadHome, hdecode⟩ := Option.bind_eq_some_iff.1 hdecode
    cases hdecode
    rintro (_ | _)
    · exact h _ _ _ haway hreadAway
    · exact h _ _ _ hhome hreadHome
  · cases hdecode

namespace BoxScore

/-- Two box scores that agree in all that validation looks at. -/
structure SameChecks (b b' : BoxScore) : Prop where
  gameId : b'.gameId = b.gameId
  date : b'.date.isSome = b.date.isSome
  team : ∀ side, b'.teams.get side = b.teams.get side
  hitters : ∀ side, List.Forall₂ (fun r r' => r.line.counts = r'.line.counts)
    (b.hitters.get side) (b'.hitters.get side)
  pitchers : ∀ side, (b'.pitchers.get side).length = (b.pitchers.get side).length

theorem isSome_date_of_alike {date date' : Option Date} {w : Json}
    (hw : Alike (.ofOption Date.toJson date) w)
    (h : (Given.value w).optional Date.ofJson? = some date') : date'.isSome = date.isSome := by
  cases date with
  | none =>
    obtain rfl : w = .null := hw
    cases h
    rfl
  | some d =>
    obtain rfl : w = .str d.iso := hw
    obtain ⟨d', -, rfl⟩ := Option.map_eq_some_iff.1 h
    rfl

theorem rereads : Rereads BoxScore.toJson BoxScore.ofJson? SameChecks := by
  intro b b' w hw h
  unfold BoxScore.ofJson? at h
  split at h
  · rename_i hgiven
    obtain ⟨ws, hws, halike⟩ := alike_of_record? hgiven (by decide) rfl hw
    obtain ⟨_, _, rfl, rfl, _, _, rfl, hdate, _, _, rfl, -, _, _, rfl, -, _, _, rfl, hteams,
      _, _, rfl, hhitters, _, _, rfl, hpitchers, _, _, rfl, -, rfl⟩ := halike
    cases hws
    obtain ⟨gameId, hid, h⟩ := Option.bind_eq_some_iff.1 h
    obtain ⟨date, hdateRead, h⟩ := Option.bind_eq_some_iff.1 h
    obtain ⟨era, -, h⟩ := Option.bind_eq_some_iff.1 h
    obtain ⟨info, -, h⟩ := Option.bind_eq_some_iff.1 h
    obtain ⟨teams, hteamsRead, h⟩ := Option.bind_eq_some_iff.1 h
    obtain ⟨hitters, hhittersRead, h⟩ := Option.bind_eq_some_iff.1 h
    obtain ⟨pitchers, hpitchersRead, h⟩ := Option.bind_eq_some_iff.1 h
    obtain ⟨notes, -, h⟩ := Option.bind_eq_some_iff.1 h
    cases h
    cases hid
    have hany : Rereads PitcherRow.toJson PitcherRow.ofJson? fun _ _ => True :=
      fun _ _ _ _ _ => trivial
    have hrows := PerSide.rereads hany.list _ _ _ hpitchers hpitchersRead
    exact {
      gameId := rfl
      date := isSome_date_of_alike hdate hdateRead
      team := fun side => (PerSide.rereads TeamLine.rereads _ _ _ hteams hteamsRead side).symm
      hitters := PerSide.rereads HitterRow.rereads.list _ _ _ hhitters hhittersRead
      pitchers := fun side => (hrows side).length_eq.symm }
  · cases h

end BoxScore

end Scorebook
