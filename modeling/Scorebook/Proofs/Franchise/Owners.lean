import Scorebook.Proofs.Franchise.Seasons
import Scorebook.Proofs.Text.Words

/-!
# Franchises behind codes

A code that was found for a season leads on to the franchise that used it and to a canonical code,
provided it is declared in the spelling under which codes are looked up: in upper case and without
blanks to collapse.  A code declared otherwise is found, but nothing is found behind it.
-/

namespace Scorebook.Franchise
open Text

/-- A code in the spelling under which codes are looked up. -/
structure Plain (code : String) : Prop where
  nonempty : code ≠ ""
  collapsed : collapsed code = code
  upper : uppered code = code

/-! ### Canonical codes -/

theorem missingProblem?_eq_none_iff {entries : List Entry} {modern : List ModernCode} :
    missingProblem? entries modern = none ↔
      ∀ e ∈ entries, ∃ m ∈ modern, m.franchise = e.franchise := by
  have hnamed : ∀ f, (!modern.any fun m => m.franchise == f) ≠ true ↔
      ∃ m ∈ modern, m.franchise = f := by simp
  rw [missingProblem?, Option.map_eq_none_iff, List.find?_eq_none]
  simp only [hnamed, mem_franchisesOf]
  constructor
  · exact fun h e he => h e.franchise ⟨e, he, rfl⟩
  · rintro h f ⟨e, he, rfl⟩
    exact h e he

theorem exists_modernCode {r : Reference} (h : firstProblem? r = none) {e : Entry}
    (he : e ∈ r.history) : ∃ k, (History.ofReference r).modernCode? e.franchise = some k := by
  simp only [firstProblem?, Option.or_eq_none_iff] at h
  obtain ⟨m, hm, hf⟩ := missingProblem?_eq_none_iff.1 h.2 e he
  have hkept : m ∈ (History.ofReference r).modern := by
    refine List.mem_filter.2 ⟨hm, List.any_eq_true.2 ⟨e, he, ?_⟩⟩
    exact beq_iff_eq.2 hf.symm
  cases hfind : (History.ofReference r).modern.find? fun m => m.franchise == e.franchise with
  | none =>
    have hnot := List.find?_eq_none.1 hfind m hkept
    exact absurd (beq_iff_eq.2 hf) hnot
  | some found => exact ⟨found.code, by rw [History.modernCode?, hfind]; rfl⟩

section
variable {h : History} {f : FranchiseId} {c k token : String} {season : Int}

theorem canonical_of_modernCode (hk : h.modernCode? f = some k) :
    h.canonicalCodes.contains k = true := by
  obtain ⟨m, hm, rfl⟩ := Option.map_eq_some_iff.1 hk
  refine (CodeSet.contains_ofList ..).2 (List.mem_append_left _ (List.mem_map.2 ⟨m, ?_, rfl⟩))
  exact List.mem_of_find?_eq_some hm

theorem canonical_of_designator (hc : h.designators.contains c = true) :
    h.canonicalCodes.contains c = true :=
  (CodeSet.contains_ofList ..).2 (List.mem_append_right _ (List.contains_iff_mem.1 hc))

theorem canonical_of_franchiseCode (hk : h.franchiseCode? token season = some k) :
    h.canonicalCodes.contains k = true := by
  unfold History.franchiseCode? at hk
  split at hk
  · exact canonical_of_modernCode hk
  · unfold History.designator? at hk
    split at hk
    · rename_i hd
      obtain rfl := Option.some.inj hk
      exact canonical_of_designator hd
    · cases hk

/-! ### From a code to its franchise -/

/-- A code in upper case leads to the franchise of the one entry that declares it for the season. -/
theorem franchise_of_upper (hchecked : Checked h.entries)
    (hc : h.codeInSeason? token season = some c) (hu : uppered c = c) :
    ∃ e ∈ h.entries, (e.code = c ∧ e.covers season = true) ∧
      (∀ e' ∈ h.entries, e'.code = c → e'.covers season = true → e' = e) ∧
      h.franchise? token season = some e.franchise := by
  obtain ⟨e, he, hcode, hs⟩ := exists_entry_of_codeInSeason hc
  have hsole : ∀ e' ∈ h.entries, uppered e'.code = c → e'.covers season = true → e' = e := by
    intro e' he' hcode' hs'
    have hsame : uppered e'.code = uppered e.code := by rw [hcode', hcode, hu]
    have hf := hchecked.unambiguous e' he' e he hsame season hs' hs
    exact hchecked.eq_of_covers he' he hf hs' hs
  refine ⟨e, he, ⟨hcode, hs⟩, ?_, ?_⟩
  · intro e' he' hcode' hs'
    exact hsole e' he' (by rw [hcode', hu]) hs'
  · have hmem : e ∈ entriesOfCode h.entries c := mem_entriesOfCode.2 ⟨he, by rw [hcode, hu]⟩
    simp only [History.franchise?, hc]
    cases hfind : (entriesOfCode h.entries c).find? (·.covers season) with
    | none => exact absurd hs (List.find?_eq_none.1 hfind e hmem)
    | some own =>
      obtain ⟨hown, hcovers⟩ := covers_of_find? hfind
      obtain ⟨hmem, hcode'⟩ := mem_entriesOfCode.1 hown
      rw [hsole own hmem hcode' hcovers]
      rfl

theorem codeInSeason_of_franchise (hf : h.franchise? token season = some f) :
    ∃ c, h.codeInSeason? token season = some c := by
  unfold History.franchise? at hf
  cases hc : h.codeInSeason? token season with
  | none =>
    simp only [hc] at hf
    cases hf
  | some c => exact ⟨c, rfl⟩

/-! ### Designators -/

theorem team_cases (ht : h.team? token season = some c) :
    h.codeInSeason? token season = some c ∨
      h.codeInSeason? token season = none ∧ h.lookupKey? token = some c ∧
        h.designators.contains c = true := by
  unfold History.team? at ht
  cases hc : h.codeInSeason? token season with
  | some code =>
    simp only [hc] at ht
    exact .inl ht
  | none =>
    simp only [hc] at ht
    obtain ⟨key, hkey, hd⟩ := Option.bind_eq_some_iff.1 ht
    unfold History.designator? at hd
    split at hd
    · rename_i hcontains
      obtain rfl := Option.some.inj hd
      exact .inr ⟨rfl, hkey, hcontains⟩
    · cases hd

theorem lookupKey_designator (hc : Plain c) (hd : h.designators.contains c = true) :
    h.lookupKey? c = some c := by
  simp [History.lookupKey?, hc.nonempty, hc.collapsed, hc.upper, hd]

/-- What is looked up under one key has one answer in a season. -/
theorem codeInSeason_congr {other : String} (hkey : h.lookupKey? token = h.lookupKey? other) :
    h.codeInSeason? token season = h.codeInSeason? other season := by
  simp only [History.codeInSeason?, History.entriesOf, hkey]

theorem franchiseCode_of_designator (hc : Plain c) (hd : h.designators.contains c = true)
    (hnone : h.codeInSeason? c season = none) : h.franchiseCode? c season = some c := by
  have hf : h.franchise? c season = none := by
    cases hf : h.franchise? c season with
    | none => rfl
    | some f =>
      obtain ⟨code, hcode⟩ := codeInSeason_of_franchise hf
      cases hnone.symm.trans hcode
  have hkey : uppered (trimmed c) = c := by rw [trimmed_of_collapsed hc.collapsed, hc.upper]
  simp only [History.franchiseCode?, hf, hkey, History.designator?, if_pos hd]

end

/-- What was found for a season leads to its franchise and on to a canonical code.  A team is found
behind a name or code only when a code is, and is the franchise of the entry that declares this code
for the season, when the code is in upper case.  The answer for a team, when it is plain, has the
modern code of that franchise, or itself when it is no code of the season but a designator. -/
theorem load_resolves_franchises {r : Reference} {h : History} (hload : History.load r = .ok h)
    (token : String) (season : Int) :
    (∀ f, h.franchise? token season = some f → ∃ c, h.codeInSeason? token season = some c) ∧
    (∀ c, h.codeInSeason? token season = some c → uppered c = c →
      ∃ e ∈ r.history, (e.code = c ∧ e.covers season = true) ∧
        (∀ e' ∈ r.history, e'.code = c → e'.covers season = true → e' = e) ∧
        h.franchise? token season = some e.franchise) ∧
    ∀ c, h.team? token season = some c → Plain c →
      ∃ k, h.franchiseCode? c season = some k ∧ h.canonicalCodes.contains k = true ∧
        ((∃ f, h.franchise? token season = some f ∧ h.modernCode? f = some k) ∨
          (h.codeInSeason? token season = none ∧ h.designators.contains c = true ∧ k = c)) := by
  obtain ⟨hproblem, rfl⟩ := load_eq_ok_iff.1 hload
  have hchecked : Checked (History.ofReference r).entries := checked_of_firstProblem hproblem
  refine ⟨fun f hf => codeInSeason_of_franchise hf,
    fun c hc hu => franchise_of_upper hchecked hc hu, ?_⟩
  intro c ht hplain
  rcases team_cases ht with hc | ⟨hnone, hkey, hd⟩
  · -- The code is looked up again as itself, and both lookups end at one entry.
    obtain ⟨e, he, ⟨hcode, hs⟩, hsole, hf⟩ := franchise_of_upper hchecked hc hplain.upper
    have hne : e.code ≠ "" := hcode ▸ hplain.nonempty
    have hcollapsed : collapsed e.code = e.code := hcode ▸ hplain.collapsed
    have hagain := codeInSeason_of_covers hchecked he hne hcollapsed hs
    rw [hcode] at hagain
    obtain ⟨e', he', ⟨hcode', hs'⟩, -, hf'⟩ := franchise_of_upper hchecked hagain hplain.upper
    obtain rfl := hsole e' he' hcode' hs'
    obtain ⟨k, hk⟩ := exists_modernCode hproblem he
    refine ⟨k, ?_, canonical_of_modernCode hk, .inl ⟨_, hf, hk⟩⟩
    simp only [History.franchiseCode?, hf', hk]
  · have hsame : (History.ofReference r).codeInSeason? c season = none := by
      rw [← hnone]
      exact codeInSeason_congr ((lookupKey_designator hplain hd).trans hkey.symm)
    exact ⟨c, franchiseCode_of_designator hplain hd hsame, canonical_of_designator hd,
      .inr ⟨hnone, hd, rfl⟩⟩

/-- Behind the second code of the first franchise stands, in 1985, the code handed on later. -/
theorem load_resolves_franchise_of_handedOn :
    (History.ofReference handedOn).team? "BB" 1985 = some "AA" ∧
    (History.ofReference handedOn).franchise? "BB" 1985 = some ⟨1⟩ ∧
    ∃ k, (History.ofReference handedOn).franchiseCode? "AA" 1985 = some k ∧
      (History.ofReference handedOn).canonicalCodes.contains k = true ∧
      (History.ofReference handedOn).modernCode? ⟨1⟩ = some k := by
  have hsorted : handedOn.history.Pairwise fun a b => a.first ≤ b.first := by decide
  have hcode : (History.ofReference handedOn).codeInSeason? "BB" 1985 = some "AA" := by
    simp only [History.codeInSeason?, History.ofReference, timeline_of_sorted hsorted]
    decide +kernel
  have hteam : (History.ofReference handedOn).team? "BB" 1985 = some "AA" := by
    simp only [History.team?, hcode]
  have hplain : Plain "AA" := ⟨by decide, by decide +kernel, by decide +kernel⟩
  obtain ⟨-, hfranchise, hcanonical⟩ := load_resolves_franchises load_handedOn "BB" 1985
  obtain ⟨e, he, ⟨hecode, hs⟩, -, hf⟩ := hfranchise "AA" hcode hplain.upper
  have hfirst : ∀ e ∈ handedOn.history, e.code = "AA" → e.covers 1985 = true →
      e.franchise = ⟨1⟩ := by decide
  rw [hfirst e he hecode hs] at hf
  obtain ⟨k, hk, hmem, ⟨f, hf', hmodern⟩ | ⟨hnone, -⟩⟩ := hcanonical "AA" hteam hplain
  · obtain rfl := Option.some.inj (hf.symm.trans hf')
    exact ⟨hteam, hf, k, hk, hmem, hmodern⟩
  · cases hcode.symm.trans hnone

/-- A franchise whose only code is declared in small letters. -/
def smallLetters : Reference where
  history := [⟨⟨1⟩, "hh", 1982, none⟩]
  modern := [⟨⟨1⟩, "hh"⟩]
  designators := []
  names := []
  segments := []

/-- A code declared in small letters is found for a season, but no franchise and no canonical code
is found behind it. -/
theorem smallLetters_leads_to_no_franchise :
    History.load smallLetters = .ok (.ofReference smallLetters) ∧
    (History.ofReference smallLetters).team? "hh" 2000 = some "hh" ∧
    (History.ofReference smallLetters).modernCode? ⟨1⟩ = some "hh" ∧
    (History.ofReference smallLetters).franchise? "hh" 2000 = none ∧
    (History.ofReference smallLetters).franchiseCode? "hh" 2000 = none := by
  have hsorted : smallLetters.history.Pairwise fun a b => a.first ≤ b.first := by decide
  have hproblem : firstProblem? smallLetters = none := by
    simp only [firstProblem?, timeline_of_sorted hsorted]
    decide +kernel
  refine ⟨load_eq_ok_iff.2 ⟨hproblem, rfl⟩, ?_, by decide, ?_, ?_⟩
  · decide +kernel
  · decide +kernel
  · decide +kernel

end Scorebook.Franchise
