import Mathlib.Data.List.Pairwise
import Scorebook.Franchise.History

/-!
# Codes by season

What the checks of `History.load` establish, and what lookups make of it: a franchise has at most
one code in a season, and a code belongs to at most one franchise in a season.  So a code that was
in use in a season is looked up as itself, and a code that one franchise held at any time as the code
of that franchise in the season.
-/

namespace Scorebook.Franchise
open Text

/-! ### Spans of seasons -/

def Entry.Precedes (a b : Entry) : Prop := ∃ last, a.last = some last ∧ last < b.first

/-- The second span begins with the season after the first one. -/
def Entry.Meets (a b : Entry) : Prop := ∃ last, a.last = some last ∧ b.first = last + 1

def Entry.Upright (e : Entry) : Prop := ∀ last, e.last = some last → e.first ≤ last

/-- When two entries share a code, up to case, and a season, they belong to one franchise. -/
def Entry.Compatible (a b : Entry) : Prop :=
  uppered a.code = uppered b.code → ∀ season, a.covers season = true → b.covers season = true →
    a.franchise = b.franchise

instance : Std.Symm Entry.Compatible :=
  ⟨fun _ _ h hc season hb ha => (h hc.symm season ha hb).symm⟩

theorem Entry.covers_iff {e : Entry} {season : Int} :
    e.covers season = true ↔ e.first ≤ season ∧ ∀ last, e.last = some last → season ≤ last := by
  cases h : e.last <;> simp [covers, h]

theorem Entry.Precedes.not_both_cover {a b : Entry} {season : Int} (h : a.Precedes b) :
    ¬(a.covers season = true ∧ b.covers season = true) := by
  rintro ⟨ha, hb⟩
  obtain ⟨last, hl, hlt⟩ := h
  have hle := (Entry.covers_iff.1 ha).2 last hl
  have hfirst := (Entry.covers_iff.1 hb).1
  omega

theorem Entry.Precedes.trans {a b c : Entry} (hab : a.Precedes b) (hb : b.Upright)
    (hbc : b.Precedes c) : a.Precedes c := by
  obtain ⟨l, hl, hlt⟩ := hab
  obtain ⟨m, hm, hmt⟩ := hbc
  have hle := hb m hm
  exact ⟨l, hl, by omega⟩

theorem Entry.Meets.precedes {a b : Entry} (h : a.Meets b) : a.Precedes b := by
  obtain ⟨last, hl, hfirst⟩ := h
  exact ⟨last, hl, by omega⟩

theorem Entry.intersects_of_covers {a b : Entry} {season : Int} (ha : a.covers season = true)
    (hb : b.covers season = true) : a.intersects b = true := by
  obtain ⟨haf, hal⟩ := Entry.covers_iff.1 ha
  obtain ⟨hbf, hbl⟩ := Entry.covers_iff.1 hb
  rw [intersects, Bool.and_eq_true, Option.all_eq_true, Option.all_eq_true]
  constructor
  · intro last hl
    exact decide_eq_true (Int.le_trans haf (hbl last hl))
  · intro last hl
    exact decide_eq_true (Int.le_trans hbf (hal last hl))

/-! ### What the checks establish -/

theorem invertedProblem?_eq_none_iff {e : Entry} : invertedProblem? e = none ↔ e.Upright := by
  unfold invertedProblem? Entry.Upright
  cases e.last with
  | none => simp
  | some last => simp

theorem adjacentProblem?_eq_none_iff {f : FranchiseId} {a b : Entry} :
    adjacentProblem? f a b = none ↔ a.Meets b := by
  unfold adjacentProblem? Entry.Meets
  cases a.last with
  | none => simp
  | some last =>
    simp only [Option.some.injEq, exists_eq_left']
    split
    · exact ⟨fun h => (by cases h), fun h => (by omega)⟩
    · split
      · exact ⟨fun h => (by cases h), fun h => (by omega)⟩
      · exact ⟨fun _ => (by omega), fun _ => rfl⟩

theorem timelineProblem?_eq_none_iff {f : FranchiseId} {l : List Entry} :
    timelineProblem? f l = none ↔ l.IsChain Entry.Meets := by
  induction l with
  | nil => simp [timelineProblem?]
  | cons a rest ih =>
    cases rest with
    | nil => simp [timelineProblem?]
    | cons b rest =>
      rw [List.isChain_cons_cons, ← ih, ← adjacentProblem?_eq_none_iff (f := f), timelineProblem?]
      cases adjacentProblem? f a b <;> simp

/-- The spans of a timeline follow each other. -/
theorem pairwise_precedes {l : List Entry} (h : l.IsChain Entry.Meets)
    (hu : ∀ e ∈ l, e.Upright) : l.Pairwise Entry.Precedes := by
  -- Only neighbours are checked; upright spans carry the order on to all later ones.
  induction l with
  | nil => exact .nil
  | cons a rest ih =>
    cases rest with
    | nil => exact List.pairwise_singleton ..
    | cons b rest =>
      obtain ⟨hmeets, hrest⟩ := List.isChain_cons_cons.1 h
      have htail := ih hrest fun e he => hu e (List.mem_cons_of_mem _ he)
      refine List.pairwise_cons.2 ⟨fun c hc => ?_, htail⟩
      rcases List.mem_cons.1 hc with rfl | hc
      · exact hmeets.precedes
      · have hb := hu b (List.mem_cons_of_mem _ List.mem_cons_self)
        exact hmeets.precedes.trans hb ((List.pairwise_cons.1 htail).1 c hc)

/-- What the checks of reference data establish about its entries. -/
structure Checked (entries : List Entry) : Prop where
  /-- A franchise has at most one entry for a season. -/
  single : ∀ f season,
    (entries.filter fun e => e.franchise == f && e.covers season).length ≤ 1
  /-- A code, up to case, belongs to at most one franchise in a season. -/
  unambiguous : ∀ a ∈ entries, ∀ b ∈ entries, a.Compatible b

theorem mem_putFranchise {f g : FranchiseId} {fs : List FranchiseId} :
    f ∈ putFranchise g fs ↔ f = g ∨ f ∈ fs := by
  induction fs with
  | nil => simp [putFranchise]
  | cons x xs ih =>
    unfold putFranchise
    split
    · exact List.mem_cons
    · split
      · rename_i hx
        subst hx
        simp
      · rw [List.mem_cons, ih, List.mem_cons]
        exact or_left_comm

theorem mem_foldl_putFranchise {f : FranchiseId} (entries : List Entry) (done : List FranchiseId) :
    f ∈ entries.foldl (fun done e => putFranchise e.franchise done) done ↔
      (∃ e ∈ entries, e.franchise = f) ∨ f ∈ done := by
  induction entries generalizing done with
  | nil => simp
  | cons e rest ih =>
    rw [List.foldl_cons, ih, mem_putFranchise]
    constructor
    · rintro (⟨x, hx, rfl⟩ | rfl | hf)
      · exact .inl ⟨x, List.mem_cons_of_mem _ hx, rfl⟩
      · exact .inl ⟨e, List.mem_cons_self, rfl⟩
      · exact .inr hf
    · rintro (⟨x, hx, rfl⟩ | hf)
      · rcases List.mem_cons.1 hx with rfl | hx
        · exact .inr (.inl rfl)
        · exact .inl ⟨x, hx, rfl⟩
      · exact .inr (.inr hf)

theorem mem_franchisesOf {f : FranchiseId} {entries : List Entry} :
    f ∈ franchisesOf entries ↔ ∃ e ∈ entries, e.franchise = f := by
  rw [franchisesOf, mem_foldl_putFranchise]
  simp

theorem mem_timeline {entries : List Entry} {f : FranchiseId} {e : Entry} :
    e ∈ timeline entries f ↔ e ∈ entries ∧ e.franchise = f := by
  rw [timeline, List.mem_mergeSort, List.mem_filter, beq_iff_eq]

/-- Entries declared in the order of their seasons need no sorting. -/
theorem timeline_of_sorted {entries : List Entry}
    (h : entries.Pairwise fun a b => a.first ≤ b.first) (f : FranchiseId) :
    timeline entries f = entries.filter fun e => e.franchise == f :=
  List.mergeSort_of_pairwise ((h.filter _).imp fun h => decide_eq_true h)

theorem timeline_covers_perm (entries : List Entry) (f : FranchiseId) (season : Int) :
    ((timeline entries f).filter fun e => e.covers season).Perm
      (entries.filter fun e => e.franchise == f && e.covers season) := by
  have hfilter : (entries.filter fun e => e.franchise == f && e.covers season) =
      (entries.filter fun e => e.franchise == f).filter fun e => e.covers season := by
    rw [List.filter_filter]
    exact List.filter_congr fun e _ => Bool.and_comm ..
  rw [hfilter]
  exact (List.mergeSort_perm ..).filter _

theorem length_covers_le_one {l : List Entry} (h : l.Pairwise Entry.Precedes) (season : Int) :
    (l.filter fun e => e.covers season).length ≤ 1 := by
  have hpair := h.filter fun e => e.covers season
  rcases hl : l.filter fun e => e.covers season with _ | ⟨a, _ | ⟨b, rest⟩⟩
  · rw [hl]
    exact Nat.zero_le 1
  · rw [hl]
    exact Nat.le_refl 1
  · rw [hl] at hpair
    have ha : a ∈ l.filter fun e => e.covers season := hl ▸ List.mem_cons_self
    have hb : b ∈ l.filter fun e => e.covers season :=
      hl ▸ List.mem_cons_of_mem _ List.mem_cons_self
    have hab := (List.pairwise_cons.1 hpair).1 b List.mem_cons_self
    exact absurd ⟨(List.mem_filter.1 ha).2, (List.mem_filter.1 hb).2⟩ hab.not_both_cover

theorem ambiguityProblem?_eq_none_iff {entries : List Entry} :
    ambiguityProblem? entries = none ↔ entries.Pairwise fun a b => clashProblem? a b = none := by
  induction entries with
  | nil => simp [ambiguityProblem?]
  | cons a rest ih =>
    rw [List.pairwise_cons, ← ih, ambiguityProblem?, ← List.findSome?_eq_none_iff]
    cases rest.findSome? (clashProblem? a) <;> simp

theorem compatible_of_noClash {a b : Entry} (h : clashProblem? a b = none) : a.Compatible b := by
  intro hc season ha hb
  unfold clashProblem? at h
  by_contra hf
  rw [if_pos ⟨hc, hf, Entry.intersects_of_covers ha hb⟩] at h
  cases h

theorem checked_of_firstProblem {r : Reference} (h : firstProblem? r = none) :
    Checked r.history := by
  simp only [firstProblem?, Option.or_eq_none_iff] at h
  obtain ⟨⟨⟨⟨hinverted, htimelines⟩, hambiguity⟩, _⟩, _⟩ := h
  have hupright : ∀ e ∈ r.history, e.Upright := fun e he =>
    invertedProblem?_eq_none_iff.1 (List.findSome?_eq_none_iff.1 hinverted e he)
  constructor
  · intro f season
    rw [← (timeline_covers_perm r.history f season).length_eq]
    by_cases hf : f ∈ franchisesOf r.history
    · have hchain := timelineProblem?_eq_none_iff.1 (List.findSome?_eq_none_iff.1 htimelines f hf)
      exact length_covers_le_one
        (pairwise_precedes hchain fun e he => hupright e (mem_timeline.1 he).1) season
    · have hnil : timeline r.history f = [] := by
        refine List.eq_nil_iff_forall_not_mem.2 fun e he => hf ?_
        exact mem_franchisesOf.2 ⟨e, mem_timeline.1 he⟩
      rw [hnil]
      exact Nat.zero_le 1
  · have hpair : r.history.Pairwise Entry.Compatible :=
      (ambiguityProblem?_eq_none_iff.1 hambiguity).imp fun h => compatible_of_noClash h
    exact List.Pairwise.forall_of_forall (fun _ _ _ _ _ _ => rfl) hpair

theorem load_eq_ok_iff {r : Reference} {h : History} :
    History.load r = .ok h ↔ firstProblem? r = none ∧ h = History.ofReference r := by
  unfold History.load
  cases firstProblem? r with
  | none => simp [eq_comm]
  | some problem => simp

/-! ### Lookups -/

section
variable {entries : List Entry}

/-- The one entry of a franchise for a season is found, and there is no other one. -/
theorem Checked.eq_of_covers (h : Checked entries) {a b : Entry} {season : Int} (ha : a ∈ entries)
    (hb : b ∈ entries) (hf : a.franchise = b.franchise) (has : a.covers season = true)
    (hbs : b.covers season = true) : a = b := by
  have hone := h.single b.franchise season
  have ha' : a ∈ entries.filter fun e => e.franchise == b.franchise && e.covers season :=
    List.mem_filter.2 ⟨ha, by simp [hf, has]⟩
  have hb' : b ∈ entries.filter fun e => e.franchise == b.franchise && e.covers season :=
    List.mem_filter.2 ⟨hb, by simp [hbs]⟩
  obtain ⟨e, he⟩ : ∃ e, (entries.filter fun e => e.franchise == b.franchise && e.covers season) =
      [e] := List.length_eq_one_iff.1 (Nat.le_antisymm hone (List.length_pos_of_mem ha'))
  rw [he] at ha' hb'
  exact (List.mem_singleton.1 ha').trans (List.mem_singleton.1 hb').symm

theorem Checked.find?_eq (h : Checked entries) {e : Entry} {season : Int} (he : e ∈ entries)
    (hs : e.covers season = true) :
    (entries.find? fun x => x.franchise == e.franchise && x.covers season) = some e := by
  cases hfind : entries.find? fun x => x.franchise == e.franchise && x.covers season with
  | none =>
    have hnot := List.find?_eq_none.1 hfind e he
    simp [hs] at hnot
  | some own =>
    have hown := List.find?_some hfind
    simp only [Bool.and_eq_true, beq_iff_eq] at hown
    rw [h.eq_of_covers (List.mem_of_find?_eq_some hfind) he hown.1 hown.2 hs]

theorem Checked.find?_timeline (h : Checked entries) (f : FranchiseId) (season : Int) :
    (timeline entries f).find? (·.covers season) =
      entries.find? fun e => e.franchise == f && e.covers season := by
  have hperm := timeline_covers_perm entries f season
  have hone := h.single f season
  rw [← List.head?_filter, ← List.head?_filter]
  rcases hl : entries.filter fun e => e.franchise == f && e.covers season with _ | ⟨e, _ | _⟩
  · rw [hl] at hperm
    rw [hperm.eq_nil, hl]
  · rw [hl] at hperm
    rw [hperm.eq_singleton, hl]
  · rw [hl] at hone
    simp at hone

theorem covers_of_find? {l : List Entry} {e : Entry} {season : Int}
    (h : l.find? (·.covers season) = some e) : e ∈ l ∧ e.covers season = true := by
  have hcovers := List.find?_some h
  exact ⟨List.mem_of_find?_eq_some h, hcovers⟩

theorem mem_entriesOfCode {key : String} {e : Entry} :
    e ∈ entriesOfCode entries key ↔ e ∈ entries ∧ uppered e.code = key := by
  rw [entriesOfCode, List.mem_filter, beq_iff_eq]

theorem mem_entries_of_mem_entriesOf {h : History} {token : String} {e : Entry}
    (he : e ∈ h.entriesOf token) : e ∈ h.entries := by
  unfold History.entriesOf at he
  split at he
  · cases he
  · exact (mem_entriesOfCode.1 he).1

theorem exists_entry_of_codeInSeason {h : History} {token code : String} {season : Int}
    (hc : h.codeInSeason? token season = some code) :
    ∃ e ∈ h.entries, e.code = code ∧ e.covers season = true := by
  simp only [History.codeInSeason?] at hc
  split at hc
  · rename_i own hown
    cases hc
    obtain ⟨hmem, hcovers⟩ := covers_of_find? hown
    exact ⟨own, mem_entries_of_mem_entriesOf hmem, rfl, hcovers⟩
  · split at hc
    · cases hc
    · obtain ⟨e, he, rfl⟩ := Option.map_eq_some_iff.1 hc
      obtain ⟨hmem, hcovers⟩ := covers_of_find? he
      exact ⟨e, (mem_timeline.1 hmem).1, rfl, hcovers⟩

/-- A code without blanks to collapse is looked up among the entries of the code. -/
theorem entriesOf_code {h : History} {e : Entry} (he : e ∈ h.entries) (hne : e.code ≠ "")
    (hc : collapsed e.code = e.code) :
    h.entriesOf e.code = entriesOfCode h.entries (uppered e.code) := by
  have hcode : (entriesOfCode h.entries (uppered e.code)).isEmpty = false :=
    List.isEmpty_eq_false_iff_exists_mem.2 ⟨e, mem_entriesOfCode.2 ⟨he, rfl⟩⟩
  have hkey : h.lookupKey? e.code = some (uppered e.code) := by
    simp [History.lookupKey?, hc, hne, hcode]
  simp only [History.entriesOf, hkey]

/-- A code that was in use in a season is looked up as itself, whoever else used it before or
after. -/
theorem codeInSeason_of_covers {h : History} (hchecked : Checked h.entries) {e : Entry}
    {season : Int} (he : e ∈ h.entries) (hne : e.code ≠ "") (hc : collapsed e.code = e.code)
    (hs : e.covers season = true) : h.codeInSeason? e.code season = some e.code := by
  have hmem : e ∈ entriesOfCode h.entries (uppered e.code) := mem_entriesOfCode.2 ⟨he, rfl⟩
  simp only [History.codeInSeason?, entriesOf_code he hne hc]
  cases hfind : (entriesOfCode h.entries (uppered e.code)).find? (·.covers season) with
  | none => exact absurd hs (List.find?_eq_none.1 hfind e hmem)
  | some own =>
    obtain ⟨hmem, hcovers⟩ := covers_of_find? hfind
    obtain ⟨hown, hcode⟩ := mem_entriesOfCode.1 hmem
    -- One code in one season is one franchise, and one franchise has one entry for the season.
    have hf : own.franchise = e.franchise :=
      hchecked.unambiguous own hown e he hcode season hcovers hs
    have heq : own = e := hchecked.eq_of_covers hown he hf hcovers hs
    rw [heq]

theorem codeInSeason_of_sole {h : History} (hchecked : Checked h.entries) {f : Entry}
    (hf : f ∈ h.entries) (hne : f.code ≠ "") (hc : collapsed f.code = f.code)
    (hsole : ∀ e ∈ h.entries, uppered e.code = uppered f.code → e.franchise = f.franchise)
    (season : Int) :
    h.codeInSeason? f.code season =
      (h.entries.find? fun e => e.franchise == f.franchise && e.covers season).map (·.code) := by
  have hmem : f ∈ entriesOfCode h.entries (uppered f.code) := mem_entriesOfCode.2 ⟨hf, rfl⟩
  have hfranchise : ∀ e ∈ entriesOfCode h.entries (uppered f.code), e.franchise = f.franchise :=
    fun e he => hsole e (mem_entriesOfCode.1 he).1 (mem_entriesOfCode.1 he).2
  simp only [History.codeInSeason?, entriesOf_code hf hne hc]
  cases hfind : (entriesOfCode h.entries (uppered f.code)).find? (·.covers season) with
  | some own =>
    obtain ⟨hown, hcovers⟩ := covers_of_find? hfind
    rw [← hfranchise own hown, hchecked.find?_eq (mem_entriesOfCode.1 hown).1 hcovers]
    rfl
  | none =>
    -- The first entry of the code leads to the franchise, whose timeline has the answer.
    cases hhits : entriesOfCode h.entries (uppered f.code) with
    | nil =>
      rw [hhits] at hmem
      cases hmem
    | cons e rest =>
      have he : e.franchise = f.franchise := hfranchise e (hhits ▸ List.mem_cons_self)
      simp only [he, hchecked.find?_timeline]

end

/-- Every season is resolved correctly by accepted reference data.  What is answered for a season
was in use in it.  When codes are written without blanks to collapse, a code in use in the season is
its own answer, and a code of one franchise only, up to case, is answered by the one code of that
franchise in the season, if there is any. -/
theorem load_resolves_seasons {r : Reference} {h : History} (hload : History.load r = .ok h)
    (season : Int) :
    (∀ token code, h.codeInSeason? token season = some code →
      ∃ e ∈ r.history, e.code = code ∧ e.covers season = true) ∧
    ((∀ e ∈ r.history, e.code ≠ "" ∧ collapsed e.code = e.code) →
      (∀ e ∈ r.history, e.covers season = true →
        h.codeInSeason? e.code season = some e.code) ∧
      ∀ f ∈ r.history,
        (∀ e ∈ r.history, uppered e.code = uppered f.code → e.franchise = f.franchise) →
        (r.history.filter fun e => e.franchise == f.franchise && e.covers season).length ≤ 1 ∧
        (∀ e ∈ r.history, e.franchise = f.franchise → e.covers season = true →
          h.codeInSeason? f.code season = some e.code) ∧
        ((∀ e ∈ r.history, e.franchise = f.franchise → e.covers season = false) →
          h.codeInSeason? f.code season = none)) := by
  obtain ⟨hproblem, rfl⟩ := load_eq_ok_iff.1 hload
  have hchecked : Checked (History.ofReference r).entries := checked_of_firstProblem hproblem
  refine ⟨fun token code hc => exists_entry_of_codeInSeason hc, fun hwritten => ⟨?_, ?_⟩⟩
  · intro e he hs
    exact codeInSeason_of_covers hchecked he (hwritten e he).1 (hwritten e he).2 hs
  · intro f hf hsole
    have hanswer := codeInSeason_of_sole hchecked hf (hwritten f hf).1 (hwritten f hf).2 hsole season
    refine ⟨hchecked.single f.franchise season, ?_, ?_⟩
    · intro e he hfranchise hs
      rw [hanswer, ← hfranchise, hchecked.find?_eq he hs]
      rfl
    · intro hnone
      rw [hanswer, Option.map_eq_none_iff, List.find?_eq_none]
      intro e he hboth
      simp only [Bool.and_eq_true, beq_iff_eq] at hboth
      rw [hnone e he hboth.1] at hboth
      cases hboth.2

/-- Two franchises that used one code in turn. -/
def handedOn : Reference where
  history := [⟨⟨1⟩, "AA", 1982, some 1990⟩, ⟨⟨2⟩, "CC", 1982, some 1995⟩,
    ⟨⟨1⟩, "BB", 1991, none⟩, ⟨⟨2⟩, "AA", 1996, none⟩]
  modern := [⟨⟨1⟩, "BB"⟩, ⟨⟨2⟩, "AA"⟩]
  designators := ["EAST"]
  names := []
  segments := []

theorem load_handedOn : History.load handedOn = .ok (.ofReference handedOn) := by
  have hsorted : handedOn.history.Pairwise fun a b => a.first ≤ b.first := by decide
  have hproblem : firstProblem? handedOn = none := by
    simp only [firstProblem?, timeline_of_sorted hsorted]
    decide +kernel
  exact load_eq_ok_iff.2 ⟨hproblem, rfl⟩

/-- In 1985 the code handed on later still is its first holder's, which is where the second code of
that holder leads. -/
theorem load_resolves_handedOn :
    History.load handedOn = .ok (.ofReference handedOn) ∧
    (History.ofReference handedOn).codeInSeason? "AA" 1985 = some "AA" ∧
    (History.ofReference handedOn).codeInSeason? "BB" 1985 = some "AA" := by
  have hwritten : ∀ e ∈ handedOn.history, e.code ≠ "" ∧ collapsed e.code = e.code := by
    decide +kernel
  have hsole : ∀ e ∈ handedOn.history, uppered e.code = uppered "BB" → e.franchise = ⟨1⟩ := by
    decide +kernel
  obtain ⟨hown, hothers⟩ := (load_resolves_seasons load_handedOn 1985).2 hwritten
  refine ⟨load_handedOn, hown ⟨⟨1⟩, "AA", 1982, some 1990⟩ (by decide) (by decide), ?_⟩
  obtain ⟨-, hfranchise, -⟩ := hothers ⟨⟨1⟩, "BB", 1991, none⟩ (by decide) hsole
  exact hfranchise ⟨⟨1⟩, "AA", 1982, some 1990⟩ (by decide) rfl (by decide)

end Scorebook.Franchise
