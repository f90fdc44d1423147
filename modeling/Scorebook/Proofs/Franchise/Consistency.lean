import Scorebook.Proofs.Franchise.Bounded
import Scorebook.Proofs.Franchise.Owners

/-!
# Consistent reference data

What reference data have to satisfy, said season by season and franchise by franchise, and that the
checks accept exactly such data.  The checks look at neighbours of a sorted timeline and at pairs of
entries only.
-/

namespace Scorebook.Franchise
open Text

/-- The franchise has an entry for the season. -/
def Played (entries : List Entry) (f : FranchiseId) (season : Int) : Prop :=
  ∃ e ∈ entries, e.franchise = f ∧ e.covers season = true

/-- What is asked of reference data, looking at the given seasons. -/
structure Reference.Consistent (seasons : Set Int) (r : Reference) : Prop where
  /-- No entry ends before it starts. -/
  upright : ∀ e ∈ r.history, e.Upright
  /-- A franchise has at most one entry for a season. -/
  single : ∀ f, ∀ season ∈ seasons,
    (r.history.filter fun e => e.franchise == f && e.covers season).length ≤ 1
  /-- Between two seasons of a franchise there is none without an entry. -/
  gapless : ∀ f, ∀ s ∈ seasons, ∀ t ∈ seasons, ∀ u ∈ seasons, s ≤ t → t ≤ u →
    Played r.history f s → Played r.history f u → Played r.history f t
  /-- The entries of a code, up to case, for a season belong to one franchise. -/
  unambiguous : ∀ a ∈ r.history, ∀ b ∈ r.history, uppered a.code = uppered b.code →
    ∀ season ∈ seasons, a.covers season = true → b.covers season = true →
      a.franchise = b.franchise
  /-- A franchise with entries is named once among the modern codes, with a code of its own. -/
  modern : ∀ f, (∃ e ∈ r.history, e.franchise = f) →
    ∃ m, r.modern.filter (fun m => m.franchise == f) = [m] ∧
      ∃ e ∈ r.history, e.franchise = f ∧ e.code = m.code

/-! ### Timelines -/

theorem Entry.covers_first {e : Entry} (h : e.Upright) : e.covers e.first = true :=
  Entry.covers_iff.2 ⟨Int.le_refl _, h⟩

theorem Entry.Precedes.first_lt {a b : Entry} (h : a.Precedes b) (ha : a.Upright) :
    a.first < b.first := by
  obtain ⟨last, hl, hlt⟩ := h
  have hle := ha last hl
  omega

theorem Entry.covers_iff_of_last {e : Entry} {last season : Int} (h : e.last = some last) :
    e.covers season = true ↔ e.first ≤ season ∧ season ≤ last := by
  simp [covers, h]

/-- Seasons between the beginning of a timeline and a season that it covers are covered. -/
theorem exists_covers_of_isChain {a : Entry} {rest : List Entry} {t u : Int}
    (h : (a :: rest).IsChain Entry.Meets) (ht : a.first ≤ t) (htu : t ≤ u)
    (hu : ∃ e ∈ a :: rest, e.covers u = true) : ∃ e ∈ a :: rest, e.covers t = true := by
  induction rest generalizing a with
  | nil =>
    obtain ⟨e, he, hcovers⟩ := hu
    obtain rfl := List.mem_singleton.1 he
    obtain ⟨-, hlast⟩ := Entry.covers_iff.1 hcovers
    exact ⟨e, he, Entry.covers_iff.2 ⟨ht, fun last hl => Int.le_trans htu (hlast last hl)⟩⟩
  | cons b rest ih =>
    by_cases ha : a.covers t = true
    · exact ⟨a, List.mem_cons_self, ha⟩
    · -- The season lies behind the first span, so the next one begins no later.
      obtain ⟨⟨last, hl, hfirst⟩, hrest⟩ := List.isChain_cons_cons.1 h
      rw [Entry.covers_iff_of_last hl] at ha
      have hlater : ∃ e ∈ b :: rest, e.covers u = true := by
        obtain ⟨e, he, hcovers⟩ := hu
        rcases List.mem_cons.1 he with rfl | he
        · rw [Entry.covers_iff_of_last hl] at hcovers
          omega
        · exact ⟨e, he, hcovers⟩
      obtain ⟨e, he, hcovers⟩ := ih hrest (by omega) hlater
      exact ⟨e, List.mem_cons_of_mem _ he, hcovers⟩

theorem timeline_sorted (entries : List Entry) (f : FranchiseId) :
    (timeline entries f).Pairwise fun a b => a.first ≤ b.first := by
  have hsorted : (timeline entries f).Pairwise fun a b => decide (a.first ≤ b.first) = true := by
    refine List.pairwise_mergeSort (fun a b c hab hbc => ?_) (fun a b => ?_) _
    · simp only [decide_eq_true_eq] at *
      omega
    · simp only [Bool.or_eq_true, decide_eq_true_eq]
      omega
  exact hsorted.imp of_decide_eq_true

/-- Sorted spans that share none of the seasons and leave none out. -/
structure Unbroken (seasons : Set Int) (l : List Entry) : Prop where
  sorted : l.Pairwise fun a b => a.first ≤ b.first
  upright : ∀ e ∈ l, e.Upright
  apart : l.Pairwise fun a b => ∀ season ∈ seasons, a.covers season = true →
    b.covers season = false
  gapless : ∀ s ∈ seasons, ∀ t ∈ seasons, ∀ u ∈ seasons, s ≤ t → t ≤ u →
    (∃ e ∈ l, e.covers s = true) → (∃ e ∈ l, e.covers u = true) → ∃ e ∈ l, e.covers t = true

section
variable {seasons : Set Int} {a b : Entry} {rest l : List Entry}

theorem pairwise_apart (h : ∀ season ∈ seasons, (l.filter fun e => e.covers season).length ≤ 1) :
    l.Pairwise fun a b => ∀ season ∈ seasons, a.covers season = true →
      b.covers season = false := by
  induction l with
  | nil => exact .nil
  | cons a rest ih =>
    refine List.pairwise_cons.2 ⟨fun b hb season hs ha => ?_, ih fun season hs => ?_⟩
    · by_contra hcovers
      have hmem : b ∈ rest.filter fun e => e.covers season :=
        List.mem_filter.2 ⟨hb, Bool.not_eq_false _ |>.mp hcovers⟩
      have hpos := List.length_pos_of_mem hmem
      have htwo : ((a :: rest).filter fun e => e.covers season).length =
          (rest.filter fun e => e.covers season).length + 1 := by
        rw [List.filter_cons_of_pos (by exact ha), List.length_cons]
      have hone := h season hs
      omega
    · have hsub : (rest.filter fun e => e.covers season).Sublist
          ((a :: rest).filter fun e => e.covers season) := (List.sublist_cons_self ..).filter _
      exact Nat.le_trans hsub.length_le (h season hs)

theorem Unbroken.tail (h : Unbroken seasons (a :: rest)) : Unbroken seasons rest := by
  obtain ⟨hfirst, hsorted⟩ := List.pairwise_cons.1 h.sorted
  obtain ⟨hother, hapart⟩ := List.pairwise_cons.1 h.apart
  refine ⟨hsorted, fun e he => h.upright e (List.mem_cons_of_mem _ he), hapart, ?_⟩
  rintro s hs t ht u hu hst htu ⟨d, hd, hds⟩ ⟨x, hx, hxu⟩
  obtain ⟨e, he, het⟩ := h.gapless s hs t ht u hu hst htu ⟨d, List.mem_cons_of_mem _ hd, hds⟩
    ⟨x, List.mem_cons_of_mem _ hx, hxu⟩
  rcases List.mem_cons.1 he with rfl | he
  · -- The first span would begin before `s` and reach beyond it, and so share it.
    have hle := hfirst d hd
    have hbegin := (Entry.covers_iff.1 hds).1
    obtain ⟨-, hlast⟩ := Entry.covers_iff.1 het
    have hshared : e.covers s = true :=
      Entry.covers_iff.2 ⟨by omega, fun last hl => Int.le_trans hst (hlast last hl)⟩
    cases hds.symm.trans (hother d hd s hs hshared)
  · exact ⟨e, he, het⟩

theorem Unbroken.meets [seasons.OrdConnected] (h : Unbroken seasons (a :: b :: rest))
    (ha : a.Within seasons) (hb : b.Within seasons) : a.Meets b := by
  obtain ⟨hfirst, hsorted⟩ := List.pairwise_cons.1 h.sorted
  have hab := hfirst b List.mem_cons_self
  have hbegins : b.covers b.first = true :=
    Entry.covers_first (h.upright b (List.mem_cons_of_mem _ List.mem_cons_self))
  have hnot : a.covers b.first ≠ true := by
    intro hcovers
    have hother := (List.pairwise_cons.1 h.apart).1 b List.mem_cons_self b.first hb.first hcovers
    cases hbegins.symm.trans hother
  cases hl : a.last with
  | none =>
    refine absurd (Entry.covers_iff.2 ⟨hab, fun last hl' => ?_⟩) hnot
    cases hl.symm.trans hl'
  | some last =>
    have hupright := h.upright a List.mem_cons_self last hl
    rw [Ne, Entry.covers_iff_of_last hl] at hnot
    refine ⟨last, hl, ?_⟩
    by_contra hne
    -- Otherwise the season after the first span is left out.
    have hends : a.covers last = true := (Entry.covers_iff_of_last hl).2 ⟨hupright, Int.le_refl _⟩
    have hnext : last + 1 ∈ seasons :=
      Set.OrdConnected.out ‹_› (ha.last last hl) hb.first ⟨by omega, by omega⟩
    obtain ⟨e, he, hcovers⟩ := h.gapless last (ha.last last hl) (last + 1) hnext b.first hb.first
      (by omega) (by omega) ⟨a, List.mem_cons_self, hends⟩
      ⟨b, List.mem_cons_of_mem _ List.mem_cons_self, hbegins⟩
    rcases List.mem_cons.1 he with rfl | he
    · rw [Entry.covers_iff_of_last hl] at hcovers
      omega
    · have hbegin := (Entry.covers_iff.1 hcovers).1
      have hle : b.first ≤ e.first := by
        rcases List.mem_cons.1 he with rfl | he
        · exact Int.le_refl _
        · exact (List.pairwise_cons.1 hsorted).1 e he
      omega

theorem Unbroken.isChain [seasons.OrdConnected] (h : Unbroken seasons l)
    (hwithin : ∀ e ∈ l, e.Within seasons) : l.IsChain Entry.Meets := by
  induction l with
  | nil => exact .nil
  | cons a rest ih =>
    have htail := ih h.tail fun e he => hwithin e (List.mem_cons_of_mem _ he)
    cases rest with
    | nil => exact .singleton a
    | cons b rest =>
      have hb := hwithin b (List.mem_cons_of_mem _ List.mem_cons_self)
      exact List.isChain_cons_cons.2 ⟨h.meets (hwithin a List.mem_cons_self) hb, htail⟩

end

section
variable {entries : List Entry}

theorem played_iff {f : FranchiseId} {season : Int} :
    Played entries f season ↔ ∃ e ∈ timeline entries f, e.covers season = true := by
  simp only [Played, mem_timeline, and_assoc]

theorem gapless_of_isChain {f : FranchiseId} (h : (timeline entries f).IsChain Entry.Meets)
    (hu : ∀ e ∈ entries, e.Upright) {s t u : Int} (hst : s ≤ t) (htu : t ≤ u)
    (hs : Played entries f s) (hlater : Played entries f u) : Played entries f t := by
  rw [played_iff] at hs hlater ⊢
  have hprecedes := pairwise_precedes h fun e he => hu e (mem_timeline.1 he).1
  obtain ⟨d, hd, hds⟩ := hs
  have hbegin := (Entry.covers_iff.1 hds).1
  cases hl : timeline entries f with
  | nil =>
    rw [hl] at hd
    cases hd
  | cons a rest =>
    rw [hl] at h hd hprecedes hlater
    have ha : a ∈ timeline entries f := hl ▸ List.mem_cons_self
    have hfirst : a.first ≤ d.first := by
      rcases List.mem_cons.1 hd with rfl | hd
      · exact Int.le_refl _
      · have hpre := (List.pairwise_cons.1 hprecedes).1 d hd
        exact Int.le_of_lt (hpre.first_lt (hu a (mem_timeline.1 ha).1))
    exact exists_covers_of_isChain h (by omega) htu hlater

/-! ### Codes of two franchises -/

theorem Entry.both_cover_of_intersects {a b : Entry} (ha : a.Upright) (hb : b.Upright)
    (h : a.intersects b = true) :
    a.covers (max a.first b.first) = true ∧ b.covers (max a.first b.first) = true := by
  rw [intersects, Bool.and_eq_true, Option.all_eq_true, Option.all_eq_true] at h
  obtain ⟨hab, hba⟩ := h
  constructor
  · refine covers_iff.2 ⟨by omega, fun last hl => ?_⟩
    have hown := ha last hl
    have hother := of_decide_eq_true (hba last hl)
    omega
  · refine covers_iff.2 ⟨by omega, fun last hl => ?_⟩
    have hown := hb last hl
    have hother := of_decide_eq_true (hab last hl)
    omega

/-! ### Modern codes -/

theorem modernProblem?_cons_eq_none {named : List FranchiseId} {m : ModernCode}
    {rest : List ModernCode} : modernProblem? entries named (m :: rest) = none ↔
      if ∃ e ∈ entries, e.franchise = m.franchise then
        (∃ e ∈ entries, e.franchise = m.franchise ∧ e.code = m.code) ∧ m.franchise ∉ named ∧
          modernProblem? entries (m.franchise :: named) rest = none
      else modernProblem? entries named rest = none := by
  have hheld : (!entries.any fun e => e.franchise == m.franchise) = true ↔
      ¬∃ e ∈ entries, e.franchise = m.franchise := by simp
  have hown : (!entries.any fun e => e.franchise == m.franchise && e.code == m.code) = true ↔
      ¬∃ e ∈ entries, e.franchise = m.franchise ∧ e.code = m.code := by simp
  by_cases h : ∃ e ∈ entries, e.franchise = m.franchise
  · rw [modernProblem?, if_neg (mt hheld.1 (not_not_intro h)), if_pos h]
    by_cases hcode : ∃ e ∈ entries, e.franchise = m.franchise ∧ e.code = m.code
    · rw [if_neg (mt hown.1 (not_not_intro hcode))]
      by_cases hnamed : m.franchise ∈ named <;> simp [hnamed, hcode]
    · rw [if_pos (hown.2 hcode)]
      simp [hcode]
  · rw [modernProblem?, if_pos (hheld.2 h), if_neg h]

/-- A modern code that is named is counted among the named ones from then on. -/
theorem count_named_cons {named : List FranchiseId} {m : ModernCode} (hnew : m.franchise ∉ named)
    (rest : List ModernCode) (f : FranchiseId) :
    ((m :: rest).filter fun m => m.franchise == f).length + (if f ∈ named then 1 else 0) =
      (rest.filter fun m => m.franchise == f).length +
        (if f ∈ m.franchise :: named then 1 else 0) := by
  by_cases heq : m.franchise = f
  · subst heq
    simp only [List.filter_cons, beq_self_eq_true, if_true, List.length_cons, hnew, if_false,
      List.mem_cons, true_or, Nat.add_zero]
  · have hne : f ≠ m.franchise := fun h => heq h.symm
    simp only [List.filter_cons, beq_eq_false_iff_ne.2 heq, List.mem_cons, hne, false_or,
      Bool.false_eq_true, if_false]

/-- No franchise with entries has a foreign code, nor two codes, one that is named already counted
among them. -/
theorem modernProblem?_eq_none_iff {named : List FranchiseId} {modern : List ModernCode} :
    modernProblem? entries named modern = none ↔
      ∀ f, (∃ e ∈ entries, e.franchise = f) →
        (∀ m ∈ modern, m.franchise = f → ∃ e ∈ entries, e.franchise = f ∧ e.code = m.code) ∧
        (modern.filter fun m => m.franchise == f).length + (if f ∈ named then 1 else 0) ≤ 1 := by
  induction modern generalizing named with
  | nil =>
    have hle : ∀ f : FranchiseId, (if f ∈ named then 1 else 0) ≤ 1 := by
      intro f
      split <;> omega
    simp [modernProblem?, hle]
  | cons m rest ih =>
    rw [modernProblem?_cons_eq_none]
    split
    · rename_i hheld
      rw [ih]
      constructor
      · rintro ⟨hown, hnew, hrest⟩ f hf
        obtain ⟨hcodes, hlength⟩ := hrest f hf
        rw [← count_named_cons hnew] at hlength
        refine ⟨List.forall_mem_cons.2 ⟨?_, hcodes⟩, hlength⟩
        rintro rfl
        exact hown
      · intro h
        obtain ⟨hcodes, hlength⟩ := h m.franchise hheld
        have hnew : m.franchise ∉ named := by
          intro hnamed
          have hmem : m ∈ (m :: rest).filter fun m' => m'.franchise == m.franchise :=
            List.mem_filter.2 ⟨List.mem_cons_self, beq_self_eq_true _⟩
          have hpos := List.length_pos_of_mem hmem
          rw [if_pos hnamed] at hlength
          omega
        refine ⟨hcodes m List.mem_cons_self rfl, hnew, fun f hf => ?_⟩
        obtain ⟨hcodes', hlength'⟩ := h f hf
        rw [count_named_cons hnew] at hlength'
        exact ⟨fun m' hm' => hcodes' m' (List.mem_cons_of_mem _ hm'), hlength'⟩
    · rename_i hheld
      rw [ih]
      refine forall_congr' fun f => forall_congr' fun hf => ?_
      have hne : m.franchise ≠ f := by
        rintro rfl
        exact hheld hf
      simp [hne]

end

/-! ### All checks -/

theorem consistent_of_firstProblem {r : Reference} (h : firstProblem? r = none)
    (seasons : Set Int) : r.Consistent seasons := by
  have hchecked := checked_of_firstProblem h
  simp only [firstProblem?, Option.or_eq_none_iff, List.findSome?_eq_none_iff,
    invertedProblem?_eq_none_iff, timelineProblem?_eq_none_iff, modernProblem?_eq_none_iff,
    missingProblem?_eq_none_iff] at h
  obtain ⟨⟨⟨⟨hupright, htimelines⟩, -⟩, hmodern⟩, hnamed⟩ := h
  refine ⟨hupright, fun f season _ => hchecked.single f season, ?_,
    fun a ha b hb hcode season _ => hchecked.unambiguous a ha b hb hcode season, ?_⟩
  · rintro f s - t - u - hst htu ⟨e, he, hf, hs⟩ hu
    have hchain := htimelines f (mem_franchisesOf.2 ⟨e, he, hf⟩)
    exact gapless_of_isChain hchain hupright hst htu ⟨e, he, hf, hs⟩ hu
  · rintro f ⟨e, he, rfl⟩
    obtain ⟨hcodes, hlength⟩ := hmodern e.franchise ⟨e, he, rfl⟩
    obtain ⟨m, hm, hf⟩ := hnamed e he
    have hmem : m ∈ r.modern.filter fun m => m.franchise == e.franchise :=
      List.mem_filter.2 ⟨hm, beq_iff_eq.2 hf⟩
    have hpos := List.length_pos_of_mem hmem
    have hone : (r.modern.filter fun m => m.franchise == e.franchise).length = 1 := by
      simp only [List.not_mem_nil, if_false] at hlength
      omega
    obtain ⟨m', hm'⟩ := List.length_eq_one_iff.1 hone
    obtain rfl := List.mem_singleton.1 (hm' ▸ hmem)
    exact ⟨m, hm', hcodes m hm hf⟩

section
variable {seasons : Set Int} {r : Reference}

theorem Reference.Consistent.unbroken (h : r.Consistent seasons) (f : FranchiseId) :
    Unbroken seasons (timeline r.history f) where
  sorted := timeline_sorted r.history f
  upright := fun e he => h.upright e (mem_timeline.1 he).1
  apart := pairwise_apart fun season hs => by
    rw [(timeline_covers_perm r.history f season).length_eq]
    exact h.single f season hs
  gapless := by
    intro s hs t ht u hu hst htu hearlier hlater
    rw [← played_iff] at hearlier hlater ⊢
    exact h.gapless f s hs t ht u hu hst htu hearlier hlater

/-- Spans that intersect share the later one of the seasons in which they begin. -/
theorem Reference.Consistent.noClash (h : r.Consistent seasons)
    (hwithin : ∀ e ∈ r.history, e.Within seasons) {a b : Entry} (ha : a ∈ r.history)
    (hb : b ∈ r.history) : clashProblem? a b = none := by
  refine if_neg ?_
  rintro ⟨hcode, hne, hintersects⟩
  obtain ⟨hca, hcb⟩ :=
    Entry.both_cover_of_intersects (h.upright a ha) (h.upright b hb) hintersects
  have hseason : max a.first b.first ∈ seasons := by
    rcases max_choice a.first b.first with heq | heq <;> rw [heq]
    · exact (hwithin a ha).first
    · exact (hwithin b hb).first
  exact hne (h.unambiguous a ha b hb hcode _ hseason hca hcb)

theorem firstProblem_of_consistent [seasons.OrdConnected] (h : r.Consistent seasons)
    (hwithin : ∀ e ∈ r.history, e.Within seasons) : firstProblem? r = none := by
  simp only [firstProblem?, Option.or_eq_none_iff, List.findSome?_eq_none_iff,
    invertedProblem?_eq_none_iff, timelineProblem?_eq_none_iff, ambiguityProblem?_eq_none_iff,
    modernProblem?_eq_none_iff, missingProblem?_eq_none_iff]
  refine ⟨⟨⟨⟨h.upright, fun f _ => ?_⟩, ?_⟩, ?_⟩, ?_⟩
  · exact (h.unbroken f).isChain fun e he => hwithin e (mem_timeline.1 he).1
  · exact List.pairwise_of_forall_mem_list fun a ha b hb => h.noClash hwithin ha hb
  · intro f hf
    obtain ⟨m, hm, hown⟩ := h.modern f hf
    refine ⟨fun m' hm' hf' => ?_, by simp [hm]⟩
    have hmem : m' ∈ r.modern.filter fun m => m.franchise == f :=
      List.mem_filter.2 ⟨hm', beq_iff_eq.2 hf'⟩
    rw [hm, List.mem_singleton] at hmem
    rw [hmem]
    exact hown
  · intro e he
    obtain ⟨m, hm, -⟩ := h.modern e.franchise ⟨e, he, rfl⟩
    have hmem : m ∈ r.modern.filter fun m => m.franchise == e.franchise :=
      hm ▸ List.mem_singleton_self m
    obtain ⟨hmodern, hf⟩ := List.mem_filter.1 hmem
    exact ⟨m, hmodern, beq_iff_eq.1 hf⟩

theorem exists_load_iff [seasons.OrdConnected] (hwithin : ∀ e ∈ r.history, e.Within seasons) :
    (∃ h, History.load r = .ok h) ↔ r.Consistent seasons := by
  constructor
  · rintro ⟨h, hload⟩
    exact consistent_of_firstProblem (load_eq_ok_iff.1 hload).1 seasons
  · intro h
    exact ⟨_, load_eq_ok_iff.2 ⟨firstProblem_of_consistent h hwithin, rfl⟩⟩

end

/-- Reference data are accepted exactly when they are consistent.  When all their seasons are words
of 32 bits, it is enough to look at seasons that are such words, and no sum that the checks look at
is out of range. -/
theorem load_ok_iff_consistent (r : Reference) :
    ((∃ h, History.load r = .ok h) ↔ r.Consistent Set.univ) ∧
    ((∀ e ∈ r.history, e.Within wordSeasons) →
      ((∃ h, History.load r = .ok h) ↔ r.Consistent wordSeasons) ∧
        boundedFirstProblem? r = some (firstProblem? r)) := by
  refine ⟨exists_load_iff fun e _ => ⟨trivial, fun _ _ => trivial⟩, fun hwithin => ?_⟩
  have : wordSeasons.OrdConnected := Set.ordConnected_Icc
  exact ⟨exists_load_iff hwithin, boundedFirstProblem?_eq hwithin⟩

/-- A franchise of all the seasons that are words, and one of the greatest only; the code of a
franchise without entries is passed over. -/
def allSeasons : Reference where
  history := [⟨⟨1⟩, "AA", leastSeason, some (greatestSeason - 1)⟩,
    ⟨⟨1⟩, "BB", greatestSeason, some greatestSeason⟩, ⟨⟨2⟩, "aa", greatestSeason, none⟩]
  modern := [⟨⟨3⟩, "CC"⟩, ⟨⟨1⟩, "AA"⟩, ⟨⟨2⟩, "aa"⟩]
  designators := []
  names := []
  segments := []

theorem allSeasons_consistent :
    (∀ e ∈ allSeasons.history, e.Within wordSeasons) ∧
    (∃ h, History.load allSeasons = .ok h) ∧ allSeasons.Consistent wordSeasons ∧
    boundedFirstProblem? allSeasons = some none := by
  have hwithin : ∀ e ∈ allSeasons.history, e.Within wordSeasons := by decide
  have hsorted : allSeasons.history.Pairwise fun a b => a.first ≤ b.first := by decide
  have hproblem : firstProblem? allSeasons = none := by
    simp only [firstProblem?, timeline_of_sorted hsorted]
    decide +kernel
  obtain ⟨-, hwords⟩ := load_ok_iff_consistent allSeasons
  obtain ⟨haccepted, hbounded⟩ := hwords hwithin
  have hload : ∃ h, History.load allSeasons = .ok h := ⟨_, load_eq_ok_iff.2 ⟨hproblem, rfl⟩⟩
  exact ⟨hwithin, hload, haccepted.1 hload, hbounded.trans (congrArg some hproblem)⟩

end Scorebook.Franchise
