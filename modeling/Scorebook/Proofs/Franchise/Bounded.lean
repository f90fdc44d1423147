import Mathlib
import Scorebook.Proofs.Franchise.Seasons

/-!
# Checks of bounded seasons

The checks of reference data with seasons held in signed words of 32 bits: a sum of seasons may be
out of range, which ends the checks without a verdict, and an open end stands for the greatest
season.  Entries whose seasons are in range never come to that, and the verdict is the same as
without bounds.
-/

namespace Scorebook.Franchise
open Text

def leastSeason : Int := -2147483648

def greatestSeason : Int := 2147483647

def wordSeasons : Set Int := Set.Icc leastSeason greatestSeason

instance (season : Int) : Decidable (season ∈ wordSeasons) :=
  inferInstanceAs (Decidable (leastSeason ≤ season ∧ season ≤ greatestSeason))

/-- The seasons that an entry names are among the given ones. -/
structure Entry.Within (seasons : Set Int) (e : Entry) : Prop where
  first : e.first ∈ seasons
  last : ∀ last, e.last = some last → last ∈ seasons

instance (e : Entry) : Decidable (e.Within wordSeasons) :=
  decidable_of_iff (e.first ∈ wordSeasons ∧ ∀ last ∈ e.last, last ∈ wordSeasons)
    ⟨fun h => ⟨h.1, h.2⟩, fun h => ⟨h.first, h.last⟩⟩

/-! ### The checks within bounds -/

/-- A season some seasons later, unless it is out of range. -/
def boundedSum? (season seasons : Int) : Option Int :=
  if season + seasons ∈ wordSeasons then some (season + seasons) else none

/-- What is wrong between neighbours; `none` when a sum is out of range. -/
def boundedAdjacent? (f : FranchiseId) (a b : Entry) : Option (Option HistoryError) :=
  match a.last with
  | none => some (some (.openIntervalNotLast f a.code))
  | some last =>
    if b.first ≤ last then some (some (.overlappingInterval f a.code b.code b.first))
    else
      (boundedSum? last 1).bind fun next =>
        if b.first > next then
          (boundedSum? b.first (-1)).map fun before => some (.gap f next before)
        else some none

def boundedTimeline? (f : FranchiseId) : List Entry → Option (Option HistoryError)
  | a :: b :: rest =>
    match boundedAdjacent? f a b with
    | none => none
    | some (some problem) => some (some problem)
    | some none => boundedTimeline? f (b :: rest)
  | _ => some none

/-- The first problem of some timelines, looked at in turn. -/
def boundedTimelines? (entries : List Entry) : List FranchiseId → Option (Option HistoryError)
  | [] => some none
  | f :: fs =>
    match boundedTimeline? f (timeline entries f) with
    | none => none
    | some (some problem) => some (some problem)
    | some none => boundedTimelines? entries fs

def Entry.boundedLast (e : Entry) : Int := e.last.getD greatestSeason

def Entry.boundedIntersects (a b : Entry) : Bool :=
  a.first ≤ b.boundedLast && b.first ≤ a.boundedLast

def boundedClash? (a b : Entry) : Option HistoryError :=
  if uppered a.code = uppered b.code ∧ a.franchise ≠ b.franchise ∧ a.boundedIntersects b then
    some (.ambiguousCode (uppered a.code) a.franchise b.franchise (max a.first b.first))
  else none

def boundedAmbiguity? : List Entry → Option HistoryError
  | [] => none
  | a :: rest =>
    match rest.findSome? (boundedClash? a) with
    | some problem => some problem
    | none => boundedAmbiguity? rest

/-- The first problem of reference data; `none` when a sum of seasons is out of range. -/
def boundedFirstProblem? (r : Reference) : Option (Option HistoryError) :=
  match r.history.findSome? invertedProblem? with
  | some problem => some (some problem)
  | none =>
    match boundedTimelines? r.history (franchisesOf r.history) with
    | none => none
    | some (some problem) => some (some problem)
    | some none =>
      some ((boundedAmbiguity? r.history).or (modernProblem? r.history [] r.modern)
        |>.or (missingProblem? r.history r.modern))

/-! ### No sum is out of range -/

theorem boundedSum?_eq {season seasons : Int} (h : season + seasons ∈ wordSeasons) :
    boundedSum? season seasons = some (season + seasons) := if_pos h

/-- A sum is only looked at below a greater season and a difference only above a smaller one. -/
theorem boundedAdjacent?_eq {f : FranchiseId} {a b : Entry} (ha : a.Within wordSeasons)
    (hb : b.Within wordSeasons) :
    boundedAdjacent? f a b = some (adjacentProblem? f a b) := by
  unfold boundedAdjacent? adjacentProblem?
  cases hl : a.last with
  | none => rfl
  | some last =>
    simp only
    by_cases hoverlap : b.first ≤ last
    · rw [if_pos hoverlap, if_pos hoverlap]
    · obtain ⟨hleast, hgreatest⟩ := hb.first
      obtain ⟨hlast, -⟩ := ha.last last hl
      have hnext : last + 1 ∈ wordSeasons := ⟨by omega, by omega⟩
      rw [if_neg hoverlap, if_neg hoverlap, boundedSum?_eq hnext, Option.bind_some]
      by_cases hgap : b.first > last + 1
      · have hbefore : b.first + -1 ∈ wordSeasons := ⟨by omega, by omega⟩
        rw [if_pos hgap, if_pos hgap, boundedSum?_eq hbefore]
        rfl
      · rw [if_neg hgap, if_neg hgap]

theorem boundedTimeline?_eq {f : FranchiseId} {l : List Entry} (h : ∀ e ∈ l, e.Within wordSeasons) :
    boundedTimeline? f l = some (timelineProblem? f l) := by
  induction l with
  | nil => rfl
  | cons a rest ih =>
    cases rest with
    | nil => rfl
    | cons b rest =>
      have ha := h a List.mem_cons_self
      have hb := h b (List.mem_cons_of_mem _ List.mem_cons_self)
      have htail := ih fun e he => h e (List.mem_cons_of_mem _ he)
      simp only [boundedTimeline?, timelineProblem?, boundedAdjacent?_eq ha hb]
      cases adjacentProblem? f a b with
      | some problem => rfl
      | none => exact htail

theorem boundedTimelines?_eq {entries : List Entry} (h : ∀ e ∈ entries, e.Within wordSeasons)
    (fs : List FranchiseId) : boundedTimelines? entries fs =
      some (fs.findSome? fun f => timelineProblem? f (timeline entries f)) := by
  induction fs with
  | nil => rfl
  | cons f fs ih =>
    have htimeline : boundedTimeline? f (timeline entries f) =
        some (timelineProblem? f (timeline entries f)) :=
      boundedTimeline?_eq fun e he => h e (mem_timeline.1 he).1
    simp only [boundedTimelines?, htimeline, List.findSome?_cons]
    cases timelineProblem? f (timeline entries f) with
    | some problem => rfl
    | none => exact ih

/-! ### An open end and the greatest season -/

theorem boundedIntersects_eq {a b : Entry} (ha : a.Within wordSeasons) (hb : b.Within wordSeasons) :
    a.boundedIntersects b = a.intersects b := by
  have hend : ∀ c d : Entry, c.Within wordSeasons →
      (decide (c.first ≤ d.boundedLast) : Bool) = d.last.all (c.first ≤ ·) := by
    intro c d hc
    unfold Entry.boundedLast
    cases d.last with
    | none => exact decide_eq_true hc.first.2
    | some last => rfl
  rw [Entry.boundedIntersects, Entry.intersects, hend a b ha, hend b a hb]

theorem boundedAmbiguity?_eq {entries : List Entry} (h : ∀ e ∈ entries, e.Within wordSeasons) :
    boundedAmbiguity? entries = ambiguityProblem? entries := by
  induction entries with
  | nil => rfl
  | cons a rest ih =>
    have ha := h a List.mem_cons_self
    have hrest : ∀ e ∈ rest, e.Within wordSeasons := fun e he => h e (List.mem_cons_of_mem _ he)
    have hclash : rest.findSome? (boundedClash? a) = rest.findSome? (clashProblem? a) := by
      rw [← List.head?_filterMap, ← List.head?_filterMap, List.filterMap_congr]
      intro b hb
      rw [boundedClash?, clashProblem?, boundedIntersects_eq ha (hrest b hb)]
    unfold boundedAmbiguity? ambiguityProblem?
    cases hfound : rest.findSome? (clashProblem? a) with
    | none => simp only [hclash, hfound, ih hrest]
    | some problem => simp only [hclash, hfound]

/-- The checks of entries in range end with the verdict that they have without bounds. -/
theorem boundedFirstProblem?_eq {r : Reference} (h : ∀ e ∈ r.history, e.Within wordSeasons) :
    boundedFirstProblem? r = some (firstProblem? r) := by
  unfold boundedFirstProblem? firstProblem?
  rw [boundedTimelines?_eq h, boundedAmbiguity?_eq h]
  cases r.history.findSome? invertedProblem? with
  | some problem => rfl
  | none =>
    cases (franchisesOf r.history).findSome? fun f => timelineProblem? f (timeline r.history f) with
    | some problem => rfl
    | none => rfl

end Scorebook.Franchise
