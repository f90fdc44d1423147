import Scorebook.Proofs.Ingest.Completion
import Scorebook.Proofs.Throttle

/-!
# The slots of runs

The workers of a run are callers of one throttle.  What they reserve is one list of requests, made
at the times of the clock of the run, whichever worker makes which, so the slots that they are
granted are spaced.
-/

namespace Scorebook.Ingest

def Exchange.slot? : Exchange → Option String
  | .slot host => some host
  | _ => none

def slotsOf (past : List Dealing) : List String :=
  past.filterMap fun d => d.exchange.slot?

/-- A turn reserves a slot now, or has nothing to do with the throttle. -/
theorem Worker.Turns.throttle {s : Setup} {run : Uuid} {sh : Shared} {w : Worker} {t : Turn}
    (h : w.Turns s run sh t) :
    (∃ q : Request, q.time = sh.clock ∧ t.shared.throttle = sh.throttle.after q ∧
      t.exchanged = [.slot q.host]) ∨
    (t.shared.throttle = sh.throttle ∧ ∀ x ∈ t.exchanged, x.slot? = none) := by
  cases h with
  | @reserve job since host next draw hs => exact .inl ⟨⟨host, sh.clock, draw⟩, rfl, rfl, rfl⟩
  | @call job since c next now failure hs =>
    exact .inr ⟨throttle_write sh run now failure c, by simp [Exchange.slot?]⟩
  | _ => exact .inr ⟨rfl, by simp [Exchange.slot?]⟩

namespace Run

/-- The requests of a run by which its throttle has come from what it was. -/
structure Reserved (before : Throttle) (start : Nat) (past : List Dealing) (r : Run)
    (qs : List Request) : Prop where
  throttle : r.shared.throttle = qs.foldl Throttle.after before
  hosts : qs.map Request.host = slotsOf past
  ordered : qs.Pairwise fun p q => p.time ≤ q.time
  since : ∀ q ∈ qs, start ≤ q.time
  now : ∀ q ∈ qs, q.time ≤ r.clock
  begun : start ≤ r.clock

section
variable {s : Setup} {before : Throttle} {start : Nat} {past ds : List Dealing} {r r' : Run}
  {qs : List Request}

/-- Without a reservation the requests are the same. -/
theorem Reserved.same (h : Reserved before start past r qs)
    (ht : r'.shared.throttle = r.shared.throttle) (hc : r.clock ≤ r'.clock) (hd : slotsOf ds = []) :
    Reserved before start (past ++ ds) r' qs where
  throttle := ht.trans h.throttle
  hosts := by
    have hhosts := h.hosts
    rw [slotsOf] at hd hhosts ⊢
    rw [List.filterMap_append, hd, List.append_nil, hhosts]
  ordered := h.ordered
  since := h.since
  now := fun q hq => Nat.le_trans (h.now q hq) hc
  begun := Nat.le_trans h.begun hc

theorem Reserved.request {q : Request} (h : Reserved before start past r qs)
    (ht : r'.shared.throttle = r.shared.throttle.after q) (hc : r'.clock = r.clock)
    (hq : q.time = r.clock) (hd : slotsOf ds = [q.host]) :
    Reserved before start (past ++ ds) r' (qs ++ [q]) where
  throttle := by
    rw [List.foldl_append, ← h.throttle]
    exact ht
  hosts := by
    have hhosts := h.hosts
    rw [slotsOf] at hd hhosts ⊢
    rw [List.map_append, List.filterMap_append, hd, hhosts]
    rfl
  ordered := by
    refine List.pairwise_append.2 ⟨h.ordered, List.pairwise_singleton _ q, ?_⟩
    intro p hp q' hq'
    obtain rfl := List.mem_singleton.1 hq'
    rw [hq]
    exact h.now p hp
  since := by
    intro p hp
    rcases List.mem_append.1 hp with hp | hp
    · exact h.since p hp
    · obtain rfl := List.mem_singleton.1 hp
      rw [hq]
      exact h.begun
  now := by
    intro p hp
    rw [hc]
    rcases List.mem_append.1 hp with hp | hp
    · exact h.now p hp
    · obtain rfl := List.mem_singleton.1 hp
      exact Nat.le_of_eq hq
  begun := by
    rw [hc]
    exact h.begun

theorem Reserved.steps (h : Reserved before start past r qs) (hs : r.Steps s ds r') :
    ∃ qs', Reserved before start (past ++ ds) r' qs' := by
  cases hs with
  | tick hc => exact ⟨qs, h.same rfl hc rfl⟩
  | @refuse now failure g rest hg =>
    have hthrottle := throttle_write r.shared r.id now failure (.outcome g)
    have hclock := clock_write r.shared r.id now failure (.outcome g)
    exact ⟨qs, h.same hthrottle (Nat.le_of_eq hclock.symm) rfl⟩
  | move hi ht =>
    have hclock := (Worker.turned_of_turn ht).clock
    rcases (Worker.turns_of_turn ht).throttle with ⟨q, hq, hthrottle, hx⟩ | ⟨hthrottle, hx⟩
    · exact ⟨qs ++ [q], h.request hthrottle hclock hq (by rw [hx]; rfl)⟩
    · refine ⟨qs, h.same hthrottle (Nat.le_of_eq hclock.symm) ?_⟩
      simpa [slotsOf] using hx
  | @finish now failure hr hp =>
    have hthrottle := throttle_write r.shared r.id now failure (.run (r.closing now))
    have hclock := clock_write r.shared r.id now failure (.run (r.closing now))
    exact ⟨qs, h.same hthrottle (Nat.le_of_eq hclock.symm) rfl⟩
  | _ => exact ⟨qs, h.same rfl (Nat.le_refl _) rfl⟩

end

theorem Reached.reserved {s : Setup} {n : Nat} {id : Uuid} {now : Instant} {shared : Shared}
    {ids : List String} {past : List Dealing} {r : Run}
    (h : Reached s (startWith n id now shared ids) past r) :
    ∃ qs, Reserved shared.throttle shared.clock past r qs := by
  refine h.invariant (P := fun past r => ∃ qs, Reserved shared.throttle shared.clock past r qs) ?_ ?_
  · exact ⟨[], rfl, rfl, .nil, List.forall_mem_nil _, List.forall_mem_nil _, Nat.le_refl _⟩
  · rintro past r ds r' _ _ hs ⟨qs, ih⟩
    exact ih.steps hs

/-- The slots of each host are spaced within the bounds, whatever is requested and drawn, and
requests to other hosts do not matter to them.  The workers of a run make such requests. -/
theorem slots_spaced :
    (∀ (sp : Spacing) (qs : List Request),
      ((Throttle.ofSpacing sp).grants qs).map Granted.request = qs ∧
      ∀ host, sp.Spaced none (Throttle.grantedFor host ((Throttle.ofSpacing sp).grants qs)) ∧
        Throttle.grantedFor host ((Throttle.ofSpacing sp).grants qs) =
          (Throttle.ofSpacing sp).grants (qs.filter fun q => q.host = host)) ∧
    ∀ (s : Setup) (n : Nat) (id : Uuid) (now : Instant) (shared : Shared) (ids : List String)
      (past : List Dealing) (r : Run) (sp : Spacing) (earlier : List Request),
        shared.throttle = earlier.foldl Throttle.after (.ofSpacing sp) →
          Reached s (startWith n id now shared ids) past r →
            ∃ qs, r.shared.throttle = (earlier ++ qs).foldl Throttle.after (.ofSpacing sp) ∧
              qs.map Request.host = slotsOf past ∧ qs.Pairwise (fun p q => p.time ≤ q.time) ∧
              ∀ q ∈ qs, shared.clock ≤ q.time ∧ q.time ≤ r.clock := by
  constructor
  · intro sp qs
    refine ⟨Throttle.request_grants _ qs, fun host => ⟨?_, ?_⟩⟩
    · exact Throttle.spaced_grants (.ofSpacing sp) host qs
    · exact Throttle.grantedFor_grants_congr rfl rfl qs
  · intro s n id now shared ids past r sp earlier hshared hr
    obtain ⟨qs, hqs⟩ := hr.reserved
    refine ⟨qs, ?_, hqs.hosts, hqs.ordered, fun q hq => ⟨hqs.since q hq, hqs.now q hq⟩⟩
    rw [List.foldl_append, ← hshared]
    exact hqs.throttle

/-- Two workers reserve slots of one host at the same time. -/
theorem slots_of_two_workers :
    ∃ (past : List Dealing) (r : Run) (qs : List Request),
      Reached bareSetup (bareStart 2 ["20240323HHLG0", "20240323SKSS0"]) past r ∧
      slotsOf past = ["", ""] ∧ qs.map Request.host = ["", ""] ∧
      r.shared.throttle = qs.foldl Throttle.after (.ofSpacing bareSetup.settings.spacing) ∧
      r.shared.throttle.slot? "" = some 1500 := by
  have hview : ((bareStart 2 ["20240323HHLG0", "20240323SKSS0"]).follow bareSetup
      (takeGame 0 ++ takeGame 1)).map (fun p => (slotsOf p.1, p.2.shared.throttle.slot? "")) =
        some (["", ""], some 1500) := by decide +kernel
  obtain ⟨⟨past, r⟩, hfollow, hr⟩ := Option.map_eq_some_iff.1 hview
  obtain ⟨hslots, hlast⟩ : slotsOf past = ["", ""] ∧ r.shared.throttle.slot? "" = some 1500 :=
    Prod.ext_iff.1 hr
  have hreached := Reached.start.follow hfollow
  obtain ⟨qs, hthrottle, hhosts, -, -⟩ := slots_spaced.2 _ _ _ _ _ _ _ _
    bareSetup.settings.spacing [] rfl hreached
  exact ⟨past, r, qs, hreached, hslots, hhosts.trans hslots, hthrottle, hlast⟩

end Run

end Scorebook.Ingest
