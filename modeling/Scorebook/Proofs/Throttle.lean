import Scorebook.Throttle

/-!
# The slots of a throttle

Requests come from any number of callers, and each of them reserves its slot in one step, so what
the callers do together is one list of requests.  Whatever is drawn for them, the slots of each host
follow each other at a distance within the bounds, and the requests to other hosts do not matter.
-/

namespace Scorebook

/-- A request to a host: when it is made, and what is drawn for its delay. -/
structure Request where
  host : String
  time : Nat
  draw : Nat
deriving DecidableEq, Repr

structure Granted where
  request : Request
  slot : Nat
deriving DecidableEq, Repr

/-- The slot of a request comes after the last one of its host, neither too soon nor too late. -/
structure Spacing.Follows (s : Spacing) (last : Nat) (g : Granted) : Prop where
  not_before : g.request.time ≤ g.slot
  apart : last + max s.bounds.1 Spacing.floor ≤ g.slot
  at_most : g.slot ≤ max g.request.time (last + s.bounds.2)

/-- The requests to a host, in order, after its last slot, if there was one. -/
inductive Spacing.Spaced (s : Spacing) : Option Nat → List Granted → Prop
  | nil (last : Option Nat) : Spaced s last []
  | first {g : Granted} {gs : List Granted} (h : g.slot = g.request.time)
      (hrest : Spaced s (some g.slot) gs) : Spaced s none (g :: gs)
  | next {last : Nat} {g : Granted} {gs : List Granted} (h : s.Follows last g)
      (hrest : Spaced s (some g.slot) gs) : Spaced s (some last) (g :: gs)

namespace Throttle

def grant (t : Throttle) (q : Request) : Granted := ⟨q, t.nextSlot q.time q.draw q.host⟩

def after (t : Throttle) (q : Request) : Throttle := t.reserve q.time q.draw q.host

/-- The requests with what they are granted, one after the other. -/
def grants (t : Throttle) : List Request → List Granted
  | [] => []
  | q :: qs => t.grant q :: (t.after q).grants qs

def grantedFor (host : String) (gs : List Granted) : List Granted :=
  gs.filter fun g => g.request.host = host

variable {t t' : Throttle} {q : Request} {host : String}

/-! ### A single request -/

theorem slot_of_first (h : t.slot? q.host = none) : (t.grant q).slot = q.time := by
  simp only [grant, nextSlot, h]

theorem follows_of_slot {last : Nat} (h : t.slot? q.host = some last) :
    t.spacing.Follows last (t.grant q) := by
  have hslot : (t.grant q).slot = max (last + t.spacing.delay q.draw) q.time := by
    simp only [grant, nextSlot, h]
  have hrequest : (t.grant q).request.time = q.time := rfl
  have hlow := t.spacing.le_delay q.draw
  have hhigh := t.spacing.delay_le q.draw
  have hfloor := t.spacing.floor_le_bounds
  constructor
  · omega
  · omega
  · omega

theorem slot?_after (t : Throttle) (q : Request) :
    (t.after q).slot? q.host = some (t.grant q).slot :=
  slot?_reserve t q.time q.draw q.host

theorem slot?_after_of_ne (h : q.host ≠ host) : (t.after q).slot? host = t.slot? host :=
  slot?_reserve_of_ne t q.time q.draw (Ne.symm h)

/-! ### All requests -/

theorem request_grants (t : Throttle) (qs : List Request) :
    (t.grants qs).map Granted.request = qs := by
  induction qs generalizing t with
  | nil => rfl
  | cons q qs ih =>
    have hrest := ih (t.after q)
    rw [grants, List.map_cons, hrest]
    rfl

theorem spaced_grants (t : Throttle) (host : String) (qs : List Request) :
    t.spacing.Spaced (t.slot? host) (grantedFor host (t.grants qs)) := by
  induction qs generalizing t with
  | nil => exact .nil _
  | cons q qs ih =>
    have hrest := ih (t.after q)
    have hspacing : (t.after q).spacing = t.spacing := rfl
    rw [hspacing] at hrest
    have hrequest : (t.grant q).request.host = q.host := rfl
    rw [grants, grantedFor]
    by_cases hq : q.host = host
    · subst hq
      rw [slot?_after] at hrest
      rw [List.filter_cons_of_pos (by simp [hrequest])]
      cases hlast : t.slot? q.host with
      | none => exact .first (slot_of_first hlast) hrest
      | some last => exact .next (follows_of_slot hlast) hrest
    · rw [slot?_after_of_ne hq] at hrest
      rw [List.filter_cons_of_neg (by simp [hrequest, hq])]
      exact hrest

/-- What a host is granted depends on the bounds, on its last slot and on its own requests. -/
theorem grantedFor_grants_congr (hspacing : t.spacing = t'.spacing)
    (hslot : t.slot? host = t'.slot? host) (qs : List Request) :
    grantedFor host (t.grants qs) = t'.grants (qs.filter fun q => q.host = host) := by
  induction qs generalizing t t' with
  | nil => rfl
  | cons q qs ih =>
    have hrequest : (t.grant q).request.host = q.host := rfl
    rw [grants, grantedFor]
    by_cases hq : q.host = host
    · subst hq
      have hgrant : t.grant q = t'.grant q := by
        simp only [grant, nextSlot, hslot, hspacing]
      have hlast : (t.after q).slot? q.host = (t'.after q).slot? q.host := by
        rw [slot?_after, slot?_after, hgrant]
      have hspacing' : (t.after q).spacing = (t'.after q).spacing := hspacing
      have hrest := ih hspacing' hlast
      rw [grantedFor] at hrest
      rw [List.filter_cons_of_pos (by simp [hrequest]), List.filter_cons_of_pos (by simp), grants,
        hgrant, hrest]
    · have hlast : (t.after q).slot? host = t'.slot? host := by
        rw [slot?_after_of_ne hq, hslot]
      have hspacing' : (t.after q).spacing = t'.spacing := hspacing
      have hrest := ih hspacing' hlast
      rw [List.filter_cons_of_neg (by simp [hrequest, hq]), List.filter_cons_of_neg (by simp [hq])]
      exact hrest

end Throttle

end Scorebook
