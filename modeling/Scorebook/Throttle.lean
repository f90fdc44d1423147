import Scorebook.Settings.Basic

/-!
# Throttle

Spaces the requests to a host.  A caller reserves the next free slot of the host and sleeps until
then, so callers at the same time queue up one delay apart.  Hosts do not wait for each other.
Times are in milliseconds.
-/

namespace Scorebook

namespace Spacing

/-- The delay for a draw: the draw held within the bounds. -/
def delay (s : Spacing) (draw : Nat) : Nat := max s.bounds.1 (min draw s.bounds.2)

theorem bounds_le (s : Spacing) : s.bounds.1 ≤ s.bounds.2 := by
  simp only [bounds]
  omega

theorem floor_le_bounds (s : Spacing) : floor ≤ s.bounds.1 := Nat.le_max_right ..

theorem le_delay (s : Spacing) (draw : Nat) : s.bounds.1 ≤ s.delay draw := Nat.le_max_left ..

theorem delay_le (s : Spacing) (draw : Nat) : s.delay draw ≤ s.bounds.2 :=
  Nat.max_le.2 ⟨s.bounds_le, Nat.min_le_right ..⟩

end Spacing

/-- The last slot that was granted for each host. -/
structure Throttle where
  spacing : Spacing
  slots : List (String × Nat)
deriving Repr

namespace Throttle

def ofSpacing (s : Spacing) : Throttle := ⟨s, []⟩

def slot? (t : Throttle) (host : String) : Option Nat := t.slots.lookup host

/-- The slot for a request that is made now: at once for the first one to a host, later ones a delay
after the slot before. -/
def nextSlot (t : Throttle) (now draw : Nat) (host : String) : Nat :=
  match t.slot? host with
  | none => now
  | some last => max (last + t.spacing.delay draw) now

def reserve (t : Throttle) (now draw : Nat) (host : String) : Throttle :=
  { t with slots := (host, t.nextSlot now draw host) :: t.slots.filter fun s => s.1 != host }

@[simp] theorem spacing_reserve (t : Throttle) (now draw : Nat) (host : String) :
    (t.reserve now draw host).spacing = t.spacing := rfl

/-- The granted slot is the last one of its host. -/
theorem slot?_reserve (t : Throttle) (now draw : Nat) (host : String) :
    (t.reserve now draw host).slot? host = some (t.nextSlot now draw host) :=
  List.lookup_cons_self

theorem lookup_filter_ne {host other : String} (h : other ≠ host) (slots : List (String × Nat)) :
    (slots.filter fun s => s.1 != host).lookup other = slots.lookup other := by
  induction slots with
  | nil => rfl
  | cons s slots ih =>
    obtain ⟨name, slot⟩ := s
    by_cases hs : name = host
    · subst hs
      have hne : (other == name) = false := by simpa using h
      rw [List.filter_cons_of_neg (by simp), ih, List.lookup_cons, hne]
    · rw [List.filter_cons_of_pos (by simpa using hs), List.lookup_cons, List.lookup_cons, ih]

theorem slot?_reserve_of_ne (t : Throttle) (now draw : Nat) {host other : String}
    (h : other ≠ host) : (t.reserve now draw host).slot? other = t.slot? other := by
  have hne : (other == host) = false := by simpa using h
  rw [slot?, slot?, reserve, List.lookup_cons, hne]
  exact lookup_filter_ne h t.slots

end Throttle

end Scorebook
