import Scorebook.Json.Decoding

/-!
# The two sides of a game
-/

namespace Scorebook

inductive Side where
  | away
  | home
deriving DecidableEq, Repr, Inhabited

namespace Side

/-- Both sides, in the order in which everything about them is listed. -/
def both : List Side := [away, home]

def name : Side → String
  | away => "away"
  | home => "home"

def ofName? (s : String) : Option Side :=
  if s = "away" then some away else if s = "home" then some home else none

def ofJson? : Json.Decoder Side := fun v => Json.choiceName? v |>.bind ofName?

theorem ofName?_name (s : Side) : ofName? s.name = some s := by
  cases s <;> decide

theorem mem_both (s : Side) : s ∈ both := by
  cases s <;> simp [both]

end Side

structure PerSide (α : Type) where
  away : α
  home : α
deriving Repr, Inhabited

instance {α : Type} [DecidableEq α] : DecidableEq (PerSide α) := fun p p' =>
  decidable_of_iff (p.away = p'.away ∧ p.home = p'.home) (Iff.of_eq (PerSide.mk.injEq ..).symm)

namespace PerSide

def get {α : Type} (p : PerSide α) : Side → α
  | .away => p.away
  | .home => p.home

def ofFn {α : Type} (f : Side → α) : PerSide α := ⟨f .away, f .home⟩

/-- The values with the one of a side replaced. -/
def set {α : Type} (p : PerSide α) (side : Side) (a : α) : PerSide α :=
  match side with
  | .away => { p with away := a }
  | .home => { p with home := a }

@[simp] theorem get_ofFn {α : Type} (f : Side → α) (s : Side) : (ofFn f).get s = f s := by
  cases s <;> rfl

@[simp] theorem get_set_self {α : Type} (p : PerSide α) (s : Side) (a : α) :
    (p.set s a).get s = a := by
  cases s <;> rfl

def toJson {α : Type} (f : α → Json) (p : PerSide α) : Json :=
  .obj [("away", f p.away), ("home", f p.home)]

def ofJson? {α : Type} (decode : Json.Decoder α) : Json.Decoder (PerSide α) := fun v =>
  match Json.record? ["away", "home"] v with
  | some [a, h] => do
    let away ← a.required decode
    let home ← h.required decode
    some ⟨away, home⟩
  | _ => none

end PerSide

end Scorebook
