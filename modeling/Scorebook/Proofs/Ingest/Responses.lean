import Scorebook.Proofs.Ingest.Exchanges

/-!
# Carrying work out

When it is settled what the surroundings respond with, a piece of work comes to one list of
exchanges and one end.
-/

namespace Scorebook.Ingest

/-- What others respond with, after what was exchanged before. -/
structure Responses where
  session : List Exchange → Except FetchError Session
  page : List Exchange → Session → String → Answer
  roster : List Exchange → RosterQuery → Except String (List Candidate)
  store : List Exchange → SinkCall → Option String

namespace Work

variable {α β : Type}

/-- What a piece of work exchanges after a past, and how it ends. -/
def carryOut (env : Responses) (past : List Exchange) : Work α → List Exchange × α
  | done a => ([], a)
  | reserve host next => (next.carryOut env (past ++ [.slot host])).map (.slot host :: ·) id
  | acquire next =>
    let x := Exchange.session (env.session past)
    ((next (env.session past)).carryOut env (past ++ [x])).map (x :: ·) id
  | fetch s url next =>
    let x := Exchange.page s url (env.page past s url)
    ((next (env.page past s url)).carryOut env (past ++ [x])).map (x :: ·) id
  | release s next => (next.carryOut env (past ++ [.released s])).map (.released s :: ·) id
  | discard s next => (next.carryOut env (past ++ [.discarded s])).map (.discarded s :: ·) id
  | ask q next =>
    let x := Exchange.question q (env.roster past q)
    ((next (env.roster past q)).carryOut env (past ++ [x])).map (x :: ·) id
  | call c next =>
    let x := Exchange.write c (env.store past c)
    ((next (env.store past c)).carryOut env (past ++ [x])).map (x :: ·) id

theorem ends_carryOut (env : Responses) (past : List Exchange) (w : Work α) :
    w.Ends (w.carryOut env past).1 (w.carryOut env past).2 := by
  induction w generalizing past with
  | done a => exact ⟨rfl, rfl⟩
  | reserve host next ih => exact ⟨_, rfl, ih _⟩
  | acquire next ih => exact ⟨_, _, rfl, ih _ _⟩
  | fetch s url next ih => exact ⟨_, _, rfl, ih _ _⟩
  | release s next ih => exact ⟨_, rfl, ih _⟩
  | discard s next ih => exact ⟨_, rfl, ih _⟩
  | ask q next ih => exact ⟨_, _, rfl, ih _ _⟩
  | call c next ih => exact ⟨_, _, rfl, ih _ _⟩

/-- The exchanges of a piece of work tell how it ends. -/
theorem ends_unique {w : Work α} {xs : List Exchange} {a b : α} (ha : w.Ends xs a)
    (hb : w.Ends xs b) : a = b := by
  induction w generalizing xs with
  | done c => exact ha.2.symm.trans hb.2
  | reserve host next ih =>
    obtain ⟨ys, rfl, ha⟩ := ha
    obtain ⟨_, ⟨⟩, hb⟩ := hb
    exact ih ha hb
  | acquire next ih =>
    obtain ⟨answer, ys, rfl, ha⟩ := ha
    obtain ⟨_, _, ⟨⟩, hb⟩ := hb
    exact ih answer ha hb
  | fetch s url next ih =>
    obtain ⟨answer, ys, rfl, ha⟩ := ha
    obtain ⟨_, _, ⟨⟩, hb⟩ := hb
    exact ih answer ha hb
  | release s next ih =>
    obtain ⟨ys, rfl, ha⟩ := ha
    obtain ⟨_, ⟨⟩, hb⟩ := hb
    exact ih ha hb
  | discard s next ih =>
    obtain ⟨ys, rfl, ha⟩ := ha
    obtain ⟨_, ⟨⟩, hb⟩ := hb
    exact ih ha hb
  | ask q next ih =>
    obtain ⟨answer, ys, rfl, ha⟩ := ha
    obtain ⟨_, _, ⟨⟩, hb⟩ := hb
    exact ih answer ha hb
  | call c next ih =>
    obtain ⟨failure, ys, rfl, ha⟩ := ha
    obtain ⟨_, _, ⟨⟩, hb⟩ := hb
    exact ih failure ha hb

end Work

end Scorebook.Ingest
