/-!
# The pool of sessions

Pages are fetched over sessions, of which there is a bounded number.  A caller takes a permit and
keeps it from before it is handed a session, or begins to open one, until the session comes back.
What comes back is parked and handed out again; a session that is discarded is never seen again, and
its permit leaves room for a new one.  Sessions are numbered in the order in which they were asked
for.
-/

namespace Scorebook

abbrev Session := Nat

structure SessionPool where
  /-- The most sessions that may be out at a time. -/
  size : Nat
  /-- Permits that no caller has. -/
  free : Nat
  /-- Parked sessions, the last to come back first. -/
  idle : List Session
  /-- Sessions that callers hold. -/
  loans : List Session
  /-- Sessions that callers are opening. -/
  opening : List Session
  /-- How many sessions were asked for so far. -/
  asked : Nat
deriving Repr

namespace SessionPool

/-- A pool without sessions; there is room for one at least. -/
def ofSize (size : Nat) : SessionPool := ⟨max size 1, max size 1, [], [], [], 0⟩

/-- What a caller gets that asks for a session. -/
inductive Grant where
  /-- A parked session. -/
  | parked (s : Session)
  /-- The right to open a new session. -/
  | toOpen (s : Session)
  /-- All sessions are out: the caller has to wait. -/
  | blocked
deriving DecidableEq, Repr

/-- Asks for a session; a new one is opened only when none is parked. -/
def acquire (p : SessionPool) : SessionPool × Grant :=
  match p.free, p.idle with
  | 0, _ => (p, .blocked)
  | free + 1, s :: idle =>
    ({ p with free := free, idle := idle, loans := s :: p.loans }, .parked s)
  | free + 1, [] =>
    let s := p.asked + 1
    ({ p with free := free, opening := s :: p.opening, asked := s }, .toOpen s)

/-- A session that was being opened is open and belongs to its caller, who keeps the permit. -/
def opened (p : SessionPool) (s : Session) : SessionPool :=
  if s ∈ p.opening then { p with opening := p.opening.erase s, loans := s :: p.loans } else p

/-- Opening a session failed or was given up, and the permit comes back. -/
def abandon (p : SessionPool) (s : Session) : SessionPool :=
  if s ∈ p.opening then { p with free := p.free + 1, opening := p.opening.erase s } else p

/-- A session comes back with its permit. -/
def release (p : SessionPool) (s : Session) : SessionPool :=
  if s ∈ p.loans then
    { p with free := p.free + 1, loans := p.loans.erase s, idle := s :: p.idle }
  else p

/-- A caller drops a session that is not to be used again; only the permit comes back. -/
def discard (p : SessionPool) (s : Session) : SessionPool :=
  if s ∈ p.loans then { p with free := p.free + 1, loans := p.loans.erase s } else p

end SessionPool

end Scorebook
