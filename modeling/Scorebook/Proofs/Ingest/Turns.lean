import Scorebook.Ingest.Run

/-!
# The turns of a worker

`Worker.Turns` lists what a move of a worker can do: with which work it is possible, what it takes
from and changes in what the workers share, and which exchange it completes.  What holds of every
turn is proved by cases on it.
-/

namespace Scorebook.Ingest

/-! ### Writes -/

section
variable (sh : Shared) (run : Uuid) (now : Instant) (failure : Option String) (c : SinkCall)

/-- A write changes nothing but the store. -/
theorem write_eq : sh.write run now failure c =
    { sh with store := (sh.write run now failure c).store } := by
  cases failure <;> rfl

theorem pool_write : (sh.write run now failure c).pool = sh.pool := by
  rw [write_eq]

theorem throttle_write : (sh.write run now failure c).throttle = sh.throttle := by
  rw [write_eq]

theorem clock_write : (sh.write run now failure c).clock = sh.clock := by
  rw [write_eq]

end

/-! ### Turns -/

namespace Worker

inductive Turns (s : Setup) (run : Uuid) (sh : Shared) : Worker → Turn → Prop
  | reserve {job : Job} {since : Nat} {host : String} {next : Work Ending} (draw : Nat)
      (hs : since ≤ sh.clock) :
      Turns s run sh (busy job since (.reserve host next))
        ⟨busy job (sh.throttle.nextSlot sh.clock draw host) next,
          { sh with throttle := sh.throttle.reserve sh.clock draw host }, [.slot host]⟩
  | parked {job : Job} {since : Nat} {next : Except FetchError Session → Work Ending}
      {pool : SessionPool} {session : Session} (hs : since ≤ sh.clock)
      (hp : sh.pool.acquire = (pool, .parked session)) :
      Turns s run sh (busy job since (.acquire next))
        ⟨busy job sh.clock (next (.ok session)), { sh with pool := pool },
          [.session (.ok session)]⟩
  | toOpen {job : Job} {since : Nat} {next : Except FetchError Session → Work Ending}
      {pool : SessionPool} {session : Session} (hs : since ≤ sh.clock)
      (hp : sh.pool.acquire = (pool, .toOpen session)) :
      Turns s run sh (busy job since (.acquire next))
        ⟨opening job session next, { sh with pool := pool }, []⟩
  | opened {job : Job} {session : Session} {next : Except FetchError Session → Work Ending} :
      Turns s run sh (opening job session next)
        ⟨busy job sh.clock (next (.ok session)), { sh with pool := sh.pool.opened session },
          [.session (.ok session)]⟩
  | failed {job : Job} {session : Session} {next : Except FetchError Session → Work Ending}
      (e : FetchError) :
      Turns s run sh (opening job session next)
        ⟨busy job sh.clock (next (.error e)), { sh with pool := sh.pool.abandon session },
          [.session (.error e)]⟩
  | send {job : Job} {since : Nat} {session : Session} {url : String}
      {next : Answer → Work Ending} (answer : Option Answer) (hs : since ≤ sh.clock) :
      Turns s run sh (busy job since (.fetch session url next))
        ⟨fetching job session url (sh.clock + s.settings.timeout) answer next, sh, []⟩
  | receive {job : Job} {session : Session} {url : String} {deadline : Nat} {answer : Answer}
      {next : Answer → Work Ending} :
      Turns s run sh (fetching job session url deadline (some answer) next)
        ⟨busy job sh.clock (next answer), sh, [.page session url answer]⟩
  | cut {job : Job} {session : Session} {url : String} {deadline : Nat} {answer : Option Answer}
      {next : Answer → Work Ending} (hd : deadline ≤ sh.clock) :
      Turns s run sh (fetching job session url deadline answer next)
        ⟨busy job sh.clock (next (.error .timeout)), sh, [.page session url (.error .timeout)]⟩
  | release {job : Job} {since : Nat} {session : Session} {next : Work Ending}
      (hs : since ≤ sh.clock) :
      Turns s run sh (busy job since (.release session next))
        ⟨busy job sh.clock next, { sh with pool := sh.pool.release session },
          [.released session]⟩
  | discard {job : Job} {since : Nat} {session : Session} {next : Work Ending}
      (hs : since ≤ sh.clock) :
      Turns s run sh (busy job since (.discard session next))
        ⟨busy job sh.clock next, { sh with pool := sh.pool.discard session },
          [.discarded session]⟩
  | ask {job : Job} {since : Nat} {q : RosterQuery}
      {next : Except String (List Candidate) → Work Ending}
      (answer : Except String (List Candidate)) (hs : since ≤ sh.clock) :
      Turns s run sh (busy job since (.ask q next))
        ⟨busy job sh.clock (next answer), sh, [.question q answer]⟩
  | call {job : Job} {since : Nat} {c : SinkCall} {next : Option String → Work Ending}
      (now : Instant) (failure : Option String) (hs : since ≤ sh.clock) :
      Turns s run sh (busy job since (.call c next))
        ⟨busy job sh.clock (next failure), sh.write run now failure c, [.write c failure]⟩

theorem turns_of_grant {s : Setup} {run : Uuid} {sh : Shared} {job : Job} {since : Nat}
    {next : Except FetchError Session → Work Ending} {t : Turn} (hs : since ≤ sh.clock)
    (h : grant sh job next = some t) : Turns s run sh (busy job since (.acquire next)) t := by
  unfold grant at h
  split at h
  · rename_i pool session hp
    cases h
    exact .parked hs hp
  · rename_i pool session hp
    cases h
    exact .toOpen hs hp
  · cases h

theorem turns_of_goOn {s : Setup} {run : Uuid} {sh : Shared} {job : Job} {since : Nat}
    {work : Work Ending} {m : Move} {t : Turn} (hs : since ≤ sh.clock)
    (h : goOn s run sh job work m = some t) : Turns s run sh (busy job since work) t := by
  unfold goOn at h
  split at h
  case h_1 host next draw =>
    cases h
    exact .reserve draw hs
  case h_2 next => exact turns_of_grant hs h
  case h_3 session url next answer =>
    cases h
    exact .send answer hs
  case h_4 session next =>
    cases h
    exact .release hs
  case h_5 session next =>
    cases h
    exact .discard hs
  case h_6 q next answer =>
    cases h
    exact .ask answer hs
  case h_7 c next now failure =>
    cases h
    exact .call now failure hs
  case h_8 => cases h

/-- Every move that a worker can make is one of `Turns`. -/
theorem turns_of_turn {s : Setup} {run : Uuid} {sh : Shared} {w : Worker} {m : Move} {t : Turn}
    (h : w.turn? s run sh m = some t) : Turns s run sh w t := by
  unfold turn? at h
  split at h
  case h_1 job since work m =>
    split at h
    · rename_i hs
      exact turns_of_goOn hs h
    · cases h
  case h_2 job session next =>
    cases h
    exact .opened
  case h_3 job session next e =>
    cases h
    exact .failed e
  case h_4 job session url deadline answer next =>
    cases h
    exact .receive
  case h_5 job session url deadline answer next =>
    split at h
    · rename_i hd
      cases h
      exact .cut hd
    · cases h
  case h_6 => cases h

end Worker

end Scorebook.Ingest
