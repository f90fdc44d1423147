import Scorebook.Ingest.Work
import Scorebook.Throttle

/-!
# A run

A run works through the games of a batch with a number of workers.  Its state says where every game
is: on the queue, with a worker, waiting for another attempt, or reported but not collected.  What
happens is cut into events, each a single step of one party: a worker, a timer, the collector of
results, or the clock.  An event carries what the surroundings decide (the draw of a delay, the
answer to a fetch or to a question, the failure of a write), so a list of events is one way in which
a run can go, and any order of enabled events is possible.  `Run.dealings` tells what an event
exchanges with the surroundings.

Times are in milliseconds.
-/

namespace Scorebook.Ingest
open Text

/-- What the workers share.  It outlives a run. -/
structure Shared where
  pool : SessionPool
  throttle : Throttle
  clock : Nat
  store : Store

def Shared.initial (s : Settings) (store : Store) : Shared :=
  ⟨.ofSize s.workerCount, .ofSpacing s.spacing, 0, store⟩

/-- A write is carried out, unless it fails. -/
def Shared.write (sh : Shared) (run : Uuid) (now : Instant) (failure : Option String)
    (c : SinkCall) : Shared :=
  match failure with
  | some _ => sh
  | none => { sh with store := c.perform run now sh.store }

/-- What is exchanged with the surroundings: a request and its answer. -/
inductive Exchange where
  | slot (host : String)
  | session (answer : Except FetchError Session)
  | page (s : Session) (url : String) (answer : Answer)
  | released (s : Session)
  | discarded (s : Session)
  | question (q : RosterQuery) (answer : Except String (List Candidate))
  | write (c : SinkCall) (failure : Option String)

/-! ### Workers -/

inductive Worker where
  | idle
  /-- At work on a job, and able to go on from a time on. -/
  | busy (job : Job) (since : Nat) (work : Work Ending)
  /-- Opening a session. -/
  | opening (job : Job) (s : Session) (next : Except FetchError Session → Work Ending)
  /-- Waiting for the answer to a fetch, which may never come, until the deadline. -/
  | fetching (job : Job) (s : Session) (url : String) (deadline : Nat) (answer : Option Answer)
      (next : Answer → Work Ending)
  /-- Gone, since no job can come any more. -/
  | stopped

/-- What a worker does next with its job, with what the surroundings decide. -/
inductive Move where
  /-- Reserves a slot and sleeps until then. -/
  | reserve (draw : Nat)
  /-- Is granted a session or the right to open one. -/
  | acquire
  /-- Has opened a session or failed to. -/
  | opened (failure : Option FetchError)
  /-- Sends a request; the answer is what will come back, if anything. -/
  | send (answer : Option Answer)
  /-- Receives the answer. -/
  | receive
  /-- Gives the answer up, which has not come in time. -/
  | cut
  /-- Gives back or drops its session. -/
  | giveBack
  /-- Asks the roster. -/
  | ask (answer : Except String (List Candidate))
  /-- Writes to the store. -/
  | call (now : Instant) (failure : Option String)

/-- What a move of a worker leads to. -/
structure Turn where
  worker : Worker
  shared : Shared
  /-- The exchange that the move completes, if any. -/
  exchanged : List Exchange

namespace Worker

def job? : Worker → Option Job
  | idle => none
  | busy job _ _ => some job
  | opening job _ _ => some job
  | fetching job _ _ _ _ _ => some job
  | stopped => none

def isGone : Worker → Bool
  | stopped => true
  | _ => false

/-- What a worker gets that asks for a session: a parked one at once, or the right to open one. -/
def grant (sh : Shared) (job : Job) (next : Except FetchError Session → Work Ending) :
    Option Turn :=
  match sh.pool.acquire with
  | (pool, .parked session) =>
    some ⟨busy job sh.clock (next (.ok session)), { sh with pool := pool },
      [.session (.ok session)]⟩
  | (pool, .toOpen session) => some ⟨opening job session next, { sh with pool := pool }, []⟩
  | (_, .blocked) => none

def goOn (s : Setup) (run : Uuid) (sh : Shared) (job : Job) : Work Ending → Move → Option Turn
  | .reserve host next, .reserve draw =>
    some ⟨busy job (sh.throttle.nextSlot sh.clock draw host) next,
      { sh with throttle := sh.throttle.reserve sh.clock draw host }, [.slot host]⟩
  | .acquire next, .acquire => grant sh job next
  | .fetch session url next, .send answer =>
    some ⟨fetching job session url (sh.clock + s.settings.timeout) answer next, sh, []⟩
  | .release session next, .giveBack =>
    some ⟨busy job sh.clock next, { sh with pool := sh.pool.release session },
      [.released session]⟩
  | .discard session next, .giveBack =>
    some ⟨busy job sh.clock next, { sh with pool := sh.pool.discard session },
      [.discarded session]⟩
  | .ask q next, .ask answer => some ⟨busy job sh.clock (next answer), sh, [.question q answer]⟩
  | .call c next, .call now failure =>
    some ⟨busy job sh.clock (next failure), sh.write run now failure c, [.write c failure]⟩
  | _, _ => none

/-- A move of a worker; `none` when it cannot make it. -/
def turn? (s : Setup) (run : Uuid) (sh : Shared) : Worker → Move → Option Turn
  | busy job since work, m => if since ≤ sh.clock then goOn s run sh job work m else none
  | opening job session next, .opened none =>
    some ⟨busy job sh.clock (next (.ok session)), { sh with pool := sh.pool.opened session },
      [.session (.ok session)]⟩
  | opening job session next, .opened (some e) =>
    some ⟨busy job sh.clock (next (.error e)), { sh with pool := sh.pool.abandon session },
      [.session (.error e)]⟩
  | fetching job session url _ (some answer) next, .receive =>
    some ⟨busy job sh.clock (next answer), sh, [.page session url answer]⟩
  | fetching job session url deadline _ next, .cut =>
    if deadline ≤ sh.clock then
      some ⟨busy job sh.clock (next (.error .timeout)), sh, [.page session url (.error .timeout)]⟩
    else none
  | _, _ => none

end Worker

/-! ### The state of a run -/

/-- A job that waits for its next attempt. -/
structure Timer where
  due : Nat
  job : Job

structure Run where
  id : Uuid
  shared : Shared
  /-- Results of refused identifiers that are not recorded yet. -/
  refused : List GameResult
  queue : List Job
  workers : List Worker
  timers : List Timer
  /-- Results that are reported but not collected. -/
  done : List GameResult
  /-- How many results are still to be collected. -/
  pending : Nat
  /-- The results so far. -/
  results : List GameResult
  summary : RunSummary
  ended : Bool

/-- The identifiers of a batch: trimmed, without blank ones, each once. -/
def batchIds (ids : List String) : List String :=
  ((ids.map trimmed).filter (· ≠ "")).eraseDups

def refusal? (id : String) : Option GameResult :=
  match GameId.decode id with
  | .ok _ => none
  | .error e => some ⟨id, 0, .failed e.message⟩

def firstJob? (id : String) : Option Job :=
  match GameId.decode id with
  | .ok g => some ⟨g, 1⟩
  | .error _ => none

/-- A run over a batch of identifiers with so many workers at most, before its first event. -/
def Run.startWith (workers : Nat) (id : Uuid) (now : Instant) (shared : Shared)
    (ids : List String) : Run :=
  let jobs := (batchIds ids).filterMap firstJob?
  { id := id
    shared := shared
    refused := (batchIds ids).filterMap refusal?
    queue := jobs
    workers := List.replicate (min workers jobs.length) .idle
    timers := []
    done := []
    pending := jobs.length
    results := []
    summary := .blank id now
    ended := false }

/-- A run over a batch of identifiers with the workers of the settings. -/
def Run.start (s : Setup) (id : Uuid) (now : Instant) (shared : Shared) (ids : List String) :
    Run :=
  startWith s.settings.workerCount id now shared ids

/-! ### Events -/

/-- What can happen in a run.  Workers and timers are given by their place. -/
inductive Event where
  /-- The clock moves on. -/
  | tick (clock : Nat)
  /-- The next refused identifier is recorded. -/
  | refuse (now : Instant) (failure : Option String)
  /-- An idle worker takes a job off the queue. -/
  | take (worker : Nat)
  /-- A worker goes on with its job. -/
  | move (worker : Nat) (m : Move)
  /-- A worker is done with its job. -/
  | handOver (worker : Nat)
  /-- A job goes back on the queue. -/
  | fire (timer : Nat)
  /-- An idle worker finds that no job can come any more. -/
  | stop (worker : Nat)
  /-- A result is collected. -/
  | collect
  /-- The run is recorded and ends. -/
  | finish (now : Instant) (failure : Option String)

/-- What a run exchanges with the surroundings, on its own or for a job. -/
structure Dealing where
  job : Option Job
  exchange : Exchange

namespace Run

def clock (r : Run) : Nat := r.shared.clock

def put (r : Run) (i : Nat) (w : Worker) : Run := { r with workers := r.workers.set i w }

/-- The run with a write of its own carried out, unless it fails. -/
def write (r : Run) (now : Instant) (failure : Option String) (c : SinkCall) : Run :=
  { r with shared := r.shared.write r.id now failure c }

def addResult (r : Run) (g : GameResult) : Run :=
  { r with results := r.results ++ [g], summary := r.summary.count g.outcome.status }

def closing (r : Run) (now : Instant) : RunSummary := { r.summary with finished := now }

/-- How many may still put a job on the queue: the run itself until it ends, every worker that is
not gone, and every timer. -/
def senders (r : Run) : Nat :=
  (if r.ended then 0 else 1) + (r.workers.filter fun w => !w.isGone).length + r.timers.length

/-- Whether no worker is left to report what is pending. -/
def isAbandoned (r : Run) : Bool := r.workers.all Worker.isGone && r.done.isEmpty

def turn? (s : Setup) (r : Run) (i : Nat) (m : Move) : Option Turn :=
  r.workers[i]?.bind fun w => w.turn? s r.id r.shared m

/-- What the end of a job leads to: a result is reported, or the job waits for another attempt. -/
def conclude (s : Setup) (r : Run) (job : Job) : Ending → Run
  | .finished g => { r with done := r.done ++ [g] }
  | .again =>
    let timer : Timer :=
      ⟨r.clock + s.settings.retry.wait job.attempt, { job with attempt := job.attempt + 1 }⟩
    { r with timers := r.timers ++ [timer] }

/-- The run after an event; `none` when the event cannot happen. -/
def step (s : Setup) (r : Run) (e : Event) : Option Run :=
  if r.ended then none
  else match e with
  | .tick clock =>
    if r.clock ≤ clock then some { r with shared := { r.shared with clock := clock } } else none
  | .refuse now failure =>
    match r.refused with
    | [] => none
    | g :: rest => some { (r.write now failure (.outcome g)).addResult g with refused := rest }
  | .take i =>
    match r.workers[i]?, r.queue, r.refused with
    | some .idle, job :: queue, [] =>
      some ({ r with queue := queue }.put i (.busy job r.clock (workOn s job)))
    | _, _, _ => none
  | .move i m => (r.turn? s i m).map fun t => { r with shared := t.shared }.put i t.worker
  | .handOver i =>
    match r.workers[i]? with
    | some (.busy job since (.done ending)) =>
      if since ≤ r.clock then some ((r.conclude s job ending).put i .idle) else none
    | _ => none
  | .fire i =>
    match r.timers[i]? with
    | some timer =>
      if timer.due ≤ r.clock then
        some { r with queue := r.queue ++ [timer.job], timers := r.timers.eraseIdx i }
      else none
    | none => none
  | .stop i =>
    match r.workers[i]?, r.queue with
    | some .idle, [] => if r.senders = 0 then some (r.put i .stopped) else none
    | _, _ => none
  | .collect =>
    match r.done with
    | [] => none
    | g :: rest =>
      if r.pending = 0 then none
      else some { r.addResult g with done := rest, pending := r.pending - 1 }
  | .finish now failure =>
    if r.refused.isEmpty && (r.pending == 0 || r.isAbandoned) then
      some { r.write now failure (.run (r.closing now)) with
        summary := r.closing now, ended := true }
    else none

def dealings (s : Setup) (r : Run) : Event → List Dealing
  | .refuse _ failure =>
    (r.refused.take 1).map fun g => ⟨none, .write (.outcome g) failure⟩
  | .move i m =>
    match r.turn? s i m with
    | some t => t.exchanged.map fun x => ⟨t.worker.job?, x⟩
    | none => []
  | .finish now failure => [⟨none, .write (.run (r.closing now)) failure⟩]
  | _ => []

def report (r : Run) : Report := .ofResults r.summary r.results

end Run

end Scorebook.Ingest
