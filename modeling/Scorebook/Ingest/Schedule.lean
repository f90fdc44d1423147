import Scorebook.Ingest.Run

/-!
# Carrying out a run

One way for a run to go: every party goes on until it has to wait, the workers in their order, and
the clock moves only when all wait.  `Run.need` says what is to happen next and what the
surroundings are asked for; `Surroundings` answers in any monad, so that a run can be carried out by
a program and by a pure function alike.
-/

namespace Scorebook.Ingest

structure Surroundings (m : Type → Type) where
  /-- The draw for the delay between requests. -/
  draw : m Nat
  /-- Opens a session; the answer is a failure. -/
  openSession : Session → m (Option FetchError)
  /-- Fetches a page over a session; without an answer the fetch is cut at its deadline. -/
  fetch : Session → String → m (Option Answer)
  /-- Whether a write fails, and with which wording. -/
  failure : SinkCall → m (Option String)
  now : m Instant
  /-- Waits until a time, and tells which time it is then. -/
  sleepUntil : Nat → m Nat

/-- What is to happen next in a run. -/
inductive Need where
  | event (e : Event)
  | draw (worker : Nat)
  | session (worker : Nat) (s : Session)
  | page (worker : Nat) (s : Session) (url : String)
  | write (worker : Nat) (c : SinkCall)
  | refusal (c : SinkCall)
  | time (clock : Nat)
  | closing (c : SinkCall)
  | nothing

def earlier : Option Nat → Option Nat → Option Nat
  | some a, some b => some (min a b)
  | some a, none => some a
  | none, b => b

namespace Worker

/-- What a worker needs to go on; none when it has to wait. -/
def need? (r : Run) (i : Nat) : Worker → Option Need
  | idle => if r.queue.isEmpty then none else some (.event (.take i))
  | stopped => none
  | busy _ since work =>
    if r.clock < since then none
    else match work with
    | .done _ => some (.event (.handOver i))
    | .reserve _ _ => some (.draw i)
    | .acquire _ => if r.shared.pool.free = 0 then none else some (.event (.move i .acquire))
    | .fetch s url _ => some (.page i s url)
    | .release _ _ => some (.event (.move i .giveBack))
    | .discard _ _ => some (.event (.move i .giveBack))
    | .ask _ _ => none
    | .call c _ => some (.write i c)
  | opening _ s _ => some (.session i s)
  | fetching _ _ _ deadline answer _ =>
    if answer.isSome then some (.event (.move i .receive))
    else if deadline ≤ r.clock then some (.event (.move i .cut))
    else none

/-- The time at which a waiting worker can go on, if the clock decides. -/
def wakes? (clock : Nat) : Worker → Option Nat
  | busy _ since _ => if clock < since then some since else none
  | fetching _ _ _ deadline none _ => some deadline
  | _ => none

end Worker

namespace Run

/-- What the first worker needs that can go on. -/
def workerNeed? (r : Run) : Option Need :=
  r.workers.zipIdx.findSome? fun (w, i) => w.need? r i

def dueTimer? (r : Run) : Option Nat := r.timers.findIdx? fun t => t.due ≤ r.clock

def nextTime? (r : Run) : Option Nat :=
  let workers := r.workers.map (·.wakes? r.clock)
  let timers := r.timers.map fun t => some t.due
  (workers ++ timers).foldl earlier none

def need (r : Run) : Need :=
  if r.ended then .nothing
  else match r.refused with
  | g :: _ => .refusal (.outcome g)
  | [] =>
    if !r.done.isEmpty then .event .collect
    else match r.dueTimer?, r.workerNeed?, r.nextTime? with
    | some i, _, _ => .event (.fire i)
    | none, some n, _ => n
    | none, none, some t => .time t
    | none, none, none => .closing (.run r.summary)

def eventFor {m : Type → Type} [Monad m] (w : Surroundings m) : Need → m (Option Event)
  | .event e => pure (some e)
  | .draw i => do return some (.move i (.reserve (← w.draw)))
  | .session i s => do return some (.move i (.opened (← w.openSession s)))
  | .page i s url => do return some (.move i (.send (← w.fetch s url)))
  | .write i c => do
    let failure ← w.failure c
    return some (.move i (.call (← w.now) failure))
  | .refusal c => do
    let failure ← w.failure c
    return some (.refuse (← w.now) failure)
  | .time t => do return some (.tick (← w.sleepUntil t))
  | .closing c => do
    let failure ← w.failure c
    return some (.finish (← w.now) failure)
  | .nothing => pure none

/-- The run after the roster has answered a worker for as long as it asks. -/
def answerFrom (s : Setup) (i : Nat) : Work Ending → Run → Run
  | .ask q next, r =>
    match r.step s (.move i (.ask (s.roster q))) with
    | some r => answerFrom s i (next (s.roster q)) r
    | none => r
  | _, r => r

/-- The run after the roster has answered the worker at a place. -/
def answerWorker (s : Setup) (r : Run) (i : Nat) : Run :=
  match r.workers[i]? with
  | some (.busy _ _ work) => r.answerFrom s i work
  | _ => r

/-- The run after the roster has answered every worker that asks. -/
def answerAll (s : Setup) (r : Run) : Run :=
  (List.range r.workers.length).foldl (answerWorker s) r

/-- Carries out at most so many events; questions to the roster are answered at once and do not
count. -/
def carryOn {m : Type → Type} [Monad m] (s : Setup) (w : Surroundings m) : Nat → Run → m Run
  | 0, r => pure r
  | fuel + 1, r => do
    match (← eventFor w r.need).bind (r.step s) with
    | some r => carryOn s w fuel (r.answerAll s)
    | none => pure r

/-- More events than an attempt at a game takes, those of the clock included. -/
def eventsPerAttempt : Nat := 64

def eventBound (s : Setup) (r : Run) : Nat :=
  r.refused.length + r.queue.length * s.settings.retry.maxAttempts * eventsPerAttempt + 2

def carryOut {m : Type → Type} [Monad m] (s : Setup) (w : Surroundings m) (id : Uuid)
    (shared : Shared) (ids : List String) : m Run := do
  let r := start s id (← w.now) shared ids
  carryOn s w (r.eventBound s) r

end Run

end Scorebook.Ingest
