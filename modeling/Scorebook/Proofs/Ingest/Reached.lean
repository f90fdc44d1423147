import Scorebook.Proofs.Ingest.Exchanges
import Scorebook.Proofs.Ingest.Turns

/-!
# What can happen in a run

`Run.Reached s start past r` says that a run that began as `start` can have come to `r`, with `past`
as its dealings with the surroundings so far.  It ranges over every order of events and every
answer.  `Run.Steps` lists what one event does, for use in proofs by induction on what happened.

A worker that holds a job has made some of the exchanges of the work on that job: `Worker.Resumes`
says so of a list of exchanges, and every turn of a worker keeps it.
-/

namespace Scorebook.Ingest
open Text

namespace Run

/-- What a run can come to, with its dealings on the way. -/
inductive Reached (s : Setup) (start : Run) : List Dealing → Run → Prop
  | start : Reached s start [] start
  | next {past : List Dealing} {r r' : Run} {e : Event} :
      Reached s start past r → r.step s e = some r' →
        Reached s start (past ++ r.dealings s e) r'

/-- What an event does to a run, and the dealings that it brings. -/
inductive Steps (s : Setup) (r : Run) : List Dealing → Run → Prop
  | tick {clock : Nat} (h : r.clock ≤ clock) :
      Steps s r [] { r with shared := { r.shared with clock := clock } }
  | refuse {now : Instant} {failure : Option String} {g : GameResult} {rest : List GameResult}
      (h : r.refused = g :: rest) :
      Steps s r [⟨none, .write (.outcome g) failure⟩]
        { (r.write now failure (.outcome g)).addResult g with refused := rest }
  | take {i : Nat} {job : Job} {queue : List Job} (hi : r.workers[i]? = some .idle)
      (hq : r.queue = job :: queue) (hr : r.refused = []) :
      Steps s r [] ({ r with queue := queue }.put i (.busy job r.clock (workOn s job)))
  | move {i : Nat} {m : Move} {w : Worker} {t : Turn} (hi : r.workers[i]? = some w)
      (ht : w.turn? s r.id r.shared m = some t) :
      Steps s r (t.exchanged.map fun x => ⟨t.worker.job?, x⟩)
        ({ r with shared := t.shared }.put i t.worker)
  | report {i : Nat} {job : Job} {since : Nat} {g : GameResult}
      (hi : r.workers[i]? = some (.busy job since (.done (.finished g)))) :
      Steps s r [] ({ r with done := r.done ++ [g] }.put i .idle)
  | wait {i : Nat} {job : Job} {since due : Nat}
      (hi : r.workers[i]? = some (.busy job since (.done .again))) :
      Steps s r []
        ({ r with timers := r.timers ++ [Timer.mk due { job with attempt := job.attempt + 1 }] }.put
          i .idle)
  | fire {i : Nat} {timer : Timer} (hi : r.timers[i]? = some timer) (hd : timer.due ≤ r.clock) :
      Steps s r [] { r with queue := r.queue ++ [timer.job], timers := r.timers.eraseIdx i }
  | stop {i : Nat} (hi : r.workers[i]? = some .idle) (hs : r.senders = 0) :
      Steps s r [] (r.put i .stopped)
  | collect {g : GameResult} {rest : List GameResult} (h : r.done = g :: rest)
      (hp : r.pending ≠ 0) :
      Steps s r [] { r.addResult g with done := rest, pending := r.pending - 1 }
  | finish {now : Instant} {failure : Option String} (hr : r.refused = [])
      (hp : r.pending = 0 ∨ r.isAbandoned = true) :
      Steps s r [⟨none, .write (.run (r.closing now)) failure⟩]
        { r.write now failure (.run (r.closing now)) with
          summary := r.closing now, ended := true }

/-- Nothing happens to a run that has ended, and every event before that is one of `Steps`. -/
theorem steps_of_step {s : Setup} {r r' : Run} {e : Event} (h : r.step s e = some r') :
    r.ended = false ∧ r.Steps s (r.dealings s e) r' := by
  unfold step at h
  split at h
  · cases h
  rename_i he
  refine ⟨by simpa using he, ?_⟩
  -- One case for each event, in the order of their declaration.
  split at h
  case h_1 clock =>
    split at h
    · rename_i hc
      cases h
      exact .tick hc
    · cases h
  case h_2 now failure =>
    split at h
    · cases h
    · rename_i g rest hg
      cases h
      simpa [dealings, hg] using Steps.refuse hg
  case h_3 i =>
    split at h
    · rename_i job queue hi hq hr
      cases h
      exact .take hi hq hr
    · cases h
  case h_4 i m =>
    obtain ⟨t, ht, rfl⟩ := Option.map_eq_some_iff.1 h
    obtain ⟨w, hw, hwt⟩ := Option.bind_eq_some_iff.1 ht
    simp only [dealings, ht]
    exact .move hw hwt
  case h_5 i =>
    split at h
    · rename_i job since ending hi
      split at h
      · cases h
        cases ending with
        | finished g => exact .report hi
        | again => exact .wait hi
      · cases h
    · cases h
  case h_6 i =>
    split at h
    · rename_i timer hi
      split at h
      · rename_i hd
        cases h
        exact .fire hi hd
      · cases h
    · cases h
  case h_7 i =>
    split at h
    · rename_i hi hq
      split at h
      · rename_i hs
        cases h
        exact .stop hi hs
      · cases h
    · cases h
  case h_8 =>
    split at h
    · cases h
    · rename_i g rest hg
      split at h
      · cases h
      · rename_i hp
        cases h
        exact .collect hg hp
  case h_9 now failure =>
    split at h
    · rename_i hc
      cases h
      simp only [Bool.and_eq_true, Bool.or_eq_true, List.isEmpty_iff, beq_iff_eq] at hc
      exact .finish hc.1 hc.2
    · cases h

/-- An invariant of runs: it holds at the start and every event keeps it. -/
theorem Reached.invariant {s : Setup} {start : Run} {P : List Dealing → Run → Prop}
    (h0 : P [] start)
    (hs : ∀ past r ds r', Reached s start past r → r.ended = false → r.Steps s ds r' →
      P past r → P (past ++ ds) r') {past : List Dealing} {r : Run}
    (h : Reached s start past r) : P past r := by
  induction h with
  | start => exact h0
  | next hr he ih =>
    obtain ⟨hn, hst⟩ := steps_of_step he
    exact hs _ _ _ _ hr hn hst ih

/-- The dealings and the run after events in order; `none` when one of them cannot happen. -/
def follow (s : Setup) (r : Run) : List Event → Option (List Dealing × Run)
  | [] => some ([], r)
  | e :: rest => do
    let r' ← r.step s e
    let (ds, last) ← r'.follow s rest
    some (r.dealings s e ++ ds, last)

theorem Reached.follow {s : Setup} {start r last : Run} {past ds : List Dealing} {es : List Event}
    (h : Reached s start past r) (he : r.follow s es = some (ds, last)) :
    Reached s start (past ++ ds) last := by
  induction es generalizing past r ds with
  | nil =>
    cases he
    rwa [List.append_nil]
  | cons e rest ih =>
    obtain ⟨r', hr, he⟩ := Option.bind_eq_some_iff.1 he
    obtain ⟨⟨ds', last'⟩, hrest, he⟩ := Option.bind_eq_some_iff.1 he
    cases he
    rw [← List.append_assoc]
    exact ih (h.next hr) hrest

theorem follow_append {s : Setup} {r r' last : Run} {ds ds' : List Dealing} {es fs : List Event}
    (h : r.follow s es = some (ds, r')) (h' : r'.follow s fs = some (ds', last)) :
    r.follow s (es ++ fs) = some (ds ++ ds', last) := by
  induction es generalizing r ds with
  | nil =>
    cases h
    exact h'
  | cons e rest ih =>
    obtain ⟨next, hstep, h⟩ := Option.bind_eq_some_iff.1 h
    obtain ⟨⟨ds'', _⟩, hrest, h⟩ := Option.bind_eq_some_iff.1 h
    cases h
    have happended : next.follow s (rest ++ fs) = some (ds'' ++ ds', last) := ih hrest
    rw [List.cons_append, follow, hstep, Option.bind_eq_bind, Option.bind_some, happended,
      List.append_assoc]
    rfl

/-- What a run can come to is what it comes to by events in some order. -/
theorem reached_iff_follow {s : Setup} {start last : Run} {past : List Dealing} :
    Reached s start past last ↔ ∃ es, start.follow s es = some (past, last) := by
  constructor
  · intro h
    induction h with
    | start => exact ⟨[], rfl⟩
    | @next past r r' e hr hstep ih =>
      obtain ⟨es, hes⟩ := ih
      have hlast : r.follow s [e] = some (r.dealings s e, r') := by
        rw [follow, hstep]
        exact congrArg (fun ds => some (ds, r')) (List.append_nil _)
      exact ⟨es ++ [e], follow_append hes hlast⟩
  · rintro ⟨es, hes⟩
    exact Reached.start.follow hes

/-- The run after events, with its workers written in another way. -/
def resumed (s : Setup) (start : Run) (es : List Event) (ws : List Worker) : Run :=
  { ((start.follow s es).map Prod.snd).getD start with workers := ws }

theorem resumed_eq {s : Setup} {start r : Run} {es : List Event} {ws : List Worker}
    {past : List Dealing} (h : start.follow s es = some (past, r)) (hw : r.workers = ws) :
    resumed s start es ws = r := by
  rw [resumed, h, Option.map_some, Option.getD_some, ← hw]

end Run

/-! ### Workers -/

/-- What an exchange does to the store: a write that does not fail is carried out. -/
def Exchange.applyTo (run : Uuid) (now : Instant) (st : Store) : Exchange → Store
  | .write c none => c.perform run now st
  | _ => st

namespace Worker

def Continues : Worker → List Exchange → Ending → Prop
  | busy _ _ work, xs, a => work.Ends xs a
  | opening _ _ next, xs, a =>
    ∃ answer ys, xs = .session answer :: ys ∧ (next answer).Ends ys a
  | fetching _ session url _ _ next, xs, a =>
    ∃ answer ys, xs = .page session url answer :: ys ∧ (next answer).Ends ys a
  | _, _, _ => False

theorem exists_continues {w : Worker} {job : Job} (h : w.job? = some job) :
    ∃ xs a, w.Continues xs a := by
  cases w with
  | idle => cases h
  | stopped => cases h
  | busy _ _ work => exact work.exists_ends
  | opening _ _ next =>
    obtain ⟨xs, a, h⟩ := (next (.ok 0)).exists_ends
    exact ⟨_, a, _, xs, rfl, h⟩
  | fetching _ session url _ _ next =>
    obtain ⟨xs, a, h⟩ := (next (.ok "")).exists_ends
    exact ⟨_, a, _, xs, rfl, h⟩

/-- What a turn does: the worker keeps its job, the exchange of the turn comes before all later
ones, and only a write changes the store. -/
structure Turned (run : Uuid) (sh : Shared) (w : Worker) (t : Turn) : Prop where
  job : ∃ job, w.job? = some job ∧ t.worker.job? = some job
  continues : ∀ ys a, t.worker.Continues ys a → w.Continues (t.exchanged ++ ys) a
  clock : t.shared.clock = sh.clock
  store : ∃ now, t.shared.store = t.exchanged.foldl (Exchange.applyTo run now) sh.store

theorem turned_of_turn {s : Setup} {run : Uuid} {sh : Shared} {w : Worker} {m : Move} {t : Turn}
    (h : w.turn? s run sh m = some t) : Turned run sh w t := by
  cases turns_of_turn h with
  | @reserve job since host next draw hs =>
    exact ⟨⟨job, rfl, rfl⟩, fun ys a hy => ⟨ys, rfl, hy⟩, rfl, .epoch, rfl⟩
  | @toOpen job since next pool session hs hp =>
    exact ⟨⟨job, rfl, rfl⟩, fun ys a hy => hy, rfl, .epoch, rfl⟩
  | @send job since session url next answer hs =>
    exact ⟨⟨job, rfl, rfl⟩, fun ys a hy => hy, rfl, .epoch, rfl⟩
  | @release job since session next hs =>
    exact ⟨⟨job, rfl, rfl⟩, fun ys a hy => ⟨ys, rfl, hy⟩, rfl, .epoch, rfl⟩
  | @discard job since session next hs =>
    exact ⟨⟨job, rfl, rfl⟩, fun ys a hy => ⟨ys, rfl, hy⟩, rfl, .epoch, rfl⟩
  | @call job since c next now failure hs =>
    refine ⟨⟨job, rfl, rfl⟩, fun ys a hy => ⟨failure, ys, rfl, hy⟩, ?_, now, ?_⟩
    · cases failure <;> rfl
    · cases failure <;> rfl
  -- The other turns hand the answer of the exchange on to the work.
  | _ => exact ⟨⟨_, rfl, rfl⟩, fun ys a hy => ⟨_, ys, rfl, hy⟩, rfl, .epoch, rfl⟩

/-- The worker goes on with the work on a job after some of its exchanges. -/
def Resumes (s : Setup) (job : Job) (xs : List Exchange) (w : Worker) : Prop :=
  ∀ ys a, w.Continues ys a → (workOn s job).Ends (xs ++ ys) a

theorem Resumes.turn {s : Setup} {run : Uuid} {sh : Shared} {job : Job} {xs : List Exchange}
    {w : Worker} {t : Turn} (h : w.Resumes s job xs) (ht : Turned run sh w t) :
    t.worker.Resumes s job (xs ++ t.exchanged) := by
  intro ys a hy
  rw [List.append_assoc]
  exact h _ a (ht.continues ys a hy)

theorem resumes_taken (s : Setup) (job : Job) (since : Nat) :
    (busy job since (workOn s job)).Resumes s job [] := fun _ _ h => h

/-- A worker that is done with a job has made all of its exchanges. -/
theorem Resumes.ends {s : Setup} {job other : Job} {xs : List Exchange} {since : Nat}
    {ending : Ending} (h : (busy other since (.done ending)).Resumes s job xs) :
    (workOn s job).Ends xs ending := by
  have hends := h [] ending ⟨rfl, rfl⟩
  rwa [List.append_nil] at hends

end Worker

end Scorebook.Ingest
