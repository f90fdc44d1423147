import Scorebook.Fetch
import Scorebook.Ingest.Examination
import Scorebook.Ingest.Outcome
import Scorebook.SessionPool
import Scorebook.Store.Basic
import Scorebook.Url.Host

/-!
# The work on a game

An attempt at a game fetches its lineup page, if that is wanted, and its review page, examines what
came, asks the roster for the players that are not known, and keeps the record.  `Work` is such a
piece of work as a tree: every node asks the surroundings for one thing and goes on with the answer.
Nothing is done before it is asked for, so a piece of work can be carried out, interrupted and
interleaved with others in any way.

The lineup page is best effort: whatever happens to it, the review page is fetched.  Review items
are flagged only when the game itself was kept.
-/

namespace Scorebook.Ingest

inductive SinkCall where
  | save (b : BoxScore) (v : Validation)
  | setAside (b : BoxScore) (v : Validation)
  | flag (items : List ReviewItem)
  | outcome (r : GameResult)
  | run (s : RunSummary)

def SinkCall.perform (run : Uuid) (now : Instant) (s : Store) : SinkCall → Store
  | .save b v => s.save b v now
  | .setAside b v => s.setAside b v now
  | .flag items => s.flag items now
  | .outcome r => s.recordOutcome (r.record run now)
  | .run summary => s.recordRun summary

abbrev Answer := Except FetchError String

/-- A piece of work that ends with a value. -/
inductive Work (α : Type) where
  | done (a : α)
  /-- Reserves the next slot of a host and waits for it. -/
  | reserve (host : String) (next : Work α)
  /-- Asks for a session; opening one may fail. -/
  | acquire (next : Except FetchError Session → Work α)
  /-- Fetches a page over a session. -/
  | fetch (s : Session) (url : String) (next : Answer → Work α)
  /-- Gives a session back, to be used again. -/
  | release (s : Session) (next : Work α)
  /-- Drops a session. -/
  | discard (s : Session) (next : Work α)
  /-- Asks the roster, which may fail; a failure is given by its wording. -/
  | ask (q : RosterQuery) (next : Except String (List Candidate) → Work α)
  /-- Writes to the store; the answer is the wording of a failure. -/
  | call (c : SinkCall) (next : Option String → Work α)

namespace Work

def bind {α β : Type} (w : Work α) (f : α → Work β) : Work β :=
  match w with
  | done a => f a
  | reserve host next => reserve host (next.bind f)
  | acquire next => acquire fun s => (next s).bind f
  | fetch s url next => fetch s url fun a => (next a).bind f
  | release s next => release s (next.bind f)
  | discard s next => discard s (next.bind f)
  | ask q next => ask q fun a => (next a).bind f
  | call c next => call c fun e => (next e).bind f

@[simp] theorem done_bind {α β : Type} (a : α) (f : α → Work β) :
    (done a).bind f = f a := rfl

theorem bind_assoc {α β γ : Type} (w : Work α) (f : α → Work β) (g : β → Work γ) :
    (w.bind f).bind g = w.bind fun a => (f a).bind g := by
  induction w with
  | done a => rfl
  | reserve host next ih => simp only [bind, ih]
  | acquire next ih => simp only [bind, ih]
  | fetch s url next ih => simp only [bind, ih]
  | release s next ih => simp only [bind, ih]
  | discard s next ih => simp only [bind, ih]
  | ask q next ih => simp only [bind, ih]
  | call c next ih => simp only [bind, ih]

end Work

structure Job where
  game : GameId
  /-- The number of the attempt, from one. -/
  attempt : Nat

inductive Attempt where
  | settled (outcome : GameOutcome)
  /-- Another attempt may help. -/
  | retry (error : FetchError)

inductive Ending where
  | finished (result : GameResult)
  /-- The job goes back on the queue after a wait. -/
  | again

/-- Fetches a page in the slot of its host.  The session is used again unless the failure is one
that another attempt may mend. -/
def fetchPage (url : String) : Work Answer :=
  .reserve (Url.host url) <| .acquire fun
    | .error e => .done (.error e)
    | .ok session => .fetch session url fun
      | .ok markup => .release session (.done (.ok markup))
      | .error e =>
        if e.isRetryable then .discard session (.done (.error e))
        else .release session (.done (.error e))

/-- The lineup on the page that came, if one did. -/
def lineupIn : Answer → Lineup
  | .ok markup => Lineup.ofMarkup markup
  | .error _ => .empty

/-- The lineup of a game: empty when it is not wanted or its page does not come. -/
def fetchLineup (s : Setup) (g : GameId) : Work Lineup :=
  if s.settings.fetchLineup then
    (fetchPage (g.lineupUrl s.settings.baseUrl)).bind fun a => .done (lineupIn a)
  else .done .empty

/-- Works on one pending row as `Resolver.resolveRow` does. -/
def seekRow (r : Resolver String) (lineup : Lineup) (gameId : String) (season : Int) (side : Side)
    (a : Appearance) : Work (Except String (Appearance × List ReviewItem)) :=
  match Resolver.onLineup? lineup a with
  | some (player, uniform) => .done (.ok (Resolver.fill a player uniform, []))
  | none =>
    .ask (r.question a.name (a.team.getD "") season) fun found =>
      .done (found.map fun cs => Resolver.decided gameId season side a (.ofCandidates cs a.uniform))

/-- Works on appearances in order as `Resolver.resolveRows` does. -/
def seekRows (work : Side → Appearance → Work (Except String (Appearance × List ReviewItem))) :
    List (Side × Appearance) → Work (Resolver.Pass String (List Appearance))
  | [] => .done ⟨[], [], none⟩
  | (side, a) :: rest =>
    if Resolver.isPending a then
      (work side a).bind fun
        | .error e => .done ⟨a :: rest.map Prod.snd, [], some e⟩
        | .ok (a', items) => (seekRows work rest).bind fun p =>
          .done ⟨a' :: p.rows, items ++ p.items, p.failure⟩
    else (seekRows work rest).bind fun p => .done ⟨a :: p.rows, p.items, p.failure⟩

/-- Fills the rows of a box score as `Resolver.resolveBoxScore` does, asking the roster where the
lineup does not decide. -/
def seekPlayers (r : Resolver String) (lineup : Lineup) (b : BoxScore) :
    Work (Resolver.Pass String BoxScore) :=
  match b.season? with
  | none => .done ⟨b, [], none⟩
  | some season =>
    (seekRows (seekRow r lineup b.gameId season) b.appearances).bind fun p =>
      .done ⟨b.withAppearances p.rows, p.items, p.failure⟩

/-- Examines a page of markup as `examine` does, asking the roster on the way. -/
def inspect (s : Setup) (g : GameId) (lineup : Lineup) (markup : String) : Work Verdict :=
  match Page.extract s.history (Page.ofMarkup markup) g.text (some g.date) with
  | .ok b => (seekPlayers s.resolver lineup b).bind fun found => .done (verdictOn s g b found)
  | .error .noLayout => .done .noData
  | .error e => .done (.failed e.message)

def storeFailure (error : String) : GameOutcome := .failed ("store error: " ++ error)

/-- Flags items for review, if there are any, before an outcome. -/
def flagAll (review : List ReviewItem) (outcome : GameOutcome) : Work GameOutcome :=
  if review.isEmpty then .done outcome
  else .call (.flag review) fun
    | some e => .done (storeFailure e)
    | none => .done outcome

/-- Keeps what a verdict says: a valid game is accepted, another one set aside. -/
def keepVerdict : Verdict → Work GameOutcome
  | .noData => .done .noData
  | .failed e => .done (.failed e)
  | .keep b v review =>
    if v.isValid then
      .call (.save b v) fun
        | some e => .done (storeFailure e)
        | none => flagAll review (.accepted v.warnings)
    else
      .call (.setAside b v) fun
        | some e => .done (storeFailure e)
        | none => flagAll review (.quarantined v.errors)

/-- What follows from the answer for the review page. -/
def settle (s : Setup) (g : GameId) (lineup : Lineup) : Answer → Work Attempt
  | .ok markup =>
    (inspect s g lineup markup).bind fun v =>
      (keepVerdict v).bind fun outcome => .done (.settled outcome)
  | .error e =>
    .done (if e.isRetryable then .retry e else .settled (.failed e.message))

def attempt (s : Setup) (g : GameId) : Work Attempt :=
  (fetchLineup s g).bind fun lineup =>
    (fetchPage (g.reviewUrl s.settings.baseUrl)).bind (settle s g lineup)

/-- Records a result; a failure to do so changes nothing. -/
def finish (r : GameResult) : Work Ending := .call (.outcome r) fun _ => .done (.finished r)

def conclude (s : Setup) (job : Job) : Attempt → Work Ending
  | .settled outcome => finish ⟨job.game.text, job.attempt, outcome⟩
  | .retry e =>
    if job.attempt < s.settings.retry.maxAttempts then .done .again
    else finish ⟨job.game.text, job.attempt, .failedTransient job.attempt e.message⟩

def workOn (s : Setup) (job : Job) : Work Ending :=
  (attempt s job.game).bind (conclude s job)

end Scorebook.Ingest
