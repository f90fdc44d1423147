import Scorebook.Ingest.Run

/-!
# Tidy work

A piece of work holds at most one session, from when it is granted until it gives it back or drops
it.  `Work.Tidy` says so of all that the work may come to, and that a session is dropped at once
after a failure that another attempt may mend.  The work on a game is tidy from its parts.
-/

namespace Scorebook.Ingest

/-! ### Sessions in a piece of work -/

/-- The session over which a fetch failed in a way that another attempt may mend. -/
def Exchange.spoiled? : Exchange → Option Session
  | .page s _ (.error e) => if e.isRetryable then some s else none
  | _ => none

def Exchange.used? : Exchange → Option Session
  | .page s _ _ => some s
  | _ => none

theorem Exchange.used_of_spoiled {x : Exchange} {s : Session} (h : x.spoiled? = some s) :
    x.used? = some s := by
  unfold spoiled? at h
  split at h
  · split at h
    · exact h
    · cases h
  · cases h

namespace Work
variable {α β : Type}

/-- The session that is held, as what is done next shows. -/
def held? : Work α → Option Session
  | fetch s _ _ => some s
  | release s _ => some s
  | discard s _ => some s
  | _ => none

/-- The session that is dropped next. -/
def dropping? : Work α → Option Session
  | discard s _ => some s
  | _ => none

/-- Each session is taken, used and given up in order, and dropped when it is spoiled. -/
def Tidy : Work α → Prop
  | done _ => True
  | reserve _ next => next.held? = none ∧ next.Tidy
  | acquire next => ∀ answer, (next answer).held? = answer.toOption ∧ (next answer).Tidy
  | fetch s url next => ∀ answer, (next answer).held? = some s ∧
      ((Exchange.page s url answer).spoiled? = some s → (next answer).dropping? = some s) ∧
      (next answer).Tidy
  | release _ next => next.held? = none ∧ next.Tidy
  | discard _ next => next.held? = none ∧ next.Tidy
  | ask _ next => ∀ answer, (next answer).held? = none ∧ (next answer).Tidy
  | call _ next => ∀ failure, (next failure).held? = none ∧ (next failure).Tidy

/-- Tidy work that begins without a session. -/
structure Neat (w : Work α) : Prop where
  held : w.held? = none
  tidy : w.Tidy

theorem held_of_dropping {w : Work α} {s : Session} (h : w.dropping? = some s) :
    w.held? = some s := by
  cases w with
  | discard s' next => exact h
  | _ => cases h

theorem held_bind {w : Work α} {f : α → Work β} (hf : ∀ a, (f a).held? = none) :
    (w.bind f).held? = w.held? := by
  cases w with
  | done a => exact hf a
  | _ => rfl

theorem dropping_bind {w : Work α} {f : α → Work β} {s : Session} (h : w.dropping? = some s) :
    (w.bind f).dropping? = some s := by
  cases w with
  | discard s' next => exact h
  | _ => cases h

theorem Tidy.bind {w : Work α} {f : α → Work β} (hw : w.Tidy) (hf : ∀ a, (f a).Neat) :
    (w.bind f).Tidy := by
  have hheld : ∀ v : Work α, (v.bind f).held? = v.held? :=
    fun v => held_bind fun a => (hf a).held
  induction w with
  | done a => exact (hf a).tidy
  | reserve host next ih => exact ⟨(hheld next).trans hw.1, ih hw.2⟩
  | acquire next ih =>
    intro answer
    obtain ⟨hnext, htidy⟩ := hw answer
    exact ⟨(hheld (next answer)).trans hnext, ih answer htidy⟩
  | fetch s url next ih =>
    intro answer
    obtain ⟨hnext, hdrop, htidy⟩ := hw answer
    exact ⟨(hheld (next answer)).trans hnext, fun hs => dropping_bind (hdrop hs), ih answer htidy⟩
  | release s next ih => exact ⟨(hheld next).trans hw.1, ih hw.2⟩
  | discard s next ih => exact ⟨(hheld next).trans hw.1, ih hw.2⟩
  | ask q next ih =>
    intro answer
    obtain ⟨hnext, htidy⟩ := hw answer
    exact ⟨(hheld (next answer)).trans hnext, ih answer htidy⟩
  | call c next ih =>
    intro failure
    obtain ⟨hnext, htidy⟩ := hw failure
    exact ⟨(hheld (next failure)).trans hnext, ih failure htidy⟩

theorem Neat.bind {w : Work α} {f : α → Work β} (hw : w.Neat) (hf : ∀ a, (f a).Neat) :
    (w.bind f).Neat :=
  ⟨(held_bind fun a => (hf a).held).trans hw.held, hw.tidy.bind hf⟩

theorem neat_done (a : α) : (done a).Neat := ⟨rfl, trivial⟩

theorem neat_ask {q : RosterQuery} {next : Except String (List Candidate) → Work α}
    (h : ∀ answer, (next answer).Neat) : (ask q next).Neat :=
  ⟨rfl, fun answer => ⟨(h answer).held, (h answer).tidy⟩⟩

theorem neat_call {c : SinkCall} {next : Option String → Work α}
    (h : ∀ failure, (next failure).Neat) : (call c next).Neat :=
  ⟨rfl, fun failure => ⟨(h failure).held, (h failure).tidy⟩⟩

end Work

/-! ### The work on a game is tidy -/

theorem neat_fetchPage (url : String) : (fetchPage url).Neat := by
  refine ⟨rfl, rfl, ?_⟩
  intro session
  cases session with
  | error e => exact ⟨rfl, trivial⟩
  | ok s =>
    refine ⟨rfl, ?_⟩
    intro answer
    cases answer with
    | ok markup => exact ⟨rfl, nofun, rfl, trivial⟩
    | error e =>
      by_cases hr : e.isRetryable
      · simp only [hr, if_true]
        exact ⟨rfl, fun _ => rfl, rfl, trivial⟩
      · simp only [hr]
        refine ⟨rfl, ?_, rfl, trivial⟩
        simp [Exchange.spoiled?, hr]

theorem neat_fetchLineup (s : Setup) (g : GameId) : (fetchLineup s g).Neat := by
  unfold fetchLineup
  split
  · exact (neat_fetchPage _).bind fun _ => Work.neat_done _
  · exact Work.neat_done _

theorem neat_seekRow (r : Resolver String) (lineup : Lineup) (gameId : String) (season : Int)
    (side : Side) (a : Appearance) : (seekRow r lineup gameId season side a).Neat := by
  unfold seekRow
  split
  · exact Work.neat_done _
  · exact Work.neat_ask fun _ => Work.neat_done _

theorem neat_seekRows
    {work : Side → Appearance → Work (Except String (Appearance × List ReviewItem))}
    (hwork : ∀ side a, (work side a).Neat) (rows : List (Side × Appearance)) :
    (seekRows work rows).Neat := by
  induction rows with
  | nil => exact Work.neat_done _
  | cons row rows ih =>
    obtain ⟨side, a⟩ := row
    rw [seekRows]
    split
    · apply (hwork side a).bind
      intro found
      cases found with
      | error e => exact Work.neat_done _
      | ok p => exact ih.bind fun _ => Work.neat_done _
    · exact ih.bind fun _ => Work.neat_done _

theorem neat_seekPlayers (r : Resolver String) (lineup : Lineup) (b : BoxScore) :
    (seekPlayers r lineup b).Neat := by
  unfold seekPlayers
  split
  · exact Work.neat_done _
  · exact (neat_seekRows (neat_seekRow r lineup b.gameId _) _).bind fun _ => Work.neat_done _

theorem neat_inspect (s : Setup) (g : GameId) (lineup : Lineup) (markup : String) :
    (inspect s g lineup markup).Neat := by
  unfold inspect
  split
  · exact (neat_seekPlayers s.resolver lineup _).bind fun _ => Work.neat_done _
  · exact Work.neat_done _
  · exact Work.neat_done _

theorem neat_flagAll (review : List ReviewItem) (outcome : GameOutcome) :
    (flagAll review outcome).Neat := by
  unfold flagAll
  split
  · exact Work.neat_done _
  · apply Work.neat_call
    intro failure
    cases failure with
    | some e => exact Work.neat_done _
    | none => exact Work.neat_done _

theorem neat_keepVerdict (v : Verdict) : (keepVerdict v).Neat := by
  cases v with
  | noData => exact Work.neat_done _
  | failed e => exact Work.neat_done _
  | keep b v review =>
    rw [keepVerdict]
    split
    all_goals
      apply Work.neat_call
      intro failure
      cases failure with
      | some e => exact Work.neat_done _
      | none => exact neat_flagAll _ _

theorem neat_settle (s : Setup) (g : GameId) (lineup : Lineup) (a : Answer) :
    (settle s g lineup a).Neat := by
  cases a with
  | error e => exact Work.neat_done _
  | ok markup =>
    apply (neat_inspect s g lineup markup).bind
    intro v
    exact (neat_keepVerdict v).bind fun _ => Work.neat_done _

theorem neat_attempt (s : Setup) (g : GameId) : (attempt s g).Neat := by
  apply (neat_fetchLineup s g).bind
  intro lineup
  exact (neat_fetchPage _).bind (neat_settle s g lineup)

theorem neat_workOn (s : Setup) (job : Job) : (workOn s job).Neat := by
  apply (neat_attempt s job.game).bind
  intro a
  cases a with
  | settled outcome => exact Work.neat_call fun _ => Work.neat_done _
  | retry e =>
    rw [conclude]
    split
    · exact Work.neat_done _
    · exact Work.neat_call fun _ => Work.neat_done _

end Scorebook.Ingest
