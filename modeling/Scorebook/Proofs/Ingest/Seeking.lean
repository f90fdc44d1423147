import Scorebook.Proofs.BoxScore.Players
import Scorebook.Proofs.Ingest.Exchanges

/-!
# Seeking players

Players are sought by asking the roster, and by nothing else.  Whatever it answers, a record keeps
all but the players and uniform numbers of its rows, and what stays open are players, never teams.
A question that fails is the failure of the pass.
-/

namespace Scorebook.Ingest
open Text

namespace Work

variable {α β : Type}

/-! ### Questions -/

/-- All that the work does is to ask the roster. -/
def OnlyAsks : Work α → Prop
  | done _ => True
  | ask _ next => ∀ answer, (next answer).OnlyAsks
  | _ => False

theorem OnlyAsks.bind {w : Work α} {f : α → Work β} (hw : w.OnlyAsks)
    (hf : ∀ a, (f a).OnlyAsks) : (w.bind f).OnlyAsks := by
  induction w with
  | done a => exact hf a
  | ask q next ih => exact fun answer => ih answer (hw answer)
  | _ => cases hw

end Work

def Exchange.isQuestion : Exchange → Bool
  | .question .. => true
  | _ => false

/-- A call to the store and its failure. -/
def Exchange.call? : Exchange → Option (SinkCall × Option String)
  | .write c failure => some (c, failure)
  | _ => none

def questionsOf (xs : List Exchange) : List Exchange := xs.filter Exchange.isQuestion

/-- The calls to the store among exchanges, with their failures. -/
def callsOf (xs : List Exchange) : List (SinkCall × Option String) := xs.filterMap Exchange.call?

theorem Work.OnlyAsks.ends {α : Type} {w : Work α} {xs : List Exchange} {a : α}
    (hw : w.OnlyAsks) (h : w.Ends xs a) : questionsOf xs = xs ∧ callsOf xs = [] := by
  induction w generalizing xs with
  | done b =>
    obtain ⟨rfl, -⟩ := h
    exact ⟨rfl, rfl⟩
  | ask q next ih =>
    obtain ⟨answer, ys, rfl, h⟩ := h
    obtain ⟨hq, hc⟩ := ih answer (hw answer) h
    exact ⟨congrArg (Exchange.question q answer :: ·) hq, hc⟩
  | _ => cases hw

theorem onlyAsks_seekRow (r : Resolver String) (lineup : Lineup) (gameId : String) (season : Int)
    (side : Side) (a : Appearance) : (seekRow r lineup gameId season side a).OnlyAsks := by
  unfold seekRow
  split
  · trivial
  · exact fun _ => trivial

theorem onlyAsks_seekRows
    {work : Side → Appearance → Work (Except String (Appearance × List ReviewItem))}
    (hwork : ∀ side a, (work side a).OnlyAsks) (rows : List (Side × Appearance)) :
    (seekRows work rows).OnlyAsks := by
  induction rows with
  | nil => trivial
  | cons row rest ih =>
    obtain ⟨side, a⟩ := row
    unfold seekRows
    split
    · refine (hwork side a).bind fun found => ?_
      cases found with
      | error e => trivial
      | ok filled => exact ih.bind fun _ => trivial
    · exact ih.bind fun _ => trivial

theorem onlyAsks_seekPlayers (r : Resolver String) (lineup : Lineup) (b : BoxScore) :
    (seekPlayers r lineup b).OnlyAsks := by
  unfold seekPlayers
  split
  · trivial
  · exact (onlyAsks_seekRows (onlyAsks_seekRow r lineup b.gameId _) _).bind fun _ => trivial

/-! ### What is found -/

/-- The roster answers every question. -/
def Answered (xs : List Exchange) : Prop :=
  ∀ q answer, .question q answer ∈ xs → ∃ cs, answer = .ok cs

theorem Answered.left {xs ys : List Exchange} (h : Answered (xs ++ ys)) : Answered xs :=
  fun q answer hm => h q answer (List.mem_append_left _ hm)

theorem Answered.right {xs ys : List Exchange} (h : Answered (xs ++ ys)) : Answered ys :=
  fun q answer hm => h q answer (List.mem_append_right _ hm)

/-- A team was left open, rather than a player. -/
def isTeamItem (i : ReviewItem) : Bool :=
  match i.kind with
  | .unresolvedTeam _ => true
  | _ => false

/-- A row with a decision on its player keeps all else, and no team is left open. -/
theorem sought_of_decided (gameId : String) (season : Int) (side : Side) (a : Appearance)
    (m : PlayerMatch) :
    (Resolver.decided gameId season side a m).1.withoutPlayer = a.withoutPlayer ∧
      ∀ i ∈ (Resolver.decided gameId season side a m).2, isTeamItem i = false := by
  cases m with
  | unique player => exact ⟨rfl, List.forall_mem_nil _⟩
  | ambiguous players => exact ⟨rfl, List.forall_mem_singleton.2 rfl⟩
  | missing => exact ⟨rfl, List.forall_mem_singleton.2 rfl⟩

section
variable {r : Resolver String} {lineup : Lineup} {gameId : String} {season : Int}
  {xs : List Exchange}

theorem sought_of_seekRow {side : Side} {a : Appearance}
    {found : Except String (Appearance × List ReviewItem)}
    (h : (seekRow r lineup gameId season side a).Ends xs found) :
    (∀ row items, found = .ok (row, items) →
      row.withoutPlayer = a.withoutPlayer ∧ ∀ i ∈ items, isTeamItem i = false) ∧
    (Answered xs → ∃ filled, found = .ok filled) := by
  unfold seekRow at h
  split at h
  · obtain ⟨rfl, rfl⟩ := h
    refine ⟨?_, fun _ => ⟨_, rfl⟩⟩
    rintro row items ⟨⟩
    exact ⟨rfl, List.forall_mem_nil _⟩
  · obtain ⟨answer, _, rfl, rfl, rfl⟩ := h
    constructor
    · intro row items hf
      cases answer with
      | error e => cases hf
      | ok cs =>
        obtain ⟨hrow, hitems⟩ := sought_of_decided gameId season side a (.ofCandidates cs a.uniform)
        have hd : Resolver.decided gameId season side a (.ofCandidates cs a.uniform) =
            (row, items) := Except.ok.inj hf
        rw [hd] at hrow hitems
        exact ⟨hrow, hitems⟩
    · intro ha
      obtain ⟨cs, rfl⟩ := ha _ answer List.mem_cons_self
      exact ⟨_, rfl⟩

/-- The rows of a pass are those it began with, up to players. -/
theorem sought_of_seekRows {rows : List (Side × Appearance)}
    {p : Resolver.Pass String (List Appearance)}
    (h : (seekRows (seekRow r lineup gameId season) rows).Ends xs p) :
    p.rows.map Appearance.withoutPlayer = rows.map (fun x => x.2.withoutPlayer) ∧
      (∀ i ∈ p.items, isTeamItem i = false) ∧ (Answered xs → p.failure = none) := by
  induction rows generalizing xs p with
  | nil =>
    obtain ⟨rfl, rfl⟩ := h
    exact ⟨rfl, List.forall_mem_nil _, fun _ => rfl⟩
  | cons row rest ih =>
    obtain ⟨side, a⟩ := row
    unfold seekRows at h
    split at h
    · obtain ⟨xs, ys, found, rfl, hrow, h⟩ := Work.ends_bind h
      obtain ⟨hfound, hok⟩ := sought_of_seekRow hrow
      cases found with
      | error e =>
        -- The rows after a failure stay as they are.
        obtain ⟨rfl, rfl⟩ := h
        refine ⟨by simp, List.forall_mem_nil _, fun ha => ?_⟩
        obtain ⟨filled, hfilled⟩ := hok ha.left
        cases hfilled
      | ok filled =>
        obtain ⟨a', items⟩ := filled
        obtain ⟨ys, _, q, rfl, hrest, rfl, rfl⟩ := Work.ends_bind h
        obtain ⟨hrows, hitems, hnone⟩ := ih hrest
        obtain ⟨hkept, hopen⟩ := hfound a' items rfl
        refine ⟨?_, fun i hi => ?_, fun ha => hnone ha.right.left⟩
        · rw [List.map_cons, List.map_cons, hkept, hrows]
        · exact (List.mem_append.1 hi).elim (hopen i) (hitems i)
    · obtain ⟨ys, _, q, rfl, hrest, rfl, rfl⟩ := Work.ends_bind h
      obtain ⟨hrows, hitems, hnone⟩ := ih hrest
      exact ⟨by rw [List.map_cons, List.map_cons, hrows], hitems, fun ha => hnone ha.left⟩

/-- A record whose players were sought is the same up to players, and no team is left open by it. -/
theorem sought_of_seekPlayers {b : BoxScore} {found : Resolver.Pass String BoxScore}
    (h : (seekPlayers r lineup b).Ends xs found) :
    found.rows.withoutPlayers = b.withoutPlayers ∧ (∀ i ∈ found.items, isTeamItem i = false) ∧
      (Answered xs → found.failure = none) := by
  unfold seekPlayers at h
  split at h
  · obtain ⟨rfl, rfl⟩ := h
    exact ⟨rfl, List.forall_mem_nil _, fun _ => rfl⟩
  · obtain ⟨xs, _, p, rfl, hrows, rfl, rfl⟩ := Work.ends_bind h
    obtain ⟨hsame, hitems, hnone⟩ := sought_of_seekRows hrows
    exact ⟨BoxScore.withoutPlayers_withAppearances hsame, hitems, fun ha => hnone ha.left⟩

end

/-! ### Failures -/

section
variable {r : Resolver String} {lineup : Lineup} {gameId : String} {season : Int}
  {xs : List Exchange} {q : RosterQuery} {e : String}

theorem error_of_seekRow {side : Side} {a : Appearance}
    {found : Except String (Appearance × List ReviewItem)}
    (h : (seekRow r lineup gameId season side a).Ends xs found)
    (hq : .question q (.error e) ∈ xs) : found = .error e := by
  unfold seekRow at h
  split at h
  · obtain ⟨rfl, -⟩ := h
    cases hq
  · obtain ⟨answer, _, rfl, rfl, rfl⟩ := h
    cases List.mem_singleton.1 hq
    rfl

/-- A pass in which a question fails ends with this failure. -/
theorem failure_of_seekRows {rows : List (Side × Appearance)}
    {p : Resolver.Pass String (List Appearance)}
    (h : (seekRows (seekRow r lineup gameId season) rows).Ends xs p)
    (hq : .question q (.error e) ∈ xs) : p.failure = some e := by
  induction rows generalizing xs p with
  | nil =>
    obtain ⟨rfl, -⟩ := h
    cases hq
  | cons row rest ih =>
    obtain ⟨side, a⟩ := row
    unfold seekRows at h
    split at h
    · obtain ⟨xs, ys, found, rfl, hrow, h⟩ := Work.ends_bind h
      cases found with
      | error e' =>
        obtain ⟨rfl, rfl⟩ := h
        rw [List.append_nil] at hq
        cases error_of_seekRow hrow hq
        rfl
      | ok filled =>
        obtain ⟨ys, _, others, rfl, hrest, rfl, rfl⟩ := Work.ends_bind h
        rw [List.append_nil] at hq
        -- The row was filled, so it is a later question that fails.
        rcases List.mem_append.1 hq with hq | hq
        · cases error_of_seekRow hrow hq
        · have hothers : others.failure = some e := ih hrest hq
          exact hothers
    · obtain ⟨ys, _, others, rfl, hrest, rfl, rfl⟩ := Work.ends_bind h
      rw [List.append_nil] at hq
      have hothers : others.failure = some e := ih hrest hq
      exact hothers

theorem failure_of_seekPlayers {b : BoxScore} {found : Resolver.Pass String BoxScore}
    (h : (seekPlayers r lineup b).Ends xs found) (hq : .question q (.error e) ∈ xs) :
    found.failure = some e := by
  unfold seekPlayers at h
  split at h
  · obtain ⟨rfl, -⟩ := h
    cases hq
  · obtain ⟨xs, _, p, rfl, hrows, rfl, rfl⟩ := Work.ends_bind h
    rw [List.append_nil] at hq
    exact failure_of_seekRows hrows hq

end

/-- A page that gives a box score is examined by seeking its players. -/
theorem inspect_of_page {s : Setup} {g : GameId} {lineup : Lineup} {markup : String} {p : Page}
    {b : BoxScore} (hp : Page.ofMarkup markup = p)
    (hb : Page.extract s.history p g.text (some g.date) = .ok b) :
    inspect s g lineup markup =
      (seekPlayers s.resolver lineup b).bind fun found => .done (verdictOn s g b found) := by
  subst hp
  unfold inspect
  simp only [hb]

end Scorebook.Ingest
