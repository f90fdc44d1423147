import Scorebook.Ingest.Run
import Scorebook.Proofs.Basic

/-!
# What a piece of work exchanges

`Work.Ends w xs a` says that the work `w`, carried out on its own, can make the exchanges `xs` with
the surroundings and end with `a`.  Nothing is assumed of the answers.  The statements below say for
each piece of an attempt at a game which pages it fetches, what it writes and how it ends; a run is
understood through them, whatever else it interleaves.
-/

namespace Scorebook.Ingest
open Text

/-! ### Complete exchanges of a piece of work -/

/-- The work can make these exchanges, in this order, and end with the value. -/
def Work.Ends {α : Type} : Work α → List Exchange → α → Prop
  | .done a, xs, b => xs = [] ∧ a = b
  | .reserve host next, xs, b => ∃ ys, xs = .slot host :: ys ∧ next.Ends ys b
  | .acquire next, xs, b => ∃ answer ys, xs = .session answer :: ys ∧ (next answer).Ends ys b
  | .fetch s url next, xs, b =>
    ∃ answer ys, xs = .page s url answer :: ys ∧ (next answer).Ends ys b
  | .release s next, xs, b => ∃ ys, xs = .released s :: ys ∧ next.Ends ys b
  | .discard s next, xs, b => ∃ ys, xs = .discarded s :: ys ∧ next.Ends ys b
  | .ask q next, xs, b => ∃ answer ys, xs = .question q answer :: ys ∧ (next answer).Ends ys b
  | .call c next, xs, b => ∃ failure ys, xs = .write c failure :: ys ∧ (next failure).Ends ys b

namespace Work

variable {α β : Type}

theorem exists_ends (w : Work α) : ∃ xs a, w.Ends xs a := by
  induction w with
  | done a => exact ⟨[], a, rfl, rfl⟩
  | reserve host next ih =>
    obtain ⟨xs, a, h⟩ := ih
    exact ⟨_, a, xs, rfl, h⟩
  | acquire next ih =>
    obtain ⟨xs, a, h⟩ := ih (.ok 0)
    exact ⟨_, a, _, xs, rfl, h⟩
  | fetch s url next ih =>
    obtain ⟨xs, a, h⟩ := ih (.ok "")
    exact ⟨_, a, _, xs, rfl, h⟩
  | release s next ih =>
    obtain ⟨xs, a, h⟩ := ih
    exact ⟨_, a, xs, rfl, h⟩
  | discard s next ih =>
    obtain ⟨xs, a, h⟩ := ih
    exact ⟨_, a, xs, rfl, h⟩
  | ask q next ih =>
    obtain ⟨xs, a, h⟩ := ih (.ok [])
    exact ⟨_, a, _, xs, rfl, h⟩
  | call c next ih =>
    obtain ⟨xs, a, h⟩ := ih none
    exact ⟨_, a, _, xs, rfl, h⟩

theorem ends_bind {w : Work α} {f : α → Work β} {zs : List Exchange} {b : β}
    (h : (w.bind f).Ends zs b) :
    ∃ xs ys a, zs = xs ++ ys ∧ w.Ends xs a ∧ (f a).Ends ys b := by
  induction w generalizing zs with
  | done a => exact ⟨[], zs, a, rfl, ⟨rfl, rfl⟩, h⟩
  | reserve host next ih =>
    obtain ⟨zs, rfl, h⟩ := h
    obtain ⟨xs, ys, a, rfl, hw, hf⟩ := ih h
    exact ⟨.slot host :: xs, ys, a, rfl, ⟨xs, rfl, hw⟩, hf⟩
  | acquire next ih =>
    obtain ⟨answer, zs, rfl, h⟩ := h
    obtain ⟨xs, ys, a, rfl, hw, hf⟩ := ih answer h
    exact ⟨.session answer :: xs, ys, a, rfl, ⟨answer, xs, rfl, hw⟩, hf⟩
  | fetch s url next ih =>
    obtain ⟨answer, zs, rfl, h⟩ := h
    obtain ⟨xs, ys, a, rfl, hw, hf⟩ := ih answer h
    exact ⟨.page s url answer :: xs, ys, a, rfl, ⟨answer, xs, rfl, hw⟩, hf⟩
  | release s next ih =>
    obtain ⟨zs, rfl, h⟩ := h
    obtain ⟨xs, ys, a, rfl, hw, hf⟩ := ih h
    exact ⟨.released s :: xs, ys, a, rfl, ⟨xs, rfl, hw⟩, hf⟩
  | discard s next ih =>
    obtain ⟨zs, rfl, h⟩ := h
    obtain ⟨xs, ys, a, rfl, hw, hf⟩ := ih h
    exact ⟨.discarded s :: xs, ys, a, rfl, ⟨xs, rfl, hw⟩, hf⟩
  | ask q next ih =>
    obtain ⟨answer, zs, rfl, h⟩ := h
    obtain ⟨xs, ys, a, rfl, hw, hf⟩ := ih answer h
    exact ⟨.question q answer :: xs, ys, a, rfl, ⟨answer, xs, rfl, hw⟩, hf⟩
  | call c next ih =>
    obtain ⟨failure, zs, rfl, h⟩ := h
    obtain ⟨xs, ys, a, rfl, hw, hf⟩ := ih failure h
    exact ⟨.write c failure :: xs, ys, a, rfl, ⟨failure, xs, rfl, hw⟩, hf⟩

end Work

/-! ### Views of exchanges -/

def Exchange.write? : Exchange → Option SinkCall
  | .write c _ => some c
  | _ => none

/-- The fetched address of an exchange and what came of it. -/
def Exchange.page? : Exchange → Option (String × Answer)
  | .page _ url answer => some (url, answer)
  | _ => none

/-- The writes among exchanges, failed ones included. -/
def writesOf (xs : List Exchange) : List SinkCall := xs.filterMap Exchange.write?

def pagesOf (xs : List Exchange) : List (String × Answer) := xs.filterMap Exchange.page?

def SinkCall.result? : SinkCall → Option GameResult
  | .outcome g => some g
  | _ => none

/-- The game that a write keeps, accepted or set aside. -/
def SinkCall.kept? : SinkCall → Option String
  | .save b _ => some b.gameId
  | .setAside b _ => some b.gameId
  | _ => none

/-- All that a write stores belongs to a game. -/
def SinkCall.About (gameId : String) : SinkCall → Prop
  | .save b _ => b.gameId = gameId
  | .setAside b _ => b.gameId = gameId
  | .flag items => ∀ i ∈ items, i.gameId = gameId
  | .outcome g => g.gameId = gameId
  | .run _ => False

@[simp] theorem writesOf_append (xs ys : List Exchange) :
    writesOf (xs ++ ys) = writesOf xs ++ writesOf ys := List.filterMap_append

@[simp] theorem pagesOf_append (xs ys : List Exchange) :
    pagesOf (xs ++ ys) = pagesOf xs ++ pagesOf ys := List.filterMap_append

theorem writesOf_cons (x : Exchange) (xs : List Exchange) :
    writesOf (x :: xs) = x.write?.toList ++ writesOf xs := by
  cases h : x.write? <;> simp [writesOf, h]

def Quiet (xs : List Exchange) : Prop := writesOf xs = [] ∧ pagesOf xs = []

theorem Quiet.nil : Quiet [] := ⟨rfl, rfl⟩

theorem Quiet.append {xs ys : List Exchange} (hx : Quiet xs) (hy : Quiet ys) :
    Quiet (xs ++ ys) := by
  constructor
  · rw [writesOf_append, hx.1, hy.1, List.append_nil]
  · rw [pagesOf_append, hx.2, hy.2, List.append_nil]

/-! ### Fetching -/

/-- A fetch writes nothing.  It fetches its page once, or no session could be opened. -/
theorem fetchPage_ends {url : String} {xs : List Exchange} {a : Answer}
    (h : (fetchPage url).Ends xs a) :
    writesOf xs = [] ∧ (pagesOf xs = [(url, a)] ∨
      pagesOf xs = [] ∧ ∃ e, a = .error e ∧ .session (.error e) ∈ xs) := by
  obtain ⟨_, rfl, h⟩ := h
  obtain ⟨session, _, rfl, h⟩ := h
  cases session with
  | error e =>
    obtain ⟨rfl, rfl⟩ := h
    exact ⟨rfl, .inr ⟨rfl, e, rfl, by simp⟩⟩
  | ok session =>
    obtain ⟨answer, _, rfl, h⟩ := h
    cases answer with
    | ok markup =>
      obtain ⟨_, rfl, rfl, rfl⟩ := h
      exact ⟨rfl, .inl rfl⟩
    | error e =>
      by_cases hr : e.isRetryable
      · simp only [hr, if_true] at h
        obtain ⟨_, rfl, rfl, rfl⟩ := h
        exact ⟨rfl, .inl rfl⟩
      · simp only [hr] at h
        obtain ⟨_, rfl, rfl, rfl⟩ := h
        exact ⟨rfl, .inl rfl⟩

theorem fetchLineup_ends {s : Setup} {g : GameId} {xs : List Exchange} {lineup : Lineup}
    (h : (fetchLineup s g).Ends xs lineup) :
    (s.settings.fetchLineup = false ∧ xs = [] ∧ lineup = .empty) ∨
      (s.settings.fetchLineup = true ∧ ∃ a, lineup = lineupIn a ∧
        (fetchPage (g.lineupUrl s.settings.baseUrl)).Ends xs a) := by
  unfold fetchLineup at h
  by_cases hw : s.settings.fetchLineup
  · rw [if_pos hw] at h
    obtain ⟨xs, ys, a, rfl, hp, rfl, rfl⟩ := Work.ends_bind h
    rw [List.append_nil]
    exact .inr ⟨hw, a, rfl, hp⟩
  · rw [if_neg hw] at h
    obtain ⟨rfl, rfl⟩ := h
    exact .inl ⟨by simpa using hw, rfl, rfl⟩

/-! ### Seeking players -/

def AnsweredBy (roster : RosterSource String) (xs : List Exchange) : Prop :=
  ∀ q answer, .question q answer ∈ xs → answer = roster q

theorem AnsweredBy.left {roster : RosterSource String} {xs ys : List Exchange}
    (h : AnsweredBy roster (xs ++ ys)) : AnsweredBy roster xs :=
  fun q a hm => h q a (List.mem_append_left _ hm)

theorem AnsweredBy.right {roster : RosterSource String} {xs ys : List Exchange}
    (h : AnsweredBy roster (xs ++ ys)) : AnsweredBy roster ys :=
  fun q a hm => h q a (List.mem_append_right _ hm)

theorem gameId_of_mem_decided {gameId : String} {season : Int} {side : Side} {a : Appearance}
    {m : PlayerMatch} {i : ReviewItem}
    (h : i ∈ (Resolver.decided gameId season side a m).2) : i.gameId = gameId := by
  cases m with
  | unique player => cases h
  | ambiguous players =>
    rw [List.mem_singleton.1 h]
    rfl
  | missing =>
    rw [List.mem_singleton.1 h]
    rfl

/-- A row is worked on as the resolver does it, and its review items belong to the game. -/
theorem seekRow_ends {r : Resolver String} {lineup : Lineup} {gameId : String} {season : Int}
    {side : Side} {a : Appearance} {xs : List Exchange}
    {found : Except String (Appearance × List ReviewItem)}
    (h : (seekRow r lineup gameId season side a).Ends xs found) :
    Quiet xs ∧ (AnsweredBy r.roster xs → found = r.resolveRow lineup gameId season side a) ∧
      ∀ row items, found = .ok (row, items) → ∀ i ∈ items, i.gameId = gameId := by
  unfold seekRow at h
  unfold Resolver.resolveRow
  cases hl : Resolver.onLineup? lineup a with
  | some p =>
    -- A player on the lineup is not asked for.
    simp only [hl] at h
    obtain ⟨rfl, rfl⟩ := h
    refine ⟨.nil, fun _ => rfl, ?_⟩
    rintro row items ⟨⟩ i hi
    cases hi
  | none =>
    simp only [hl] at h
    obtain ⟨answer, _, rfl, rfl, rfl⟩ := h
    refine ⟨⟨rfl, rfl⟩, ?_, ?_⟩
    · intro ha
      rw [ha _ answer List.mem_cons_self, Resolver.findPlayer]
      cases r.roster (r.question a.name (a.team.getD "") season) <;> rfl
    · intro row items hf i hi
      cases answer with
      | error e => cases hf
      | ok cs =>
        have hd : Resolver.decided gameId season side a (.ofCandidates cs a.uniform) =
            (row, items) := Except.ok.inj hf
        exact gameId_of_mem_decided (m := .ofCandidates cs a.uniform) (by rw [hd]; exact hi)

theorem seekRows_ends {r : Resolver String} {lineup : Lineup} {gameId : String} {season : Int}
    {rows : List (Side × Appearance)} {xs : List Exchange}
    {p : Resolver.Pass String (List Appearance)}
    (h : (seekRows (seekRow r lineup gameId season) rows).Ends xs p) :
    Quiet xs ∧
      (AnsweredBy r.roster xs →
        p = Resolver.resolveRows (r.resolveRow lineup gameId season) rows) ∧
      ∀ i ∈ p.items, i.gameId = gameId := by
  induction rows generalizing xs p with
  | nil =>
    obtain ⟨rfl, rfl⟩ := h
    exact ⟨.nil, fun _ => rfl, fun i hi => by cases hi⟩
  | cons row rest ih =>
    obtain ⟨side, a⟩ := row
    by_cases hp : Resolver.isPending a
    · simp only [seekRows, hp, if_true] at h
      obtain ⟨xs, ys, found, rfl, hrow, h⟩ := Work.ends_bind h
      obtain ⟨hq, hr, hi⟩ := seekRow_ends hrow
      cases found with
      | error e =>
        -- A roster that fails ends the pass: the rows after this one stay as they are.
        obtain ⟨rfl, rfl⟩ := h
        rw [List.append_nil]
        refine ⟨hq, fun ha => ?_, fun i hi => by cases hi⟩
        simp only [Resolver.resolveRows, hp, if_true, ← hr ha]
      | ok filled =>
        obtain ⟨row, items⟩ := filled
        obtain ⟨ys, _, q, rfl, hrest, rfl, rfl⟩ := Work.ends_bind h
        obtain ⟨hq', hr', hi'⟩ := ih hrest
        rw [List.append_nil]
        refine ⟨hq.append hq', fun ha => ?_, fun i hm => ?_⟩
        · simp only [Resolver.resolveRows, hp, if_true, ← hr ha.left, ← hr' ha.right]
        · rcases List.mem_append.1 hm with hm | hm
          · exact hi row items rfl i hm
          · exact hi' i hm
    · simp only [seekRows, hp] at h
      obtain ⟨xs, _, q, rfl, hrest, rfl, rfl⟩ := Work.ends_bind h
      obtain ⟨hq', hr', hi'⟩ := ih hrest
      rw [List.append_nil]
      refine ⟨hq', fun ha => ?_, hi'⟩
      simp only [Resolver.resolveRows, hp, ← hr' ha]
      rfl

theorem seekPlayers_ends {r : Resolver String} {lineup : Lineup} {b : BoxScore}
    {xs : List Exchange} {found : Resolver.Pass String BoxScore}
    (h : (seekPlayers r lineup b).Ends xs found) :
    Quiet xs ∧ (AnsweredBy r.roster xs → found = r.resolveBoxScore lineup b) ∧
      found.rows.gameId = b.gameId ∧ ∀ i ∈ found.items, i.gameId = b.gameId := by
  unfold seekPlayers at h
  unfold Resolver.resolveBoxScore
  cases hs : b.season? with
  | none =>
    simp only [hs] at h
    obtain ⟨rfl, rfl⟩ := h
    exact ⟨.nil, fun _ => rfl, rfl, fun i hi => by cases hi⟩
  | some season =>
    simp only [hs] at h
    obtain ⟨xs, _, p, rfl, hrows, rfl, rfl⟩ := Work.ends_bind h
    obtain ⟨hq, hr, hi⟩ := seekRows_ends hrows
    rw [List.append_nil]
    exact ⟨hq, fun ha => by rw [hr ha], rfl, hi⟩

/-! ### Examining a page -/

theorem gameId_of_mem_unresolvedTeams {g : GameId} {b : BoxScore} {i : ReviewItem}
    (h : i ∈ unresolvedTeams g b) : i.gameId = b.gameId := by
  obtain ⟨side, _, rfl⟩ := List.mem_map.1 h
  rfl

theorem gameId_of_extract {h : Franchise.History} {p : Page} {gameId : String} {date : Option Date}
    {b : BoxScore} (hb : Page.extract h p gameId date = .ok b) : b.gameId = gameId := by
  unfold Page.extract at hb
  cases he : (Page.Signature.ofTables p.tables).era? with
  | none =>
    simp only [he] at hb
    cases hb
  | some era =>
    simp only [he] at hb
    split at hb
    all_goals
      obtain ⟨id, _, hb⟩ := of_bind_ok hb
      obtain ⟨lines, _, hb⟩ := of_bind_ok hb
      cases hb
      rfl

/-- A page is examined as `examine` says, and what is to be kept belongs to the game. -/
theorem inspect_ends {s : Setup} {g : GameId} {lineup : Lineup} {markup : String}
    {xs : List Exchange} {v : Verdict} (h : (inspect s g lineup markup).Ends xs v) :
    Quiet xs ∧ (AnsweredBy s.roster xs → v = examine s g lineup markup) ∧
      ∀ b found review, v = .keep b found review →
        b.gameId = g.text ∧ ∀ i ∈ review, i.gameId = g.text := by
  unfold inspect at h
  unfold examine examinePage
  cases he : Page.extract s.history (Page.ofMarkup markup) g.text (some g.date) with
  | error e =>
    cases e
    all_goals
      simp only [he] at h
      obtain ⟨rfl, rfl⟩ := h
      exact ⟨.nil, fun _ => rfl, fun _ _ _ hv => by cases hv⟩
  | ok b =>
    simp only [he] at h
    obtain ⟨xs, _, found, rfl, hp, rfl, rfl⟩ := Work.ends_bind h
    obtain ⟨hq, hr, hrows, hi⟩ := seekPlayers_ends hp
    have hb := gameId_of_extract he
    rw [List.append_nil]
    refine ⟨hq, fun ha => by rw [hr ha]; rfl, ?_⟩
    intro b' val review hv
    unfold verdictOn at hv
    cases hf : found.failure with
    | some e =>
      simp only [hf] at hv
      cases hv
    | none =>
      simp only [hf] at hv
      cases hv
      refine ⟨hrows.trans hb, fun i hm => ?_⟩
      rcases List.mem_append.1 hm with hm | hm
      · exact (gameId_of_mem_unresolvedTeams hm).trans hb
      · exact (hi i hm).trans hb

/-! ### Keeping a verdict -/

/-- The outcome of a verdict when all writes succeed. -/
def Verdict.outcome : Verdict → GameOutcome
  | .noData => .noData
  | .failed e => .failed e
  | .keep _ v _ => if v.isValid then .accepted v.warnings else .quarantined v.errors

/-- The writes that keep a verdict when all succeed. -/
def Verdict.writes : Verdict → List SinkCall
  | .noData => []
  | .failed _ => []
  | .keep b v review =>
    (if v.isValid then .save b v else .setAside b v) ::
      if review.isEmpty then [] else [.flag review]

def AllWritten (xs : List Exchange) : Prop := ∀ c failure, .write c failure ∈ xs → failure = none

theorem AllWritten.left {xs ys : List Exchange} (h : AllWritten (xs ++ ys)) : AllWritten xs :=
  fun c f hm => h c f (List.mem_append_left _ hm)

theorem AllWritten.right {xs ys : List Exchange} (h : AllWritten (xs ++ ys)) : AllWritten ys :=
  fun c f hm => h c f (List.mem_append_right _ hm)

/-- Writes that keep at most one copy of a game, and nothing of another one. -/
structure Keeps (gameId : String) (cs : List SinkCall) : Prop where
  about : ∀ c ∈ cs, c.About gameId
  results : cs.filterMap SinkCall.result? = []
  once : (cs.filterMap SinkCall.kept?).length ≤ 1

theorem Keeps.nil (gameId : String) : Keeps gameId [] :=
  ⟨fun _ hc => absurd hc List.not_mem_nil, rfl, Nat.zero_le 1⟩

theorem flagAll_ends {review : List ReviewItem} {outcome o : GameOutcome} {xs : List Exchange}
    (h : (flagAll review outcome).Ends xs o) :
    pagesOf xs = [] ∧ (writesOf xs = [] ∨ writesOf xs = [.flag review]) ∧
      (AllWritten xs →
        o = outcome ∧ writesOf xs = if review.isEmpty then [] else [.flag review]) := by
  unfold flagAll at h
  by_cases hr : review.isEmpty
  · simp only [hr, if_true] at h ⊢
    obtain ⟨rfl, rfl⟩ := h
    exact ⟨rfl, .inl rfl, fun _ => ⟨rfl, rfl⟩⟩
  · simp only [hr] at h ⊢
    obtain ⟨failure, _, rfl, h⟩ := h
    cases failure with
    | some e =>
      obtain ⟨rfl, rfl⟩ := h
      refine ⟨rfl, .inr rfl, fun ha => ?_⟩
      cases ha _ _ List.mem_cons_self
    | none =>
      obtain ⟨rfl, rfl⟩ := h
      exact ⟨rfl, .inr rfl, fun _ => ⟨rfl, rfl⟩⟩

/-- A first write that keeps a game, followed by review items of the game. -/
theorem keeps_of_first {gameId : String} {c : SinkCall} {review : List ReviewItem}
    {cs : List SinkCall} (hc : c.About gameId) (hr : c.result? = none)
    (hi : ∀ i ∈ review, i.gameId = gameId) (hcs : cs = [] ∨ cs = [.flag review]) :
    Keeps gameId (c :: cs) := by
  have hf : (SinkCall.flag review).About gameId := hi
  rcases hcs with rfl | rfl
  · refine ⟨?_, List.filterMap_cons_none hr, List.length_filterMap_le ..⟩
    simpa using hc
  · refine ⟨?_, List.filterMap_cons_none hr, ?_⟩
    · simpa using ⟨hc, hf⟩
    · rw [List.filterMap_cons]
      cases c.kept? with
      | none => exact Nat.zero_le 1
      | some x => exact Nat.le_refl 1

/-- A verdict on a game keeps the game at most once.  When no write fails its outcome and its writes
are those of the verdict. -/
theorem keepVerdict_ends {v : Verdict} {gameId : String} {xs : List Exchange} {o : GameOutcome}
    (h : (keepVerdict v).Ends xs o)
    (hv : ∀ b found review, v = .keep b found review →
      b.gameId = gameId ∧ ∀ i ∈ review, i.gameId = gameId) :
    pagesOf xs = [] ∧ Keeps gameId (writesOf xs) ∧
      (AllWritten xs → o = v.outcome ∧ writesOf xs = v.writes) := by
  cases v with
  | noData =>
    obtain ⟨rfl, rfl⟩ := h
    exact ⟨rfl, .nil gameId, fun _ => ⟨rfl, rfl⟩⟩
  | failed e =>
    obtain ⟨rfl, rfl⟩ := h
    exact ⟨rfl, .nil gameId, fun _ => ⟨rfl, rfl⟩⟩
  | keep b found review =>
    obtain ⟨hb, hi⟩ := hv b found review rfl
    unfold keepVerdict at h
    simp only [Verdict.outcome, Verdict.writes]
    by_cases hvalid : found.isValid
    all_goals
      simp only [hvalid, if_true] at h ⊢
      obtain ⟨failure, ys, rfl, h⟩ := h
      cases failure with
      | some e =>
        -- Nothing is flagged after a first write that failed.
        obtain ⟨rfl, rfl⟩ := h
        refine ⟨rfl, keeps_of_first hb rfl hi (.inl rfl), fun ha => ?_⟩
        cases ha _ _ List.mem_cons_self
      | none =>
        obtain ⟨hp, hw, hn⟩ := flagAll_ends h
        refine ⟨hp, keeps_of_first hb rfl hi hw, fun ha => ?_⟩
        obtain ⟨ho, hws⟩ := hn fun c f hm => ha c f (List.mem_cons_of_mem _ hm)
        exact ⟨ho, congrArg (_ :: ·) hws⟩

/-! ### An attempt -/

def mayRetry : Answer → Bool
  | .ok _ => false
  | .error e => e.isRetryable

/-- The outcome that an answer for the review page leads to when nothing else fails. -/
def outcomeOf (s : Setup) (g : GameId) (lineup : Lineup) : Answer → GameOutcome
  | .ok markup => (examine s g lineup markup).outcome
  | .error e => .failed e.message

/-- The writes that an answer for the review page leads to when nothing else fails. -/
def writesFor (s : Setup) (g : GameId) (lineup : Lineup) : Answer → List SinkCall
  | .ok markup => (examine s g lineup markup).writes
  | .error _ => []

/-- What follows from the answer for the review page: after a failure that another attempt may mend
nothing is written, and otherwise the game is kept at most once. -/
theorem settle_ends {s : Setup} {g : GameId} {lineup : Lineup} {answer : Answer}
    {xs : List Exchange} {result : Attempt} (h : (settle s g lineup answer).Ends xs result) :
    pagesOf xs = [] ∧
      ((∃ e, answer = .error e ∧ mayRetry answer = true ∧ result = .retry e ∧ writesOf xs = []) ∨
        ∃ o, result = .settled o ∧ mayRetry answer = false ∧ Keeps g.text (writesOf xs) ∧
          (AnsweredBy s.roster xs → AllWritten xs →
            o = outcomeOf s g lineup answer ∧ writesOf xs = writesFor s g lineup answer)) := by
  cases answer with
  | error e =>
    obtain ⟨rfl, rfl⟩ := h
    by_cases hr : e.isRetryable
    · exact ⟨rfl, .inl ⟨e, rfl, hr, by rw [if_pos hr], rfl⟩⟩
    · have hm : mayRetry (.error e) = false := by simpa [mayRetry] using hr
      exact ⟨rfl, .inr ⟨.failed e.message, if_neg hr, hm, .nil g.text, fun _ _ => ⟨rfl, rfl⟩⟩⟩
  | ok markup =>
    obtain ⟨xs, ys, v, rfl, hv, h⟩ := Work.ends_bind h
    obtain ⟨ys, _, o, rfl, ho, rfl, rfl⟩ := Work.ends_bind h
    obtain ⟨hq, hexam, habout⟩ := inspect_ends hv
    obtain ⟨hpages, hkeeps, hall⟩ := keepVerdict_ends ho habout
    have hw : writesOf (xs ++ (ys ++ [])) = writesOf ys := by
      rw [List.append_nil, writesOf_append, hq.1, List.nil_append]
    rw [hw, pagesOf_append, hq.2, List.nil_append, List.append_nil]
    refine ⟨hpages, .inr ⟨o, rfl, rfl, hkeeps, fun ha hn => ?_⟩⟩
    rw [hexam ha.left] at hall
    exact hall hn.right

theorem attempt_ends {s : Setup} {g : GameId} {xs : List Exchange} {result : Attempt}
    (h : (attempt s g).Ends xs result) :
    ∃ ls ps ys lineup answer, xs = ls ++ (ps ++ ys) ∧ (fetchLineup s g).Ends ls lineup ∧
      (fetchPage (g.reviewUrl s.settings.baseUrl)).Ends ps answer ∧
      (settle s g lineup answer).Ends ys result := by
  obtain ⟨ls, zs, lineup, rfl, hl, h⟩ := Work.ends_bind h
  obtain ⟨ps, ys, answer, rfl, hp, h⟩ := Work.ends_bind h
  exact ⟨ls, ps, ys, lineup, answer, rfl, hl, hp, h⟩

theorem writesOf_of_fetchLineup {s : Setup} {g : GameId} {xs : List Exchange} {lineup : Lineup}
    (h : (fetchLineup s g).Ends xs lineup) : writesOf xs = [] := by
  rcases fetchLineup_ends h with ⟨_, rfl, _⟩ | ⟨_, a, _, h⟩
  · rfl
  · exact (fetchPage_ends h).1

theorem writesOf_attempt {s : Setup} {g : GameId} {xs : List Exchange} {result : Attempt}
    (h : (attempt s g).Ends xs result) :
    (∃ e, result = .retry e ∧ writesOf xs = []) ∨
      ∃ o, result = .settled o ∧ Keeps g.text (writesOf xs) := by
  obtain ⟨ls, ps, ys, lineup, answer, rfl, hl, hp, hs⟩ := attempt_ends h
  have hw : writesOf (ls ++ (ps ++ ys)) = writesOf ys := by
    rw [writesOf_append, writesOf_append, writesOf_of_fetchLineup hl, (fetchPage_ends hp).1,
      List.nil_append, List.nil_append]
  rw [hw]
  rcases (settle_ends hs).2 with ⟨e, _, _, hr, hn⟩ | ⟨o, ho, _, hk, _⟩
  · exact .inl ⟨e, hr, hn⟩
  · exact .inr ⟨o, ho, hk⟩

theorem pagesOf_attempt {s : Setup} {g : GameId} {xs : List Exchange} {result : Attempt}
    (h : (attempt s g).Ends xs result) :
    ∀ p ∈ pagesOf xs,
      p.1 = g.lineupUrl s.settings.baseUrl ∨ p.1 = g.reviewUrl s.settings.baseUrl := by
  obtain ⟨ls, ps, ys, lineup, answer, rfl, hl, hp, hs⟩ := attempt_ends h
  intro p hm
  rw [pagesOf_append, pagesOf_append, (settle_ends hs).1, List.append_nil] at hm
  rcases List.mem_append.1 hm with hm | hm
  · rcases fetchLineup_ends hl with ⟨_, rfl, _⟩ | ⟨_, a, _, hf⟩
    · cases hm
    · rcases (fetchPage_ends hf).2 with hf | ⟨hf, _⟩
      · rw [hf] at hm
        exact .inl (congrArg Prod.fst (List.mem_singleton.1 hm))
      · rw [hf] at hm
        cases hm
  · rcases (fetchPage_ends hp).2 with hf | ⟨hf, _⟩
    · rw [hf] at hm
      exact .inr (congrArg Prod.fst (List.mem_singleton.1 hm))
    · rw [hf] at hm
      cases hm

/-! ### The work on a job -/

/-- What a job leads to when it is done: its result is recorded last, after at most one write that
keeps the game. -/
structure Settles (job : Job) (xs : List Exchange) (g : GameResult) : Prop where
  gameId : g.gameId = job.game.text
  attempts : g.attempts = job.attempt
  writes : ∃ cs, writesOf xs = cs ++ [.outcome g] ∧ Keeps job.game.text cs

theorem finish_ends {g : GameResult} {xs : List Exchange} {ending : Ending}
    (h : (finish g).Ends xs ending) :
    ending = .finished g ∧ writesOf xs = [.outcome g] ∧ pagesOf xs = [] := by
  obtain ⟨_, _, rfl, rfl, rfl⟩ := h
  exact ⟨rfl, rfl, rfl⟩

/-- The work on a job ends with a result that it recorded, or the job is tried again, which happens
in all attempts but the last one only and after nothing was written. -/
theorem workOn_ends {s : Setup} {job : Job} {xs : List Exchange} {ending : Ending}
    (h : (workOn s job).Ends xs ending) :
    (ending = .again ∧ job.attempt < s.settings.retry.maxAttempts ∧ writesOf xs = []) ∨
      ∃ g, ending = .finished g ∧ Settles job xs g := by
  obtain ⟨xs, ys, result, rfl, ha, h⟩ := Work.ends_bind h
  rcases writesOf_attempt ha with ⟨e, rfl, hw⟩ | ⟨o, rfl, hk⟩
  · -- A failure that another attempt may mend is final in the last attempt.
    unfold conclude at h
    by_cases hm : job.attempt < s.settings.retry.maxAttempts
    · simp only [hm, if_true] at h
      obtain ⟨rfl, rfl⟩ := h
      exact .inl ⟨rfl, hm, by rw [writesOf_append, hw]; rfl⟩
    · simp only [hm, if_false] at h
      obtain ⟨rfl, hf, _⟩ := finish_ends h
      refine .inr ⟨_, rfl, rfl, rfl, [], ?_, .nil _⟩
      rw [writesOf_append, hw, hf]
  · obtain ⟨rfl, hf, _⟩ := finish_ends h
    refine .inr ⟨_, rfl, rfl, rfl, writesOf xs, ?_, hk⟩
    rw [writesOf_append, hf]

theorem pagesOf_workOn {s : Setup} {job : Job} {xs : List Exchange} {ending : Ending}
    (h : (workOn s job).Ends xs ending) :
    ∀ p ∈ pagesOf xs, p.1 = job.game.lineupUrl s.settings.baseUrl ∨
      p.1 = job.game.reviewUrl s.settings.baseUrl := by
  obtain ⟨xs, ys, result, rfl, ha, h⟩ := Work.ends_bind h
  have hy : pagesOf ys = [] := by
    cases result with
    | settled o => exact (finish_ends h).2.2
    | retry e =>
      unfold conclude at h
      by_cases hm : job.attempt < s.settings.retry.maxAttempts
      · simp only [hm, if_true] at h
        rw [h.1]
        rfl
      · simp only [hm, if_false] at h
        exact (finish_ends h).2.2
  rw [pagesOf_append, hy, List.append_nil]
  exact pagesOf_attempt ha

end Scorebook.Ingest
