import Scorebook.Proofs.Ingest.Completion
import Scorebook.Proofs.Ingest.Dealings
import Scorebook.Proofs.Page.Reading
import Scorebook.Proofs.Store.Checked

/-!
# Only valid games are accepted

The work on a game keeps the box score that it validated last, with what was found, as accepted when
it is valid and set aside when it is not.  So whatever runs do to a store that was empty at first, in
any order of events and with any failures, what is read from it as accepted is valid.
-/

namespace Scorebook.Ingest
open Text

/-! ### Writes -/

/-- What a write keeps of a game is what validation finds in it, and goes where it belongs. -/
def SinkCall.Checked (codes : Franchise.CodeSet) : SinkCall → Prop
  | .save b v => v = .ofBoxScore codes b ∧ v.isValid = true
  | .setAside b v => v = .ofBoxScore codes b ∧ v.isValid = false
  | _ => True

theorem checked_of_isRecord {codes : Franchise.CodeSet} {c : SinkCall}
    (h : c.isRecord = true) : c.Checked codes := by
  cases c with
  | outcome g => trivial
  | run summary => trivial
  | _ => cases h

theorem checked_perform {codes : Franchise.CodeSet} {st : Store} {c : SinkCall}
    (hst : st.Checked codes) (hc : c.Checked codes) (run : Uuid) (now : Instant) :
    (c.perform run now st).Checked codes := by
  cases c with
  | save b v =>
    obtain ⟨rfl, hv⟩ := hc
    exact hst.save hv now
  | setAside b v =>
    obtain ⟨rfl, hv⟩ := hc
    exact hst.setAside hv now
  | flag items => exact ⟨hst.games, hst.quarantine⟩
  | outcome g => exact ⟨hst.games, hst.quarantine⟩
  | run summary => exact ⟨hst.games, hst.quarantine⟩

theorem checked_write {codes : Franchise.CodeSet} {sh : Shared} {c : SinkCall}
    (hst : sh.store.Checked codes) (hc : c.Checked codes) (run : Uuid) (now : Instant)
    (failure : Option String) : (sh.write run now failure c).store.Checked codes := by
  cases failure with
  | some e => exact hst
  | none => exact checked_perform hst hc run now

theorem checked_foldl {codes : Franchise.CodeSet} {xs : List Exchange} {st : Store}
    (hst : st.Checked codes) (hxs : ∀ c ∈ writesOf xs, c.Checked codes) (run : Uuid)
    (now : Instant) : (xs.foldl (Exchange.applyTo run now) st).Checked codes := by
  induction xs generalizing st with
  | nil => exact hst
  | cons x rest ih =>
    have hrest : ∀ c ∈ writesOf rest, c.Checked codes := fun c hc => hxs c (by
      rw [writesOf_cons]
      exact List.mem_append_right _ hc)
    refine ih ?_ hrest
    cases x with
    | write c failure =>
      cases failure with
      | some e => exact hst
      | none => exact checked_perform hst (hxs c List.mem_cons_self) run now
    | _ => exact hst

/-! ### The work on a game -/

/-- What a verdict says of a box score that is to be kept is what validation finds in it. -/
def Verdict.Checked (codes : Franchise.CodeSet) (v : Verdict) : Prop :=
  ∀ b found review, v = .keep b found review → found = .ofBoxScore codes b

theorem checked_of_inspect {s : Setup} {g : GameId} {lineup : Lineup} {markup : String}
    {xs : List Exchange} {v : Verdict} (h : (inspect s g lineup markup).Ends xs v) :
    v.Checked s.history.canonicalCodes := by
  intro b found review hv
  subst hv
  unfold inspect at h
  split at h
  · obtain ⟨_, _, p, rfl, -, -, hp⟩ := Work.ends_bind h
    unfold verdictOn at hp
    split at hp
    · cases hp
    · cases hp
      rfl
  · cases h.2
  · cases h.2

/-- A first write that is checked, followed by review items. -/
theorem checked_of_first {codes : Franchise.CodeSet} {c : SinkCall} {cs : List SinkCall}
    (review : List ReviewItem) (hc : c.Checked codes) (hcs : cs = [] ∨ cs = [.flag review]) :
    ∀ c' ∈ c :: cs, c'.Checked codes := by
  refine List.forall_mem_cons.2 ⟨hc, fun c' hc' => ?_⟩
  rcases hcs with rfl | rfl
  · cases hc'
  · rw [List.mem_singleton.1 hc']
    trivial

theorem checked_of_keepVerdict {codes : Franchise.CodeSet} {v : Verdict} {xs : List Exchange}
    {o : GameOutcome} (hv : v.Checked codes) (h : (keepVerdict v).Ends xs o) :
    ∀ c ∈ writesOf xs, c.Checked codes := by
  cases v with
  | noData =>
    obtain ⟨rfl, -⟩ := h
    exact List.forall_mem_nil _
  | failed e =>
    obtain ⟨rfl, -⟩ := h
    exact List.forall_mem_nil _
  | keep b found review =>
    have hfound := hv b found review rfl
    unfold keepVerdict at h
    by_cases hvalid : found.isValid = true
    · have hsave : (SinkCall.save b found).Checked codes := ⟨hfound, hvalid⟩
      simp only [hvalid, if_true] at h
      obtain ⟨failure, ys, rfl, hys⟩ := h
      cases failure with
      | some e =>
        obtain ⟨rfl, -⟩ := hys
        exact checked_of_first review hsave (.inl rfl)
      | none => exact checked_of_first review hsave (flagAll_ends hys).2.1
    · have haside : (SinkCall.setAside b found).Checked codes :=
        ⟨hfound, Bool.eq_false_iff.2 hvalid⟩
      simp only [hvalid, Bool.false_eq_true, if_false] at h
      obtain ⟨failure, ys, rfl, hys⟩ := h
      cases failure with
      | some e =>
        obtain ⟨rfl, -⟩ := hys
        exact checked_of_first review haside (.inl rfl)
      | none => exact checked_of_first review haside (flagAll_ends hys).2.1

theorem checked_of_settle {s : Setup} {g : GameId} {lineup : Lineup} {answer : Answer}
    {xs : List Exchange} {result : Attempt} (h : (settle s g lineup answer).Ends xs result) :
    ∀ c ∈ writesOf xs, c.Checked s.history.canonicalCodes := by
  cases answer with
  | error e =>
    obtain ⟨rfl, -⟩ := h
    exact List.forall_mem_nil _
  | ok markup =>
    obtain ⟨xs, ys, v, rfl, hv, h⟩ := Work.ends_bind h
    obtain ⟨ys, _, o, rfl, ho, rfl, rfl⟩ := Work.ends_bind h
    obtain ⟨⟨hquiet, -⟩, -⟩ := inspect_ends hv
    rw [List.append_nil, writesOf_append, hquiet, List.nil_append]
    exact checked_of_keepVerdict (checked_of_inspect hv) ho

/-- All that the work on a job writes is checked. -/
theorem checked_of_workOn {s : Setup} {job : Job} {xs : List Exchange} {ending : Ending}
    (h : (workOn s job).Ends xs ending) :
    ∀ c ∈ writesOf xs, c.Checked s.history.canonicalCodes := by
  obtain ⟨xs, ys, result, rfl, ha, h⟩ := Work.ends_bind h
  obtain ⟨ls, ps, zs, lineup, answer, rfl, hl, hp, hs⟩ := attempt_ends ha
  have hy : ∀ c ∈ writesOf ys, c.Checked s.history.canonicalCodes := by
    have hfinish : ∀ g, (finish g).Ends ys ending →
        ∀ c ∈ writesOf ys, c.Checked s.history.canonicalCodes := by
      intro g hg c hc
      rw [(finish_ends hg).2.1] at hc
      rw [List.mem_singleton.1 hc]
      trivial
    cases result with
    | settled o => exact hfinish _ h
    | retry e =>
      unfold conclude at h
      by_cases hm : job.attempt < s.settings.retry.maxAttempts
      · simp only [hm, if_true] at h
        obtain ⟨rfl, -⟩ := h
        exact List.forall_mem_nil _
      · simp only [hm, if_false] at h
        exact hfinish _ h
  intro c hc
  rw [writesOf_append, writesOf_append, writesOf_append, writesOf_of_fetchLineup hl,
    (fetchPage_ends hp).1, List.nil_append, List.nil_append] at hc
  rcases List.mem_append.1 hc with hc | hc
  · exact checked_of_settle hs c hc
  · exact hy c hc

namespace Run

section
variable {s : Setup} {n : Nat} {id : Uuid} {now : Instant} {shared : Shared} {ids : List String}
  {past : List Dealing} {r : Run}

/-- A run keeps the store checked. -/
theorem Reached.checked (h : Reached s (startWith n id now shared ids) past r)
    (hst : shared.store.Checked s.history.canonicalCodes) :
    r.shared.store.Checked s.history.canonicalCodes := by
  refine h.invariant (P := fun _ r => r.shared.store.Checked s.history.canonicalCodes) hst ?_
  intro past r ds r' hr _ hs ih
  cases hs with
  | refuse hg => exact checked_write ih (checked_of_isRecord rfl) ..
  | finish hrf hp => exact checked_write ih (checked_of_isRecord rfl) ..
  | @move i m w t hi ht =>
    have hturned := Worker.turned_of_turn ht
    obtain ⟨cs, htr⟩ := hr.tracked
    obtain ⟨job, xs, ending, -, -, hends, hsub⟩ := htr.work_of_move hi hturned
    have hwrites : ∀ c ∈ writesOf t.exchanged, c.Checked s.history.canonicalCodes :=
      fun c hc => checked_of_workOn hends c (List.filterMap_subset _ hsub hc)
    obtain ⟨when, hstore⟩ := hturned.store
    simp only [put, hstore]
    exact checked_foldl ih hwrites ..
  | _ => exact ih

end

/-- The stores that an empty one can come to by runs with a history of franchises, one after
another.  Runs may stop at any event, and anything but the store may change between them. -/
inductive Filled (h : Franchise.History) : Store → Prop
  | empty : Filled h .empty
  | run {s : Setup} {n : Nat} {id : Uuid} {now : Instant} {shared : Shared} {ids : List String}
      {past : List Dealing} {r : Run} :
      s.history = h → Filled h shared.store → Reached s (startWith n id now shared ids) past r →
        Filled h r.shared.store
  | roster {st : Store} (e : RosterEntry) : Filled h st → Filled h (st.addRosterEntry e)

theorem Filled.checked {h : Franchise.History} {st : Store} (hf : Filled h st) :
    st.Checked h.canonicalCodes := by
  induction hf with
  | empty => exact Store.checked_empty _
  | run hs _ hr ih =>
    subst hs
    exact hr.checked ih
  | roster e _ ih => exact ⟨ih.games, ih.quarantine⟩

/-- A game that is read as accepted is valid by what validation finds in it, so nothing that
acceptance takes is missing; a game that is read as set aside is not valid, for at least one
error. -/
theorem only_valid_games_accepted {h : Franchise.History} {st : Store} (hf : Filled h st)
    (gameId : String) :
    (∀ g, st.game gameId = .ok (some g) →
      g.validation = .ofBoxScore h.canonicalCodes g.boxScore ∧ g.validation.isValid = true ∧
        g.boxScore.gameId = gameId ∧ g.boxScore.Acceptable h.canonicalCodes) ∧
    (∀ g, st.gameSetAside gameId = .ok (some g) →
      g.validation = .ofBoxScore h.canonicalCodes g.boxScore ∧ g.validation.isValid = false ∧
        g.boxScore.gameId = gameId ∧ g.validation.errors ≠ []) := by
  have hchecked := hf.checked
  constructor
  · intro g hg
    obtain ⟨hid, hv, hvalid⟩ := hchecked.game hg
    refine ⟨hv, hvalid, hid, Validation.isValid_ofBoxScore.1 ?_⟩
    rw [← hv]
    exact hvalid
  · intro g hg
    obtain ⟨hid, hv, hvalid⟩ := hchecked.gameSetAside hg
    refine ⟨hv, hvalid, hid, fun hnone => ?_⟩
    have hempty : g.validation.isValid = g.validation.errors.isEmpty := by
      rw [hv]
      rfl
    rw [hnone, hvalid] at hempty
    cases hempty

/-! ### A valid game and another one -/

/-- The write that a worker makes next. -/
def nextWrite? (clock : Nat) : Worker → Option SinkCall
  | .busy _ since (.call c _) => if since ≤ clock then some c else none
  | _ => none

/-- The next write of a worker can be carried out, and no other worker goes on with it. -/
theorem Reached.nextWrite {s : Setup} {start r : Run} {past : List Dealing} {i : Nat}
    {c : SinkCall} (h : Reached s start past r) (ho : r.ended = false)
    (hc : r.workers[i]?.bind (nextWrite? r.clock) = some c) :
    ∃ past' r', Reached s start past' r' ∧ r'.ended = false ∧ r'.clock = r.clock ∧
      r'.shared.store = c.perform r.id .epoch r.shared.store ∧
      ∀ j, i ≠ j → r'.workers[j]? = r.workers[j]? := by
  obtain ⟨w, hw, hc⟩ := Option.bind_eq_some_iff.1 hc
  unfold nextWrite? at hc
  split at hc
  · rename_i job since c next
    split at hc
    · rename_i hs
      cases hc
      have hclock : since ≤ r.shared.clock := hs
      have hstep : r.step s (.move i (.call .epoch none)) =
          some ({ r with shared := r.shared.write r.id .epoch none c }.put i
            (.busy job r.clock (next none))) := by
        simp only [step, ho, turn?, hw, Worker.turn?, Worker.goOn, hclock, Bool.false_eq_true,
          if_false, if_true, Option.bind_some, Option.map_some]
        rfl
      exact ⟨_, _, h.next hstep, ho, rfl, rfl, fun j hj => List.getElem?_set_ne hj⟩
    · cases hc
  · cases hc

/-- A legacy page with one hitter and one pitcher on each side. -/
def shortMarkup : String :=
  "<table id=tblAwayHitter1><td><td><td>A</table><table id=tblAwayHitter3><tr>" ++
  "<table id=tblAwayPitcher><th>선수명<tr><td>B</table>" ++
  "<table id=tblHomeHitter1><td><td><td>A</table><table id=tblHomeHitter3><tr>" ++
  "<table id=tblHomePitcher><th>선수명<tr><td>B</table>"

/-- The tables of `shortMarkup`. -/
def shortPage : Page :=
  let cell (text : String) : Page.Cell := ⟨text, none, none⟩
  let tables (side : String) : List Page.Table :=
    [⟨some ("tbl" ++ side ++ "Hitter1"), [], [[cell "", cell "", cell "A"]]⟩,
      ⟨some ("tbl" ++ side ++ "Hitter3"), [], [[]]⟩,
      ⟨some ("tbl" ++ side ++ "Pitcher"), ["선수명"], [[cell "B"]]⟩]
  ⟨tables "Away" ++ tables "Home", none⟩

theorem ofMarkup_shortMarkup : Page.ofMarkup shortMarkup = shortPage :=
  Page.ofMarkup_eq (by decide +kernel)

/-- A history of a single team that begins in 1982. -/
def lateSetup : Setup :=
  { bareSetup with
    history := .ofReference ⟨[⟨⟨1⟩, "SS", 1982, none⟩], [⟨⟨1⟩, "SS"⟩], [], [], []⟩ }

def lateStart : Run :=
  startWith 2 .nil .epoch (.initial lateSetup.settings .empty) ["19900412SSSS0", "19800412SSSS0"]

def getPages (markup : String) : List Event :=
  takeGame 0 ++ takeGame 1 ++ .tick 60000 :: 
    getAnswer 0 true (.ok markup) ++ getAnswer 1 false (.ok markup)

def playedGame : GameId := ⟨"19900412SSSS0", ⟨1990, 4, 12, by decide⟩, 1990, "SS", "SS", 0⟩
def earlyGame : GameId := ⟨"19800412SSSS0", ⟨1980, 4, 12, by decide⟩, 1980, "SS", "SS", 0⟩

def judging (g : GameId) (verdict : Work Verdict) : Worker :=
  .busy ⟨g, 1⟩ 60000 ((verdict.bind fun v =>
    (keepVerdict v).bind fun outcome => .done (.settled outcome)).bind
      (Ingest.conclude lateSetup ⟨g, 1⟩))

theorem workers_getPages (markup : String) :
    ((lateStart.follow lateSetup (getPages markup)).map fun p => p.2.workers) =
      some [judging playedGame (inspect lateSetup playedGame .empty markup),
        judging earlyGame (inspect lateSetup earlyGame .empty markup)] := by rfl

def shortBoxScore (g : GameId) : BoxScore :=
  (Page.extract lateSetup.history shortPage g.text (some g.date)).toOption.getD
    (.blank g.text none .legacy)

/-- The verdict on the short page, with an empty lineup. -/
def shortVerdict (g : GameId) : Work Verdict :=
  (seekPlayers lateSetup.resolver .empty (shortBoxScore g)).bind fun found =>
    .done (verdictOn lateSetup g (shortBoxScore g) found)

theorem inspect_shortMarkup {g : GameId}
    (h : (Page.extract lateSetup.history shortPage g.text (some g.date)).isOk = true) :
    inspect lateSetup g .empty shortMarkup = shortVerdict g := by
  unfold inspect shortVerdict shortBoxScore
  rw [ofMarkup_shortMarkup]
  cases hb : Page.extract lateSetup.history shortPage g.text (some g.date) with
  | ok b => rfl
  | error e =>
    rw [hb] at h
    cases h

/-- The run with both workers at the short page. -/
def shortRun : Run :=
  resumed lateSetup lateStart (getPages shortMarkup)
    [judging playedGame (shortVerdict playedGame), judging earlyGame (shortVerdict earlyGame)]

theorem reached_shortRun : ∃ past, Reached lateSetup lateStart past shortRun := by
  have hplayed : inspect lateSetup playedGame .empty shortMarkup = shortVerdict playedGame :=
    inspect_shortMarkup (by decide +kernel)
  have hearly : inspect lateSetup earlyGame .empty shortMarkup = shortVerdict earlyGame :=
    inspect_shortMarkup (by decide +kernel)
  obtain ⟨⟨past, r⟩, hfollow, hworkers⟩ := Option.map_eq_some_iff.1 (workers_getPages shortMarkup)
  rw [hplayed, hearly] at hworkers
  rw [shortRun, resumed_eq hfollow hworkers]
  exact ⟨past, Reached.start.follow hfollow⟩

/-- A box score that is read back from the store under an identifier. -/
def isLegible (gameId : String) (b : BoxScore) : Bool :=
  b.gameId == gameId && b.toJson.isPlain Json.maxDepth && (BoxScore.ofJson? b.toJson).isSome

theorem decode_of_isLegible {gameId : String} {b : BoxScore} (h : isLegible gameId b = true) :
    b.gameId = gameId ∧ ∃ b', Store.decode BoxScore.ofJson? b.toJson.compact = .ok b' := by
  simp only [isLegible, Bool.and_eq_true, beq_iff_eq] at h
  obtain ⟨⟨hid, hplain⟩, hsome⟩ := h
  obtain ⟨b', hb⟩ := Option.isSome_iff_exists.1 hsome
  exact ⟨hid, b', Store.decode_plain hplain hb⟩

/-- Whether the first worker is about to accept a game and the second to set one aside. -/
def aboutToKeep (r : Run) : Bool :=
  match r.ended, r.workers[0]?.bind (nextWrite? r.clock),
    r.workers[1]?.bind (nextWrite? r.clock) with
  | false, some (.save b _), some (.setAside b' _) =>
    isLegible "19900412SSSS0" b && isLegible "19800412SSSS0" b'
  | _, _, _ => false

theorem follow_shortRun : (shortRun.follow lateSetup
    (List.replicate 4 (.move 0 (.ask (.ok []))))).any (fun p => aboutToKeep p.2) = true := by
  decide +kernel

/-- Of two games with the same page one is accepted, and the other, of a season in which nobody
used its code, is set aside. -/
theorem valid_game_accepted_and_other_set_aside :
    ∃ st g g', Filled lateSetup.history st ∧
      st.game "19900412SSSS0" = .ok (some g) ∧ g.validation.isValid = true ∧
      g.validation = .ofBoxScore lateSetup.history.canonicalCodes g.boxScore ∧
      g.boxScore.Acceptable lateSetup.history.canonicalCodes ∧
      st.gameSetAside "19800412SSSS0" = .ok (some g') ∧ g'.validation.isValid = false ∧
      g'.validation = .ofBoxScore lateSetup.history.canonicalCodes g'.boxScore ∧
      g'.validation.errors ≠ [] := by
  obtain ⟨past, hreached⟩ := reached_shortRun
  obtain ⟨⟨ds, r⟩, hfollow, hkeep⟩ := (Option.any_eq_true ..).1 follow_shortRun
  have hr := hreached.follow hfollow
  unfold aboutToKeep at hkeep
  split at hkeep
  · rename_i b v b' v' hopen hsave hset
    obtain ⟨hlegible, hlegible'⟩ := Bool.and_eq_true_iff.1 hkeep
    obtain ⟨hid, read, hread⟩ := decode_of_isLegible hlegible
    obtain ⟨hid', read', hread'⟩ := decode_of_isLegible hlegible'
    -- First one worker accepts its game, then the other one sets its own aside.
    obtain ⟨past₁, r₁, hr₁, hopen₁, hclock₁, hstore₁, hothers⟩ := hr.nextWrite hopen hsave
    rw [← hothers 1 (by decide), ← hclock₁] at hset
    obtain ⟨past₂, r₂, hr₂, -, -, hstore₂, -⟩ := hr₁.nextWrite hopen₁ hset
    have hat : Store.decodeInstant Instant.epoch.offsetText = .ok .epoch := by rfl
    have hgame : r₂.shared.store.game "19900412SSSS0" =
        .ok (some ⟨read, ⟨true, [], v.warnings⟩, .epoch⟩) := by
      rw [hstore₂, hstore₁, ← hid]
      exact Store.game_save hread hat
    have haside : r₂.shared.store.gameSetAside "19800412SSSS0" =
        .ok (some ⟨read', ⟨v'.errors.isEmpty, v'.errors, v'.warnings⟩, .epoch⟩) := by
      rw [hstore₂, ← hid']
      exact Store.gameSetAside_setAside hread' hat
    have hfilled : Filled lateSetup.history r₂.shared.store := .run rfl .empty hr₂
    obtain ⟨hv, hvalid, -, hacceptable⟩ :=
      (only_valid_games_accepted hfilled "19900412SSSS0").1 _ hgame
    obtain ⟨hv', hvalid', -, herrors⟩ :=
      (only_valid_games_accepted hfilled "19800412SSSS0").2 _ haside
    exact ⟨_, _, _, hfilled, hgame, hvalid, hv, hacceptable, haside, hvalid', hv', herrors⟩
  · cases hkeep

end Run

end Scorebook.Ingest
