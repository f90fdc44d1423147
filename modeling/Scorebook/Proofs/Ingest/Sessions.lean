import Scorebook.Proofs.Ingest.Accounts
import Scorebook.Proofs.Ingest.Completion
import Scorebook.Proofs.Ingest.Tidiness
import Scorebook.Proofs.SessionPool

/-!
# The sessions of runs

The loans of the pool are what the workers hold, in every state of a run and through runs one after
the other, and what a run does with the pool is a history of the pool.  A session that a failure
spoiled is either dropped already or held by a worker that drops it next, so it is not fetched over
again.
-/

namespace Scorebook.Ingest
open SessionPool (Act)

namespace Worker

def loan? : Worker → Option Session
  | busy _ _ work => work.held?
  | fetching _ session _ _ _ _ => some session
  | _ => none

def opening? : Worker → Option Session
  | opening _ session _ => some session
  | _ => none

/-- The session that a worker drops next. -/
def dropping? : Worker → Option Session
  | busy _ _ work => work.dropping?
  | _ => none

def fetching? : Worker → Option Session
  | fetching _ session _ _ _ _ => some session
  | _ => none

def Tidy : Worker → Prop
  | busy _ _ work => work.Tidy
  | opening _ _ next => (Work.acquire next).Tidy
  | fetching _ session url _ _ next => (Work.fetch session url next).Tidy
  | _ => True

theorem loan_of_dropping {w : Worker} {session : Session} (h : w.dropping? = some session) :
    w.loan? = some session := by
  cases w with
  | busy job since work => exact Work.held_of_dropping h
  | _ => cases h

theorem loan_of_fetching {w : Worker} {session : Session} (h : w.fetching? = some session) :
    w.loan? = some session := by
  cases w with
  | fetching job s url deadline answer next => exact h
  | _ => cases h

theorem not_both {w : Worker} {session : Session} (h : w.fetching? = some session) :
    w.dropping? = none := by
  cases w with
  | fetching job s url deadline answer next => rfl
  | _ => cases h

end Worker

theorem Worker.jobless {w : Worker} (h : w.job? = none) :
    w.loan? = none ∧ w.opening? = none ∧ w.dropping? = none ∧ w.Tidy := by
  cases w with
  | idle => exact ⟨rfl, rfl, rfl, trivial⟩
  | stopped => exact ⟨rfl, rfl, rfl, trivial⟩
  | _ => cases h

theorem pairwise_append_quiet {xs ys : List Exchange}
    (h : xs.Pairwise fun x y => ∀ s, x.spoiled? = some s → y.used? ≠ some s)
    (hquiet : ∀ y ∈ ys, y.used? = none) :
    (xs ++ ys).Pairwise fun x y => ∀ s, x.spoiled? = some s → y.used? ≠ some s := by
  refine List.pairwise_append.2 ⟨h, ?_, ?_⟩
  · refine List.pairwise_of_forall_mem_list ?_
    intro x _ y hy s _
    rw [hquiet y hy]
    exact nofun
  · intro x _ y hy s _
    rw [hquiet y hy]
    exact nofun

/-- After some exchanges of its workers and some acts upon it, the pool lends what the workers hold,
and what was spoiled is dropped, or will be by the worker that holds it. -/
structure Kept (size : Nat) (xs : List Exchange) (acts : List Act) (pool : SessionPool)
    (ws : List Worker) : Prop where
  history : SessionPool.Reached size acts pool
  tidy : ∀ w ∈ ws, w.Tidy
  loans : pool.loans.Perm (ws.filterMap Worker.loan?)
  opening : pool.opening.Perm (ws.filterMap Worker.opening?)
  spoiled : ∀ x ∈ xs, ∀ s, x.spoiled? = some s →
    .discarded s ∈ acts ∨ ∃ w ∈ ws, w.dropping? = some s
  last : xs.Pairwise fun x y => ∀ s, x.spoiled? = some s → y.used? ≠ some s

namespace Kept
variable {size : Nat} {xs : List Exchange} {acts : List Act} {pool : SessionPool}
  {ws ws' others : List Worker} {w v : Worker}

theorem perm (h : Kept size xs acts pool ws) (hw : ws.Perm ws') : Kept size xs acts pool ws' where
  history := h.history
  tidy := fun w hm => h.tidy w (hw.mem_iff.2 hm)
  loans := h.loans.trans (hw.filterMap _)
  opening := h.opening.trans (hw.filterMap _)
  spoiled := fun x hx s hs => (h.spoiled x hx s hs).imp_right fun ⟨w, hm, hd⟩ =>
    ⟨w, hw.mem_iff.1 hm, hd⟩
  last := h.last

/-- What is spoiled is not with a worker, unless the worker drops it next. -/
theorem dropping_of_spoiled (h : Kept size xs acts pool (w :: others)) {x : Exchange} (hx : x ∈ xs)
    {s : Session} (hs : x.spoiled? = some s) (hl : w.loan? = some s) : w.dropping? = some s := by
  have haccounted := h.history.accounted
  have hloans : pool.loans.Perm (s :: others.filterMap Worker.loan?) := by
    have hloans := h.loans
    rwa [List.filterMap_cons_some hl] at hloans
  rcases h.spoiled x hx s hs with hd | ⟨w', hw', hd⟩
  · -- A dropped session is on no loan.
    have hgone := (haccounted.not_mem_of_dropped (SessionPool.mem_discardedIn.2 hd)).2.1
    exact absurd (hloans.mem_iff.2 List.mem_cons_self) hgone
  · rcases List.mem_cons.1 hw' with rfl | hm
    · exact hd
    · -- Another worker cannot hold it as well.
      have honce := hloans.nodup_iff.1 haccounted.nodup_loans
      have hother := List.mem_filterMap.2 ⟨w', hm, Worker.loan_of_dropping hd⟩
      exact absurd hother (List.nodup_cons.1 honce).1

theorem not_fetching (h : Kept size xs acts pool ws) {x : Exchange} (hx : x ∈ xs) {s : Session}
    (hs : x.spoiled? = some s) (hw : w ∈ ws) : w.fetching? ≠ some s := by
  intro hf
  obtain ⟨i, hi⟩ := List.getElem?_of_mem hw
  obtain ⟨others, hperm, -⟩ := exists_perm_set hi
  have hd := (h.perm hperm).dropping_of_spoiled hx hs (Worker.loan_of_fetching hf)
  rw [Worker.not_both hf] at hd
  cases hd

theorem not_idle (h : Kept size xs acts pool ws) {x : Exchange} (hx : x ∈ xs) {s : Session}
    (hs : x.spoiled? = some s) : s ∉ pool.idle := by
  have haccounted := h.history.accounted
  rcases h.spoiled x hx s hs with hd | ⟨w, hw, hd⟩
  · exact (haccounted.not_mem_of_dropped (SessionPool.mem_discardedIn.2 hd)).1
  · have hl := h.loans.mem_iff.2 (List.mem_filterMap.2 ⟨w, hw, Worker.loan_of_dropping hd⟩)
    exact haccounted.not_idle_of_loan hl

/-! ### One turn -/

/-- A worker goes on without a page; whatever it was to drop is dropped. -/
theorem next {new : List Act} {pool' : SessionPool} {ys : List Exchange}
    (h : Kept size xs acts pool (w :: others)) (hpool : SessionPool.Reached size (acts ++ new) pool')
    (htidy : v.Tidy) (hloans : pool'.loans.Perm (v.loan?.toList ++ others.filterMap Worker.loan?))
    (hopening : pool'.opening.Perm (v.opening?.toList ++ others.filterMap Worker.opening?))
    (hdrop : ∀ s, w.dropping? = some s → .discarded s ∈ new) (hquiet : ∀ y ∈ ys, y.used? = none) :
    Kept size (xs ++ ys) (acts ++ new) pool' (v :: others) where
  history := hpool
  tidy := by
    intro w' hw'
    rcases List.mem_cons.1 hw' with rfl | hm
    · exact htidy
    · exact h.tidy w' (List.mem_cons_of_mem _ hm)
  loans := by
    rw [filterMap_cons_toList]
    exact hloans
  opening := by
    rw [filterMap_cons_toList]
    exact hopening
  spoiled := by
    intro x hx s hs
    rcases List.mem_append.1 hx with hx | hx
    · rcases h.spoiled x hx s hs with hd | ⟨w', hw', hd⟩
      · exact .inl (List.mem_append_left _ hd)
      · rcases List.mem_cons.1 hw' with rfl | hm
        · exact .inl (List.mem_append_right _ (hdrop s hd))
        · exact .inr ⟨w', List.mem_cons_of_mem _ hm, hd⟩
    · have hused := Exchange.used_of_spoiled hs
      rw [hquiet x hx] at hused
      cases hused
  last := pairwise_append_quiet h.last hquiet

/-- A worker goes on without the pool. -/
theorem pass {ys : List Exchange} (h : Kept size xs acts pool (w :: others)) (htidy : v.Tidy)
    (hloan : v.loan? = w.loan?) (hopening : v.opening? = w.opening?) (hdrop : w.dropping? = none)
    (hquiet : ∀ y ∈ ys, y.used? = none) : Kept size (xs ++ ys) acts pool (v :: others) := by
  have hloans := h.loans
  have hopen := h.opening
  have hhistory : SessionPool.Reached size (acts ++ []) pool := by
    rw [List.append_nil]
    exact h.history
  rw [filterMap_cons_toList, ← hloan] at hloans
  rw [filterMap_cons_toList, ← hopening] at hopen
  have hnext := h.next hhistory htidy hloans hopen (by simp [hdrop]) hquiet
  rwa [List.append_nil] at hnext

/-- A worker has the answer to its fetch and still holds the session, which it drops next if the
answer spoiled it. -/
theorem page {session : Session} {url : String} {answer : Answer}
    (h : Kept size xs acts pool (w :: others)) (hw : w.fetching? = some session)
    (hv : v.loan? = some session) (hopening : v.opening? = w.opening?) (htidy : v.Tidy)
    (hdrop : (Exchange.page session url answer).spoiled? = some session →
      v.dropping? = some session) :
    Kept size (xs ++ [.page session url answer]) acts pool (v :: others) where
  history := h.history
  tidy := by
    intro w' hw'
    rcases List.mem_cons.1 hw' with rfl | hm
    · exact htidy
    · exact h.tidy w' (List.mem_cons_of_mem _ hm)
  loans := by
    have hloans := h.loans
    rwa [filterMap_cons_toList, Worker.loan_of_fetching hw, ← hv, ← filterMap_cons_toList] at hloans
  opening := by
    have hopen := h.opening
    rwa [filterMap_cons_toList, ← hopening, ← filterMap_cons_toList] at hopen
  spoiled := by
    intro x hx s hs
    rcases List.mem_append.1 hx with hx | hx
    · rcases h.spoiled x hx s hs with hd | ⟨w', hw', hd⟩
      · exact .inl hd
      · rcases List.mem_cons.1 hw' with rfl | hm
        · rw [Worker.not_both hw] at hd
          cases hd
        · exact .inr ⟨w', List.mem_cons_of_mem _ hm, hd⟩
    · obtain rfl := List.mem_singleton.1 hx
      have hused := Exchange.used_of_spoiled hs
      cases hused
      exact .inr ⟨v, List.mem_cons_self, hdrop hs⟩
  last := by
    refine List.pairwise_append.2 ⟨h.last, List.pairwise_singleton _ _, ?_⟩
    intro x hx y hy s hs hused
    obtain rfl := List.mem_singleton.1 hy
    cases hused
    exact h.not_fetching hx hs List.mem_cons_self hw

/-- Every turn of a worker keeps the sessions in order. -/
theorem turn {s : Setup} {run : Uuid} {sh : Shared} {t : Turn}
    (h : Kept size xs acts sh.pool (w :: others)) (ht : Worker.Turns s run sh w t) :
    ∃ acts', Kept size (xs ++ t.exchanged) acts' t.shared.pool (t.worker :: others) := by
  have htidy := h.tidy w List.mem_cons_self
  have hloans := h.loans
  have hopening := h.opening
  rw [filterMap_cons_toList] at hloans hopening
  cases ht with
  | @reserve job since host next draw hs =>
    obtain ⟨hheld, hnext⟩ := htidy
    exact ⟨acts, h.pass hnext hheld rfl rfl (by simp [Exchange.used?])⟩
  | @parked job since next pool session hs hp =>
    obtain ⟨hheld, hnext⟩ := htidy (.ok session)
    obtain ⟨hlent, hopen⟩ := SessionPool.acquire_parked hp
    have hstep : SessionPool.Step sh.pool (.asked (.parked session)) pool := by
      have hasks := SessionPool.Step.asks (p := sh.pool)
      rwa [hp] at hasks
    refine ⟨acts ++ [_], h.next (h.history.next hstep) hnext ?_ ?_ (fun _ hs => by cases hs) ?_⟩
    · rw [Worker.loan?, hheld, hlent]
      exact hloans.cons session
    · rw [hopen]
      exact hopening
    · simp [Exchange.used?]
  | @toOpen job since next pool session hs hp =>
    obtain ⟨hlent, hopen⟩ := SessionPool.acquire_toOpen hp
    have hstep : SessionPool.Step sh.pool (.asked (.toOpen session)) pool := by
      have hasks := SessionPool.Step.asks (p := sh.pool)
      rwa [hp] at hasks
    refine ⟨acts ++ [_], h.next (h.history.next hstep) htidy ?_ ?_ (fun _ hs => by cases hs) ?_⟩
    · rw [hlent]
      exact hloans
    · rw [hopen]
      exact hopening.cons session
    · simp
  | @opened job session next =>
    obtain ⟨hheld, hnext⟩ := htidy (.ok session)
    have hmem : session ∈ sh.pool.opening := hopening.mem_iff.2 List.mem_cons_self
    refine ⟨acts ++ [_], h.next (h.history.next (.opens hmem)) hnext ?_ ?_
      (fun _ hs => by cases hs) ?_⟩
    · rw [SessionPool.opened, if_pos hmem, Worker.loan?, hheld]
      exact hloans.cons session
    · rw [SessionPool.opened, if_pos hmem]
      have herase := hopening.erase session
      rwa [Worker.opening?, Option.toList, List.cons_append, List.erase_cons_head] at herase
    · simp [Exchange.used?]
  | @failed job session next e =>
    obtain ⟨hheld, hnext⟩ := htidy (.error e)
    have hmem : session ∈ sh.pool.opening := hopening.mem_iff.2 List.mem_cons_self
    refine ⟨acts ++ [_], h.next (h.history.next (.givesUp hmem)) hnext ?_ ?_
      (fun _ hs => by cases hs) ?_⟩
    · rw [SessionPool.abandon, if_pos hmem, Worker.loan?, hheld]
      exact hloans
    · rw [SessionPool.abandon, if_pos hmem]
      have herase := hopening.erase session
      rwa [Worker.opening?, Option.toList, List.cons_append, List.erase_cons_head] at herase
    · simp [Exchange.used?]
  | @send job since session url next answer hs =>
    have hmem : session ∈ sh.pool.loans := hloans.mem_iff.2 List.mem_cons_self
    refine ⟨acts ++ [_], h.next (h.history.next (.fetches hmem)) htidy hloans hopening ?_ ?_⟩
    · rintro s' ⟨⟩
    · simp
  | @receive job session url deadline answer next =>
    obtain ⟨hheld, hdrop, hnext⟩ := htidy answer
    exact ⟨acts, h.page rfl hheld rfl hnext hdrop⟩
  | @cut job session url deadline answer next hd =>
    obtain ⟨hheld, hdrop, hnext⟩ := htidy (.error .timeout)
    exact ⟨acts, h.page rfl hheld rfl hnext hdrop⟩
  | @release job since session next hs =>
    obtain ⟨hheld, hnext⟩ := htidy
    have hmem : session ∈ sh.pool.loans := hloans.mem_iff.2 List.mem_cons_self
    refine ⟨acts ++ [_], h.next (h.history.next (.returns hmem)) hnext ?_ ?_
      (fun _ hs => by cases hs) ?_⟩
    · rw [SessionPool.release, if_pos hmem, Worker.loan?, hheld]
      have herase := hloans.erase session
      rwa [Worker.loan?, Work.held?, Option.toList, List.cons_append,
        List.erase_cons_head] at herase
    · rw [SessionPool.release, if_pos hmem]
      exact hopening
    · simp [Exchange.used?]
  | @discard job since session next hs =>
    obtain ⟨hheld, hnext⟩ := htidy
    have hmem : session ∈ sh.pool.loans := hloans.mem_iff.2 List.mem_cons_self
    refine ⟨acts ++ [_], h.next (h.history.next (.discards hmem)) hnext ?_ ?_ ?_ ?_⟩
    · rw [SessionPool.discard, if_pos hmem, Worker.loan?, hheld]
      have herase := hloans.erase session
      rwa [Worker.loan?, Work.held?, Option.toList, List.cons_append,
        List.erase_cons_head] at herase
    · rw [SessionPool.discard, if_pos hmem]
      exact hopening
    · rintro s' ⟨⟩
      exact List.mem_singleton_self _
    · simp [Exchange.used?]
  | @ask job since q next answer hs =>
    obtain ⟨hheld, hnext⟩ := htidy answer
    exact ⟨acts, h.pass hnext hheld rfl rfl (by simp [Exchange.used?])⟩
  | @call job since c next now failure hs =>
    obtain ⟨hheld, hnext⟩ := htidy failure
    rw [pool_write]
    exact ⟨acts, h.pass hnext hheld rfl rfl (by simp [Exchange.used?])⟩

/-! ### Every event -/

/-- Exchanges without a page change nothing. -/
theorem quiet {ys : List Exchange} (h : Kept size xs acts pool ws)
    (hquiet : ∀ y ∈ ys, y.used? = none) : Kept size (xs ++ ys) acts pool ws where
  history := h.history
  tidy := h.tidy
  loans := h.loans
  opening := h.opening
  spoiled := by
    intro x hx s hs
    rcases List.mem_append.1 hx with hx | hx
    · exact h.spoiled x hx s hs
    · have hused := Exchange.used_of_spoiled hs
      rw [hquiet x hx] at hused
      cases hused
  last := pairwise_append_quiet h.last hquiet

/-- A worker is replaced by one with the same session. -/
theorem put {i : Nat} (h : Kept size xs acts pool ws) (hi : ws[i]? = some w) (htidy : v.Tidy)
    (hloan : v.loan? = w.loan?) (hopening : v.opening? = w.opening?) (hdrop : w.dropping? = none) :
    Kept size (xs ++ []) acts pool (ws.set i v) := by
  obtain ⟨others, hperm, hset⟩ := exists_perm_set hi
  have hpass := (h.perm hperm).pass htidy hloan hopening hdrop (List.forall_mem_nil _)
  exact hpass.perm (hset v).symm

theorem steps {s : Setup} {r r' : Run} {ds : List Dealing}
    (h : Kept size xs acts r.shared.pool r.workers) (hs : r.Steps s ds r') :
    ∃ acts', Kept size (xs ++ ds.map Dealing.exchange) acts' r'.shared.pool r'.workers := by
  cases hs with
  | tick hc => exact ⟨acts, h.quiet (List.forall_mem_nil _)⟩
  | @refuse now failure g rest hg =>
    have hpool := pool_write r.shared r.id now failure (.outcome g)
    exact ⟨acts, hpool ▸ h.quiet (by simp [Exchange.used?])⟩
  | @take i job queue hi hq hr =>
    have hneat := neat_workOn s job
    exact ⟨acts, h.put hi hneat.tidy hneat.held rfl rfl⟩
  | @move i m w t hi ht =>
    obtain ⟨others, hperm, hset⟩ := exists_perm_set hi
    obtain ⟨acts', hturn⟩ := (h.perm hperm).turn (Worker.turns_of_turn ht)
    refine ⟨acts', ?_⟩
    rw [List.map_map, Function.comp_def, List.map_id']
    exact hturn.perm (hset t.worker).symm
  | report hi => exact ⟨acts, h.put hi trivial rfl rfl rfl⟩
  | wait hi => exact ⟨acts, h.put hi trivial rfl rfl rfl⟩
  | fire hi hd => exact ⟨acts, h.quiet (List.forall_mem_nil _)⟩
  | stop hi hs => exact ⟨acts, h.put hi trivial rfl rfl rfl⟩
  | collect hg hp => exact ⟨acts, h.quiet (List.forall_mem_nil _)⟩
  | @finish now failure hr hp =>
    have hpool := pool_write r.shared r.id now failure (.run (r.closing now))
    exact ⟨acts, hpool ▸ h.quiet (by simp [Exchange.used?])⟩

/-- Workers without a job can be exchanged for others. -/
theorem jobless (h : Kept size xs acts pool ws) (hws : ∀ w ∈ ws, w.job? = none)
    (hws' : ∀ w ∈ ws', w.job? = none) : Kept size xs acts pool ws' := by
  have hnone : ∀ vs : List Worker, (∀ w ∈ vs, w.job? = none) →
      vs.filterMap Worker.loan? = [] ∧ vs.filterMap Worker.opening? = [] := by
    intro vs hvs
    refine ⟨List.filterMap_eq_nil_iff.2 ?_, List.filterMap_eq_nil_iff.2 ?_⟩
    · exact fun w hw => (Worker.jobless (hvs w hw)).1
    · exact fun w hw => (Worker.jobless (hvs w hw)).2.1
  have hloans := h.loans
  have hopening := h.opening
  rw [(hnone ws hws).1, ← (hnone ws' hws').1] at hloans
  rw [(hnone ws hws).2, ← (hnone ws' hws').2] at hopening
  refine ⟨h.history, ?_, hloans, hopening, ?_, h.last⟩
  · exact fun w hw => (Worker.jobless (hws' w hw)).2.2.2
  · intro x hx s hs
    rcases h.spoiled x hx s hs with hd | ⟨w, hw, hd⟩
    · exact .inl hd
    · rw [(Worker.jobless (hws w hw)).2.2.1] at hd
      cases hd

end Kept

/-! ### Runs one after the other -/

namespace Run

/-- Runs one after the other with what they share, and their dealings. -/
inductive Series (s : Setup) (first : Shared) : List Dealing → Shared → Prop
  | start : Series s first [] first
  | run {past ds : List Dealing} {shared : Shared} {n : Nat} {id : Uuid} {now : Instant}
      {ids : List String} {r : Run} :
      Series s first past shared → Reached s (startWith n id now shared ids) ds r →
        r.ended = true → Series s first (past ++ ds) r.shared

section
variable {s : Setup} {n size : Nat} {id : Uuid} {now : Instant} {first shared : Shared}
  {ids : List String} {past ds : List Dealing} {r : Run} {xs : List Exchange} {acts : List Act}

theorem Reached.kept (h : Reached s (startWith n id now shared ids) past r)
    (hk : Kept size xs acts shared.pool []) :
    ∃ acts', Kept size (xs ++ past.map Dealing.exchange) acts' r.shared.pool r.workers := by
  refine h.invariant (P := fun past r =>
    ∃ acts', Kept size (xs ++ past.map Dealing.exchange) acts' r.shared.pool r.workers) ?_ ?_
  · have hidle : ∀ w ∈ (startWith n id now shared ids).workers, w.job? = none := by
      intro w hw
      rw [List.eq_of_mem_replicate hw]
      rfl
    exact ⟨acts, (hk.jobless (List.forall_mem_nil _) hidle).quiet (List.forall_mem_nil _)⟩
  · rintro past r ds r' _ _ hs ⟨acts', ih⟩
    rw [List.map_append, ← List.append_assoc]
    exact ih.steps hs

/-- When a run ends no worker holds a job. -/
theorem Reached.jobless (h : Reached s (startWith n id now shared ids) past r)
    (he : r.ended = true) : ∀ w ∈ r.workers, w.job? = none := by
  intro w hw
  have hpos : 1 ≤ n := by
    have hlen := h.workers_stay.1
    have hworkers := List.length_pos_of_mem hw
    omega
  exact List.filterMap_eq_nil_iff.1 (h.all_empty hpos he).2.2.2 w hw

theorem Series.kept (h : Series s first past shared) (hfirst : first.pool = .ofSize size) :
    ∃ acts, Kept size (past.map Dealing.exchange) acts shared.pool [] := by
  induction h with
  | start =>
    refine ⟨[], hfirst ▸ .start, List.forall_mem_nil _, ?_, ?_, List.forall_mem_nil _, .nil⟩
    · rw [hfirst]
      exact .refl _
    · rw [hfirst]
      exact .refl _
  | run _ hr he ih =>
    obtain ⟨acts, hk⟩ := ih
    obtain ⟨acts', hk'⟩ := hr.kept hk
    rw [List.map_append]
    exact ⟨acts', hk'.jobless (hr.jobless he) (List.forall_mem_nil _)⟩

end

/-- Whatever the callers of a pool do, its sessions and permits are in order.  The workers of runs
are such callers, and the loans of the pool are what they hold.  So over a session that a failure
spoiled no run fetches again: no later page comes over it, it is not parked, and no worker is
fetching over it. -/
theorem sessions_in_order :
    (∀ (size : Nat) (past : List Act) (p : SessionPool),
      SessionPool.Reached size past p → p.InOrder size past) ∧
    ∀ (s : Setup) (size n : Nat) (id : Uuid) (now : Instant) (first shared : Shared)
      (ids : List String) (past ds : List Dealing) (r : Run), first.pool = .ofSize size →
        Series s first past shared → Reached s (startWith n id now shared ids) ds r →
          (∃ acts, SessionPool.Reached size acts r.shared.pool) ∧
          r.shared.pool.loans.Perm (r.workers.filterMap Worker.loan?) ∧
          r.shared.pool.opening.Perm (r.workers.filterMap Worker.opening?) ∧
          ((past ++ ds).map Dealing.exchange).Pairwise
            (fun x y => ∀ session, x.spoiled? = some session → y.used? ≠ some session) ∧
          ∀ x ∈ (past ++ ds).map Dealing.exchange, ∀ session, x.spoiled? = some session →
            session ∉ r.shared.pool.idle ∧ ∀ w ∈ r.workers, w.fetching? ≠ some session := by
  refine ⟨fun size past p h => h.inOrder, ?_⟩
  intro s size n id now first shared ids past ds r hfirst hseries hr
  obtain ⟨acts, hbefore⟩ := hseries.kept hfirst
  obtain ⟨acts', hkept⟩ := hr.kept hbefore
  rw [List.map_append]
  refine ⟨⟨acts', hkept.history⟩, hkept.loans, hkept.opening, hkept.last, ?_⟩
  intro x hx session hs
  exact ⟨hkept.not_idle hx hs, fun w hw => hkept.not_fetching hx hs hw⟩

/-- A pool of one session, which comes back once and is discarded once, and whose opening fails
once; and a run whose second attempt at a game fetches over another session than the first. -/
theorem second_session_after_failure :
    (∃ past p, SessionPool.Reached 0 past p ∧ p.InOrder 0 past ∧ p.loans = [3] ∧
      past = [.asked (.toOpen 1), .opened 1, .asked .blocked, .fetched 1, .returned 1,
        .asked (.parked 1), .discarded 1, .asked (.toOpen 2), .gaveUp 2, .asked (.toOpen 3),
        .opened 3]) ∧
    ∃ ds r, Reached bareSetup (bareStart 1 ["20240323HHLG0"]) ds r ∧
      r.workers.map Worker.fetching? = [some 2] ∧ r.shared.pool.loans = [2] ∧
      1 ∉ r.shared.pool.idle ∧ (ds.map Dealing.exchange).filterMap Exchange.spoiled? = [1] ∧
      ∀ w ∈ r.workers, w.fetching? ≠ some 1 := by
  obtain ⟨hpools, hruns⟩ := sessions_in_order
  constructor
  · have hreached := (SessionPool.Reached.start : SessionPool.Reached 0 [] _)
      |>.next .asks |>.next (.opens (s := 1) (by decide)) |>.next .asks
      |>.next (.fetches (s := 1) (by decide)) |>.next (.returns (s := 1) (by decide))
      |>.next .asks |>.next (.discards (s := 1) (by decide))
      |>.next .asks |>.next (.givesUp (s := 2) (by decide)) |>.next .asks
      |>.next (.opens (s := 3) (by decide))
    exact ⟨_, _, hreached, hpools _ _ _ hreached, by decide, by decide⟩
  · have hview : ((bareStart 1 ["20240323HHLG0"]).follow bareSetup (takeGame 0 ++ retryPage 0 ++
        takeGame 0 ++ [.move 0 .acquire, .move 0 (.opened none), .move 0 (.send none)])).map
          (fun p => (p.2.workers.map Worker.fetching?, p.2.workers.filterMap Worker.loan?,
            (p.1.map Dealing.exchange).filterMap Exchange.spoiled?)) =
              some ([some 2], [2], [1]) := by decide +kernel
    obtain ⟨⟨ds, r⟩, hfollow, hr⟩ := Option.map_eq_some_iff.1 hview
    obtain ⟨hfetching, hr⟩ := Prod.ext_iff.1 hr
    obtain ⟨hheld, hspoiled⟩ : r.workers.filterMap Worker.loan? = [2] ∧
        (ds.map Dealing.exchange).filterMap Exchange.spoiled? = [1] := Prod.ext_iff.1 hr
    have hreached := Reached.start.follow hfollow
    obtain ⟨_, hloans, _, _, hlast⟩ := hruns _ _ _ _ _ _ _ _ _ _ _ rfl .start hreached
    rw [hheld] at hloans
    have hone : 1 ∈ (ds.map Dealing.exchange).filterMap Exchange.spoiled? := by
      rw [hspoiled]
      exact List.mem_singleton_self 1
    obtain ⟨x, hx, hs⟩ := List.mem_filterMap.1 hone
    obtain ⟨hidle, hworkers⟩ := hlast x hx 1 hs
    exact ⟨ds, r, hreached, hfetching, List.perm_singleton.1 hloans, hidle, hspoiled, hworkers⟩

end Run

end Scorebook.Ingest
