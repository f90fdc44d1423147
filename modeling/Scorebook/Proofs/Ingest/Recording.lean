import Scorebook.Proofs.Ingest.Courses

/-!
# The records of results

A result goes to the store as a record of the run, made at the time of the write.  `Run.handed`
lists the records that were handed to the store along a list of events, each with the failure to
keep it, if there was one.  They are the records of the results that the run recorded, in the same
order, and the outcomes in the store grow by a row for each of them that did not fail.
-/

namespace Scorebook.Ingest

/-! ### Records handed to the store -/

/-- A record handed to the store, and the wording of the failure to keep it. -/
structure Handed where
  record : OutcomeRecord
  failure : Option String

def Handed.row? (h : Handed) : Option Store.Row :=
  match h.failure with
  | none => some (Store.outcomeRow h.record)
  | some _ => none

def Exchange.handed? (run : Uuid) (now : Instant) : Exchange → Option Handed
  | .write (.outcome g) failure => some ⟨g.record run now, failure⟩
  | _ => none

/-- The time at which an event writes; it does not matter for an event that does not write. -/
def Event.time : Event → Instant
  | .refuse now _ => now
  | .move _ (.call now _) => now
  | .finish now _ => now
  | _ => .epoch

/-- A record of a run says what a result is. -/
structure Tells (run : Uuid) (o : OutcomeRecord) (g : GameResult) : Prop where
  run : o.run = run
  gameId : o.gameId = g.gameId
  status : o.status = g.outcome.status
  attempts : o.attempts.toNat = g.attempts
  messages : o.messages = g.outcome.messages

/-- The record of a result holds its attempts as a count. -/
theorem tells_record {run : Uuid} {now : Instant} {g : GameResult}
    (h : g.attempts ≤ Text.maxU32) : Tells run (g.record run now) g where
  run := rfl
  gameId := rfl
  status := rfl
  attempts := (Count.toNat_saturate _).trans (Nat.min_eq_left h)
  messages := rfl

section
variable {run : Uuid} {now : Instant} {xs : List Exchange}

/-- What is handed to the store are the records of the results that are recorded. -/
theorem handed_of_recordedIn :
    List.Forall₂ (fun (h : Handed) g => ∃ now, h.record = g.record run now)
      (xs.filterMap (Exchange.handed? run now)) (recordedIn xs) := by
  induction xs with
  | nil => exact .nil
  | cons x rest ih =>
    match x with
    | .write (.outcome g) failure => exact .cons ⟨now, rfl⟩ ih
    | .write (.save b v) failure => exact ih
    | .write (.setAside b v) failure => exact ih
    | .write (.flag items) failure => exact ih
    | .write (.run summary) failure => exact ih
    | .slot host => exact ih
    | .session answer => exact ih
    | .page session url answer => exact ih
    | .released session => exact ih
    | .discarded session => exact ih
    | .question q answer => exact ih

end

/-! ### Rows -/

def Shared.outcomeRows (sh : Shared) : List Store.Row := sh.store.outcomes.toList

section
variable {sh : Shared} {run : Uuid}

/-- Of all writes, those of outcomes add a row to the outcomes, unless they fail. -/
theorem outcomeRows_write (now : Instant) (failure : Option String) (c : SinkCall) :
    (sh.write run now failure c).outcomeRows = sh.outcomeRows ++
      ([Exchange.write c failure].filterMap (Exchange.handed? run now)).filterMap Handed.row? := by
  cases failure with
  | some e => cases c <;> exact (List.append_nil _).symm
  | none =>
    cases c with
    | outcome g => exact Store.Log.toList_append _ _
    | flag items => exact (List.append_nil _).symm
    | _ => exact (List.append_nil _).symm

/-- A worker that is to write moves on by this write only. -/
theorem Worker.turn?_of_call {s : Setup} {job : Job} {since : Nat} {c : SinkCall}
    {next : Option String → Work Ending} {m : Move} {t : Turn}
    (h : (busy job since (.call c next)).turn? s run sh m = some t) :
    ∃ now failure, m = .call now failure ∧
      t = ⟨busy job sh.clock (next failure), sh.write run now failure c, [.write c failure]⟩ := by
  simp only [Worker.turn?] at h
  split at h
  · cases m with
    | call now failure =>
      cases h
      exact ⟨now, failure, rfl, rfl⟩
    | _ => cases h
  · cases h

theorem outcomeRows_turn {s : Setup} {i : Nat} {w : Worker} {m : Move} {t : Turn}
    (h : w.turn? s run sh m = some t) : t.shared.outcomeRows = sh.outcomeRows ++
      (t.exchanged.filterMap (Exchange.handed? run (Event.move i m).time)).filterMap
        Handed.row? := by
  cases Worker.turns_of_turn h with
  | call now failure hs =>
    obtain ⟨now, failure, rfl, ht⟩ := Worker.turn?_of_call h
    rw [ht]
    exact outcomeRows_write now failure _
  | _ => exact (List.append_nil _).symm

end

/-! ### Runs -/

namespace Run

/-- The records that an event hands to the store. -/
def handedAt (s : Setup) (r : Run) (e : Event) : List Handed :=
  ((r.dealings s e).map Dealing.exchange).filterMap (Exchange.handed? r.id e.time)

/-- The records that events in order hand to the store. -/
def handed (s : Setup) (r : Run) : List Event → List Handed
  | [] => []
  | e :: rest =>
    match r.step s e with
    | none => []
    | some r' => r.handedAt s e ++ r'.handed s rest

section
variable {s : Setup} {r r' last : Run} {ds past : List Dealing}

theorem Steps.id_eq (h : r.Steps s ds r') : r'.id = r.id := by
  cases h <;> rfl

/-- The store is left as it is by an event without dealings. -/
theorem Steps.store_eq (h : r.Steps s [] r') : r'.shared.store = r.shared.store := by
  generalize hds : ([] : List Dealing) = ds at h
  cases h with
  | refuse hg => cases hds
  | finish hr hp => cases hds
  | @move i m w t hi ht =>
    obtain ⟨now, hstore⟩ := (Worker.turned_of_turn ht).store
    rw [List.map_eq_nil_iff.1 hds.symm] at hstore
    exact hstore
  | _ => rfl

/-- The outcomes in the store grow by the records that an event hands to it without failure. -/
theorem outcomeRows_step {e : Event} (h : r.step s e = some r') : r'.shared.outcomeRows =
    r.shared.outcomeRows ++ (r.handedAt s e).filterMap Handed.row? := by
  obtain ⟨hn, hs⟩ := steps_of_step h
  simp only [step, hn] at h
  cases e with
  | refuse now failure =>
    simp only [Bool.false_eq_true, if_false] at h
    split at h
    · cases h
    · rename_i g rest hg
      cases h
      rw [handedAt, dealings, hg]
      exact outcomeRows_write now failure _
  | move i m =>
    obtain ⟨t, ht, rfl⟩ := Option.map_eq_some_iff.1 h
    obtain ⟨w, _, hturn⟩ := Option.bind_eq_some_iff.1 ht
    have hxs : (r.dealings s (.move i m)).map Dealing.exchange = t.exchanged := by
      simp only [dealings, ht, List.map_map, Function.comp_def, List.map_id']
    rw [handedAt, hxs]
    exact outcomeRows_turn hturn
  | finish now failure =>
    simp only [Bool.false_eq_true, if_false] at h
    split at h
    · cases h
      exact outcomeRows_write now failure _
    · cases h
  | _ =>
    rw [Shared.outcomeRows, hs.store_eq]
    exact (List.append_nil _).symm

/-- Events in order hand the records of the results that they record to the store, and a row is left
for each of them that did not fail. -/
theorem handed_of_follow {es : List Event} (h : r.follow s es = some (past, last)) :
    last.id = r.id ∧
      List.Forall₂ (fun (h : Handed) g => ∃ now, h.record = g.record r.id now) (r.handed s es)
        (recordedIn (past.map Dealing.exchange)) ∧
      last.shared.outcomeRows =
        r.shared.outcomeRows ++ (r.handed s es).filterMap Handed.row? := by
  induction es generalizing r past with
  | nil =>
    cases h
    exact ⟨rfl, .nil, (List.append_nil _).symm⟩
  | cons e rest ih =>
    obtain ⟨r', hr, h⟩ := Option.bind_eq_some_iff.1 h
    obtain ⟨⟨past', last'⟩, hrest, h⟩ := Option.bind_eq_some_iff.1 h
    cases h
    obtain ⟨hid, htold, hrows⟩ := ih hrest
    rw [(steps_of_step hr).2.id_eq] at hid htold
    simp only [handed, hr]
    refine ⟨hid, ?_, ?_⟩
    · rw [List.map_append, recordedIn_append]
      exact List.rel_append handed_of_recordedIn htold
    · rw [hrows, outcomeRows_step hr, List.filterMap_append, List.append_assoc]

end

end Run

end Scorebook.Ingest
