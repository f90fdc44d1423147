import Scorebook.Proofs.Ingest.Dealings
import Scorebook.Proofs.Ingest.Sequential
import Scorebook.Proofs.Store.Copies

/-!
# Games do not touch each other

The pages of a game are fetched for this game only, and its rows in the store are made by the writes
for it.  So what a run comes to for a game can be told from the exchanges for the game.
-/

namespace Scorebook.Ingest
open Text

/-! ### Pages of a game -/

theorem repliesTo_cons (url : String) (x : Exchange) (xs : List Exchange) :
    repliesTo url (x :: xs) = repliesTo url [x] ++ repliesTo url xs :=
  repliesTo_append url [x] xs

/-- The pages of a game are fetched in dealings for the game only. -/
theorem repliesTo_gameExchanges {s : Setup} {games : List GameId} {past : List Dealing} {g : GameId}
    {name : String} (hgames : ∀ g ∈ games, ∃ x, GameId.decode x = .ok g) (hg : g ∈ games)
    (hp : ∀ d ∈ past, d.Proper s games) :
    repliesTo (g.sectionUrl s.settings.baseUrl name) (past.map Dealing.exchange) =
      repliesTo (g.sectionUrl s.settings.baseUrl name) (gameExchanges g.text past) := by
  induction past with
  | nil => rfl
  | cons d rest ih =>
    obtain ⟨hd, hrest⟩ := List.forall_mem_cons.1 hp
    obtain ⟨job, x⟩ := d
    rw [List.map_cons, repliesTo_cons, ih hrest]
    cases job with
    | none =>
      obtain ⟨c, failure, hx, _⟩ := hd
      simp only at hx
      subst hx
      rfl
    | some job =>
      obtain ⟨hmem, _, hpages⟩ := hd
      by_cases ht : job.game.text = g.text
      · have hcons : gameExchanges g.text (⟨some job, x⟩ :: rest) =
            x :: gameExchanges g.text rest := by
          simp [gameExchanges, Dealing.forGame?, ht]
        rw [hcons]
        exact (repliesTo_cons _ x _).symm
      · have hcons : gameExchanges g.text (⟨some job, x⟩ :: rest) = gameExchanges g.text rest := by
          simp [gameExchanges, Dealing.forGame?, ht]
        have hnone : repliesTo (g.sectionUrl s.settings.baseUrl name) [x] = [] := by
          cases hx : x.page? with
          | none => simp [repliesTo, pagesOf, hx]
          | some p =>
            have hne : p.1 ≠ g.sectionUrl s.settings.baseUrl name := by
              intro he
              obtain ⟨_, hjob⟩ := hgames _ hmem
              obtain ⟨_, hgame⟩ := hgames _ hg
              rcases hpages p hx with hurl | hurl
              · exact ht (congrArg GameId.text
                  (GameId.eq_of_sectionUrl_eq hjob hgame (hurl.symm.trans he)))
              · exact ht (congrArg GameId.text
                  (GameId.eq_of_sectionUrl_eq hjob hgame (hurl.symm.trans he)))
            simp [repliesTo, pagesOf, hx, hne]
        rw [hcons, hnone, List.nil_append]

/-! ### Rows of a game -/

def copiesAfter (k : Store.Copies) : SinkCall → Store.Copies
  | .save b v => { k with accepted := [(Store.gameRow b v .epoch).untimed], setAside := [] }
  | .setAside b v => { k with setAside := [(Store.quarantineRow b v .epoch).untimed] }
  | .flag items =>
    { k with review := k.review ++ items.map fun i => (Store.reviewRow .epoch i).untimed }
  | .outcome _ => k
  | .run _ => k

section
variable {c : SinkCall} {run : Uuid} {now : Instant} {st : Store} {gameId other : String}

theorem copies_perform (h : c.About gameId) :
    (c.perform run now st).copies gameId = copiesAfter (st.copies gameId) c := by
  cases c with
  | save b v => exact st.copies_save b v now h
  | setAside b v => exact st.copies_setAside b v now h
  | flag items => exact st.copies_flag now items h
  | outcome g => rfl
  | run summary => rfl

theorem copies_perform_of_ne (h : c.About other) (hne : other ≠ gameId) :
    (c.perform run now st).copies gameId = st.copies gameId := by
  cases c with
  | save b v => exact st.copies_save_of_ne b v now fun hb => hne (h.symm.trans hb)
  | setAside b v => exact st.copies_setAside_of_ne b v now fun hb => hne (h.symm.trans hb)
  | flag items => exact st.copies_flag_of_ne now items fun i hi hb => hne ((h i hi).symm.trans hb)
  | outcome g => rfl
  | run summary => rfl

theorem copies_perform_of_isRecord (h : c.isRecord = true) :
    (c.perform run now st).copies gameId = st.copies gameId := by
  cases c with
  | outcome g => rfl
  | run summary => rfl
  | _ => cases h

/-- Exchanges for a game change the copies of the game as their writes do, and no other ones. -/
theorem copies_foldl {xs : List Exchange} (hw : AllWritten xs)
    (ha : ∀ c ∈ writesOf xs, c.About other) :
    (xs.foldl (Exchange.applyTo run now) st).copies gameId =
      if other = gameId then (writesOf xs).foldl copiesAfter (st.copies gameId)
      else st.copies gameId := by
  induction xs generalizing st with
  | nil => exact (ite_self _).symm
  | cons x rest ih =>
    have hall : ∀ c ∈ writesOf rest, c.About other := fun c hc => ha c (by
      rw [writesOf_cons]
      exact List.mem_append_right _ hc)
    rw [List.foldl_cons, ih (fun c f hm => hw c f (List.mem_cons_of_mem _ hm)) hall]
    cases x with
    | write c failure =>
      obtain rfl := hw c failure List.mem_cons_self
      have hc : c.About other := ha c List.mem_cons_self
      by_cases ht : other = gameId
      · subst ht
        rw [if_pos rfl, if_pos rfl]
        exact congrArg (List.foldl copiesAfter · (writesOf rest)) (copies_perform hc)
      · rw [if_neg ht, if_neg ht]
        exact copies_perform_of_ne hc ht
    | _ => rfl

end

theorem AllWritten.append_dealings {past ds : List Dealing}
    (h : AllWritten ((past ++ ds).map Dealing.exchange)) :
    AllWritten (past.map Dealing.exchange) ∧ AllWritten (ds.map Dealing.exchange) := by
  rw [List.map_append] at h
  exact ⟨h.left, h.right⟩

namespace Run

section
variable {s : Setup} {n : Nat} {id : Uuid} {now : Instant} {shared : Shared} {ids : List String}
  {past : List Dealing} {r : Run}

theorem copies_write {c : SinkCall} (hc : c.isRecord = true) (sh : Shared) (run : Uuid)
    (now : Instant) (failure : Option String) (gameId : String) :
    (sh.write run now failure c).store.copies gameId = sh.store.copies gameId := by
  cases failure with
  | some e => rfl
  | none => exact copies_perform_of_isRecord hc

/-- When no write fails, the copies of a game are what the writes for it have made of them. -/
theorem Reached.copies_eq (h : Reached s (startWith n id now shared ids) past r)
    (hw : AllWritten (past.map Dealing.exchange)) (gameId : String) :
    r.shared.store.copies gameId =
      (writesOf (gameExchanges gameId past)).foldl copiesAfter (shared.store.copies gameId) := by
  revert hw
  refine h.invariant (P := fun past r => AllWritten (past.map Dealing.exchange) →
    r.shared.store.copies gameId =
      (writesOf (gameExchanges gameId past)).foldl copiesAfter (shared.store.copies gameId))
    (fun _ => rfl) ?_
  intro past r ds r' hr _ hs ih hw
  obtain ⟨hpast, hds⟩ := hw.append_dealings
  -- Apart from records, only turns of workers write, each for the game of its job.
  rw [gameExchanges_append, writesOf_append, List.foldl_append, ← ih hpast]
  cases hs with
  | refuse hg => exact copies_write rfl ..
  | finish hrf hp => exact copies_write rfl ..
  | @move i m w t hi ht =>
    have hturned := Worker.turned_of_turn ht
    obtain ⟨job, _, hv⟩ := hturned.job
    obtain ⟨cs, htr⟩ := hr.tracked
    have hproper := htr.proper_of_move hi hturned
    have habout : ∀ c ∈ writesOf t.exchanged, c.About job.game.text := by
      intro c hc
      obtain ⟨x, hx, hxc⟩ := List.mem_filterMap.1 hc
      have hd := hproper ⟨t.worker.job?, x⟩ (List.mem_map.2 ⟨x, hx, rfl⟩)
      simp only [Dealing.Proper, hv] at hd
      exact hd.2.1 c hxc
    have hwritten : AllWritten t.exchanged := by
      rw [List.map_map] at hds
      exact fun c f hm => hds c f (List.mem_map.2 ⟨_, hm, rfl⟩)
    obtain ⟨when, hstore⟩ := hturned.store
    simp only [put, hstore, copies_foldl hwritten habout, hv]
    by_cases hg : job.game.text = gameId
    · subst hg
      rw [if_pos rfl, gameExchanges_of_job job]
    · rw [if_neg hg, gameExchanges_of_other job _ hg]
      rfl
  | _ => rfl

end

end Run

end Scorebook.Ingest
