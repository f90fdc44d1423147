import Scorebook.Proofs.GameId
import Scorebook.Proofs.Ingest.Courses

/-!
# One game after another

`reference` is the work on a single game as a loop: it tries attempt after attempt until an answer
for the review page is none that another attempt may mend, or until no attempt is left.  A course
of a game comes to what `reference` says, provided that sessions open, the roster answers and no
write fails.
-/

namespace Scorebook.Ingest
open Text

/-! ### Answers in order -/

def repliesTo (url : String) (xs : List Exchange) : List Answer :=
  (pagesOf xs).filterMap fun p => if p.1 = url then some p.2 else none

theorem repliesTo_append (url : String) (xs ys : List Exchange) :
    repliesTo url (xs ++ ys) = repliesTo url xs ++ repliesTo url ys := by
  simp only [repliesTo, pagesOf_append, List.filterMap_append]

/-- The answers are the first ones of a sequence. -/
def Follows (f : Nat → Answer) (answers : List Answer) : Prop :=
  ∀ i a, answers[i]? = some a → a = f i

section
variable {f : Nat → Answer} {as bs : List Answer} {a : Answer}

theorem Follows.left (h : Follows f (as ++ bs)) : Follows f as := by
  intro i a ha
  have hi := (List.getElem?_eq_some_iff.1 ha).1
  exact h i a ((List.getElem?_append_left hi).trans ha)

theorem Follows.next (h : Follows f (as ++ [a])) : a = f as.length :=
  h as.length a (by simp)

end

/-- Every session opens. -/
def Opened (xs : List Exchange) : Prop :=
  ∀ answer, .session answer ∈ xs → ∃ session, answer = .ok session

theorem Opened.mono {xs ys : List Exchange} (h : Opened ys) (hs : xs ⊆ ys) : Opened xs :=
  fun answer hm => h answer (hs hm)

/-- Sessions open, the roster answers every question, and no write fails. -/
structure Calm (s : Setup) (xs : List Exchange) : Prop where
  sessions : Opened xs
  answered : AnsweredBy s.roster xs
  written : AllWritten xs

theorem Calm.mono {s : Setup} {xs ys : List Exchange} (h : Calm s ys) (hs : xs ⊆ ys) :
    Calm s xs where
  sessions := fun answer hm => h.sessions answer (hs hm)
  answered := fun q answer hm => h.answered q answer (hs hm)
  written := fun c failure hm => h.written c failure (hs hm)

theorem Calm.left {s : Setup} {xs ys : List Exchange} (h : Calm s (xs ++ ys)) : Calm s xs :=
  h.mono (List.subset_append_left xs ys)

theorem Calm.right {s : Setup} {xs ys : List Exchange} (h : Calm s (xs ++ ys)) : Calm s ys :=
  h.mono (List.subset_append_right xs ys)

/-! ### The loop -/

def outcomeAfter (s : Setup) (job : Job) (lineup : Lineup) : Answer → GameOutcome
  | .ok markup => (examine s job.game lineup markup).outcome
  | .error e =>
    if e.isRetryable then .failedTransient job.attempt e.message else .failed e.message

/-- The result of a job that is not tried again after an answer for its review page. -/
def resultAfter (s : Setup) (job : Job) (lineup : Lineup) (answer : Answer) : GameResult :=
  ⟨job.game.text, job.attempt, outcomeAfter s job lineup answer⟩

section
variable (s : Setup) (g : GameId) (replies : String → Nat → Answer)

def reviewReply (k : Nat) : Answer := replies (g.reviewUrl s.settings.baseUrl) (k - 1)

def lineupReply (k : Nat) : Lineup :=
  if s.settings.fetchLineup then lineupIn (replies (g.lineupUrl s.settings.baseUrl) (k - 1))
  else .empty

/-- The result of a game and the writes for it, when an attempt is the last one. -/
def settledAt (k : Nat) : GameResult × List SinkCall :=
  let result := resultAfter s ⟨g, k⟩ (lineupReply s g replies k) (reviewReply s g replies k)
  (result, writesFor s g (lineupReply s g replies k) (reviewReply s g replies k) ++
    [.outcome result])

/-- Tries a game from an attempt on, with so many attempts left after it. -/
def tryFrom (k : Nat) : Nat → GameResult × List SinkCall
  | 0 => settledAt s g replies k
  | left + 1 =>
    if mayRetry (reviewReply s g replies k) then tryFrom (k + 1) left
    else settledAt s g replies k

/-- The result of a game that is worked on alone, and the writes for it. -/
def reference : GameResult × List SinkCall :=
  tryFrom s g replies 1 (s.settings.retry.maxAttempts - 1)

end

section
variable {s : Setup} {g : GameId} {replies : String → Nat → Answer}

/-- The loop ends with the first attempt whose answer no other attempt may mend, or with the last
one. -/
theorem tryFrom_eq {k last left : Nat} (hk : k ≤ last) (hl : last ≤ k + left)
    (hretry : ∀ i, k ≤ i → i < last → mayRetry (reviewReply s g replies i) = true)
    (hlast : last < k + left → mayRetry (reviewReply s g replies last) = false) :
    tryFrom s g replies k left = settledAt s g replies last := by
  -- Induction on the attempts left: the loop steps over answers that may be mended.
  induction left generalizing k with
  | zero =>
    obtain rfl : k = last := Nat.le_antisymm hk hl
    rfl
  | succ left ih =>
    unfold tryFrom
    rcases Nat.eq_or_lt_of_le hk with rfl | hlt
    · rw [hlast (by omega)]
      rfl
    · rw [hretry k (Nat.le_refl k) hlt, if_pos rfl]
      exact ih hlt (by omega) (fun i hi => hretry i (by omega)) fun h => hlast (by omega)

/-- The reference ends with the first attempt whose answer no other attempt may mend, or with the
last one allowed. -/
theorem reference_eq {k : Nat} (hk : 1 ≤ k) (hm : k ≤ s.settings.retry.maxAttempts)
    (hretry : ∀ i, 1 ≤ i → i < k → mayRetry (reviewReply s g replies i) = true)
    (hlast : k < s.settings.retry.maxAttempts → mayRetry (reviewReply s g replies k) = false) :
    reference s g replies = settledAt s g replies k :=
  tryFrom_eq hk (by omega) hretry fun h => hlast (by omega)

end

/-! ### The exchanges of an attempt -/

theorem fetchPage_opened {url : String} {xs : List Exchange} {a : Answer}
    (h : (fetchPage url).Ends xs a) (ho : Opened xs) : pagesOf xs = [(url, a)] := by
  rcases (fetchPage_ends h).2 with hp | ⟨_, e, _, hm⟩
  · exact hp
  · obtain ⟨session, hs⟩ := ho _ hm
    cases hs

def attemptPages (s : Setup) (g : GameId) (lineupAnswer answer : Answer) :
    List (String × Answer) :=
  (if s.settings.fetchLineup then [(g.lineupUrl s.settings.baseUrl, lineupAnswer)] else []) ++
    [(g.reviewUrl s.settings.baseUrl, answer)]

def attemptLineup (s : Setup) (lineupAnswer : Answer) : Lineup :=
  if s.settings.fetchLineup then lineupIn lineupAnswer else .empty

/-- An attempt fetches the pages of its game once and then settles it. -/
theorem attempt_opened {s : Setup} {g : GameId} {xs : List Exchange} {result : Attempt}
    (h : (attempt s g).Ends xs result) (ho : Opened xs) :
    ∃ la a ys, pagesOf xs = attemptPages s g la a ∧ writesOf xs = writesOf ys ∧ ys ⊆ xs ∧
      (settle s g (attemptLineup s la) a).Ends ys result := by
  obtain ⟨ls, ps, ys, lineup, a, rfl, hl, hp, hs⟩ := attempt_ends h
  have hsub : ps ++ ys ⊆ ls ++ (ps ++ ys) := List.subset_append_right ls _
  have hpages := fetchPage_opened hp
    (ho.mono fun x hx => hsub (List.mem_append_left ys hx))
  have hw : writesOf (ls ++ (ps ++ ys)) = writesOf ys := by
    rw [writesOf_append, writesOf_append, writesOf_of_fetchLineup hl, (fetchPage_ends hp).1,
      List.nil_append, List.nil_append]
  have hla : ∃ la, pagesOf (ls ++ (ps ++ ys)) = attemptPages s g la a ∧
      lineup = attemptLineup s la := by
    rw [pagesOf_append, pagesOf_append, hpages, (settle_ends hs).1, List.append_nil]
    unfold attemptPages attemptLineup
    rcases fetchLineup_ends hl with ⟨hoff, rfl, rfl⟩ | ⟨hon, la, rfl, hf⟩
    · exact ⟨a, by rw [hoff]; rfl, by rw [hoff]; rfl⟩
    · refine ⟨la, ?_, by rw [hon]; rfl⟩
      rw [hon, fetchPage_opened hf (ho.mono (List.subset_append_left ls _))]
      rfl
  obtain ⟨la, hpage, rfl⟩ := hla
  exact ⟨la, a, ys, hpage, hw, fun x hx => hsub (List.mem_append_right ps hx), hs⟩

/-- An attempt goes on as the answers for its pages say. -/
theorem attempt_calm {s : Setup} {g : GameId} {xs : List Exchange} {result : Attempt}
    (h : (attempt s g).Ends xs result) (hc : Calm s xs) :
    ∃ la a, pagesOf xs = attemptPages s g la a ∧
      ((∃ e, a = .error e ∧ mayRetry a = true ∧ result = .retry e ∧ writesOf xs = []) ∨
        mayRetry a = false ∧ result = .settled (outcomeOf s g (attemptLineup s la) a) ∧
          writesOf xs = writesFor s g (attemptLineup s la) a) := by
  obtain ⟨la, a, ys, hpages, hw, hsub, hs⟩ := attempt_opened h hc.sessions
  refine ⟨la, a, hpages, ?_⟩
  rw [hw]
  rcases (settle_ends hs).2 with ⟨e, ha, hm, hr, hn⟩ | ⟨o, hr, hm, _, ho⟩
  · exact .inl ⟨e, ha, hm, hr, hn⟩
  · obtain ⟨rfl, hwrites⟩ := ho (hc.mono hsub).answered (hc.mono hsub).written
    exact .inr ⟨hm, hr, hwrites⟩

theorem outcomeAfter_of_mayRetry {s : Setup} {job : Job} {lineup : Lineup} {a : Answer}
    (h : mayRetry a = false) : outcomeAfter s job lineup a = outcomeOf s job.game lineup a := by
  cases a with
  | ok markup => rfl
  | error e =>
    have he : e.isRetryable = false := h
    simp only [outcomeAfter, outcomeOf, he]
    rfl

/-- The work on a job fetches the pages of its game once.  It is tried again when that may help and
an attempt is left, and otherwise ends with the result that follows from the answers. -/
theorem workOn_calm {s : Setup} {job : Job} {xs : List Exchange} {ending : Ending}
    (h : (workOn s job).Ends xs ending) (hc : Calm s xs) :
    ∃ la a, pagesOf xs = attemptPages s job.game la a ∧
      ((ending = .again ∧ mayRetry a = true) ∨
        ending = .finished (resultAfter s job (attemptLineup s la) a) ∧
          (job.attempt < s.settings.retry.maxAttempts → mayRetry a = false) ∧
          writesOf xs = writesFor s job.game (attemptLineup s la) a ++
            [.outcome (resultAfter s job (attemptLineup s la) a)]) := by
  obtain ⟨xs, ys, result, rfl, ha, h⟩ := Work.ends_bind h
  obtain ⟨la, a, hpages, hend⟩ := attempt_calm ha hc.left
  rcases hend with ⟨e, rfl, hm, rfl, hw⟩ | ⟨hm, rfl, hw⟩
  · unfold conclude at h
    by_cases hlt : job.attempt < s.settings.retry.maxAttempts
    · simp only [hlt, if_true] at h
      obtain ⟨rfl, rfl⟩ := h
      rw [List.append_nil]
      exact ⟨la, _, hpages, .inl ⟨rfl, hm⟩⟩
    · simp only [hlt, if_false] at h
      obtain ⟨rfl, hf, hp⟩ := finish_ends h
      have hr : resultAfter s job (attemptLineup s la) (.error e) =
          ⟨job.game.text, job.attempt, .failedTransient job.attempt e.message⟩ := by
        have he : e.isRetryable = true := hm
        simp only [resultAfter, outcomeAfter, he, if_true]
      refine ⟨la, .error e, ?_, .inr ⟨by rw [hr], fun h => absurd h hlt, ?_⟩⟩
      · rw [pagesOf_append, hpages, hp, List.append_nil]
      · rw [writesOf_append, hw, hf, hr]
        rfl
  · obtain ⟨rfl, hf, hp⟩ := finish_ends h
    have hr : resultAfter s job (attemptLineup s la) a =
        ⟨job.game.text, job.attempt, outcomeOf s job.game (attemptLineup s la) a⟩ := by
      rw [resultAfter, outcomeAfter_of_mayRetry hm]
    refine ⟨la, a, ?_, .inr ⟨by rw [hr], fun _ => hm, ?_⟩⟩
    · rw [pagesOf_append, hpages, hp, List.append_nil]
    · rw [writesOf_append, hw, hf, hr]

/-! ### Courses -/

section
variable {s : Setup} {g : GameId}

theorem review_replies_of_attempt {xs : List Exchange} {la a : Answer}
    (h : pagesOf xs = attemptPages s g la a) :
    repliesTo (g.reviewUrl s.settings.baseUrl) xs = [a] := by
  rw [repliesTo, h, attemptPages]
  cases s.settings.fetchLineup <;> simp [g.lineupUrl_ne_reviewUrl]

theorem lineup_replies_of_attempt {xs : List Exchange} {la a : Answer}
    (h : pagesOf xs = attemptPages s g la a) (hw : s.settings.fetchLineup = true) :
    repliesTo (g.lineupUrl s.settings.baseUrl) xs = [la] := by
  rw [repliesTo, h, attemptPages, hw]
  simp [Ne.symm (g.lineupUrl_ne_reviewUrl s.settings.baseUrl)]

/-- The attempts before the current one have each fetched the pages of the game once, and each got
an answer for the review page that another attempt may mend. -/
theorem Retried.replies {k : Nat} {xs : List Exchange} (h : Retried s g k xs) (hc : Calm s xs) :
    (repliesTo (g.reviewUrl s.settings.baseUrl) xs).length + 1 = k ∧
      (∀ a ∈ repliesTo (g.reviewUrl s.settings.baseUrl) xs, mayRetry a = true) ∧
      (s.settings.fetchLineup = true →
        (repliesTo (g.lineupUrl s.settings.baseUrl) xs).length + 1 = k) := by
  induction h with
  | first => exact ⟨rfl, fun a ha => (by cases ha), fun _ => rfl⟩
  | @next k xs ys _ hy ih =>
    obtain ⟨hlen, hretry, hlineup⟩ := ih hc.left
    obtain ⟨la, a, hpages, hend⟩ := workOn_calm hy hc.right
    have hm : mayRetry a = true := by
      rcases hend with ⟨_, hm⟩ | ⟨hf, _⟩
      · exact hm
      · cases hf
    rw [repliesTo_append, review_replies_of_attempt hpages]
    refine ⟨by simp [hlen], fun b hb => ?_, fun hw => ?_⟩
    · rcases List.mem_append.1 hb with hb | hb
      · exact hretry b hb
      · rw [List.mem_singleton.1 hb]
        exact hm
    · rw [repliesTo_append, lineup_replies_of_attempt hpages hw]
      simp [hlineup hw]

/-- Attempts that end with a result come to what the reference says of their answers, and each of
them has fetched the review page once. -/
theorem reference_of_ends {replies : String → Nat → Answer} {k : Nat}
    {before current : List Exchange} {result : GameResult} (hb : Retried s g k before)
    (he : (workOn s ⟨g, k⟩).Ends current (.finished result)) (hc : Calm s (before ++ current))
    (hreview : Follows (replies (g.reviewUrl s.settings.baseUrl))
      (repliesTo (g.reviewUrl s.settings.baseUrl) (before ++ current)))
    (hlineup : Follows (replies (g.lineupUrl s.settings.baseUrl))
      (repliesTo (g.lineupUrl s.settings.baseUrl) (before ++ current))) :
    (result, writesOf (before ++ current)) = reference s g replies ∧
      (repliesTo (g.reviewUrl s.settings.baseUrl) (before ++ current)).length =
        result.attempts := by
  obtain ⟨hlen, hretry, hlen'⟩ := hb.replies hc.left
  obtain ⟨hk, hm⟩ := hb.bounds
  obtain ⟨la, a, hpages, hend⟩ := workOn_calm he hc.right
  rcases hend with ⟨hagain, _⟩ | ⟨hfinished, hlast, hwrites⟩
  · cases hagain
  obtain rfl := Ending.finished.inj hfinished
  rw [repliesTo_append, review_replies_of_attempt hpages] at hreview ⊢
  -- There were `k - 1` answers before, so the answers of this attempt are those of place `k`.
  have ha : a = reviewReply s g replies k := by
    have hnext := hreview.next
    rwa [Nat.eq_sub_of_add_eq hlen] at hnext
  have hla : attemptLineup s la = lineupReply s g replies k := by
    unfold attemptLineup lineupReply
    by_cases hw : s.settings.fetchLineup = true
    · rw [repliesTo_append, lineup_replies_of_attempt hpages hw] at hlineup
      have hnext := hlineup.next
      rw [Nat.eq_sub_of_add_eq (hlen' hw)] at hnext
      rw [if_pos hw, if_pos hw, ← hnext]
    · rw [if_neg hw, if_neg hw]
  have hbefore : ∀ i, 1 ≤ i → i < k → mayRetry (reviewReply s g replies i) = true := by
    intro i hi hik
    have hget := List.getElem?_eq_getElem
      (l := repliesTo (g.reviewUrl s.settings.baseUrl) before) (i := i - 1) (by omega)
    rw [reviewReply, ← hreview.left (i - 1) _ hget]
    exact hretry _ (List.getElem_mem _)
  rw [reference_eq hk hm hbefore fun hlt => ha ▸ hlast hlt]
  constructor
  · rw [writesOf_append, hb.writes_nil, List.nil_append, hwrites, settledAt, ← ha, ← hla]
  · rw [List.length_append, List.length_singleton, hlen]
    rfl

end

end Scorebook.Ingest
