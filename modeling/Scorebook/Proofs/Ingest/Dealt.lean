import Scorebook.Proofs.Ingest.Responses
import Scorebook.Proofs.Ingest.Seeking

/-!
# How a page is dealt with

A page that came for a game is dealt with in one order: its box score is extracted, its players are
sought, the record is validated and kept, and what stayed open is flagged.  Any of the steps may
fail, and none is taken after one that did.  So what is called when a page is dealt with is told by
the step that failed.
-/

namespace Scorebook.Ingest

section
variable (s : Setup) (g : GameId) (lineup : Lineup) (markup : String)

/-- What the page of a game is read as. -/
def pageRead : Except Page.ExtractionError BoxScore :=
  Page.extract s.history (Page.ofMarkup markup) g.text (some g.date)

/-- What validation finds in a record. -/
def Setup.validation (b : BoxScore) : Validation := .ofBoxScore s.history.canonicalCodes b

/-- The record that a page comes to when its players have been sought with these questions, and
what is left open. -/
inductive Resolved (qs : List Exchange) : BoxScore → List ReviewItem → Prop
  | intro {b : BoxScore} {found : Resolver.Pass String BoxScore}
      (hread : pageRead s g markup = .ok b)
      (hsought : (seekPlayers s.resolver lineup b).Ends qs found)
      (hanswered : found.failure = none) :
      Resolved qs found.rows (unresolvedTeams g b ++ found.items)

/-- The call that keeps a record, as accepted when it is valid. -/
def keepingCall (b : BoxScore) : SinkCall :=
  if (s.validation b).isValid then .save b (s.validation b) else .setAside b (s.validation b)

/-- The outcome of a game that is kept. -/
def keptOutcome (b : BoxScore) : GameOutcome :=
  if (s.validation b).isValid then .accepted (s.validation b).warnings
  else .quarantined (s.validation b).errors

/-- The calls for a record and the outcome: the review items follow when the record was kept and
there are any. -/
inductive CallsFor (b : BoxScore) (review : List ReviewItem) :
    List (SinkCall × Option String) → GameOutcome → Prop
  | lost (e : String) : CallsFor b review [(keepingCall s b, some e)] (storeFailure e)
  | clear (h : review = []) : CallsFor b review [(keepingCall s b, none)] (keptOutcome s b)
  | unflagged (h : review ≠ []) (e : String) :
      CallsFor b review [(keepingCall s b, none), (.flag review, some e)] (storeFailure e)
  | flagged (h : review ≠ []) :
      CallsFor b review [(keepingCall s b, none), (.flag review, none)] (keptOutcome s b)

/-- How a page is dealt with, by the step that fails first. -/
inductive Dealt (qs : List Exchange) : List (SinkCall × Option String) → GameOutcome → Prop
  | noLayout (h : pageRead s g markup = .error .noLayout) (hq : qs = []) : Dealt qs [] .noData
  | unreadable {e : Page.ExtractionError} (h : pageRead s g markup = .error e)
      (hne : e ≠ .noLayout) (hq : qs = []) : Dealt qs [] (.failed e.message)
  | unanswered {b : BoxScore} {found : Resolver.Pass String BoxScore} {e : String}
      (hread : pageRead s g markup = .ok b)
      (hsought : (seekPlayers s.resolver lineup b).Ends qs found)
      (hfailed : found.failure = some e) : Dealt qs [] (.failed ("roster lookup failed: " ++ e))
  | resolved {b : BoxScore} {review : List ReviewItem} {calls : List (SinkCall × Option String)}
      {o : GameOutcome} (hr : Resolved s g lineup markup qs b review)
      (hk : CallsFor s b review calls o) : Dealt qs calls o

end

variable {s : Setup} {g : GameId} {lineup : Lineup} {markup : String} {xs qs : List Exchange}
  {b : BoxScore} {review : List ReviewItem} {calls : List (SinkCall × Option String)}
  {o : GameOutcome}

theorem Resolved.unique {b' : BoxScore} {review' : List ReviewItem}
    (h : Resolved s g lineup markup qs b review) (h' : Resolved s g lineup markup qs b' review') :
    b = b' ∧ review = review' := by
  obtain ⟨hread, hsought, -⟩ := h
  obtain ⟨hread', hsought', -⟩ := h'
  cases hread.symm.trans hread'
  cases Work.ends_unique hsought hsought'
  exact ⟨rfl, rfl⟩

theorem kept_of_keepVerdict
    (h : (keepVerdict (.keep b (s.validation b) review)).Ends xs o) :
    questionsOf xs = [] ∧ CallsFor s b review (callsOf xs) o := by
  have hflag : ∀ ys, (flagAll review (keptOutcome s b)).Ends ys o →
      questionsOf ys = [] ∧ CallsFor s b review ((keepingCall s b, none) :: callsOf ys) o := by
    intro ys h
    unfold flagAll at h
    split at h
    · rename_i hempty
      obtain ⟨rfl, rfl⟩ := h
      exact ⟨rfl, .clear (List.isEmpty_iff.1 hempty)⟩
    · rename_i hopen
      have hne : review ≠ [] := fun hnil => hopen (List.isEmpty_iff.2 hnil)
      obtain ⟨failure, _, rfl, h⟩ := h
      cases failure with
      | some e =>
        obtain ⟨rfl, rfl⟩ := h
        exact ⟨rfl, .unflagged hne e⟩
      | none =>
        obtain ⟨rfl, rfl⟩ := h
        exact ⟨rfl, .flagged hne⟩
  have hlost : ∀ e ys, (Work.done (storeFailure e)).Ends ys o →
      questionsOf ys = [] ∧
        CallsFor s b review ((keepingCall s b, some e) :: callsOf ys) o := by
    rintro e _ ⟨rfl, rfl⟩
    exact ⟨rfl, .lost e⟩
  unfold keepVerdict at h
  by_cases hvalid : (s.validation b).isValid = true
  · have hcall : keepingCall s b = .save b (s.validation b) := if_pos hvalid
    have houtcome : keptOutcome s b = .accepted (s.validation b).warnings := if_pos hvalid
    rw [hcall] at hflag hlost
    rw [houtcome] at hflag
    simp only [hvalid, if_true] at h
    obtain ⟨failure, ys, rfl, h⟩ := h
    cases failure with
    | some e => exact hlost e ys h
    | none => exact hflag ys h
  · have hcall : keepingCall s b = .setAside b (s.validation b) := if_neg hvalid
    have houtcome : keptOutcome s b = .quarantined (s.validation b).errors := if_neg hvalid
    rw [hcall] at hflag hlost
    rw [houtcome] at hflag
    simp only [hvalid] at h
    obtain ⟨failure, ys, rfl, h⟩ := h
    cases failure with
    | some e => exact hlost e ys h
    | none => exact hflag ys h

theorem callsOf_append (xs ys : List Exchange) : callsOf (xs ++ ys) = callsOf xs ++ callsOf ys :=
  List.filterMap_append

theorem questionsOf_append (xs ys : List Exchange) :
    questionsOf (xs ++ ys) = questionsOf xs ++ questionsOf ys := List.filter_append _ _

/-- A page is dealt with in one of the ways of `Dealt`. -/
theorem dealt_of_settle {result : Attempt}
    (h : (settle s g lineup (.ok markup)).Ends xs result) :
    ∃ o, result = .settled o ∧ Dealt s g lineup markup (questionsOf xs) (callsOf xs) o := by
  obtain ⟨qs, _, v, rfl, hv, h⟩ := Work.ends_bind h
  obtain ⟨ws, _, o, rfl, ho, rfl, rfl⟩ := Work.ends_bind h
  refine ⟨o, rfl, ?_⟩
  rw [List.append_nil, questionsOf_append, callsOf_append]
  unfold inspect at hv
  split at hv
  · rename_i b hread
    obtain ⟨qs, _, found, rfl, hsought, rfl, rfl⟩ := Work.ends_bind hv
    obtain ⟨hq, hc⟩ := (onlyAsks_seekPlayers s.resolver lineup b).ends hsought
    rw [List.append_nil, hq, hc, List.nil_append]
    unfold verdictOn at ho
    cases hf : found.failure with
    | some e =>
      simp only [hf] at ho
      obtain ⟨rfl, rfl⟩ := ho
      rw [questionsOf, List.filter_nil, List.append_nil]
      exact .unanswered hread hsought hf
    | none =>
      simp only [hf] at ho
      obtain ⟨hnone, hkept⟩ := kept_of_keepVerdict ho
      rw [hnone, List.append_nil]
      exact .resolved ⟨hread, hsought, hf⟩ hkept
  · rename_i hread
    obtain ⟨rfl, rfl⟩ := hv
    obtain ⟨rfl, rfl⟩ := ho
    exact .noLayout hread rfl
  · rename_i e hne hread
    obtain ⟨rfl, rfl⟩ := hv
    obtain ⟨rfl, rfl⟩ := ho
    exact .unreadable hread hne rfl

end Scorebook.Ingest
