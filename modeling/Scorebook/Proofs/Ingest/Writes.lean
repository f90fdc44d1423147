import Scorebook.Proofs.Ingest.Acceptance
import Scorebook.Proofs.Ingest.KeptCalls
import Scorebook.Proofs.Page.Layout

/-!
# The writes for one page

The calls that are made when a page is dealt with, and the outcome, whatever the roster answers and
whichever writes fail.
-/

namespace Scorebook.Ingest

variable {s : Setup} {g : GameId} {lineup : Lineup} {markup : String} {xs : List Exchange}
  {b : BoxScore} {review : List ReviewItem} {o : GameOutcome}

/-- Writes that all failed leave the store as it was. -/
theorem foldl_of_failed {run : Uuid} {now : Instant} {st : Store}
    (h : ∀ call ∈ callsOf xs, call.2 ≠ none) : xs.foldl (Exchange.applyTo run now) st = st := by
  induction xs with
  | nil => rfl
  | cons x rest ih =>
    have happly : Exchange.applyTo run now st x = st := by
      cases x with
      | write c failure =>
        cases failure with
        | none => exact absurd rfl (h (c, none) List.mem_cons_self)
        | some e => rfl
      | _ => rfl
    rw [List.foldl_cons, happly]
    exact ih fun call hcall => h call ((List.sublist_cons_self x rest).filterMap _ |>.subset hcall)

theorem pageRead_noLayout : pageRead s g markup = .error .noLayout ↔
    (Page.Signature.ofTables (Page.ofMarkup markup).tables).era? = none := by
  unfold pageRead
  constructor
  · intro h
    rcases Page.of_extract_error h with ⟨hera, -⟩ | ⟨_, -, -, he⟩ | ⟨era, hera, hread⟩
    · exact hera
    · cases he
    · obtain ⟨_, _, _, -, -, -, he⟩ := (Page.rowsDisagree_of_readLines hera hread).1
      cases he
  · intro h
    rw [Page.extract, h]

/-! ### The discipline -/

/-- The calls and the outcome of a page, by the record that it comes to. -/
structure Disciplined (s : Setup) (g : GameId) (lineup : Lineup) (markup : String)
    (xs : List Exchange) (o : GameOutcome) : Prop where
  /-- Nothing is called, or one call keeps a record, or one more flags items when that succeeded. -/
  sequence : callsOf xs = [] ∨ ∃ b v c, (c = .save b v ∨ c = .setAside b v) ∧
    ((∃ f, callsOf xs = [(c, f)]) ∨
      ∃ items f, items ≠ [] ∧ callsOf xs = [(c, none), (.flag items, f)])
  /-- A question that the roster fails to answer ends it all. -/
  unanswered : ∀ q e, .question q (.error e) ∈ xs →
    callsOf xs = [] ∧ o = .failed ("roster lookup failed: " ++ e)
  untouched : callsOf xs = [] ↔ ¬∃ b review, Resolved s g lineup markup (questionsOf xs) b review
  saved : ∀ b v, (∃ f, (.save b v, f) ∈ callsOf xs) ↔
    (∃ review, Resolved s g lineup markup (questionsOf xs) b review) ∧ v = s.validation b ∧
      v.isValid = true
  setAside : ∀ b v, (∃ f, (.setAside b v, f) ∈ callsOf xs) ↔
    (∃ review, Resolved s g lineup markup (questionsOf xs) b review) ∧ v = s.validation b ∧
      v.isValid = false
  flagged : ∀ items, (∃ f, (.flag items, f) ∈ callsOf xs) ↔
    items ≠ [] ∧ ∃ b, Resolved s g lineup markup (questionsOf xs) b items ∧
      (keepingCall s b, none) ∈ callsOf xs
  accepted : ∀ warnings, o = .accepted warnings ↔ (∀ call ∈ callsOf xs, call.2 = none) ∧
    ∃ b v f, (.save b v, f) ∈ callsOf xs ∧ warnings = v.warnings
  quarantined : ∀ errors, o = .quarantined errors ↔ (∀ call ∈ callsOf xs, call.2 = none) ∧
    ∃ b v f, (.setAside b v, f) ∈ callsOf xs ∧ errors = v.errors
  noData : o = .noData ↔ (Page.Signature.ofTables (Page.ofMarkup markup).tables).era? = none
  failed : (∃ e, o = .failed e) ↔
    (Page.Signature.ofTables (Page.ofMarkup markup).tables).era? ≠ none ∧
      (callsOf xs = [] ∨ ∃ call ∈ callsOf xs, call.2 ≠ none)
  /-- The outcome tells which call failed. -/
  worded : ∀ c e, (c, some e) ∈ callsOf xs → o = .failed ("store error: " ++ e)
  /-- After a record that could not be kept nothing is called, and the store is as it was. -/
  lost : ∀ c e rest, callsOf xs = (c, some e) :: rest → rest = [] ∧
    ∀ run now st, xs.foldl (Exchange.applyTo run now) st = st

/-- Without a record nothing is called. -/
theorem disciplined_of_unresolved (hcalls : callsOf xs = [])
    (hnone : ¬∃ b review, Resolved s g lineup markup (questionsOf xs) b review)
    (hfailed : ∀ q e, .question q (.error e) ∈ questionsOf xs →
      o = .failed ("roster lookup failed: " ++ e))
    (ho : o = .noData ∧ (Page.Signature.ofTables (Page.ofMarkup markup).tables).era? = none ∨
      (∃ e, o = .failed e) ∧
        (Page.Signature.ofTables (Page.ofMarkup markup).tables).era? ≠ none) :
    Disciplined s g lineup markup xs o where
  sequence := .inl hcalls
  unanswered := fun q e hq => ⟨hcalls, hfailed q e (List.mem_filter.2 ⟨hq, rfl⟩)⟩
  untouched := ⟨fun _ => hnone, fun _ => hcalls⟩
  saved := fun b v => by
    simp only [hcalls, List.not_mem_nil, exists_false, false_iff]
    exact fun h => hnone ⟨b, h.1⟩
  setAside := fun b v => by
    simp only [hcalls, List.not_mem_nil, exists_false, false_iff]
    exact fun h => hnone ⟨b, h.1⟩
  flagged := fun items => by
    simp [hcalls]
  accepted := fun warnings => by
    rcases ho with ⟨rfl, -⟩ | ⟨⟨e, rfl⟩, -⟩ <;> simp [hcalls]
  quarantined := fun errors => by
    rcases ho with ⟨rfl, -⟩ | ⟨⟨e, rfl⟩, -⟩ <;> simp [hcalls]
  noData := by
    rcases ho with ⟨rfl, hera⟩ | ⟨⟨e, rfl⟩, hera⟩ <;> simp [hera]
  failed := by
    rcases ho with ⟨rfl, hera⟩ | ⟨⟨e, rfl⟩, hera⟩ <;> simp [hcalls, hera]
  worded := fun c e h => by
    rw [hcalls] at h
    cases h
  lost := fun c e rest h => by
    rw [hcalls] at h
    cases h

/-- With a record the calls are those of `CallsFor`. -/
theorem disciplined_of_resolved (hr : Resolved s g lineup markup (questionsOf xs) b review)
    (hk : CallsFor s b review (callsOf xs) o) : Disciplined s g lineup markup xs o := by
  have hrecord : ∀ b', (∃ review', Resolved s g lineup markup (questionsOf xs) b' review') ↔
      b = b' := by
    intro b'
    constructor
    · rintro ⟨review', hr'⟩
      exact (hr.unique hr').1
    · rintro rfl
      exact ⟨review, hr⟩
  have hne : callsOf xs ≠ [] := by
    rcases hk.sequence with ⟨f, h⟩ | ⟨-, f, h⟩ <;> rw [h] <;> nofun
  have hera : (Page.Signature.ofTables (Page.ofMarkup markup).tables).era? ≠ none := by
    intro hnone
    obtain ⟨hread, -, -⟩ := hr
    rw [pageRead_noLayout.2 hnone] at hread
    cases hread
  constructor
  case sequence =>
    have hcall : ∃ v, keepingCall s b = .save b v ∨ keepingCall s b = .setAside b v := by
      unfold keepingCall
      split
      · exact ⟨_, .inl rfl⟩
      · exact ⟨_, .inr rfl⟩
    obtain ⟨v, hcall⟩ := hcall
    rcases hk.sequence with hone | ⟨hopen, f, htwo⟩
    · exact .inr ⟨b, v, _, hcall, .inl hone⟩
    · exact .inr ⟨b, v, _, hcall, .inr ⟨review, f, hopen, htwo⟩⟩
  case unanswered =>
    -- A record that came of the page shows that the roster failed no question.
    intro q e hq
    obtain ⟨-, hsought, hanswered⟩ := hr
    cases hanswered.symm.trans
      (failure_of_seekPlayers hsought (List.mem_filter.2 ⟨hq, rfl⟩))
  case untouched => exact ⟨fun h => absurd h hne, fun h => absurd ⟨b, review, hr⟩ h⟩
  case saved =>
    exact fun b' v => hk.saved_iff.trans (and_congr_left fun _ => (hrecord b').symm)
  case setAside =>
    exact fun b' v => hk.setAside_iff.trans (and_congr_left fun _ => (hrecord b').symm)
  case flagged =>
    intro items
    rw [hk.exists_flag_iff]
    refine and_congr_right fun _ => ⟨?_, ?_⟩
    · rintro ⟨rfl, hmem⟩
      exact ⟨b, hr, hmem⟩
    · rintro ⟨b', hr', hmem⟩
      obtain ⟨rfl, rfl⟩ := hr.unique hr'
      exact ⟨rfl, hmem⟩
  case accepted => exact hk.accepted_iff
  case quarantined => exact hk.quarantined_iff
  case noData =>
    rw [hk.outcome_iff .noData fun _ => nofun]
    exact ⟨fun h => absurd h.2 keptOutcome_ne_noData, fun h => absurd h hera⟩
  case failed =>
    rw [hk.failed_iff]
    exact ⟨fun h => ⟨hera, .inr h⟩, fun h => h.2.resolve_left hne⟩
  case worded => exact fun c e h => hk.failure_unique h
  case lost =>
    intro c e rest h
    have hrest := hk.rest_of_lost h
    refine ⟨hrest, fun run now st => foldl_of_failed ?_⟩
    rw [h, hrest]
    intro call hcall
    rw [List.mem_singleton.1 hcall]
    nofun

theorem disciplined_of_dealt (h : Dealt s g lineup markup (questionsOf xs) (callsOf xs) o) :
    Disciplined s g lineup markup xs o := by
  generalize hcalls : callsOf xs = calls at h
  cases h with
  | noLayout hread hq =>
    refine disciplined_of_unresolved hcalls ?_ (hq ▸ fun q e => nofun)
      (.inl ⟨rfl, pageRead_noLayout.1 hread⟩)
    rintro ⟨_, _, ⟨hread', -, -⟩⟩
    cases hread.symm.trans hread'
  | unreadable hread hne hq =>
    refine disciplined_of_unresolved hcalls ?_ (hq ▸ fun q e => nofun)
      (.inr ⟨⟨_, rfl⟩, fun hera => ?_⟩)
    · rintro ⟨_, _, ⟨hread', -, -⟩⟩
      cases hread.symm.trans hread'
    · exact hne (Except.error.inj (hread.symm.trans (pageRead_noLayout.2 hera)))
  | unanswered hread hsought hfailed =>
    refine disciplined_of_unresolved hcalls ?_ (fun q e hq => ?_)
      (.inr ⟨⟨_, rfl⟩, fun hera => ?_⟩)
    · rintro ⟨_, _, ⟨hread', hsought', hanswered⟩⟩
      cases hread.symm.trans hread'
      cases Work.ends_unique hsought hsought'
      cases hfailed.symm.trans hanswered
    · cases hfailed.symm.trans (failure_of_seekPlayers hsought hq)
      rfl
    · cases hread.symm.trans (pageRead_noLayout.2 hera)
  | resolved hr hk =>
    rw [← hcalls] at hk
    exact disciplined_of_resolved hr hk

/-- Whatever the roster answers and whichever writes fail, dealing with a page ends with an outcome.
It makes no call, or a call that keeps the record, or also one that flags review items after the
record was kept, and the outcome tells which. -/
theorem calls_of_page (s : Setup) (g : GameId) (lineup : Lineup) (markup : String)
    (env : Responses) (past : List Exchange) :
    ∃ xs o, (settle s g lineup (.ok markup)).carryOut env past = (xs, .settled o) ∧
      Disciplined s g lineup markup xs o := by
  obtain ⟨o, hresult, hdealt⟩ :=
    dealt_of_settle (Work.ends_carryOut env past (settle s g lineup (.ok markup)))
  exact ⟨_, o, Prod.ext rfl hresult, disciplined_of_dealt hdealt⟩

/-- Responses with a roster of nobody and a store that keeps nothing. -/
def fullDisk : Responses where
  session := fun _ => .ok 0
  page := fun _ _ _ => .ok ""
  roster := fun _ _ => .ok []
  store := fun _ _ => some "disk full"

def SinkCall.isSave : SinkCall → Bool
  | .save .. => true
  | _ => false

/-- A valid game that cannot be kept is not flagged either, although nobody in it is known. -/
theorem shortMarkup_lost :
    ∃ xs b v,
      (settle Run.lateSetup Run.playedGame .empty (.ok Run.shortMarkup)).carryOut fullDisk [] =
        (xs, .settled (.failed "store error: disk full")) ∧
      callsOf xs = [(.save b v, some "disk full")] ∧ v.isValid = true ∧
      (∀ run now st, xs.foldl (Exchange.applyTo run now) st = st) := by
  obtain ⟨xs, o, hrun, hd⟩ :=
    calls_of_page Run.lateSetup Run.playedGame .empty Run.shortMarkup fullDisk []
  have hcalls : (callsOf xs).map (fun p => (p.1.isSave, p.2)) = [(true, some "disk full")] := by
    have hpage : settle Run.lateSetup Run.playedGame .empty (.ok Run.shortMarkup) =
        (Run.shortVerdict Run.playedGame).bind fun v =>
          (keepVerdict v).bind fun outcome => .done (.settled outcome) := by
      rw [settle, Run.inspect_shortMarkup (by decide +kernel)]
    rw [hpage] at hrun
    have hxs := congrArg Prod.fst hrun
    simp only at hxs
    rw [← hxs]
    decide +kernel
  obtain ⟨⟨c, f⟩, hone, hcall⟩ := List.map_eq_singleton_iff.1 hcalls
  obtain ⟨hsave, rfl⟩ := Prod.mk.inj hcall
  cases c with
  | save b v =>
    have hmem : (SinkCall.save b v, some "disk full") ∈ callsOf xs := by
      rw [hone]
      exact List.mem_cons_self
    have hvalid := ((hd.saved b v).1 ⟨_, hmem⟩).2.2
    cases hd.worded _ _ hmem
    exact ⟨xs, b, v, hrun, hone, hvalid, (hd.lost _ _ _ hone).2⟩
  | _ => cases hsave

end Scorebook.Ingest
