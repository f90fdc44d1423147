import Mathlib.Data.List.Count
import Mathlib.Data.List.Nodup
import Mathlib.Data.List.Perm.Basic
import Scorebook.Proofs.Basic
import Scorebook.SessionPool

/-!
# Where sessions are

Any number of callers use a pool at the same time.  `SessionPool.Act` is what one of them does in a
single step, and `SessionPool.Reached size past p` says that a pool of the size can have come to `p`
with the acts `past`, whichever callers made them and in whatever order.  A caller can only go on
with a session that it is opening or holds.

Permits account for all that callers hold or open, so the sessions that are parked, held or being
opened are never more than the size of the pool.  Every session that was opened is parked, held or
discarded, and only one of these, so what was discarded cannot come up again.
-/

namespace Scorebook.SessionPool

/-- What a caller does with a pool in one step. -/
inductive Act where
  | asked (g : Grant)
  | opened (s : Session)
  /-- Opening a session failed or was cancelled. -/
  | gaveUp (s : Session)
  | fetched (s : Session)
  | returned (s : Session)
  | discarded (s : Session)
deriving DecidableEq, Repr

inductive Step (p : SessionPool) : Act → SessionPool → Prop
  | asks : Step p (.asked p.acquire.2) p.acquire.1
  | opens {s : Session} (h : s ∈ p.opening) : Step p (.opened s) (p.opened s)
  | givesUp {s : Session} (h : s ∈ p.opening) : Step p (.gaveUp s) (p.abandon s)
  | fetches {s : Session} (h : s ∈ p.loans) : Step p (.fetched s) p
  | returns {s : Session} (h : s ∈ p.loans) : Step p (.returned s) (p.release s)
  | discards {s : Session} (h : s ∈ p.loans) : Step p (.discarded s) (p.discard s)

/-- What a pool of a size can come to, with the acts on the way. -/
inductive Reached (size : Nat) : List Act → SessionPool → Prop
  | start : Reached size [] (ofSize size)
  | next {past : List Act} {p p' : SessionPool} {a : Act} :
      Reached size past p → Step p a p' → Reached size (past ++ [a]) p'

def Grant.session? : Grant → Option Session
  | .parked s => some s
  | .toOpen s => some s
  | .blocked => none

namespace Act

def session? : Act → Option Session
  | asked g => g.session?
  | opened s | gaveUp s | fetched s | returned s | discarded s => some s

def opened? : Act → Option Session
  | opened s => some s
  | _ => none

def discarded? : Act → Option Session
  | discarded s => some s
  | _ => none

end Act

def openedIn (past : List Act) : List Session := past.filterMap Act.opened?

def discardedIn (past : List Act) : List Session := past.filterMap Act.discarded?

theorem mem_discardedIn {past : List Act} {s : Session} :
    s ∈ discardedIn past ↔ .discarded s ∈ past := by
  rw [discardedIn, List.mem_filterMap]
  constructor
  · rintro ⟨a, ha, hs⟩
    cases a with
    | discarded s' =>
      cases hs
      exact ha
    | _ => cases hs
  · intro h
    exact ⟨.discarded s, h, rfl⟩

/-! ### What is granted -/

variable {p p' : SessionPool} {s : Session} {a : Act} {past : List Act} {size : Nat}

/-- The three answers to a caller that asks for a session. -/
theorem acquire_cases (p : SessionPool) :
    (p.free = 0 ∧ p.acquire = (p, .blocked)) ∨
    (∃ free s idle, p.free = free + 1 ∧ p.idle = s :: idle ∧
      p.acquire = ({ p with free := free, idle := idle, loans := s :: p.loans }, .parked s)) ∨
    (∃ free, p.free = free + 1 ∧ p.idle = [] ∧
      p.acquire = ({ p with
        free := free, opening := (p.asked + 1) :: p.opening, asked := p.asked + 1 },
        .toOpen (p.asked + 1))) := by
  unfold acquire
  split
  · rename_i hfree
    exact .inl ⟨hfree, rfl⟩
  · rename_i free s idle hfree hidle
    exact .inr (.inl ⟨free, s, idle, hfree, hidle, rfl⟩)
  · rename_i free hfree hidle
    exact .inr (.inr ⟨free, hfree, hidle, rfl⟩)

/-- A new session is opened only when none is parked. -/
theorem idle_of_toOpen (h : p.acquire.2 = .toOpen s) : p.idle = [] := by
  obtain ⟨-, hp⟩ | ⟨free, s', idle, -, -, hp⟩ | ⟨free, -, hidle, -⟩ := acquire_cases p
  · rw [hp] at h
    cases h
  · rw [hp] at h
    cases h
  · exact hidle

theorem blocked_iff : p.acquire.2 = .blocked ↔ p.free = 0 := by
  obtain ⟨hfree, hp⟩ | ⟨free, s', idle, hfree, -, hp⟩ | ⟨free, hfree, -, hp⟩ := acquire_cases p
  · rw [hp, hfree]
    exact ⟨fun _ => rfl, fun _ => rfl⟩
  · rw [hp, hfree]
    exact ⟨nofun, nofun⟩
  · rw [hp, hfree]
    exact ⟨nofun, nofun⟩

theorem acquire_parked (h : p.acquire = (p', .parked s)) :
    p'.loans = s :: p.loans ∧ p'.opening = p.opening := by
  obtain ⟨-, hp⟩ | ⟨free, s', idle, -, -, hp⟩ | ⟨free, -, -, hp⟩ := acquire_cases p
  · rw [hp] at h
    cases h
  · rw [hp] at h
    cases h
    exact ⟨rfl, rfl⟩
  · rw [hp] at h
    cases h

theorem acquire_toOpen (h : p.acquire = (p', .toOpen s)) :
    p'.loans = p.loans ∧ p'.opening = s :: p.opening := by
  obtain ⟨-, hp⟩ | ⟨free, s', idle, -, -, hp⟩ | ⟨free, -, -, hp⟩ := acquire_cases p
  · rw [hp] at h
    cases h
  · rw [hp] at h
    cases h
  · rw [hp] at h
    cases h
    exact ⟨rfl, rfl⟩

/-- A session that an act is about is in the pool, or it is the next to be asked for. -/
theorem Step.session_mem (h : Step p a p') (hs : a.session? = some s) :
    s ∈ p.idle ∨ s ∈ p.loans ∨ s ∈ p.opening ∨ s = p.asked + 1 := by
  cases h with
  | asks =>
    obtain ⟨-, hp⟩ | ⟨free, s', idle, -, hidle, hp⟩ | ⟨free, -, -, hp⟩ := acquire_cases p
    · rw [hp] at hs
      cases hs
    · rw [hp] at hs
      cases hs
      rw [hidle]
      exact .inl List.mem_cons_self
    · rw [hp] at hs
      cases hs
      exact .inr (.inr (.inr rfl))
  | opens h =>
    cases hs
    exact .inr (.inr (.inl h))
  | givesUp h =>
    cases hs
    exact .inr (.inr (.inl h))
  | fetches h =>
    cases hs
    exact .inr (.inl h)
  | returns h =>
    cases hs
    exact .inr (.inl h)
  | discards h =>
    cases hs
    exact .inr (.inl h)

/-! ### The accounts of a pool -/

/-- The accounts of a pool with so many permits, of which these sessions were opened and these
discarded so far. -/
structure Accounted (n : Nat) (made dropped : List Session) (p : SessionPool) : Prop where
  size : p.size = n
  permits : p.free + (p.loans.length + p.opening.length) = n
  room : p.idle.length + p.loans.length + p.opening.length ≤ n
  places : made.Perm (p.idle ++ p.loans ++ dropped)
  once : (made ++ p.opening).Nodup
  numbered : ∀ s ∈ made ++ p.opening, s ≤ p.asked

theorem accounted_ofSize (size : Nat) : Accounted (max size 1) [] [] (ofSize size) where
  size := rfl
  permits := Nat.add_zero _
  room := Nat.zero_le _
  places := .refl _
  once := List.nodup_nil
  numbered := fun _ hs => absurd hs List.not_mem_nil

theorem length_erase_add_one {α : Type} [DecidableEq α] {x : α} {xs : List α} (h : x ∈ xs) :
    (xs.erase x).length + 1 = xs.length := by
  have hpos := List.length_pos_of_mem h
  rw [List.length_erase_of_mem h]
  omega

namespace Accounted
variable {n : Nat} {made dropped : List Session}

theorem asks (h : Accounted n made dropped p) : Accounted n made dropped p.acquire.1 := by
  have hpermits := h.permits
  have hroom := h.room
  have hplaces := h.places
  obtain ⟨-, hp⟩ | ⟨free, s, idle, hfree, hidle, hp⟩ | ⟨free, hfree, hidle, hp⟩ := acquire_cases p
  · rw [hp]
    exact h
  · -- A parked session becomes a loan.
    rw [hp]
    rw [hidle, List.length_cons] at hroom
    rw [hidle, List.append_assoc, List.cons_append] at hplaces
    refine ⟨h.size, ?_, ?_, ?_, h.once, h.numbered⟩
    · simp only [List.length_cons]
      omega
    · simp only [List.length_cons]
      omega
    · rw [List.append_assoc, List.cons_append]
      exact hplaces.trans List.perm_middle.symm
  · -- The new number is larger than all others.
    rw [hp]
    have hfresh : p.asked + 1 ∉ made ++ p.opening := by
      intro hmem
      exact Nat.not_succ_le_self p.asked (h.numbered _ hmem)
    have hmiddle : (made ++ (p.asked + 1) :: p.opening).Perm
        ((p.asked + 1) :: (made ++ p.opening)) := List.perm_middle
    rw [hidle, List.length_nil] at hroom
    refine ⟨h.size, ?_, ?_, hplaces, ?_, ?_⟩
    · simp only [List.length_cons]
      omega
    · simp only [hidle, List.length_cons, List.length_nil]
      omega
    · exact hmiddle.nodup_iff.2 (List.nodup_cons.2 ⟨hfresh, h.once⟩)
    · intro s hs
      rcases List.mem_cons.1 (hmiddle.mem_iff.1 hs) with rfl | hs
      · exact Nat.le_refl _
      · exact Nat.le_succ_of_le (h.numbered s hs)

theorem opens (h : Accounted n made dropped p) (hs : s ∈ p.opening) :
    Accounted n (made ++ [s]) dropped (p.opened s) := by
  have hlength := length_erase_add_one hs
  have hpermits := h.permits
  have hroom := h.room
  have hplaces := h.places
  -- The session moves from those that are being opened to those that were.
  have hmoved : (made ++ [s] ++ p.opening.erase s).Perm (made ++ p.opening) := by
    rw [List.append_assoc]
    exact (List.perm_cons_erase hs).symm.append_left _
  rw [SessionPool.opened, if_pos hs]
  refine ⟨h.size, ?_, ?_, ?_, ?_, ?_⟩
  · simp only [List.length_cons]
    omega
  · simp only [List.length_cons]
    omega
  · rw [List.append_assoc, List.cons_append]
    rw [List.append_assoc] at hplaces
    exact (List.perm_append_singleton s made).trans
      ((hplaces.cons s).trans List.perm_middle.symm)
  · exact hmoved.nodup_iff.2 h.once
  · intro s' hs'
    exact h.numbered s' (hmoved.mem_iff.1 hs')

theorem givesUp (h : Accounted n made dropped p) (hs : s ∈ p.opening) :
    Accounted n made dropped (p.abandon s) := by
  have hlength := length_erase_add_one hs
  have hpermits := h.permits
  have hroom := h.room
  have hfewer : (made ++ p.opening.erase s).Sublist (made ++ p.opening) :=
    List.Sublist.append_left List.erase_sublist made
  rw [SessionPool.abandon, if_pos hs]
  refine ⟨h.size, ?_, ?_, h.places, h.once.sublist hfewer, ?_⟩
  · dsimp only
    omega
  · dsimp only
    omega
  · intro s' hs'
    exact h.numbered s' (hfewer.subset hs')

theorem returns (h : Accounted n made dropped p) (hs : s ∈ p.loans) :
    Accounted n made dropped (p.release s) := by
  have hlength := length_erase_add_one hs
  have hpermits := h.permits
  have hroom := h.room
  have hparked : (p.idle ++ p.loans).Perm (s :: p.idle ++ p.loans.erase s) :=
    ((List.perm_cons_erase hs).append_left _).trans List.perm_middle
  rw [SessionPool.release, if_pos hs]
  refine ⟨h.size, ?_, ?_, h.places.trans (hparked.append_right dropped), h.once, h.numbered⟩
  · dsimp only
    omega
  · simp only [List.length_cons]
    omega

theorem discards (h : Accounted n made dropped p) (hs : s ∈ p.loans) :
    Accounted n made (dropped ++ [s]) (p.discard s) := by
  have hlength := length_erase_add_one hs
  have hpermits := h.permits
  have hroom := h.room
  have hparted : (p.idle ++ p.loans).Perm (s :: (p.idle ++ p.loans.erase s)) :=
    ((List.perm_cons_erase hs).append_left _).trans List.perm_middle
  have hmoved : (s :: (p.idle ++ p.loans.erase s) ++ dropped).Perm
      (p.idle ++ p.loans.erase s ++ (dropped ++ [s])) := by
    rw [← List.append_assoc]
    exact (List.perm_append_singleton s _).symm
  rw [SessionPool.discard, if_pos hs]
  refine ⟨h.size, ?_, ?_, ?_, h.once, h.numbered⟩
  · dsimp only
    omega
  · dsimp only
    omega
  · exact h.places.trans ((hparted.append_right dropped).trans hmoved)

theorem nodup_loans (h : Accounted n made dropped p) : p.loans.Nodup := by
  have hplaces : (p.idle ++ p.loans ++ dropped).Nodup :=
    h.places.nodup_iff.1 (List.Nodup.of_append_left h.once)
  exact List.Nodup.of_append_right (List.Nodup.of_append_left hplaces)

theorem not_idle_of_loan (h : Accounted n made dropped p) (hs : s ∈ p.loans) : s ∉ p.idle := by
  have hplaces : (p.idle ++ p.loans ++ dropped).Nodup :=
    h.places.nodup_iff.1 (List.Nodup.of_append_left h.once)
  have hapart := List.disjoint_of_nodup_append (List.Nodup.of_append_left hplaces)
  intro hi
  exact hapart hi hs

/-- What is discarded is not in the pool any more. -/
theorem not_mem_of_dropped (h : Accounted n made dropped p) (hd : s ∈ dropped) :
    s ∉ p.idle ∧ s ∉ p.loans ∧ s ∉ p.opening ∧ s ≤ p.asked := by
  have hmade : s ∈ made := h.places.mem_iff.2 (List.mem_append_right _ hd)
  have hplaces : (p.idle ++ p.loans ++ dropped).Nodup :=
    h.places.nodup_iff.1 (List.Nodup.of_append_left h.once)
  have hpooled := List.disjoint_of_nodup_append hplaces
  have hopening := List.disjoint_of_nodup_append h.once
  refine ⟨?_, ?_, hopening hmade, h.numbered s (List.mem_append_left _ hmade)⟩
  · intro hs
    exact hpooled (List.mem_append_left _ hs) hd
  · intro hs
    exact hpooled (List.mem_append_right _ hs) hd

theorem not_about_dropped (h : Accounted n made dropped p) (hs : Step p a p')
    (hd : s ∈ dropped) : a.session? ≠ some s := by
  intro ha
  obtain ⟨hidle, hloans, hopening, hle⟩ := h.not_mem_of_dropped hd
  rcases hs.session_mem ha with hm | hm | hm | rfl
  · exact hidle hm
  · exact hloans hm
  · exact hopening hm
  · exact Nat.not_succ_le_self p.asked hle

end Accounted

/-! ### Every history -/

theorem openedIn_snoc (past : List Act) (a : Act) :
    openedIn (past ++ [a]) = openedIn past ++ a.opened?.toList :=
  filterMap_concat Act.opened? past a

theorem discardedIn_snoc (past : List Act) (a : Act) :
    discardedIn (past ++ [a]) = discardedIn past ++ a.discarded?.toList :=
  filterMap_concat Act.discarded? past a

theorem Reached.accounted (h : Reached size past p) :
    Accounted (max size 1) (openedIn past) (discardedIn past) p := by
  induction h with
  | start => exact accounted_ofSize size
  | next _ hs ih =>
    rw [openedIn_snoc, discardedIn_snoc]
    cases hs with
    | asks => simpa [Act.opened?, Act.discarded?] using ih.asks
    | opens hm => simpa [Act.opened?, Act.discarded?] using ih.opens hm
    | givesUp hm => simpa [Act.opened?, Act.discarded?] using ih.givesUp hm
    | fetches hm => simpa [Act.opened?, Act.discarded?] using ih
    | returns hm => simpa [Act.opened?, Act.discarded?] using ih.returns hm
    | discards hm => simpa [Act.opened?, Act.discarded?] using ih.discards hm

/-- After a session was discarded nothing is done with it. -/
theorem Reached.discarded_last (h : Reached size past p) :
    past.Pairwise fun a b => ∀ s, a = .discarded s → b.session? ≠ some s := by
  induction h with
  | start => exact .nil
  | @next past p p' a hr hs ih =>
    refine List.pairwise_append.2 ⟨ih, List.pairwise_singleton _ a, ?_⟩
    rintro b hb c hc s rfl
    obtain rfl := List.mem_singleton.1 hc
    exact hr.accounted.not_about_dropped hs (mem_discardedIn.2 hb)

/-- A session that comes back is parked with its permit, and the next caller is granted it. -/
theorem release_of_mem (h : s ∈ p.loans) : (p.release s).idle = s :: p.idle ∧
    (p.release s).free = p.free + 1 ∧ (p.release s).acquire.2 = .parked s := by
  have hrelease : p.release s =
      { p with free := p.free + 1, loans := p.loans.erase s, idle := s :: p.idle } := if_pos h
  rw [hrelease]
  exact ⟨rfl, rfl, rfl⟩

/-- What a history leaves in order: the places of the sessions, their numbers, the permits, and what
a caller is granted next. -/
structure InOrder (size : Nat) (past : List Act) (p : SessionPool) : Prop where
  places : (openedIn past).Perm (p.idle ++ p.loans ++ discardedIn past)
  once : (openedIn past).Nodup
  out_le : p.loans.length + p.opening.length ≤ max size 1
  all_le : p.idle.length + p.loans.length + p.opening.length ≤ max size 1
  opens_if_none_idle : ∀ s, p.acquire.2 = .toOpen s → p.idle = []
  free_eq : p.free = max size 1 - (p.loans.length + p.opening.length)
  free_abandon : ∀ s ∈ p.opening, (p.abandon s).free = p.free + 1
  parked_release : ∀ s ∈ p.loans, (p.release s).idle = s :: p.idle ∧
    (p.release s).free = p.free + 1 ∧ (p.release s).acquire.2 = .parked s
  blocked_iff_all_out : p.acquire.2 = .blocked ↔ p.loans.length + p.opening.length = max size 1
  discarded_last : past.Pairwise fun a b => ∀ s, a = .discarded s → b.session? ≠ some s

theorem Reached.inOrder (h : Reached size past p) : InOrder size past p := by
  have haccounted := h.accounted
  have hpermits := haccounted.permits
  refine ⟨haccounted.places, List.Nodup.of_append_left haccounted.once, ?_, haccounted.room,
    fun s => idle_of_toOpen, ?_, ?_, fun s => release_of_mem, ?_, h.discarded_last⟩
  · omega
  · omega
  · intro s hs
    rw [abandon, if_pos hs]
  · rw [blocked_iff]
    omega

end Scorebook.SessionPool
