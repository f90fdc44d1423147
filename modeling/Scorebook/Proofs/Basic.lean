import Mathlib.Data.List.Perm.Basic

/-!
# Lists and results

General facts on lists and on computations that may fail.
-/

namespace Scorebook

theorem of_bind_ok {ε α β : Type} {x : Except ε α} {f : α → Except ε β} {b : β}
    (h : x >>= f = .ok b) : ∃ a, x = .ok a ∧ f a = .ok b := by
  cases x with
  | error e => cases h
  | ok a => exact ⟨a, rfl, h⟩

theorem of_bind_error {ε α β : Type} {x : Except ε α} {f : α → Except ε β} {e : ε}
    (h : x >>= f = .error e) : x = .error e ∨ ∃ a, x = .ok a ∧ f a = .error e := by
  cases x with
  | error e' =>
    have he : (Except.error e' : Except ε β) = .error e := h
    exact .inl (congrArg Except.error (Except.error.inj he))
  | ok a => exact .inr ⟨a, rfl, h⟩

/-- A list is read back when each of its elements is. -/
theorem mapM_map_eq {m : Type → Type} [Monad m] [LawfulMonad m] {α β : Type} {f : α → β}
    {g : β → m α} {l : List α} (h : ∀ a ∈ l, g (f a) = pure a) : (l.map f).mapM g = pure l := by
  induction l with
  | nil => rfl
  | cons a l ih =>
    obtain ⟨ha, hl⟩ := List.forall_mem_cons.1 h
    rw [List.map_cons, List.mapM_cons, ha, ih hl, pure_bind, pure_bind]

/-- Replacing an element of a list changes no other one. -/
theorem exists_perm_set {α : Type} {l : List α} {i : Nat} {a : α} (h : l[i]? = some a) :
    ∃ others, l.Perm (a :: others) ∧ ∀ b, (l.set i b).Perm (b :: others) := by
  obtain ⟨hi, rfl⟩ := List.getElem?_eq_some_iff.1 h
  exact ⟨l.eraseIdx i, (List.getElem_cons_eraseIdx_perm hi).symm,
    fun b => List.set_perm_cons_eraseIdx hi b⟩

theorem filterMap_cons_toList {α β : Type} (f : α → Option β) (a : α) (l : List α) :
    (a :: l).filterMap f = (f a).toList ++ l.filterMap f := by
  cases h : f a <;> simp [h]

theorem filterMap_concat {α β : Type} (f : α → Option β) (l : List α) (a : α) :
    (l ++ [a]).filterMap f = l.filterMap f ++ (f a).toList := by
  rw [List.filterMap_append, filterMap_cons_toList, List.filterMap_nil, List.append_nil]

/-- No element of a list is left twice. -/
theorem nodup_eraseDups {α : Type} [BEq α] [LawfulBEq α] (l : List α) : l.eraseDups.Nodup := by
  induction hn : l.length using Nat.strongRecOn generalizing l with
  | ind n ih =>
    cases l with
    | nil => exact List.nodup_nil
    | cons a rest =>
      have hlt : (rest.filter fun b => !b == a).length < n := by
        rw [← hn]
        exact Nat.lt_succ_of_le (List.length_filter_le ..)
      rw [List.eraseDups_cons]
      refine List.nodup_cons.2 ⟨?_, ih _ hlt _ rfl⟩
      intro ha
      have hf := (List.mem_filter.1 (List.mem_eraseDups.1 ha)).2
      simp at hf

end Scorebook
