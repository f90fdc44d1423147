import Mathlib.Data.String.Basic
import Scorebook.BoxScore.Extras

/-!
# Extra columns by label

Putting a value under a label changes what is found under that label only.  The labels of columns
that were put one after another ascend, and putting a value that is already there changes nothing.
-/

namespace Scorebook.Extras

variable {label value : String} {entries : List (String × String)} {x : Extras}

/-! ### Putting an entry -/

theorem lookup_entry_cons (key : String) :
    ((label, value) :: entries).lookup key =
      if key = label then some value else entries.lookup key := by
  rw [List.lookup_cons]
  split
  · rename_i h
    rw [if_pos (beq_iff_eq.1 h)]
  · rename_i h
    rw [if_neg (beq_eq_false_iff_ne.1 h)]

theorem lookup_putEntry (key : String) :
    (putEntry label value entries).lookup key =
      if key = label then some value else entries.lookup key := by
  induction entries with
  | nil => exact lookup_entry_cons key
  | cons e rest ih =>
    obtain ⟨l, v⟩ := e
    unfold putEntry
    split
    · exact lookup_entry_cons key
    · split
      · rename_i heq
        subst heq
        simp only [lookup_entry_cons]
        split <;> rfl
      · rename_i hne
        simp only [lookup_entry_cons, ih]
        split
        · rename_i hkey
          rw [if_neg fun h => hne (h.symm.trans hkey)]
        · rfl

theorem mem_putEntry {e : String × String} (h : e ∈ putEntry label value entries) :
    e = (label, value) ∨ e ∈ entries := by
  induction entries with
  | nil => exact .inl (List.mem_singleton.1 h)
  | cons f rest ih =>
    unfold putEntry at h
    split at h
    · exact List.mem_cons.1 h
    · split at h
      · exact (List.mem_cons.1 h).imp_right (List.mem_cons_of_mem _)
      · rcases List.mem_cons.1 h with rfl | h
        · exact .inr List.mem_cons_self
        · exact (ih h).imp_right (List.mem_cons_of_mem _)

theorem pairwise_putEntry (h : entries.Pairwise fun e f => e.1 < f.1) :
    (putEntry label value entries).Pairwise fun e f => e.1 < f.1 := by
  induction entries with
  | nil => exact List.pairwise_singleton _ _
  | cons e rest ih =>
    obtain ⟨l, v⟩ := e
    obtain ⟨hfirst, hrest⟩ := List.pairwise_cons.1 h
    unfold putEntry
    split
    · rename_i hlt
      refine List.pairwise_cons.2 ⟨fun f hf => ?_, h⟩
      rcases List.mem_cons.1 hf with rfl | hf
      · exact hlt
      · exact String.lt_trans hlt (hfirst f hf)
    · split
      · rename_i heq
        exact List.pairwise_cons.2 ⟨fun f hf => heq ▸ hfirst f hf, hrest⟩
      · rename_i hlt hne
        refine List.pairwise_cons.2 ⟨fun f hf => ?_, ih hrest⟩
        rcases mem_putEntry hf with rfl | hf
        · exact lt_of_le_of_ne (String.not_lt.1 hlt) (Ne.symm hne)
        · exact hfirst f hf

theorem putEntry_of_lookup (h : entries.Pairwise fun e f => e.1 < f.1)
    (hvalue : entries.lookup label = some value) : putEntry label value entries = entries := by
  induction entries with
  | nil => cases hvalue
  | cons e rest ih =>
    obtain ⟨l, v⟩ := e
    obtain ⟨hfirst, hrest⟩ := List.pairwise_cons.1 h
    by_cases heq : label = l
    · subst heq
      simp only [lookup_entry_cons, if_true, Option.some.injEq] at hvalue
      simp only [putEntry, String.lt_irrefl, if_false, if_true, hvalue]
    · rw [lookup_entry_cons, if_neg heq] at hvalue
      obtain ⟨before, after, hsplit, -⟩ := List.lookup_eq_some_iff.1 hvalue
      have hmem : (label, value) ∈ rest := hsplit ▸ List.mem_append_right _ List.mem_cons_self
      rw [putEntry, if_neg (String.lt_asymm (hfirst _ hmem)), if_neg heq, ih hrest hvalue]

/-! ### Columns -/

/-- The labels ascend, so none of them stands twice. -/
def Ascending (x : Extras) : Prop := x.entries.Pairwise fun e f => e.1 < f.1

theorem ascending_empty : empty.Ascending := List.Pairwise.nil

theorem Ascending.insert (h : x.Ascending) : (x.insert label value).Ascending :=
  pairwise_putEntry h

theorem get?_insert (key : String) :
    (x.insert label value).get? key = if key = label then some value else x.get? key :=
  lookup_putEntry key

theorem insert_of_get? (h : x.Ascending) (hvalue : x.get? label = some value) :
    x.insert label value = x :=
  congrArg Extras.mk (putEntry_of_lookup h hvalue)

theorem mem_labels_of_get? (h : x.get? label = some value) : label ∈ x.labels := by
  obtain ⟨before, after, hsplit, -⟩ := List.lookup_eq_some_iff.1 h
  rw [labels, hsplit, List.map_append]
  exact List.mem_append_right _ List.mem_cons_self

end Scorebook.Extras
