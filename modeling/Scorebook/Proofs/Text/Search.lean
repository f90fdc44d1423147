import Scorebook.Text.Search

/-!
# Marks in a text

A piece stands at the start of a text when the text is that piece and a rest.  A text is cut at the
first of its marks, and stays whole where there is none.
-/

namespace Scorebook.Text

variable {cs before after : List Char}

theorem afterStart?_eq_some_iff {start rest : List Char} :
    afterStart? start cs = some rest ↔ cs = start ++ rest := by
  induction start generalizing cs with
  | nil => simp [afterStart?]
  | cons c start ih =>
    cases cs with
    | nil => simp [afterStart?]
    | cons d cs =>
      by_cases hcd : c = d
      · simp [afterStart?, hcd, ih]
      · simp [afterStart?, hcd, Ne.symm hcd]

theorem cutAt?_append_cons {mark : Char} (h : mark ∉ before) :
    cutAt? [mark] (before ++ mark :: after) = some (before, after) := by
  induction before with
  | nil => simp only [List.nil_append, cutAt?, afterStart?, if_true]
  | cons c before ih =>
    obtain ⟨hc, hbefore⟩ := List.ne_and_not_mem_of_not_mem_cons h
    simp only [List.cons_append, cutAt?, afterStart?, if_neg hc, ih hbefore, Option.map_some]

theorem cutAt?_of_not_mem {mark : Char} (h : mark ∉ cs) : cutAt? [mark] cs = none := by
  induction cs with
  | nil => rfl
  | cons c cs ih =>
    obtain ⟨hc, hcs⟩ := List.ne_and_not_mem_of_not_mem_cons h
    simp only [cutAt?, afterStart?, if_neg hc, ih hcs, Option.map_none]

theorem replaceChar_append (old : Char) (new cs ds : List Char) :
    replaceChar old new (cs ++ ds) = replaceChar old new cs ++ replaceChar old new ds :=
  List.flatMap_append

theorem replaceChar_of_not_mem {old : Char} (h : old ∉ cs) (new : List Char) :
    replaceChar old new cs = cs := by
  induction cs with
  | nil => rfl
  | cons c cs ih =>
    obtain ⟨hc, hcs⟩ := List.ne_and_not_mem_of_not_mem_cons h
    rw [replaceChar, List.flatMap_cons, if_neg (Ne.symm hc)]
    exact congrArg (c :: ·) (ih hcs)

end Scorebook.Text
