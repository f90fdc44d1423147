import Mathlib.Data.List.Forall2
import Scorebook.Json.Decoding
import Scorebook.Proofs.Basic
import Scorebook.Proofs.Json.Rereading

/-!
# Decoding what was read back

`Rereads write decode R` says that what is decoded after a value was written and read back stands in
the relation `R` to that value.  Texts, truth values and counts come back as they are; the parts of
a record, a list or a pair are taken back one by one.
-/

namespace Scorebook.Json
open JsonNumber

/-- What is decoded from a value like a written one is related to what was written. -/
def Rereads {α : Type} (write : α → Json) (decode : Decoder α) (R : α → α → Prop) : Prop :=
  ∀ a a' w, Alike (write a) w → decode w = some a' → R a a'

/-! ### Values that come back as they are -/

/-- Only the value itself is like what is written for a value. -/
def Kept {α : Type} (write : α → Json) : Prop := ∀ a w, Alike (write a) w → w = write a

theorem kept_text? : Kept ofText?
  | none, _, h => h
  | some _, _, h => h

theorem fits_ofCount (n : UInt32) : Fits n.toNat := by
  have hn := n.toNat_lt
  constructor <;> omega

theorem kept_count : Kept fun n : UInt32 => ofNat n.toNat := by
  intro n w h
  obtain ⟨m, rfl, hm⟩ := h
  rw [hm (fits_ofCount n)]
  rfl

theorem kept_count? : Kept fun n : Option UInt32 => ofNat? (n.map UInt32.toNat) := by
  intro n w h
  cases n with
  | none => exact h
  | some n => exact kept_count n w h

theorem count?_ofNat (n : UInt32) : count? (ofNat n.toNat) = some n := by
  have hn : n.toNat ≤ Text.maxU32 := Nat.le_of_lt_succ n.toNat_lt
  have hread : natUpTo? Text.maxU32 (ofNat n.toNat) = some n.toNat := if_pos hn
  rw [count?, hread, Option.map_some, UInt32.ofNat_toNat]

@[simp] theorem optional_text? (s : Option String) :
    (Given.value (ofText? s)).optional text? = some s := by
  cases s <;> rfl

@[simp] theorem optional_count? (n : Option UInt32) :
    (Given.value (ofNat? (n.map UInt32.toNat))).optional count? = some n := by
  cases n with
  | none => rfl
  | some n => exact congrArg (Option.map some) (count?_ofNat n)

@[simp] theorem nullable_count? (n : Option UInt32) :
    nullable? count? (ofNat? (n.map UInt32.toNat)) = some n := by
  cases n with
  | none => rfl
  | some n => exact congrArg (Option.map some) (count?_ofNat n)

/-- What is kept and decoded from what was written is reread as it is. -/
theorem Kept.rereads {α : Type} {write : α → Json} {decode : Decoder α} (h : Kept write)
    (hd : ∀ a, decode (write a) = some a) : Rereads write decode Eq := by
  intro a a' w hw hdecode
  rw [h a w hw, hd a] at hdecode
  exact Option.some.inj hdecode

/-! ### Lists -/

/-- A list is decoded when each of its items is. -/
theorem list?_map {α : Type} {write : α → Json} {decode : Decoder α}
    (h : ∀ a, decode (write a) = some a) (as : List α) :
    list? decode (.arr (as.map write)) = some as :=
  mapM_map_eq fun a _ => h a

theorem alikeItems_append {vs us ws : List Json} (h : AlikeItems (vs ++ us) ws) :
    ∃ ws₁ ws₂, ws = ws₁ ++ ws₂ ∧ AlikeItems vs ws₁ ∧ AlikeItems us ws₂ := by
  induction vs generalizing ws with
  | nil => exact ⟨[], ws, rfl, rfl, h⟩
  | cons v vs ih =>
    obtain ⟨w, rest, rfl, hw, hrest⟩ := h
    obtain ⟨ws₁, ws₂, rfl, h₁, h₂⟩ := ih hrest
    exact ⟨w :: ws₁, ws₂, rfl, ⟨w, ws₁, rfl, hw, h₁⟩, h₂⟩

theorem Kept.items {α : Type} {write : α → Json} (h : Kept write) {as : List α} {ws : List Json}
    (hw : AlikeItems (as.map write) ws) : ws = as.map write := by
  induction as generalizing ws with
  | nil => exact hw
  | cons a as ih =>
    obtain ⟨w, rest, rfl, hfirst, hrest⟩ := hw
    rw [h a w hfirst, ih hrest]
    rfl

/-- The items of a list are decoded one by one. -/
theorem Rereads.list {α : Type} {write : α → Json} {decode : Decoder α} {R : α → α → Prop}
    (h : Rereads write decode R) :
    Rereads (fun as => .arr (as.map write)) (list? decode) (List.Forall₂ R) := by
  intro as as' w hw hdecode
  obtain ⟨ws, rfl, hws⟩ := hw
  have hitems : ws.mapM decode = some as' := hdecode
  clear hdecode
  induction as generalizing ws as' with
  | nil =>
    obtain rfl : ws = [] := hws
    cases hitems
    exact .nil
  | cons a as ih =>
    obtain ⟨w, rest, rfl, hfirst, hrest⟩ := hws
    rw [List.mapM_cons] at hitems
    obtain ⟨a', ha', hitems⟩ := Option.bind_eq_some_iff.1 hitems
    obtain ⟨as', has', hitems⟩ := Option.bind_eq_some_iff.1 hitems
    cases hitems
    exact .cons (h a a' w hfirst ha') (ih as' rest hrest has')

theorem Rereads.list_eq {α : Type} {write : α → Json} {decode : Decoder α}
    (h : Rereads write decode Eq) :
    Rereads (fun as => .arr (as.map write)) (list? decode) Eq := by
  intro as as' w hw hdecode
  have hall := h.list as as' w hw hdecode
  rwa [List.forall₂_eq_eq_eq] at hall

theorem mapM_optional_count? (ns : List (Option UInt32)) :
    ((ns.map fun n => ofNat? (n.map UInt32.toNat)).map Given.value).mapM
      (·.optional count?) = some ns := by
  rw [List.map_map]
  exact mapM_map_eq fun n _ => optional_count? n

/-! ### Records -/

theorem names_of_alikeFields {fs gs : List (String × Json)} (h : AlikeFields fs gs) :
    gs.map Prod.fst = fs.map Prod.fst ∧ AlikeItems (fs.map Prod.snd) (gs.map Prod.snd) := by
  induction fs generalizing gs with
  | nil =>
    obtain rfl : gs = [] := h
    exact ⟨rfl, rfl⟩
  | cons f fs ih =>
    obtain ⟨w, rest, rfl, hw, hrest⟩ := h
    obtain ⟨hnames, hitems⟩ := ih hrest
    exact ⟨congrArg (f.1 :: ·) hnames, w, rest.map Prod.snd, rfl, hw, hitems⟩

theorem givenIn_of_mem {gs : List (String × Json)} (hn : (gs.map Prod.fst).Nodup) {name : String}
    {v : Json} (hmem : (name, v) ∈ gs) : givenIn gs name = some (.value v) := by
  have hfilter : gs.filter (fun f => f.1 == name) = [(name, v)] := by
    induction gs with
    | nil => cases hmem
    | cons f gs ih =>
      obtain ⟨hf, hrest⟩ := List.nodup_cons.1 hn
      rcases List.mem_cons.1 hmem with rfl | hmem
      · -- No later field has the name of the first one.
        rw [List.filter_cons_of_pos (by simp)]
        refine congrArg ((name, v) :: ·) (List.filter_eq_nil_iff.2 fun g hg hname => hf ?_)
        exact List.mem_map.2 ⟨g, hg, beq_iff_eq.1 hname⟩
      · have hne : f.1 ≠ name := by
          rintro rfl
          exact hf (List.mem_map.2 ⟨(f.1, v), hmem, rfl⟩)
        rw [List.filter_cons_of_neg (by simpa using hne), ih hrest hmem]
  rw [givenIn, valuesOf, hfilter]
  rfl

theorem record?_fields {gs : List (String × Json)} (hn : (gs.map Prod.fst).Nodup) :
    record? (gs.map Prod.fst) (.obj gs) = some (gs.map fun g => .value g.2) := by
  have hall : ∀ hs : List (String × Json), (∀ g ∈ hs, g ∈ gs) →
      (hs.map Prod.fst).mapM (givenIn gs) = some (hs.map fun g => .value g.2) := by
    intro hs
    induction hs with
    | nil => exact fun _ => rfl
    | cons g hs ih =>
      intro hmem
      obtain ⟨hg, hrest⟩ := List.forall_mem_cons.1 hmem
      rw [List.map_cons, List.mapM_cons, givenIn_of_mem hn hg, ih hrest]
      rfl
  exact hall gs fun _ hg => hg

/-- A record that was written is given back field by field. -/
theorem alike_of_record? {names : List String} {fs : List (String × Json)} {w : Json}
    {given : List Given} (hgiven : record? names w = some given) (hn : names.Nodup)
    (hf : fs.map Prod.fst = names) (h : Alike (.obj fs) w) :
    ∃ ws, given = ws.map .value ∧ AlikeItems (fs.map Prod.snd) ws := by
  obtain ⟨gs, rfl, hgs⟩ := h
  obtain ⟨hnames, hitems⟩ := names_of_alikeFields hgs
  rw [← hf, ← hnames] at hn hgiven
  rw [record?_fields hn] at hgiven
  cases hgiven
  exact ⟨gs.map Prod.snd, List.map_map.symm, hitems⟩

end Scorebook.Json
