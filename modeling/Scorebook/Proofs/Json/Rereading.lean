import Scorebook.Proofs.Json.Numbers
import Scorebook.Proofs.Json.Strings

/-!
# Reading back what was written

Whatever is read from the compact text of a value is the value itself, but for its floating-point
numbers: these are written as the shortest decimal and read with a rounding of their own, so all
that is said of one is that a number stands in its place.  A value without such numbers that is not
too deep is read back as it is.
-/

namespace Scorebook.Json
open Text JsonNumber

mutual
/-- The second value is the first one, up to what floating-point numbers and integers beyond 64 bits
have become. -/
def Alike : Json → Json → Prop
  | .num (.int i), w => ∃ n, w = .num n ∧ (Fits i → n = .int i)
  | .num (.float _), w => ∃ n, w = .num n
  | .arr vs, w => ∃ ws, w = .arr ws ∧ AlikeItems vs ws
  | .obj fs, w => ∃ gs, w = .obj gs ∧ AlikeFields fs gs
  | v, w => w = v
/-- Items that are alike one by one. -/
def AlikeItems : List Json → List Json → Prop
  | [], ws => ws = []
  | v :: vs, ws => ∃ w rest, ws = w :: rest ∧ Alike v w ∧ AlikeItems vs rest
/-- Fields of the same names that are alike one by one. -/
def AlikeFields : List (String × Json) → List (String × Json) → Prop
  | [], gs => gs = []
  | (name, v) :: fs, gs => ∃ w rest, gs = (name, w) :: rest ∧ Alike v w ∧ AlikeFields fs rest
end

instance (i : Int) : Decidable (Fits i) := inferInstanceAs (Decidable (_ ∧ _))

mutual
/-- The value has no floating-point number, no integer beyond 64 bits, and arrays and objects at most
so deep inside one another. -/
def isPlain (room : Nat) : Json → Bool
  | .num (.int i) => decide (Fits i)
  | .num (.float _) => false
  | .arr vs => decide (0 < room) && arePlainItems (room - 1) vs
  | .obj fs => decide (0 < room) && arePlainFields (room - 1) fs
  | _ => true
/-- All items are plain. -/
def arePlainItems (room : Nat) : List Json → Bool
  | [] => true
  | v :: vs => isPlain room v && arePlainItems room vs
/-- The values of all fields are plain. -/
def arePlainFields (room : Nat) : List (String × Json) → Bool
  | [] => true
  | (_, v) :: fs => isPlain room v && arePlainFields room fs
end

theorem arePlainItems_map {α : Type} {write : α → Json} {room : Nat}
    (h : ∀ a, isPlain room (write a) = true) (as : List α) :
    arePlainItems room (as.map write) = true := by
  induction as with
  | nil => rfl
  | cons a as ih => rw [List.map_cons, arePlainItems, h a, ih, Bool.and_self]

theorem arePlainFields_append (room : Nat) (fs gs : List (String × Json)) :
    arePlainFields room (fs ++ gs) = (arePlainFields room fs && arePlainFields room gs) := by
  induction fs with
  | nil => rfl
  | cons f fs ih => simp only [List.cons_append, arePlainFields, ih, Bool.and_assoc]

/-! ### Reading lexeme by lexeme -/

/-- Carries on reading with a text. -/
def Progress.reads (p : Progress) (cs : List Char) : Option Json := (lexemes? cs).bind p.run

theorem read?_eq (s : String) : read? s = (Progress.mk [] .beforeValue).reads s.toList := by
  unfold read? Progress.reads
  cases lexemes? s.toList <;> rfl

theorem Progress.run_cons (p : Progress) (l : Lexeme) (ls : List Lexeme) :
    p.run (l :: ls) = (p.step l).bind fun q => q.run ls := by
  cases hstep : p.step l <;> simp [Progress.run, hstep]

/-- A text is read by its first lexeme and then by what follows. -/
theorem Progress.reads_of_lexeme {p : Progress} {c : Char} {cs after : List Char} {l : Lexeme}
    (hblank : isJsonBlank c = false) (hl : lexeme? (c :: cs) = some (l, after))
    (hlt : after.length < (c :: cs).length) :
    p.reads (c :: cs) = (p.step l).bind fun q => q.reads after := by
  have hlexemes : lexemes? (c :: cs) = (lexemes? after).map (l :: ·) := by
    rw [lexemes?]
    simp only [hblank, hl, hlt, Bool.false_eq_true, if_false, dite_true]
  unfold Progress.reads
  rw [hlexemes]
  cases hafter : lexemes? after with
  | none => cases p.step l <;> rfl
  | some ls =>
    simp only [Option.map_some, Option.bind_some]
    exact Progress.run_cons p l ls

/-- A text that is read has a first lexeme, and what follows it is read from there. -/
theorem Progress.exists_lexeme {p : Progress} {c : Char} {cs : List Char} {w : Json}
    (hblank : isJsonBlank c = false) (h : p.reads (c :: cs) = some w) :
    ∃ l after q, lexeme? (c :: cs) = some (l, after) ∧ p.step l = some q ∧
      q.reads after = some w := by
  obtain ⟨ls, hls, hrun⟩ := Option.bind_eq_some_iff.1 h
  rw [lexemes?] at hls
  simp only [hblank, Bool.false_eq_true, if_false] at hls
  cases hl : lexeme? (c :: cs) with
  | none =>
    rw [hl] at hls
    cases hls
  | some found =>
    obtain ⟨l, after⟩ := found
    simp only [hl] at hls
    split at hls
    · obtain ⟨rest, hrest, rfl⟩ := Option.map_eq_some_iff.1 hls
      rw [Progress.run_cons] at hrun
      obtain ⟨q, hq, hw⟩ := Option.bind_eq_some_iff.1 hrun
      exact ⟨l, after, q, rfl, hq, Option.bind_eq_some_iff.2 ⟨rest, hrest, hw⟩⟩
    · cases hls

/-- A value may stand here. -/
def AtValue (pos : Position) : Prop := pos = .beforeValue ∨ pos = .afterOpenArray

/-- A name may stand here. -/
def AtName (pos : Position) : Prop := pos = .beforeName ∨ pos = .afterOpenObject

theorem step_of_atValue {frames : List Frame} {pos : Position} (h : AtValue pos) {l : Lexeme}
    (hl : l ≠ .closeArray) : Progress.step ⟨frames, pos⟩ l = Progress.value frames l := by
  rcases h with rfl | rfl
  · rfl
  · cases l with
    | closeArray => exact absurd rfl hl
    | _ => rfl

theorem step_of_atName {frames : List Frame} {pos : Position} (h : AtName pos) (s : String) :
    Progress.step ⟨frames, pos⟩ (.text s) = some ⟨frames, .afterName s⟩ := by
  rcases h with rfl | rfl <;> rfl

section
variable {frames : List Frame} {pos : Position} {rest : List Char} {w : Json}

/-- Reads one of the characters that are lexemes by themselves. -/
theorem reads_mark {p q : Progress} {c : Char} {l : Lexeme} (hblank : isJsonBlank c = false)
    (hl : lexeme? (c :: rest) = some (l, rest)) (hstep : p.step l = some q) :
    p.reads (c :: rest) = q.reads rest := by
  rw [Progress.reads_of_lexeme hblank hl (Nat.lt_succ_self _), hstep]
  rfl

theorem reads_stringText {p q : Progress} {s : String} (hstep : p.step (.text s) = some q) :
    p.reads ((stringText s).toList ++ rest) = q.reads rest := by
  have hl := lexeme_stringText s rest
  have htext : (stringText s).toList ++ rest =
      '"' :: (s.toList.flatMap escapeChar ++ ['"'] ++ rest) := by
    rw [stringText, String.toList_ofList, List.cons_append]
  have hlt : rest.length < ('"' :: (s.toList.flatMap escapeChar ++ ['"'] ++ rest)).length := by
    simp only [List.length_cons, List.length_append]
    omega
  rw [htext] at hl ⊢
  rw [Progress.reads_of_lexeme rfl hl hlt, hstep]
  rfl

/-- A word that stands for a value is read as that value. -/
theorem reads_word {v : Json} {c : Char} {cs : List Char} (hpos : AtValue pos)
    (hblank : isJsonBlank c = false) (hl : lexeme? (c :: cs ++ rest) = some (.value v, rest)) :
    Progress.reads ⟨frames, pos⟩ (c :: cs ++ rest) =
      Progress.reads ⟨frames, .afterValue v⟩ rest := by
  have hlt : rest.length < (c :: (cs ++ rest)).length := by
    simp only [List.length_cons, List.length_append]
    omega
  rw [List.cons_append] at hl ⊢
  rw [Progress.reads_of_lexeme hblank hl hlt, step_of_atValue hpos (by simp)]
  rfl

/-! ### Numbers -/

theorem lexeme_numberChar {c : Char} (hc : isNumberChar c = true) (cs : List Char) :
    lexeme? (c :: cs) =
      (JsonNumber.read (c :: cs)).map fun (n, rest) => (.value (.num n), rest) := by
  have hn : c ≠ 'n' := by rintro rfl; cases hc
  have ht : c ≠ 't' := by rintro rfl; cases hc
  have hf : c ≠ 'f' := by rintro rfl; cases hc
  generalize htext : c :: cs = text
  unfold lexeme?
  split
  all_goals cases htext
  all_goals first | cases hc | skip
  simp only [if_neg hn, if_neg ht, if_neg hf]

theorem isJsonBlank_of_isNumberChar {c : Char} (hc : isNumberChar c = true) :
    isJsonBlank c = false := by
  cases hblank : isJsonBlank c with
  | false => rfl
  | true =>
    simp only [isJsonBlank, Bool.or_eq_true, beq_iff_eq] at hblank
    rcases hblank with ((rfl | rfl) | rfl) | rfl <;> cases hc

/-- Reading a text that starts like a number takes a number. -/
theorem exists_number {p : Progress} {c : Char} {cs : List Char} (hc : isNumberChar c = true)
    (h : p.reads (c :: cs) = some w) :
    ∃ n after q, JsonNumber.read (c :: cs) = some (n, after) ∧
      p.step (.value (.num n)) = some q ∧ q.reads after = some w := by
  obtain ⟨l, after, q, hl, hq, hw⟩ :=
    Progress.exists_lexeme (isJsonBlank_of_isNumberChar hc) h
  rw [lexeme_numberChar hc] at hl
  obtain ⟨⟨n, _⟩, hn, hfound⟩ := Option.map_eq_some_iff.1 hl
  cases hfound
  exact ⟨n, after, q, hn, hq, hw⟩

theorem next_value (v v' : Json) (frames : List Frame) :
    Progress.next v frames (.value v') = none := by
  cases frames with
  | nil => rfl
  | cons f frames => cases f <;> rfl

/-- After a value no number can follow. -/
theorem not_reads_number {v : Json} {c : Char} {cs : List Char} (hc : isNumberChar c = true) :
    Progress.reads ⟨frames, .afterValue v⟩ (c :: cs) ≠ some w := by
  intro h
  obtain ⟨n, after, q, -, hq, -⟩ := exists_number hc h
  have hrefused : Progress.step ⟨frames, .afterValue v⟩ (.value (.num n)) = none :=
    next_value v (.num n) frames
  rw [hrefused] at hq
  cases hq

/-- A text made of characters of numbers is read as one number. -/
theorem reads_numberText {t : List Char} (hpos : AtValue pos) (ht : NumberText t)
    (hrest : Ends rest) (h : Progress.reads ⟨frames, pos⟩ (t ++ rest) = some w) :
    ∃ n, JsonNumber.read (t ++ rest) = some (n, rest) ∧
      Progress.reads ⟨frames, .afterValue (.num n)⟩ rest = some w := by
  obtain ⟨hne, hchars⟩ := ht
  obtain ⟨c, cs, rfl⟩ := List.exists_cons_of_ne_nil hne
  have hc : isNumberChar c = true := List.all_eq_true.1 hchars c List.mem_cons_self
  rw [List.cons_append] at h
  obtain ⟨n, after, q, hn, hq, hw⟩ := exists_number hc h
  rw [← List.cons_append] at hn
  have hstep : Progress.step ⟨frames, pos⟩ (.value (.num n)) =
      some ⟨frames, .afterValue (.num n)⟩ := step_of_atValue hpos (by simp)
  rw [hstep] at hq
  cases hq
  obtain ⟨taken, htaken, hnumber⟩ := leaves_of_read hn
  have hall : ∀ d ∈ taken ++ (c :: cs), isNumberChar d = true := by
    intro d hd
    rcases List.mem_append.1 hd with hd | hd
    · exact List.all_eq_true.1 hnumber d hd
    · exact List.all_eq_true.1 hchars d hd
  rcases List.append_eq_append_iff.1 htaken with ⟨more, rfl, rfl⟩ | ⟨more, hmore, rfl⟩
  · -- More would have been taken than the text, but what follows it is no part of a number.
    cases more with
    | nil => exact ⟨n, hn, hw⟩
    | cons d ds =>
      have hd : isNumberChar d = true := hall d (by simp)
      rw [hrest d _ rfl] at hd
      cases hd
  · cases more with
    | nil => exact ⟨n, hn, hw⟩
    | cons d ds =>
      have hd : isNumberChar d = true := hall d (by simp [hmore])
      exact absurd hw (not_reads_number hd)

/-! ### Values -/

def itemsText (vs : List Json) : List Char :=
  [','].intercalate ((compactItems vs).map String.toList)

def fieldsText (fs : List (String × Json)) : List Char :=
  [','].intercalate ((compactFields fs).map String.toList)

theorem toList_compact_arr (vs : List Json) :
    (compact (.arr vs)).toList = '[' :: (itemsText vs ++ [']']) := by
  simp only [compact, String.toList_append, String.toList_intercalate, itemsText]
  rfl

theorem toList_compact_obj (fs : List (String × Json)) :
    (compact (.obj fs)).toList = '\x7b' :: (fieldsText fs ++ ['\x7d']) := by
  simp only [compact, String.toList_append, String.toList_intercalate, fieldsText]
  rfl

theorem itemsText_singleton (v : Json) : itemsText [v] = (compact v).toList :=
  List.intercalate_singleton

theorem itemsText_cons_cons (v u : Json) (vs : List Json) :
    itemsText (v :: u :: vs) = (compact v).toList ++ ',' :: itemsText (u :: vs) := by
  simp only [itemsText, compactItems, List.map_cons, List.intercalate_cons_cons, List.append_assoc]
  rfl

theorem toList_compactField (name : String) (v : Json) :
    (stringText name ++ ":" ++ compact v).toList =
      (stringText name).toList ++ ':' :: (compact v).toList := by
  simp only [String.toList_append, List.append_assoc]
  rfl

theorem fieldsText_singleton (name : String) (v : Json) :
    fieldsText [(name, v)] = (stringText name).toList ++ ':' :: (compact v).toList := by
  rw [← toList_compactField]
  exact List.intercalate_singleton

theorem fieldsText_cons_cons (name : String) (v : Json) (f : String × Json)
    (fs : List (String × Json)) :
    fieldsText ((name, v) :: f :: fs) =
      (stringText name).toList ++ ':' :: ((compact v).toList ++ ',' :: fieldsText (f :: fs)) := by
  simp only [fieldsText, compactFields, List.map_cons, List.intercalate_cons_cons,
    toList_compactField, List.append_assoc, List.cons_append]
  rfl

end

/-- What may be read in the place of something written: only what is like it, and the same where it
is plain. -/
structure Stands {α : Type} (like : α → Prop) (plain : Bool) (a : α) (o : Option α) : Prop where
  like : ∀ a', o = some a' → like a'
  plain : plain = true → o = some a

theorem stands_none {α : Type} {like : α → Prop} {plain : Bool} {a : α} (h : plain = false) :
    Stands like plain a none where
  like := nofun
  plain := fun hp => absurd (h.symm.trans hp) Bool.false_ne_true

theorem stands_some {α : Type} {like : α → Prop} {plain : Bool} {a a' : α} (h : like a')
    (hp : plain = true → a' = a) : Stands like plain a (some a') where
  like := fun _ hb => Option.some.inj hb ▸ h
  plain := fun hplain => congrArg some (hp hplain)

section
variable {α β γ : Type} {like : α → Prop} {plain : Bool} {a a' : α} {o : Option α}

theorem Stands.not_plain (h : Stands like plain a none) : plain = false :=
  Bool.eq_false_iff.2 fun hp => nomatch h.plain hp

theorem Stands.map (h : Stands like plain a o) {like' : β → Prop} {plain' : Bool} {f : α → β}
    (hl : ∀ x, like x → like' (f x)) (hp : plain' = true → plain = true) :
    Stands like' plain' (f a) (o.map f) where
  like := by
    intro b hb
    obtain ⟨x, hx, rfl⟩ := Option.map_eq_some_iff.1 hb
    exact hl x (h.like x hx)
  plain := fun hplain => congrArg (Option.map f) (h.plain (hp hplain))

/-- What stands for a first part and for all that follows it. -/
theorem Stands.map₂ (h : Stands like plain a (some a')) {likes : β → Prop} {plains : Bool}
    {b : β} {os : Option β} (hs : Stands likes plains b os) {like' : γ → Prop} {f : α → β → γ}
    (hl : ∀ y, like a' → likes y → like' (f a' y)) :
    Stands like' (plain && plains) (f a b) (os.map (f a')) where
  like := by
    intro c hc
    obtain ⟨y, hy, rfl⟩ := Option.map_eq_some_iff.1 hc
    exact hl y (h.like a' rfl) (hs.like y hy)
  plain := by
    intro hp
    obtain ⟨hfirst, hrest⟩ := Bool.and_eq_true_iff.1 hp
    obtain rfl := Option.some.inj (h.plain hfirst)
    rw [hs.plain hrest]
    rfl

end

section
variable {frames : List Frame} {pos : Position} {rest : List Char}

theorem reads_signedDecimal {i : Int} (hi : Fits i) (hpos : AtValue pos) (hrest : Ends rest) :
    Progress.reads ⟨frames, pos⟩ ((signedDecimal i).toList ++ rest) =
      Progress.reads ⟨frames, .afterValue (.num (.int i))⟩ rest := by
  obtain ⟨hne, hchars⟩ := numberText_signedDecimal i
  have hread := read_signedDecimal hi hrest
  obtain ⟨c, cs, htext⟩ := List.exists_cons_of_ne_nil hne
  rw [htext] at hchars hread ⊢
  have hc : isNumberChar c = true := List.all_eq_true.1 hchars c List.mem_cons_self
  refine reads_word hpos (isJsonBlank_of_isNumberChar hc) ?_
  rw [List.cons_append] at hread ⊢
  rw [lexeme_numberChar hc, hread]
  rfl

theorem reads_number (n : JsonNumber) (hpos : AtValue pos) (hrest : Ends rest) :
    ∃ o, Stands (Alike (.num n)) (isPlain (maxDepth - frames.length) (.num n)) (.num n) o ∧
      Progress.reads ⟨frames, pos⟩ ((numberText n).toList ++ rest) =
        o.bind fun v => Progress.reads ⟨frames, .afterValue v⟩ rest := by
  by_cases hfits : ∃ i, n = .int i ∧ Fits i
  · obtain ⟨i, rfl, hi⟩ := hfits
    exact ⟨some (.num (.int i)), stands_some ⟨_, rfl, fun _ => rfl⟩ fun _ => rfl,
      reads_signedDecimal hi hpos hrest⟩
  have htext : NumberText (numberText n).toList := by
    cases n with
    | int i => exact numberText_signedDecimal i
    | float x =>
      rw [numberText, String.toList_ofList]
      exact numberText_scientific x
  have hplain : isPlain (maxDepth - frames.length) (.num n) = false := by
    cases n with
    | int i => exact decide_eq_false fun hi => hfits ⟨i, rfl, hi⟩
    | float x => rfl
  -- Any other number may be read as another one, or the text may not be read at all.
  cases hread : Progress.reads ⟨frames, pos⟩ ((numberText n).toList ++ rest) with
  | none => exact ⟨none, stands_none hplain, rfl⟩
  | some w =>
    obtain ⟨m, -, hw⟩ := reads_numberText hpos htext hrest hread
    refine ⟨some (.num m), stands_some ?_ fun hp => ?_, hw.symm⟩
    · cases n with
      | int i => exact ⟨m, rfl, fun hi => absurd ⟨i, rfl, hi⟩ hfits⟩
      | float x => exact ⟨m, rfl⟩
    · rw [hplain] at hp
      cases hp

/-- What stands between brackets, with the brackets around it. -/
theorem reads_framed {α : Type} {like : α → Prop} {plain : Bool} {a : α} {wrap : α → Json}
    {f : Frame} {p : Position} {c : Char} {l : Lexeme} {text : List Char} (hpos : AtValue pos)
    (hl : l ≠ .closeArray) (hblank : isJsonBlank c = false)
    (hlexeme : lexeme? (c :: text) = some (l, text))
    (hopens : Progress.value frames l = Progress.push frames f p)
    (hinside : ∃ o, Stands like plain a o ∧ Progress.reads ⟨f :: frames, p⟩ text =
      o.bind fun a' => Progress.reads ⟨frames, .afterValue (wrap a')⟩ rest) :
    ∃ o, Stands (fun v => ∃ a', v = wrap a' ∧ like a')
        (decide (0 < maxDepth - frames.length) && plain) (wrap a) o ∧
      Progress.reads ⟨frames, pos⟩ (c :: text) =
        o.bind fun v => Progress.reads ⟨frames, .afterValue v⟩ rest := by
  have hstep : Progress.step ⟨frames, pos⟩ l = Progress.push frames f p :=
    (step_of_atValue hpos hl).trans hopens
  have hlt : text.length < (c :: text).length := Nat.lt_succ_self _
  rw [Progress.reads_of_lexeme hblank hlexeme hlt, hstep]
  by_cases hroom : frames.length < maxDepth
  · obtain ⟨o, ho, hreads⟩ := hinside
    refine ⟨o.map wrap, ho.map (fun a' ha' => ⟨a', rfl, ha'⟩) ?_, ?_⟩
    · exact fun hplain => (Bool.and_eq_true_iff.1 hplain).2
    · rw [Progress.push, if_pos hroom, Option.bind_some, hreads]
      cases o <;> rfl
  · have hfull : decide (0 < maxDepth - frames.length) = false := by
      rw [decide_eq_false_iff_not]
      omega
    refine ⟨none, stands_none (by rw [hfull, Bool.false_and]), ?_⟩
    rw [Progress.push, if_neg hroom]
    rfl

end

mutual
/-- What is read from the text of a value, and what follows it. -/
theorem reads_compact {frames : List Frame} {pos : Position} {rest : List Char} (v : Json)
    (hpos : AtValue pos) (hrest : Ends rest) :
    ∃ o, Stands (Alike v) (isPlain (maxDepth - frames.length) v) v o ∧
      Progress.reads ⟨frames, pos⟩ ((compact v).toList ++ rest) =
        o.bind fun v' => Progress.reads ⟨frames, .afterValue v'⟩ rest := by
  cases v with
  | null => exact ⟨some .null, stands_some rfl fun _ => rfl, reads_word hpos rfl rfl⟩
  | bool b =>
    cases b with
    | false => exact ⟨some (.bool false), stands_some rfl fun _ => rfl, reads_word hpos rfl rfl⟩
    | true => exact ⟨some (.bool true), stands_some rfl fun _ => rfl, reads_word hpos rfl rfl⟩
  | num n => exact reads_number n hpos hrest
  | str s =>
    exact ⟨some (.str s), stands_some rfl fun _ => rfl,
      reads_stringText (step_of_atValue hpos (by simp))⟩
  | arr vs =>
    rw [toList_compact_arr, List.cons_append, List.append_assoc]
    refine reads_framed (a := vs) hpos (by simp) rfl rfl rfl ?_
    cases vs with
    | nil => exact ⟨some [], stands_some rfl fun _ => rfl, reads_mark rfl rfl rfl⟩
    | cons v vs => exact reads_items v vs (.inr rfl)
  | obj fs =>
    rw [toList_compact_obj, List.cons_append, List.append_assoc]
    refine reads_framed (a := fs) hpos (by simp) rfl rfl rfl ?_
    cases fs with
    | nil => exact ⟨some [], stands_some rfl fun _ => rfl, reads_mark rfl rfl rfl⟩
    | cons f fs => exact reads_fields f.1 f.2 fs (.inr rfl)
termination_by sizeOf v
/-- The items of an array are read one by one up to its closing bracket. -/
theorem reads_items {frames : List Frame} {pos : Position} {done : List Json}
    {rest : List Char} (v : Json) (vs : List Json) (hpos : AtValue pos) :
    ∃ o, Stands (AlikeItems (v :: vs)) (arePlainItems (maxDepth - frames.length - 1) (v :: vs))
        (v :: vs) o ∧
      Progress.reads ⟨.items done :: frames, pos⟩ (itemsText (v :: vs) ++ (']' :: rest)) =
        o.bind fun ws =>
          Progress.reads ⟨frames, .afterValue (.arr (done.reverse ++ ws))⟩ rest := by
  cases vs with
  | nil =>
    obtain ⟨o, ho, hreads⟩ := reads_compact v hpos (ends_cons (c := ']') rfl rest)
    rw [itemsText_singleton, hreads]
    refine ⟨o.map fun v' => [v'],
      ho.map (f := fun v' => [v']) (fun v' hv' => ⟨v', [], rfl, hv', rfl⟩) ?_, ?_⟩
    · exact fun hplain => (Bool.and_eq_true_iff.1 hplain).1
    · cases o with
      | none => rfl
      | some v' =>
        rw [Option.bind_some, reads_mark (l := .closeArray) rfl rfl rfl, List.reverse_cons]
        rfl
  | cons u vs =>
    rw [itemsText_cons_cons, List.append_assoc, List.cons_append]
    obtain ⟨o, ho, hreads⟩ := reads_compact v hpos
      (ends_cons (c := ',') rfl (itemsText (u :: vs) ++ ']' :: rest))
    rw [hreads]
    cases o with
    | none => exact ⟨none, stands_none (Bool.and_eq_false_iff.2 (.inl ho.not_plain)), rfl⟩
    | some v' =>
      obtain ⟨os, hos, hreads⟩ := reads_items u vs (.inl rfl)
      refine ⟨os.map (v' :: ·), ho.map₂ hos fun ws hv' hws => ⟨v', ws, rfl, hv', hws⟩, ?_⟩
      rw [Option.bind_some, reads_mark (l := .comma) rfl rfl rfl, hreads]
      cases os with
      | none => rfl
      | some ws =>
        rw [Option.bind_some, List.reverse_cons, List.append_assoc]
        rfl
termination_by sizeOf (v :: vs)
/-- The fields of an object are read one by one up to its closing brace. -/
theorem reads_fields {frames : List Frame} {pos : Position} {done : List (String × Json)}
    {rest : List Char} (name : String) (v : Json) (fs : List (String × Json))
    (hpos : AtName pos) :
    ∃ o, Stands (AlikeFields ((name, v) :: fs))
        (arePlainFields (maxDepth - frames.length - 1) ((name, v) :: fs)) ((name, v) :: fs) o ∧
      Progress.reads ⟨.fields done :: frames, pos⟩
          (fieldsText ((name, v) :: fs) ++ ('\x7d' :: rest)) =
        o.bind fun gs =>
          Progress.reads ⟨frames, .afterValue (.obj (done.reverse ++ gs))⟩ rest := by
  cases fs with
  | nil =>
    rw [fieldsText_singleton, List.append_assoc, reads_stringText (step_of_atName hpos name),
      List.cons_append, reads_mark (l := .colon) rfl rfl rfl]
    obtain ⟨o, ho, hreads⟩ := reads_compact v (.inl rfl) (ends_cons (c := '\x7d') rfl rest)
    rw [hreads]
    refine ⟨o.map fun v' => [(name, v')],
      ho.map (f := fun v' => [(name, v')]) (fun v' hv' => ⟨v', [], rfl, hv', rfl⟩) ?_, ?_⟩
    · exact fun hplain => (Bool.and_eq_true_iff.1 hplain).1
    · cases o with
      | none => rfl
      | some v' =>
        rw [Option.bind_some, reads_mark (l := .closeObject) rfl rfl rfl, List.reverse_cons]
        rfl
  | cons f fs =>
    rw [fieldsText_cons_cons, List.append_assoc, reads_stringText (step_of_atName hpos name),
      List.cons_append, reads_mark (l := .colon) rfl rfl rfl, List.append_assoc, List.cons_append]
    obtain ⟨o, ho, hreads⟩ := reads_compact v (.inl rfl)
      (ends_cons (c := ',') rfl (fieldsText (f :: fs) ++ '\x7d' :: rest))
    rw [hreads]
    cases o with
    | none => exact ⟨none, stands_none (Bool.and_eq_false_iff.2 (.inl ho.not_plain)), rfl⟩
    | some v' =>
      obtain ⟨os, hos, hreads⟩ := reads_fields f.1 f.2 fs (.inl rfl)
      refine ⟨os.map ((name, v') :: ·),
        ho.map₂ (f := fun v fs => (name, v) :: fs) hos fun gs hv' hgs => ⟨v', gs, rfl, hv', hgs⟩, ?_⟩
      rw [Option.bind_some, reads_mark (l := .comma) rfl rfl rfl, hreads]
      cases os with
      | none => rfl
      | some gs =>
        rw [Option.bind_some, List.reverse_cons, List.append_assoc]
        rfl
termination_by sizeOf ((name, v) :: fs)
end

/-- What is read from the compact text of a value stands for the value. -/
theorem stands_read? (v : Json) :
    Stands (Alike v) (v.isPlain maxDepth) v (read? v.compact) := by
  obtain ⟨o, ho, hreads⟩ : ∃ o, Stands (Alike v)
      (v.isPlain (maxDepth - ([] : List Frame).length)) v o ∧
      Progress.reads ⟨[], .beforeValue⟩ (v.compact.toList ++ []) =
        o.bind fun v' => Progress.reads ⟨[], .afterValue v'⟩ [] :=
    reads_compact v (.inl rfl) ends_nil
  have hend : ∀ v', Progress.reads ⟨[], .afterValue v'⟩ [] = some v' := by
    intro v'
    rw [Progress.reads, lexemes?]
    rfl
  have hread : read? v.compact = o := by
    rw [read?_eq, ← List.append_nil v.compact.toList, hreads]
    cases o with
    | none => rfl
    | some v' => exact hend v'
  rw [hread]
  exact ho

end Scorebook.Json
