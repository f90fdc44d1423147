import Scorebook.Proofs.Basic
import Scorebook.Proofs.Store.Copies
import Scorebook.Proofs.Validation
import Scorebook.Store.Reading

/-!
# What a store holds of validated games

`Checked codes st` says that the store holds every game with what validation found in it, the valid
ones as accepted and the others as set aside.  The writes that go by this keep it, and what is read
from such a store is what validation finds in the box score that is read.
-/

namespace Scorebook.Store

/-- Every game is held with what validation found in it, in the table where it belongs. -/
structure Checked (codes : Franchise.CodeSet) (st : Store) : Prop where
  games : ∀ row ∈ st.games, ∃ b now, (Validation.ofBoxScore codes b).isValid = true ∧
    row = gameRow b (.ofBoxScore codes b) now
  quarantine : ∀ row ∈ st.quarantine, ∃ b now, (Validation.ofBoxScore codes b).isValid = false ∧
    row = quarantineRow b (.ofBoxScore codes b) now

section
variable {codes : Franchise.CodeSet} {st : Store} {b : BoxScore}

/-! ### Writes -/

theorem checked_empty (codes : Franchise.CodeSet) : Checked codes .empty where
  games := fun _ h => by cases h
  quarantine := fun _ h => by cases h

theorem mem_putRow {key : List String} {row r : Row} {rows : List Row}
    (h : r ∈ putRow key row rows) : r ∈ rows ∨ r = row := by
  rcases List.mem_append.1 h with h | h
  · exact .inl (List.mem_filter.1 h).1
  · exact .inr (List.mem_singleton.1 h)

/-- A valid game is accepted. -/
theorem Checked.save (h : Checked codes st) (hv : (Validation.ofBoxScore codes b).isValid = true)
    (now : Instant) : Checked codes (st.save b (.ofBoxScore codes b) now) where
  games := by
    intro row hrow
    rw [save_eq] at hrow
    rcases mem_putRow hrow with hrow | rfl
    · exact h.games row hrow
    · exact ⟨b, now, hv, rfl⟩
  quarantine := fun row hrow => h.quarantine row (List.mem_filter.1 hrow).1

/-- A game that is not valid is set aside. -/
theorem Checked.setAside (h : Checked codes st)
    (hv : (Validation.ofBoxScore codes b).isValid = false) (now : Instant) :
    Checked codes (st.setAside b (.ofBoxScore codes b) now) where
  games := h.games
  quarantine := by
    intro row hrow
    rw [setAside_eq] at hrow
    rcases mem_putRow hrow with hrow | rfl
    · exact h.quarantine row hrow
    · exact ⟨b, now, hv, rfl⟩

/-! ### Texts of cells -/

theorem decode_compact {α : Type} {write : α → Json} {decoder : Json.Decoder α}
    {R : α → α → Prop} (hr : Json.Rereads write decoder R) {a a' : α}
    (h : decode decoder (write a).compact = .ok a') : R a a' := by
  unfold decode at h
  split at h
  · rename_i hread
    cases h
    obtain ⟨w, hw, ha⟩ := Option.bind_eq_some_iff.1 hread
    exact hr a a' w ((Json.stands_read? _).like w hw) ha
  · cases h

theorem decode_plain {α : Type} {decoder : Json.Decoder α} {v : Json} {a : α}
    (hp : v.isPlain Json.maxDepth = true) (ha : decoder v = some a) :
    decode decoder v.compact = .ok a := by
  rw [decode, (Json.stands_read? v).plain hp, Option.bind_some, ha]

/-- Messages are read back. -/
theorem decodeMessages_messagesText (messages : List String) :
    decodeMessages (messagesText messages) = .ok messages := by
  have htext : ∀ m, Json.text? (Json.str m) = some m := fun _ => rfl
  have hplain : ∀ m, Json.isPlain (Json.maxDepth - 1) (Json.str m) = true := fun _ => rfl
  exact decode_plain (Bool.and_eq_true_iff.2 ⟨rfl, Json.arePlainItems_map hplain messages⟩)
    (Json.list?_map htext messages)

theorem countIn_of_cell {r : Row} {name : String} {n : Count} (h : r.cell name = .ofCount n) :
    countIn r name = .ok n := by
  have hle : n.toNat ≤ Text.maxU32 := Count.toNat_le n
  have hcell : Cell.ofCount n = .int (Int.ofNat n.toNat) := rfl
  simp only [countIn, h, hcell, if_pos hle, UInt32.ofNat_toNat]

/-- The box score that is read back is one in which validation finds the same. -/
theorem decode_boxScore {b' : BoxScore}
    (h : decode BoxScore.ofJson? b.toJson.compact = .ok b') :
    b'.gameId = b.gameId ∧
      Validation.ofBoxScore codes b' = Validation.ofBoxScore codes b := by
  have hsame := decode_compact BoxScore.rereads h
  exact ⟨hsame.gameId, Validation.ofBoxScore_eq_of_sameChecks hsame⟩

/-! ### Reading games -/

theorem exists_row_of_read {α : Type} {read : Row → Except StoreError α} {gameId : String}
    {rows : List Row} {a : α}
    (h : readRow? read (rowsWith "game_id" gameId rows).head? = .ok (some a)) :
    ∃ row ∈ rows, row.cell "game_id" = .text gameId ∧ read row = .ok a := by
  cases hrow : (rowsWith "game_id" gameId rows).head? with
  | none =>
    rw [hrow] at h
    cases h
  | some row =>
    rw [hrow] at h
    obtain ⟨hmem, hid⟩ := List.mem_filter.1 (List.mem_of_head? hrow)
    refine ⟨row, hmem, beq_iff_eq.1 hid, ?_⟩
    cases hread : read row with
    | error e =>
      simp only [readRow?, hread] at h
      cases h
    | ok a' =>
      simp only [readRow?, hread] at h
      cases h
      rfl

/-- Errors as a row has them: in a text, or none and no text. -/
def ErrorsIn (errors : Option String) (es : List String) : Prop :=
  errors = some (messagesText es) ∨ errors = none ∧ es = []

/-- A stored game is read with the messages that were written. -/
theorem storedGame_eq {errors : Option String} {es : List String} (he : ErrorsIn errors es)
    (text storedAt : String) (ws : List String) :
    storedGame text errors (messagesText ws) storedAt =
      (do
        let b ← decode BoxScore.ofJson? text
        let at_ ← decodeInstant storedAt
        .ok ⟨b, ⟨es.isEmpty, es, ws⟩, at_⟩) := by
  unfold storedGame
  rcases he with rfl | ⟨rfl, rfl⟩
  · simp only [decodeMessages_messagesText]
    rfl
  · simp only [decodeMessages_messagesText]
    rfl

/-- A stored game that is read back has the validation with which it was written, and validation
finds the same in it. -/
theorem storedGame_checked {errors : Option String} {storedAt : String} {g : StoredGame}
    (he : ErrorsIn errors (Validation.ofBoxScore codes b).errors)
    (h : storedGame b.toJson.compact errors
      (messagesText (Validation.ofBoxScore codes b).warnings) storedAt = .ok g) :
    g.boxScore.gameId = b.gameId ∧ g.validation = Validation.ofBoxScore codes b ∧
      Validation.ofBoxScore codes g.boxScore = Validation.ofBoxScore codes b := by
  rw [storedGame_eq he] at h
  obtain ⟨b', hb, h⟩ := of_bind_ok h
  obtain ⟨at_, -, h⟩ := of_bind_ok h
  cases h
  obtain ⟨hid, hsame⟩ := decode_boxScore hb
  exact ⟨hid, rfl, hsame⟩

/-- An accepted game is read with what validation finds in it, and is valid. -/
theorem Checked.game {gameId : String} {g : StoredGame} (h : Checked codes st)
    (hg : st.game gameId = .ok (some g)) :
    g.boxScore.gameId = gameId ∧ g.validation = .ofBoxScore codes g.boxScore ∧
      g.validation.isValid = true := by
  obtain ⟨row, hrow, hcell, hread⟩ := exists_row_of_read hg
  obtain ⟨b, now, hv, rfl⟩ := h.games row hrow
  have hnone : (Validation.ofBoxScore codes b).errors = [] := List.isEmpty_iff.1 hv
  obtain ⟨hid, hvalidation, hsame⟩ := storedGame_checked (.inr ⟨rfl, hnone⟩) hread
  have hgame : b.gameId = gameId := Cell.text.inj hcell
  exact ⟨hid.trans hgame, hvalidation.trans hsame.symm, hvalidation ▸ hv⟩

/-- A game that was set aside is read with what validation finds in it, and is not valid. -/
theorem Checked.gameSetAside {gameId : String} {g : StoredGame} (h : Checked codes st)
    (hg : st.gameSetAside gameId = .ok (some g)) :
    g.boxScore.gameId = gameId ∧ g.validation = .ofBoxScore codes g.boxScore ∧
      g.validation.isValid = false := by
  obtain ⟨row, hrow, hcell, hread⟩ := exists_row_of_read hg
  obtain ⟨b, now, hv, rfl⟩ := h.quarantine row hrow
  obtain ⟨hid, hvalidation, hsame⟩ := storedGame_checked (.inl rfl) hread
  have hgame : b.gameId = gameId := Cell.text.inj hcell
  exact ⟨hid.trans hgame, hvalidation.trans hsame.symm, hvalidation ▸ hv⟩

/-! ### Games that are read back -/

theorem readGameRow_gameRow {b' : BoxScore} {now at_ : Instant}
    (hb : decode BoxScore.ofJson? b.toJson.compact = .ok b')
    (ht : decodeInstant now.offsetText = .ok at_) (v : Validation) :
    readGameRow (gameRow b v now) = .ok ⟨b', ⟨true, [], v.warnings⟩, at_⟩ := by
  have heq : readGameRow (gameRow b v now) =
      storedGame b.toJson.compact none (messagesText v.warnings) now.offsetText := rfl
  rw [heq, storedGame_eq (.inr ⟨rfl, rfl⟩), hb, ht]
  rfl

theorem readQuarantineRow_quarantineRow {b' : BoxScore} {now at_ : Instant}
    (hb : decode BoxScore.ofJson? b.toJson.compact = .ok b')
    (ht : decodeInstant now.offsetText = .ok at_) (v : Validation) :
    readQuarantineRow (quarantineRow b v now) =
      .ok ⟨b', ⟨v.errors.isEmpty, v.errors, v.warnings⟩, at_⟩ := by
  have heq : readQuarantineRow (quarantineRow b v now) = storedGame b.toJson.compact
      (some (messagesText v.errors)) (messagesText v.warnings) now.offsetText := rfl
  rw [heq, storedGame_eq (.inl rfl), hb, ht]
  rfl

theorem game_save {b' : BoxScore} {now at_ : Instant} {v : Validation}
    (hb : decode BoxScore.ofJson? b.toJson.compact = .ok b')
    (ht : decodeInstant now.offsetText = .ok at_) :
    (st.save b v now).game b.gameId = .ok (some ⟨b', ⟨true, [], v.warnings⟩, at_⟩) := by
  have hrow : rowsWith "game_id" b.gameId (st.save b v now).games = [gameRow b v now] := by
    rw [save_eq]
    exact rowsWith_putRow rfl
  rw [game, hrow, List.head?_cons, readRow?, readGameRow_gameRow hb ht]
  rfl

theorem gameSetAside_setAside {b' : BoxScore} {now at_ : Instant} {v : Validation}
    (hb : decode BoxScore.ofJson? b.toJson.compact = .ok b')
    (ht : decodeInstant now.offsetText = .ok at_) :
    (st.setAside b v now).gameSetAside b.gameId =
      .ok (some ⟨b', ⟨v.errors.isEmpty, v.errors, v.warnings⟩, at_⟩) := by
  have hrow : rowsWith "game_id" b.gameId (st.setAside b v now).quarantine =
      [quarantineRow b v now] := by
    rw [setAside_eq]
    exact rowsWith_putRow rfl
  rw [gameSetAside, hrow, List.head?_cons, readRow?, readQuarantineRow_quarantineRow hb ht]
  rfl

end

end Scorebook.Store
