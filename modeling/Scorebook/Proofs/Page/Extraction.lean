import Scorebook.Page.Extraction
import Scorebook.Proofs.Basic

/-!
# What a page gives

A box score that was extracted is assembled from the lines of its page and the identifier it was
asked for.  Only an identifier that cannot be read is refused as such.
-/

namespace Scorebook.Page

/-! ### Errors of a layout -/

/-- The result is not that the identifier is bad. -/
def NotBadId {α : Type} (x : Except ExtractionError α) : Prop := ∀ e, x ≠ .error (.badGameId e)

section
variable {α β : Type}

theorem notBadId_ok (a : α) : NotBadId (.ok a) := fun _ h => by cases h

theorem NotBadId.bind {x : Except ExtractionError α} {f : α → Except ExtractionError β}
    (hx : NotBadId x) (hf : ∀ a, NotBadId (f a)) : NotBadId (x >>= f) := by
  intro e h
  rcases of_bind_error h with hfailed | ⟨a, -, hrest⟩
  · exact hx e hfailed
  · exact hf a e hrest

theorem notBadId_forSides {f : Side → Except ExtractionError α} (hf : ∀ side, NotBadId (f side)) :
    NotBadId (forSides f) :=
  (hf .away).bind fun _ => (hf .home).bind fun _ => notBadId_ok _

end

theorem notBadId_requireRole {tables : List Table} {role : TableRole} {side : Side} :
    NotBadId (requireRole tables role side) := by
  intro e h
  unfold requireRole at h
  split at h <;> cases h

theorem notBadId_zippedHitters {side : Side} {names stats : Table} :
    NotBadId (zippedHitters side names stats) := by
  intro e h
  unfold zippedHitters at h
  split at h <;> cases h

theorem notBadId_sideTable {tables : List Table} {side : Side} {what : String} :
    NotBadId (sideTable tables side what) := by
  intro e h
  unfold sideTable at h
  cases side <;> simp only at h <;> split at h <;> cases h

theorem notBadId_readModern (tables : List Table) : NotBadId (readModern tables) := by
  refine NotBadId.bind (notBadId_forSides fun side => ?_) fun _ => notBadId_ok _
  refine NotBadId.bind notBadId_requireRole fun names => ?_
  split
  · exact notBadId_zippedHitters
  · exact notBadId_ok _

theorem notBadId_readLegacy (tables : List Table) : NotBadId (readLegacy tables) := by
  refine NotBadId.bind (notBadId_forSides fun side => ?_) fun _ => notBadId_ok _
  refine NotBadId.bind notBadId_requireRole fun names => ?_
  exact NotBadId.bind notBadId_requireRole fun stats => notBadId_zippedHitters

theorem notBadId_readTransitional (tables : List Table) : NotBadId (readTransitional tables) := by
  unfold readTransitional
  split
  · exact fun e h => by cases h
  · refine NotBadId.bind (notBadId_forSides fun side => ?_) fun _ => notBadId_ok _
    refine NotBadId.bind notBadId_sideTable fun h => ?_
    exact NotBadId.bind notBadId_sideTable fun p => notBadId_ok _

theorem notBadId_readLines (era : Era) (tables : List Table) : NotBadId (readLines era tables) := by
  cases era with
  | modern => exact notBadId_readModern tables
  | legacy => exact notBadId_readLegacy tables
  | transitional => exact notBadId_readTransitional tables

/-! ### Extraction -/

/-- What a box score is assembled from. -/
structure Assembled (h : Franchise.History) (p : Page) (gameId : String) (date : Option Date)
    (id : Option GameId) (era : Era) (lines : Lines) (b : BoxScore) : Prop where
  layout : (Signature.ofTables p.tables).era? = some era
  decoded : id = (GameId.decode gameId).toOption
  legacy : era = .legacy → id.isSome = true
  read : readLines era p.tables = .ok lines
  made : b = assemble h p gameId id (date.or (id.map (·.date))) era lines

section
variable {h : Franchise.History} {p : Page} {gameId : String} {date : Option Date}

theorem assembled_of_extract {b : BoxScore} (hb : extract h p gameId date = .ok b) :
    ∃ id era lines, Assembled h p gameId date id era lines b := by
  unfold extract at hb
  cases hera : (Signature.ofTables p.tables).era? with
  | none =>
    simp only [hera] at hb
    cases hb
  | some era =>
    simp only [hera] at hb
    split at hb
    · rename_i g hg
      obtain ⟨id, hid, hb⟩ := of_bind_ok hb
      obtain ⟨lines, hlines, hb⟩ := of_bind_ok hb
      obtain rfl := Except.ok.inj hid
      exact ⟨some g, _, lines, hera, by rw [hg]; rfl, fun _ => rfl, hlines,
        (Except.ok.inj hb).symm⟩
    · obtain ⟨id, hid, hb⟩ := of_bind_ok hb
      cases hid
    · rename_i e hne hg
      obtain ⟨id, hid, hb⟩ := of_bind_ok hb
      obtain ⟨lines, hlines, hb⟩ := of_bind_ok hb
      obtain rfl := Except.ok.inj hid
      exact ⟨none, _, lines, hera, by rw [hg]; rfl, fun hl => absurd hl hne, hlines,
        (Except.ok.inj hb).symm⟩

/-- An identifier that can be read is not refused. -/
theorem notBadId_extract {g : GameId} (hg : GameId.decode gameId = .ok g) :
    NotBadId (extract h p gameId date) := by
  unfold extract
  rw [hg]
  split
  · exact fun e he => by cases he
  · rename_i era _
    have hrest : NotBadId (readLines era p.tables >>= fun lines =>
        .ok (assemble h p gameId (some g) (date.or (some g.date)) era lines)) :=
      NotBadId.bind (notBadId_readLines era p.tables) fun _ => notBadId_ok _
    cases era <;> exact hrest

end

end Scorebook.Page
