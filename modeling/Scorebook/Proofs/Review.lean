import Scorebook.Proofs.Franchise.Bounded
import Scorebook.Proofs.Json.Decoding
import Scorebook.Review

/-!
# Review items as JSON

An item is decoded from what it is written as: the fields of its kind stand among its own and have
names of their own.
-/

namespace Scorebook.ReviewItem
open Json

/-- The season of an item is held in a signed word of 32 bits. -/
def Worded (r : ReviewItem) : Prop := ∀ season ∈ r.season, season ∈ Franchise.wordSeasons

theorem isPlain_player (id : PlayerId) (room : Nat) : isPlain room id.toJson = true :=
  decide_eq_true (fits_ofCount id.number)

theorem arePlainFields_kind (k : ReviewKind) : arePlainFields 126 k.fields = true := by
  cases k with
  | unresolvedTeam token => rfl
  | ambiguousPlayer ids =>
    have hids : arePlainItems 125 (ids.map PlayerId.toJson) = true :=
      arePlainItems_map (isPlain_player · 125) ids
    simp only [ReviewKind.fields, arePlainFields, isPlain, hids]
    rfl
  | unknownPlayer => rfl

/-- The fields of an item, those of its kind apart. -/
def ownFields (r : ReviewItem) : List (String × Json) :=
  [("game_id", .str r.gameId), ("side", .str r.side.name), ("subject", .str r.subject),
    ("team_code", .ofText? r.team), ("season", .ofOption .ofInt r.season),
    ("kind", .str r.kind.name)]

theorem toJson_eq (r : ReviewItem) : r.toJson = .obj (r.ownFields ++ r.kind.fields) := rfl

theorem isPlain_toJson {r : ReviewItem} (h : r.Worded) : isPlain maxDepth r.toJson = true := by
  have hteam : isPlain 126 (.ofText? r.team) = true := by cases r.team <;> rfl
  have hseason : isPlain 126 (.ofOption .ofInt r.season) = true := by
    cases hs : r.season with
    | none => rfl
    | some season =>
      obtain ⟨hlow, hhigh⟩ := h season hs
      simp only [Franchise.leastSeason, Franchise.greatestSeason] at hlow hhigh
      exact decide_eq_true ⟨by omega, by omega⟩
  have hown : arePlainFields 126 r.ownFields = true := by
    simp only [ownFields, arePlainFields, hteam, hseason]
    rfl
  have hfields : isPlain maxDepth r.toJson =
      arePlainFields 126 (r.ownFields ++ r.kind.fields) := rfl
  rw [hfields, arePlainFields_append, hown, arePlainFields_kind, Bool.and_self]

theorem ofFields?_fields (r : ReviewItem) :
    ReviewKind.ofFields? (r.ownFields ++ r.kind.fields) = some r.kind := by
  obtain ⟨gameId, side, subject, team, season, kind⟩ := r
  cases kind with
  | unresolvedTeam token => rfl
  | ambiguousPlayer ids =>
    have hids : list? PlayerId.ofJson? (.arr (ids.map PlayerId.toJson)) = some ids :=
      list?_map (fun id => congrArg (Option.map PlayerId.mk) (count?_ofNat id.number)) ids
    exact congrArg (Option.map ReviewKind.ambiguousPlayer) hids
  | unknownPlayer => rfl

/-- The fields of a kind hide none of an item's own. -/
theorem record?_toJson (r : ReviewItem) :
    record? ["game_id", "side", "subject", "team_code", "season"] r.toJson =
      some [.value (.str r.gameId), .value (.str r.side.name), .value (.str r.subject),
        .value (.ofText? r.team), .value (.ofOption .ofInt r.season)] := by
  obtain ⟨gameId, side, subject, team, season, kind⟩ := r
  cases kind <;> rfl

/-- An item of any kind is decoded as it was written. -/
theorem ofJson?_toJson {r : ReviewItem} (h : r.Worded) : ofJson? r.toJson = some r := by
  have hside : Side.ofJson? (.str r.side.name) = some r.side := by cases r.side <;> rfl
  have hseason : (Given.value (.ofOption .ofInt r.season)).optional season? = some r.season := by
    cases hs : r.season with
    | none => rfl
    | some season => exact congrArg (Option.map some) (if_pos (h season hs))
  have hgiven := record?_toJson r
  rw [toJson_eq] at hgiven ⊢
  simp only [ofJson?, hgiven, Given.required, hside, text?, optional_text?, hseason,
    ofFields?_fields]
  rfl

end Scorebook.ReviewItem
