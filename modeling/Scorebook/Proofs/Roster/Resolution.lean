import Scorebook.Proofs.BoxScore.Appearances
import Scorebook.Roster.Resolution

/-!
# What a search for players leaves

A roster that answers every question settles every row of a record in which a player is sought: the
row gets a player, or it stays and one review item says why.  All else stays, and a second search
finds nothing that the first one did not find.
-/

namespace Scorebook

theorem PlayerMatch.player?_eq_some_iff {m : PlayerMatch} {player : PlayerId} :
    m.player? = some player ↔ m = .unique player := by
  cases m <;> simp [player?]

namespace Resolver
open Text

/-- A player is sought for an appearance that has none, with a name that is not blank and a team. -/
structure Sought (a : Appearance) : Prop where
  unknown : a.player = none
  named : isBlankText a.name = false
  inTeam : ∃ team, a.team = some team

theorem isPending_iff {a : Appearance} : isPending a = true ↔ Sought a := by
  simp only [isPending, Bool.and_eq_true, Option.isNone_iff_eq_none, Bool.not_eq_true',
    Option.isSome_iff_exists]
  exact ⟨fun h => ⟨h.left.left, h.left.right, h.right⟩,
    fun h => ⟨⟨h.unknown, h.named⟩, h.inTeam⟩⟩

theorem not_sought_of_player {a : Appearance} {player : PlayerId} (h : a.player = some player) :
    ¬Sought a := by
  intro hsought
  cases hsought.unknown.symm.trans h

section
variable {ε : Type} (r : Resolver ε) (answer : RosterQuery → List Candidate) (lineup : Lineup)
  (gameId : String) (season : Int)

def onLineup (a : Appearance) : PlayerMatch := .ofCandidates (lineup.candidates a.name) a.uniform

def onRoster (a : Appearance) (team : String) : PlayerMatch :=
  .ofCandidates (answer (r.question a.name team season)) a.uniform

/-- The uniform number that the lineup has first for a player, among those of a name. -/
def uniformOnLineup (a : Appearance) (player : PlayerId) : Option String :=
  ((lineup.candidates a.name).find? fun c => c.player == player).bind Candidate.uniform

/-- What may become of the appearance of a row, with the review items about it.  A row in which a
player is sought is filled, by the lineup before the roster, or it is left with one item. -/
inductive Settled (side : Side) (a : Appearance) : Appearance → List ReviewItem → Prop
  | passed : ¬Sought a → Settled side a a []
  | byLineup {player : PlayerId} : Sought a → onLineup lineup a = .unique player →
      Settled side a { a with
        player := some player
        uniform := a.uniform.or (uniformOnLineup lineup a player) } []
  | byRoster {team : String} {player : PlayerId} : Sought a → a.team = some team →
      (∀ p, onLineup lineup a ≠ .unique p) → onRoster r answer season a team = .unique player →
      Settled side a { a with player := some player } []
  | ambiguous {team : String} {players : List PlayerId} : Sought a → a.team = some team →
      (∀ p, onLineup lineup a ≠ .unique p) → onRoster r answer season a team = .ambiguous players →
      Settled side a a
        [⟨gameId, side, trimmed a.name, some team, some season, .ambiguousPlayer players⟩]
  | unknown {team : String} : Sought a → a.team = some team →
      (∀ p, onLineup lineup a ≠ .unique p) → onRoster r answer season a team = .missing →
      Settled side a a [⟨gameId, side, trimmed a.name, some team, some season, .unknownPlayer⟩]

/-- Rows are settled one by one; their items follow each other as the rows do. -/
inductive SettledInOrder :
    List (Side × Appearance) → List (Side × Appearance) → List ReviewItem → Prop
  | nil : SettledInOrder [] [] []
  | cons {side : Side} {a a' : Appearance} {rows rows' : List (Side × Appearance)}
      {items rest : List ReviewItem} : Settled r answer lineup gameId season side a a' items →
      SettledInOrder rows rows' rest →
      SettledInOrder ((side, a) :: rows) ((side, a') :: rows') (items ++ rest)

def settle (x : Side × Appearance) : Appearance × List ReviewItem :=
  if isPending x.2 then
    match onLineup? lineup x.2 with
    | some (player, uniform) => (fill x.2 player uniform, [])
    | none =>
      decided gameId season x.1 x.2 (onRoster r answer season x.2 (x.2.team.getD ""))
  else (x.2, [])

variable {r answer lineup gameId season}

theorem onLineup?_eq_some_iff {a : Appearance} {player : PlayerId} {uniform : Option String} :
    onLineup? lineup a = some (player, uniform) ↔
      onLineup lineup a = .unique player ∧ uniform = uniformOnLineup lineup a player := by
  have hread : onLineup? lineup a =
      (onLineup lineup a).player?.map fun p => (p, uniformOnLineup lineup a p) := rfl
  rw [hread, Option.map_eq_some_iff]
  constructor
  · rintro ⟨p, hp, hpair⟩
    cases hpair
    exact ⟨PlayerMatch.player?_eq_some_iff.1 hp, rfl⟩
  · rintro ⟨hp, rfl⟩
    exact ⟨player, PlayerMatch.player?_eq_some_iff.2 hp, rfl⟩

theorem not_unique_of_onLineup? {a : Appearance} (h : onLineup? lineup a = none) (p : PlayerId) :
    onLineup lineup a ≠ .unique p := by
  intro hp
  cases h.symm.trans (onLineup?_eq_some_iff.2 ⟨hp, rfl⟩)

theorem settled_settle (side : Side) (a : Appearance) :
    Settled r answer lineup gameId season side a (settle r answer lineup gameId season (side, a)).1
      (settle r answer lineup gameId season (side, a)).2 := by
  unfold settle
  by_cases hp : isPending a = true
  · have hsought := isPending_iff.1 hp
    obtain ⟨team, hteam⟩ := hsought.inTeam
    simp only [hp, if_true]
    cases hl : onLineup? lineup a with
    | some found =>
      obtain ⟨player, uniform⟩ := found
      obtain ⟨hplayer, rfl⟩ := onLineup?_eq_some_iff.1 hl
      exact .byLineup hsought hplayer
    | none =>
      have hnone := not_unique_of_onLineup? hl
      simp only [hteam, Option.getD_some]
      cases hr : onRoster r answer season a team with
      | unique player =>
        have hfill : fill a player none = { a with player := some player } := by
          rw [fill, Option.or_none]
        simp only [decided, hfill]
        exact .byRoster hsought hteam hnone hr
      | ambiguous players =>
        simp only [decided, openItem, hteam]
        exact .ambiguous hsought hteam hnone hr
      | missing =>
        simp only [decided, openItem, hteam]
        exact .unknown hsought hteam hnone hr
  · simp only [hp]
    exact .passed (mt isPending_iff.2 hp)

theorem Settled.same_or_filled {side : Side} {a a' : Appearance} {items : List ReviewItem}
    (h : Settled r answer lineup gameId season side a a' items) :
    a' = a ∨ ¬Sought a' ∧ items = [] := by
  cases h with
  | passed | ambiguous | unknown => exact .inl rfl
  | byLineup => exact .inr ⟨not_sought_of_player rfl, rfl⟩
  | byRoster => exact .inr ⟨not_sought_of_player rfl, rfl⟩

theorem settle_settle (x : Side × Appearance) :
    settle r answer lineup gameId season (x.1, (settle r answer lineup gameId season x).1) =
      settle r answer lineup gameId season x := by
  obtain ⟨side, a⟩ := x
  have hsettled : Settled r answer lineup gameId season side a
      (settle r answer lineup gameId season (side, a)).1
      (settle r answer lineup gameId season (side, a)).2 := settled_settle side a
  -- A second look sees either the row as it was or one in which no player is sought any more.
  obtain hsame | ⟨hpassed, hitems⟩ := hsettled.same_or_filled
  · rw [hsame]
  · generalize settle r answer lineup gameId season (side, a) = y at hpassed hitems
    rw [settle, if_neg (mt isPending_iff.1 hpassed), ← hitems]

theorem settledInOrder_map (rows : List (Side × Appearance)) :
    SettledInOrder r answer lineup gameId season rows
      (rows.map fun x => (x.1, (settle r answer lineup gameId season x).1))
      (rows.flatMap fun x => (settle r answer lineup gameId season x).2) := by
  induction rows with
  | nil => exact .nil
  | cons x rows ih => exact .cons (settled_settle x.1 x.2) ih

/-- A pass whose work never fails is one step for every row. -/
theorem resolveRows_of_ok {work : Side → Appearance → Except ε (Appearance × List ReviewItem)}
    {done : Side × Appearance → Appearance × List ReviewItem}
    (hwork : ∀ side a, isPending a = true → work side a = .ok (done (side, a)))
    (hpassed : ∀ side a, isPending a = false → done (side, a) = (a, []))
    (rows : List (Side × Appearance)) :
    resolveRows work rows =
      ⟨rows.map fun x => (done x).1, rows.flatMap fun x => (done x).2, none⟩ := by
  induction rows with
  | nil => rfl
  | cons x rows ih =>
    obtain ⟨side, a⟩ := x
    by_cases hp : isPending a = true
    · simp only [resolveRows, hp, if_true, hwork side a hp, ih, List.map_cons, List.flatMap_cons]
    · have hdone := hpassed side a (Bool.eq_false_iff.2 hp)
      simp only [resolveRows, hp, ih, List.map_cons, List.flatMap_cons, hdone, List.nil_append,
        Bool.false_eq_true, if_false]

variable (hanswers : ∀ q, r.roster q = .ok (answer q))
include hanswers

theorem resolveRow_eq_settle {side : Side} {a : Appearance} (hp : isPending a = true) :
    r.resolveRow lineup gameId season side a =
      .ok (settle r answer lineup gameId season (side, a)) := by
  unfold resolveRow settle
  simp only [hp, if_true]
  cases onLineup? lineup a with
  | some found => rfl
  | none => simp only [findPlayer, hanswers, Except.map, onRoster]

theorem resolveBoxScore_eq {b : BoxScore} (hseason : b.season? = some season) :
    r.resolveBoxScore lineup b =
      ⟨b.mapAppearances fun x => (settle r answer lineup b.gameId season x).1,
        b.appearances.flatMap fun x => (settle r answer lineup b.gameId season x).2, none⟩ := by
  let done := settle r answer lineup b.gameId season
  have hrows : resolveRows (r.resolveRow lineup b.gameId season) b.appearances =
      ⟨b.appearances.map fun x => (done x).1, b.appearances.flatMap fun x => (done x).2, none⟩ := by
    refine resolveRows_of_ok (fun side a hp => resolveRow_eq_settle hanswers hp) ?_ b.appearances
    intro side a hp
    simp only [settle, hp, Bool.false_eq_true, if_false]
  simp only [resolveBoxScore, hseason, hrows, BoxScore.withAppearances_map, done]

/-- The search ends without a failure.  With a season it settles the rows in the order away hitters,
away pitchers, home hitters, home pitchers, keeps all but their appearances, and repeats itself on
what it leaves; without a season it does nothing. -/
theorem resolveBoxScore_settles (lineup : Lineup) (b : BoxScore) :
    ∃ b' items, r.resolveBoxScore lineup b = ⟨b', items, none⟩ ∧
      (b.season? = none → b' = b ∧ items = []) ∧
      ∀ season, b.season? = some season →
        SettledInOrder r answer lineup b.gameId season b.appearances b'.appearances items ∧
        BoxScore.SameButAppearances b b' ∧
        r.resolveBoxScore lineup b' = ⟨b', items, none⟩ := by
  cases hseason : b.season? with
  | none =>
    refine ⟨b, [], ?_, fun _ => ⟨rfl, rfl⟩, fun _ h => by cases h⟩
    rw [resolveBoxScore, hseason]
  | some season =>
    let done := settle r answer lineup b.gameId season
    refine ⟨_, _, resolveBoxScore_eq hanswers hseason, (by intro h; cases h), ?_⟩
    rintro _ ⟨⟩
    refine ⟨?_, BoxScore.sameButAppearances_map .., ?_⟩
    · rw [BoxScore.appearances_mapAppearances]
      exact settledInOrder_map b.appearances
    · have hagain : (b.mapAppearances fun x => (done x).1).season? = some season :=
        (BoxScore.season?_mapAppearances ..).trans hseason
      rw [resolveBoxScore_eq hanswers hagain, BoxScore.mapAppearances_mapAppearances,
        BoxScore.appearances_mapAppearances, List.flatMap_map]
      have hsame : ∀ x : Side × Appearance, done (x.1, (done x).1) = done x := settle_settle
      show Pass.mk (b.mapAppearances fun x => (done (x.1, (done x).1)).1)
        (b.appearances.flatMap fun x => (done (x.1, (done x).1)).2) none = _
      simp only [hsame, done]

end

def printed (name : String) (side : Side) (sequence : Count) : Appearance :=
  ⟨none, name, some (match side with | .away => "SS" | .home => "OB"), side, none, sequence⟩

def hitting (a : Appearance) : HitterRow := ⟨a, none, none, false, .blank, .empty⟩

def pitching (a : Appearance) : PitcherRow := ⟨a, false, .blank, .empty⟩

/-- A record with rows of every kind: known, nameless, on the lineup, on the roster, of two players
and of none. -/
def mixedRows : BoxScore :=
  { BoxScore.blank "20150401SSOB0" none .legacy with
    hitters := ⟨[hitting { printed "Choi" .away 1 with player := some ⟨900⟩ },
      hitting (printed " Kim " .away 2)], [hitting (printed "Jung" .home 1)]⟩
    pitchers := ⟨[pitching (printed "Lee" .away 1), pitching (printed " " .away 2)],
      [pitching (printed "Min" .home 1)]⟩ }

def mixedLineup : Lineup := Lineup.empty.insert "Jung" ⟨⟨500⟩, some "7"⟩

def mixedAnswer (q : RosterQuery) : List Candidate :=
  if q = ⟨"Kim", "SS", 2015⟩ then [⟨⟨301⟩, none⟩, ⟨⟨300⟩, none⟩]
  else if q = ⟨"Lee", "SS", 2015⟩ then [⟨⟨200⟩, some "36"⟩]
  else []

def mixedResolver : Resolver Unit := ⟨fun q => .ok (mixedAnswer q), []⟩

theorem resolveBoxScore_settles_mixedRows :
    (∀ q, mixedResolver.roster q = .ok (mixedAnswer q)) ∧ mixedRows.season? = some 2015 ∧
    ∃ b' items, mixedResolver.resolveBoxScore mixedLineup mixedRows = ⟨b', items, none⟩ ∧
      SettledInOrder mixedResolver mixedAnswer mixedLineup "20150401SSOB0" 2015
        mixedRows.appearances b'.appearances items ∧
      BoxScore.SameButAppearances mixedRows b' ∧
      mixedResolver.resolveBoxScore mixedLineup b' = ⟨b', items, none⟩ ∧
      b'.appearances.map (fun x => (x.2.player, x.2.uniform)) =
        [(some ⟨900⟩, none), (none, none), (some ⟨200⟩, none), (none, none),
          (some ⟨500⟩, some "7"), (none, none)] ∧
      items =
        [⟨"20150401SSOB0", .away, "Kim", some "SS", some 2015, .ambiguousPlayer [⟨300⟩, ⟨301⟩]⟩,
          ⟨"20150401SSOB0", .home, "Min", some "OB", some 2015, .unknownPlayer⟩] := by
  have hanswers : ∀ q, mixedResolver.roster q = .ok (mixedAnswer q) := fun _ => rfl
  have hseason : mixedRows.season? = some 2015 := by decide +kernel
  obtain ⟨b', items, hend, -, hsettled⟩ := resolveBoxScore_settles hanswers mixedLineup mixedRows
  obtain ⟨horder, hsame, hagain⟩ := hsettled 2015 hseason
  refine ⟨hanswers, hseason, b', items, hend, horder, hsame, hagain, ?_, ?_⟩
  · rw [show b' = (mixedResolver.resolveBoxScore mixedLineup mixedRows).rows by rw [hend]]
    decide +kernel
  · rw [show items = (mixedResolver.resolveBoxScore mixedLineup mixedRows).items by rw [hend]]
    decide +kernel

end Resolver

end Scorebook
