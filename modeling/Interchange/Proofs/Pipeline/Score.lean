import Interchange.Pipeline.Route
import Mathlib.Algebra.Order.BigOperators.Group.List
import Mathlib.Algebra.Ring.Int.Defs
import Mathlib.Algebra.Ring.Nat
/-!
# What a score is

The score of a route is meant to be an integer: its priority and what the criteria are worth that
the request meets.  It is kept in a 32-bit word, and a route may have any priority that such a word
holds.  So near the upper end of the range the sum does not fit in the word, and the program panics
in the middle of its choice.  The criteria are taken one after the other, and the first that differs
ends the sum; what would have been added behind it does no harm.

* `Criterion.Matches`, `Criterion.Differs` — what a criterion says of a request, in its own words.
* `RoutingRule.total` — the score that is meant.
* `RoutingRule.reached` — the sum that is come to before a criterion differs.
* `RoutingRule.tryScore_eq` — the program panics exactly if that sum is beyond the range, and else
  it does not matter that sums are checked.
* `RoutingRule.tryScore_exact_iff` — the score is the one that is meant, or the program panics, and
  one more criterion that is met raises it, or the program panics.
-/

namespace Interchange

/-! ### Criteria -/

/-- What routes and requests are compared by. -/
inductive Criterion
  | productLine | sourceSystem | transactionType
deriving DecidableEq

namespace Criterion

/-- The criteria, in the order in which their worths are added up. -/
def all : List Criterion := [productLine, sourceSystem, transactionType]

theorem mem_all (c : Criterion) : c ∈ all := by
  cases c <;> decide

/-- What a route asks for. -/
def ofRoute (r : RoutingRule) : Criterion → Option String
  | productLine => r.productLine
  | sourceSystem => r.sourceSystem
  | transactionType => r.transactionType

/-- What a request says. -/
def ofRequest (q : RouteRequest) : Criterion → Option String
  | productLine => q.productLine
  | sourceSystem => q.sourceSystem
  | transactionType => q.transactionType

/-- What a criterion that is met is worth. -/
def worth : Criterion → Int
  | productLine => 10
  | sourceSystem => 5
  | transactionType => 3

/-- Something is given and not blank, and this is it without the blanks around. -/
def Says (given : Option String) (t : String) : Prop :=
  ∃ s, given = some s ∧ Text.trim s = t ∧ t ≠ ""

/-- **The route asks for something that the request says**, but for the case of ASCII letters. -/
def Matches (c : Criterion) (r : RoutingRule) (q : RouteRequest) : Prop :=
  ∃ expected actual, Says (c.ofRoute r) expected ∧ Says (c.ofRequest q) actual ∧
    Text.asciiLower actual = Text.asciiLower expected

/-- **The route asks for one thing and the request says another.** -/
def Differs (c : Criterion) (r : RoutingRule) (q : RouteRequest) : Prop :=
  ∃ expected actual, Says (c.ofRoute r) expected ∧ Says (c.ofRequest q) actual ∧
    Text.asciiLower actual ≠ Text.asciiLower expected

/-- What a text says is what the program takes it for. -/
theorem says_iff {given : Option String} {t : String} :
    Says given t ↔ meaningful? given = some t := by
  cases given with
  | none => simp [Says, meaningful?]
  | some s =>
      simp only [Says, meaningful?, Option.map_some, Option.filter_eq_some_iff, Option.some.injEq,
        Bool.not_eq_true', String.isEmpty_eq_false_iff, exists_eq_left']

/-- The program finds a criterion met exactly if both say the same, but for the case of ASCII
letters, -/
theorem agreement_eq_meets_iff {expected actual : Option String} :
    Agreement.of expected actual = .meets ↔
      ∃ e a, Says expected e ∧ Says actual a ∧ Text.asciiLower a = Text.asciiLower e := by
  simp only [says_iff, Agreement.of]
  split
  · next e a first second => simp [first, second, Text.sameIgnoringCase]
  · next missing =>
      simp only [reduceCtorEq, false_iff]
      rintro ⟨e, a, first, second, -⟩
      exact missing e a first second

/-- and contradicted exactly if both say something, and not the same. -/
theorem agreement_eq_contradicts_iff {expected actual : Option String} :
    Agreement.of expected actual = .contradicts ↔
      ∃ e a, Says expected e ∧ Says actual a ∧ Text.asciiLower a ≠ Text.asciiLower e := by
  simp only [says_iff, Agreement.of]
  split
  · next e a first second => simp [first, second, Text.sameIgnoringCase]
  · next missing =>
      simp only [reduceCtorEq, false_iff]
      rintro ⟨e, a, first, second, -⟩
      exact missing e a first second

variable {c : Criterion} {r : RoutingRule} {q : RouteRequest}

theorem matches_iff : c.Matches r q ↔ Agreement.of (c.ofRoute r) (c.ofRequest q) = .meets :=
  agreement_eq_meets_iff.symm

theorem differs_iff : c.Differs r q ↔ Agreement.of (c.ofRoute r) (c.ofRequest q) = .contradicts :=
  agreement_eq_contradicts_iff.symm

instance : Decidable (c.Matches r q) := decidable_of_iff' _ matches_iff

instance : Decidable (c.Differs r q) := decidable_of_iff' _ differs_iff

/-- No criterion both matches and differs. -/
theorem not_differs_of_matches (met : c.Matches r q) : ¬ c.Differs r q := by
  rw [matches_iff] at met
  rw [differs_iff, met]
  exact nofun

end Criterion

namespace RoutingRule

variable {r : RoutingRule} {q : RouteRequest} {n : Int32}

open Criterion

/-- What criteria are worth, as far as they match. -/
def worthOf (criteria : List Criterion) (r : RoutingRule) (q : RouteRequest) : Int :=
  (criteria.map fun c => if c.Matches r q then c.worth else 0).sum

/-- **The score that is meant**: the priority and the worths of all criteria that match. -/
def total (r : RoutingRule) (q : RouteRequest) : Int :=
  r.priority.toInt + worthOf Criterion.all r q

/-- **The sum that is come to**: the priority and the worths of the criteria that match, up to the
first that differs. -/
def reached (r : RoutingRule) (q : RouteRequest) : Int :=
  r.priority.toInt + worthOf (Criterion.all.takeWhile fun c => ¬ c.Differs r q) r q

/-- All criteria are come to if none differs. -/
theorem reached_eq_total (agrees : ∀ c : Criterion, ¬ c.Differs r q) : r.reached q = r.total q := by
  have all : (Criterion.all.takeWhile fun c => ¬ c.Differs r q) = Criterion.all := by
    simp [Criterion.all, agrees]
  rw [reached, all, total]

/-! ### Adding up in a word -/

/-- What the criteria that are met are worth, as an integer. -/
def met (criteria : List (Agreement × Int32)) : Int :=
  (criteria.map fun p => if p.1 = .meets then p.2.toInt else 0).sum

/-- There is no sum exactly if a criterion is contradicted, wherever it stands. -/
theorem addUp_eq_none_iff {start : Int32} {criteria : List (Agreement × Int32)} :
    addUp start criteria = none ↔ ∃ p ∈ criteria, p.1 = .contradicts := by
  induction criteria generalizing start with
  | nil => simp [addUp]
  | cons p criteria ih =>
      obtain ⟨agreement, worth⟩ := p
      cases agreement <;> simp [addUp, ih]

/-- The word that comes out is the integer sum up to a multiple of `2^32`. -/
theorem toInt_of_addUp {start : Int32} {criteria : List (Agreement × Int32)}
    (added : addUp start criteria = some n) :
    n.toInt = (start.toInt + met criteria).bmod (2 ^ 32) := by
  induction criteria generalizing start with
  | nil =>
      rw [addUp, Option.some.injEq] at added
      rw [← added, met, List.map_nil, List.sum_nil, Int.add_zero]
      exact (Int32.toInt_bmod start).symm
  | cons p criteria ih =>
      obtain ⟨agreement, worth⟩ := p
      cases agreement with
      | meets =>
          rw [ih added, Int32.toInt_add, Int.bmod_add_bmod]
          simp [met, Int.add_assoc]
      | contradicts => cases added
      | «open» =>
          rw [ih added]
          simp [met]

/-- What the criteria before the first that is contradicted are worth. -/
def metFirst (criteria : List (Agreement × Int32)) : Int :=
  met (criteria.takeWhile fun p => p.1 ≠ .contradicts)

/-- Criteria only add to a sum. -/
theorem metFirst_nonneg {criteria : List (Agreement × Int32)}
    (positive : ∀ p ∈ criteria, 0 ≤ p.2.toInt) : 0 ≤ metFirst criteria := by
  refine List.sum_nonneg fun worth member => ?_
  obtain ⟨p, inside, rfl⟩ := List.mem_map.mp member
  split
  · exact positive p (List.takeWhile_subset _ inside)
  · exact Int.le_refl 0

/-- A sum that is checked is the integer one, or it is beyond the range. -/
theorem add_eq {a b : Int32} (positive : 0 ≤ b.toInt) :
    Panic.add a b =
      if 2 ^ 31 ≤ a.toInt + b.toInt then .error .overflow else .ok (a + b) := by
  have low := a.le_toInt
  have high := (a + b).toInt_lt
  have sum := Int32.toInt_add a b
  rw [Int.bmod_def] at sum
  rw [Panic.add]
  split <;> split <;> first | rfl | skip
  all_goals split at sum <;> omega

/-- **Criteria that are added up with each sum checked**: the sum leaves the word before one of them
is contradicted, or it does not matter that it is checked. -/
theorem tryAddUp_eq {criteria : List (Agreement × Int32)} :
    ∀ {start : Int32}, (∀ p ∈ criteria, 0 ≤ p.2.toInt) →
      tryAddUp start criteria =
        if 2 ^ 31 ≤ start.toInt + metFirst criteria then .error .overflow
        else .ok (addUp start criteria) := by
  induction criteria with
  | nil =>
      intro start _
      exact (if_neg (by simpa [metFirst, met] using start.toInt_lt)).symm
  | cons p criteria ih =>
      intro start positive
      obtain ⟨agreement, worth⟩ := p
      have own : 0 ≤ worth.toInt := positive _ List.mem_cons_self
      have others : ∀ p ∈ criteria, 0 ≤ p.2.toInt := fun p inside =>
        positive p (List.mem_cons_of_mem _ inside)
      cases agreement with
      | contradicts => exact (if_neg (by simpa [metFirst, met] using start.toInt_lt)).symm
      | «open» =>
          have same : metFirst ((.open, worth) :: criteria) = metFirst criteria := by
            simp [metFirst, met]
          rw [tryAddUp, addUp, ih others, same]
      | meets =>
          have later := metFirst_nonneg others
          have more : metFirst ((.meets, worth) :: criteria) = worth.toInt + metFirst criteria := by
            simp [metFirst, met]
          rw [tryAddUp, addUp, add_eq own, more]
          by_cases beyond : 2 ^ 31 ≤ start.toInt + worth.toInt
          · -- What is added later does not bring the sum back.
            rw [if_pos beyond, if_pos (by omega)]
            rfl
          · have exact : (start + worth).toInt = start.toInt + worth.toInt := by
              have sum := add_eq (a := start) own
              rw [if_neg beyond, Panic.add] at sum
              split at sum
              · assumption
              · cases sum
            rw [if_neg beyond, ← Int.add_assoc, ← exact]
            exact ih others

/-- The criteria of a route beside a request, as they are handed to the sum. -/
theorem criteria_eq (r : RoutingRule) (q : RouteRequest) :
    r.criteria q =
      Criterion.all.map fun c => (.of (c.ofRoute r) (c.ofRequest q), Int32.ofInt c.worth) := rfl

/-- The worths are small, so that they are the same as words. -/
theorem toInt_worth (c : Criterion) : (Int32.ofInt c.worth).toInt = c.worth := by
  cases c <;> rfl

/-- What criteria beside what a request says are worth, as far as they are met. -/
theorem met_map (r : RoutingRule) (q : RouteRequest) (criteria : List Criterion) :
    met (criteria.map fun c => (.of (c.ofRoute r) (c.ofRequest q), Int32.ofInt c.worth)) =
      worthOf criteria r q := by
  rw [met, worthOf, List.map_map]
  congr 2
  funext c
  simp only [Function.comp_apply, matches_iff, toInt_worth]

/-- What is added before the sum is given up comes from the criteria before the first that
differs. -/
theorem metFirst_criteria (r : RoutingRule) (q : RouteRequest) :
    metFirst (r.criteria q) =
      worthOf (Criterion.all.takeWhile fun c => ¬ c.Differs r q) r q := by
  rw [metFirst, criteria_eq, List.takeWhile_map, met_map]
  simp only [differs_iff, Function.comp_def]

/-! ### Scores -/

/-- A route has no score exactly if one of its criteria differs. -/
theorem score_eq_none_iff : r.score q = none ↔ ∃ c : Criterion, c.Differs r q := by
  rw [score, addUp_eq_none_iff, criteria_eq]
  simp only [differs_iff]
  constructor
  · rintro ⟨p, member, contradicted⟩
    obtain ⟨c, -, rfl⟩ := List.mem_map.mp member
    exact ⟨c, contradicted⟩
  · rintro ⟨c, contradicted⟩
    exact ⟨_, List.mem_map_of_mem (Criterion.mem_all c), contradicted⟩

/-- All criteria together are worth little beside the range of a word. -/
theorem total_bounds (r : RoutingRule) (q : RouteRequest) :
    r.priority.toInt ≤ r.total q ∧ r.total q ≤ r.priority.toInt + 18 := by
  have each (c : Criterion) (most : Int) (worth : c.worth = most) (positive : 0 ≤ most) :
      0 ≤ (if c.Matches r q then c.worth else 0) ∧
        (if c.Matches r q then c.worth else 0) ≤ most := by
    split <;> omega
  have product := each .productLine 10 rfl (by decide)
  have source := each .sourceSystem 5 rfl (by decide)
  have transaction := each .transactionType 3 rfl (by decide)
  simp only [total, worthOf, Criterion.all, List.map_cons, List.map_nil, List.sum_cons,
    List.sum_nil]
  omega

/-- A score whose sums are not checked is the one that is meant, or less by `2^32` if a word does
not hold that. -/
theorem toInt_of_score (scored : r.score q = some n) :
    n.toInt = if r.total q < 2 ^ 31 then r.total q else r.total q - 2 ^ 32 := by
  have word : n.toInt = (r.total q).bmod (2 ^ 32) := by
    rw [toInt_of_addUp scored, criteria_eq, met_map, total]
  have bounds := total_bounds r q
  have low := r.priority.le_toInt
  have high := r.priority.toInt_lt
  rw [word, Int.bmod_def]
  split <;> split <;> omega

/-- No more is come to than all criteria are worth. -/
theorem reached_le (r : RoutingRule) (q : RouteRequest) :
    r.reached q ≤ r.priority.toInt + 18 := by
  have first : worthOf (Criterion.all.takeWhile fun c => ¬ c.Differs r q) r q ≤
      worthOf Criterion.all r q := by
    refine ((List.takeWhile_sublist _).map _).sum_le_sum fun worth member => ?_
    obtain ⟨c, -, rfl⟩ := List.mem_map.mp member
    cases c <;> split <;> decide
  have bounds := total_bounds r q
  rw [total] at bounds
  rw [reached]
  omega

/-- **The score that is computed**: none, as the program panics, exactly if the sum that is come to
is beyond the range, and else the one that comes out without a look at the sums. -/
theorem tryScore_eq (r : RoutingRule) (q : RouteRequest) :
    r.tryScore q = if 2 ^ 31 ≤ r.reached q then .error .overflow else .ok (r.score q) := by
  have positive : ∀ p ∈ r.criteria q, 0 ≤ p.2.toInt := by
    intro p member
    rw [criteria_eq] at member
    obtain ⟨c, -, rfl⟩ := List.mem_map.mp member
    rw [toInt_worth]
    cases c <;> decide
  rw [tryScore, tryAddUp_eq positive, metFirst_criteria, reached, score]

/-- The program panics exactly if the sum that is come to is beyond the range, -/
theorem tryScore_eq_error_iff : r.tryScore q = .error .overflow ↔ 2 ^ 31 ≤ r.reached q := by
  rw [tryScore_eq]
  split
  · next beyond => exact iff_of_true rfl beyond
  · next fits => exact iff_of_false nofun fits

/-- and finds no score exactly if it is not, and a criterion differs. -/
theorem tryScore_eq_none_iff :
    r.tryScore q = .ok none ↔ r.reached q < 2 ^ 31 ∧ ∃ c : Criterion, c.Differs r q := by
  rw [tryScore_eq, ← score_eq_none_iff, ← Int.not_le]
  split
  · next beyond => exact iff_of_false nofun fun ⟨fits, _⟩ => fits beyond
  · next fits => rw [Except.ok.injEq, and_iff_right fits]

/-- A score that is given is the one that is meant, and that is given if no criterion differs and a
word holds it. -/
theorem tryScore_eq_some_iff :
    r.tryScore q = .ok (some n) ↔ (∀ c : Criterion, ¬ c.Differs r q) ∧ n.toInt = r.total q := by
  rw [tryScore_eq]
  constructor
  · intro given
    split at given
    · cases given
    · next fits =>
        have scored : r.score q = some n := Except.ok.inj given
        have agrees : ∀ c : Criterion, ¬ c.Differs r q := by
          intro c differs
          rw [score_eq_none_iff.mpr ⟨c, differs⟩] at scored
          cases scored
        rw [reached_eq_total agrees] at fits
        exact ⟨agrees, by rw [toInt_of_score scored, if_pos (Int.not_le.mp fits)]⟩
  · rintro ⟨agrees, exact⟩
    have word := n.toInt_lt
    have fits : ¬ 2 ^ 31 ≤ r.reached q := by
      rw [reached_eq_total agrees]
      omega
    have scores : r.score q ≠ none := fun unscored =>
      let ⟨c, differs⟩ := score_eq_none_iff.mp unscored
      agrees c differs
    obtain ⟨m, scored⟩ := Option.ne_none_iff_exists'.mp scores
    have same : m = n := by
      rw [← Int32.toInt_inj, toInt_of_score scored, exact]
      exact if_pos (by omega)
    rw [if_neg fits, scored, same]

/-! ### One more criterion -/

/-- The route that asks for something by one of its criteria, and for the rest as before. -/
def asking (r : RoutingRule) (s : String) : Criterion → RoutingRule
  | .productLine => { r with productLine := some s }
  | .sourceSystem => { r with sourceSystem := some s }
  | .transactionType => { r with transactionType := some s }

variable {c d : Criterion} {s : String}

/-- The other criteria of the route are as before, -/
theorem ofRoute_asking_of_ne (other : d ≠ c) : d.ofRoute (r.asking s c) = d.ofRoute r := by
  cases c <;> cases d <;> first | rfl | exact absurd rfl other

/-- so they match -/
theorem matches_asking_of_ne (other : d ≠ c) : d.Matches (r.asking s c) q ↔ d.Matches r q := by
  rw [Criterion.Matches, Criterion.Matches, ofRoute_asking_of_ne other]

/-- and differ as before. -/
theorem differs_asking_of_ne (other : d ≠ c) : d.Differs (r.asking s c) q ↔ d.Differs r q := by
  rw [Criterion.Differs, Criterion.Differs, ofRoute_asking_of_ne other]

/-- The score that is meant grows by the worth of the criterion. -/
theorem total_asking (unmet : ¬ c.Matches r q) (met : c.Matches (r.asking s c) q) :
    (r.asking s c).total q = r.total q + c.worth := by
  have priority : (r.asking s c).priority = r.priority := by
    cases c <;> rfl
  have others : ∀ d ≠ c, (d.Matches (r.asking s c) q ↔ d.Matches r q) :=
    fun _ => matches_asking_of_ne
  rw [total, total, worthOf, worthOf, priority]
  cases c
  all_goals
    simp only [Criterion.all, List.map_cons, List.map_nil, List.sum_cons, List.sum_nil, met, unmet,
      others, ne_eq, reduceCtorEq, not_false_eq_true, if_true, if_false]
    omega

/-- A criterion that is met does not differ, and the others are as before. -/
theorem not_differs_asking (agrees : ∀ d : Criterion, ¬ d.Differs r q)
    (met : c.Matches (r.asking s c) q) (d : Criterion) : ¬ d.Differs (r.asking s c) q := by
  by_cases same : d = c
  · subst same
    exact Criterion.not_differs_of_matches met
  · rw [differs_asking_of_ne same]
    exact agrees d

/-- It raises the score, or leads out of the word. -/
theorem tryScore_asking (scored : r.tryScore q = .ok (some n)) (unmet : ¬ c.Matches r q)
    (met : c.Matches (r.asking s c) q) :
    (∃ m, (r.asking s c).tryScore q = .ok (some m) ∧ n < m) ∨
      (r.asking s c).tryScore q = .error .overflow ∧ 2 ^ 31 ≤ (r.asking s c).total q := by
  obtain ⟨agrees, exact⟩ := tryScore_eq_some_iff.mp scored
  have agrees' := not_differs_asking agrees met
  have more := total_asking unmet met
  have worth : 0 < c.worth := by
    cases c <;> decide
  by_cases beyond : 2 ^ 31 ≤ (r.asking s c).total q
  · have out : 2 ^ 31 ≤ (r.asking s c).reached q := by rwa [reached_eq_total agrees']
    exact .inr ⟨tryScore_eq_error_iff.mpr out, beyond⟩
  · have low := n.le_toInt
    have word : (Int32.ofInt ((r.asking s c).total q)).toInt = (r.asking s c).total q :=
      Int32.toInt_ofInt_of_le (by omega) (by omega)
    refine .inl ⟨_, tryScore_eq_some_iff.mpr ⟨agrees', word⟩, ?_⟩
    rw [Int32.lt_iff_toInt_lt, word]
    omega

/-- **A score is exact, or the program panics.**  It panics exactly if the sum that is come to
before a criterion differs is `2^31` or more.  Otherwise there is no score exactly if some criterion
differs, and else it is the priority with the worths of the criteria that match.  And a route that
asks for one thing more, which the request says, scores more, unless the sum passes the range by it
and the program panics. -/
theorem tryScore_exact_iff (r : RoutingRule) (q : RouteRequest) :
    (r.tryScore q = .error .overflow ↔ 2 ^ 31 ≤ r.reached q) ∧
    (r.tryScore q = .ok none ↔ r.reached q < 2 ^ 31 ∧ ∃ c : Criterion, c.Differs r q) ∧
    ∀ n, (r.tryScore q = .ok (some n) ↔
        (∀ c : Criterion, ¬ c.Differs r q) ∧ n.toInt = r.total q) ∧
      (r.tryScore q = .ok (some n) →
        ∀ (c : Criterion) (s : String), (∀ t, ¬ Criterion.Says (c.ofRoute r) t) →
          c.Matches (r.asking s c) q →
            (∃ m, (r.asking s c).tryScore q = .ok (some m) ∧ n < m) ∨
              (r.asking s c).tryScore q = .error .overflow ∧
                2 ^ 31 ≤ (r.asking s c).total q) := by
  refine ⟨tryScore_eq_error_iff, tryScore_eq_none_iff, fun n => ⟨tryScore_eq_some_iff, ?_⟩⟩
  intro scored c s silent met
  have unmet : ¬ c.Matches r q := fun ⟨expected, _, asked, _⟩ => silent expected asked
  exact tryScore_asking scored unmet met

/-- A route with a priority near the greatest of all. -/
def urgent : RoutingRule := ⟨none, none, none, 2147483642, true⟩

/-- The route with the greatest priority of all. -/
def foremost : RoutingRule := ⟨none, none, none, 2147483647, true⟩

/-- A request for general liability that comes in through the portal. -/
def generalLiability : RouteRequest := ⟨some "GL", some "portal", none⟩

/-- An urgent route may ask for the source system of the request, and scores more then.  If it asks
for the product line, no word holds its score. -/
theorem urgent_asks :
    urgent.tryScore generalLiability = .ok (some 2147483642) ∧
      (∃ m, (urgent.asking "portal" .sourceSystem).tryScore generalLiability = .ok (some m) ∧
        2147483642 < m) ∧
      (urgent.asking "GL" .productLine).tryScore generalLiability = .error .overflow := by
  have scored : urgent.tryScore generalLiability = .ok (some 2147483642) := by
    rw [tryScore_eq, if_neg (by decide)]
    exact congrArg Except.ok (by decide)
  have spoken (s : String) (plain : Text.trim s = s ∧ s ≠ "") : Criterion.Says (some s) s :=
    ⟨s, rfl, plain⟩
  have asks := ((tryScore_exact_iff urgent generalLiability).2.2 2147483642).2 scored
  have system := asks .sourceSystem "portal" (fun t ⟨_, given, _⟩ => nomatch given)
    ⟨"portal", "portal", spoken "portal" (by decide), spoken "portal" (by decide), rfl⟩
  have line := asks .productLine "GL" (fun t ⟨_, given, _⟩ => nomatch given)
    ⟨"GL", "GL", spoken "GL" (by decide), spoken "GL" (by decide), rfl⟩
  refine ⟨scored, system.resolve_right fun ⟨_, beyond⟩ => absurd beyond (by decide), ?_⟩
  -- A score would be the sum that is meant, and that is no word.
  refine (line.resolve_left fun ⟨m, rescored, _⟩ => ?_).1
  have word := m.toInt_lt
  rw [(tryScore_eq_some_iff.mp rescored).2] at word
  exact absurd word (by decide)

/-- If the route with the greatest priority asks for the product line, the score that is meant is
beyond the word, and the program panics. -/
theorem foremost_overflows :
    (foremost.asking "GL" .productLine).total generalLiability = 2147483657 ∧
      (foremost.asking "GL" .productLine).tryScore generalLiability = .error .overflow := by
  exact ⟨by decide, tryScore_eq_error_iff.mpr (by decide)⟩

end RoutingRule

end Interchange
