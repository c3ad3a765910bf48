import LogTree.Stats.Delivery
import Mathlib.Algebra.BigOperators.Group.List.Basic
import Mathlib.Algebra.Order.BigOperators.Group.List
import Mathlib.Algebra.Order.Field.Rat
import Mathlib.Data.List.DropRight
import Mathlib.Order.Bounds.Defs
import Mathlib.Tactic.FieldSimp
import Mathlib.Tactic.Linarith
import Mathlib.Tactic.Positivity
import Mathlib.Tactic.Ring

/-!
What running statistics say of the numbers that they no longer have, in exact arithmetic where a division
by zero has no result. The sum of squares is kept by deviations from two means, before and after each
number; it is still that of the deviations from the mean of all. Main statement: `statistics_exact`.
-/
namespace LogTree

/-- A rational number, or none where there was a division by zero. -/
def Exact : Type := Option ℚ

namespace Exact

def of (q : ℚ) : Exact := some q

instance : Quantity Exact where
  zero := of 0
  add := Option.map₂ (· + ·)
  sub := Option.map₂ (· - ·)
  mul := Option.map₂ (· * ·)
  div x y := Option.bind x fun p => Option.bind y fun q => if q = 0 then none else of (p / q)
  ofCount n := of n
  lesser := Option.map₂ min
  greater := Option.map₂ max

theorem of_zero : of 0 = 0 := rfl

theorem of_add (p q : ℚ) : of p + of q = of (p + q) := rfl

theorem of_sub (p q : ℚ) : of p - of q = of (p - q) := rfl

theorem of_mul (p q : ℚ) : of p * of q = of (p * q) := rfl

theorem of_div (p : ℚ) {q : ℚ} (some : q ≠ 0) : of p / of q = of (p / q) := by
  show (if q = 0 then none else of (p / q)) = of (p / q)
  exact if_neg some

theorem ofCount_eq (n : Nat) : Quantity.ofCount n = of n := rfl

theorem lesser_of (p q : ℚ) : Quantity.lesser (of p) (of q) = of (min p q) := rfl

theorem greater_of (p q : ℚ) : Quantity.greater (of p) (of q) = of (max p q) := rfl

end Exact

namespace Sample

def mean (xs : List ℚ) : ℚ := xs.sum / xs.length

/-- The sum of the squared deviations from the mean. -/
def squares (xs : List ℚ) : ℚ := (xs.map fun x => (x - mean xs) ^ 2).sum

def variance (xs : List ℚ) : ℚ := if xs.length < 2 then 0 else squares xs / (xs.length - 1)

theorem sum_eq {xs : List ℚ} (some : xs ≠ []) : xs.sum = xs.length * mean xs := by
  have length : (xs.length : ℚ) ≠ 0 := by simpa using some
  unfold mean
  field_simp

theorem sum_squares_expand (xs : List ℚ) (c : ℚ) :
    (xs.map fun x => (x - c) ^ 2).sum =
      (xs.map (· ^ 2)).sum - 2 * c * xs.sum + xs.length * c ^ 2 := by
  induction xs with
  | nil => simp
  | cons x xs ih =>
    simp only [List.map_cons, List.sum_cons, List.length_cons, ih]
    push_cast
    ring

/-- Deviations from any number, by those from the mean. -/
theorem sum_squares_from (xs : List ℚ) (c : ℚ) :
    (xs.map fun x => (x - c) ^ 2).sum = squares xs + xs.length * (mean xs - c) ^ 2 := by
  rcases eq_or_ne xs [] with rfl | some
  · simp [squares]
  · rw [squares, sum_squares_expand, sum_squares_expand, sum_eq some]
    ring

theorem mean_concat {xs : List ℚ} (some : xs ≠ []) (x : ℚ) :
    mean (xs ++ [x]) = mean xs + (x - mean xs) / (xs.length + 1 : ℕ) := by
  have length : ((xs.length + 1 : ℕ) : ℚ) ≠ 0 := by positivity
  have sum := sum_eq some
  rw [mean, List.sum_append, List.sum_singleton, List.length_append, List.length_singleton, sum]
  field_simp
  push_cast
  ring

/-- The deviations of one more number from the mean before it and from the mean after it. -/
theorem squares_concat {xs : List ℚ} (some : xs ≠ []) (x : ℚ) :
    squares (xs ++ [x]) =
      squares xs + (x - mean xs) * (x - (mean xs + (x - mean xs) / (xs.length + 1 : ℕ))) := by
  rw [squares, mean_concat some, List.map_append, List.sum_append, sum_squares_from, List.map_singleton,
    List.sum_singleton]
  push_cast
  field_simp
  ring

theorem squares_nonneg (xs : List ℚ) : 0 ≤ squares xs := by
  apply List.sum_nonneg
  intro d member
  obtain ⟨x, _, rfl⟩ := List.mem_map.mp member
  positivity

theorem variance_nonneg (xs : List ℚ) : 0 ≤ variance xs := by
  unfold variance
  split
  · exact le_refl 0
  · rename_i many
    have length : (1 : ℚ) ≤ xs.length := by
      have : 1 ≤ xs.length := by omega
      exact_mod_cast this
    exact div_nonneg (squares_nonneg xs) (by linarith)

theorem le_mean {xs : List ℚ} (some : xs ≠ []) {l : ℚ} (below : ∀ x ∈ xs, l ≤ x) : l ≤ mean xs := by
  have length : (0 : ℚ) < xs.length := by
    have := List.length_pos_iff.mpr some
    exact_mod_cast this
  have total := List.card_nsmul_le_sum xs l below
  rw [nsmul_eq_mul] at total
  exact (le_div_iff₀' length).mpr total

theorem mean_le {xs : List ℚ} (some : xs ≠ []) {g : ℚ} (above : ∀ x ∈ xs, x ≤ g) : mean xs ≤ g := by
  have length : (0 : ℚ) < xs.length := by
    have := List.length_pos_iff.mpr some
    exact_mod_cast this
  have total := List.sum_le_card_nsmul xs g above
  rw [nsmul_eq_mul] at total
  exact (div_le_iff₀' length).mpr total

end Sample

namespace Running

/-- What the statistics hold is what these numbers have. -/
structure Tells (s : Running Exact) (xs : List ℚ) : Prop where
  count : s.count = xs.length
  mean : s.mean = .of (Sample.mean xs)
  squares : s.squares = .of (Sample.squares xs)
  least : xs ≠ [] → ∃ l, s.least = .of l ∧ IsLeast {x | x ∈ xs} l
  greatest : xs ≠ [] → ∃ g, s.greatest = .of g ∧ IsGreatest {x | x ∈ xs} g

theorem tells_empty : Tells empty [] where
  count := rfl
  mean := by simp [empty, Sample.mean, Exact.of_zero]
  squares := rfl
  least none := absurd rfl none
  greatest none := absurd rfl none

theorem tells_first (x : ℚ) : Tells (empty.push (.of x)) [x] where
  count := rfl
  mean := by simp [empty, push, Sample.mean]
  squares := by simp [empty, push, Sample.squares, Sample.mean, Exact.of_zero]
  least _ := ⟨x, rfl, by simp [IsLeast, lowerBounds]⟩
  greatest _ := ⟨x, rfl, by simp [IsGreatest, upperBounds]⟩

theorem isLeast_concat {xs : List ℚ} {l : ℚ} (least : IsLeast {y | y ∈ xs} l) (x : ℚ) :
    IsLeast {y | y ∈ xs ++ [x]} (min l x) := by
  have all : {y | y ∈ xs ++ [x]} = {y | y ∈ xs} ∪ {x} := by
    ext y
    simp [or_comm]
  rw [all]
  exact least.union isLeast_singleton

theorem isGreatest_concat {xs : List ℚ} {g : ℚ} (greatest : IsGreatest {y | y ∈ xs} g) (x : ℚ) :
    IsGreatest {y | y ∈ xs ++ [x]} (max g x) := by
  have all : {y | y ∈ xs ++ [x]} = {y | y ∈ xs} ∪ {x} := by
    ext y
    simp [or_comm]
  rw [all]
  exact greatest.union isGreatest_singleton

theorem Tells.push {s : Running Exact} {xs : List ℚ} (tells : Tells s xs) (x : ℚ) :
    Tells (s.push (.of x)) (xs ++ [x]) := by
  rcases eq_or_ne xs [] with rfl | some
  · have first : s.push (.of x) = empty.push (.of x) := by
      simp [Running.push, empty, tells.count]
    rw [first]
    exact tells_first x
  · have old : (s.count == 0) = false := by
      simpa [tells.count] using some
    have divisor : ((xs.length + 1 : ℕ) : ℚ) ≠ 0 := by positivity
    obtain ⟨l, least, isLeast⟩ := tells.least some
    obtain ⟨g, greatest, isGreatest⟩ := tells.greatest some
    have pushed : s.push (.of x) = ⟨xs.length + 1, .of (Sample.mean (xs ++ [x])),
        .of (Sample.squares (xs ++ [x])), .of (min l x), .of (max g x)⟩ := by
      rw [Running.push, if_neg (by simp [old]), tells.count, tells.mean, tells.squares, least, greatest]
      simp only [Exact.ofCount_eq, Exact.of_sub, Exact.of_div _ divisor, Exact.of_add, Exact.of_mul,
        Exact.lesser_of, Exact.greater_of, Sample.mean_concat some, Sample.squares_concat some]
    rw [pushed]
    constructor
    · rw [List.length_append, List.length_singleton]
    · rfl
    · rfl
    · exact fun _ => ⟨min l x, rfl, isLeast_concat isLeast x⟩
    · exact fun _ => ⟨max g x, rfl, isGreatest_concat isGreatest x⟩

theorem Tells.variance {s : Running Exact} {xs : List ℚ} (tells : Tells s xs) :
    s.variance = .of (Sample.variance xs) := by
  rw [Running.variance, Sample.variance, tells.count]
  split
  · rfl
  · rename_i many
    have divisor : ((xs.length - 1 : ℕ) : ℚ) ≠ 0 := by
      have : xs.length - 1 ≠ 0 := by omega
      exact_mod_cast this
    rw [tells.squares, Exact.ofCount_eq, Exact.of_div _ divisor, Nat.cast_sub (by omega), Nat.cast_one]

end Running

namespace Delivery

inductive Step where
  | update (delivered : Bool) (milliseconds : ℚ)
  | setCounters (sink : String) (counters : Counters)
  | reset

namespace Step

def isReset : Step → Bool
  | reset => true
  | _ => false

def update? : Step → Option (Bool × ℚ)
  | update delivered milliseconds => some (delivered, milliseconds)
  | _ => none

def countersOf? (sink : String) : Step → Option Counters
  | setCounters name c => if name = sink then some c else none
  | _ => none

end Step

/-- The steps behind the last reset. -/
def sinceReset (steps : List Step) : List Step := steps.rtakeWhile (!·.isReset)

def updates (steps : List Step) : List (Bool × ℚ) := (sinceReset steps).filterMap Step.update?

def lastCounters (steps : List Step) (sink : String) : Option Counters :=
  (sinceReset steps).reverse.findSome? (Step.countersOf? sink)

section
variable {step : Step} (goes_on : step.isReset = false) (steps : List Step)
include goes_on

theorem sinceReset_concat : sinceReset (steps ++ [step]) = sinceReset steps ++ [step] := by
  apply List.rtakeWhile_concat_pos
  simp [goes_on]

theorem updates_concat : updates (steps ++ [step]) = updates steps ++ step.update?.toList := by
  rw [updates, sinceReset_concat goes_on, List.filterMap_append, ← updates, List.filterMap_cons]
  cases step.update? <;> rfl

theorem lastCounters_concat (sink : String) :
    lastCounters (steps ++ [step]) sink =
      (step.countersOf? sink).or (lastCounters steps sink) := by
  rw [lastCounters, sinceReset_concat goes_on, List.reverse_append, List.findSome?_append]
  simp [lastCounters]

end

theorem sinceReset_reset (steps : List Step) : sinceReset (steps ++ [.reset]) = [] := by
  apply List.rtakeWhile_concat_neg
  simp [Step.isReset]

namespace Summary

def take (s : Summary Exact) : Step → Summary Exact
  | .update delivered milliseconds => s.update delivered (.of milliseconds)
  | .setCounters sink c => s.setCounters sink c
  | .reset => empty

def ofSteps (steps : List Step) : Summary Exact := steps.foldl take empty

/-- The summary is that of these updates and of the last counters of each sink. -/
structure Tells (s : Summary Exact) (us : List (Bool × ℚ)) (last : String → Option Counters) :
    Prop where
  total : s.total = us.length
  failed : s.failed = us.countP (!·.1)
  latency : s.latency.Tells (us.map Prod.snd)
  counters : ∀ sink, s.counters.get? sink = last sink

theorem tells_empty : Tells empty [] fun _ => none where
  total := rfl
  failed := rfl
  latency := Running.tells_empty
  counters _ := rfl

variable {s : Summary Exact} {us : List (Bool × ℚ)} {last : String → Option Counters}

theorem Tells.update (tells : Tells s us last) (delivered : Bool) (milliseconds : ℚ) :
    Tells (s.update delivered (.of milliseconds)) (us ++ [(delivered, milliseconds)]) last := by
  constructor
  · rw [List.length_append, ← tells.total]
    rfl
  · rw [List.countP_append, ← tells.failed]
    cases delivered <;> rfl
  · rw [List.map_append]
    exact tells.latency.push milliseconds
  · exact tells.counters

theorem Tells.setCounters (tells : Tells s us last) (sink : String) (c : Counters) :
    Tells (s.setCounters sink c) us fun name => if sink = name then some c else last name := by
  constructor
  · exact tells.total
  · exact tells.failed
  · exact tells.latency
  · intro name
    rw [← tells.counters name]
    exact Dict.get?_insert s.counters sink c name

theorem Tells.take {steps : List Step} (tells : Tells s (updates steps) (lastCounters steps))
    (step : Step) :
    Tells (s.take step) (updates (steps ++ [step])) (lastCounters (steps ++ [step])) := by
  cases step with
  | update delivered milliseconds =>
    have last : lastCounters (steps ++ [.update delivered milliseconds]) = lastCounters steps :=
      funext fun sink => lastCounters_concat rfl steps sink
    rw [updates_concat rfl, last]
    exact tells.update delivered milliseconds
  | setCounters sink c =>
    have last : lastCounters (steps ++ [.setCounters sink c]) =
        fun name => if sink = name then some c else lastCounters steps name := by
      funext name
      rw [lastCounters_concat rfl, Step.countersOf?]
      split <;> rfl
    have none : (Step.setCounters sink c).update?.toList = [] := rfl
    rw [updates_concat rfl, last, none, List.append_nil]
    exact tells.setCounters sink c
  | reset =>
    have last : lastCounters (steps ++ [.reset]) = fun _ => none := by
      funext sink
      rw [lastCounters, sinceReset_reset]
      rfl
    rw [updates, sinceReset_reset, last]
    exact tells_empty

/-- The summary tells of what happened since the last reset. -/
theorem tells_ofSteps (steps : List Step) :
    Tells (ofSteps steps) (updates steps) (lastCounters steps) := by
  induction steps using List.reverseRecOn with
  | nil => exact tells_empty
  | append_singleton steps step ih =>
    have run : ofSteps (steps ++ [step]) = (ofSteps steps).take step := by
      simp [ofSteps]
    rw [run]
    exact ih.take step

/-- The share of failures in a hundred; where there are no records, nothing is divided. -/
theorem Tells.failureRate (tells : Tells s us last) :
    s.failed ≤ s.total ∧ ∃ rate, s.failureRate = .of rate ∧
      rate = s.failed / s.total * 100 ∧ 0 ≤ rate ∧ rate ≤ 100 := by
  have failed : s.failed ≤ s.total := by
    rw [tells.failed, tells.total]
    exact List.countP_le_length
  refine ⟨failed, s.failed / s.total * 100, ?_, rfl, by positivity, ?_⟩
  · unfold Summary.failureRate
    split
    · rename_i some
      have divisor : (s.total : ℚ) ≠ 0 := by
        have : s.total ≠ 0 := by omega
        exact_mod_cast this
      simp only [Exact.ofCount_eq, Exact.of_div _ divisor, Exact.of_mul, Nat.cast_ofNat]
    · rename_i none
      have total : s.total = 0 := by omega
      rw [total, Nat.cast_zero, div_zero, zero_mul, Exact.of_zero]
  · have share : (s.failed : ℚ) / s.total ≤ 1 := by
      apply div_le_one_of_le₀
      · exact_mod_cast failed
      · positivity
    linarith

end Summary

/-- After any run of updates, settings and resets, the summary says of what came since the last reset how
many records there were and how many failed, what was last set for each sink, and the mean, the variance,
the least and the greatest of the latencies, and nothing was divided by zero. -/
theorem statistics_exact (steps : List Step) :
    let us := updates steps
    let xs := us.map Prod.snd
    let s := Summary.ofSteps steps
    s.total = us.length ∧ s.latency.count = us.length ∧ s.failed = us.countP (!·.1) ∧
    s.failed ≤ s.total ∧
    (∃ rate, s.failureRate = .of rate ∧ rate = s.failed / s.total * 100 ∧ 0 ≤ rate ∧ rate ≤ 100) ∧
    (∀ sink, s.counters.get? sink = lastCounters steps sink) ∧
    s.latency.mean = .of (Sample.mean xs) ∧
    s.latency.variance = .of (Sample.variance xs) ∧ 0 ≤ Sample.variance xs ∧
    (xs ≠ [] → ∃ least greatest, s.latency.least = .of least ∧ s.latency.greatest = .of greatest ∧
      IsLeast {x | x ∈ xs} least ∧ IsGreatest {x | x ∈ xs} greatest ∧
      least ≤ Sample.mean xs ∧ Sample.mean xs ≤ greatest) := by
  intro us xs s
  have tells := Summary.tells_ofSteps steps
  obtain ⟨failed, rate⟩ := tells.failureRate
  have count : s.latency.count = us.length := by
    rw [tells.latency.count, List.length_map]
  refine ⟨tells.total, count, tells.failed, failed, rate, tells.counters, tells.latency.mean,
    tells.latency.variance, Sample.variance_nonneg xs, ?_⟩
  intro some
  obtain ⟨least, hleast, isLeast⟩ := tells.latency.least some
  obtain ⟨greatest, hgreatest, isGreatest⟩ := tells.latency.greatest some
  exact ⟨least, greatest, hleast, hgreatest, isLeast, isGreatest,
    Sample.le_mean some fun _ member => isLeast.2 member,
    Sample.mean_le some fun _ member => isGreatest.2 member⟩

/-- Three records behind a reset, one of them failed, and one sink set twice. -/
theorem statistics_exact_reset :
    let steps : List Step := [.update false 1, .setCounters "a" ⟨0, 1, 0⟩, .reset, .update true 2,
      .setCounters "b" ⟨1, 0, 0⟩, .update false 4, .setCounters "b" ⟨1, 1, 0⟩, .update true 9]
    let s := Summary.ofSteps steps
    updates steps = [(true, 2), (false, 4), (true, 9)] ∧
      s.total = 3 ∧ s.failed = 1 ∧ s.failureRate = .of (100 / 3) ∧
      s.counters.get? "a" = none ∧ s.counters.get? "b" = some ⟨1, 1, 0⟩ ∧
      s.latency.mean = .of 5 ∧ s.latency.variance = .of 13 ∧
      (updates steps).map Prod.snd ≠ [] ∧
      ∃ least greatest, s.latency.least = .of least ∧ s.latency.greatest = .of greatest ∧
        IsLeast {x | x ∈ (updates steps).map Prod.snd} least ∧
        IsGreatest {x | x ∈ (updates steps).map Prod.snd} greatest := by
  intro steps s
  have us : updates steps = [(true, 2), (false, 4), (true, 9)] := rfl
  have some : (updates steps).map Prod.snd ≠ [] := by
    rw [us]
    exact List.cons_ne_nil _ _
  obtain ⟨total, _, failed, _, ⟨rate, hrate, share, _⟩, counters, mean, variance, _, extremes⟩ :=
    statistics_exact steps
  obtain ⟨least, greatest, hleast, hgreatest, isLeast, isGreatest, _⟩ := extremes some
  rw [us] at total failed mean variance
  have third : rate = 100 / 3 := by
    rw [share, failed, total]
    norm_num
  have mid : Sample.mean [2, 4, 9] = 5 := by norm_num [Sample.mean]
  have spread : Sample.variance [2, 4, 9] = 13 := by
    norm_num [Sample.variance, Sample.squares, mid]
  exact ⟨us, total, failed, third ▸ hrate, counters "a", counters "b", mid ▸ mean,
    spread ▸ variance, some, least, greatest, hleast, hgreatest, isLeast, isGreatest⟩

end Delivery
end LogTree
