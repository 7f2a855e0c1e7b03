/-
This file proves that trial division decides primality wherever its arithmetic goes that far. The
divisors tried so far do not divide the number, and none of their squares exceeds it; so when the
next square does exceed it, there is no divisor left. A composite number has a divisor whose square
fits into 64 bits, as the number itself does, and is found out in time. Only a prime that is at
least the greatest such square makes the search go on to a square that does not fit.
-/
import Mathlib.NumberTheory.LucasPrimality
import Mathlib.Tactic.NormNum.Prime
import Mathlib.Tactic.ReduceModChar
import PatternDispatch.Primes

namespace PatternDispatch.Primes

/-- The greatest number whose square is a signed 64-bit integer. -/
def greatestRoot : Nat := 3037000499

theorem square?_eq_none_iff {divisor : Nat} : square? divisor = none ↔ greatestRoot < divisor := by
  have fits : Checked.fits (divisor * divisor : Nat) = true ↔ divisor * divisor < 2 ^ 63 := by
    have least : Int64.minValue.toInt = -2 ^ 63 := by decide
    have greatest : Int64.maxValue.toInt = 2 ^ 63 - 1 := by decide
    simp only [Checked.fits, Bool.and_eq_true, decide_eq_true_eq, least, greatest]
    omega
  rw [square?, ite_eq_right_iff, fits]
  simp only [reduceCtorEq, imp_false, Nat.not_lt, greatestRoot]
  constructor
  · intro large
    by_contra small
    have square := Nat.mul_le_mul (Nat.not_lt.1 small) (Nat.not_lt.1 small)
    omega
  · intro beyond
    have square := Nat.mul_le_mul (Nat.succ_le_of_lt beyond) (Nat.succ_le_of_lt beyond)
    omega

/-! ### The search for a divisor -/

/-- Every divisor in front of this one was tried in vain. -/
def Passed (number divisor : Nat) : Prop :=
  ∀ smaller, 2 ≤ smaller → smaller < divisor → smaller * smaller ≤ number ∧ ¬smaller ∣ number

theorem Passed.step {number divisor : Nat} (passed : Passed number divisor)
    (square : divisor * divisor ≤ number) (indivisible : ¬divisor ∣ number) :
    Passed number (divisor + 1) := by
  intro smaller least before
  obtain earlier | rfl := Nat.lt_or_eq_of_le (Nat.le_of_lt_succ before)
  · exact passed smaller least earlier
  · exact ⟨square, indivisible⟩

/-- Once the square of the next divisor exceeds the number, none is left to try. -/
theorem Passed.prime {number divisor : Nat} (passed : Passed number divisor)
    (least : 2 ≤ number) (exceeds : number < divisor * divisor) : number.Prime := by
  refine Nat.prime_def_le_sqrt.2 ⟨least, fun smaller two below => ?_⟩
  refine (passed smaller two (Nat.lt_of_not_le fun behind => ?_)).2
  have square := Nat.mul_le_mul behind behind
  exact absurd (Nat.le_sqrt.1 below) (by omega)

/-- The answer of a search that has come to `divisor` depends on the number alone. -/
theorem hasNoDivisorFrom_eq {number divisor : Nat} (least : 2 ≤ number) (fits : number < 2 ^ 63)
    (two : 2 ≤ divisor) (passed : Passed number divisor) :
    hasNoDivisorFrom number divisor =
      if number.Prime then if number < greatestRoot ^ 2 then some true else none
      else some false := by
  fun_induction hasNoDivisorFrom number divisor with
  | case1 divisor overflow =>
    have beyond := square?_eq_none_iff.1 overflow
    have reached := (passed greatestRoot (by decide) beyond).1
    have next := Nat.mul_le_mul (Nat.succ_le_of_lt beyond) (Nat.succ_le_of_lt beyond)
    have prime : number.Prime := passed.prime least (by simp only [greatestRoot] at next; omega)
    rw [if_pos prime, if_neg (by rw [sq]; omega)]
  | case2 divisor square found below divides =>
    have composite : ¬number.Prime := by
      intro prime
      rw [square?_eq_some found] at below
      obtain one | whole := prime.eq_one_or_self_of_dvd divisor (Nat.dvd_of_mod_eq_zero divides)
      · omega
      · exact absurd (Nat.mul_le_mul_right number least) (by rw [whole] at below; omega)
    rw [if_neg composite]
  | case3 divisor square found below indivisible inductionHypothesis =>
    rw [square?_eq_some found] at below
    exact inductionHypothesis (Nat.le_succ_of_le two)
      (passed.step below fun divides => indivisible (Nat.mod_eq_zero_of_dvd divides))
  | case4 divisor square found exceeds =>
    rw [square?_eq_some found, Nat.not_le] at exceeds
    have inside : divisor ≤ greatestRoot := Nat.not_lt.1 fun beyond => by
      rw [square?_eq_none_iff.2 beyond] at found
      cases found
    have small : number < greatestRoot ^ 2 := by
      rw [sq]
      exact Nat.lt_of_lt_of_le exceeds (Nat.mul_le_mul inside inside)
    rw [if_pos (passed.prime least exceeds), if_pos small]

/-- A number is a prime if it is, as a natural number; negative numbers are none. -/
theorem isPrime?_eq (number : Int64) :
    isPrime? number =
      if number.toInt.toNat.Prime then
        if number.toInt.toNat < greatestRoot ^ 2 then some true else none
      else some false := by
  rw [isPrime?]
  split
  · next small =>
    rw [if_neg fun prime => absurd prime.two_le (by omega)]
  · next least =>
    have fits := number.toInt_lt
    exact hasNoDivisorFrom_eq (by omega) (by omega) (Nat.le_refl 2) fun smaller two before =>
      absurd two (by omega)

/-! ### The stream of primes -/

/-- A prime behind the greatest square, by the order of 5 modulo it. -/
theorem prime_beyond : Nat.Prime 9223372030926249073 := by
  let factors := [2, 2, 2, 2, 3, 3, 19, 29, 73, 73, 1933, 11284909]
  have product : 9223372030926249073 - 1 = factors.prod := by decide
  have primes : ∀ factor ∈ factors, factor.Prime := by
    simp only [factors, List.forall_mem_cons, List.not_mem_nil]
    norm_num
  have orders : ∀ factor ∈ factors,
      (5 : ZMod 9223372030926249073) ^ ((9223372030926249073 - 1) / factor) ≠ 1 := by
    simp only [factors, List.forall_mem_cons, List.not_mem_nil]
    norm_num
    reduce_mod_char
    decide
  refine lucas_primality _ 5 (by reduce_mod_char) fun divisor prime divides => ?_
  obtain ⟨factor, member, divides⟩ := (Prime.dvd_prod_iff prime.prime).1 (product ▸ divides)
  cases (Nat.prime_dvd_prime_iff_eq prime (primes factor member)).1 divides
  exact orders divisor member

/-- The primes below a bound, in their order. -/
def primesBelow (bound : Nat) : List Int64 :=
  ((List.range bound).filter fun candidate => candidate.Prime).map Int64.ofNat

theorem primesBelow_succ (bound : Nat) :
    primesBelow (bound + 1) =
      if bound.Prime then primesBelow bound ++ [Int64.ofNat bound] else primesBelow bound := by
  rw [primesBelow, List.range_succ, List.filter_append, List.map_append, List.filter_singleton]
  by_cases prime : bound.Prime <;> simp [prime, primesBelow]

theorem toInt_ofNat_of_lt {candidate bound : Nat} (fits : bound ≤ 2 ^ 63)
    (below : candidate < bound) : (Int64.ofNat candidate).toInt = candidate :=
  Int64.toInt_ofNat_of_lt (Nat.lt_of_lt_of_le below fits)

theorem pairwise_primesBelow {bound : Nat} (fits : bound ≤ 2 ^ 63) :
    (primesBelow bound).Pairwise (· < ·) := by
  refine List.pairwise_map.2 ((List.pairwise_lt_range.filter _).imp_of_mem ?_)
  intro first second firstMember secondMember less
  rw [Int64.lt_iff_toInt_lt,
    toInt_ofNat_of_lt fits (List.mem_range.1 (List.mem_filter.1 firstMember).1),
    toInt_ofNat_of_lt fits (List.mem_range.1 (List.mem_filter.1 secondMember).1)]
  exact Int.ofNat_lt.2 less

theorem mem_primesBelow {bound : Nat} (fits : bound ≤ 2 ^ 63) {number : Int64} :
    number ∈ primesBelow bound ↔ number.toInt.toNat.Prime ∧ number.toInt.toNat < bound := by
  simp only [primesBelow, List.mem_map, List.mem_filter, List.mem_range, decide_eq_true_eq]
  constructor
  · rintro ⟨candidate, ⟨below, prime⟩, rfl⟩
    rw [toInt_ofNat_of_lt fits below, Int.toNat_natCast]
    exact ⟨prime, below⟩
  · rintro ⟨prime, below⟩
    have least := prime.two_le
    refine ⟨number.toInt.toNat, ⟨below, prime⟩, Int64.toInt_inj.1 ?_⟩
    rw [toInt_ofNat_of_lt fits below]
    omega

theorem amongFirst_succ (count : Nat) :
    amongFirst (count + 1) = do
      let earlier ← amongFirst count
      if ← isPrime? (Int64.ofNat (count + 2)) then return earlier ++ [Int64.ofNat (count + 2)]
      else return earlier :=
  rfl

theorem isPrime?_ofNat {candidate : Nat} (fits : candidate < 2 ^ 63) :
    isPrime? (Int64.ofNat candidate) =
      if candidate.Prime then if candidate < greatestRoot ^ 2 then some true else none
      else some false := by
  rw [isPrime?_eq, Int64.toInt_ofNat_of_lt fits, Int.toNat_natCast]

/-- As long as no prime is reached that is too large, the search lists all primes so far. -/
theorem amongFirst_eq_some {count : Nat} (fits : count + 2 ≤ 2 ^ 63)
    (small : ∀ prime : Nat, prime.Prime → prime < count + 2 → prime < greatestRoot ^ 2) :
    amongFirst count = some (primesBelow (count + 2)) := by
  induction count with
  | zero => rfl
  | succ count inductionHypothesis =>
    have earlier := inductionHypothesis (Nat.le_of_succ_le fits) fun prime isPrime before =>
      small prime isPrime (Nat.lt_succ_of_lt before)
    rw [amongFirst_succ, earlier, isPrime?_ofNat (Nat.lt_of_succ_le fits), Nat.add_right_comm,
      primesBelow_succ (count + 2)]
    by_cases prime : (count + 2).Prime
    · rw [if_pos prime, if_pos prime, if_pos (small _ prime (Nat.lt_succ_self _))]
      rfl
    · rw [if_neg prime, if_neg prime]
      rfl

/-- A prime that is too large ends the search. -/
theorem amongFirst_eq_none {count prime : Nat} (isPrime : prime.Prime)
    (large : greatestRoot ^ 2 ≤ prime) (fits : prime < 2 ^ 63) (reached : prime < count + 2) :
    amongFirst count = none := by
  induction count with
  | zero => exact absurd reached (by simp only [greatestRoot] at large; omega)
  | succ count inductionHypothesis =>
    rw [amongFirst_succ]
    obtain before | rfl := Nat.lt_or_eq_of_le (Nat.le_of_lt_succ reached)
    · rw [inductionHypothesis before]
      rfl
    · rw [isPrime?_ofNat fits, if_pos isPrime, if_neg (Nat.not_lt.2 large)]
      cases amongFirst count <;> rfl

/-- A search that has gone too far has met a prime in 64 bits, as there is one. -/
theorem amongFirst_cases (count : Nat) :
    (amongFirst count = none ∧
      ∃ prime : Nat, prime.Prime ∧ greatestRoot ^ 2 ≤ prime ∧ prime < count + 2) ∨
    (amongFirst count = some (primesBelow (count + 2)) ∧ count + 2 ≤ 2 ^ 63 ∧
      ∀ prime : Nat, prime.Prime → prime < count + 2 → prime < greatestRoot ^ 2) := by
  by_cases reached : ∃ prime : Nat, prime.Prime ∧ greatestRoot ^ 2 ≤ prime ∧ prime < count + 2
  · refine .inl ⟨?_, reached⟩
    obtain ⟨prime, isPrime, large, before⟩ := reached
    by_cases fits : prime < 2 ^ 63
    · exact amongFirst_eq_none isPrime large fits before
    · exact amongFirst_eq_none prime_beyond (by decide) (by decide) (by omega)
  · have small : ∀ prime : Nat, prime.Prime → prime < count + 2 → prime < greatestRoot ^ 2 :=
      fun prime isPrime before => Nat.lt_of_not_le fun large =>
        reached ⟨prime, isPrime, large, before⟩
    have fits : count + 2 ≤ 2 ^ 63 := by
      by_contra beyond
      exact absurd (small _ prime_beyond (by omega)) (by decide)
    exact .inr ⟨amongFirst_eq_some fits small, fits, small⟩

/-- The test of a number has no answer exactly if the number is a prime that is not below the
greatest square, and any answer tells whether the number is prime. So the search among the numbers
from 2 on lists the primes in strictly increasing order, each of them once; it lists all of them
below that square, and comes to an end with the first prime that is not. -/
theorem trial_division_decides_primality :
    (∀ number : Int64,
      (isPrime? number = none ↔
        number.toInt.toNat.Prime ∧ 3037000499 ^ 2 ≤ number.toInt.toNat) ∧
      ∀ answer, isPrime? number = some answer → (answer = true ↔ number.toInt.toNat.Prime)) ∧
    ∀ count : Nat,
      (amongFirst count = none ↔
        ∃ prime : Nat, prime.Prime ∧ 3037000499 ^ 2 ≤ prime ∧ prime < count + 2) ∧
      ∀ found, amongFirst count = some found →
        found.Pairwise (· < ·) ∧
        ∀ number, number ∈ found ↔
          number.toInt.toNat.Prime ∧ number.toInt.toNat < min (count + 2) (3037000499 ^ 2) := by
  refine ⟨fun number => ?_, fun count => ?_⟩
  · rw [isPrime?_eq, ← Nat.not_lt]
    generalize number.toInt.toNat = value
    by_cases prime : value.Prime
    · by_cases small : value < greatestRoot ^ 2
      · rw [if_pos prime, if_pos small]
        refine ⟨iff_of_false nofun fun beyond => beyond.2 small, ?_⟩
        rintro answer ⟨⟩
        exact iff_of_true rfl prime
      · rw [if_pos prime, if_neg small]
        exact ⟨iff_of_true rfl ⟨prime, small⟩, nofun⟩
    · rw [if_neg prime]
      refine ⟨iff_of_false nofun fun beyond => prime beyond.1, ?_⟩
      rintro answer ⟨⟩
      exact iff_of_false nofun prime
  · obtain ⟨ended, reached⟩ | ⟨going, fits, small⟩ := amongFirst_cases count
    · rw [ended]
      exact ⟨iff_of_true rfl reached, nofun⟩
    · rw [going]
      refine ⟨iff_of_false nofun ?_, ?_⟩
      · rintro ⟨prime, isPrime, large, before⟩
        exact absurd (small prime isPrime before) (Nat.not_lt.2 large)
      · rintro found ⟨⟩
        refine ⟨pairwise_primesBelow fits, fun number => ?_⟩
        rw [mem_primesBelow fits, lt_min_iff]
        exact and_congr_right fun prime => (and_iff_left_of_imp (small _ prime)).symm

/-- A prime behind the greatest square has no answer, while the greatest number of all, which is a
multiple of 7, has one. The search lists 11 and not 9, and it ends when it comes to that prime. -/
theorem trial_division_decides_primality_edge :
    isPrime? 9223372030926249073 = none ∧
      isPrime? 9223372036854775807 = some false ∧
      (∃ found, amongFirst 10 = some found ∧ found.Pairwise (· < ·) ∧ 11 ∈ found ∧ 9 ∉ found) ∧
      amongFirst 9223372030926249072 = none := by
  obtain ⟨test, search⟩ := trial_division_decides_primality
  refine ⟨?_, ?_, ?_, ?_⟩
  · exact (test _).1.2 ⟨prime_beyond, by decide⟩
  · have composite : ¬Nat.Prime (9223372036854775807 : Int64).toInt.toNat := by
      have value : (9223372036854775807 : Int64).toInt.toNat = 7 * 1317624576693539401 := by decide
      rw [value]
      exact Nat.not_prime_mul (by decide) (by decide)
    cases answered : isPrime? 9223372036854775807 with
    | none => exact absurd ((test _).1.1 answered).1 composite
    | some answer =>
      cases answer with
      | false => rfl
      | true => exact absurd (((test _).2 true answered).1 rfl) composite
  · cases listed : amongFirst 10 with
    | none =>
      obtain ⟨prime, -, large, before⟩ := (search 10).1.1 listed
      omega
    | some found =>
      obtain ⟨increasing, primes⟩ := (search 10).2 found listed
      refine ⟨found, rfl, increasing, (primes 11).2 ?_, fun member => ?_⟩
      · exact ⟨by decide, by decide⟩
      · exact absurd ((primes 9).1 member).1 (by decide)
  · exact (search _).1.2 ⟨_, prime_beyond, by decide, by decide⟩

end PatternDispatch.Primes
