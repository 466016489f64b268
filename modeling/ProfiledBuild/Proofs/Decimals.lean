import Mathlib.Algebra.Order.Ring.Int
import ProfiledBuild.Decimal.Places
import ProfiledBuild.Host.Sequences

/-! Decimal forms and rows of numbers. What is written with a number of places is the multiple of
the last place that is nearest to the ratio, and a row has all numbers up to its end. -/

namespace ProfiledBuild.Quantity

/-- No whole number is nearer to a ratio, and of two the even one is taken. -/
theorem nearest_spec (n : Nat) {d : Nat} (hd : 0 < d) :
    2 * n ≤ 2 * (nearest n d * d) + d ∧ 2 * (nearest n d * d) ≤ 2 * n + d ∧
      (2 * n = 2 * (nearest n d * d) + d ∨ 2 * (nearest n d * d) = 2 * n + d →
        nearest n d % 2 = 0) := by
  have hdiv : n / d * d + n % d = n := Nat.div_add_mod' n d
  have hmod := Nat.mod_lt n hd
  have hnext : (n / d + 1) * d = n / d * d + d := Nat.add_one_mul _ _
  simp only [nearest]
  split
  next hlow => omega
  next hlow =>
    split
    next hhigh =>
      rw [hnext]
      omega
    next hhigh =>
      rcases Nat.mod_two_eq_zero_or_one (n / d) with heven | hodd
      · rw [heven, Nat.add_zero]
        omega
      · rw [hodd, hnext]
        omega

/-- The digits of a number, so many at least. -/
def digitsOf (least n : Nat) : List Char :=
  List.replicate (least - (Nat.toDigits 10 n).length) '0' ++ Nat.toDigits 10 n

theorem ofDigitChars_replicate_append (k : Nat) (digits : List Char) :
    Nat.ofDigitChars 10 (List.replicate k '0' ++ digits) 0 = Nat.ofDigitChars 10 digits 0 := by
  induction k with
  | zero => rfl
  | succ k ih =>
    rw [List.replicate_succ, List.cons_append, Nat.ofDigitChars_cons]
    exact ih

theorem ofDigitChars_digitsOf (least n : Nat) : Nat.ofDigitChars 10 (digitsOf least n) 0 = n := by
  rw [digitsOf, ofDigitChars_replicate_append]
  exact Nat.ofDigitChars_ten_toDigits

theorem le_length_digitsOf (least n : Nat) : least ≤ (digitsOf least n).length := by
  rw [digitsOf, List.length_append, List.length_replicate]
  omega

theorem isDigit_digitsOf {least n : Nat} {c : Char} (hc : c ∈ digitsOf least n) :
    c.isDigit = true := by
  rcases List.mem_append.mp hc with hc | hc
  · rw [(List.mem_replicate.mp hc).2]
    rfl
  · exact Nat.isDigit_of_mem_toDigits (by decide) (by decide) hc

/-- A point stands before so many of the digits of a number, and some stand before it. -/
theorem pointed_spec (places : Nat) (marked : Bool) (n : Nat) :
    ∃ whole fraction, pointed places marked n =
        whole ++ (if places = 0 ∧ marked = false then [] else ['.']) ++ fraction ∧
      whole ≠ [] ∧ fraction.length = places ∧ (∀ c ∈ whole ++ fraction, c.isDigit = true) ∧
      Nat.ofDigitChars 10 (whole ++ fraction) 0 = n := by
  let digits := digitsOf (places + 1) n
  have hlength : places + 1 ≤ digits.length := le_length_digitsOf (places + 1) n
  have htext : pointed places marked n =
      if places = 0 then
        if marked then digits.take (digits.length - places) ++ ['.']
        else digits.take (digits.length - places)
      else digits.take (digits.length - places) ++ '.' :: digits.drop (digits.length - places) := by
    simp [pointed, digits, digitsOf]
  refine ⟨digits.take (digits.length - places), digits.drop (digits.length - places), ?_, ?_, ?_,
    ?_, ?_⟩
  · rw [htext]
    by_cases hplaces : places = 0
    · cases marked <;> simp [hplaces]
    · simp [hplaces]
  · rw [ne_eq, ← List.length_eq_zero_iff, List.length_take]
    omega
  · rw [List.length_drop]
    omega
  · rw [List.take_append_drop]
    exact fun c hc => isDigit_digitsOf hc
  · rw [List.take_append_drop]
    exact ofDigitChars_digitsOf (places + 1) n

/-- With so many places a ratio is written as the nearest number that has no more of them. -/
theorem fixed_spec (places : Nat) (marked : Bool) (n : Nat) {d : Nat} (hd : 0 < d) :
    ∃ m, fixed places marked n d = pointed places marked m ∧
      2 * (n * 10 ^ places) ≤ 2 * (m * d) + d ∧ 2 * (m * d) ≤ 2 * (n * 10 ^ places) + d := by
  obtain ⟨hlow, hhigh, -⟩ := nearest_spec (n * 10 ^ places) hd
  exact ⟨_, rfl, hlow, hhigh⟩

end ProfiledBuild.Quantity

namespace ProfiledBuild.Tools

/-- A row has every number that so many steps lead to and that is not past its end. -/
theorem mem_numbers_iff {first step last x : Int} (hstep : step ≠ 0) :
    x ∈ numbers first step last ↔
      ∃ i : Nat, x = first + step * i ∧ if step < 0 then last ≤ x else x ≤ last := by
  have hcount (i : Nat) : (i : Int) ≤ (if step < 0 then (first - last) / -step
      else (last - first) / step) ↔
        if step < 0 then last ≤ first + step * i else first + step * i ≤ last := by
    split
    next hneg =>
      rw [Int.le_ediv_iff_mul_le (by omega), Int.mul_neg, Int.mul_comm]
      omega
    next hneg =>
      rw [Int.le_ediv_iff_mul_le (by omega), Int.mul_comm]
      omega
  simp only [numbers, if_neg hstep, List.mem_map, List.mem_range]
  constructor
  · rintro ⟨i, hi, rfl⟩
    exact ⟨i, rfl, (hcount i).mp (by omega)⟩
  · rintro ⟨i, rfl, hend⟩
    have hi := (hcount i).mpr hend
    exact ⟨i, by omega, rfl⟩

end ProfiledBuild.Tools
