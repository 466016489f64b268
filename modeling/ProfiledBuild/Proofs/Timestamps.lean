import ProfiledBuild.Time.Reader

/-! A written timestamp is read back as the same moment, in every year, with or without a fraction
and also at a leap second. -/

namespace ProfiledBuild.Timestamp

theorem isDigit_of_isDigit {c : Char} (h : c.isDigit = true) : isDigit c = true := by
  simpa [isDigit, Char.isDigit, Char.le_def] using h

theorem padded_toList (width n : Nat) :
    (padded width n).toList =
      List.replicate (width - (Nat.toDigits 10 n).length) '0' ++ Nat.toDigits 10 n := by
  simp [padded, ← String.length_toList, Nat.toList_repr]

theorem padded_ne_nil (width n : Nat) : (padded width n).toList ≠ [] := by
  simp [padded_toList, Nat.toDigits_ne_nil]

theorem isDigit_padded {width n : Nat} : ∀ c ∈ (padded width n).toList, isDigit c = true := by
  intro c hc
  rw [padded_toList, List.mem_append] at hc
  rcases hc with hc | hc
  · obtain ⟨-, rfl⟩ := List.mem_replicate.mp hc
    rfl
  · exact isDigit_of_isDigit (Nat.isDigit_of_mem_toDigits (by decide) (by decide) hc)

theorem length_padded {width n : Nat} (hw : 0 < width) (hn : n < Nat.pow 10 width) :
    (padded width n).toList.length = width := by
  have := (Nat.length_toDigits_le_iff (by decide) hw).mpr hn
  rw [padded_toList, List.length_append, List.length_replicate]
  omega

theorem numeral_padded (width n : Nat) : numeral (padded width n).toList = n := by
  have zeros : ∀ k, numeral (List.replicate k '0') = 0 := by
    intro k
    induction k with
    | zero => rfl
    | succ k ih => exact ih
  have digits : numeral (Nat.toDigits 10 n) = n := by
    simpa [numeral, digitValue, Nat.ofDigitChars_eq_foldl, Nat.mul_comm] using
      @Nat.ofDigitChars_ten_toDigits n
  rw [padded_toList, numeral, List.foldl_append, ← numeral, zeros]
  exact digits

/-- The digits that a number of at most `width` of them is made of. -/
def counted (width : Option Nat) (s : List Char) : List Char :=
  match width with
  | some w => (s.takeWhile isDigit).take w
  | none => s.takeWhile isDigit

theorem number_cons (width : Option Nat) (c : Char) (s : List Char) :
    number width (c :: s) =
      if counted width (c :: s) = [] then .error .invalid
      else if 9223372036854775808 ≤ numeral (counted width (c :: s)) then .error .outOfRange
      else .ok (numeral (counted width (c :: s)),
        (c :: s).drop (counted width (c :: s)).length) := rfl

/-- The digits `ds` are counted and no more of the text: there are as many as may be, or what is
no digit follows them. -/
def Stops (width : Option Nat) (ds rest : List Char) : Prop :=
  width = some ds.length ∨
    (∀ c ∈ rest.head?, isDigit c = false) ∧ ∀ w ∈ width, ds.length ≤ w

theorem takeWhile_isDigit_eq_nil {rest : List Char} (h : ∀ c ∈ rest.head?, isDigit c = false) :
    rest.takeWhile isDigit = [] := by
  cases rest with
  | nil => rfl
  | cons c rest => simp [h c rfl]

theorem counted_append {width : Option Nat} {ds rest : List Char}
    (hd : ∀ c ∈ ds, isDigit c = true) (hs : Stops width ds rest) :
    counted width (ds ++ rest) = ds := by
  have all : (ds ++ rest).takeWhile isDigit = ds ++ rest.takeWhile isDigit :=
    List.takeWhile_append_of_pos hd
  rcases hs with rfl | ⟨hrest, hw⟩
  · rw [counted, all, List.take_left]
  · rw [takeWhile_isDigit_eq_nil hrest, List.append_nil] at all
    cases width with
    | none => rw [counted, all]
    | some w => rw [counted, all, List.take_of_length_le (hw w rfl)]

theorem number_padded {width : Option Nat} {w n : Nat} {rest : List Char}
    (hn : n < 9223372036854775808) (hs : Stops width (padded w n).toList rest) :
    number width ((padded w n).toList ++ rest) = .ok (n, rest) := by
  have digits := counted_append isDigit_padded hs
  have value := numeral_padded w n
  obtain ⟨c, s, h⟩ := List.exists_cons_of_ne_nil (padded_ne_nil w n)
  rw [h] at digits value ⊢
  rw [List.cons_append] at digits ⊢
  rw [number_cons, digits, value, if_neg (List.cons_ne_nil c s), if_neg (Nat.not_le.mpr hn),
    ← List.cons_append, List.drop_left]

theorem trimStart_cons {c : Char} (s : List Char) (h : Blank.contains c = false) :
    Blank.trimStart (c :: s) = c :: s := by
  simp [Blank.trimStart, h]

theorem contains_of_isDigit {c : Char} (h : isDigit c = true) : Blank.contains c = false := by
  have bounds : 48 ≤ c.toNat ∧ c.toNat ≤ 57 := by
    simpa [isDigit, Char.le_def, UInt32.le_iff_toNat_le] using h
  simp only [Blank.contains, Bool.or_eq_false_iff, Bool.and_eq_false_iff, decide_eq_false_iff_not]
  omega

theorem trimStart_padded (w n : Nat) (rest : List Char) :
    Blank.trimStart ((padded w n).toList ++ rest) = (padded w n).toList ++ rest := by
  obtain ⟨c, s, h⟩ := List.exists_cons_of_ne_nil (padded_ne_nil w n)
  rw [h, List.cons_append]
  exact trimStart_cons _ (contains_of_isDigit (isDigit_padded c (h ▸ List.mem_cons_self)))

theorem separator_self {c : Char} (rest : List Char) (h : Blank.contains c = false) :
    separator c (c :: rest) = .ok rest := by
  simp [separator, trimStart_cons rest h]

theorem part_padded {low high n : Nat} (rest : List Char) (hn : n < 100) (hlow : low ≤ n)
    (hhigh : n ≤ high) : part low high ((padded 2 n).toList ++ rest) = .ok (n, rest) := by
  have value : number (some 2) ((padded 2 n).toList ++ rest) = .ok (n, rest) :=
    number_padded (by omega) (.inl (by rw [length_padded (by decide) hn]))
  rw [part, trimStart_padded, value]
  simp [bind, Except.bind, hlow, hhigh]

theorem yearPart_minus {n : Nat} {s rest : List Char} (h : number none s = .ok (n, rest))
    (hn : n ≤ 2147483648) : yearPart ('-' :: s) = .ok (-(n : Int), rest) := by
  have range : -2147483648 ≤ -(n : Int) ∧ -(n : Int) ≤ 2147483647 := by omega
  simp [yearPart, trimStart_cons s (show Blank.contains '-' = false by decide), h, bind,
    Except.bind, Functor.map, Except.map, range]

theorem yearPart_plus {n : Nat} {s rest : List Char} (h : number none s = .ok (n, rest))
    (hn : n ≤ 2147483647) : yearPart ('+' :: s) = .ok ((n : Int), rest) := by
  have range : -2147483648 ≤ (n : Int) ∧ (n : Int) ≤ 2147483647 := by omega
  simp [yearPart, trimStart_cons s (show Blank.contains '+' = false by decide), h, bind,
    Except.bind, Functor.map, Except.map, range]

theorem yearPart_unsigned {n : Nat} {c : Char} {s rest : List Char} (hc : isDigit c = true)
    (h : number (some 4) (c :: s) = .ok (n, rest)) (hn : n ≤ 2147483647) :
    yearPart (c :: s) = .ok ((n : Int), rest) := by
  have range : -2147483648 ≤ (n : Int) ∧ (n : Int) ≤ 2147483647 := by omega
  have minus : c ≠ '-' := by rintro rfl; exact absurd hc (by decide)
  have plus : c ≠ '+' := by rintro rfl; exact absurd hc (by decide)
  simp [yearPart, trimStart_cons s (contains_of_isDigit hc), h, minus, plus, bind, Except.bind,
    Functor.map, Except.map, range]

theorem yearPart_yearText {year : Int} (rest : List Char) (hlow : Civil.firstYear ≤ year)
    (hhigh : year ≤ Civil.lastYear) :
    yearPart ((yearText year).toList ++ '-' :: rest) = .ok (year, '-' :: rest) := by
  simp only [Civil.firstYear, Civil.lastYear] at hlow hhigh
  unfold yearText
  split
  case isTrue h =>
    have four : year.toNat < 10000 := by omega
    have value : number (some 4) ((padded 4 year.toNat).toList ++ '-' :: rest) =
        .ok (year.toNat, '-' :: rest) :=
      number_padded (by omega) (.inl (by rw [length_padded (by decide) four]))
    obtain ⟨c, s, hs⟩ := List.exists_cons_of_ne_nil (padded_ne_nil 4 year.toNat)
    have hc : isDigit c = true := isDigit_padded c (hs ▸ List.mem_cons_self)
    rw [hs, List.cons_append] at value ⊢
    rw [yearPart_unsigned hc value (by omega), Int.toNat_of_nonneg h.1]
  case isFalse h =>
    have value : number none ((padded 4 year.natAbs).toList ++ '-' :: rest) =
        .ok (year.natAbs, '-' :: rest) :=
      -- behind a sign only the dash ends a year
      number_padded (by omega) (.inr ⟨by simp [isDigit], by simp⟩)
    by_cases hneg : year < 0
    · rw [if_pos hneg, String.toList_append, List.append_assoc]
      rw [show "-".toList = ['-'] from rfl, List.singleton_append,
        yearPart_minus value (by omega), show -(year.natAbs : Int) = year by omega]
    · rw [if_neg hneg, String.toList_append, List.append_assoc]
      rw [show "+".toList = ['+'] from rfl, List.singleton_append,
        yearPart_plus value (by omega), show (year.natAbs : Int) = year by omega]

theorem fractionPart_digits {w n nanosecond : Nat} (rest : List Char) (hw : 0 < w) (hw' : w ≤ 9)
    (hn : n < Nat.pow 10 w) (value : n * Nat.pow 10 (9 - w) = nanosecond) :
    fractionPart (("." ++ padded w n).toList ++ 'Z' :: rest) = .ok (nanosecond, 'Z' :: rest) := by
  have length := length_padded hw hn
  have hz : isDigit 'Z' = false := by decide
  have small : n < 9223372036854775808 :=
    Nat.lt_of_lt_of_le hn (Nat.le_trans (Nat.pow_le_pow_right (by decide) hw') (by decide))
  have digits : number (some 9) ((padded w n).toList ++ 'Z' :: rest) = .ok (n, 'Z' :: rest) :=
    -- fewer than nine digits end at the offset
    number_padded small (.inr ⟨by simp [hz], by simp [length, hw']⟩)
  have all : ((padded w n).toList ++ 'Z' :: rest).takeWhile isDigit = (padded w n).toList := by
    rw [List.takeWhile_append_of_pos isDigit_padded, List.takeWhile_cons_of_neg (by simp [hz]),
      List.append_nil]
  rw [String.toList_append, List.append_assoc, show ".".toList = ['.'] from rfl,
    List.singleton_append]
  simp only [fractionPart, digits, all, bind, Except.bind, length, value]
  rw [List.drop_left' length]

theorem fractionPart_fraction {n : Nat} (rest : List Char) (h : n < 1000000000) :
    fractionPart ((fraction n).toList ++ 'Z' :: rest) = .ok (n, 'Z' :: rest) := by
  unfold fraction
  split
  case isTrue hz => subst hz; rfl
  split
  case isTrue hm =>
    have small : n / 1000000 < 1000 := by omega
    have value : n / 1000000 * 1000000 = n := by omega
    exact fractionPart_digits rest (by decide) (by decide) small value
  split
  case isTrue hu =>
    have small : n / 1000 < 1000000 := by omega
    have value : n / 1000 * 1000 = n := by omega
    exact fractionPart_digits rest (by decide) (by decide) small value
  case isFalse => exact fractionPart_digits rest (by decide) (by decide) h (Nat.mul_one n)

theorem daysInMonth_le (year : Int) (month : Nat) : daysInMonth year month ≤ 31 := by
  fun_cases daysInMonth year month <;> decide

theorem fields_text (t : Timestamp) : fields t.text.toList = .ok (t.toCivil, 0) := by
  obtain ⟨c, hyear, hyear', hmonth, hmonth', hday, hday', hhour, hminute, hsecond, hnano⟩ := t
  have hday31 : c.day ≤ 31 := Nat.le_trans hday' (daysInMonth_le c.year c.month)
  have dash : ∀ rest, separator '-' ('-' :: rest) = .ok rest := fun rest =>
    separator_self rest (by decide)
  have colon : ∀ rest, separator ':' (':' :: rest) = .ok rest := fun rest =>
    separator_self rest (by decide)
  simp only [text, dayAndTime, String.toList_append, List.append_assoc]
  simp only [show "-".toList = ['-'] from rfl, show "T".toList = ['T'] from rfl,
    show ":".toList = [':'] from rfl, show "Z".toList = ['Z'] from rfl, List.singleton_append]
  simp only [fields, bind, Except.bind, yearPart_yearText _ hyear hyear', dash, middle, colon,
    true_or, if_true,
    part_padded _ (Nat.lt_of_le_of_lt hmonth' (by decide)) hmonth hmonth',
    part_padded _ (Nat.lt_of_le_of_lt hday31 (by decide)) hday hday31,
    part_padded _ (Nat.lt_of_le_of_lt hhour (by decide)) (Nat.zero_le _) hhour,
    part_padded _ (Nat.lt_of_le_of_lt hminute (by decide)) (Nat.zero_le _) hminute,
    part_padded _ (Nat.lt_of_le_of_lt hsecond (by decide)) (Nat.zero_le _) hsecond,
    fractionPart_fraction [] hnano]
  rfl

/-- What is written of a moment is read as that moment. -/
theorem parse_text (t : Timestamp) : parse t.text = .ok t := by
  have valid : ¬(¬t.toCivil.Valid ∨ 1440 ≤ (0 : Int).natAbs) := by simp [t.valid]
  simp only [parse, fields_text, bind, Except.bind, resolve, if_neg valid, if_true, ofCivil?,
    dif_pos t.valid]

end ProfiledBuild.Timestamp
