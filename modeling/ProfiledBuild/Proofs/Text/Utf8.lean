import ProfiledBuild.Text.Utf8

/-! Octets that are text are read as that text and as no other. A code point is written as digits
of six bits each, behind a lead that tells how many they are. -/

namespace ProfiledBuild.Utf8

/-- The octets of a code point. The second digit keeps out what a shorter form could write, the
surrogates, and what is past U+10FFFF. -/
inductive Spelling (n : Nat) : Octets → Prop
  | one : n < 0x80 → Spelling n [UInt8.ofNat n]
  | two {a b : Nat} : n = a * 64 + b → 2 ≤ a → a < 32 → b < 64 →
      Spelling n [UInt8.ofNat (a + 0xC0), UInt8.ofNat (b + 0x80)]
  | three {a b c : Nat} : n = (a * 64 + b) * 64 + c → a < 16 → b < 64 → c < 64 →
      0x20 ≤ a * 64 + b → (a * 64 + b < 0x360 ∨ 0x380 ≤ a * 64 + b) →
      Spelling n [UInt8.ofNat (a + 0xE0), UInt8.ofNat (b + 0x80), UInt8.ofNat (c + 0x80)]
  | four {a b c d : Nat} : n = ((a * 64 + b) * 64 + c) * 64 + d → b < 64 → c < 64 → d < 64 →
      0x10 ≤ a * 64 + b → a * 64 + b < 0x110 →
      Spelling n [UInt8.ofNat (a + 0xF0), UInt8.ofNat (b + 0x80), UInt8.ofNat (c + 0x80),
        UInt8.ofNat (d + 0x80)]

theorem spelling_encodeChar (c : Char) : Spelling c.toNat (String.utf8EncodeChar c) := by
  have valid : c.toNat < 0xD800 ∨ 0xDFFF < c.toNat ∧ c.toNat < 0x110000 := c.valid
  rw [String.utf8EncodeChar, show c.val.toNat = c.toNat from rfl]
  generalize c.toNat = n at valid
  by_cases one : n ≤ 0x7F
  · rw [if_pos one]
    exact .one (by omega)
  by_cases two : n ≤ 0x7FF
  · rw [if_neg one, if_pos two]
    exact .two (by omega) (by omega) (by omega) (by omega)
  by_cases three : n ≤ 0xFFFF
  · rw [if_neg one, if_neg two, if_pos three]
    exact .three (by omega) (by omega) (by omega) (by omega) (by omega) (by omega)
  · rw [if_neg one, if_neg two, if_neg three]
    exact .four (by omega) (by omega) (by omega) (by omega) (by omega) (by omega)

theorem Spelling.encodeChar_eq {c : Char} {s : Octets} (h : Spelling c.toNat s) :
    String.utf8EncodeChar c = s := by
  rw [String.utf8EncodeChar, show c.val.toNat = c.toNat from rfl]
  generalize c.toNat = n at h
  cases h with
  | one h => rw [if_pos (by omega)]
  | @two a b hn ha ha' hb =>
    have lead : n / 64 % 32 = a := by omega
    have last : n % 64 = b := by omega
    rw [if_neg (by omega), if_pos (by omega), lead, last]
  | @three a b c hn ha hb hc hlow hgap =>
    have lead : n / 4096 % 16 = a := by omega
    have second : n / 64 % 64 = b := by omega
    have last : n % 64 = c := by omega
    rw [if_neg (by omega), if_neg (by omega), if_pos (by omega), lead, second, last]
  | @four a b c d hn hb hc hd hlow hhigh =>
    have lead : n / 262144 % 8 = a := by omega
    have second : n / 4096 % 64 = b := by omega
    have third : n / 64 % 64 = c := by omega
    have last : n % 64 = d := by omega
    rw [if_neg (by omega), if_neg (by omega), if_neg (by omega), lead, second, third, last]

theorem toNat_digit {d : Nat} (h : d < 64) : (UInt8.ofNat (d + 0x80)).toNat = d + 0x80 := by
  rw [UInt8.toNat_ofNat']
  omega

theorem toNat_lowBits (b : UInt8) : (b &&& 0x3F).toNat = b.toNat % 64 := by
  rw [UInt8.toNat_and]
  exact Nat.and_two_pow_sub_one_eq_mod b.toNat 6

/-- A digit in its range, and what it carries. -/
theorem digit_spec {low high : UInt8} {d : Nat} (hd : d < 64) (hlow : low.toNat ≤ d + 0x80)
    (hhigh : d + 0x80 ≤ high.toNat) :
    (low ≤ UInt8.ofNat (d + 0x80) ∧ UInt8.ofNat (d + 0x80) ≤ high) ∧
      (UInt8.ofNat (d + 0x80) &&& 0x3F).toNat = d := by
  rw [UInt8.le_iff_toNat_le, UInt8.le_iff_toNat_le, toNat_lowBits, toNat_digit hd]
  omega

theorem follow_last {low high : UInt8} {d : Nat} (bits : Nat) (s : Octets) (hd : d < 64)
    (hlow : low.toNat ≤ d + 0x80) (hhigh : d + 0x80 ≤ high.toNat) :
    follow low high 0 bits (UInt8.ofNat (d + 0x80) :: s) = (some (bits * 64 + d), s) := by
  obtain ⟨range, digit⟩ := digit_spec hd hlow hhigh
  simp only [follow, if_pos range, digit]

theorem follow_more {low high : UInt8} {d : Nat} (tails bits : Nat) (s : Octets) (hd : d < 64)
    (hlow : low.toNat ≤ d + 0x80) (hhigh : d + 0x80 ≤ high.toNat) :
    follow low high (tails + 1) bits (UInt8.ofNat (d + 0x80) :: s) =
      follow 0x80 0xBF tails (bits * 64 + d) s := by
  obtain ⟨range, digit⟩ := digit_spec hd hlow hhigh
  simp only [follow, if_pos range, digit]

theorem exists_digit {low high : UInt8} {tails bits n : Nat} {s rest : Octets}
    (h : follow low high tails bits s = (some n, rest)) (hlow : 0x80 ≤ low.toNat)
    (hhigh : high.toNat ≤ 0xBF) :
    ∃ d s', s = UInt8.ofNat (d + 0x80) :: s' ∧ d < 64 ∧ low.toNat ≤ d + 0x80 ∧
      d + 0x80 ≤ high.toNat := by
  cases s with
  | nil => simp [follow] at h
  | cons b s =>
    by_cases hb : low ≤ b ∧ b ≤ high
    · rw [UInt8.le_iff_toNat_le, UInt8.le_iff_toNat_le] at hb
      refine ⟨b.toNat - 0x80, s, ?_, by omega, by omega, by omega⟩
      rw [show b.toNat - 0x80 + 0x80 = b.toNat by omega, UInt8.ofNat_toNat]
    · simp [follow, hb] at h

theorem ofOctet?_two {a : Nat} (ha : 2 ≤ a) (ha' : a < 32) :
    Lead.ofOctet? (UInt8.ofNat (a + 0xC0)) = some ⟨0x80, 0xBF, 0, a⟩ := by
  have all : ∀ a : Fin 32, 2 ≤ a.val →
      Lead.ofOctet? (UInt8.ofNat (a.val + 0xC0)) = some ⟨0x80, 0xBF, 0, a.val⟩ := by decide
  exact all ⟨a, ha'⟩ ha

theorem ofOctet?_three {a : Nat} (ha : a < 16) :
    Lead.ofOctet? (UInt8.ofNat (a + 0xE0)) =
      some ⟨if a = 0 then 0xA0 else 0x80, if a = 0xD then 0x9F else 0xBF, 1, a⟩ := by
  have all : ∀ a : Fin 16, Lead.ofOctet? (UInt8.ofNat (a.val + 0xE0)) =
      some ⟨if a.val = 0 then 0xA0 else 0x80, if a.val = 0xD then 0x9F else 0xBF, 1, a.val⟩ := by
    decide
  exact all ⟨a, ha⟩

theorem ofOctet?_four {a : Nat} (ha : a < 5) :
    Lead.ofOctet? (UInt8.ofNat (a + 0xF0)) =
      some ⟨if a = 0 then 0x90 else 0x80, if a = 4 then 0x8F else 0xBF, 2, a⟩ := by
  have all : ∀ a : Fin 5, Lead.ofOctet? (UInt8.ofNat (a.val + 0xF0)) =
      some ⟨if a.val = 0 then 0x90 else 0x80, if a.val = 4 then 0x8F else 0xBF, 2, a.val⟩ := by
    decide
  exact all ⟨a, ha⟩

theorem range_of_ofOctet? {b : UInt8} {lead : Lead} (h : Lead.ofOctet? b = some lead) :
    0xC2 ≤ b.toNat ∧ b.toNat < 0xF5 := by
  have all : ∀ b : Fin 256, (Lead.ofOctet? (UInt8.ofNat b.val)).isSome = true →
      0xC2 ≤ b.val ∧ b.val < 0xF5 := by decide +kernel
  refine all ⟨b.toNat, b.toNat_lt⟩ ?_
  rw [UInt8.ofNat_toNat, h]
  rfl

/-- The narrowed range of the second of three digits leaves out short forms and surrogates. -/
theorem second_of_three_iff {a b : Nat} (ha : a < 16) (hb : b < 64) :
    (if a = 0 then 0xA0 else 0x80 : UInt8).toNat ≤ b + 0x80 ∧
        b + 0x80 ≤ (if a = 0xD then 0x9F else 0xBF : UInt8).toNat ↔
      0x20 ≤ a * 64 + b ∧ (a * 64 + b < 0x360 ∨ 0x380 ≤ a * 64 + b) := by
  rw [apply_ite UInt8.toNat, apply_ite UInt8.toNat]
  simp only [UInt8.reduceToNat]
  split <;> split <;> omega

theorem second_of_four_iff {a b : Nat} (ha : a < 5) (hb : b < 64) :
    (if a = 0 then 0x90 else 0x80 : UInt8).toNat ≤ b + 0x80 ∧
        b + 0x80 ≤ (if a = 4 then 0x8F else 0xBF : UInt8).toNat ↔
      0x10 ≤ a * 64 + b ∧ a * 64 + b < 0x110 := by
  rw [apply_ite UInt8.toNat, apply_ite UInt8.toNat]
  simp only [UInt8.reduceToNat]
  split <;> split <;> omega

theorem tail_range {d : Nat} (h : d < 64) :
    (0x80 : UInt8).toNat ≤ d + 0x80 ∧ d + 0x80 ≤ (0xBF : UInt8).toNat := by
  simp only [UInt8.reduceToNat]
  omega

theorem step_of_lt {b : UInt8} (h : b < 0x80) (s : Octets) :
    step b s = (some (Char.ofNat b.toNat), s) :=
  if_pos h

theorem step_of_lead {n tails bits : Nat} {low high : UInt8} (s : Octets) (h : 0x80 ≤ n)
    (h' : n < 256) (hlead : Lead.ofOctet? (UInt8.ofNat n) = some ⟨low, high, tails, bits⟩) :
    step (UInt8.ofNat n) s =
      ((follow low high tails bits s).1.map Char.ofNat, (follow low high tails bits s).2) := by
  have high : ¬UInt8.ofNat n < 0x80 := by
    rw [UInt8.lt_iff_toNat_lt, UInt8.toNat_ofNat', Nat.mod_eq_of_lt h']
    exact Nat.not_lt.mpr h
  rw [step, if_neg high, hlead]

theorem step_of_spelling {n : Nat} {b : UInt8} {t : Octets} (h : Spelling n (b :: t))
    (s : Octets) : step b (t ++ s) = (some (Char.ofNat n), s) := by
  cases h with
  | one h =>
    have toNat : (UInt8.ofNat n).toNat = n := by
      rw [UInt8.toNat_ofNat']
      omega
    have plain : UInt8.ofNat n < 0x80 := by
      rw [UInt8.lt_iff_toNat_lt, toNat]
      exact h
    rw [step_of_lt plain, toNat]
    rfl
  | @two a b hn ha ha' hb =>
    rw [step_of_lead _ (by omega) (by omega) (ofOctet?_two ha ha'), List.cons_append,
      follow_last _ _ hb (tail_range hb).1 (tail_range hb).2, hn]
    rfl
  | @three a b c hn ha hb hc hlow hgap =>
    obtain ⟨low, high⟩ := (second_of_three_iff ha hb).mpr ⟨hlow, hgap⟩
    rw [step_of_lead _ (by omega) (by omega) (ofOctet?_three ha), List.cons_append,
      List.cons_append, follow_more _ _ _ hb low high,
      follow_last _ _ hc (tail_range hc).1 (tail_range hc).2, hn]
    rfl
  | @four a b c d hn hb hc hd hlow hhigh =>
    have ha : a < 5 := by omega
    obtain ⟨low, high⟩ := (second_of_four_iff ha hb).mpr ⟨hlow, hhigh⟩
    rw [step_of_lead _ (by omega) (by omega) (ofOctet?_four ha), List.cons_append,
      List.cons_append, List.cons_append, follow_more _ _ _ hb low high,
      follow_more _ _ _ hc (tail_range hc).1 (tail_range hc).2,
      follow_last _ _ hd (tail_range hd).1 (tail_range hd).2, hn]
    rfl

theorem toNat_ofNat_char {n : Nat} (h : n < 0xD800 ∨ 0xDFFF < n ∧ n < 0x110000) :
    (Char.ofNat n).toNat = n := by
  rw [Char.ofNat, dif_pos h]
  rfl

theorem follow_of_step {n tails bits : Nat} {low high : UInt8} {c : Char} {s rest : Octets}
    (h : 0x80 ≤ n) (h' : n < 256)
    (hlead : Lead.ofOctet? (UInt8.ofNat n) = some ⟨low, high, tails, bits⟩)
    (hs : step (UInt8.ofNat n) s = (some c, rest)) :
    ∃ code, follow low high tails bits s = (some code, rest) ∧ Char.ofNat code = c := by
  rw [step_of_lead s h h' hlead, Prod.mk.injEq, Option.map_eq_some_iff] at hs
  obtain ⟨⟨code, hcode, hc⟩, hrest⟩ := hs
  exact ⟨code, Prod.ext hcode hrest, hc⟩

theorem spelling_of_two {a : Nat} {c : Char} {s rest : Octets} (ha : 2 ≤ a) (ha' : a < 32)
    (h : step (UInt8.ofNat (a + 0xC0)) s = (some c, rest)) :
    ∃ t, s = t ++ rest ∧ Spelling c.toNat (UInt8.ofNat (a + 0xC0) :: t) := by
  obtain ⟨code, hcode, rfl⟩ := follow_of_step (by omega) (by omega) (ofOctet?_two ha ha') h
  obtain ⟨b, s, rfl, hb, low, high⟩ := exists_digit hcode (by decide) (by decide)
  rw [follow_last _ _ hb low high] at hcode
  cases hcode
  rw [toNat_ofNat_char (by omega)]
  exact ⟨_, rfl, .two rfl ha ha' hb⟩

theorem spelling_of_three {a : Nat} {c : Char} {s rest : Octets} (ha : a < 16)
    (h : step (UInt8.ofNat (a + 0xE0)) s = (some c, rest)) :
    ∃ t, s = t ++ rest ∧ Spelling c.toNat (UInt8.ofNat (a + 0xE0) :: t) := by
  obtain ⟨code, hcode, rfl⟩ := follow_of_step (by omega) (by omega) (ofOctet?_three ha) h
  obtain ⟨b, s, rfl, hb, low, high⟩ := exists_digit hcode (by split <;> decide)
    (by split <;> decide)
  obtain ⟨hlow, hgap⟩ := (second_of_three_iff ha hb).mp ⟨low, high⟩
  rw [follow_more _ _ _ hb low high] at hcode
  obtain ⟨d, s, rfl, hd, low, high⟩ := exists_digit hcode (by decide) (by decide)
  rw [follow_last _ _ hd low high] at hcode
  cases hcode
  rw [toNat_ofNat_char (by omega)]
  exact ⟨_, rfl, .three rfl ha hb hd hlow hgap⟩

theorem spelling_of_four {a : Nat} {c : Char} {s rest : Octets} (ha : a < 5)
    (h : step (UInt8.ofNat (a + 0xF0)) s = (some c, rest)) :
    ∃ t, s = t ++ rest ∧ Spelling c.toNat (UInt8.ofNat (a + 0xF0) :: t) := by
  obtain ⟨code, hcode, rfl⟩ := follow_of_step (by omega) (by omega) (ofOctet?_four ha) h
  obtain ⟨b, s, rfl, hb, low, high⟩ := exists_digit hcode (by split <;> decide)
    (by split <;> decide)
  obtain ⟨hlow, hhigh⟩ := (second_of_four_iff ha hb).mp ⟨low, high⟩
  rw [follow_more _ _ _ hb low high] at hcode
  obtain ⟨d, s, rfl, hd, low, high⟩ := exists_digit hcode (by decide) (by decide)
  rw [follow_more _ _ _ hd low high] at hcode
  obtain ⟨e, s, rfl, he, low, high⟩ := exists_digit hcode (by decide) (by decide)
  rw [follow_last _ _ he low high] at hcode
  cases hcode
  rw [toNat_ofNat_char (by omega)]
  exact ⟨_, rfl, .four rfl hb hd he hlow hhigh⟩

/-- What is read as a character is the spelling of that character. -/
theorem spelling_of_step {b : UInt8} {c : Char} {s rest : Octets}
    (h : step b s = (some c, rest)) :
    ∃ t, s = t ++ rest ∧ Spelling c.toNat (b :: t) := by
  by_cases plain : b < 0x80
  · rw [step_of_lt plain] at h
    cases h
    have small : b.toNat < 0x80 := UInt8.lt_iff_toNat_lt.mp plain
    have spelling := Spelling.one small
    rw [UInt8.ofNat_toNat] at spelling
    exact ⟨[], rfl, by rwa [toNat_ofNat_char (by omega)]⟩
  cases hlead : Lead.ofOctet? b with
  | none => simp [step, plain, hlead] at h
  | some lead =>
    obtain ⟨low, high⟩ := range_of_ofOctet? hlead
    have split {n a : Nat} (hn : b.toNat = n + a) : b = UInt8.ofNat (n + a) := by
      rw [← hn, UInt8.ofNat_toNat]
    by_cases two : b.toNat < 0xE0
    · rw [split (n := b.toNat - 0xC0) (a := 0xC0) (by omega)] at h ⊢
      exact spelling_of_two (by omega) (by omega) h
    by_cases three : b.toNat < 0xF0
    · rw [split (n := b.toNat - 0xE0) (a := 0xE0) (by omega)] at h ⊢
      exact spelling_of_three (by omega) h
    · rw [split (n := b.toNat - 0xF0) (a := 0xF0) (by omega)] at h ⊢
      exact spelling_of_four (by omega) h

theorem pieces_encodeChar_append (c : Char) (s : Octets) :
    pieces (String.utf8EncodeChar c ++ s) = .char c :: pieces s := by
  have spelling := spelling_encodeChar c
  cases hc : String.utf8EncodeChar c with
  | nil => exact absurd hc (String.utf8EncodeChar_ne_nil)
  | cons b t =>
    rw [hc] at spelling
    have first := step_of_spelling spelling s
    rw [Char.ofNat_toNat] at first
    rw [List.cons_append, pieces, first]

theorem pieces_flatMap (cs : List Char) :
    pieces (cs.flatMap String.utf8EncodeChar) = cs.map .char := by
  induction cs with
  | nil => simp [pieces]
  | cons c cs ih => rw [List.flatMap_cons, pieces_encodeChar_append, ih, List.map_cons]

theorem flatMap_of_pieces {cs : List Char} {s : Octets} (h : pieces s = cs.map .char) :
    cs.flatMap String.utf8EncodeChar = s := by
  induction cs generalizing s with
  | nil =>
    cases s with
    | nil => rfl
    | cons b s => simp [pieces] at h
  | cons c cs ih =>
    cases s with
    | nil => simp [pieces] at h
    | cons b s =>
      rw [pieces, List.map_cons, List.cons.injEq] at h
      obtain ⟨hfirst, hrest⟩ := h
      cases hstep : step b s with
      | mk char rest =>
        rw [hstep] at hfirst hrest
        cases char with
        | none => cases hfirst
        | some d =>
          cases hfirst
          obtain ⟨t, rfl, spelling⟩ := spelling_of_step hstep
          rw [List.flatMap_cons, spelling.encodeChar_eq, ih hrest, List.cons_append]

theorem mapM_char?_eq_some_iff {ps : List Piece} {cs : List Char} :
    ps.mapM Piece.char? = some cs ↔ ps = cs.map .char := by
  induction ps generalizing cs with
  | nil => cases cs <;> simp
  | cons p ps ih =>
    cases p with
    | broken s => cases cs <;> simp [List.mapM_cons, Piece.char?]
    | char c =>
      cases cs with
      | nil => simp [List.mapM_cons, Piece.char?, Option.bind_eq_some_iff]
      | cons d cs =>
        simp only [List.mapM_cons, Piece.char?, Option.bind_eq_bind, Option.bind_some, pure,
          Option.bind_eq_some_iff, ih, Option.some.injEq, List.cons.injEq, exists_eq_right_right,
          List.map_cons, Piece.char.injEq]
        exact and_comm

theorem encode_append (s t : String) : encode (s ++ t) = encode s ++ encode t := by
  rw [encode, String.toList_append, List.flatMap_append]
  rfl

@[simp] theorem lossy_encode (s : String) : lossy (encode s) = s := by
  rw [lossy, encode, pieces_flatMap, List.map_map]
  exact (congrArg String.ofList (List.map_id s.toList)).trans String.ofList_toList

/-- Octets are read as a text exactly when they are what is written for it. -/
theorem decode?_eq_some_iff {o : Octets} {s : String} : decode? o = some s ↔ encode s = o := by
  rw [decode?, Option.map_eq_some_iff, encode]
  constructor
  · rintro ⟨cs, hcs, rfl⟩
    rw [String.toList_ofList]
    exact flatMap_of_pieces (mapM_char?_eq_some_iff.mp hcs)
  · rintro rfl
    exact ⟨s.toList, mapM_char?_eq_some_iff.mpr (pieces_flatMap s.toList), String.ofList_toList⟩

@[simp] theorem decode?_encode (s : String) : decode? (encode s) = some s :=
  decode?_eq_some_iff.mpr rfl

theorem encode_injective : Function.Injective encode := by
  intro s t h
  have back := congrArg decode? h
  rwa [decode?_encode, decode?_encode, Option.some.injEq] at back

end ProfiledBuild.Utf8
