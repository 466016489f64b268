import ProfiledBuild.Json.Printer
import ProfiledBuild.Json.Token

/-! The tokens that are printed are read back: strings of any characters, and whole numbers of at
most 64 bits. A number has no closing mark, so what follows it must not go on with it. -/

namespace ProfiledBuild.Json

theorem hexValue_hexDigit {n : Nat} (h : n < 16) : hexValue? (hexDigit n) = some n := by
  have all : ∀ n : Fin 16, hexValue? (hexDigit n) = some n.val := by decide
  exact all ⟨n, h⟩

theorem hexValue4_control {c : Char} (h : c.toNat < 0x20) :
    hexValue4? '0' '0' (hexDigit (c.toNat / 16)) (hexDigit (c.toNat % 16)) = some c.toNat := by
  have zero : hexValue? '0' = some 0 := by decide
  have high := hexValue_hexDigit (show c.toNat / 16 < 16 by omega)
  have low := hexValue_hexDigit (show c.toNat % 16 < 16 by omega)
  simp only [hexValue4?, zero, high, low, Option.bind_eq_bind, Option.bind_some, pure,
    Option.some.injEq]
  omega

theorem stringBody_short {c e : Char} (s : List Char) (hu : c ≠ 'u')
    (h : shortEscapes.lookup c = some e) :
    stringBody ('\\' :: c :: s) = (stringBody s).map (e :: ·) := by
  simp [stringBody, hu, h]

theorem stringBody_plain {c : Char} (s : List Char) (hq : c ≠ '"') (hb : c ≠ '\\')
    (h : ¬c.toNat < 0x20) : stringBody (c :: s) = (stringBody s).map (c :: ·) := by
  simp [stringBody, hb, h]

theorem stringBody_control {c : Char} (s : List Char) (h : c.toNat < 0x20) :
    stringBody ('\\' :: 'u' :: '0' :: '0' :: hexDigit (c.toNat / 16) ::
      hexDigit (c.toNat % 16) :: s) = (stringBody s).map (c :: ·) := by
  rw [stringBody, hexValue4_control h]
  simp only [show ¬(0xDC00 ≤ c.toNat ∧ c.toNat ≤ 0xDFFF) by omega,
    show ¬(0xD800 ≤ c.toNat ∧ c.toNat ≤ 0xDBFF) by omega, if_false, Char.ofNat_toNat]

theorem stringBody_escape (c : Char) (s : List Char) :
    stringBody (escape c ++ s) = (stringBody s).map (c :: ·) := by
  fun_cases escape c
  case case8 h => exact stringBody_control s h
  case case9 hq hb _ _ _ _ _ h => exact stringBody_plain s hq hb h
  all_goals
    rename_i h
    subst h
    exact stringBody_short s (by decide) (by decide)

theorem stringBody_flatMap_escape (cs rest : List Char) :
    stringBody (cs.flatMap escape ++ '"' :: rest) = .whole (.ok cs) rest := by
  induction cs with
  | nil => simp [stringBody]
  | cons c cs ih =>
    rw [List.flatMap_cons, List.append_assoc, stringBody_escape, ih]
    rfl

theorem stringText_toList (s : String) :
    (stringText s).toList = '"' :: (s.toList.flatMap escape ++ ['"']) := by
  simp [stringText]

/-- The front of a text that does not go on with a number. -/
def NumberEnds (rest : List Char) : Prop :=
  ∀ c ∈ rest.head?, digit? c = none ∧ c ≠ '.' ∧ c ≠ 'e' ∧ c ≠ 'E'

theorem digit?_of_isDigit {c : Char} (h : c.isDigit = true) :
    digit? c = some (c.toNat - '0'.toNat) := by
  have bounds : '0' ≤ c ∧ c ≤ '9' := by simpa [Char.isDigit, Char.le_def] using h
  simp [digit?, bounds]

theorem digits_append {ds rest : List Char} (hd : ∀ c ∈ ds, c.isDigit = true)
    (he : NumberEnds rest) :
    digits (ds ++ rest) = (ds.map fun c => c.toNat - '0'.toNat, rest) := by
  induction ds with
  | nil =>
    cases rest with
    | nil => rfl
    | cons c rest => simp [digits, (he c rfl).1]
  | cons d ds ih =>
    rw [List.cons_append, digits, digit?_of_isDigit (hd d (by simp)),
      ih fun c hc => hd c (by simp [hc])]
    rfl

/-- The number that some digits make after others that make `acc`. -/
abbrev gathered (acc : Nat) (ds : List Nat) : Nat := ds.foldl (fun n d => n * 10 + d) acc

theorem le_gathered (acc : Nat) (ds : List Nat) : acc ≤ gathered acc ds := by
  induction ds generalizing acc with
  | nil => exact Nat.le_refl _
  | cons d ds ih => exact Nat.le_trans (by omega) (ih (acc * 10 + d))

theorem gather_eq {limit acc : Nat} {ds : List Nat} (h : gathered acc ds ≤ limit) :
    gather limit acc ds = (gathered acc ds, 0) := by
  induction ds generalizing acc with
  | nil => rfl
  | cons d ds ih =>
    have hd : ¬limit < acc * 10 + d := Nat.not_lt.mpr (Nat.le_trans (le_gathered _ ds) h)
    rw [gather, if_neg hd, ih h]
    rfl

theorem gathered_toDigits (n : Nat) :
    gathered 0 ((Nat.toDigits 10 n).map fun c => c.toNat - '0'.toNat) = n := by
  rw [gathered, List.foldl_map]
  simpa [Nat.ofDigitChars_eq_foldl, Nat.mul_comm] using @Nat.ofDigitChars_ten_toDigits n

theorem toDigits_leading {n : Nat} (h : 0 < n) :
    ∃ c cs, Nat.toDigits 10 n = c :: cs ∧ c ≠ '0' := by
  induction n using Nat.strongRecOn with
  | ind n ih =>
    by_cases hn : n < 10
    · refine ⟨n.digitChar, [], Nat.toDigits_of_lt_base hn, ?_⟩
      simpa [Nat.digitChar_eq_zero] using Nat.pos_iff_ne_zero.mp h
    · obtain ⟨c, cs, hcs, hc⟩ := ih (n / 10) (by omega) (by omega)
      exact ⟨c, cs ++ [(n % 10).digitChar],
        by rw [Nat.toDigits_of_base_le (by decide) (by omega), hcs]; rfl, hc⟩

theorem afterWhole_ends {negative : Bool} {n : Nat} {rest : List Char} (h : NumberEnds rest) :
    afterWhole negative n 0 rest = .whole (.ok (wholeNumber negative n)) rest := by
  cases rest with
  | nil => rfl
  | cons c rest =>
    obtain ⟨-, hpoint, he, hE⟩ := h c rfl
    simp [afterWhole, hpoint, he, hE]

theorem unsignedNumber_toDigits (negative : Bool) {n : Nat} {rest : List Char}
    (hn : n ≤ maxSignificand) (he : NumberEnds rest) :
    unsignedNumber negative (Nat.toDigits 10 n ++ rest) =
      .whole (.ok (wholeNumber negative n)) rest := by
  have isDigit : ∀ c ∈ Nat.toDigits 10 n, c.isDigit = true := fun c =>
    Nat.isDigit_of_mem_toDigits (by decide) (by decide)
  have value := gathered_toDigits n
  rw [unsignedNumber, digits_append isDigit he]
  rcases Nat.eq_zero_or_pos n with rfl | hpos
  · exact afterWhole_ends he
  · obtain ⟨c, cs, hcs, hc⟩ := toDigits_leading hpos
    have leading : c.toNat - '0'.toNat ≠ 0 := by
      have lower : '0'.toNat ≤ c.toNat := by
        simpa [Char.isDigit] using (Char.isDigit_iff_toNat.mp (isDigit c (by simp [hcs]))).1
      have : c.toNat ≠ '0'.toNat := fun h => hc (Char.toNat_inj.mp h)
      omega
    rw [hcs, List.map_cons] at value ⊢
    obtain ⟨d, hd⟩ := Nat.exists_eq_succ_of_ne_zero leading
    rw [hd] at value ⊢
    have gathers := gather_eq (Nat.le_trans (Nat.le_of_eq value) hn)
    rw [value] at gathers
    simp only [gathers]
    exact afterWhole_ends he

end ProfiledBuild.Json
