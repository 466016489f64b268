import Mathlib.Algebra.Order.Ring.Int
import Mathlib.Data.List.Chain
import Mathlib.Order.Compare
import ProfiledBuild.Host.Sort
import ProfiledBuild.Proofs.Text.Raw

/-! The orders that lines can be put in. Whatever keys and letters are given, lines are compared by
a total preorder. So what is sorted passes the check of its order, and of lines that are the same to
the order just one is left. -/

namespace ProfiledBuild.Tools

open Std

section

variable {α β : Type}

theorem transCmp_comap (cmp : β → β → Ordering) [TransCmp cmp] (f : α → β) :
    TransCmp fun a b => cmp (f a) (f b) where
  eq_swap := OrientedCmp.eq_swap
  isLE_trans := TransCmp.isLE_trans

theorem transCmp_then {cmp cmp' : α → α → Ordering} (h : TransCmp cmp) (h' : TransCmp cmp') :
    TransCmp fun a b => (cmp a b).then (cmp' a b) :=
  inferInstanceAs (TransCmp (compareLex cmp cmp'))

theorem transCmp_swap {cmp : α → α → Ordering} (h : TransCmp cmp) :
    TransCmp fun a b => (cmp a b).swap := by
  have hswap : (fun a b => (cmp a b).swap) = fun a b => cmp b a := by
    funext a b
    exact OrientedCmp.eq_swap.symm
  rw [hswap]
  exact TransCmp.opposite

theorem transCmp_eq : TransCmp fun _ _ : α => Ordering.eq where
  eq_swap := rfl
  isLE_trans _ _ := rfl

theorem transCmp_ite {p : Prop} [Decidable p] {cmp cmp' : α → α → Ordering} (h : TransCmp cmp)
    (h' : TransCmp cmp') : TransCmp fun a b => if p then cmp a b else cmp' a b := by
  by_cases hp : p
  · simp only [hp, if_true]
    exact h
  · simp only [hp, if_false]
    exact h'

end

theorem texts_eq (a b : Raw) :
    Comparison.texts a b = compare (a.map Char.toNat) (b.map Char.toNat) := by
  induction a generalizing b with
  | nil => cases b <;> rfl
  | cons c a ih =>
    cases b with
    | nil => rfl
    | cons d b => rw [Comparison.texts, ih, List.map_cons, List.map_cons, List.compare_cons_cons]

theorem transCmp_texts : TransCmp Comparison.texts := by
  rw [funext fun a => funext fun b => texts_eq a b]
  exact transCmp_comap compare (List.map Char.toNat)

/-- Numbers with different numbers of places are compared crosswise. -/
theorem Magnitude.isLE_compare_iff {a b : Magnitude} :
    (Magnitude.compare a b).isLE = true ↔
      a.digits * 10 ^ b.places ≤ b.digits * 10 ^ a.places := by
  rw [Magnitude.compare, Ordering.isLE_iff_ne_gt, ← ne_eq, compare_le_iff_le]
  simp

theorem transCmp_magnitude : TransCmp Magnitude.compare where
  eq_swap := by
    intro a b
    rw [Magnitude.compare, Magnitude.compare]
    exact OrientedCmp.eq_swap
  isLE_trans := by
    intro a b c hab hbc
    rw [Magnitude.isLE_compare_iff] at hab hbc ⊢
    have hpos (n : Nat) : (0 : Int) < 10 ^ n := pow_pos (by decide) n
    refine le_of_mul_le_mul_right ?_ (hpos b.places)
    calc a.digits * 10 ^ c.places * 10 ^ b.places
        = a.digits * 10 ^ b.places * 10 ^ c.places := Int.mul_right_comm ..
      _ ≤ b.digits * 10 ^ a.places * 10 ^ c.places :=
          mul_le_mul_of_nonneg_right hab (hpos c.places).le
      _ = b.digits * 10 ^ c.places * 10 ^ a.places := Int.mul_right_comm ..
      _ ≤ c.digits * 10 ^ b.places * 10 ^ a.places :=
          mul_le_mul_of_nonneg_right hbc (hpos a.places).le
      _ = c.digits * 10 ^ a.places * 10 ^ b.places := Int.mul_right_comm ..

/-- The sign and the unit of a number. -/
def sizeRank (text : Raw) : Int :=
  let m := Magnitude.ofText text
  let unit : Int := if m.digits = 0 then 0 else Magnitude.unit text + 1
  if m.digits < 0 then -unit else unit

theorem sizes_eq (a b : Raw) :
    Comparison.sizes a b = (Ord.compare (sizeRank a) (sizeRank b)).then
      ((Magnitude.ofText a).compare (Magnitude.ofText b)) := rfl

theorem transCmp_sizes : TransCmp Comparison.sizes := by
  rw [funext fun a => funext fun b => sizes_eq a b]
  have := transCmp_magnitude
  exact transCmp_then (transCmp_comap compare sizeRank)
    (transCmp_comap Magnitude.compare Magnitude.ofText)

/-- The text before the first digit. -/
def wordPart (text : Raw) : Raw := text.takeWhile fun c => !Raw.isDigit c

/-- The first number, and what follows it. -/
def numberPart (text : Raw) : Raw := (text.drop (wordPart text).length).takeWhile Raw.isDigit

def afterParts (text : Raw) : Raw :=
  (text.drop (wordPart text).length).drop (numberPart text).length

theorem versions_nil (fuel : Nat) : Comparison.versions fuel [] [] = .eq := by
  cases fuel with
  | zero => rfl
  | succ fuel => rw [Comparison.versions, if_pos ⟨rfl, rfl⟩]

/-- Texts that have come to an end go on with nothing. -/
theorem versions_succ (fuel : Nat) (a b : Raw) :
    Comparison.versions (fuel + 1) a b =
      ((Comparison.texts (wordPart a) (wordPart b)).then
        (compare ((Raw.number? (numberPart a)).getD 0) ((Raw.number? (numberPart b)).getD 0))).then
        (Comparison.versions fuel (afterParts a) (afterParts b)) := by
  by_cases hnil : a = [] ∧ b = []
  · obtain ⟨rfl, rfl⟩ := hnil
    rw [versions_nil, show afterParts [] = [] from rfl, versions_nil]
    rfl
  · rw [Comparison.versions, if_neg hnil]
    rfl

theorem transCmp_versions_fuel (fuel : Nat) : TransCmp (Comparison.versions fuel) := by
  induction fuel with
  | zero => exact transCmp_eq
  | succ fuel ih =>
    rw [funext fun a => funext fun b => versions_succ fuel a b]
    have := transCmp_texts
    exact transCmp_then (transCmp_then (transCmp_comap Comparison.texts wordPart)
      (transCmp_comap compare fun a => (Raw.number? (numberPart a)).getD 0))
      (transCmp_comap (Comparison.versions fuel) afterParts)

theorem length_afterParts_le (text : Raw) : (afterParts text).length ≤ text.length := by
  rw [afterParts, List.length_drop, List.length_drop]
  omega

/-- Every text but the empty one has a part. -/
theorem length_afterParts_lt {text : Raw} (hne : text ≠ []) :
    (afterParts text).length < text.length := by
  have hparts : 0 < (wordPart text).length + (numberPart text).length := by
    cases text with
    | nil => exact absurd rfl hne
    | cons c rest =>
      cases hc : Raw.isDigit c with
      | true => simp [wordPart, numberPart, hc]
      | false =>
        have hword : 0 < (wordPart (c :: rest)).length := by simp [wordPart, hc]
        omega
  have hpos := List.length_pos_iff.mpr hne
  rw [afterParts, List.length_drop, List.length_drop]
  omega

theorem versions_of_le {fuel fuel' : Nat} {a b : Raw} (hfuel : a.length + b.length < fuel)
    (hle : fuel ≤ fuel') : Comparison.versions fuel a b = Comparison.versions fuel' a b := by
  induction fuel generalizing fuel' a b with
  | zero => omega
  | succ fuel ih =>
    obtain ⟨fuel', rfl⟩ := Nat.exists_eq_add_one.mpr (Nat.zero_lt_of_lt hle)
    by_cases hnil : a = [] ∧ b = []
    · obtain ⟨rfl, rfl⟩ := hnil
      rw [versions_nil, versions_nil]
    · have hless : (afterParts a).length + (afterParts b).length < a.length + b.length := by
        have ha := length_afterParts_le a
        have hb := length_afterParts_le b
        rcases not_and_or.mp hnil with hne | hne <;> have hlt := length_afterParts_lt hne <;> omega
      rw [versions_succ, versions_succ, ih (by omega) (Nat.le_of_succ_le_succ hle)]

theorem transCmp_versions :
    TransCmp fun a b => Comparison.versions (a.length + b.length + 1) a b where
  eq_swap := by
    intro a b
    have := transCmp_versions_fuel (a.length + b.length + 1)
    rw [Nat.add_comm b.length a.length]
    exact OrientedCmp.eq_swap
  isLE_trans := by
    intro a b c hab hbc
    -- one bound for all three texts
    have := transCmp_versions_fuel (a.length + b.length + c.length + 1)
    rw [versions_of_le (Nat.lt_succ_self _) (by omega : _ ≤ a.length + b.length + c.length + 1)]
      at hab hbc ⊢
    exact TransCmp.isLE_trans hab hbc

theorem transCmp_comparison (c : Comparison) : TransCmp c.compare := by
  have := transCmp_magnitude
  have := transCmp_texts
  have horder := transCmp_ite (p := (c.has 'n' || c.has 'g') = true)
    (transCmp_comap Magnitude.compare Magnitude.ofText)
    (transCmp_ite (p := c.has 'h' = true) transCmp_sizes
      (transCmp_ite (p := c.has 'V' = true) transCmp_versions
        (transCmp_comap Comparison.texts c.view)))
  exact transCmp_ite (p := c.has 'r' = true) (transCmp_swap horder) horder

theorem transCmp_foldl (divider : Divider) (keys : List Key) {cmp : Raw → Raw → Ordering}
    (hcmp : TransCmp cmp) :
    TransCmp fun a b => keys.foldl (fun order k => order.then
      (k.comparison.compare (k.part divider a) (k.part divider b))) (cmp a b) := by
  induction keys generalizing cmp with
  | nil => exact hcmp
  | cons k keys ih =>
    have := transCmp_comparison k.comparison
    exact ih (transCmp_then hcmp (transCmp_comap k.comparison.compare (k.part divider)))

namespace LineOrder

theorem transCmp_byKeys (o : LineOrder) : TransCmp o.byKeys :=
  transCmp_ite (p := o.keys = []) (transCmp_comparison o.general)
    (transCmp_foldl o.divider o.keys transCmp_eq)

/-- Lines are in a total preorder. -/
theorem transCmp_compare (o : LineOrder) : TransCmp o.compare :=
  transCmp_then (transCmp_byKeys o) (transCmp_ite (p := o.stable = true) transCmp_eq
    (transCmp_ite (p := o.general.has 'r' = true) (transCmp_swap transCmp_texts) transCmp_texts))

def sorted (o : LineOrder) (lines : List Raw) : List Raw :=
  lines.mergeSort fun a b => o.compare a b ≠ .gt

variable (o : LineOrder) (lines : List Raw)

theorem pairwise_sorted : (o.sorted lines).Pairwise fun a b => (o.compare a b).isLE = true := by
  have := o.transCmp_compare
  have hle (a b : Raw) : decide (o.compare a b ≠ .gt) = (o.compare a b).isLE := by
    cases o.compare a b <;> rfl
  simp only [sorted, hle]
  refine List.pairwise_mergeSort (fun a b c => TransCmp.isLE_trans) (fun a b => ?_) lines
  have hswap : o.compare b a = (o.compare a b).swap := OrientedCmp.eq_swap
  rw [hswap]
  cases o.compare a b <;> rfl

theorem byKeys_le_of_compare {a b : Raw} (h : (o.compare a b).isLE = true) :
    (o.byKeys a b).isLE = true := by
  rcases Ordering.isLE_then_iff_or.mp h with hlt | ⟨heq, -⟩
  · rw [hlt]
    rfl
  · rw [heq]
    rfl

theorem distinct_sublist : (o.distinct lines).Sublist lines := by
  fun_induction o.distinct lines with
  | case1 a b rest heq ih => exact ih.trans (by simp)
  | case2 a b rest hne ih => exact ih.cons_cons a
  | case3 => exact List.Sublist.refl _

variable {o lines}

theorem pairwise_distinct (h : lines.Pairwise fun a b => (o.byKeys a b).isLE = true) :
    (o.distinct lines).Pairwise fun a b => o.byKeys a b = .lt := by
  have := o.transCmp_byKeys
  fun_induction o.distinct lines with
  | case1 a b rest heq ih => exact ih (h.sublist (by simp))
  | case2 a b rest hne ih =>
    obtain ⟨hfirst, hrest⟩ := List.pairwise_cons.mp h
    refine List.pairwise_cons.mpr ⟨fun c hc => ?_, ih hrest⟩
    have hlt : o.byKeys a b = .lt := by
      have hle := hfirst b List.mem_cons_self
      cases horder : o.byKeys a b with
      | lt => rfl
      | eq => exact absurd horder hne
      | gt => simp [horder] at hle
    rcases List.mem_cons.mp ((distinct_sublist o (b :: rest)).subset hc) with rfl | hc
    · exact hlt
    · exact TransCmp.lt_of_lt_of_isLE hlt (List.rel_of_pairwise_cons hrest hc)
  | case3 lines hshort =>
    match lines with
    | [] => exact .nil
    | [a] => exact List.pairwise_singleton _ a
    | a :: b :: rest => exact absurd rfl (hshort a b rest)

/-- Of lines that are the same to the order one is left. -/
theorem exists_mem_distinct : ∀ a ∈ lines, ∃ b ∈ o.distinct lines, o.byKeys a b = .eq := by
  have := o.transCmp_byKeys
  fun_induction o.distinct lines with
  | case1 x y rest heq ih =>
    intro a ha
    rcases List.mem_cons.mp ha with rfl | ha
    · exact ih a List.mem_cons_self
    · rcases List.mem_cons.mp ha with rfl | ha
      · obtain ⟨b, hb, hsame⟩ := ih x List.mem_cons_self
        exact ⟨b, hb, TransCmp.eq_trans (OrientedCmp.eq_symm heq) hsame⟩
      · exact ih a (List.mem_cons_of_mem x ha)
  | case2 x y rest hne ih =>
    intro a ha
    rcases List.mem_cons.mp ha with rfl | ha
    · exact ⟨a, List.mem_cons_self, ReflCmp.compare_self⟩
    · obtain ⟨b, hb, hsame⟩ := ih a ha
      exact ⟨b, List.mem_cons_of_mem x hb, hsame⟩
  | case3 => exact fun a ha => ⟨a, ha, ReflCmp.compare_self⟩

end LineOrder

/-- Lines in a row pass the check if each of them may stand before the next one. -/
theorem firstDisorder_eq_none {o : LineOrder} {unique : Bool} {lines : List Raw}
    (h : lines.IsChain fun a b =>
      if unique then o.byKeys a b = .lt else (o.compare a b).isLE = true) (n : Nat) :
    firstDisorder o unique n lines = none := by
  fun_induction firstDisorder o unique n lines with
  | case1 n a b rest order hbad =>
    have hnext := (List.isChain_cons_cons.mp h).1
    cases unique <;> simp_all [order]
  | case2 n a b rest order hgood ih => exact ih (List.isChain_cons_cons.mp h).2
  | case3 => rfl

/-- What has been sorted passes the check. -/
theorem firstDisorder_sorted (o : LineOrder) (lines : List Raw) (n : Nat) :
    firstDisorder o false n (o.sorted lines) = none := by
  refine firstDisorder_eq_none (List.Pairwise.isChain ?_) n
  simpa only [Bool.false_eq_true, if_false] using o.pairwise_sorted lines

theorem firstDisorder_distinct (o : LineOrder) (lines : List Raw) (n : Nat) :
    firstDisorder o true n (o.distinct (o.sorted lines)) = none := by
  have hsorted := (o.pairwise_sorted lines).imp fun h => o.byKeys_le_of_compare h
  refine firstDisorder_eq_none (List.Pairwise.isChain ?_) n
  simpa only [if_true] using LineOrder.pairwise_distinct hsorted

end ProfiledBuild.Tools
