import ProfiledBuild.Proofs.Text.Regex
import ProfiledBuild.Shell.Names

/-! What file name patterns match, and what is taken off a value by one. -/

namespace ProfiledBuild.Pattern

open Regex

/-- Names that a pattern matches. -/
inductive Names : List (Char × Bool) → Raw → Prop where
  | nil : Names [] []
  | quoted (c : Char) {s : List (Char × Bool)} {name : Raw} (hs : Names s name) :
      Names ((c, true) :: s) (c :: name)
  | plain {c : Char} (hc : c ∉ ['*', '?', '[']) {s : List (Char × Bool)} {name : Raw}
      (hs : Names s name) : Names ((c, false) :: s) (c :: name)
  | question (d : Char) {s : List (Char × Bool)} {name : Raw} (hs : Names s name) :
      Names (('?', false) :: s) (d :: name)
  | star (any : Raw) {s : List (Char × Bool)} {name : Raw} (hs : Names s name) :
      Names (('*', false) :: s) (any ++ name)
  | bracket {s : List (Char × Bool)} {set : CharSet} {rest : Raw}
      (hset : Bracket.read ['!'] (s.map (·.1)) = some (set, rest)) {d : Char}
      (hd : set.contains d = true) {name : Raw}
      (hs : Names (s.drop (s.length - rest.length)) name) : Names (('[', false) :: s) (d :: name)
  | unclosed {s : List (Char × Bool)} (hnone : Bracket.read ['!'] (s.map (·.1)) = none) {name : Raw}
      (hs : Names s name) : Names (('[', false) :: s) ('[' :: name)

/-- A way goes on from a place to the end of its text. -/
def Goes (way : List Regex) (before : Option Char) (name : Raw) : Prop :=
  ∃ last, WayMatches way ⟨before, name⟩ ⟨last, []⟩

section

variable {way : List Regex} {before : Option Char} {name : Raw}

theorem goes_nil_iff : Goes [] before name ↔ name = [] := by
  simp only [Goes, wayMatches_nil_iff, Point.mk.injEq]
  constructor
  · rintro ⟨_, -, hname⟩
    exact hname.symm
  · rintro rfl
    exact ⟨before, rfl, rfl⟩

theorem goes_chars_iff {set : CharSet} :
    Goes (.chars set :: way) before name ↔
      ∃ d rest, name = d :: rest ∧ set.contains d = true ∧ Goes way (some d) rest := by
  simp only [Goes, wayMatches_chars_iff]
  constructor
  · rintro ⟨last, d, rest, hname, hd, hway⟩
    exact ⟨d, rest, hname, hd, last, hway⟩
  · rintro ⟨d, rest, hname, hd, last, hway⟩
    exact ⟨last, d, rest, hname, hd, hway⟩

theorem goes_single_iff {c : Char} :
    Goes (.chars (.single c) :: way) before name ↔
      ∃ rest, name = c :: rest ∧ Goes way (some c) rest := by
  simp only [goes_chars_iff, CharSet.contains_single]
  constructor
  · rintro ⟨_, rest, hname, rfl, hway⟩
    exact ⟨rest, hname, hway⟩
  · rintro ⟨rest, hname, hway⟩
    exact ⟨c, rest, hname, rfl, hway⟩

theorem goes_loop_iff :
    Goes (.loop true any :: way) before name ↔
      Goes way before name ∨ ∃ d rest, name = d :: rest ∧
        Goes (.loop true any :: way) (some d) rest := by
  have hmore : Goes (any :: .loop true any :: way) before name ↔
      ∃ d rest, name = d :: rest ∧ Goes (.loop true any :: way) (some d) rest := by
    rw [any, goes_chars_iff]
    simp only [CharSet.contains_all, true_and]
  rw [← hmore]
  simp only [Goes, wayMatches_loop_iff, exists_or]

/-- A way behind a star goes on somewhere in the rest of the name. -/
theorem exists_goes_of_loop (hgoes : Goes (.loop true any :: way) before name) :
    ∃ front rest before', name = front ++ rest ∧ Goes way before' rest := by
  induction name generalizing before with
  | nil =>
    rcases goes_loop_iff.mp hgoes with hway | ⟨d, rest, hname, -⟩
    · exact ⟨[], [], before, rfl, hway⟩
    · cases hname
  | cons c name ih =>
    rcases goes_loop_iff.mp hgoes with hway | ⟨d, rest, hname, hmore⟩
    · exact ⟨[], c :: name, before, rfl, hway⟩
    · cases hname
      obtain ⟨front, rest, before', rfl, hway⟩ := ih hmore
      exact ⟨c :: front, rest, before', rfl, hway⟩

theorem goes_loop_of_forall {rest : Raw} (front : Raw) (hgoes : ∀ before, Goes way before rest)
    (before : Option Char) : Goes (.loop true any :: way) before (front ++ rest) := by
  induction front generalizing before with
  | nil => exact goes_loop_iff.mpr (.inl (hgoes before))
  | cons c front ih => exact goes_loop_iff.mpr (.inr ⟨c, front ++ rest, rfl, ih (some c)⟩)

end

section

variable {fuel : Nat} {c : Char} {s : List (Char × Bool)}

theorem nameParts_nil (fuel : Nat) : nameParts fuel [] = [] := by
  cases fuel <;> rfl

theorem nameParts_plain (hc : c ∉ ['*', '?', '[']) :
    nameParts (fuel + 1) ((c, false) :: s) = .chars (.single c) :: nameParts fuel s := by
  simp only [List.mem_cons, List.not_mem_nil, or_false, not_or] at hc
  simp [nameParts, hc]

theorem nameParts_star :
    nameParts (fuel + 1) (('*', false) :: s) = .loop true any :: nameParts fuel s := rfl

theorem nameParts_question :
    nameParts (fuel + 1) (('?', false) :: s) = .chars .all :: nameParts fuel s := rfl

theorem nameParts_bracket {set : CharSet} {rest : Raw}
    (hset : Bracket.read ['!'] (s.map (·.1)) = some (set, rest)) :
    nameParts (fuel + 1) (('[', false) :: s) =
      .chars set :: nameParts fuel (s.drop (s.length - rest.length)) := by
  simp [nameParts, hset]

theorem nameParts_unclosed (hnone : Bracket.read ['!'] (s.map (·.1)) = none) :
    nameParts (fuel + 1) (('[', false) :: s) = .chars (.single '[') :: nameParts fuel s := by
  simp [nameParts, hnone]

end

theorem names_of_goes {fuel : Nat} {s : List (Char × Bool)} (hfuel : s.length ≤ fuel)
    {before : Option Char} {name : Raw} (hgoes : Goes (nameParts fuel s) before name) :
    Names s name := by
  induction fuel generalizing s before name with
  | zero =>
    obtain rfl := List.length_eq_zero_iff.mp (Nat.le_zero.mp hfuel)
    obtain rfl := goes_nil_iff.mp hgoes
    exact .nil
  | succ fuel ih =>
    match s with
    | [] =>
      obtain rfl := goes_nil_iff.mp hgoes
      exact .nil
    | (c, true) :: s =>
      obtain ⟨rest, rfl, hrest⟩ := goes_single_iff.mp hgoes
      exact .quoted c (ih (Nat.le_of_succ_le_succ hfuel) hrest)
    | (c, false) :: s =>
      have hlength : s.length ≤ fuel := Nat.le_of_succ_le_succ hfuel
      by_cases hc : c ∈ ['*', '?', '[']
      · simp only [List.mem_cons, List.not_mem_nil, or_false] at hc
        rcases hc with rfl | rfl | rfl
        · obtain ⟨front, rest, _, rfl, hrest⟩ := exists_goes_of_loop hgoes
          exact .star front (ih hlength hrest)
        · obtain ⟨d, rest, rfl, -, hrest⟩ := goes_chars_iff.mp hgoes
          exact .question d (ih hlength hrest)
        · cases hset : Bracket.read ['!'] (s.map (·.1)) with
          | some found =>
            obtain ⟨set, after⟩ := found
            rw [nameParts_bracket hset] at hgoes
            obtain ⟨d, rest, rfl, hd, hrest⟩ := goes_chars_iff.mp hgoes
            have hless : (s.drop (s.length - after.length)).length ≤ fuel := by
              rw [List.length_drop]
              omega
            exact .bracket hset hd (ih hless hrest)
          | none =>
            rw [nameParts_unclosed hset] at hgoes
            obtain ⟨rest, rfl, hrest⟩ := goes_single_iff.mp hgoes
            exact .unclosed hset (ih hlength hrest)
      · rw [nameParts_plain hc] at hgoes
        obtain ⟨rest, rfl, hrest⟩ := goes_single_iff.mp hgoes
        exact .plain hc (ih hlength hrest)

theorem exists_fuel {item : Char × Bool} {s : List (Char × Bool)} {fuel : Nat}
    (hfuel : (item :: s).length ≤ fuel) : ∃ k, fuel = k + 1 ∧ s.length ≤ k := by
  rw [List.length_cons] at hfuel
  exact ⟨fuel - 1, by omega, by omega⟩

theorem goes_of_names {s : List (Char × Bool)} {name : Raw} (hnames : Names s name) {fuel : Nat}
    (hfuel : s.length ≤ fuel) (before : Option Char) : Goes (nameParts fuel s) before name := by
  induction hnames generalizing fuel before with
  | nil =>
    rw [nameParts_nil]
    exact goes_nil_iff.mpr rfl
  | quoted c _ ih =>
    obtain ⟨fuel, rfl, hrest⟩ := exists_fuel hfuel
    exact goes_single_iff.mpr ⟨_, rfl, ih hrest _⟩
  | plain hc _ ih =>
    obtain ⟨fuel, rfl, hrest⟩ := exists_fuel hfuel
    rw [nameParts_plain hc]
    exact goes_single_iff.mpr ⟨_, rfl, ih hrest _⟩
  | question d _ ih =>
    obtain ⟨fuel, rfl, hrest⟩ := exists_fuel hfuel
    rw [nameParts_question]
    exact goes_chars_iff.mpr ⟨d, _, rfl, CharSet.contains_all d, ih hrest _⟩
  | star front _ ih =>
    obtain ⟨fuel, rfl, hrest⟩ := exists_fuel hfuel
    rw [nameParts_star]
    exact goes_loop_of_forall front (ih hrest) before
  | @bracket s set rest hset d hd name _ ih =>
    obtain ⟨fuel, rfl, hrest⟩ := exists_fuel hfuel
    have hless : (s.drop (s.length - rest.length)).length ≤ fuel := by
      rw [List.length_drop]
      omega
    rw [nameParts_bracket hset]
    exact goes_chars_iff.mpr ⟨d, _, rfl, hd, ih hless _⟩
  | unclosed hnone _ ih =>
    obtain ⟨fuel, rfl, hrest⟩ := exists_fuel hfuel
    rw [nameParts_unclosed hnone]
    exact goes_single_iff.mpr ⟨_, rfl, ih hrest _⟩

/-- The search finds a pattern in those names that it matches. -/
theorem matchesName_iff {s : List (Char × Bool)} {name : Raw} :
    matchesName s name = true ↔ Names s name := by
  rw [matchesName, matchesWhole_iff]
  simp only [matches_concat_iff]
  exact ⟨names_of_goes (Nat.le_refl _), fun hnames => goes_of_names hnames (Nat.le_refl _) none⟩

theorem isSpecial_cons {c : Char} {q : Bool} {s : List (Char × Bool)} :
    isSpecial ((c, q) :: s) = false ↔ (q = false → c ∉ ['*', '?', '[']) ∧ isSpecial s = false := by
  cases q <;> simp [isSpecial, and_assoc]

/-- Without special characters a pattern matches one name, which is its own text. -/
theorem matchesName_of_not_isSpecial {s : List (Char × Bool)} (hs : isSpecial s = false)
    {name : Raw} : matchesName s name = true ↔ name = s.map (·.1) := by
  rw [matchesName_iff]
  induction s generalizing name with
  | nil =>
    constructor
    · rintro ⟨⟩
      rfl
    · rintro rfl
      exact .nil
  | cons item s ih =>
    obtain ⟨c, q⟩ := item
    obtain ⟨hc, hrest⟩ := isSpecial_cons.mp hs
    rw [List.map_cons]
    constructor
    · intro hnames
      cases hnames with
      | quoted _ hname | plain _ hname => rw [(ih hrest).mp hname]
      | question | star | bracket | unclosed => exact absurd (hc rfl) (by decide)
    · rintro rfl
      have hname := (ih hrest).mpr rfl
      cases q with
      | true => exact .quoted c hname
      | false => exact .plain (hc rfl) hname

end ProfiledBuild.Pattern

namespace ProfiledBuild.Shell

open Pattern

/-- A value in two: what is kept, and what is cut off at its end or at its front. -/
def IsCut (atEnd : Bool) (value kept cut : Raw) : Prop :=
  value = if atEnd then kept ++ cut else cut ++ kept

theorem rel_of_find? {r : Nat → Nat → Prop} {p : Nat → Bool} {l : List Nat} {n m : Nat}
    (hl : l.Pairwise r) (hfind : l.find? p = some n) (hm : m ∈ l) (hp : p m = true) :
    m = n ∨ r n m := by
  obtain ⟨-, before, after, rfl, hbefore⟩ := List.find?_eq_some_iff_append.mp hfind
  rcases List.mem_append.mp hm with hm | hm
  · exact absurd hp (by simpa using hbefore m hm)
  · rcases List.mem_cons.mp hm with rfl | hm
    · exact .inl rfl
    · exact .inr (List.rel_of_pairwise_cons (List.pairwise_append.mp hl).2.1 hm)

/-- The lengths of what may be cut off, in the order in which they are tried. -/
def cutLengths (longest : Bool) (n : Nat) : List Nat :=
  if longest then (List.range (n + 1)).reverse else List.range (n + 1)

theorem mem_cutLengths {longest : Bool} {n m : Nat} : m ∈ cutLengths longest n ↔ m ≤ n := by
  rw [cutLengths]
  split
  · rw [List.mem_reverse, List.mem_range, Nat.lt_add_one_iff]
  · rw [List.mem_range, Nat.lt_add_one_iff]

theorem pairwise_cutLengths (longest : Bool) (n : Nat) :
    (cutLengths longest n).Pairwise fun a b => if longest then b ≤ a else a ≤ b := by
  cases longest with
  | true => exact List.pairwise_reverse.mpr (List.pairwise_le_range)
  | false => exact List.pairwise_le_range

def endPart (atEnd : Bool) (value : Raw) (n : Nat) : Raw :=
  if atEnd then value.drop (value.length - n) else value.take n

theorem IsCut.part {atEnd : Bool} {value kept cut : Raw} (hcut : IsCut atEnd value kept cut) :
    cut.length ≤ value.length ∧ endPart atEnd value cut.length = cut := by
  rw [IsCut] at hcut
  subst hcut
  cases atEnd <;> simp [endPart]

theorem trimmed_eq (atEnd longest : Bool) (pattern : Field) (value : Raw) :
    trimmed atEnd longest pattern value =
      ((cutLengths longest value.length).find? fun n =>
        matchesName pattern (endPart atEnd value n)).elim value fun n =>
          if atEnd then value.take (value.length - n) else value.drop n := by
  simp only [trimmed, cutLengths, endPart]
  split
  next hfind => rw [hfind, Option.elim_some]
  next hfind => rw [hfind, Option.elim_none]

/-- What is taken off a value matches the pattern, and nothing longer does, or nothing shorter. The
value is left as it is only if nothing at all could be taken off. -/
theorem trimmed_cases (atEnd longest : Bool) (pattern : Field) (value : Raw) :
    (trimmed atEnd longest pattern value = value ∧
      ∀ kept cut, IsCut atEnd value kept cut → ¬Names pattern cut) ∨
    ∃ cut, IsCut atEnd value (trimmed atEnd longest pattern value) cut ∧ Names pattern cut ∧
      ∀ kept' cut', IsCut atEnd value kept' cut' → Names pattern cut' →
        if longest then cut'.length ≤ cut.length else cut.length ≤ cut'.length := by
  rw [trimmed_eq]
  cases hfind : (cutLengths longest value.length).find? fun n =>
      matchesName pattern (endPart atEnd value n) with
  | none =>
    refine .inl ⟨rfl, fun kept cut hcut hnames => ?_⟩
    obtain ⟨hle, hpart⟩ := hcut.part
    refine List.find?_eq_none.mp hfind cut.length (mem_cutLengths.mpr hle) ?_
    rw [hpart]
    exact matchesName_iff.mpr hnames
  | some n =>
    have hn := mem_cutLengths.mp (List.mem_of_find?_eq_some hfind)
    have hmatch := List.find?_some hfind
    have hlength : (endPart atEnd value n).length = n := by
      rw [endPart]
      split <;> simp <;> omega
    refine .inr ⟨endPart atEnd value n, ?_, matchesName_iff.mp hmatch, ?_⟩
    · rw [IsCut, endPart]
      cases atEnd <;> simp
    · intro kept' cut' hcut hnames
      obtain ⟨hle, hpart⟩ := hcut.part
      have hmatch' : matchesName pattern (endPart atEnd value cut'.length) = true := by
        rw [hpart]
        exact matchesName_iff.mpr hnames
      rw [hlength]
      rcases rel_of_find? (pairwise_cutLengths longest value.length) hfind
        (mem_cutLengths.mpr hle) hmatch' with heq | hrel
      · cases longest <;> simp [heq]
      · exact hrel

end ProfiledBuild.Shell
