import Mathlib.Data.List.Basic
import Mathlib.Order.Basic
import ProfiledBuild.Text.LinePattern

/-! What the patterns of lines match. The places that a search comes to are ends of matches, and a
text that is looked for as it is is found in exactly those lines that have it. -/

namespace ProfiledBuild.LinePattern

/-- A match from one place to another. A group keeps what it has matched. -/
inductive Matches : LinePattern → Spot → Spot → Prop where
  | empty (s : Spot) : Matches .empty s s
  | chars {set : CharSet} {c : Char} {s t : Spot} (hnext : s.next? = some t)
      (hhead : s.rest.head? = some c) (hc : set.contains c = true) : Matches (.chars set) s t
  | boundary {b : Boundary} {s : Spot} (hb : b.holds s.place = true) : Matches (.boundary b) s s
  | cat {a b : LinePattern} {s t u : Spot} (ha : Matches a s t) (hb : Matches b t u) :
      Matches (.cat a b) s u
  | first {a b : LinePattern} {s t : Spot} (ha : Matches a s t) : Matches (.alt a b) s t
  | second {a b : LinePattern} {s t : Spot} (hb : Matches b s t) : Matches (.alt a b) s t
  | enough (a : LinePattern) (most : Option Nat) (s : Spot) : Matches (.repeated a 0 most) s s
  | round {a : LinePattern} {least : Nat} {most : Option Nat} {s t u : Spot}
      (hmost : most ≠ some 0) (ha : Matches a s t)
      (hmore : Matches (.repeated a (least - 1) (most.map (· - 1))) t u) :
      Matches (.repeated a least most) s u
  | group {a : LinePattern} {s t : Spot} (n : Nat) (ha : Matches a s t) :
      Matches (.group n a) s (t.keep n (Spot.text s t))
  | back {n : Nat} {s t : Spot} (ht : s.after? (s.group n) = some t) : Matches (.back n) s t

variable {exact : Bool} {s t : Spot}

theorem mem_of_mem_distinct {spots : List Spot} (ht : t ∈ distinct exact spots) : t ∈ spots := by
  have hfold (kept : List Spot) :
      t ∈ spots.foldl (fun kept s => if kept.any (isSame exact s) then kept else s :: kept) kept →
        t ∈ kept ∨ t ∈ spots := by
    clear ht
    induction spots generalizing kept with
    | nil => exact .inl
    | cons s rest ih =>
      intro ht
      rcases ih _ ht with hkept | hrest
      · dsimp only at hkept
        split at hkept
        · exact .inl hkept
        · rcases List.mem_cons.mp hkept with rfl | hkept
          · exact .inr List.mem_cons_self
          · exact .inl hkept
      · exact .inr (List.mem_cons_of_mem _ hrest)
  exact (hfold [] (List.mem_reverse.mp ht)).resolve_left List.not_mem_nil

theorem mem_of_mem_ordered {spots : List Spot} (ht : t ∈ ordered exact spots) : t ∈ spots := by
  unfold ordered at ht
  split at ht
  · exact ht
  · exact ht
  · exact List.mem_mergeSort.mp (mem_of_mem_distinct ht)

theorem distinct_ne_nil {spots : List Spot} (hspots : spots ≠ []) : distinct exact spots ≠ [] := by
  have hfold (spots kept : List Spot) (hkept : kept ≠ []) :
      spots.foldl (fun kept s => if kept.any (isSame exact s) then kept else s :: kept) kept ≠
        [] := by
    induction spots generalizing kept with
    | nil => exact hkept
    | cons s rest ih =>
      refine ih _ ?_
      dsimp only
      split
      · exact hkept
      · exact List.cons_ne_nil s kept
  rw [distinct, ne_eq, List.reverse_eq_nil_iff]
  cases spots with
  | nil => exact absurd rfl hspots
  | cons s rest => exact hfold rest [s] (List.cons_ne_nil s [])

theorem ordered_ne_nil {spots : List Spot} (hspots : spots ≠ []) : ordered exact spots ≠ [] := by
  unfold ordered
  split
  · exact hspots
  · exact hspots
  · refine distinct_ne_nil fun hnil => hspots ?_
    rw [← List.length_eq_zero_iff, ← List.length_mergeSort, hnil, List.length_nil]

theorem passed_of_next? (hnext : s.next? = some t) : t.passed = s.passed + 1 := by
  unfold Spot.next? at hnext
  split at hnext <;> cases hnext
  rfl

theorem runs_sound {set : CharSet} {fuel : Nat} {most : Option Nat} {met : List Spot}
    (ht : t ∈ runs set fuel most met s) :
    t ∈ met ∨ ∃ n, t.passed = s.passed + n ∧
      ∀ least ≤ n, Matches (.repeated (.chars set) least most) s t := by
  induction fuel generalizing most met s with
  | zero => exact .inl ht
  | succ fuel ih =>
    rw [runs] at ht
    split at ht
    · exact .inl ht
    · next hmost =>
      split at ht
      next t' c rest hnext hrest =>
        split at ht
        next hc =>
          have hhead : s.rest.head? = some c := by rw [hrest, List.head?_cons]
          have hfirst : Matches (.chars set) s t' := .chars hnext hhead hc
          have hpassed := passed_of_next? hnext
          rcases ih ht with hmet | ⟨n, hn, hmatches⟩
          · rcases List.mem_cons.mp hmet with rfl | hmet
            · refine .inr ⟨1, hpassed, fun least hleast => .round hmost hfirst ?_⟩
              rw [Nat.sub_eq_zero_of_le hleast]
              exact .enough _ _ t
            · exact .inl hmet
          · refine .inr ⟨n + 1, by omega, fun least hleast => .round hmost hfirst ?_⟩
            exact hmatches (least - 1) (by omega)
        next => exact .inl ht
      next => exact .inl ht

theorem rounds_sound {a : LinePattern} {step : Spot → List Spot}
    (hstep : ∀ s, ∀ t ∈ step s, Matches a s t) {fuel least : Nat} {most : Option Nat}
    {met front : List Spot} (ht : t ∈ rounds exact step fuel least most met front) :
    t ∈ met ∨ ∃ s ∈ front, Matches (.repeated a least most) s t := by
  induction fuel generalizing least most met front with
  | zero => exact .inl ht
  | succ fuel ih =>
    cases front with
    | nil => exact .inl ht
    | cons s rest =>
      rw [rounds.eq_def] at ht
      dsimp only at ht
      have hmet {kept : Spot → Bool} (ht : t ∈ if least = 0 then
          met ++ (s :: rest).filter kept else met) :
          t ∈ met ∨ ∃ s' ∈ s :: rest, Matches (.repeated a least most) s' t := by
        split at ht
        next hleast =>
          rcases List.mem_append.mp ht with ht | ht
          · exact .inl ht
          · refine .inr ⟨t, (List.mem_filter.mp ht).1, ?_⟩
            rw [hleast]
            exact .enough a most t
        next => exact .inl ht
      split at ht
      next => exact hmet ht
      next hmost =>
        rcases ih ht with ht | ⟨t', ht', hmore⟩
        · exact hmet ht
        · obtain ⟨s', hs', hstep'⟩ := List.mem_flatMap.mp (mem_of_mem_ordered ht')
          have ha := hstep s' t' (List.mem_filter.mp hstep').1
          exact .inr ⟨s', hs', .round hmost ha hmore⟩

theorem ends_repeated (a : LinePattern) (least : Nat) (most : Option Nat)
    (ht : t ∈ (LinePattern.repeated a least most).ends exact s) :
    (∃ set, a = .chars set ∧ t ∈ runs set (s.rest.length + 1) most [s] s ∧
        s.passed + least ≤ t.passed) ∨
      t ∈ rounds exact (a.ends exact) (s.rest.length + least + 2) least most [] [s] := by
  cases a with
  | chars set =>
    obtain ⟨hruns, hleast⟩ := List.mem_filter.mp ht
    exact .inl ⟨set, rfl, hruns, by simpa using hleast⟩
  | empty | boundary | cat | alt | repeated | group | back =>
    exact .inr (mem_of_mem_ordered ht)

/-- Where a search comes to, there a match ends. -/
theorem ends_sound {p : LinePattern} (ht : t ∈ p.ends exact s) : Matches p s t := by
  induction p generalizing s t with
  | empty =>
    obtain rfl := List.mem_singleton.mp ht
    exact .empty t
  | chars set =>
    rw [ends] at ht
    split at ht
    next t' c rest hnext hrest =>
      split at ht
      next hc =>
        obtain rfl := List.mem_singleton.mp ht
        exact .chars hnext (by rw [hrest, List.head?_cons]) hc
      next => simp at ht
    next => simp at ht
  | boundary b =>
    rw [ends] at ht
    split at ht
    next hb =>
      obtain rfl := List.mem_singleton.mp ht
      exact .boundary hb
    next => simp at ht
  | cat a b iha ihb =>
    obtain ⟨u, hu, ht⟩ := List.mem_flatMap.mp (mem_of_mem_ordered ht)
    exact .cat (iha hu) (ihb ht)
  | alt a b iha ihb =>
    rcases List.mem_append.mp (mem_of_mem_ordered ht) with ht | ht
    · exact .first (iha ht)
    · exact .second (ihb ht)
  | repeated a least most ih =>
    rcases ends_repeated a least most ht with ⟨set, rfl, hruns, hleast⟩ | hrounds
    · rcases runs_sound hruns with hmet | ⟨n, hn, hmatches⟩
      · obtain rfl := List.mem_singleton.mp hmet
        obtain rfl : least = 0 := by omega
        exact .enough _ _ t
      · exact hmatches least (by omega)
    · rcases rounds_sound (fun s t ht => ih ht) hrounds with hmet | ⟨s', hs', hmatches⟩
      · exact absurd hmet List.not_mem_nil
      · obtain rfl := List.mem_singleton.mp hs'
        exact hmatches
  | group n a ih =>
    obtain ⟨t', ht', rfl⟩ := List.mem_map.mp ht
    exact .group n (ih ht')
  | back n => exact .back (Option.mem_toList.mp ht)

theorem next?_of_cons {c : Char} {rest : Raw} (hrest : s.rest = c :: rest) :
    s.next? = some { s with before := some c, rest := rest, passed := s.passed + 1 } := by
  rw [Spot.next?, hrest]

theorem rest_of_next? (hnext : s.next? = some t) : ∃ c, s.rest = c :: t.rest := by
  unfold Spot.next? at hnext
  split at hnext <;> cases hnext
  next c rest hrest => exact ⟨c, hrest⟩

/-- A match that is found starts somewhere in what is left. -/
theorem search?_sound {p : LinePattern} {fuel : Nat} {u : Spot}
    (hfound : p.search? fuel s = some (t, u)) : t.rest <:+ s.rest ∧ Matches p t u := by
  induction fuel generalizing s with
  | zero => cases hfound
  | succ fuel ih =>
    rw [search?] at hfound
    split at hfound
    next v hv =>
      cases hfound
      exact ⟨List.suffix_refl _, ends_sound (List.mem_of_mem_head? hv)⟩
    next =>
      obtain ⟨v, hnext, hfound⟩ := Option.bind_eq_some_iff.mp hfound
      obtain ⟨c, hrest⟩ := rest_of_next? hnext
      obtain ⟨hsuffix, hmatches⟩ := ih hfound
      exact ⟨hsuffix.trans (hrest ▸ List.suffix_cons c v.rest), hmatches⟩

/-- A search goes on until there is a place from which it comes to an end. -/
theorem search?_complete {p : LinePattern} {text : Raw}
    (hends : ∀ t : Spot, text <+: t.rest → p.matchAt? t ≠ none) {fuel : Nat}
    (hfuel : s.rest.length < fuel) (htext : text <:+: s.rest) : p.search? fuel s ≠ none := by
  induction fuel generalizing s with
  | zero => omega
  | succ fuel ih =>
    rw [search?]
    split
    next => simp
    next hnone =>
      have hnot : ¬text <+: s.rest := fun hfront => hends s hfront hnone
      cases hrest : s.rest with
      | nil =>
        rw [hrest, List.infix_nil] at htext
        rw [htext] at hnot
        exact absurd (List.nil_prefix) hnot
      | cons c rest =>
        rw [hrest] at htext hnot hfuel
        have hinfix : text <:+: rest := (List.infix_cons_iff.mp htext).resolve_left hnot
        rw [next?_of_cons hrest, Option.bind_some]
        exact ih (by simpa using hfuel) hinfix

theorem Matches.of_literal {text : Raw} (hmatches : Matches (literal text) s t) :
    s.rest = text ++ t.rest := by
  induction text generalizing s with
  | nil =>
    cases hmatches
    rfl
  | cons c text ih =>
    cases hmatches with
    | cat ha hb =>
      cases ha with
      | chars hnext hhead hc =>
        obtain ⟨d, hrest⟩ := rest_of_next? hnext
        rw [hrest, List.head?_cons] at hhead
        cases hhead
        rw [hrest, CharSet.contains_single.mp hc, ih hb, List.cons_append]

theorem ends_literal_ne_nil {text : Raw} (htext : text <+: s.rest) :
    (literal text).ends exact s ≠ [] := by
  induction text generalizing s with
  | nil => exact List.cons_ne_nil s []
  | cons c text ih =>
    obtain ⟨rest, hrest⟩ := htext
    rw [List.cons_append] at hrest
    have hnext := next?_of_cons hrest.symm
    have hchar : (LinePattern.chars (.single c)).ends exact s = s.next?.toList := by
      rw [ends, ← hrest, hnext]
      exact if_pos (CharSet.contains_single.mpr rfl)
    change ordered exact (((LinePattern.chars (.single c)).ends exact s).flatMap
      ((literal text).ends exact)) ≠ []
    rw [hchar, hnext, Option.toList_some, List.flatMap_singleton]
    exact ordered_ne_nil (ih (List.prefix_append text rest))

/-- A text is found in a line if it is a part of it. -/
theorem isIn_literal_iff {text line : Raw} : (literal text).isIn line = true ↔ text <:+: line := by
  rw [isIn, find?]
  constructor
  · intro hfound
    obtain ⟨⟨t, u⟩, hfound⟩ := Option.isSome_iff_exists.mp hfound
    obtain ⟨hsuffix, hmatches⟩ := search?_sound hfound
    have hfront : text <+: t.rest := ⟨u.rest, hmatches.of_literal.symm⟩
    exact hfront.isInfix.trans hsuffix.isInfix
  · intro htext
    rw [Option.isSome_iff_ne_none]
    refine search?_complete (fun t ht => ?_) (Nat.lt_succ_self _) htext
    rw [matchAt?, ne_eq, List.head?_eq_none_iff]
    exact ends_literal_ne_nil ht

end ProfiledBuild.LinePattern
