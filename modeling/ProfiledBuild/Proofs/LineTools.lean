import Mathlib.Data.List.Chain
import ProfiledBuild.Host.Ends
import ProfiledBuild.Host.Repeats
import ProfiledBuild.Proofs.Text.Raw

/-! Tools that look at the lines of texts. The beginning and the rest of a text are the whole of it,
runs of equal lines are all lines and no two of them could be one, and the first difference of two
texts is behind what they have in common. -/

namespace ProfiledBuild.Tools

theorem exists_splitOn (c : Char) (text : Raw) :
    ∃ front last, Raw.splitOn c text = front ++ [last] ∧
      front.flatMap (· ++ [c]) ++ last = text := by
  have hne : Raw.splitOn c text ≠ [] := by
    rw [Raw.splitOn_eq]
    exact List.splitOn_ne_nil c text
  have hsplit := List.dropLast_concat_getLast hne
  refine ⟨_, _, hsplit.symm, ?_⟩
  rw [← Raw.intercalate_concat, hsplit, Raw.intercalate_splitOn]

/-- No piece of a text is lost, not even one without an end. -/
theorem flatten_pieces (p : Portion) (text : Raw) : (p.pieces text).flatten = text := by
  obtain ⟨front, last, hsplit, htext⟩ := exists_splitOn p.lineEnd text
  have hpieces : p.pieces text =
      front.map (· ++ [p.lineEnd]) ++ if last = [] then [] else [last] := by
    by_cases hline : p.lineEnd = '\n'
    · rw [hline] at hsplit ⊢
      rw [Portion.pieces, if_pos hline, endedLines, hsplit]
      simp
    · rw [Portion.pieces, if_neg hline, hsplit]
      simp
  have hlast : (if last = [] then [] else [last]).flatten = last := by
    split
    next hnil => exact hnil.symm
    next => simp
  rw [hpieces, List.flatten_append, hlast, ← List.flatMap_def, htext]

/-- What is left of a list behind its first so many members. -/
def Count.rest (n : Count) : Count :=
  if n.sign = some '-' then ⟨none, n.count⟩ else ⟨some '+', n.count + 1⟩

theorem first_append_final {α : Type} (n : Count) (xs : List α) :
    n.first xs ++ n.rest.final xs = xs := by
  by_cases hsign : n.sign = some '-' <;> simp [Count.first, Count.rest, Count.final, hsign]

/-- The beginning of a text and the rest of it are the text. -/
theorem select_append (p : Portion) (text : Raw) :
    p.select Count.first text ++ { p with count := p.count.rest }.select Count.final text =
      text := by
  have hpieces : { p with count := p.count.rest }.pieces text = p.pieces text := rfl
  rw [Portion.select, Portion.select, hpieces]
  cases p.octets with
  | true => exact first_append_final p.count text
  | false =>
    simp only [Bool.false_eq_true, if_false]
    rw [← List.flatten_append, first_append_final, flatten_pieces]

/-- Runs of lines: together they are all of the lines, no two neighbours are alike, and each shows
the first of its lines. -/
structure AreRuns (view : Raw → Raw) (runs : List LineRun) (lines : List Raw) : Prop where
  whole : runs.flatMap (fun r => List.replicate r.count (view r.line)) = lines.map view
  parted : (runs.map LineRun.line).IsChain fun a b => view a ≠ view b
  counted : ∀ r ∈ runs, 0 < r.count
  sublist : (runs.map LineRun.line).Sublist lines

def joinRun (view : Raw → Raw) (runs : List LineRun) (line : Raw) : List LineRun :=
  match runs with
  | r :: rest =>
    if view r.line = view line then { r with count := r.count + 1 } :: rest
    else ⟨line, 1⟩ :: runs
  | [] => [⟨line, 1⟩]

theorem runsOf_eq (view : Raw → Raw) (lines : List Raw) :
    runsOf view lines = (lines.foldl (joinRun view) []).reverse := rfl

section

variable {view : Raw → Raw} {runs : List LineRun} {lines : List Raw} {r : LineRun} {line : Raw}

/-- A line like those of the last run is one more of them. -/
theorem AreRuns.longer (h : AreRuns view (runs ++ [r]) lines) (hview : view r.line = view line) :
    AreRuns view (runs ++ [{ r with count := r.count + 1 }]) (lines ++ [line]) where
  whole := by
    have hwhole := h.whole
    simp only [List.flatMap_append, List.flatMap_singleton, List.map_append, List.map_singleton,
      List.replicate_succ', hview] at hwhole ⊢
    rw [← List.append_assoc, hwhole]
  parted := by
    have hparted := h.parted
    rwa [List.map_append] at hparted ⊢
  counted := by
    intro r' hr'
    rcases List.mem_append.mp hr' with hr' | hr'
    · exact h.counted r' (List.mem_append_left _ hr')
    · rw [List.mem_singleton.mp hr']
      exact Nat.succ_pos r.count
  sublist := by
    have hsublist := h.sublist
    rw [List.map_append] at hsublist ⊢
    exact hsublist.trans (List.sublist_append_left lines [line])

/-- Another line is a run of its own. -/
theorem AreRuns.another (h : AreRuns view runs lines)
    (hview : ∀ r ∈ runs.getLast?, view r.line ≠ view line) :
    AreRuns view (runs ++ [⟨line, 1⟩]) (lines ++ [line]) where
  whole := by
    rw [List.flatMap_append, h.whole, List.map_append]
    rfl
  parted := by
    rw [List.map_append, List.isChain_append]
    refine ⟨h.parted, List.isChain_singleton line, fun a ha b hb => ?_⟩
    obtain rfl : line = b := by simpa using hb
    rw [List.getLast?_map] at ha
    obtain ⟨r, hr, rfl⟩ := Option.map_eq_some_iff.mp ha
    exact hview r hr
  counted := by
    intro r hr
    rcases List.mem_append.mp hr with hr | hr
    · exact h.counted r hr
    · rw [List.mem_singleton.mp hr]
      exact Nat.one_pos
  sublist := by
    rw [List.map_append]
    exact h.sublist.append (List.Sublist.refl [line])

theorem AreRuns.joinRun (h : AreRuns view runs.reverse lines) :
    AreRuns view (joinRun view runs line).reverse (lines ++ [line]) := by
  cases runs with
  | nil => exact h.another (by simp)
  | cons r rest =>
    rw [Tools.joinRun]
    split
    next hview =>
      rw [List.reverse_cons] at h ⊢
      exact h.longer hview
    next hview =>
      rw [List.reverse_cons]
      refine h.another fun r' hr' => ?_
      obtain rfl : r = r' := by simpa using hr'
      exact hview

end

theorem areRuns_runsOf (view : Raw → Raw) (lines : List Raw) :
    AreRuns view (runsOf view lines) lines := by
  rw [runsOf_eq]
  induction lines using List.reverseRecOn with
  | nil => exact ⟨rfl, List.isChain_nil, by simp, by simp⟩
  | append_singleton lines line ih =>
    rw [List.foldl_append, List.foldl_cons, List.foldl_nil]
    exact ih.joinRun

/-- Two texts do not differ if one of them is the beginning of the other. -/
theorem firstDifference_eq_none_iff {octet line : Nat} {a b : Raw} :
    firstDifference octet line a b = none ↔ a <+: b ∨ b <+: a := by
  induction a generalizing octet line b with
  | nil => simp [firstDifference]
  | cons x s ih =>
    cases b with
    | nil => simp [firstDifference]
    | cons y t =>
      by_cases hxy : x = y
      · simp [firstDifference, hxy, ih, List.cons_prefix_cons]
      · simp [firstDifference, hxy, List.cons_prefix_cons, Ne.symm hxy]

theorem firstDifference_self (octet line : Nat) (c : Char) (a b : Raw) :
    firstDifference octet line (c :: a) (c :: b) =
      firstDifference (octet + 1) (line + [c].count '\n') a b := by
  have hcount : (if c = '\n' then line + 1 else line) = line + [c].count '\n' := by
    by_cases hc : c = '\n' <;> simp [hc]
  rw [firstDifference, if_neg (by simp), hcount]

/-- Up to the first difference two texts have the same octets, and as many lines. -/
theorem firstDifference_append (octet line : Nat) (front a b : Raw) :
    firstDifference octet line (front ++ a) (front ++ b) =
      firstDifference (octet + front.length) (line + front.count '\n') a b := by
  induction front generalizing octet line with
  | nil => rfl
  | cons c front ih =>
    have hcount : (c :: front).count '\n' = [c].count '\n' + front.count '\n' := by
      rw [← List.singleton_append, List.count_append]
    rw [List.cons_append, List.cons_append, firstDifference_self, ih, hcount, List.length_cons,
      Nat.add_assoc, Nat.add_assoc, Nat.add_comm 1]

theorem exists_difference {octet line : Nat} {a b : Raw}
    (hsome : firstDifference octet line a b ≠ none) :
    ∃ front x y s t, a = front ++ x :: s ∧ b = front ++ y :: t ∧ x ≠ y := by
  induction a generalizing octet line b with
  | nil => simp [firstDifference] at hsome
  | cons x s ih =>
    cases b with
    | nil => simp [firstDifference] at hsome
    | cons y t =>
      by_cases hxy : x = y
      · subst hxy
        rw [firstDifference_self] at hsome
        obtain ⟨front, x', y', s', t', rfl, rfl, hne⟩ := ih hsome
        exact ⟨x :: front, x', y', s', t', rfl, rfl, hne⟩
      · exact ⟨[], x, y, s, t, rfl, rfl, hxy⟩

/-- Either one text is the beginning of the other or the place where they differ is found. -/
theorem firstDifference_cases (octet line : Nat) (a b : Raw) :
    (firstDifference octet line a b = none ∧ (a <+: b ∨ b <+: a)) ∨
    ∃ front x y s t, a = front ++ x :: s ∧ b = front ++ y :: t ∧ x ≠ y ∧
      firstDifference octet line a b =
        some (octet + front.length, line + front.count '\n') := by
  by_cases hnone : firstDifference octet line a b = none
  · exact .inl ⟨hnone, firstDifference_eq_none_iff.mp hnone⟩
  · obtain ⟨front, x, y, s, t, rfl, rfl, hne⟩ := exists_difference hnone
    refine .inr ⟨front, x, y, s, t, rfl, rfl, hne, ?_⟩
    rw [firstDifference_append, firstDifference, if_pos hne]

end ProfiledBuild.Tools
