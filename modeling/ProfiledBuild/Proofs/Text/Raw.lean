import ProfiledBuild.Text.Raw

/-! Texts cut into pieces at a character, and lines with their ends put together again. -/

namespace ProfiledBuild.Raw

variable {c : Char}

theorem drop_takeWhile (p : Char → Bool) (text : Raw) :
    text.drop (text.takeWhile p).length = text.dropWhile p := by
  have hleft : (text.takeWhile p ++ text.dropWhile p).drop (text.takeWhile p).length = _ :=
    List.drop_left
  rwa [List.takeWhile_append_dropWhile] at hleft

theorem splitOn_eq (c : Char) (text : Raw) : splitOn c text = List.splitOn c text := by
  induction text with
  | nil => rfl
  | cons d rest ih =>
    have hne := List.splitOn_ne_nil c rest
    have hcons : splitOn c (d :: rest) =
        if d = c then [] :: splitOn c rest
        else (d :: (splitOn c rest).headD []) :: (splitOn c rest).tail := rfl
    rw [hcons, ih, List.splitOn_eq_splitOnP, List.splitOn_eq_splitOnP,
      List.splitOnP_cons_eq_if_modifyHead]
    rw [List.splitOn_eq_splitOnP] at hne
    by_cases hd : d = c
    · simp [hd]
    · rw [if_neg hd, if_neg (by simpa using hd)]
      cases hsplit : List.splitOnP (· == c) rest with
      | nil => exact absurd hsplit hne
      | cons => rfl

theorem intercalate_splitOn (c : Char) (text : Raw) : [c].intercalate (splitOn c text) = text := by
  rw [splitOn_eq]
  exact List.intercalate_splitOn c

/-- All pieces but the last one end with the character. -/
theorem intercalate_concat (c : Char) (pieces : List Raw) (last : Raw) :
    [c].intercalate (pieces ++ [last]) = pieces.flatMap (· ++ [c]) ++ last := by
  induction pieces with
  | nil => simp
  | cons piece rest ih =>
    cases heq : rest ++ [last] with
    | nil => simp at heq
    | cons next more =>
      rw [List.cons_append, heq, List.intercalate_cons_cons, ← heq, ih, List.flatMap_cons]
      simp only [List.append_assoc]

theorem splitOn_concat {pieces : List Raw} {last : Raw} (hpieces : ∀ piece ∈ pieces, c ∉ piece)
    (hlast : c ∉ last) : splitOn c (pieces.flatMap (· ++ [c]) ++ last) = pieces ++ [last] := by
  rw [splitOn_eq, ← intercalate_concat]
  refine List.splitOn_intercalate c ?_ (by simp)
  simpa [or_imp, forall_and] using ⟨hpieces, hlast⟩

/-- Lines are read as they are written. -/
theorem lines_ended {all : List Raw} (hall : ∀ line ∈ all, '\n' ∉ line) :
    lines (all.flatMap (· ++ ['\n'])) = all := by
  have hsplit := splitOn_concat hall (List.not_mem_nil (a := '\n'))
  rw [List.append_nil] at hsplit
  rw [lines, hsplit, List.reverse_append, List.reverse_singleton, List.singleton_append]
  exact List.reverse_reverse all

end ProfiledBuild.Raw
