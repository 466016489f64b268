import ProfiledBuild.Text.Path

/-! Paths that are the same although their octets differ. A path is cut at its slashes; empty segments
and `.` count only at the front. -/

namespace ProfiledBuild.Path

/-- A slash too many, or a `.` that is not at the front. -/
inductive Respelled : Octets → Octets → Prop
  | doubled (a b : Octets) : Respelled (a ++ slash :: slash :: b) (a ++ slash :: b)
  | current (a b : Octets) : Respelled (a ++ slash :: dot :: slash :: b) (a ++ slash :: b)
  | trailing {a : Octets} : a ≠ [] → Respelled (a ++ [slash]) a
  | trailingCurrent {a : Octets} : a ≠ [] → Respelled (a ++ [slash, dot]) a

theorem Respelled.length_lt {s t : Octets} (h : Respelled s t) : t.length < s.length := by
  cases h <;> simp

theorem segments_ne_nil (s : Octets) : segments s ≠ [] := by
  cases s with
  | nil => exact List.cons_ne_nil _ _
  | cons b s =>
    rw [segments]
    split
    · exact List.cons_ne_nil _ _
    · split <;> exact List.cons_ne_nil _ _

theorem segments_slash (s : Octets) : segments (slash :: s) = [] :: segments s :=
  if_pos rfl

theorem segments_cons {b : UInt8} {s first : Octets} {more : List Octets} (hb : b ≠ slash)
    (hs : segments s = first :: more) : segments (b :: s) = (b :: first) :: more := by
  rw [segments, if_neg hb, hs]

theorem segments_append_slash (a b : Octets) :
    segments (a ++ slash :: b) = segments a ++ segments b := by
  induction a with
  | nil => exact segments_slash b
  | cons c a ih =>
    by_cases hc : c = slash
    · rw [hc, List.cons_append, segments_slash, segments_slash, ih, List.cons_append]
    · obtain ⟨first, more, ha⟩ := List.exists_cons_of_ne_nil (segments_ne_nil a)
      have hab : segments (a ++ slash :: b) = first :: (more ++ segments b) := by
        rw [ih, ha, List.cons_append]
      rw [List.cons_append, segments_cons hc hab, segments_cons hc ha, List.cons_append]

/-- Only the empty path has one empty segment. -/
theorem eq_nil_of_segments {s : Octets} (h : segments s = [[]]) : s = [] := by
  cases s with
  | nil => rfl
  | cons b s =>
    by_cases hb : b = slash
    · rw [hb, segments_slash, List.cons.injEq] at h
      exact absurd h.2 (segments_ne_nil s)
    · obtain ⟨first, more, hs⟩ := List.exists_cons_of_ne_nil (segments_ne_nil s)
      rw [segments_cons hb hs] at h
      cases h

theorem same_refl (p : Path) : p.same p = true := decide_eq_true rfl

/-- The segments that are names. -/
def namesOf (segments : List Octets) : List Octets := segments.filter fun s => s ≠ [] ∧ s ≠ [dot]

theorem namesOf_append (ss ss' : List Octets) : namesOf (ss ++ ss') = namesOf ss ++ namesOf ss' :=
  List.filter_append ..

/-- Paths with one first segment are the same when the others agree in their names. An empty first
segment is the root if there are others. -/
theorem same_of_segments {s t first : Octets} {ss ts : List Octets}
    (hs : segments s = first :: ss) (ht : segments t = first :: ts)
    (hroot : first = [] → (ss = [] ↔ ts = [])) (hnames : namesOf ss = namesOf ts) :
    same ⟨s⟩ ⟨t⟩ = true := by
  simp only [namesOf] at hnames
  rw [same, decide_eq_true_iff, components, components, hs, ht, List.filter_cons, List.filter_cons,
    hnames]
  cases first with
  | nil =>
    have hempty := hroot rfl
    cases ss with
    | nil => rw [hempty.mp rfl]
    | cons s ss =>
      cases ts with
      | nil => exact absurd (hempty.mpr rfl) (List.cons_ne_nil _ _)
      | cons t ts => rfl
  | cons b first => rfl

/-- Segments behind those of `s` do not count if they are no names. -/
theorem same_of_skipped {s t u : Octets} {skipped after : List Octets} (hne : s ≠ [] ∨ after ≠ [])
    (hskipped : namesOf skipped = []) (ht : segments t = segments s ++ (skipped ++ after))
    (hu : segments u = segments s ++ after) : same ⟨t⟩ ⟨u⟩ = true := by
  obtain ⟨first, rest, hs⟩ := List.exists_cons_of_ne_nil (segments_ne_nil s)
  rw [hs, List.cons_append] at ht hu
  refine same_of_segments ht hu (fun hfirst => ?_) ?_
  · have hnot : ¬(rest = [] ∧ after = []) := by
      rintro ⟨hrest, hafter⟩
      rw [hfirst, hrest] at hs
      exact hne.elim (fun hne => hne (eq_nil_of_segments hs)) (fun hne => hne hafter)
    simp only [List.append_eq_nil_iff]
    exact ⟨fun h => absurd ⟨h.1, h.2.2⟩ hnot, fun h => absurd h hnot⟩
  · rw [namesOf_append, namesOf_append, namesOf_append, hskipped, List.nil_append]

theorem Respelled.same {s t : Octets} (h : Respelled s t) : same ⟨s⟩ ⟨t⟩ = true := by
  cases h with
  | doubled a b =>
    have hdoubled : segments (a ++ slash :: slash :: b) = segments a ++ ([[]] ++ segments b) := by
      rw [segments_append_slash, segments_slash, List.singleton_append]
    exact same_of_skipped (.inr (segments_ne_nil b)) rfl hdoubled (segments_append_slash a b)
  | current a b =>
    have hcurrent : segments (a ++ slash :: dot :: slash :: b) =
        segments a ++ ([[dot]] ++ segments b) := by
      rw [segments_append_slash]
      exact congrArg (segments a ++ ·) (segments_append_slash [dot] b)
    exact same_of_skipped (.inr (segments_ne_nil b)) rfl hcurrent (segments_append_slash a b)
  | trailing ha =>
    have htrailing : segments (t ++ [slash]) = segments t ++ ([[]] ++ []) :=
      segments_append_slash t []
    exact same_of_skipped (.inl ha) rfl htrailing (List.append_nil (segments t)).symm
  | trailingCurrent ha =>
    have htrailing : segments (t ++ [slash, dot]) = segments t ++ ([[dot]] ++ []) :=
      segments_append_slash t [dot]
    exact same_of_skipped (.inl ha) rfl htrailing (List.append_nil (segments t)).symm

end ProfiledBuild.Path
