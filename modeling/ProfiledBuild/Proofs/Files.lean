import Mathlib.Data.List.Basic
import ProfiledBuild.Host.Attempt

/-! Files, and the ways to them. What is put in a place is found there, and nothing else changes but
for the directories on the way. What is removed is gone with all that is inside it. A path that is
followed to its end leads to no link. -/

namespace ProfiledBuild.Host

variable {h : Host} {place other : List Raw} {node : Node}

theorem lookup_filter {α β : Type} [BEq α] [LawfulBEq α] (l : List (α × β)) {p : α → Bool} {b : α}
    (hb : p b = true) : (l.filter fun entry => p entry.1).lookup b = l.lookup b := by
  induction l with
  | nil => rfl
  | cons entry rest ih =>
    obtain ⟨key, value⟩ := entry
    cases hkey : p key with
    | true => rw [List.filter_cons, if_pos hkey, List.lookup_cons, List.lookup_cons, ih]
    | false =>
      have hne : (b == key) = false := by
        rw [beq_eq_false_iff_ne]
        rintro rfl
        exact absurd hb (by simp [hkey])
      rw [List.filter_cons, if_neg (by simp [hkey]), List.lookup_cons, hne]
      exact ih

theorem any_inside_iff :
    (h.files.any fun (f, _) => f.take place.length = place) = true ↔
      ∃ f ∈ h.files, place <+: f.1 := by
  simp only [List.any_eq_true, decide_eq_true_eq, List.prefix_iff_eq_take]
  exact exists_congr fun f => and_congr_right fun _ => eq_comm

theorem node?_of_lookup (hfile : h.files.lookup place = some node) :
    h.node? place = some node := by
  rw [node?, hfile]

theorem node?_of_inside (hfile : h.files.lookup place = none)
    (hinside : ∃ f ∈ h.files, place <+: f.1) : h.node? place = some .directory := by
  rw [node?, hfile]
  exact if_pos (any_inside_iff.mpr hinside)

theorem node?_of_outside (houtside : ∀ f ∈ h.files, ¬place <+: f.1) :
    h.node? place = h.systemNode? place := by
  have hfile : h.files.lookup place = none := by
    rw [List.lookup_eq_none_iff]
    intro f hf
    simp only [bne_iff_ne, ne_eq]
    rintro rfl
    exact houtside f hf (List.prefix_refl _)
  rw [node?, hfile]
  refine if_neg fun hany => ?_
  obtain ⟨f, hf, hinside⟩ := any_inside_iff.mp hany
  exact houtside f hf hinside

theorem node?_put_self (h : Host) (place : List Raw) (node : Node) :
    (h.put place node).node? place = some node :=
  node?_of_lookup List.lookup_cons_self

theorem lookup_files_put (h : Host) (node : Node) (hne : other ≠ place) :
    (h.put place node).files.lookup other = h.files.lookup other := by
  have hkey : (other == place) = false := by simpa using hne
  change List.lookup other ((place, node) :: h.files.filter (·.1 ≠ place)) = _
  rw [List.lookup_cons, hkey]
  exact lookup_filter h.files (p := (· ≠ place)) (by simpa using hne)

theorem mem_files_put {f : List Raw × Node} :
    f ∈ (h.put place node).files ↔ f = (place, node) ∨ f ∈ h.files ∧ f.1 ≠ place := by
  change f ∈ (place, node) :: h.files.filter (·.1 ≠ place) ↔ _
  simp

/-- Only the directories on the way to a place come with what is put there. -/
theorem node?_put_of_ne (h : Host) (node : Node) (hne : other ≠ place) :
    (h.put place node).node? other =
      if h.files.lookup other = none ∧ other <+: place then some .directory
      else h.node? other := by
  have hlookup := lookup_files_put h node hne
  cases hfile : h.files.lookup other with
  | some found =>
    rw [node?_of_lookup (hlookup.trans hfile), node?_of_lookup hfile]
    simp
  | none =>
    rw [hfile] at hlookup
    by_cases hway : other <+: place
    · rw [if_pos ⟨rfl, hway⟩]
      exact node?_of_inside hlookup ⟨_, mem_files_put.mpr (.inl rfl), hway⟩
    · rw [if_neg (by simp [hway])]
      by_cases hinside : ∃ f ∈ h.files, other <+: f.1
      · rw [node?_of_inside hfile hinside]
        obtain ⟨f, hf, hbelow⟩ := hinside
        have hf' : f.1 ≠ place := by
          rintro rfl
          exact hway hbelow
        exact node?_of_inside hlookup ⟨f, mem_files_put.mpr (.inr ⟨hf, hf'⟩), hbelow⟩
      · have houtside : ∀ f ∈ h.files, ¬other <+: f.1 := by simpa using hinside
        rw [node?_of_outside houtside, node?_of_outside]
        · rfl
        · intro f hf
          rcases mem_files_put.mp hf with rfl | ⟨hf, -⟩
          · exact hway
          · exact houtside f hf

/-- A host without what stands in a place and inside it. -/
def without (h : Host) (place : List Raw) : Host :=
  { h with files := h.files.filter fun (f, _) => f.take place.length ≠ place }

theorem remove_eq (h : Host) (place : List Raw) :
    h.remove place = (h.without place).put place.dropLast .directory := rfl

theorem mem_files_without {f : List Raw × Node} :
    f ∈ (h.without place).files ↔ f ∈ h.files ∧ ¬place <+: f.1 := by
  rw [without, List.mem_filter, decide_eq_true_eq, List.prefix_iff_eq_take, ne_eq, eq_comm]

theorem node?_without_of_prefix (hinside : place <+: other) :
    (h.without place).node? other = h.systemNode? other := by
  refine node?_of_outside fun f hf hother => ?_
  exact (mem_files_without.mp hf).2 (hinside.trans hother)

theorem node?_without (hinside : ¬place <+: other) (hway : ¬other <+: place) :
    (h.without place).node? other = h.node? other := by
  have hlookup : (h.without place).files.lookup other = h.files.lookup other :=
    lookup_filter h.files (p := fun f => f.take place.length ≠ place)
      (decide_eq_true fun heq => hinside (List.prefix_iff_eq_take.mpr heq.symm))
  cases hfile : h.files.lookup other with
  | some found => rw [node?_of_lookup (hlookup.trans hfile), node?_of_lookup hfile]
  | none =>
    by_cases hsome : ∃ f ∈ h.files, other <+: f.1
    · rw [node?_of_inside hfile hsome]
      obtain ⟨f, hf, hother⟩ := hsome
      have houtside : ¬place <+: f.1 := fun hplace =>
        (List.prefix_or_prefix_of_prefix hplace hother).elim hinside hway
      exact node?_of_inside (hlookup.trans hfile) ⟨f, mem_files_without.mpr ⟨hf, houtside⟩, hother⟩
    · have hnone : ∀ f ∈ h.files, ¬other <+: f.1 := by simpa using hsome
      rw [node?_of_outside hnone, node?_of_outside]
      · rfl
      · exact fun f hf => hnone f (mem_files_without.mp hf).1

/-- What is removed is gone, and so is all inside it. -/
theorem node?_remove_of_prefix (hplace : place ≠ []) (hinside : place <+: other) :
    (h.remove place).node? other = h.systemNode? other := by
  have hlonger : ¬other <+: place.dropLast := by
    intro hway
    have hle := (hinside.trans hway).length_le
    have hpos := List.length_pos_iff.mpr hplace
    rw [List.length_dropLast] at hle
    omega
  have hne : other ≠ place.dropLast := by
    rintro rfl
    exact hlonger (List.prefix_refl _)
  rw [remove_eq, node?_put_of_ne _ _ hne, if_neg (by simp [hlonger]),
    node?_without_of_prefix hinside]

theorem node?_remove (hinside : ¬place <+: other) (hway : ¬other <+: place) :
    (h.remove place).node? other = h.node? other := by
  have hshorter : ¬other <+: place.dropLast := fun hbelow =>
    hway (hbelow.trans (List.dropLast_prefix place))
  have hne : other ≠ place.dropLast := by
    rintro rfl
    exact hshorter (List.prefix_refl _)
  rw [remove_eq, node?_put_of_ne _ _ hne, if_neg (by simp [hshorter]), node?_without hinside hway]

/-- No link stands anywhere on the way to a place. -/
def IsDirect (h : Host) (place : List Raw) : Prop :=
  ∀ way, way <+: place → ∀ target, h.node? way ≠ some (.link target)

theorem IsDirect.dropLast (hdirect : h.IsDirect place) : h.IsDirect place.dropLast :=
  fun way hway => hdirect way (hway.trans (List.dropLast_prefix place))

theorem IsDirect.put (hdirect : h.IsDirect place) (hnode : ∀ target, node ≠ .link target) :
    (h.put other node).IsDirect place := by
  intro way hway target
  by_cases hother : way = other
  · rw [hother, node?_put_self, ne_eq, Option.some.injEq]
    exact hnode target
  · rw [node?_put_of_ne h node hother]
    split
    · simp
    · exact hdirect way hway target

theorem IsDirect.snoc {name : Raw} (hdirect : h.IsDirect place)
    (hname : ∀ target, h.node? (place ++ [name]) ≠ some (.link target)) :
    h.IsDirect (place ++ [name]) := by
  intro way hway
  rcases List.prefix_concat_iff.mp hway with rfl | hway
  · exact hname
  · exact hdirect way hway

/-- Of a link on the way what counts is where it leads to, at its end as well as before. -/
theorem walk_isDirect (hroot : h.IsDirect []) {links : Nat} {names place' : List Raw}
    (hwalk : h.walk true links place names = .ok place') (hdirect : h.IsDirect place) :
    h.IsDirect place' := by
  fun_induction h.walk true links place names with
  | case1 =>
    cases hwalk
    exact hdirect
  | case2 | case3 | case6 | case8 => cases hwalk
  | case4 _ _ _ _ _ _ _ ih => exact ih hwalk hdirect
  | case5 _ _ _ _ _ _ ih => exact ih hwalk hdirect.dropLast
  | case7 _ _ _ _ _ _ _ _ _ _ hlast => exact absurd hlast.2 (by decide)
  | case9 place _ _ _ _ _ _ target _ _ _ ih =>
    have hstart : h.IsDirect (if target.head? = some '/' then [] else place) := by
      split
      · exact hroot
      · exact hdirect
    exact ih hwalk hstart
  | case10 _ _ _ _ _ _ _ _ node hnode hfound ih =>
    refine ih hwalk (hdirect.snoc fun target htarget => ?_)
    exact hnode target (Option.some.inj (hfound.symm.trans htarget))

theorem place_isDirect (hroot : h.IsDirect []) (hdirectory : h.IsDirect h.directory) {path : Raw}
    (hpath : h.place path = .ok place) : h.IsDirect place := by
  unfold Host.place placeOf at hpath
  split at hpath
  · cases hpath
  · split at hpath
    · cases hpath
    · exact walk_isDirect hroot hpath hroot
    · exact walk_isDirect hroot hpath hdirectory

theorem lookup_eq_ok_iff {path : Raw} :
    h.lookup path = .ok node ↔ ∃ place, h.place path = .ok place ∧ h.node? place = some node := by
  rw [Host.lookup, nodeAt, ← Host.place]
  cases h.place path with
  | error e => simp [bind, Except.bind]
  | ok place => cases hnode : h.node? place <;> simp [bind, Except.bind, hnode]

theorem lookup_ne_link (hroot : h.IsDirect []) (hdirectory : h.IsDirect h.directory)
    (path target : Raw) : h.lookup path ≠ .ok (.link target) := by
  intro hlookup
  obtain ⟨place, hplace, hnode⟩ := lookup_eq_ok_iff.mp hlookup
  exact place_isDirect hroot hdirectory hplace place (List.prefix_refl _) target hnode

theorem systemNode?_ne_link (target : Raw) : h.systemNode? place ≠ some (.link target) := by
  unfold systemNode?
  dsimp only
  split
  · simp
  · split <;> simp [Option.map_eq_some_iff]

/-- No links stand on a host at the start. -/
theorem isDirect_ofFiles (files : List (Octets × Octets × Bool))
    (environment : List (Octets × Octets)) (input : Octets) (place : List Raw) :
    (ofFiles files environment input).IsDirect place := by
  intro way hway target hnode
  let h := ofFiles files environment input
  cases hfile : h.files.lookup way with
  | none =>
    by_cases hinside : ∃ f ∈ h.files, way <+: f.1
    · rw [node?_of_inside hfile hinside] at hnode
      cases hnode
    · rw [node?_of_outside (by simpa using hinside)] at hnode
      exact systemNode?_ne_link target hnode
  | some node =>
    rw [node?_of_lookup hfile] at hnode
    cases hnode
    obtain ⟨before, after, hfiles, -⟩ := List.lookup_eq_some_iff.mp hfile
    have hmem : (way, Node.link target) ∈ h.files := by simp [hfiles]
    obtain ⟨f, -, hf⟩ := List.mem_map.mp hmem
    simp at hf


end ProfiledBuild.Host
