import Mathlib.Data.List.Basic
import ProfiledBuild.Text.Regex

/-! What regular expressions match, apart from any preference, and the ways that one leads to: where
each of them goes on, and how few they are. -/

namespace ProfiledBuild.Regex

/-- A place in a text, with the character before it and what is left. -/
structure Point where
  before : Option Char
  rest : List Char

def Point.place (x : Point) : Place := ⟨x.before, x.rest.head?⟩

inductive Matches : Regex → Point → Point → Prop where
  | empty (x : Point) : Matches .empty x x
  | chars {set : CharSet} {c : Char} (before : Option Char) (rest : List Char)
      (hc : set.contains c = true) : Matches (.chars set) ⟨before, c :: rest⟩ ⟨some c, rest⟩
  | boundary {b : Boundary} {x : Point} (hb : b.holds x.place = true) : Matches (.boundary b) x x
  | cat {a b : Regex} {x y z : Point} (ha : Matches a x y) (hb : Matches b y z) :
      Matches (.cat a b) x z
  | first {a b : Regex} {x y : Point} (ha : Matches a x y) : Matches (.alt a b) x y
  | second {a b : Regex} {x y : Point} (hb : Matches b x y) : Matches (.alt a b) x y
  | leave (greedy : Bool) (a : Regex) (x : Point) : Matches (.loop greedy a) x x
  | again {greedy : Bool} {a : Regex} {x y z : Point} (ha : Matches a x y)
      (hloop : Matches (.loop greedy a) y z) : Matches (.loop greedy a) x z
  | plus {greedy : Bool} {a : Regex} {x y z : Point} (ha : Matches a x y)
      (hloop : Matches (.loop greedy a) y z) : Matches (.plus greedy a) x z

/-- A way matches if its expressions do, one after another. -/
inductive WayMatches : List Regex → Point → Point → Prop where
  | done (x : Point) : WayMatches [] x x
  | step {r : Regex} {rest : List Regex} {x y z : Point} (hr : Matches r x y)
      (hrest : WayMatches rest y z) : WayMatches (r :: rest) x z

section

variable {x z : Point} {rest : List Regex}

theorem wayMatches_nil_iff : WayMatches [] x z ↔ z = x := by
  constructor
  · rintro ⟨⟩
    rfl
  · rintro rfl
    exact .done z

theorem wayMatches_cons_iff {r : Regex} :
    WayMatches (r :: rest) x z ↔ ∃ y, Matches r x y ∧ WayMatches rest y z := by
  constructor
  · rintro ⟨⟩
    next y hr hrest => exact ⟨y, hr, hrest⟩
  · rintro ⟨y, hr, hrest⟩
    exact .step hr hrest

theorem wayMatches_empty_iff : WayMatches (.empty :: rest) x z ↔ WayMatches rest x z := by
  rw [wayMatches_cons_iff]
  constructor
  · rintro ⟨_, ⟨⟩, hrest⟩
    exact hrest
  · exact fun hrest => ⟨x, .empty x, hrest⟩

theorem wayMatches_chars_iff {set : CharSet} :
    WayMatches (.chars set :: rest) x z ↔
      ∃ c s, x.rest = c :: s ∧ set.contains c = true ∧ WayMatches rest ⟨some c, s⟩ z := by
  rw [wayMatches_cons_iff]
  constructor
  · rintro ⟨y, hchars, hrest⟩
    cases hchars with
    | chars before s hc => exact ⟨_, s, rfl, hc, hrest⟩
  · obtain ⟨before, _⟩ := x
    rintro ⟨c, s, rfl, hc, hrest⟩
    exact ⟨_, .chars before s hc, hrest⟩

theorem wayMatches_boundary_iff {b : Boundary} :
    WayMatches (.boundary b :: rest) x z ↔ b.holds x.place = true ∧ WayMatches rest x z := by
  rw [wayMatches_cons_iff]
  constructor
  · rintro ⟨y, hboundary, hrest⟩
    cases hboundary with
    | boundary hb => exact ⟨hb, hrest⟩
  · rintro ⟨hb, hrest⟩
    exact ⟨x, .boundary hb, hrest⟩

theorem wayMatches_cat_iff {a b : Regex} :
    WayMatches (.cat a b :: rest) x z ↔ WayMatches (a :: b :: rest) x z := by
  simp only [wayMatches_cons_iff]
  constructor
  · rintro ⟨y', hcat, hrest⟩
    cases hcat with
    | cat ha hb => exact ⟨_, ha, y', hb, hrest⟩
  · rintro ⟨y, ha, y', hb, hrest⟩
    exact ⟨y', .cat ha hb, hrest⟩

theorem wayMatches_alt_iff {a b : Regex} :
    WayMatches (.alt a b :: rest) x z ↔
      WayMatches (a :: rest) x z ∨ WayMatches (b :: rest) x z := by
  simp only [wayMatches_cons_iff]
  constructor
  · rintro ⟨y, halt, hrest⟩
    cases halt with
    | first ha => exact .inl ⟨y, ha, hrest⟩
    | second hb => exact .inr ⟨y, hb, hrest⟩
  · rintro (⟨y, ha, hrest⟩ | ⟨y, hb, hrest⟩)
    · exact ⟨y, .first ha, hrest⟩
    · exact ⟨y, .second hb, hrest⟩

theorem wayMatches_loop_iff {greedy : Bool} {a : Regex} :
    WayMatches (.loop greedy a :: rest) x z ↔
      WayMatches rest x z ∨ WayMatches (a :: .loop greedy a :: rest) x z := by
  simp only [wayMatches_cons_iff]
  constructor
  · rintro ⟨y', hloop, hrest⟩
    cases hloop with
    | leave => exact .inl hrest
    | again ha hmore => exact .inr ⟨_, ha, y', hmore, hrest⟩
  · rintro (hrest | ⟨y, ha, y', hloop, hrest⟩)
    · exact ⟨x, .leave greedy a x, hrest⟩
    · exact ⟨y', .again ha hloop, hrest⟩

theorem wayMatches_plus_iff {greedy : Bool} {a : Regex} :
    WayMatches (.plus greedy a :: rest) x z ↔ WayMatches (a :: .loop greedy a :: rest) x z := by
  simp only [wayMatches_cons_iff]
  constructor
  · rintro ⟨y', hplus, hrest⟩
    cases hplus with
    | plus ha hloop => exact ⟨_, ha, y', hloop, hrest⟩
  · rintro ⟨y, ha, y', hloop, hrest⟩
    exact ⟨y', .plus ha hloop, hrest⟩

end

theorem Matches.suffix {r : Regex} {x y : Point} (hmatches : Matches r x y) :
    y.rest <:+ x.rest ∧ (y = x ∨ y.before.isSome) := by
  induction hmatches with
  | empty | boundary | leave => exact ⟨List.suffix_refl _, .inl rfl⟩
  | chars before rest => exact ⟨List.suffix_cons _ rest, .inr rfl⟩
  | first _ ih | second _ ih => exact ih
  | cat _ _ iha ihb | again _ _ iha ihb | plus _ _ iha ihb =>
    refine ⟨ihb.1.trans iha.1, ?_⟩
    rcases ihb.2 with rfl | hsome
    · exact iha.2
    · exact .inr hsome

theorem matches_concat_iff {rs : List Regex} {x z : Point} :
    Matches (concat rs) x z ↔ WayMatches rs x z := by
  induction rs generalizing x with
  | nil =>
    rw [wayMatches_nil_iff]
    constructor
    · rintro ⟨⟩
      rfl
    · rintro rfl
      exact .empty z
  | cons r rest ih =>
    rw [wayMatches_cons_iff]
    constructor
    · intro hcat
      cases hcat with
      | cat hr hrest => exact ⟨_, hr, ih.mp hrest⟩
    · rintro ⟨y, hr, hrest⟩
      exact .cat hr (ih.mpr hrest)

/-- What a way that needs a character, or nothing more, comes to. -/
def own? : List Regex → Option Thread
  | [] => some .done
  | .chars set :: rest => some (.step set rest)
  | _ => none

/-- The ways that a way leads to without a character, the preferred one first. -/
def nexts (p : Place) : List Regex → List (List Regex)
  | .empty :: rest => [rest]
  | .boundary b :: rest => if b.holds p then [rest] else []
  | .cat a b :: rest => [a :: b :: rest]
  | .alt a b :: rest => [a :: rest, b :: rest]
  | .loop greedy a :: rest =>
    if greedy then [a :: .loop greedy a :: rest, rest] else [rest, a :: .loop greedy a :: rest]
  | .plus greedy a :: rest => [a :: .loop greedy a :: rest]
  | _ => []

/-- What a thread still asks for. -/
def Thread.Leads (x z : Point) : Thread → Prop
  | .done => z = x
  | .step set rest =>
    ∃ c s, x.rest = c :: s ∧ set.contains c = true ∧ WayMatches rest ⟨some c, s⟩ z

theorem wayMatches_iff {way : List Regex} {x z : Point} :
    WayMatches way x z ↔ (∃ thread, own? way = some thread ∧ thread.Leads x z) ∨
      ∃ next ∈ nexts x.place way, WayMatches next x z := by
  cases way with
  | nil => simp [wayMatches_nil_iff, own?, nexts, Thread.Leads]
  | cons r rest =>
    cases r with
    | empty => simp [wayMatches_empty_iff, own?, nexts]
    | chars set => simp [wayMatches_chars_iff, own?, nexts, Thread.Leads]
    | boundary b =>
      rw [wayMatches_boundary_iff]
      cases hb : b.holds x.place <;> simp [own?, nexts, hb]
    | cat a b => simp [wayMatches_cat_iff, own?, nexts]
    | alt a b => simp [wayMatches_alt_iff, own?, nexts]
    | loop greedy a =>
      rw [wayMatches_loop_iff]
      cases greedy <;> simp [own?, nexts, or_comm]
    | plus greedy a => simp [wayMatches_plus_iff, own?, nexts]

theorem length_nexts_le (p : Place) (way : List Regex) : (nexts p way).length ≤ 2 := by
  unfold nexts
  split <;> try split
  all_goals simp

variable {way : List Regex}

/-- What a way leads to with a character or without one. -/
def Follows (next way : List Regex) : Prop :=
  (∃ p, next ∈ nexts p way) ∨ ∃ set, own? way = some (.step set next)

/-- Nothing leads out of these ways. -/
def Closed (all : List (List Regex)) : Prop :=
  ∀ way ∈ all, ∀ next, Follows next way → next ∈ all

def needsChar (way : List Regex) : Bool :=
  match own? way with
  | some (.step ..) => true
  | _ => false

/-- The ways that begin with a part of an expression, if `rest` comes after it. -/
def parts : Regex → List Regex → List (List Regex)
  | .cat a b, rest => (.cat a b :: rest) :: (parts a (b :: rest) ++ parts b rest)
  | .alt a b, rest => (.alt a b :: rest) :: (parts a rest ++ parts b rest)
  | .loop greedy a, rest => (.loop greedy a :: rest) :: parts a (.loop greedy a :: rest)
  | .plus greedy a, rest =>
    (.plus greedy a :: rest) :: (.loop greedy a :: rest) :: parts a (.loop greedy a :: rest)
  | r, rest => [r :: rest]

theorem mem_parts_self (r : Regex) (rest : List Regex) : r :: rest ∈ parts r rest := by
  cases r <;> simp [parts]

theorem follows_cons {r : Regex} {rest next : List Regex} (hnext : Follows next (r :: rest)) :
    next ∈ parts r rest ∨ next = rest := by
  rcases hnext with ⟨p, hnext⟩ | ⟨set, hown⟩
  · cases r with
    | empty => exact .inr (List.mem_singleton.mp hnext)
    | chars => simp [nexts] at hnext
    | boundary b =>
      rw [nexts] at hnext
      split at hnext
      · exact .inr (List.mem_singleton.mp hnext)
      · simp at hnext
    | cat a b =>
      obtain rfl := List.mem_singleton.mp hnext
      exact .inl (List.mem_cons_of_mem _ (List.mem_append_left _ (mem_parts_self a _)))
    | alt a b =>
      left
      rcases List.mem_pair.mp hnext with rfl | rfl
      · exact List.mem_cons_of_mem _ (List.mem_append_left _ (mem_parts_self a _))
      · exact List.mem_cons_of_mem _ (List.mem_append_right _ (mem_parts_self b _))
    | loop greedy a =>
      have hcases : next = a :: .loop greedy a :: rest ∨ next = rest := by
        cases greedy with
        | true => exact List.mem_pair.mp hnext
        | false => exact (List.mem_pair.mp hnext).symm
      refine hcases.imp_left ?_
      rintro rfl
      exact List.mem_cons_of_mem _ (mem_parts_self a _)
    | plus greedy a =>
      obtain rfl := List.mem_singleton.mp hnext
      exact .inl (List.mem_cons_of_mem _ (List.mem_cons_of_mem _ (mem_parts_self a _)))
  · cases r with
    | chars =>
      cases hown
      exact .inr rfl
    | empty | boundary | cat | alt | loop | plus => cases hown

theorem follows_loop {greedy : Bool} {a : Regex} {rest next : List Regex}
    (hbody : ∀ {rest}, way ∈ parts a rest → next ∈ parts a rest ∨ next = rest)
    (hway : way ∈ parts (.loop greedy a) rest) (hnext : Follows next way) :
    next ∈ parts (.loop greedy a) rest ∨ next = rest := by
  rcases List.mem_cons.mp hway with rfl | hway
  · exact follows_cons hnext
  · left
    rcases hbody hway with hnext | rfl
    · exact List.mem_cons_of_mem _ hnext
    · exact mem_parts_self _ rest

/-- What follows on a part is a part again, or comes after all of them. -/
theorem follows_parts {r : Regex} {rest next : List Regex} (hway : way ∈ parts r rest)
    (hnext : Follows next way) : next ∈ parts r rest ∨ next = rest := by
  induction r generalizing rest with
  | empty | chars | boundary =>
    obtain rfl := List.mem_singleton.mp hway
    exact follows_cons hnext
  | cat a b iha ihb =>
    rcases List.mem_cons.mp hway with rfl | hway
    · exact follows_cons hnext
    · rcases List.mem_append.mp hway with hway | hway
      · left
        rcases iha hway with hnext | rfl
        · exact List.mem_cons_of_mem _ (List.mem_append_left _ hnext)
        · exact List.mem_cons_of_mem _ (List.mem_append_right _ (mem_parts_self b rest))
      · exact (ihb hway).imp_left fun hnext =>
          List.mem_cons_of_mem _ (List.mem_append_right _ hnext)
  | alt a b iha ihb =>
    rcases List.mem_cons.mp hway with rfl | hway
    · exact follows_cons hnext
    · rcases List.mem_append.mp hway with hway | hway
      · exact (iha hway).imp_left fun hnext =>
          List.mem_cons_of_mem _ (List.mem_append_left _ hnext)
      · exact (ihb hway).imp_left fun hnext =>
          List.mem_cons_of_mem _ (List.mem_append_right _ hnext)
  | loop greedy a ih => exact follows_loop ih hway hnext
  | plus greedy a ih =>
    rcases List.mem_cons.mp hway with rfl | hway
    · exact follows_cons hnext
    · exact (follows_loop ih hway hnext).imp_left fun hnext => List.mem_cons_of_mem _ hnext

/-- There are few parts, and still fewer of those that need a character. -/
theorem weight_parts_le (r : Regex) (rest : List Regex) :
    (parts r rest).countP needsChar + 2 * (parts r rest).length ≤ 4 * r.size := by
  induction r generalizing rest with
  | empty | chars | boundary => simp [parts, needsChar, own?, size]
  | cat a b iha ihb =>
    have ha := iha (b :: rest)
    have hb := ihb rest
    simp [parts, needsChar, own?, size]
    omega
  | alt a b iha ihb =>
    have ha := iha rest
    have hb := ihb rest
    simp [parts, needsChar, own?, size]
    omega
  | loop greedy a ih =>
    have ha := ih (.loop greedy a :: rest)
    simp [parts, needsChar, own?, size]
    omega
  | plus greedy a ih =>
    have ha := ih (.loop greedy a :: rest)
    simp [parts, needsChar, own?, size]
    omega

/-- All ways that come up in a search. -/
def searched (r : Regex) : List (List Regex) :=
  parts (.loop false any) [r] ++ (parts r [] ++ [[]])

theorem closed_searched (r : Regex) : Closed (searched r) := by
  intro way hway next hnext
  simp only [searched, List.mem_append, List.mem_singleton] at hway ⊢
  rcases hway with hway | hway | rfl
  · refine (follows_parts hway hnext).imp_right ?_
    rintro rfl
    exact .inl (mem_parts_self r [])
  · exact .inr (follows_parts hway hnext)
  · rcases hnext with ⟨p, hnext⟩ | ⟨set, hown⟩
    · simp [nexts] at hnext
    · cases hown

theorem weight_searched_le (r : Regex) :
    (searched r).countP needsChar + 2 * (searched r).length ≤ 4 * r.size + 7 := by
  have hparts := weight_parts_le r []
  have hloop : (parts (.loop false any) [r]).countP needsChar = 1 := rfl
  have hlength : (parts (.loop false any) [r]).length = 2 := rfl
  have hdone : [([] : List Regex)].countP needsChar = 0 := rfl
  rw [searched, List.countP_append, List.countP_append, List.length_append, List.length_append,
    hloop, hlength, hdone, List.length_singleton]
  omega

end ProfiledBuild.Regex
