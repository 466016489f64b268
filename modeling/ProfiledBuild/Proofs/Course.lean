import Mathlib.Logic.Function.Iterate
import ProfiledBuild.Stage.Basic

/-! The course of a run: the states that it goes through while stages succeed and fail. A run that
no failure stops goes all the way from the start to the end; the first failure before the end is
where it leaves the way. -/

namespace ProfiledBuild.RunState

/-- The stage at hand succeeds, or it fails. -/
inductive Step where
  | advance
  | fail
  deriving DecidableEq

def step (state : RunState) : Step → RunState
  | .advance => state.advance
  | .fail => state.fail

/-- The states visited along some steps, the first one included. -/
def visited (state : RunState) (steps : List Step) : List RunState := steps.scanl step state

def way : List RunState := .start :: Stage.all.map .running ++ [.done]

/-- The rest of the way from a state on. A run that has failed is not on the way any more. -/
def ahead (state : RunState) : List RunState := way.dropWhile (· ≠ state)

theorem mem_all (state : RunState) : state ∈ all := by
  rcases state with _ | ⟨_ | _ | _⟩ | _ | _ <;> decide

instance (p : RunState → Prop) [DecidablePred p] : Decidable (∀ state, p state) :=
  decidable_of_iff (∀ state ∈ all, p state)
    ⟨fun h state => h state (mem_all state), fun h state _ => h state⟩

/-- How the states visited hang on the steps. It takes `state.remaining` advances to the end, and
what counts is whether a failure comes before the last of them. -/
structure Course (state : RunState) (steps : List Step) : Prop where
  halted : state.isTerminal = true → ∀ s ∈ state.visited steps, s = state
  distance : state.isTerminal = false → ∀ k, advance^[k] state = .done ↔ state.remaining ≤ k
  route : state.isTerminal = false →
    state.ahead <:+ way ∧ state.ahead.head? = some state ∧
      state.ahead.length = state.remaining + 1
  stopped : ∀ k < state.remaining, ∀ rest, steps = List.replicate k .advance ++ .fail :: rest →
    state.visited steps = state.ahead.take (k + 1) ++ List.replicate (rest.length + 1) .failed
  finished : state.isTerminal = false →
    ∀ rest, steps = List.replicate state.remaining .advance ++ rest →
      state.visited steps = state.ahead ++ List.replicate rest.length .done
  underway : ∀ k < state.remaining, steps = List.replicate k .advance →
    state.visited steps = state.ahead.take (k + 1) ∧
      ∀ s ∈ state.visited steps, s.isTerminal = false
  shapes : (∃ k < state.remaining, ∃ rest, steps = List.replicate k .advance ++ .fail :: rest) ∨
    (∃ rest, steps = List.replicate state.remaining .advance ++ rest) ∨
      ∃ k < state.remaining, steps = List.replicate k .advance
  done : state.isTerminal = false →
    (.done ∈ state.visited steps ↔
      ∃ rest, steps = List.replicate state.remaining .advance ++ rest)
  once : ∀ stage, (state.visited steps).count (.running stage) ≤ 1

variable {state : RunState}

theorem isTerminal_eq_true_iff : state.isTerminal = true ↔ state = .done ∨ state = .failed := by
  rw [isTerminal, Bool.or_eq_true, decide_eq_true_iff, decide_eq_true_iff]

theorem isTerminal_eq_false_iff : state.isTerminal = false ↔ 0 < state.remaining := by
  revert state
  decide

theorem advance_of_terminal (h : state.isTerminal = true) : state.advance = state := by
  rcases isTerminal_eq_true_iff.mp h with rfl | rfl <;> rfl

theorem fail_of_terminal (h : state.isTerminal = true) : state.fail = state := by
  rcases isTerminal_eq_true_iff.mp h with rfl | rfl <;> rfl

theorem step_of_terminal (h : state.isTerminal = true) (s : Step) : state.step s = state := by
  cases s with
  | advance => exact advance_of_terminal h
  | fail => exact fail_of_terminal h

theorem fail_of_not_terminal (h : state.isTerminal = false) : state.fail = .failed := by
  revert state
  decide

theorem isTerminal_fail (state : RunState) : state.fail.isTerminal = true := by
  revert state
  decide

theorem ne_failed_of_not_terminal (h : state.isTerminal = false) : state ≠ .failed := by
  rintro rfl
  cases h

theorem ne_failed_of_lt {k : Nat} (h : k < state.remaining) : state ≠ .failed :=
  ne_failed_of_not_terminal (isTerminal_eq_false_iff.mpr (Nat.zero_lt_of_lt h))

theorem advance_eq_failed_iff : state.advance = .failed ↔ state = .failed := by
  revert state
  decide

theorem remaining_of_not_terminal (h : state.isTerminal = false) :
    state.remaining = state.advance.remaining + 1 := by
  revert state
  decide

theorem ahead_of_not_terminal (h : state.isTerminal = false) :
    state.ahead = state :: state.advance.ahead := by
  revert state
  decide

theorem remaining_step_lt (h : state.isTerminal = false) (s : Step) :
    (state.step s).remaining < state.remaining := by
  cases s with
  | advance => exact remaining_advance_lt h
  | fail =>
    rw [step, fail_of_not_terminal h]
    exact isTerminal_eq_false_iff.mp h

theorem remaining_step_le (state : RunState) (s : Step) :
    (state.step s).remaining ≤ state.remaining := by
  cases h : state.isTerminal with
  | true => exact Nat.le_of_eq (congrArg remaining (step_of_terminal h s))
  | false => exact Nat.le_of_lt (remaining_step_lt h s)

theorem remaining_iterate (state : RunState) (k : Nat) :
    (advance^[k] state).remaining = state.remaining - k := by
  induction k generalizing state with
  | zero => rfl
  | succ k ih =>
    rw [Function.iterate_succ_apply, ih]
    cases h : state.isTerminal with
    | true =>
      have hzero : ¬0 < state.remaining := by simp [← isTerminal_eq_false_iff, h]
      rw [advance_of_terminal h]
      omega
    | false =>
      have hone := remaining_of_not_terminal h
      omega

theorem iterate_eq_failed_iff (k : Nat) : advance^[k] state = .failed ↔ state = .failed := by
  induction k generalizing state with
  | zero => exact Iff.rfl
  | succ k ih => rw [Function.iterate_succ_apply, ih, advance_eq_failed_iff]

theorem remaining_eq_zero_iff : state.remaining = 0 ↔ state = .done ∨ state = .failed := by
  revert state
  decide

theorem iterate_eq_done_iff (h : state ≠ .failed) (k : Nat) :
    advance^[k] state = .done ↔ state.remaining ≤ k := by
  have hfailed : advance^[k] state ≠ .failed := fun he => h ((iterate_eq_failed_iff k).mp he)
  rw [← Nat.sub_eq_zero_iff_le, ← remaining_iterate, remaining_eq_zero_iff, or_iff_left hfailed]

/-- The state after some advances is the next one of the way ahead. -/
theorem take_succ_ahead (h : state ≠ .failed) {k : Nat} (hk : k ≤ state.remaining) :
    state.ahead.take (k + 1) = state.ahead.take k ++ [advance^[k] state] := by
  induction k generalizing state with
  | zero =>
    revert state
    decide
  | succ k ih =>
    have hopen : state.isTerminal = false := isTerminal_eq_false_iff.mpr (by omega)
    have hone := remaining_of_not_terminal hopen
    rw [ahead_of_not_terminal hopen, List.take_succ_cons, List.take_succ_cons, List.cons_append,
      Function.iterate_succ_apply, ih (advance_eq_failed_iff.not.mpr h) (by omega)]

/-- Up to the last advance that is wanted, no state of the way ahead is terminal. -/
theorem not_terminal_of_mem_take_ahead {k : Nat} (hk : k < state.remaining) :
    ∀ s ∈ state.ahead.take (k + 1), s.isTerminal = false := by
  have hall : ∀ t : RunState, ∀ s ∈ t.ahead.take t.remaining, s.isTerminal = false := by decide
  exact fun s hs => hall state s ((List.take_sublist_take_left hk).subset hs)

theorem done_not_mem_take_ahead {k : Nat} (hk : k < state.remaining) :
    .done ∉ state.ahead.take (k + 1) := by
  intro hdone
  cases not_terminal_of_mem_take_ahead hk _ hdone

theorem length_ahead (h : state ≠ .failed) : state.ahead.length = state.remaining + 1 := by
  revert state
  decide

theorem iterate_remaining (h : state ≠ .failed) : advance^[state.remaining] state = .done :=
  (iterate_eq_done_iff h _).mpr (Nat.le_refl _)

theorem ahead_eq_concat (h : state ≠ .failed) :
    state.ahead = state.ahead.take state.remaining ++ [.done] := by
  rw [← iterate_remaining h, ← take_succ_ahead h (Nat.le_refl _), ← length_ahead h,
    List.take_length]

theorem visited_cons (state : RunState) (s : Step) (rest : List Step) :
    state.visited (s :: rest) = state :: (state.step s).visited rest :=
  List.scanl_cons

theorem visited_of_terminal (h : state.isTerminal = true) (steps : List Step) :
    state.visited steps = List.replicate (steps.length + 1) state := by
  induction steps with
  | nil => rfl
  | cons s rest ih =>
    rw [visited_cons, step_of_terminal h, ih]
    rfl

theorem visited_advances {k : Nat} (hk : k ≤ state.remaining) (rest : List Step) :
    state.visited (List.replicate k .advance ++ rest) =
      state.ahead.take k ++ (advance^[k] state).visited rest := by
  induction k generalizing state with
  | zero => rfl
  | succ k ih =>
    have hopen : state.isTerminal = false := isTerminal_eq_false_iff.mpr (by omega)
    have hone := remaining_of_not_terminal hopen
    rw [List.replicate_succ, List.cons_append, visited_cons, ahead_of_not_terminal hopen,
      List.take_succ_cons, List.cons_append, Function.iterate_succ_apply, ← ih (by omega)]
    rfl

theorem visited_stopped {k : Nat} (hk : k < state.remaining) (rest : List Step) :
    state.visited (List.replicate k .advance ++ .fail :: rest) =
      state.ahead.take (k + 1) ++ List.replicate (rest.length + 1) .failed := by
  have hopen : (advance^[k] state).isTerminal = false := by
    rw [isTerminal_eq_false_iff, remaining_iterate]
    omega
  have hstate : state ≠ .failed := ne_failed_of_lt hk
  rw [visited_advances (Nat.le_of_lt hk), visited_cons, step, fail_of_not_terminal hopen,
    visited_of_terminal rfl, take_succ_ahead hstate (Nat.le_of_lt hk), List.append_assoc]
  rfl

theorem visited_finished (h : state ≠ .failed) (rest : List Step) :
    state.visited (List.replicate state.remaining .advance ++ rest) =
      state.ahead ++ List.replicate rest.length .done := by
  rw [visited_advances (Nat.le_refl _), iterate_remaining h, visited_of_terminal rfl,
    List.replicate_succ, List.append_cons, ← ahead_eq_concat h]

theorem visited_underway {k : Nat} (hk : k < state.remaining) :
    state.visited (List.replicate k .advance) = state.ahead.take (k + 1) := by
  have hstate : state ≠ .failed := ne_failed_of_lt hk
  rw [take_succ_ahead hstate (Nat.le_of_lt hk), ← List.append_nil (List.replicate k _),
    visited_advances (Nat.le_of_lt hk)]
  rfl

/-- The advances up to the first failure, counted up to `n`. -/
theorem steps_cases (n : Nat) (steps : List Step) :
    (∃ k < n, ∃ rest, steps = List.replicate k .advance ++ .fail :: rest) ∨
      (∃ rest, steps = List.replicate n .advance ++ rest) ∨
        ∃ k < n, steps = List.replicate k .advance := by
  induction n generalizing steps with
  | zero => exact Or.inr (Or.inl ⟨steps, rfl⟩)
  | succ n ih =>
    match steps with
    | [] => exact Or.inr (Or.inr ⟨0, Nat.succ_pos n, rfl⟩)
    | .fail :: rest => exact Or.inl ⟨0, Nat.succ_pos n, rest, rfl⟩
    | .advance :: rest =>
      rcases ih rest with ⟨k, hk, rest, rfl⟩ | ⟨rest, rfl⟩ | ⟨k, hk, rfl⟩
      · exact Or.inl ⟨k + 1, Nat.succ_lt_succ hk, rest, rfl⟩
      · exact Or.inr (Or.inl ⟨rest, rfl⟩)
      · exact Or.inr (Or.inr ⟨k + 1, Nat.succ_lt_succ hk, rfl⟩)

theorem remaining_le_of_mem_visited {steps : List Step} {s : RunState}
    (h : s ∈ state.visited steps) : s.remaining ≤ state.remaining := by
  induction steps generalizing state with
  | nil => exact Nat.le_of_eq (congrArg remaining (List.mem_singleton.mp h))
  | cons a rest ih =>
    rw [visited_cons] at h
    rcases List.mem_cons.mp h with rfl | h
    · exact Nat.le_refl _
    · exact Nat.le_trans (ih h) (remaining_step_le state a)

/-- A state that is not terminal is left with the next step, and what comes after it is closer to
the end. -/
theorem pairwise_visited (state : RunState) (steps : List Step) :
    (state.visited steps).Pairwise fun s t => s.isTerminal = false → t.remaining < s.remaining := by
  induction steps generalizing state with
  | nil => exact List.pairwise_singleton _ _
  | cons a rest ih =>
    rw [visited_cons, List.pairwise_cons]
    refine ⟨fun t ht hopen => ?_, ih (state.step a)⟩
    exact Nat.lt_of_le_of_lt (remaining_le_of_mem_visited ht) (remaining_step_lt hopen a)

theorem count_running_visited_le_one (state : RunState) (steps : List Step) (stage : Stage) :
    (state.visited steps).count (.running stage) ≤ 1 := by
  refine Nat.le_of_not_lt fun htwice => ?_
  have hpair : [running stage, .running stage].Sublist (state.visited steps) :=
    List.replicate_sublist_iff.mpr htwice
  have hlt := List.pairwise_pair.mp ((pairwise_visited state steps).sublist hpair) rfl
  exact Nat.lt_irrefl _ hlt

theorem done_mem_visited_iff (h : state.isTerminal = false) (steps : List Step) :
    .done ∈ state.visited steps ↔
      ∃ rest, steps = List.replicate state.remaining .advance ++ rest := by
  have hstate : state ≠ .failed := ne_failed_of_not_terminal h
  constructor
  · intro hdone
    rcases steps_cases state.remaining steps with ⟨k, hk, rest, rfl⟩ | hrest | ⟨k, hk, rfl⟩
    · rw [visited_stopped hk, List.mem_append] at hdone
      rcases hdone with hdone | hdone
      · exact absurd hdone (done_not_mem_take_ahead hk)
      · cases List.eq_of_mem_replicate hdone
    · exact hrest
    · rw [visited_underway hk] at hdone
      exact absurd hdone (done_not_mem_take_ahead hk)
  · rintro ⟨rest, rfl⟩
    rw [visited_finished hstate, ahead_eq_concat hstate]
    exact List.mem_append_left _ (List.mem_append_right _ (List.mem_singleton_self _))

theorem visited_course (state : RunState) (steps : List Step) : Course state steps := by
  constructor
  case halted =>
    intro h s hs
    rw [visited_of_terminal h] at hs
    exact List.eq_of_mem_replicate hs
  case distance => exact fun h k => iterate_eq_done_iff (ne_failed_of_not_terminal h) k
  case route =>
    intro h
    refine ⟨List.dropWhile_suffix _, ?_, length_ahead (ne_failed_of_not_terminal h)⟩
    rw [ahead_of_not_terminal h, List.head?_cons]
  case stopped =>
    rintro k hk rest rfl
    exact visited_stopped hk rest
  case finished =>
    rintro h rest rfl
    exact visited_finished (ne_failed_of_not_terminal h) rest
  case underway =>
    rintro k hk rfl
    rw [visited_underway hk]
    exact ⟨rfl, not_terminal_of_mem_take_ahead hk⟩
  case shapes => exact steps_cases state.remaining steps
  case done => exact fun h => done_mem_visited_iff h steps
  case once => exact count_running_visited_le_one state steps

end ProfiledBuild.RunState
