import ProfiledBuild.Proofs.Visits

/-! How far a run gets and in which state it ends. A stage is visited exactly when all stages
before it have succeeded. -/

namespace ProfiledBuild

namespace RunState

theorem enter_of_advance {state : RunState} {stage : Stage}
    (h : state.advance = .running stage) : state.enter stage = .running stage := by
  have hself : RunState.enter stage (.running stage) = .running stage := by
    rw [enter, if_pos (Or.inl rfl)]
  by_cases hs : state = .running stage
  · rw [hs, hself]
  · have ht : state.isTerminal = false := by
      cases state <;> simp_all [advance, isTerminal]
    rw [enter, if_neg (by simp [hs, ht]), h, hself]

theorem enterAll_take {n : Nat} (hn : 0 < n) (hn' : n ≤ Stage.all.length) :
    ∃ stage, (Stage.all.take n).getLast? = some stage ∧
      start.enterAll (Stage.all.take n) = .running stage := by
  have h1 : RunState.start.enter .instrumentedBuild = _ := enter_of_advance rfl
  have h2 : (running .instrumentedBuild).enter .profilingRun = _ := enter_of_advance rfl
  have h3 : (running .profilingRun).enter .optimizedBuild = _ := enter_of_advance rfl
  obtain rfl | rfl | rfl : n = 1 ∨ n = 2 ∨ n = 3 := by
    simp only [Stage.all, List.length_cons, List.length_nil] at hn'
    omega
  · exact ⟨_, rfl, by simp [Stage.all, enterAll, h1]⟩
  · exact ⟨_, rfl, by simp [Stage.all, enterAll, h1, h2]⟩
  · exact ⟨_, rfl, by simp [Stage.all, enterAll, h1, h2, h3]⟩

end RunState

namespace Pipeline

section

variable (p : Pipeline σ) (w : Workload)

theorem visits_cons (stage : Stage) (rest : List Stage) (s : σ) (ticks : Nat) :
    ∃ more, p.visits w (stage :: rest) s ticks = p.visit w stage s ticks :: more ∧
      ((p.visit w stage s ticks).failure ≠ none ∧ more = [] ∨
        (p.visit w stage s ticks).failure = none ∧
          ∃ s', more = p.visits w rest s' (ticks + Visit.readings)) := by
  by_cases hf : (p.visit w stage s ticks).failure = none
  · exact ⟨_, by rw [visits, if_pos hf], Or.inr ⟨hf, _, rfl⟩⟩
  · exact ⟨_, by rw [visits, if_neg hf], Or.inl ⟨hf, rfl⟩⟩

theorem exists_answer_of_mem_visits {stages : List Stage} {s : σ} {ticks : Nat} {v : Visit σ}
    (hv : v ∈ p.visits w stages s ticks) : ∃ s', v.answer = p.runner s' v.command := by
  induction stages generalizing s ticks with
  | nil => simp [visits] at hv
  | cons stage rest ih =>
    obtain ⟨more, hvs, hmore⟩ := p.visits_cons w stage rest s ticks
    rw [hvs] at hv
    rcases List.mem_cons.mp hv with rfl | hv
    · exact ⟨s, rfl⟩
    · rcases hmore with ⟨-, rfl⟩ | ⟨-, s', rfl⟩
      · simp at hv
      · exact ih hv

theorem commands_visits (stages : List Stage) (s : σ) (ticks : Nat) :
    (p.visits w stages s ticks).map Visit.command =
      (stages.map (p.config.commandFor w)).take (p.visits w stages s ticks).length := by
  induction stages generalizing s ticks with
  | nil => rfl
  | cons stage rest ih =>
    obtain ⟨more, hvs, ⟨-, rfl⟩ | ⟨-, s', rfl⟩⟩ := p.visits_cons w stage rest s ticks
    · simp [hvs, visit]
    · simp [hvs, visit, ih]

theorem lt_length_visits_iff {stages : List Stage} {s : σ} {ticks k : Nat}
    (hk : k < stages.length) :
    k < (p.visits w stages s ticks).length ↔
      ∀ i < k, ∃ v, (p.visits w stages s ticks)[i]? = some v ∧ v.failure = none := by
  induction stages generalizing s ticks k with
  | nil => simp at hk
  | cons stage rest ih =>
    obtain ⟨more, hvs, hmore⟩ := p.visits_cons w stage rest s ticks
    cases k with
    | zero => simp [hvs]
    | succ k =>
      rcases hmore with ⟨hf, rfl⟩ | ⟨hf, s', rfl⟩
      · simp only [hvs, List.length_singleton]
        constructor
        · intro h
          omega
        · intro h
          obtain ⟨v, hv, hnone⟩ := h 0 (by omega)
          simp only [List.getElem?_cons_zero, Option.some.injEq] at hv
          exact absurd (hv ▸ hnone) hf
      · have hk' : k < rest.length := by simpa using hk
        simp only [hvs, List.length_cons, Nat.add_lt_add_iff_right, ih hk']
        constructor
        · intro h i hi
          cases i with
          | zero => exact ⟨_, by simp, hf⟩
          | succ i => simpa using h i (by omega)
        · intro h i hi
          simpa using h (i + 1) (by omega)

theorem failure_of_succ_lt {stages : List Stage} {s : σ} {ticks i : Nat}
    (hi : i + 1 < (p.visits w stages s ticks).length) :
    ∃ v, (p.visits w stages s ticks)[i]? = some v ∧ v.failure = none := by
  have hlen : i + 1 < stages.length := by
    have h := congrArg List.length (p.commands_visits w stages s ticks)
    simp only [List.length_map, List.length_take] at h
    omega
  exact (p.lt_length_visits_iff w hlen).mp hi i (by omega)

theorem length_visits_le (stages : List Stage) (s : σ) (ticks : Nat) :
    (p.visits w stages s ticks).length ≤ stages.length := by
  have h := congrArg List.length (p.commands_visits w stages s ticks)
  simp only [List.length_map, List.length_take] at h
  omega

theorem length_of_stop_eq_none {stages : List Stage} {s : σ} {ticks : Nat}
    (h : stop (p.visits w stages s ticks) = none) :
    (p.visits w stages s ticks).length = stages.length := by
  refine Nat.le_antisymm (p.length_visits_le w stages s ticks) (Nat.le_of_not_lt fun hlt => ?_)
  refine absurd ((p.lt_length_visits_iff w hlt).mpr ?_) (Nat.lt_irrefl _)
  intro i hi
  rw [stop, List.findSome?_eq_none_iff] at h
  exact ⟨_, List.getElem?_eq_getElem hi, h _ (List.getElem_mem hi)⟩

theorem stop_eq_some_iff {stages : List Stage} {s : σ} {ticks : Nat} {failure : Failure} :
    stop (p.visits w stages s ticks) = some failure ↔
      ∃ v ∈ p.visits w stages s ticks, v.failure = some failure := by
  constructor
  · exact List.exists_of_findSome?_eq_some
  · induction stages generalizing s ticks with
    | nil => simp [visits]
    | cons stage rest ih =>
      obtain ⟨more, hvs, ⟨-, rfl⟩ | ⟨hf, s', rfl⟩⟩ := p.visits_cons w stage rest s ticks
      · simp [hvs, stop]
      · rintro ⟨v, hv, hfailure⟩
        rw [hvs] at hv ⊢
        rcases List.mem_cons.mp hv with rfl | hv
        · simp [hf] at hfailure
        · rw [stop, List.findSome?_cons, hf]
          exact ih ⟨v, hv, hfailure⟩

/-- Either all visits have succeeded or the last one alone has failed. -/
theorem visits_split (stages : List Stage) (s : σ) (ticks : Nat) :
    (stop (p.visits w stages s ticks) = none ∧
        ∀ v ∈ p.visits w stages s ticks, v.failure = none) ∨
      ∃ before last failure, p.visits w stages s ticks = before ++ [last] ∧
        (∀ v ∈ before, v.failure = none) ∧ last.failure = some failure ∧
        stop (p.visits w stages s ticks) = some failure := by
  induction stages generalizing s ticks with
  | nil => exact Or.inl ⟨rfl, by simp [visits]⟩
  | cons stage rest ih =>
    obtain ⟨more, hvs, hmore⟩ := p.visits_cons w stage rest s ticks
    rw [hvs]
    rcases hmore with ⟨hf, rfl⟩ | ⟨hf, s', rfl⟩
    · obtain ⟨failure, hfailure⟩ := Option.ne_none_iff_exists'.mp hf
      exact Or.inr ⟨[], _, failure, rfl, by simp, hfailure, by simp [stop, hfailure]⟩
    · rw [stop, List.findSome?_cons, hf]
      rcases ih s' (ticks + Visit.readings) with ⟨hstop, hall⟩ | ⟨before, last, failure, hrest, h⟩
      · exact Or.inl ⟨hstop, List.forall_mem_cons.mpr ⟨hf, hall⟩⟩
      · rw [hrest] at h ⊢
        refine Or.inr ⟨_ :: before, last, failure, rfl, ?_, h.2⟩
        exact List.forall_mem_cons.mpr ⟨hf, h.1⟩

end

section

variable (p : Pipeline σ) (w : Workload) (id : RunId) (s : σ) (ticks : Nat)

theorem length_allVisits_pos : 0 < (p.allVisits w s ticks).length := by
  obtain ⟨more, hvs, -⟩ := p.visits_cons w .instrumentedBuild [.profilingRun, .optimizedBuild] s
    (ticks + 2)
  simp [allVisits, Stage.all, hvs]

theorem commands_of_stop_eq_none (h : stop (p.allVisits w s ticks) = none) :
    (p.allVisits w s ticks).map Visit.command = p.config.plan w := by
  rw [allVisits] at h ⊢
  rw [p.commands_visits, p.length_of_stop_eq_none w h, ← Config.plan]
  exact List.take_of_length_le (Nat.le_of_eq (List.length_map _))

theorem stages_allVisits :
    (p.allVisits w s ticks).map (·.command.stage) =
      Stage.all.take (p.allVisits w s ticks).length := by
  have h := congrArg (List.map StageCommand.stage) (p.commands_visits w Stage.all s (ticks + 2))
  rw [List.map_map, List.map_take] at h
  exact h.trans (congrArg _ (p.config.stages_plan w))

theorem reached_eq :
    p.reached w id s ticks =
      { Run.ofWorkload w id (p.clock ticks) with
        state := RunState.start.enterAll (Stage.all.take (p.allVisits w s ticks).length)
        results := (p.allVisits w s ticks).map (Visit.result p.clock) } := by
  rw [reached, foldl_visit_eq, ← p.stages_allVisits w s ticks, List.map_map]
  rfl

theorem results_closed :
    (p.closed w id s ticks).results = (p.allVisits w s ticks).map (Visit.result p.clock) := by
  rw [closed, reached_eq]
  cases stop (p.allVisits w s ticks) <;> rfl

theorem invokedStages_closed :
    (p.closed w id s ticks).invokedStages = Stage.all.take (p.allVisits w s ticks).length := by
  rw [Run.invokedStages, results_closed, List.map_map, ← stages_allVisits]
  rfl

theorem failure_closed : (p.closed w id s ticks).failure = stop (p.allVisits w s ticks) := by
  rw [closed, reached_eq]
  cases stop (p.allVisits w s ticks) <;> rfl

theorem id_closed : (p.closed w id s ticks).id = id := by
  rw [closed, reached_eq]
  cases stop (p.allVisits w s ticks) <;> rfl

theorem workload_closed : (p.closed w id s ticks).workload = w := by
  rw [closed, reached_eq]
  cases stop (p.allVisits w s ticks) <;> rfl

/-- A run that no failure has stopped has been through all stages, and so one step takes it to its
end. -/
theorem state_closed :
    (p.closed w id s ticks).state =
      match stop (p.allVisits w s ticks) with
      | none => .done
      | some _ => .failed := by
  obtain ⟨stage, hlast, hstate⟩ := RunState.enterAll_take (p.length_allVisits_pos w s ticks)
    (p.length_visits_le w Stage.all s (ticks + 2))
  rw [closed, reached_eq, hstate]
  cases hstop : stop (p.allVisits w s ticks) with
  | some failure => rfl
  | none =>
    rw [allVisits, p.length_of_stop_eq_none w hstop] at hlast
    simp [Stage.all] at hlast
    simp [Run.finish, ← hlast, RunState.advance]

theorem isSuccess_closed :
    (p.closed w id s ticks).isSuccess = true ↔ stop (p.allVisits w s ticks) = none := by
  rw [Run.isSuccess, state_closed]
  cases stop (p.allVisits w s ticks) <;> simp

theorem exitCode_closed :
    (p.closed w id s ticks).exitCode =
      match stop (p.allVisits w s ticks) with
      | none => 0
      | some failure => failure.exitCode := by
  rw [Run.exitCode, state_closed, failure_closed]
  cases stop (p.allVisits w s ticks) <;> rfl

end

end Pipeline

end ProfiledBuild
