import ProfiledBuild.Proofs.Ending

/-! What a runner sees of a run. An observed runner keeps a list of its calls beside its own state;
it answers as before, so that the run goes on as before. -/

namespace ProfiledBuild

structure Call where
  command : StageCommand
  outcome : Outcome

namespace Runner

def observed (r : Runner σ) : Runner (σ × List Call) := fun (s, calls) command =>
  let a := r s command
  { outcome := a.outcome, log := a.log, state := (a.state, calls ++ [⟨command, a.outcome⟩]) }

def outcomes (r : Runner σ) : σ → List StageCommand → List Outcome
  | _, [] => []
  | s, command :: rest => (r s command).outcome :: outcomes r (r s command).state rest

end Runner

def Progress.withRunner (g : Progress σ) (s : τ) : Progress τ := ⟨g.run, g.notices, s, g.ticks⟩

def Visit.call (v : Visit σ) : Call := ⟨v.command, v.outcome⟩

structure Gated (c : Config) (w : Workload) (calls : List Call) : Prop where
  nonempty : calls ≠ []
  issued : calls.map Call.command <+:
    [c.commandFor w .instrumentedBuild, c.commandFor w .profilingRun,
      c.commandFor w .optimizedBuild]
  once : (calls.map Call.command).Nodup
  gate : ∀ k < 3, k < calls.length ↔
    ∀ i < k, ∃ call, calls[i]? = some call ∧ call.outcome = .ok (.code 0)
  last : ∀ i call, calls[i]? = some call → call.outcome ≠ .ok (.code 0) → calls.length = i + 1

theorem Config.nodup_plan (c : Config) (w : Workload) : (c.plan w).Nodup := by
  have h : ((c.plan w).map StageCommand.stage).Pairwise (· ≠ ·) := by
    rw [stages_plan]
    decide
  exact List.Pairwise.of_map StageCommand.stage
    (fun _ _ hne heq => hne (congrArg StageCommand.stage heq)) h

namespace Pipeline

variable (p : Pipeline σ)

def observed : Pipeline (σ × List Call) := ⟨p.config, p.sink, p.runner.observed, p.clock⟩

def calls (w : Workload) (id : RunId) (s : σ) (ticks : Nat) : List Call :=
  (p.observed.run w id (s, []) ticks).runner.2

theorem runStage_observed (stage : Stage) (g : Progress σ) (calls : List Call) :
    p.observed.runStage stage (g.withRunner (g.runner, calls)) =
      ((p.runStage stage g).1, (p.runStage stage g).2.withRunner ((p.runStage stage g).2.runner,
        calls ++ [(p.visit g.run.workload stage g.runner g.ticks).call])) := by
  have hfailure : (p.observed.visit (g.withRunner (g.runner, calls)).run.workload stage
      (g.withRunner (g.runner, calls)).runner (g.withRunner (g.runner, calls)).ticks).failure =
        (p.visit g.run.workload stage g.runner g.ticks).failure := rfl
  rw [runStage_eq, runStage_eq, hfailure]
  cases (p.visit g.run.workload stage g.runner g.ticks).failure <;> rfl

theorem afterStage_withRunner (stage : Stage) (g : Progress σ) (s : τ) :
    afterStage stage (g.withRunner s) = (afterStage stage g).withRunner s := by
  by_cases h : stage = .instrumentedBuild
  · rw [afterStage, afterStage, if_pos h, if_pos h]
    rfl
  · rw [afterStage, afterStage, if_neg h, if_neg h]

theorem runStages_observed (stages : List Stage) (g : Progress σ) (calls : List Call) :
    p.observed.runStages stages (g.withRunner (g.runner, calls)) =
      ((p.runStages stages g).1, (p.runStages stages g).2.withRunner
        ((p.runStages stages g).2.runner,
          calls ++ (p.visits g.run.workload stages g.runner g.ticks).map Visit.call)) := by
  induction stages generalizing g calls with
  | nil => simp [runStages, visits]
  | cons stage rest ih =>
    have hobserved := p.runStage_observed stage g calls
    have hfailure := p.runStage_failure stage g
    cases hf : (p.runStage stage g).1 with
    | some failure =>
      rw [hf] at hobserved hfailure
      rw [p.observed.runStages_of_failure rest (congrArg Prod.fst hobserved), hobserved,
        p.runStages_of_failure rest hf, p.visits_of_failure rest hfailure.symm]
      rfl
    | none =>
      rw [hf] at hobserved hfailure
      rw [p.observed.runStages_of_success rest (congrArg Prod.fst hobserved), hobserved,
        p.runStages_of_success rest hf, p.visits_of_success rest hfailure.symm]
      obtain ⟨harun, harunner, haticks, -⟩ := afterStage_eq stage (p.runStage stage g).2
      rw [afterStage_withRunner, ← harunner, ih, harun, harunner, haticks, p.run_runStage,
        p.runner_runStage, p.ticks_runStage, Run.workload_visit, List.map_cons, List.append_assoc]
      rfl

theorem abandon_observed (failure : Failure) (g : Progress σ) (x : σ × List Call) :
    p.observed.abandon failure (g.withRunner x) = (p.abandon failure g).withRunner x := by
  cases h : failure.isReportedByChild <;> simp [abandon, h] <;> rfl

theorem run_observed (w : Workload) (id : RunId) (s : σ) (ticks : Nat) :
    p.observed.run w id (s, []) ticks =
      (p.run w id s ticks).withRunner
        ((p.run w id s ticks).runner, (p.allVisits w s ticks).map Visit.call) := by
  have hopened : p.observed.opened w id (s, []) ticks =
      (p.opened w id s ticks).withRunner ((p.opened w id s ticks).runner, []) := rfl
  have hvisits : p.visits (p.opened w id s ticks).run.workload Stage.all
      (p.opened w id s ticks).runner (p.opened w id s ticks).ticks = p.allVisits w s ticks := rfl
  rw [run_eq, run_eq, hopened, p.runStages_observed Stage.all, hvisits, List.nil_append]
  rcases p.runStages Stage.all (p.opened w id s ticks) with ⟨failure, g⟩
  cases failure with
  | none => rfl
  | some failure =>
    dsimp only
    rw [abandon_observed, runner_abandon]

theorem calls_eq (w : Workload) (id : RunId) (s : σ) (ticks : Nat) :
    p.calls w id s ticks = (p.allVisits w s ticks).map Visit.call := by
  rw [calls, run_observed]
  rfl

theorem outcomes_visits (w : Workload) (stages : List Stage) (s : σ) (ticks : Nat) :
    (p.visits w stages s ticks).map Visit.outcome =
      p.runner.outcomes s ((p.visits w stages s ticks).map Visit.command) := by
  induction stages generalizing s ticks with
  | nil => rfl
  | cons stage rest ih =>
    cases hf : (p.visit w stage s ticks).failure with
    | some failure =>
      rw [p.visits_of_failure rest hf]
      rfl
    | none =>
      rw [p.visits_of_success rest hf, List.map_cons, List.map_cons, ih]
      rfl

theorem calls_map_command (w : Workload) (id : RunId) (s : σ) (ticks : Nat) :
    (p.calls w id s ticks).map Call.command = (p.allVisits w s ticks).map Visit.command := by
  rw [calls_eq, List.map_map]
  rfl

theorem calls_map_outcome (w : Workload) (id : RunId) (s : σ) (ticks : Nat) :
    (p.calls w id s ticks).map Call.outcome = (p.allVisits w s ticks).map Visit.outcome := by
  rw [calls_eq, List.map_map]
  rfl

theorem exists_call_iff {w : Workload} {id : RunId} {s : σ} {ticks i : Nat} :
    (∃ call, (p.calls w id s ticks)[i]? = some call ∧ call.outcome = .ok (.code 0)) ↔
      ∃ v, (p.allVisits w s ticks)[i]? = some v ∧ v.failure = none := by
  simp only [calls_eq, List.getElem?_map, Option.map_eq_some_iff, Visit.failure_eq_none_iff]
  constructor
  · rintro ⟨_, ⟨v, hv, rfl⟩, hcall⟩
    exact ⟨v, hv, hcall⟩
  · rintro ⟨v, hv, hcall⟩
    exact ⟨v.call, ⟨v, hv, rfl⟩, hcall⟩

theorem gated_calls (w : Workload) (id : RunId) (s : σ) (ticks : Nat) :
    Gated p.config w (p.calls w id s ticks) := by
  have hlen : (p.calls w id s ticks).length = (p.allVisits w s ticks).length := by
    rw [calls_eq, List.length_map]
  have hissued : (p.calls w id s ticks).map Call.command <+: p.config.plan w := by
    rw [calls_map_command, allVisits, commands_visits]
    exact List.take_prefix _ _
  refine ⟨?_, hissued, hissued.sublist.nodup (p.config.nodup_plan w), ?_, ?_⟩
  · rw [← List.length_pos_iff, hlen]
    exact p.length_allVisits_pos w s ticks
  · intro k hk
    rw [hlen, allVisits, p.lt_length_visits_iff w hk]
    exact forall₂_congr fun i _ => p.exists_call_iff.symm
  · intro i call hcall hout
    have hi : i < (p.calls w id s ticks).length := (List.getElem?_eq_some_iff.mp hcall).1
    rcases Nat.lt_or_ge (i + 1) (p.calls w id s ticks).length with hlt | hge
    · rw [hlen] at hlt
      obtain ⟨call', hcall', hok⟩ := p.exists_call_iff.mpr (p.failure_of_succ_lt w hlt)
      rw [hcall] at hcall'
      exact absurd (Option.some.inj hcall' ▸ hok) hout
    · omega

/-- What a run asks of its runner: the calls of an observed run, whose answers are those that the
runner itself gives to these commands one after another. -/
theorem run_calls_gated (w : Workload) (id : RunId) (s : σ) (ticks : Nat) :
    p.observed.run w id (s, []) ticks = (p.run w id s ticks).withRunner
        ((p.run w id s ticks).runner, p.calls w id s ticks) ∧
      Gated p.config w (p.calls w id s ticks) ∧
      (p.calls w id s ticks).map Call.outcome =
        p.runner.outcomes s ((p.calls w id s ticks).map Call.command) ∧
      (p.config.commandFor w .profilingRun).args =
        [Utf8.encode p.config.onlyLoadFlag, w.path.octets] := by
  refine ⟨?_, p.gated_calls w id s ticks, ?_, rfl⟩
  · rw [run_observed, calls_eq]
  · rw [calls_map_outcome, calls_map_command]
    exact p.outcomes_visits w Stage.all s (ticks + 2)

end Pipeline

end ProfiledBuild
