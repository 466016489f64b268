import ProfiledBuild.Proofs.Rehearsal
import ProfiledBuild.Proofs.Text.Utf8

/-! The script of a rehearsal. Exits and errors are kept apart, and each table keeps the last entry
that it is given for a stage. Since errors win over exits, the last instruction for a stage is
obeyed unless it is an exit that comes after an error. -/

namespace ProfiledBuild.Recording

/-- What a stage is told to do. -/
inductive Instruction where
  | exit (result : Exit)
  | error (failure : StageCommand → Failure)
  | missing

/-- One line of a script. -/
structure Cue where
  stage : Stage
  instruction : Instruction

namespace Instruction

def exit? : Instruction → Option Exit
  | .exit result => some result
  | _ => none

def failure? : Instruction → Option (StageCommand → Failure)
  | .exit _ => none
  | .error failure => some failure
  | .missing => some fun c => .missingCommand c.stage c.programName

/-- The outcome that an instruction asks for. -/
def outcome (c : StageCommand) : Instruction → Outcome
  | .exit result => .ok result
  | .error failure => .error (failure c)
  | .missing => .error (.missingCommand c.stage c.programName)

theorem outcome_of_failure {i : Instruction} {failure : StageCommand → Failure}
    (h : i.failure? = some failure) (c : StageCommand) : i.outcome c = .error (failure c) := by
  cases i with
  | exit result => cases h
  | error failure' =>
    cases h
    rfl
  | missing =>
    cases h
    rfl

end Instruction

def follow (r : Recording) (cue : Cue) : Recording :=
  match cue.instruction with
  | .exit result => r.withExit cue.stage result
  | .error failure => r.withError cue.stage failure
  | .missing => r.withMissing cue.stage

def scripted (script : List Cue) : Recording := script.foldl follow untold

def instructionsFor (stage : Stage) (script : List Cue) : List Instruction :=
  (script.filter (·.stage = stage)).map Cue.instruction

/-- The outcome that the last instruction for a command's stage asks for. -/
def asked (script : List Cue) (c : StageCommand) : Outcome :=
  match (instructionsFor c.stage script).getLast? with
  | none => .ok (.code 0)
  | some i => i.outcome c

/-- The outcome that the last error among the instructions for a command's stage asks for, or else
the last exit. -/
def answered (script : List Cue) (c : StageCommand) : Outcome :=
  let instructions := instructionsFor c.stage script
  match (instructions.filterMap Instruction.failure?).getLast? with
  | some failure => .error (failure c)
  | none => .ok ((instructions.filterMap Instruction.exit?).getLast?.getD (.code 0))

/-- The last instruction for a stage is an exit, and an error came before it. -/
def Overruled (script : List Cue) (stage : Stage) : Prop :=
  (∃ result, (instructionsFor stage script).getLast? = some (.exit result)) ∧
    ∃ i ∈ instructionsFor stage script, i.failure? ≠ none

theorem instructionsFor_cons (stage : Stage) (cue : Cue) (script : List Cue) :
    instructionsFor stage (cue :: script) =
      (if cue.stage = stage then [cue.instruction] else []) ++ instructionsFor stage script := by
  by_cases h : cue.stage = stage <;> simp [instructionsFor, h]

/-- A line of the script changes one entry of one table. -/
theorem tables_follow (r : Recording) (cue : Cue) (stage : Stage) :
    (r.follow cue).exits stage =
        (if cue.stage = stage then cue.instruction.exit? else none).or (r.exits stage) ∧
      (r.follow cue).errors stage =
        (if cue.stage = stage then cue.instruction.failure? else none).or (r.errors stage) := by
  obtain ⟨stage', i⟩ := cue
  by_cases h : stage' = stage
  · subst h
    cases i <;> simp [follow, withExit, withError, withMissing, Instruction.exit?,
      Instruction.failure?]
  · have h' : stage ≠ stage' := Ne.symm h
    cases i <;> simp [follow, withExit, withError, withMissing, h, h']

theorem getLast?_filterMap_cons {α β : Type} (f : α → Option β) (x : α) (xs : List α) :
    ((x :: xs).filterMap f).getLast? = (xs.filterMap f).getLast?.or (f x) := by
  cases h : f x with
  | none => simp [h]
  | some y => cases hl : (xs.filterMap f).getLast? <;> simp [h, List.getLast?_cons, hl]

theorem tables_foldl (script : List Cue) (r : Recording) (stage : Stage) :
    (script.foldl follow r).exits stage =
        ((instructionsFor stage script).filterMap Instruction.exit?).getLast?.or
          (r.exits stage) ∧
      (script.foldl follow r).errors stage =
        ((instructionsFor stage script).filterMap Instruction.failure?).getLast?.or
          (r.errors stage) := by
  induction script generalizing r with
  | nil => exact ⟨rfl, rfl⟩
  | cons cue script ih =>
    obtain ⟨hexits, herrors⟩ := ih (r.follow cue)
    rw [List.foldl_cons, hexits, herrors, instructionsFor_cons, (tables_follow r cue stage).1,
      (tables_follow r cue stage).2]
    by_cases h : cue.stage = stage
    · simp only [h, if_true, List.singleton_append, getLast?_filterMap_cons, Option.or_assoc,
        and_self]
    · simp [h]

theorem tables_scripted (script : List Cue) (stage : Stage) :
    (scripted script).exits stage =
        ((instructionsFor stage script).filterMap Instruction.exit?).getLast? ∧
      (scripted script).errors stage =
        ((instructionsFor stage script).filterMap Instruction.failure?).getLast? := by
  have htables := tables_foldl script untold stage
  simp only [untold, Option.or_none] at htables
  exact htables

theorem outcome_scripted (script : List Cue) (c : StageCommand) :
    (scripted script).outcome c = answered script c := by
  obtain ⟨hexits, herrors⟩ := tables_scripted script c.stage
  rw [outcome, hexits, herrors]
  rfl

theorem commands_follow (r : Recording) (cue : Cue) : (r.follow cue).commands = r.commands := by
  obtain ⟨stage, i⟩ := cue
  cases i <;> rfl

theorem commands_scripted (script : List Cue) : (scripted script).commands = [] := by
  have hkeeps (script : List Cue) (r : Recording) :
      (script.foldl follow r).commands = r.commands := by
    induction script generalizing r with
    | nil => rfl
    | cons cue script ih => rw [List.foldl_cons, ih, commands_follow]
  exact hkeeps script untold

/-- Only the order of the instructions for one stage matters. -/
theorem scripted_congr {script script' : List Cue}
    (h : ∀ stage, instructionsFor stage script = instructionsFor stage script') :
    scripted script = scripted script' := by
  have hexits : (scripted script).exits = (scripted script').exits := by
    funext stage
    rw [(tables_scripted script stage).1, h, (tables_scripted script' stage).1]
  have herrors : (scripted script).errors = (scripted script').errors := by
    funext stage
    rw [(tables_scripted script stage).2, h, (tables_scripted script' stage).2]
  have hcommands : (scripted script).commands = (scripted script').commands := by
    rw [commands_scripted, commands_scripted]
  calc scripted script
      = ⟨(scripted script).exits, (scripted script).errors, (scripted script).commands⟩ := rfl
    _ = ⟨(scripted script').exits, (scripted script').errors, (scripted script').commands⟩ := by
        rw [hexits, herrors, hcommands]

theorem instructionsFor_swap {cue cue' : Cue} (h : cue.stage ≠ cue'.stage) (stage : Stage)
    (before after : List Cue) :
    instructionsFor stage (before ++ cue :: cue' :: after) =
      instructionsFor stage (before ++ cue' :: cue :: after) := by
  by_cases hs : cue.stage = stage
  · have hs' : ¬cue'.stage = stage := fun hs' => h (hs.trans hs'.symm)
    simp [instructionsFor, hs, hs']
  · simp [instructionsFor, hs, List.filter_cons]

theorem getLast?_filterMap_concat {α β : Type} (f : α → Option β) (xs : List α) (x : α) :
    ((xs ++ [x]).filterMap f).getLast? = (f x).or (xs.filterMap f).getLast? := by
  cases h : f x <;> simp [List.filterMap_append, h]

/-- Where no error came before the last exit, the two rules choose the same instruction. -/
theorem answered_eq_asked_iff (script : List Cue) (c : StageCommand) :
    answered script c = asked script c ↔ ¬Overruled script c.stage := by
  simp only [answered, asked, Overruled]
  generalize instructionsFor c.stage script = instructions
  cases hlast : instructions.getLast? with
  | none =>
    rw [List.getLast?_eq_none_iff] at hlast
    simp [hlast]
  | some last =>
    obtain ⟨before, rfl⟩ := List.getLast?_eq_some_iff.mp hlast
    cases hfailure : last.failure? with
    | some failure =>
      rw [getLast?_filterMap_concat, hfailure, Option.some_or]
      refine iff_of_true (Instruction.outcome_of_failure hfailure c).symm ?_
      rintro ⟨⟨result, hexit⟩, -⟩
      cases hexit
      cases hfailure
    | none =>
      obtain ⟨result, rfl⟩ : ∃ result, last = .exit result := by
        cases last with
        | exit result => exact ⟨result, rfl⟩
        | error failure => cases hfailure
        | missing => cases hfailure
      -- an error counts if it stands before this exit
      rw [getLast?_filterMap_concat, getLast?_filterMap_concat, hfailure, Option.none_or]
      cases herror : (before.filterMap Instruction.failure?).getLast? with
      | none =>
        rw [List.getLast?_eq_none_iff, List.filterMap_eq_nil_iff] at herror
        refine iff_of_true rfl ?_
        rintro ⟨-, i, hi, hfails⟩
        rcases List.mem_append.mp hi with hi | hi
        · exact hfails (herror i hi)
        · exact hfails (List.mem_singleton.mp hi ▸ hfailure)
      | some failure =>
        obtain ⟨i, hi, hfails⟩ := List.mem_filterMap.mp (List.mem_of_getLast? herror)
        have hover : i.failure? ≠ none := by
          rw [hfails]
          exact Option.some_ne_none failure
        refine iff_of_false (fun h => by cases h) (not_not_intro ?_)
        exact ⟨⟨result, rfl⟩, i, List.mem_append_left _ hi, hover⟩

/-- The runner's state after it has been given some commands one after another. -/
def given (r : Recording) (commands : List StageCommand) : Recording :=
  commands.foldl (fun r c => (run r c).state) r

theorem given_eq (r : Recording) (commands : List StageCommand) :
    r.given commands = r.keeping commands := by
  induction commands generalizing r with
  | nil => exact congrArg (mk r.exits r.errors) (List.append_nil _).symm
  | cons c rest ih =>
    rw [given, List.foldl_cons, ← given, ih]
    exact keeping_keeping r [c] rest

/-- The answers do not depend on what has been given before. -/
theorem outcomes_eq (r : Recording) (commands : List StageCommand) :
    Runner.outcomes run r commands = commands.map r.outcome := by
  induction commands generalizing r with
  | nil => rfl
  | cons c rest ih =>
    rw [Runner.outcomes, ih]
    rfl

/-- A rehearsal answers as the last instruction for a stage asks, unless that is an exit that comes
after an error. It keeps every command that it is given. -/
theorem script_obeyed_iff (script : List Cue) (commands : List StageCommand) :
    Runner.outcomes run (scripted script) commands = commands.map (answered script) ∧
      (Runner.outcomes run (scripted script) commands = commands.map (asked script) ↔
        ∀ c ∈ commands, ¬Overruled script c.stage) ∧
      (∀ before cue cue' after, script = before ++ cue :: cue' :: after →
        cue.stage ≠ cue'.stage → scripted script = scripted (before ++ cue' :: cue :: after)) ∧
      ((scripted script).given commands).commands = commands ∧
      ((scripted script).given commands).commandLines = commands.map StageCommand.display ∧
      ((scripted script).given commands).stages = commands.map StageCommand.stage ∧
      ((scripted script).given commands).callCount = commands.length := by
  have houtcomes : Runner.outcomes run (scripted script) commands =
      commands.map (answered script) := by
    rw [outcomes_eq]
    exact List.map_congr_left fun c _ => outcome_scripted script c
  have hcommands : ((scripted script).given commands).commands = commands := by
    rw [given_eq, keeping, commands_scripted, List.nil_append]
  refine ⟨houtcomes, ?_, ?_, hcommands, ?_, ?_, ?_⟩
  · rw [houtcomes, List.map_inj_left]
    exact forall₂_congr fun c _ => answered_eq_asked_iff script c
  · rintro before cue cue' after rfl h
    exact scripted_congr fun stage => instructionsFor_swap h stage before after
  · rw [commandLines, hcommands]
  · rw [stages, hcommands]
  · rw [callCount, hcommands]

def build : StageCommand := ⟨.optimizedBuild, Path.ofString "cargo", []⟩

theorem programName_build : build.programName = "cargo" := Utf8.lossy_encode "cargo"

/-- The optimized build is missing, and the profiling run ends by a signal. -/
def twoStages : List Cue :=
  [⟨.optimizedBuild, .missing⟩, ⟨.profilingRun, .exit (.signal 11)⟩]

theorem twoStages_obeyed :
    (Cue.mk .optimizedBuild .missing).stage ≠ (Cue.mk .profilingRun (.exit (.signal 11))).stage ∧
      scripted twoStages =
        scripted [⟨.profilingRun, .exit (.signal 11)⟩, ⟨.optimizedBuild, .missing⟩] ∧
      Runner.outcomes run (scripted twoStages) [build] =
        [.error (.missingCommand .optimizedBuild "cargo")] := by
  obtain ⟨houtcomes, -, hswap, -⟩ := script_obeyed_iff twoStages [build]
  refine ⟨by decide, hswap [] _ _ [] rfl (by decide), ?_⟩
  rw [houtcomes, ← programName_build]
  rfl

/-- The optimized build is told to be missing first, and then to exit. -/
def exitLast : List Cue :=
  [⟨.optimizedBuild, .missing⟩, ⟨.optimizedBuild, .exit (.code 3)⟩]

theorem exitLast_overruled :
    asked exitLast build = .ok (.code 3) ∧
      Runner.outcomes run (scripted exitLast) [build] =
        [.error (.missingCommand .optimizedBuild "cargo")] := by
  refine ⟨rfl, ?_⟩
  rw [← programName_build]
  rfl

end ProfiledBuild.Recording
