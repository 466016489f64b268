import Mathlib.Data.List.Basic
import ProfiledBuild.Host.Load

/-! How a program is found on a host. The directories of the search path are tried in turn; the
first one decides that has the program, or something else that cannot be passed over. -/

namespace ProfiledBuild

/-- The search goes on past a directory in which the program is not, or may not be used. -/
def StartError.isPassedOver (e : StartError) : Bool :=
  e = .denied || e = .notFound || e = .notDirectory

namespace Host

/-- The program of a name in a directory. -/
def programIn (h : Host) (name : Raw) (args : List Raw) (directory : Raw) :
    Except StartError Image :=
  let path := if directory = [] then name else directory ++ '/' :: name
  h.load path name args interpreterLevels

def isDeniedIn (h : Host) (name : Raw) (args : List Raw) (directory : Raw) : Bool :=
  match h.programIn name args directory with
  | .ok _ => false
  | .error e => e = .denied

/-- What a directory settles about the search, if anything. -/
def verdict (h : Host) (name : Raw) (args : List Raw) (directory : Raw) :
    Option (Except StartError Image) :=
  match h.programIn name args directory with
  | .ok image => some (.ok image)
  | .error e => if e.isPassedOver then none else some (.error e)

variable {h : Host} {name : Raw} {args : List Raw}

theorem verdict_eq_none_iff {directory : Raw} :
    h.verdict name args directory = none ↔
      ∃ e, h.programIn name args directory = .error e ∧ e.isPassedOver = true := by
  rw [verdict]
  cases hd : h.programIn name args directory with
  | ok image => simp
  | error e => cases he : e.isPassedOver <;> simp [he]

theorem verdict_eq_ok_iff {directory : Raw} {image : Image} :
    h.verdict name args directory = some (.ok image) ↔
      h.programIn name args directory = .ok image := by
  rw [verdict]
  cases hd : h.programIn name args directory with
  | ok image' => simp
  | error e => cases he : e.isPassedOver <;> simp [he]

theorem verdict_ne_notFound {directory : Raw} :
    h.verdict name args directory ≠ some (.error .notFound) := by
  rw [verdict]
  cases h.programIn name args directory with
  | ok image => simp
  | error e =>
    cases he : e.isPassedOver with
    | true => simp [he]
    | false =>
      have hne : e ≠ .notFound := by
        rintro rfl
        exact absurd he (by decide)
      simpa [he] using hne

/-- Where no directory settles anything, it is remembered that one of them was denied. -/
theorem search_eq (denied : Bool) (directories : List Raw) :
    h.search name args denied directories =
      (directories.findSome? (h.verdict name args)).getD
        (.error (if denied || directories.any (h.isDeniedIn name args) then .denied
          else .notFound)) := by
  induction directories generalizing denied with
  | nil => simp [search]
  | cons directory rest ih =>
    rw [List.findSome?_cons, List.any_cons]
    cases hd : h.programIn name args directory with
    | ok image =>
      have hload : h.load _ name args interpreterLevels = _ := hd
      simp only [search, hload, verdict, hd, Option.getD_some]
    | error e =>
      have hload : h.load _ name args interpreterLevels = _ := hd
      simp only [search, hload, verdict, isDeniedIn, hd, ih]
      by_cases hdenied : e = .denied
      · simp [hdenied, StartError.isPassedOver]
      · by_cases hmissing : e = .notFound ∨ e = .notDirectory
        · simp [hdenied, hmissing, StartError.isPassedOver]
        · simp [hdenied, hmissing, StartError.isPassedOver]

/-- A name that is looked for in the search path. -/
def IsSearched (name : Raw) : Prop := name ≠ [] ∧ '/' ∉ name ∧ name.length ≤ 255

theorem find_eq_search (hname : IsSearched name) (searchPath : Raw) :
    h.find searchPath name args = h.search name args false (Raw.splitOn ':' searchPath) := by
  obtain ⟨hne, hslash, hlength⟩ := hname
  rw [find, if_neg hne, if_neg (by simpa using hslash), if_neg (by omega)]

/-- The program that is found is that of the first directory that has it, and before that one all
are passed over. -/
theorem find_eq_ok_iff (hname : IsSearched name) {searchPath : Raw} {image : Image} :
    h.find searchPath name args = .ok image ↔
      ∃ before directory after, Raw.splitOn ':' searchPath = before ++ directory :: after ∧
        h.programIn name args directory = .ok image ∧
        ∀ d ∈ before, ∃ e, h.programIn name args d = .error e ∧ e.isPassedOver = true := by
  have hsettled : h.find searchPath name args = .ok image ↔
      (Raw.splitOn ':' searchPath).findSome? (h.verdict name args) = some (.ok image) := by
    rw [find_eq_search hname, search_eq]
    cases (Raw.splitOn ':' searchPath).findSome? (h.verdict name args) <;> simp
  rw [hsettled, List.findSome?_eq_some_iff]
  simp only [verdict_eq_ok_iff, verdict_eq_none_iff]

theorem exists_missing_iff {directory : Raw} :
    (∃ e, h.programIn name args directory = .error e ∧ (e = .notFound ∨ e = .notDirectory)) ↔
      h.verdict name args directory = none ∧ h.isDeniedIn name args directory = false := by
  rw [verdict, isDeniedIn]
  cases h.programIn name args directory with
  | ok image => simp
  | error e =>
    by_cases hdenied : e = .denied
    · subst hdenied
      simp [StartError.denied, StartError.notFound, StartError.notDirectory]
    · by_cases hmissing : e = .notFound ∨ e = .notDirectory <;>
        simp [StartError.isPassedOver, hdenied, hmissing]

/-- A program is missing if no directory has it or could keep it back. -/
theorem find_eq_notFound_iff (hname : IsSearched name) {searchPath : Raw} :
    h.find searchPath name args = .error .notFound ↔
      ∀ d ∈ Raw.splitOn ':' searchPath, ∃ e, h.programIn name args d = .error e ∧
        (e = .notFound ∨ e = .notDirectory) := by
  simp only [exists_missing_iff]
  rw [find_eq_search hname, search_eq, Bool.false_or]
  cases hsettled : (Raw.splitOn ':' searchPath).findSome? (h.verdict name args) with
  | none =>
    rw [List.findSome?_eq_none_iff] at hsettled
    rw [Option.getD_none]
    constructor
    · intro hmissing d hd
      refine ⟨hsettled d hd, ?_⟩
      rw [← Bool.not_eq_true]
      intro hdenied
      rw [if_pos (List.any_eq_true.mpr ⟨d, hd, hdenied⟩)] at hmissing
      exact absurd hmissing (by decide)
    · intro hall
      rw [if_neg]
      rw [List.any_eq_true]
      rintro ⟨d, hd, hdenied⟩
      exact absurd hdenied (by simp [(hall d hd).2])
  | some result =>
    obtain ⟨before, d, after, hdirectories, hd, -⟩ := List.findSome?_eq_some_iff.mp hsettled
    rw [Option.getD_some]
    constructor
    · rintro rfl
      exact absurd hd verdict_ne_notFound
    · intro hall
      have hmem : d ∈ Raw.splitOn ':' searchPath := by simp [hdirectories]
      rw [(hall d hmem).1] at hd
      cases hd

/-- A program that can be run is a tool, or a file that leads to one by its interpreter. -/
theorem load_cases {path : Raw} {levels : Nat} {image : Image}
    (hload : h.load path name args levels = .ok image) :
    (∀ a ∈ args, a.length < longestArgument) ∧
      ((∃ tool, h.lookup path = .ok (.tool tool) ∧ image = ⟨tool, name, args⟩) ∨
        ∃ contents interpreter argument fewer, levels = fewer + 1 ∧
          h.lookup path = .ok (.file contents true) ∧
          interpreter? contents = some (interpreter, argument) ∧
          h.load interpreter interpreter (argument ++ path :: args) fewer = .ok image) := by
  rw [load] at hload
  cases hnode : h.lookup path with
  | error e =>
    rw [hnode] at hload
    cases hload
  | ok node =>
    simp only [hnode, bind, Except.bind] at hload
    by_cases hlong : (args.any fun a => longestArgument ≤ a.length) = true
    · simp only [hlong, if_true] at hload
      split at hload
      · split at hload <;> cases hload
      · cases levels <;> cases hload
      · cases hload
    · have hargs : ∀ a ∈ args, a.length < longestArgument := by simpa using hlong
      simp only [hlong] at hload
      refine ⟨hargs, ?_⟩
      cases node with
      | tool tool =>
        by_cases hzero : levels = 0
        · simp only [hzero, if_true] at hload
          cases hload
        · simp only [hzero] at hload
          cases hload
          exact Or.inl ⟨tool, rfl, rfl⟩
      | file contents executable =>
        right
        cases executable with
        | false => cases hload
        | true =>
          cases levels with
          | zero => cases hload
          | succ fewer =>
            cases hinterpreter : interpreter? contents with
            | none =>
              simp only [hinterpreter] at hload
              cases hload
            | some found =>
              obtain ⟨interpreter, argument⟩ := found
              simp only [hinterpreter] at hload
              exact ⟨contents, interpreter, argument, fewer, rfl, rfl, hinterpreter, hload⟩
      | directory => cases hload
      | device device => cases hload
      | link target => cases hload

/-- However many interpreters are put before it, a program gets its arguments as they are. -/
theorem load_args {path : Raw} {levels : Nat} {image : Image}
    (hload : h.load path name args levels = .ok image) : args <:+ image.args := by
  induction levels generalizing path name args with
  | zero =>
    obtain ⟨-, ⟨tool, -, rfl⟩ | ⟨contents, interpreter, argument, fewer, hlevels, -⟩⟩ :=
      load_cases hload
    · exact List.suffix_refl args
    · cases hlevels
  | succ levels ih =>
    obtain ⟨-, ⟨tool, -, rfl⟩ | ⟨contents, interpreter, argument, fewer, hlevels, -, -, hrest⟩⟩ :=
      load_cases hload
    · exact List.suffix_refl args
    · cases hlevels
      exact ((List.suffix_cons path args).trans (List.suffix_append argument _)).trans (ih hrest)

end Host

end ProfiledBuild
