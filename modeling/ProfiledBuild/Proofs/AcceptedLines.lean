import ProfiledBuild.Invocation
import ProfiledBuild.Proofs.Readings

/-! Command lines that are accepted. The words are read in one pass that leaves the last value pending.
What an option has got, what is pending for it, and what the words to come give to it stay the same in
all; so at the end it has what the words give to it, once or not at all. -/

namespace ProfiledBuild

namespace Arguments

namespace Reading

variable {r r' k : Reading} {o : ValueOption} {v w : Octets}

/-- What is pending for an option. A value that is still waited for is the next word. -/
def pendingFor (r : Reading) (o : ValueOption) (words : List Octets) : List (Option Octets) :=
  match r.pending with
  | some (.option o' value) => if o' = o then [value.or words.head?] else []
  | _ => []

/-- What an option gets in all when some words are still to come. -/
def due (r : Reading) (o : ValueOption) (words : List Octets) : List (Option Octets) :=
  (r.taken o).toList.map some ++ r.pendingFor o words ++
    if r.separated then [] else givenTo o words

theorem Settles.due (h : r.Settles k) (o : ValueOption) (words : List Octets) :
    k.due o words = r.due o words := by
  cases h with
  | nothing => rfl
  | @value o' v k hp hputs =>
    have hpending : r.pendingFor o words = if o' = o then [some v] else [] := by
      simp only [pendingFor, hp, Option.some_or]
    have hnone : k.pendingFor o words = [] := by
      simp only [pendingFor, hputs.pending]
    rw [Reading.due, Reading.due, hpending, hnone, hputs.taken, hputs.separated]
    by_cases ho : o' = o
    · subst ho
      have habsent : r.taken o' = none := hputs.absent
      simp [habsent]
    · have htaken : taken { r with pending := none } o = r.taken o := by cases o <;> rfl
      simp [ho, Ne.symm ho, htaken]
  | @workload v hp _ =>
    have htaken : taken { r with pending := none, workload := some ⟨v⟩ } = r.taken := taken_mk ..
    simp only [Reading.due, pendingFor, hp, htaken]

/-- Nothing is to come that an option could wait for. -/
def Stuck (r : Reading) : Prop := r.separated = true ∧ ∃ o, r.pending = some (.option o none)

theorem pendingFor_congr (h : ∀ o, r.pending ≠ some (.option o none))
    (o : ValueOption) (words words' : List Octets) :
    r.pendingFor o words = r.pendingFor o words' := by
  cases hp : r.pending with
  | none => simp only [pendingFor, hp]
  | some pending =>
    cases pending with
    | workload v => simp only [pendingFor, hp]
    | option o' value =>
      cases value with
      | none => exact absurd hp (h o')
      | some v => simp only [pendingFor, hp, Option.some_or]

/-- A word that is read takes nothing away from what is due and adds nothing to it. -/
theorem Reads.due (h : r.Reads w r') (hopen : ¬r'.Stuck) (o : ValueOption) (words : List Octets) :
    r'.due o words = r.due o (w :: words) := by
  cases h with
  | separator hs =>
    have hwaiting (o : ValueOption) : r.pending ≠ some (.option o none) := fun hp =>
      hopen ⟨rfl, o, hp⟩
    have hpending := pendingFor_congr hwaiting o words (Arguments.separator :: words)
    have htaken : taken { r with separated := true } = r.taken := taken_mk ..
    have hsame : pendingFor { r with separated := true } o words = r.pendingFor o words := rfl
    rw [Reading.due, Reading.due, htaken, hsame, hpending, hs, givenTo_separator]
    rfl
  | @name o' k hs hk =>
    have htaken : taken { k with pending := some (.option o' none) } = k.taken := taken_mk ..
    have hpending : k.pendingFor o (optionWord o' :: words) = [] := by
      simp only [pendingFor, hk.pending]
    have hsep : k.separated = false := hk.separated.trans hs
    have hgiven : givenTo o (optionWord o' :: words) =
        (if o' = o then [words.head?] else []) ++ givenTo o words := by
      rw [← List.append_nil (optionWord o')]
      exact givenTo_optionWord o o' none words
    rw [← hk.due, Reading.due, Reading.due, htaken, hpending, hsep, hgiven]
    by_cases ho : o' = o <;> simp [pendingFor, ho]
  | @joined o' v k _ hs hk hputs =>
    have hsep : k.separated = false := hk.separated.trans hs
    have hnone : k.pendingFor o ((optionWord o' ++ equalsSign :: v) :: words) = [] := by
      simp only [pendingFor, hk.pending]
    have hnone' : r'.pendingFor o words = [] := by
      simp only [pendingFor, hputs.pending, hk.pending]
    have hgiven : givenTo o ((optionWord o' ++ equalsSign :: v) :: words) =
        (if o' = o then [some v] else []) ++ givenTo o words :=
      givenTo_optionWord o o' (some v) words
    rw [← hk.due, Reading.due, Reading.due, hnone, hnone', hputs.taken, hputs.separated, hsep,
      hgiven]
    by_cases ho : o' = o
    · subst ho
      simp [hputs.absent]
    · simp [ho, Ne.symm ho]
  | @dryRun k hs hk =>
    have htaken : taken { k with dryRun := true } = k.taken := taken_mk ..
    have hsep : k.separated = false := hk.separated.trans hs
    have hother : givenTo o (Utf8.encode "--dry-run" :: words) = givenTo o words := by
      have htoken : Token.ofOctets (Utf8.encode "--dry-run") =
          .long (Utf8.encode "dry-run") none := by decide
      refine givenTo_other words (by simp [htoken]) fun value hvalue => ?_
      rw [htoken, Token.long.injEq] at hvalue
      cases o <;> exact absurd hvalue.1 (by decide)
    rw [← hk.due, Reading.due, Reading.due, htaken, hother]
    simp [pendingFor, hk.pending]
  | @value o' _ hs hp hw =>
    have htaken : taken { r with pending := some (.option o' (some w)) } = r.taken := taken_mk ..
    have hother : givenTo o (w :: words) = givenTo o words :=
      givenTo_other words (by simp [hw]) fun value => by simp [hw]
    rw [Reading.due, Reading.due, htaken, hother]
    simp [pendingFor, hp]
  | @workload _ k hw hk =>
    have htaken : taken { k with pending := some (.workload w), workloadMet := true } =
        k.taken := taken_mk ..
    have hother : (if k.separated then [] else givenTo o (w :: words)) =
        if k.separated then [] else givenTo o words := by
      rw [hk.separated]
      rcases hw with hs | hw
      · rw [hs, if_pos rfl, if_pos rfl]
      · rw [givenTo_other words (by simp [hw]) fun value => by simp [hw]]
    rw [← hk.due, Reading.due, Reading.due, htaken, hother]
    simp [pendingFor, hk.pending]

/-- The words lead from `r` to a reading that settles as `k`. -/
def Leads (r : Reading) (words : List Octets) (k : Reading) : Prop :=
  ∃ r', words.foldlM step r = .ok r' ∧ r'.settle = .ok k

theorem leads_nil_iff : r.Leads [] k ↔ r.settle = .ok k := by
  constructor
  · rintro ⟨r', hr, hk⟩
    cases hr
    exact hk
  · intro h
    exact ⟨r, rfl, h⟩

theorem Leads.cons {words : List Octets} (h : r.Leads (w :: words) k) :
    ∃ r', r.Reads w r' ∧ r'.Leads words k := by
  obtain ⟨r'', hr, hk⟩ := h
  rw [List.foldlM_cons] at hr
  obtain ⟨r', hstep, hrest⟩ := exists_of_bind_eq_ok hr
  exact ⟨r', reads_of_step hstep, r'', hrest, hk⟩

theorem Leads.not_stuck {words : List Octets} (h : r.Leads words k) : ¬r.Stuck := by
  rintro ⟨hsep, o, hp⟩
  have hunsettled (k : Reading) : ¬r.Settles k := by
    intro hk
    cases hk with
    | nothing hp' => simp [hp] at hp'
    | value hp' => simp [hp] at hp'
    | workload hp' => simp [hp] at hp'
  cases words with
  | nil => exact hunsettled k (settles_of_settle (leads_nil_iff.mp h))
  | cons w words =>
    obtain ⟨r', hread, -⟩ := h.cons
    cases hread with
    | separator hs | name hs | joined hs | dryRun hs | value hs =>
      rw [hsep] at hs
      cases hs
    | workload _ hk => exact hunsettled _ hk

theorem Leads.due {words : List Octets} (h : r.Leads words k) (o : ValueOption) :
    r.due o words = (k.taken o).toList.map some := by
  induction words generalizing r with
  | nil =>
    have hk := settles_of_settle (leads_nil_iff.mp h)
    rw [← hk.due]
    simp [Reading.due, pendingFor, hk.pending, givenTo]
  | cons w words ih =>
    obtain ⟨r', hread, hleads⟩ := h.cons
    rw [← hread.due hleads.not_stuck, ih hleads]

/-- The workload is one of the words, and what is taken is not empty. -/
structure Sound (r : Reading) (words : List Octets) : Prop where
  workload : ∀ p, r.workload = some p → p.octets ∈ words ∧ p.octets ≠ []
  pending : ∀ v, r.pending = some (.workload v) → v ∈ words
  taken : ∀ o v, r.taken o = some v → v ≠ []

theorem Sound.of_eq {words : List Octets} (h : r.Sound words) (hworkload : r'.workload = r.workload)
    (htaken : r'.taken = r.taken)
    (hpending : ∀ v, r'.pending = some (.workload v) → v ∈ words) : r'.Sound words where
  workload := by
    rw [hworkload]
    exact h.workload
  pending := hpending
  taken := by
    rw [htaken]
    exact h.taken

theorem Puts.sound {words : List Octets} (h : r.Puts o v k) (hr : r.Sound words) :
    k.Sound words where
  workload := by
    rw [h.workload]
    exact hr.workload
  pending := by
    rw [h.pending]
    exact hr.pending
  taken o' v' hv' := by
    rw [h.taken] at hv'
    by_cases ho : o' = o
    · rw [if_pos ho] at hv'
      cases hv'
      exact h.nonempty
    · rw [if_neg ho] at hv'
      exact hr.taken o' v' hv'

theorem Settles.sound {words : List Octets} (h : r.Settles k) (hr : r.Sound words) :
    k.Sound words := by
  cases h with
  | nothing => exact hr
  | value hp hputs => exact hputs.sound (hr.of_eq rfl (taken_mk ..) fun v hv => by cases hv)
  | @workload v hp hv =>
    refine ⟨fun p hpath => ?_, fun v' hv' => ?_, fun o v' hv' => ?_⟩
    · cases hpath
      exact ⟨hr.pending v hp, hv⟩
    · cases hv'
    · rw [taken_mk] at hv'
      exact hr.taken o v' hv'

theorem Reads.sound {words : List Octets} (h : r.Reads w r') (hw : w ∈ words)
    (hr : r.Sound words) : r'.Sound words := by
  cases h with
  | separator => exact hr.of_eq rfl (taken_mk ..) hr.pending
  | name _ hk => exact (hk.sound hr).of_eq rfl (taken_mk ..) fun v hv => by cases hv
  | joined _ hk hputs => exact hputs.sound (hk.sound hr)
  | dryRun _ hk => exact (hk.sound hr).of_eq rfl (taken_mk ..) (hk.sound hr).pending
  | value => exact hr.of_eq rfl (taken_mk ..) fun v hv => by cases hv
  | workload _ hk =>
    refine (hk.sound hr).of_eq rfl (taken_mk ..) fun v hv => ?_
    cases hv
    exact hw

theorem Leads.sound {words all : List Octets} (h : r.Leads words k) (hwords : words ⊆ all)
    (hr : r.Sound all) : k.Sound all := by
  induction words generalizing r with
  | nil => exact (settles_of_settle (leads_nil_iff.mp h)).sound hr
  | cons w words ih =>
    obtain ⟨r', hread, hleads⟩ := h.cons
    obtain ⟨hw, hrest⟩ := List.cons_subset.mp hwords
    exact ih hleads hrest (hread.sound hw hr)

theorem sound_empty (words : List Octets) : empty.Sound words where
  workload p hp := by cases hp
  pending v hv := by cases hv
  taken o v hv := by cases o <;> cases hv

theorem exists_of_finish {a : Arguments} (h : r.finish = .ok a) :
    ∃ k, r.settle = .ok k ∧ k.workload = some a.workload ∧
      a.buildTool = k.buildTool.getD (Path.ofString "cargo") ∧ a.targetBinary = k.targetBinary := by
  obtain ⟨k, hk, ha⟩ := exists_of_bind_eq_ok h
  cases hw : k.workload with
  | none => simp [hw] at ha
  | some p =>
    simp only [hw] at ha
    cases ha
    exact ⟨k, hk, hw, rfl, rfl⟩

end Reading

/-- What the arguments have from the words of the command line. -/
structure Granted (words : List Octets) (a : Arguments) : Prop where
  workload_mem : a.workload.octets ∈ words
  workload_ne : a.workload.octets ≠ []
  buildTool_ne : a.buildTool.octets ≠ []
  targetBinary_ne : ∀ p, a.targetBinary = some p → p.octets ≠ []
  buildTool :
    (givenTo .buildTool words = [] ∧ a.buildTool = Path.ofString "cargo") ∨
      givenTo .buildTool words = [some a.buildTool.octets]
  targetBinary :
    (givenTo .targetBinary words = [] ∧ a.targetBinary = none) ∨
      ∃ p, a.targetBinary = some p ∧ givenTo .targetBinary words = [some p.octets]

theorem granted_of_parse {words : List Octets} {a : Arguments} (h : parse words = .ok a) :
    Granted words a := by
  obtain ⟨r, hr, hfinish⟩ := exists_of_bind_eq_ok h
  obtain ⟨k, hk, hworkload, hbuild, htarget⟩ := Reading.exists_of_finish hfinish
  have hleads : Reading.empty.Leads words k := ⟨r, hr, hk⟩
  have hsound := hleads.sound (List.Subset.refl words) (Reading.sound_empty words)
  have hgiven (o : ValueOption) : givenTo o words = (k.taken o).toList.map some := by
    rw [← hleads.due o]
    cases o <;> rfl
  have hbuilt := hgiven .buildTool
  have htargeted := hgiven .targetBinary
  obtain ⟨hmem, hne⟩ := hsound.workload _ hworkload
  have taken_ne (o : ValueOption) {p : Path} (hp : k.taken o = some p.octets) : p.octets ≠ [] :=
    hsound.taken o _ hp
  refine ⟨hmem, hne, ?_, fun p hp => ?_, ?_, ?_⟩
  · cases hb : k.buildTool with
    | none =>
      rw [hbuild, hb]
      decide
    | some p =>
      rw [hbuild, hb]
      exact taken_ne .buildTool (congrArg (Option.map _) hb)
  · rw [htarget] at hp
    exact taken_ne .targetBinary (congrArg (Option.map _) hp)
  · cases hb : k.buildTool with
    | none => exact .inl ⟨by simp [hbuilt, Reading.taken, hb], by rw [hbuild, hb]; rfl⟩
    | some p => exact .inr (by simp [hbuilt, Reading.taken, hbuild, hb])
  · cases ht : k.targetBinary with
    | none => exact .inl ⟨by simp [htargeted, Reading.taken, ht], htarget.trans ht⟩
    | some p => exact .inr ⟨p, htarget.trans ht, by simp [htargeted, Reading.taken, ht]⟩

/-- The arguments of a command line that is accepted are those that its words grant, none of them is
empty, and the program goes on to run the workload. It never ends because the workload is empty. -/
theorem accepted_line_granted (words : List Octets) :
    (∀ a, parse words = .ok a → Granted words a) ∧
    ∀ (t : Target) (ε : Type) (s : System ε) (e : ε) (clock : Clock) (id : RunId),
      (∃ error, parse words = .error error ∧
        Program.runWords t s words e clock id = Program.refuse error e) ∨
      ∃ a w, parse words = .ok a ∧ Workload.ofPath? a.workload = some w ∧
        Program.runWords t s words e clock id = Program.runWorkload t s a w e clock id := by
  refine ⟨fun a h => granted_of_parse h, fun t ε s e clock id => ?_⟩
  cases hparse : parse words with
  | error error => exact .inl ⟨error, rfl, by rw [Program.runWords, hparse]⟩
  | ok a =>
    have hpath : Workload.ofPath? a.workload =
        some ⟨a.workload, (granted_of_parse hparse).workload_ne⟩ :=
      dif_pos (granted_of_parse hparse).workload_ne
    refine .inr ⟨a, _, rfl, hpath, ?_⟩
    simp only [Program.runWords, hparse, Program.runArguments, hpath]

/-- The build tool starts like an option, and the workload behind `--` looks like a second one. -/
def oddLine : List Octets :=
  [Utf8.encode "--build-tool=-=x", Utf8.encode "--target-binary", Utf8.encode "t",
    Utf8.encode "--", Utf8.encode "--build-tool"]

theorem oddLine_granted :
    ∃ a, parse oddLine = .ok a ∧ Granted oddLine a ∧
      a.workload = Path.ofString "--build-tool" ∧ a.buildTool = Path.ofString "-=x" ∧
      givenTo .buildTool oddLine = [some a.buildTool.octets] := by
  have hparse : parse oddLine = .ok ⟨Path.ofString "--build-tool", Path.ofString "-=x",
      some (Path.ofString "t"), false, .pretty⟩ := by decide +kernel
  have hgranted := (accepted_line_granted oddLine).1 _ hparse
  refine ⟨_, hparse, hgranted, rfl, rfl, hgranted.buildTool.resolve_left fun hdefault => ?_⟩
  exact absurd hdefault.2 (by decide)

end Arguments

end ProfiledBuild
