import Mathlib.Data.List.Basic
import ProfiledBuild.Proofs.CommandLine

/-! The words of a command line one by one: what each of them gives to an option, and what it does to
what has been read so far. -/

namespace ProfiledBuild

namespace Arguments

def separator : Octets := Utf8.encode "--"

def optionWord (o : ValueOption) : Octets := Utf8.encode ("--" ++ o.name)

/-- What the words before any `--` give to an option, once for each time that it stands there: the rest
of the word behind its name and `=`, or the next word if there is one. -/
def givenTo (o : ValueOption) : List Octets → List (Option Octets)
  | [] => []
  | word :: rest =>
    if word = separator then []
    else if word = optionWord o then rest.head? :: givenTo o rest
    else match (optionWord o ++ [equalsSign]).isPrefixOf? word with
      | some value => some value :: givenTo o rest
      | none => givenTo o rest

theorem splitValue_eq (s : Octets) :
    s = (splitValue s).1 ++ (splitValue s).2.elim [] (equalsSign :: ·) := by
  induction s with
  | nil => rfl
  | cons b s ih =>
    by_cases hb : b = equalsSign
    · rw [splitValue, if_pos hb, hb]
      rfl
    · rw [splitValue, if_neg hb]
      exact congrArg (b :: ·) ih

theorem ofOctets_separator : Token.ofOctets separator = .separator := by decide

theorem eq_of_ofOctets_separator {w : Octets} (h : Token.ofOctets w = .separator) :
    w = separator := by
  match w with
  | [] | [_] => cases h
  | b :: c :: rest =>
    rw [Token.ofOctets] at h
    by_cases hb : b = hyphen
    · by_cases hc : c = hyphen
      · by_cases hrest : rest = []
        · rw [hb, hc, hrest]
          rfl
        · simp [hb, hc, hrest] at h
      · simp [hb, hc] at h
    · simp [hb] at h

theorem eq_of_ofOctets_long {w name : Octets} {value : Option Octets}
    (h : Token.ofOctets w = .long name value) :
    w = hyphen :: hyphen :: (name ++ value.elim [] (equalsSign :: ·)) := by
  match w with
  | [] | [_] => cases h
  | b :: c :: rest =>
    rw [Token.ofOctets] at h
    by_cases hb : b = hyphen
    · by_cases hc : c = hyphen
      · by_cases hrest : rest = []
        · simp [hb, hc, hrest] at h
        · rw [if_pos hb, if_pos hc, if_neg hrest, Token.long.injEq] at h
          rw [hb, hc, ← h.1, ← h.2, ← splitValue_eq]
      · simp [hb, hc] at h
    · simp [hb] at h

/-- An option with its value in the same word, or alone. -/
theorem ofOctets_optionWord (o : ValueOption) (value : Option Octets) :
    Token.ofOctets (optionWord o ++ value.elim [] (equalsSign :: ·)) =
      .long (Utf8.encode o.name) value := by
  obtain ⟨hne, hequals, -⟩ := name_spec o
  cases value with
  | none =>
    rw [Option.elim_none, List.append_nil]
    exact ofOctets_name hne hequals
  | some v => exact ofOctets_joined v hequals

theorem name_inj {o o' : ValueOption} (h : Utf8.encode o.name = Utf8.encode o'.name) : o = o' := by
  have hname := (name_spec o).2.2
  rw [Utf8.encode_injective h, (name_spec o').2.2] at hname
  exact (Option.some.inj hname).symm

theorem givenTo_separator (o : ValueOption) (rest : List Octets) :
    givenTo o (separator :: rest) = [] :=
  if_pos rfl

theorem givenTo_other {o : ValueOption} {w : Octets} (rest : List Octets)
    (hsep : Token.ofOctets w ≠ .separator)
    (hname : ∀ value, Token.ofOctets w ≠ .long (Utf8.encode o.name) value) :
    givenTo o (w :: rest) = givenTo o rest := by
  have hnot : w ≠ separator := by
    rintro rfl
    exact hsep ofOctets_separator
  have hapart : w ≠ optionWord o := by
    rintro rfl
    exact hname none (List.append_nil (optionWord o) ▸ ofOctets_optionWord o none)
  have hjoined : (optionWord o ++ [equalsSign]).isPrefixOf? w = none := by
    rw [Option.eq_none_iff_forall_ne_some]
    intro v hv
    rw [List.isPrefixOf?_eq_some_iff_append_eq, List.append_assoc] at hv
    exact hname (some v) (hv ▸ ofOctets_optionWord o (some v))
  rw [givenTo, if_neg hnot, if_neg hapart, hjoined]

theorem givenTo_optionWord (o o' : ValueOption) (value : Option Octets) (rest : List Octets) :
    givenTo o ((optionWord o' ++ value.elim [] (equalsSign :: ·)) :: rest) =
      (if o' = o then [value.or rest.head?] else []) ++ givenTo o rest := by
  have htoken := ofOctets_optionWord o' value
  by_cases ho : o' = o
  · subst ho
    have hnot : optionWord o' ++ value.elim [] (equalsSign :: ·) ≠ separator := by
      intro h
      rw [h, ofOctets_separator] at htoken
      cases htoken
    rw [if_pos rfl, List.singleton_append]
    cases value with
    | none =>
      have hname : optionWord o' ++ (none : Option Octets).elim [] (equalsSign :: ·) =
          optionWord o' := List.append_nil _
      rw [givenTo, if_neg hnot, if_pos hname, Option.none_or]
    | some v =>
      have hapart : optionWord o' ++ equalsSign :: v ≠ optionWord o' := by simp
      have hvalue : (optionWord o' ++ [equalsSign]).isPrefixOf? (optionWord o' ++ equalsSign :: v) =
          some v := by
        rw [List.isPrefixOf?_eq_some_iff_append_eq, List.append_assoc, List.singleton_append]
      rw [givenTo, if_neg hnot, Option.elim_some, if_neg hapart, hvalue, Option.some_or]
  · rw [if_neg ho, List.nil_append]
    refine givenTo_other rest (by simp [htoken]) fun value' hvalue => ?_
    rw [htoken, Token.long.injEq] at hvalue
    exact ho (name_inj hvalue.1)

theorem exists_of_bind_eq_ok {ε α β : Type} {x : Except ε α} {f : α → Except ε β} {b : β}
    (h : (x >>= f) = .ok b) : ∃ a, x = .ok a ∧ f a = .ok b := by
  cases x with
  | error e => cases h
  | ok a => exact ⟨a, rfl, h⟩

namespace Reading

variable {r r' k : Reading} {o : ValueOption} {v w : Octets}

/-- The value that an option has got, as it was written. -/
def taken (r : Reading) : ValueOption → Option Octets
  | .buildTool => r.buildTool.map (·.octets)
  | .targetBinary => r.targetBinary.map (·.octets)
  | .logFormat => r.logFormat.map fun f => Utf8.encode f.word

/-- Only the three values matter for what is taken. -/
theorem taken_mk (r : Reading) (pending : Option Pending) (separated met : Bool)
    (workload : Option Path) (dryRun : Bool) :
    taken ⟨pending, separated, met, workload, r.buildTool, r.targetBinary, r.logFormat, dryRun⟩ =
      r.taken := by
  funext o
  cases o <;> rfl

theorem has_eq (r : Reading) (o : ValueOption) : r.has o = (r.taken o).isSome := by
  cases o with
  | buildTool | targetBinary | logFormat => exact Option.isSome_map.symm

theorem pathValue_eq_ok {argument : String} {p : Path} (h : pathValue argument v = .ok p) :
    v ≠ [] ∧ p = ⟨v⟩ := by
  rw [pathValue] at h
  by_cases hv : v = []
  · rw [if_pos hv] at h
    cases h
  · rw [if_neg hv] at h
    cases h
    exact ⟨hv, rfl⟩

theorem formatValue_eq_ok {f : LogFormat} (h : formatValue v = .ok f) :
    v = Utf8.encode f.word := by
  rw [formatValue] at h
  cases hv : Utf8.decode? v with
  | none => simp [hv] at h
  | some s =>
    have hlookup : LogFormat.named.lookup s = some f := by
      cases hf : LogFormat.named.lookup s with
      | none =>
        simp only [hv, hf] at h
        split at h <;> cases h
      | some f' =>
        simp only [hv, hf] at h
        cases h
        rfl
    have hword : s = f.word := by
      obtain ⟨before, after, hnamed, -⟩ := List.lookup_eq_some_iff.mp hlookup
      have hmem : (s, f) ∈ LogFormat.named := by
        rw [hnamed]
        exact List.mem_append_right before List.mem_cons_self
      simp only [LogFormat.named, List.mem_cons, List.not_mem_nil, Prod.mk.injEq, or_false] at hmem
      rcases hmem with ⟨rfl, rfl⟩ | ⟨rfl, rfl⟩ <;> rfl
    rw [← hword]
    exact (Utf8.decode?_eq_some_iff.mp hv).symm

/-- `k` is `r` with a first value for an option. -/
structure Puts (r : Reading) (o : ValueOption) (v : Octets) (k : Reading) : Prop where
  absent : r.taken o = none
  nonempty : v ≠ []
  taken : ∀ o', k.taken o' = if o' = o then some v else r.taken o'
  pending : k.pending = r.pending
  separated : k.separated = r.separated
  workload : k.workload = r.workload

theorem puts_of_set (h : r.set o v = .ok k) : r.Puts o v k := by
  by_cases hhas : r.has o = true
  · simp [Reading.set, hhas] at h
  · simp only [Reading.set, hhas] at h
    have absent : r.taken o = none := by
      rw [has_eq, Option.not_isSome_iff_eq_none] at hhas
      exact hhas
    cases o with
    | buildTool =>
      obtain ⟨p, hp, hk⟩ := exists_of_bind_eq_ok h
      obtain ⟨hv, rfl⟩ := pathValue_eq_ok hp
      cases hk
      exact ⟨absent, hv, fun o' => by cases o' <;> rfl, rfl, rfl, rfl⟩
    | targetBinary =>
      obtain ⟨p, hp, hk⟩ := exists_of_bind_eq_ok h
      obtain ⟨hv, rfl⟩ := pathValue_eq_ok hp
      cases hk
      exact ⟨absent, hv, fun o' => by cases o' <;> rfl, rfl, rfl, rfl⟩
    | logFormat =>
      obtain ⟨f, hf, hk⟩ := exists_of_bind_eq_ok h
      have hv := formatValue_eq_ok hf
      cases hk
      subst hv
      exact ⟨absent, by cases f <;> decide, fun o' => by cases o' <;> rfl, rfl, rfl, rfl⟩

/-- `k` is `r` with what was pending in its place. -/
inductive Settles (r : Reading) : Reading → Prop
  | nothing : r.pending = none → Settles r r
  | value {o : ValueOption} {v : Octets} {k : Reading} : r.pending = some (.option o (some v)) →
      Puts { r with pending := none } o v k → Settles r k
  | workload {v : Octets} : r.pending = some (.workload v) → v ≠ [] →
      Settles r { r with pending := none, workload := some ⟨v⟩ }

theorem settles_of_settle (h : r.settle = .ok k) : r.Settles k := by
  cases hp : r.pending with
  | none =>
    simp only [settle, hp] at h
    cases h
    exact .nothing hp
  | some pending =>
    cases pending with
    | option o value =>
      cases value with
      | none => simp [settle, hp] at h
      | some v =>
        simp only [settle, hp] at h
        exact .value hp (puts_of_set h)
    | workload v =>
      simp only [settle, hp] at h
      obtain ⟨p, hvalue, hk⟩ := exists_of_bind_eq_ok h
      obtain ⟨hv, rfl⟩ := pathValue_eq_ok hvalue
      cases hk
      exact .workload hp hv

theorem Settles.pending (h : r.Settles k) : k.pending = none := by
  cases h with
  | nothing hp => exact hp
  | value _ hputs => exact hputs.pending
  | workload => rfl

theorem Settles.separated (h : r.Settles k) : k.separated = r.separated := by
  cases h with
  | nothing => rfl
  | value _ hputs => exact hputs.separated
  | workload => rfl

/-- One word is read. -/
inductive Reads (r : Reading) : Octets → Reading → Prop
  | separator : r.separated = false → Reads r separator { r with separated := true }
  | name {o : ValueOption} {k : Reading} : r.separated = false → r.Settles k →
      Reads r (optionWord o) { k with pending := some (.option o none) }
  | joined {o : ValueOption} {v : Octets} {k k' : Reading} : r.separated = false → r.Settles k →
      k.Puts o v k' → Reads r (optionWord o ++ equalsSign :: v) k'
  | dryRun {k : Reading} : r.separated = false → r.Settles k →
      Reads r (Utf8.encode "--dry-run") { k with dryRun := true }
  | value {o : ValueOption} {w : Octets} : r.separated = false →
      r.pending = some (.option o none) → Token.ofOctets w = .plain w →
      Reads r w { r with pending := some (.option o (some w)) }
  | workload {w : Octets} {k : Reading} : r.separated = true ∨ Token.ofOctets w = .plain w →
      r.Settles k → Reads r w { k with pending := some (.workload w), workloadMet := true }

theorem reads_of_positional (hw : r.separated = true ∨ Token.ofOctets w = .plain w)
    (h : r.positional w = .ok r') : r.Reads w r' := by
  rw [positional] at h
  by_cases hmet : r.workloadMet = true
  · rw [if_pos hmet] at h
    cases h
  · rw [if_neg hmet] at h
    obtain ⟨k, hk, hr'⟩ := exists_of_bind_eq_ok h
    cases hr'
    exact .workload hw (settles_of_settle hk)

theorem ofOctets_plain_eq (h : Token.ofOctets w = .plain v) : v = w := by
  match w with
  | [] | [_] =>
    cases h
    rfl
  | b :: c :: rest =>
    rw [Token.ofOctets] at h
    repeat' split at h
    all_goals cases h
    rfl

theorem reads_of_plain (hs : r.separated = false) (hw : Token.ofOctets w = .plain w)
    (h : r.plain w = .ok r') : r.Reads w r' := by
  cases hp : r.pending with
  | none =>
    simp only [plain, hp] at h
    exact reads_of_positional (.inr hw) h
  | some pending =>
    cases pending with
    | workload u =>
      simp only [plain, hp] at h
      exact reads_of_positional (.inr hw) h
    | option o value =>
      cases value with
      | none =>
        simp only [plain, hp] at h
        cases h
        exact .value hs hp hw
      | some u =>
        simp only [plain, hp] at h
        exact reads_of_positional (.inr hw) h

theorem short_ne_ok (r : Reading) (letters : Octets) : r.short letters ≠ .ok r' := by
  intro h
  rw [short] at h
  split at h
  · split at h
    · obtain ⟨k, -, hk⟩ := exists_of_bind_eq_ok h
      cases hk
    · cases h
  · cases h

theorem eq_of_optionNamed? {name : String} (h : optionNamed? name = some o) : o.name = name := by
  have hfound := List.find?_some h
  exact of_decide_eq_true hfound

theorem reads_of_long {name : Octets} {value : Option Octets} (hs : r.separated = false)
    (hw : Token.ofOctets w = .long name value) (h : r.long name value = .ok r') :
    r.Reads w r' := by
  have hword := eq_of_ofOctets_long hw
  rw [long] at h
  cases hname : Utf8.decode? name with
  | none => simp [hname] at h
  | some s =>
    have hs' : Utf8.encode s = name := Utf8.decode?_eq_some_iff.mp hname
    rw [← hs', ← List.cons_append, ← List.cons_append, ← encode_option] at hword
    cases ho : optionNamed? s with
    | some o =>
      simp only [hname, ho] at h
      rw [← eq_of_optionNamed? ho] at hword
      obtain ⟨k, hk, hr'⟩ := exists_of_bind_eq_ok h
      cases value with
      | none =>
        cases hr'
        rw [hword, Option.elim_none, List.append_nil]
        exact .name hs (settles_of_settle hk)
      | some v =>
        rw [hword]
        exact .joined hs (settles_of_settle hk) (puts_of_set hr')
    | none =>
      cases value with
      | some v =>
        simp only [hname, ho] at h
        split at h <;> cases h
      | none =>
        simp only [hname, ho] at h
        split at h
        case isTrue hdry =>
          obtain ⟨k, hk, hr'⟩ := exists_of_bind_eq_ok h
          by_cases hdone : k.dryRun = true
          · simp [hdone] at hr'
          · simp only [hdone] at hr'
            cases hr'
            rw [hword, hdry, Option.elim_none, List.append_nil]
            exact .dryRun hs (settles_of_settle hk)
        case isFalse =>
          split at h
          · obtain ⟨k, -, hk⟩ := exists_of_bind_eq_ok h
            cases hk
          · cases h

theorem reads_of_step (h : r.step w = .ok r') : r.Reads w r' := by
  rw [step] at h
  cases hs : r.separated with
  | true =>
    rw [if_pos hs] at h
    exact reads_of_positional (.inl hs) h
  | false =>
    rw [hs, if_neg Bool.false_ne_true] at h
    cases htoken : Token.ofOctets w with
    | separator =>
      simp only [htoken] at h
      cases h
      rw [eq_of_ofOctets_separator htoken]
      exact .separator hs
    | long name value =>
      simp only [htoken] at h
      exact reads_of_long hs htoken h
    | short letters =>
      simp only [htoken] at h
      exact absurd h (short_ne_ok r letters)
    | plain u =>
      simp only [htoken] at h
      obtain rfl := ofOctets_plain_eq htoken
      exact reads_of_plain hs htoken h

end Reading

end Arguments

end ProfiledBuild
