import ProfiledBuild.Arguments.Reader
import ProfiledBuild.Proofs.Text.Utf8

/-! Command lines and what they ask for. The options may come in any order and each in either
spelling, and the workload anywhere among them: all these command lines read alike. -/

namespace ProfiledBuild

def LogFormat.word : LogFormat → String
  | .pretty => "pretty"
  | .json => "json"

namespace Arguments

abbrev Word := { octets : Octets // octets ≠ [] }

def Word.path (w : Word) : Path := ⟨w.val⟩

/-- What a command line asks for: a workload, and some of the options. -/
structure Request where
  workload : Word
  buildTool : Option Word
  targetBinary : Option Word
  logFormat : Option LogFormat
  dryRun : Bool

inductive Item where
  | value (option : ValueOption)
  | dryRun
  deriving DecidableEq

def Item.all : List Item := ValueOption.all.map .value ++ [.dryRun]

namespace Request

def value? (q : Request) : ValueOption → Option Octets
  | .buildTool => q.buildTool.map (·.val)
  | .targetBinary => q.targetBinary.map (·.val)
  | .logFormat => q.logFormat.map fun f => Utf8.encode f.word

def gives (q : Request) : Item → Bool
  | .value o => (q.value? o).isSome
  | .dryRun => q.dryRun

/-- What is not given has its default. -/
def arguments (q : Request) : Arguments where
  workload := q.workload.path
  buildTool := (q.buildTool.map Word.path).getD (Path.ofString "cargo")
  targetBinary := q.targetBinary.map Word.path
  dryRun := q.dryRun
  logFormat := q.logFormat.getD .pretty

/-- The words of one option. A value that starts with a hyphen stands in one word with its name. -/
inductive Spelled (q : Request) : Item → List Octets → Prop
  | dryRun : q.dryRun = true → Spelled q .dryRun [Utf8.encode "--dry-run"]
  | joined {o : ValueOption} {v : Octets} : q.value? o = some v →
      Spelled q (.value o) [Utf8.encode ("--" ++ o.name) ++ equalsSign :: v]
  | apart {o : ValueOption} {v : Octets} : q.value? o = some v → v.head? ≠ some hyphen →
      Spelled q (.value o) [Utf8.encode ("--" ++ o.name), v]

inductive Spells (q : Request) : List Item → List Octets → Prop
  | nil : Spells q [] []
  | cons {i : Item} {is : List Item} {words more : List Octets} :
      q.Spelled i words → Spells q is more → Spells q (i :: is) (words ++ more)

/-- The command lines of a request. The options that it gives come once each, in any order; the
workload stands among them, or after all of them behind `--`. -/
inductive Renders (q : Request) : List Octets → Prop
  | among {before after : List Item} {words more : List Octets} :
      (before ++ after).Perm (Item.all.filter q.gives) → q.Spells before words →
      q.Spells after more → q.workload.val.head? ≠ some hyphen →
      Renders q (words ++ q.workload.val :: more)
  | last {items : List Item} {words : List Octets} :
      items.Perm (Item.all.filter q.gives) → q.Spells items words →
      Renders q (words ++ [Utf8.encode "--", q.workload.val])

end Request

theorem encode_option (s : String) :
    Utf8.encode ("--" ++ s) = hyphen :: hyphen :: Utf8.encode s := by
  rw [Utf8.encode_append]
  rfl

theorem splitValue_name {name : Octets} (h : equalsSign ∉ name) :
    splitValue name = (name, none) := by
  induction name with
  | nil => rfl
  | cons b name ih =>
    rw [List.mem_cons, not_or] at h
    rw [splitValue, if_neg (Ne.symm h.1), ih h.2]

theorem splitValue_joined {name : Octets} (v : Octets) (h : equalsSign ∉ name) :
    splitValue (name ++ equalsSign :: v) = (name, some v) := by
  induction name with
  | nil => rfl
  | cons b name ih =>
    rw [List.mem_cons, not_or] at h
    rw [List.cons_append, splitValue, if_neg (Ne.symm h.1), ih h.2]

theorem ofOctets_name {s : String} (hne : Utf8.encode s ≠ []) (h : equalsSign ∉ Utf8.encode s) :
    Token.ofOctets (Utf8.encode ("--" ++ s)) = .long (Utf8.encode s) none := by
  rw [encode_option, Token.ofOctets, if_pos rfl, if_pos rfl, if_neg hne, splitValue_name h]

theorem ofOctets_joined {s : String} (v : Octets) (h : equalsSign ∉ Utf8.encode s) :
    Token.ofOctets (Utf8.encode ("--" ++ s) ++ equalsSign :: v) =
      .long (Utf8.encode s) (some v) := by
  rw [encode_option, List.cons_append, List.cons_append, Token.ofOctets, if_pos rfl, if_pos rfl,
    if_neg (by simp), splitValue_joined v h]

theorem ofOctets_plain {v : Octets} (hne : v ≠ []) (h : v.head? ≠ some hyphen) :
    Token.ofOctets v = .plain v := by
  match v with
  | [] => exact absurd rfl hne
  | [_] => rfl
  | b :: c :: rest =>
    have plain : b ≠ hyphen := by simpa using h
    rw [Token.ofOctets, if_neg plain]

theorem Request.value?_ne_nil {q : Request} {o : ValueOption} {v : Octets}
    (h : q.value? o = some v) : v ≠ [] := by
  cases o with
  | buildTool | targetBinary =>
    obtain ⟨w, -, rfl⟩ := Option.map_eq_some_iff.mp h
    exact w.property
  | logFormat =>
    obtain ⟨f, -, rfl⟩ := Option.map_eq_some_iff.mp h
    cases f <;> decide

theorem name_spec (o : ValueOption) :
    Utf8.encode o.name ≠ [] ∧ equalsSign ∉ Utf8.encode o.name ∧
      Reading.optionNamed? o.name = some o := by
  cases o <;> decide

namespace Reading

theorem long_name (r : Reading) (o : ValueOption) (value : Option Octets) :
    r.long (Utf8.encode o.name) value = r.valueOption o value := by
  simp only [long, Utf8.decode?_encode, (name_spec o).2.2]

theorem long_dryRun (r : Reading) : r.long (Utf8.encode "dry-run") none = r.dryRunFlag := by
  have noOption : optionNamed? "dry-run" = none := by decide
  simp only [long, Utf8.decode?_encode, noOption, if_true]

theorem step_name {r : Reading} (o : ValueOption) (h : r.separated = false) :
    r.step (Utf8.encode ("--" ++ o.name)) = r.valueOption o none := by
  obtain ⟨hne, hsign, -⟩ := name_spec o
  rw [step, h, if_neg Bool.false_ne_true, ofOctets_name hne hsign]
  exact r.long_name o none

theorem step_joined {r : Reading} (o : ValueOption) (v : Octets) (h : r.separated = false) :
    r.step (Utf8.encode ("--" ++ o.name) ++ equalsSign :: v) = r.valueOption o (some v) := by
  obtain ⟨-, hsign, -⟩ := name_spec o
  rw [step, h, if_neg Bool.false_ne_true, ofOctets_joined v hsign]
  exact r.long_name o (some v)

theorem step_dryRun {r : Reading} (h : r.separated = false) :
    r.step (Utf8.encode "--dry-run") = r.dryRunFlag := by
  have token : Token.ofOctets (Utf8.encode "--dry-run") = .long (Utf8.encode "dry-run") none :=
    ofOctets_name (s := "dry-run") (by decide) (by decide)
  rw [step, h, if_neg Bool.false_ne_true, token]
  exact r.long_dryRun

def separate (r : Reading) : Reading := { r with separated := true }

theorem step_separator {r : Reading} (h : r.separated = false) :
    r.step (Utf8.encode "--") = .ok r.separate := by
  have token : Token.ofOctets (Utf8.encode "--") = .separator := by decide
  rw [step, h, if_neg Bool.false_ne_true, token]
  rfl

theorem step_plain {r : Reading} {v : Octets} (hne : v ≠ []) (hv : v.head? ≠ some hyphen)
    (h : r.separated = false) : r.step v = r.plain v := by
  rw [step, h, if_neg Bool.false_ne_true, ofOctets_plain hne hv]

/-- What is known of a request after some of its options, and maybe its workload. -/
def known (q : Request) (taken : List Item) (met : Bool) : Reading where
  pending := none
  separated := false
  workloadMet := met
  workload := if met then some q.workload.path else none
  buildTool := if .value .buildTool ∈ taken then q.buildTool.map Word.path else none
  targetBinary := if .value .targetBinary ∈ taken then q.targetBinary.map Word.path else none
  logFormat := if .value .logFormat ∈ taken then q.logFormat else none
  dryRun := decide (.dryRun ∈ taken)

/-- The reading `r` has come as far as `known q taken met`. -/
structure Reaches (r : Reading) (q : Request) (taken : List Item) (met : Bool) : Prop where
  separated : r.separated = false
  workloadMet : r.workloadMet = met
  settle : r.settle = .ok (known q taken met)

variable {q : Request} {taken : List Item} {met : Bool} {r : Reading}

theorem reaches_known (q : Request) (taken : List Item) (met : Bool) :
    (known q taken met).Reaches q taken met :=
  ⟨rfl, rfl, rfl⟩

theorem pathValue_word (argument : String) (w : Word) :
    pathValue argument w.val = .ok w.path :=
  if_neg w.property

theorem formatValue_word (f : LogFormat) : formatValue (Utf8.encode f.word) = .ok f := by
  rw [formatValue, Utf8.decode?_encode]
  cases f <;> rfl

/-- A value that has not been given before is taken. -/
theorem set_known {o : ValueOption} {v : Octets} (hv : q.value? o = some v)
    (hnew : .value o ∉ taken) :
    (known q taken met).set o v = .ok (known q (.value o :: taken) met) := by
  cases o with
  | buildTool =>
    obtain ⟨w, hw, rfl⟩ := Option.map_eq_some_iff.mp hv
    simp [set, has, known, hnew, hw, pathValue_word, bind, Except.bind, pure, Except.pure]
  | targetBinary =>
    obtain ⟨w, hw, rfl⟩ := Option.map_eq_some_iff.mp hv
    simp [set, has, known, hnew, hw, pathValue_word, bind, Except.bind, pure, Except.pure]
  | logFormat =>
    obtain ⟨f, hf, rfl⟩ := Option.map_eq_some_iff.mp hv
    simp [set, has, known, hnew, hf, formatValue_word, bind, Except.bind, pure, Except.pure]

theorem Reaches.joined {o : ValueOption} {v : Octets} (h : r.Reaches q taken met)
    (hv : q.value? o = some v) (hnew : .value o ∉ taken) :
    r.step (Utf8.encode ("--" ++ o.name) ++ equalsSign :: v) =
      .ok (known q (.value o :: taken) met) := by
  rw [step_joined o v h.separated, valueOption, h.settle]
  exact set_known hv hnew

theorem Reaches.apart {o : ValueOption} {v : Octets} (h : r.Reaches q taken met)
    (hv : q.value? o = some v) (hnew : .value o ∉ taken) (hplain : v.head? ≠ some hyphen) :
    ∃ r', [Utf8.encode ("--" ++ o.name), v].foldlM step r = .ok r' ∧
      r'.Reaches q (.value o :: taken) met := by
  have name : r.step (Utf8.encode ("--" ++ o.name)) =
      .ok { known q taken met with pending := some (.option o none) } := by
    rw [step_name o h.separated, valueOption, h.settle]
    rfl
  have hne : v ≠ [] := q.value?_ne_nil hv
  have value : step { known q taken met with pending := some (.option o none) } v =
      .ok { known q taken met with pending := some (.option o (some v)) } :=
    step_plain hne hplain rfl
  refine ⟨{ known q taken met with pending := some (.option o (some v)) }, ?_, rfl, rfl,
    set_known hv hnew⟩
  simp only [List.foldlM_cons, List.foldlM_nil, name, value, bind, Except.bind, pure, Except.pure]

theorem Reaches.dryRun (h : r.Reaches q taken met) (hnew : .dryRun ∉ taken) :
    r.step (Utf8.encode "--dry-run") = .ok (known q (.dryRun :: taken) met) := by
  rw [step_dryRun h.separated, dryRunFlag, h.settle]
  simp [known, hnew, bind, Except.bind]

theorem Reaches.item {i : Item} {words : List Octets} (h : r.Reaches q taken met)
    (hwords : q.Spelled i words) (hnew : i ∉ taken) :
    ∃ r', words.foldlM step r = .ok r' ∧ r'.Reaches q (i :: taken) met := by
  cases hwords with
  | dryRun _ =>
    refine ⟨_, ?_, reaches_known q _ met⟩
    simp only [List.foldlM_cons, List.foldlM_nil, h.dryRun hnew, bind, Except.bind, pure,
      Except.pure]
  | joined hv =>
    refine ⟨_, ?_, reaches_known q _ met⟩
    simp only [List.foldlM_cons, List.foldlM_nil, h.joined hv hnew, bind, Except.bind, pure,
      Except.pure]
  | apart hv hplain => exact h.apart hv hnew hplain

theorem Reaches.items {is : List Item} {words : List Octets} (h : r.Reaches q taken met)
    (hwords : q.Spells is words) (hnew : (is ++ taken).Nodup) :
    ∃ r', words.foldlM step r = .ok r' ∧ r'.Reaches q (is.reverse ++ taken) met := by
  induction hwords generalizing r taken with
  | nil => exact ⟨r, rfl, h⟩
  | @cons i is words more hi _ ih =>
    rw [List.cons_append, List.nodup_cons, List.mem_append, not_or] at hnew
    obtain ⟨⟨hnot, hi'⟩, hrest⟩ := hnew
    obtain ⟨r', hr', reaches⟩ := h.item hi hi'
    have nodup : (is ++ i :: taken).Nodup := by
      rw [List.perm_middle.nodup_iff, List.nodup_cons, List.mem_append, not_or]
      exact ⟨⟨hnot, hi'⟩, hrest⟩
    obtain ⟨r'', hr'', reaches'⟩ := ih reaches nodup
    refine ⟨r'', ?_, by rwa [List.reverse_cons, List.append_assoc]⟩
    rw [List.foldlM_append, hr']
    exact hr''

/-- A plain word is the workload unless an option is waiting for its value. -/
theorem plain_of_settle {k : Reading} (v : Octets) (h : r.settle = .ok k) :
    r.plain v = r.positional v := by
  cases hp : r.pending with
  | none => rw [plain, hp]
  | some pending =>
    cases pending with
    | workload octets => rw [plain, hp]
    | option o value =>
      cases value with
      | none => simp [settle, hp] at h
      | some value => rw [plain, hp]

/-- The first plain word is the workload. -/
theorem positional_word {k : Reading} (w : Word) (hmet : r.workloadMet = false)
    (h : r.settle = .ok k) :
    ∃ r', r.positional w.val = .ok r' ∧ r'.separated = k.separated ∧ r'.workloadMet = true ∧
      r'.settle =
        .ok { k with pending := none, workloadMet := true, workload := some w.path } := by
  refine ⟨{ k with pending := some (.workload w.val), workloadMet := true }, ?_, rfl, rfl, ?_⟩
  · rw [positional, hmet, if_neg Bool.false_ne_true, h]
    rfl
  · simp only [settle, pathValue_word, bind, Except.bind, pure, Except.pure]

theorem Reaches.workload (h : r.Reaches q taken false)
    (hplain : q.workload.val.head? ≠ some hyphen) :
    ∃ r', r.step q.workload.val = .ok r' ∧ r'.Reaches q taken true := by
  obtain ⟨r', hr', separated, met, settles⟩ := positional_word q.workload h.workloadMet h.settle
  refine ⟨r', ?_, separated, met, settles⟩
  rw [step_plain q.workload.property hplain h.separated, plain_of_settle _ h.settle, hr']

theorem set_separate (r : Reading) (o : ValueOption) (v : Octets) :
    r.separate.set o v = (r.set o v).map separate := by
  have same : r.separate.has o = r.has o := by cases o <;> rfl
  by_cases h : r.has o = true
  · simp only [Reading.set, same, h, if_true]
    rfl
  · simp only [Reading.set, same, h]
    cases o with
    | buildTool => cases pathValue ValueOption.buildTool.usage v <;> rfl
    | targetBinary => cases pathValue ValueOption.targetBinary.usage v <;> rfl
    | logFormat => cases formatValue v <;> rfl

/-- Whether `--` has been met plays no part in what is pending. -/
theorem settle_separate (r : Reading) : r.separate.settle = r.settle.map separate := by
  obtain ⟨pending, separated, met, workload, buildTool, targetBinary, logFormat, dryRun⟩ := r
  match pending with
  | none => rfl
  | some (.option _ none) => rfl
  | some (.option o (some v)) =>
    exact set_separate
      ⟨none, separated, met, workload, buildTool, targetBinary, logFormat, dryRun⟩ o v
  | some (.workload v) =>
    simp only [settle, separate]
    cases pathValue "<WORKLOAD_PATH>" v <;> rfl

theorem Reaches.behind (h : r.Reaches q taken false) :
    ∃ r', [Utf8.encode "--", q.workload.val].foldlM step r = .ok r' ∧
      r'.settle = .ok (known q taken true).separate := by
  have settles : r.separate.settle = .ok (known q taken false).separate := by
    rw [settle_separate, h.settle]
    rfl
  obtain ⟨r', hr', -, -, settles'⟩ :=
    positional_word q.workload (r := r.separate) h.workloadMet settles
  have workload : r.separate.step q.workload.val = .ok r' := hr'
  refine ⟨r', ?_, settles'⟩
  simp only [List.foldlM_cons, List.foldlM_nil, step_separator h.separated, workload, bind,
    Except.bind, pure, Except.pure]

/-- A reading that has all that a request asks for. -/
structure Holds (k : Reading) (q : Request) : Prop where
  workload : k.workload = some q.workload.path
  buildTool : k.buildTool = q.buildTool.map Word.path
  targetBinary : k.targetBinary = q.targetBinary.map Word.path
  logFormat : k.logFormat = q.logFormat
  dryRun : k.dryRun = q.dryRun

theorem guarded {α : Type} {p : Prop} [Decidable p] {a : Option α} (h : a.isSome = true → p) :
    (if p then a else none) = a := by
  cases a with
  | none => exact ite_self none
  | some a => rw [if_pos (h rfl)]

theorem holds_known (h : ∀ i, i ∈ taken ↔ q.gives i = true) : (known q taken true).Holds q where
  workload := rfl
  buildTool := guarded fun given => (h (.value .buildTool)).mpr <| by
    rw [Option.isSome_map] at given
    exact Option.isSome_map.trans given
  targetBinary := guarded fun given => (h (.value .targetBinary)).mpr <| by
    rw [Option.isSome_map] at given
    exact Option.isSome_map.trans given
  logFormat := guarded fun given => (h (.value .logFormat)).mpr (Option.isSome_map.trans given)
  dryRun := by
    rw [known, Bool.eq_iff_iff, decide_eq_true_iff]
    exact h .dryRun

theorem Holds.separate {k : Reading} (h : k.Holds q) : k.separate.Holds q :=
  ⟨h.workload, h.buildTool, h.targetBinary, h.logFormat, h.dryRun⟩

theorem Holds.finish {k : Reading} (h : k.Holds q) (hr : r.settle = .ok k) :
    r.finish = .ok q.arguments := by
  simp only [Reading.finish, hr, h.workload, h.buildTool, h.targetBinary, h.logFormat, h.dryRun,
    bind, Except.bind, pure, Except.pure]
  rfl

end Reading

namespace Request

theorem nodup_given (q : Request) : (Item.all.filter q.gives).Nodup :=
  List.Pairwise.sublist List.filter_sublist (by decide : Item.all.Nodup)

theorem mem_given (q : Request) (i : Item) : i ∈ Item.all.filter q.gives ↔ q.gives i = true := by
  have all : i ∈ Item.all := by
    cases i with
    | dryRun => decide
    | value o => cases o <;> decide
  rw [List.mem_filter, and_iff_right all]

theorem parse_of_steps {words : List Octets} {r : Reading} {a : Arguments}
    (hr : words.foldlM Reading.step .empty = .ok r) (ha : r.finish = .ok a) :
    parse words = .ok a := by
  simp only [parse, hr, bind, Except.bind]
  exact ha

theorem parse_among {q : Request} {before after : List Item} {words more : List Octets}
    (hperm : (before ++ after).Perm (Item.all.filter q.gives)) (hbefore : q.Spells before words)
    (hafter : q.Spells after more) (hplain : q.workload.val.head? ≠ some hyphen) :
    parse (words ++ q.workload.val :: more) = .ok q.arguments := by
  have nodup : (before ++ after).Nodup := hperm.nodup_iff.mpr q.nodup_given
  have reversed : (before.reverse ++ []).Perm before := by
    rw [List.append_nil]
    exact before.reverse_perm
  obtain ⟨r, hr, reaches⟩ := (Reading.reaches_known q [] false).items hbefore
    (by rw [List.append_nil]; exact nodup.sublist (List.sublist_append_left _ _))
  obtain ⟨r', hr', reaches'⟩ := reaches.workload hplain
  obtain ⟨r'', hr'', reaches''⟩ := reaches'.items hafter
    ((List.perm_append_comm.trans (reversed.append_right after)).nodup_iff.mpr nodup)
  have taken (i : Item) : i ∈ after.reverse ++ (before.reverse ++ []) ↔ q.gives i = true := by
    rw [← q.mem_given i, ← hperm.mem_iff, List.mem_append, reversed.mem_iff, List.mem_reverse,
      List.mem_append, or_comm]
  have steps : (words ++ q.workload.val :: more).foldlM Reading.step .empty = .ok r'' := by
    have first : words.foldlM Reading.step .empty = .ok r := hr
    rw [List.foldlM_append, first]
    simp only [List.foldlM_cons, hr', hr'', bind, Except.bind]
  exact parse_of_steps steps ((Reading.holds_known taken).finish reaches''.settle)

theorem parse_behind {q : Request} {items : List Item} {words : List Octets}
    (hperm : items.Perm (Item.all.filter q.gives)) (hwords : q.Spells items words) :
    parse (words ++ [Utf8.encode "--", q.workload.val]) = .ok q.arguments := by
  have nodup : (items ++ []).Nodup := by
    rw [List.append_nil]
    exact hperm.nodup_iff.mpr q.nodup_given
  obtain ⟨r, hr, reaches⟩ := (Reading.reaches_known q [] false).items hwords nodup
  obtain ⟨r', hr', settles⟩ := reaches.behind
  have taken (i : Item) : i ∈ items.reverse ++ [] ↔ q.gives i = true := by
    rw [← q.mem_given i, ← hperm.mem_iff, List.append_nil, List.mem_reverse]
  have steps : (words ++ [Utf8.encode "--", q.workload.val]).foldlM Reading.step .empty =
      .ok r' := by
    have first : words.foldlM Reading.step .empty = .ok r := hr
    rw [List.foldlM_append, first]
    exact hr'
  exact parse_of_steps steps ((Reading.holds_known taken).separate.finish settles)

theorem exists_spelled {q : Request} {i : Item} (h : q.gives i = true) :
    ∃ words, q.Spelled i words := by
  cases i with
  | dryRun => exact ⟨_, .dryRun h⟩
  | value o =>
    obtain ⟨v, hv⟩ := Option.isSome_iff_exists.mp h
    exact ⟨_, .joined hv⟩

theorem exists_spells {q : Request} {is : List Item} (h : ∀ i ∈ is, q.gives i = true) :
    ∃ words, q.Spells is words := by
  induction is with
  | nil => exact ⟨[], .nil⟩
  | cons i is ih =>
    obtain ⟨hi, his⟩ := List.forall_mem_cons.mp h
    obtain ⟨words, hwords⟩ := exists_spelled hi
    obtain ⟨more, hmore⟩ := ih his
    exact ⟨words ++ more, .cons hwords hmore⟩

/-- Whatever can be asked for has a command line, and all its command lines read as just that. The
configuration is the default one but for the programs that are given. -/
theorem command_lines_read_alike (q : Request) (t : Target) :
    (∃ words, q.Renders words) ∧
    (∀ words, q.Renders words → parse words = .ok q.arguments) ∧
    q.arguments.config t = { Config.default t with
      buildTool := (q.buildTool.map Word.path).getD (Config.default t).buildTool
      targetBinary := (q.targetBinary.map Word.path).getD (Config.default t).targetBinary } := by
  refine ⟨?_, fun words h => ?_, ?_⟩
  · obtain ⟨words, hwords⟩ := exists_spells fun i hi => (q.mem_given i).mp hi
    exact ⟨_, .last (.refl _) hwords⟩
  · cases h with
    | among hperm hbefore hafter hplain => exact parse_among hperm hbefore hafter hplain
    | last hperm hwords => exact parse_behind hperm hwords
  · rw [arguments, config]
    cases q.targetBinary <;> rfl

/-- The workload is no text, and the build tool looks like an option. -/
def oddRequest : Request where
  workload := ⟨[0x2F, 0xFF], by decide⟩
  buildTool := some ⟨Utf8.encode "-=x", by decide⟩
  targetBinary := some ⟨Utf8.encode "t", by decide⟩
  logFormat := none
  dryRun := true

theorem oddRequest_read :
    parse [Utf8.encode "--dry-run", [0x2F, 0xFF], Utf8.encode "--target-binary", Utf8.encode "t",
      Utf8.encode "--build-tool=-=x"] = .ok oddRequest.arguments ∧
    parse [Utf8.encode "--build-tool=-=x", Utf8.encode "--dry-run",
      Utf8.encode "--target-binary=t", Utf8.encode "--", [0x2F, 0xFF]] =
        .ok oddRequest.arguments := by
  obtain ⟨-, read, -⟩ := command_lines_read_alike oddRequest .linux
  have buildTool : oddRequest.Spelled (.value .buildTool) [Utf8.encode "--build-tool=-=x"] :=
    .joined rfl
  have dryRun : oddRequest.Spells [.dryRun] [Utf8.encode "--dry-run"] := .cons (.dryRun rfl) .nil
  have paths : oddRequest.Spells [.value .targetBinary, .value .buildTool]
      [Utf8.encode "--target-binary", Utf8.encode "t", Utf8.encode "--build-tool=-=x"] :=
    .cons (.apart rfl (by decide)) (.cons buildTool .nil)
  have joined : oddRequest.Spelled (.value .targetBinary) [Utf8.encode "--target-binary=t"] :=
    .joined rfl
  have all : oddRequest.Spells [.value .buildTool, .dryRun, .value .targetBinary]
      [Utf8.encode "--build-tool=-=x", Utf8.encode "--dry-run",
        Utf8.encode "--target-binary=t"] :=
    .cons buildTool (.cons (.dryRun rfl) (.cons joined .nil))
  constructor
  · exact read _ (.among (by decide) dryRun paths (by decide))
  · exact read _ (.last (by decide) all)

end Request

end Arguments

end ProfiledBuild
