import ProfiledBuild.Config
import ProfiledBuild.Proofs.Json.Records
import ProfiledBuild.Proofs.Json.RoundTrip
import ProfiledBuild.Proofs.Text.Utf8

/-! A configuration as JSON text. It can be stored when its paths are text, and is read back from
what is stored. Where only some of its fields are written down, in whatever order, the defaults
stand in for the rest. -/

namespace ProfiledBuild

open Json Json.Decode

def Path.IsText (p : Path) : Prop := ∃ s, Utf8.encode s = p.octets

namespace Config

inductive Field where
  | buildTool
  | instrumentArgs
  | optimizeArgs
  | targetBinary
  | onlyLoadFlag
  deriving DecidableEq

namespace Field

def all : List Field := [.buildTool, .instrumentArgs, .optimizeArgs, .targetBinary, .onlyLoadFlag]

def name : Field → String
  | .buildTool => "build_tool"
  | .instrumentArgs => "instrument_args"
  | .optimizeArgs => "optimize_args"
  | .targetBinary => "target_binary"
  | .onlyLoadFlag => "only_load_flag"

def ofName? : String → Option Field := named? all name

/-- How a field of a configuration is written. A path is written as the text that it is. -/
inductive Written (c : Config) : Field → Document → Prop
  | buildTool {s : String} : Utf8.encode s = c.buildTool.octets → Written c .buildTool (.str s)
  | instrumentArgs : Written c .instrumentArgs (.array (c.instrumentArgs.map .str) none)
  | optimizeArgs : Written c .optimizeArgs (.array (c.optimizeArgs.map .str) none)
  | targetBinary {s : String} :
      Utf8.encode s = c.targetBinary.octets → Written c .targetBinary (.str s)
  | onlyLoadFlag : Written c .onlyLoadFlag (.str c.onlyLoadFlag)

theorem mem_all (f : Field) : f ∈ all := by
  cases f <;> decide

theorem ofName?_name (f : Field) : ofName? f.name = some f := by
  cases f <;> rfl

theorem ofName?_eq_none_iff {name : String} :
    ofName? name = none ↔ ∀ f : Field, f.name ≠ name :=
  named?_eq_none_iff mem_all

theorem name_eq {name : String} {f : Field} (h : ofName? name = some f) : f.name = name :=
  name_of_named? h

end Field

/-- The defaults but for some fields, which are those of a configuration. -/
def override (c : Config) (target : Target) (given : List Field) : Config where
  buildTool := if .buildTool ∈ given then c.buildTool else (default target).buildTool
  instrumentArgs := if .instrumentArgs ∈ given then c.instrumentArgs else (default target).instrumentArgs
  optimizeArgs := if .optimizeArgs ∈ given then c.optimizeArgs else (default target).optimizeArgs
  targetBinary := if .targetBinary ∈ given then c.targetBinary else (default target).targetBinary
  onlyLoadFlag := if .onlyLoadFlag ∈ given then c.onlyLoadFlag else (default target).onlyLoadFlag

theorem override_congr {target : Target} {given given' : List Field} (c : Config)
    (h : ∀ f, f ∈ given ↔ f ∈ given') : c.override target given = c.override target given' := by
  simp only [override, h]

theorem override_all {target : Target} {given : List Field} (c : Config) (h : ∀ f, f ∈ given) :
    c.override target given = c := by
  simp only [override, h, if_true]

/-- The entries of an object that holds some fields of a configuration, in the order in which they
come, and between them keys that are no fields, with any values. -/
inductive Overrides (c : Config) : List Field → List (Document × Document) → Prop
  | nothing : Overrides c [] []
  | field {f : Field} {given : List Field} {d : Document} {es : List (Document × Document)} :
      f.Written c d → f ∉ given → Overrides c given es →
      Overrides c (f :: given) ((.str f.name, d) :: es)
  | foreign {given : List Field} {k d : Document} {name : String}
      {es : List (Document × Document)} :
      k.key = .ok name → (∀ f : Field, f.name ≠ name) → d.skip = .ok () → Overrides c given es →
      Overrides c given ((k, d) :: es)

namespace Given

/-- What is known of a configuration after some of its fields. -/
def known (c : Config) (taken : List Field) : Given where
  buildTool := if .buildTool ∈ taken then some c.buildTool else none
  instrumentArgs := if .instrumentArgs ∈ taken then some c.instrumentArgs else none
  optimizeArgs := if .optimizeArgs ∈ taken then some c.optimizeArgs else none
  targetBinary := if .targetBinary ∈ taken then some c.targetBinary else none
  onlyLoadFlag := if .onlyLoadFlag ∈ taken then some c.onlyLoadFlag else none

theorem getD_guarded {α : Type} (p : Prop) [Decidable p] (a b : α) :
    (if p then some a else none).getD b = if p then a else b := by
  split <;> rfl

theorem complete_known (c : Config) (target : Target) (taken : List Field) :
    (known c taken).complete target = c.override target taken := by
  simp only [complete, known, override, getD_guarded]

end Given

variable {c : Config} {target : Target} {depth : Nat}

theorem items_strings (expected : String) (ss : List String) :
    items (Decode.string expected depth) (ss.map .str) none = .ok ss := by
  induction ss with
  | nil => rfl
  | cons s ss ih =>
    rw [List.map_cons, items, ih]
    rfl

theorem decodeTexts_strings (ss : List String) (hd : 1 < depth) :
    decodeTexts depth (.array (ss.map .str) none) = .ok ss := by
  have descends : Document.descend depth = .ok (depth - 1) := Document.descend_of_lt hd
  simp only [decodeTexts, list, descends, sound, bind, Except.bind, items_strings]

theorem decodePath_text {p : Path} {s : String} (h : Utf8.encode s = p.octets) :
    decodePath depth (.str s) = .ok p := by
  have path : Path.ofString s = p := congrArg Path.mk h
  rw [← path]
  rfl

theorem decode_buildTool {d : Document} (h : Field.Written c .buildTool d) :
    decodePath depth d = .ok c.buildTool := by
  cases h with
  | buildTool h => exact decodePath_text h

theorem decode_targetBinary {d : Document} (h : Field.Written c .targetBinary d) :
    decodePath depth d = .ok c.targetBinary := by
  cases h with
  | targetBinary h => exact decodePath_text h

theorem decode_instrumentArgs {d : Document} (h : Field.Written c .instrumentArgs d)
    (hd : 1 < depth) : decodeTexts depth d = .ok c.instrumentArgs := by
  cases h
  exact decodeTexts_strings c.instrumentArgs hd

theorem decode_optimizeArgs {d : Document} (h : Field.Written c .optimizeArgs d)
    (hd : 1 < depth) : decodeTexts depth d = .ok c.optimizeArgs := by
  cases h
  exact decodeTexts_strings c.optimizeArgs hd

theorem decode_onlyLoadFlag {d : Document} (h : Field.Written c .onlyLoadFlag d) :
    decodeText depth d = .ok c.onlyLoadFlag := by
  cases h
  rfl

theorem put_foreign {g : Given} {name : String} (h : ∀ f : Field, f.name ≠ name) :
    (fields depth).put g name = none := by
  simp only [fields]
  split
  case h_1 => exact absurd rfl (h .buildTool)
  case h_2 => exact absurd rfl (h .instrumentArgs)
  case h_3 => exact absurd rfl (h .optimizeArgs)
  case h_4 => exact absurd rfl (h .targetBinary)
  case h_5 => exact absurd rfl (h .onlyLoadFlag)
  case h_6 => rfl

theorem put_known {taken : List Field} {f : Field} {d : Document} (hnew : f ∉ taken)
    (h : f.Written c d) (hd : 1 < depth) :
    ∃ take, (fields depth).put (Given.known c taken) f.name = some take ∧
      take d = .ok (Given.known c (f :: taken)) := by
  cases f with
  | buildTool => exact ⟨_, rfl, by simp [Given.known, hnew, decode_buildTool h]⟩
  | instrumentArgs => exact ⟨_, rfl, by simp [Given.known, hnew, decode_instrumentArgs h hd]⟩
  | optimizeArgs => exact ⟨_, rfl, by simp [Given.known, hnew, decode_optimizeArgs h hd]⟩
  | targetBinary => exact ⟨_, rfl, by simp [Given.known, hnew, decode_targetBinary h]⟩
  | onlyLoadFlag => exact ⟨_, rfl, by simp [Given.known, hnew, decode_onlyLoadFlag h]⟩

/-- The configuration as its object is read: the decoder knows the fields of `c` that it has
taken. -/
def record (c : Config) (depth : Nat) (hd : 1 < depth) : Record Given Field where
  keyed := fields depth
  field? := Field.ofName?
  state := Given.known c
  Written := Field.Written c
  takes hf hnew h := by
    cases Field.name_eq hf
    exact put_known hnew h hd
  ignores h := put_foreign (Field.ofName?_eq_none_iff.mp h)

theorem Overrides.entries {given : List Field} {es : List (Document × Document)}
    (h : Overrides c given es) (hd : 1 < depth) :
    (record c depth hd).Entries es ∧ (record c depth hd).given es = given := by
  induction h with
  | nothing => exact ⟨⟨List.forall_mem_nil _, List.nodup_nil⟩, rfl⟩
  | @field f given d es hw hnew _ ih =>
    have known := Field.ofName?_name f
    refine ⟨ih.1.field rfl known hw (by rwa [ih.2]), ?_⟩
    rw [Record.given_field es rfl known, ih.2]
  | @foreign given k d name es hk hname hskip _ ih =>
    have unknown := Field.ofName?_eq_none_iff.mpr hname
    exact ⟨ih.1.foreign hk unknown hskip, by rw [Record.given_foreign es hk unknown, ih.2]⟩

theorem decode_object {es : List (Document × Document)} {hd : 1 < depth - 1}
    (h : (record c (depth - 1) hd).Entries es) :
    decode target depth (.object es none) =
      .ok (c.override target ((record c (depth - 1) hd).given es)) := by
  have descends : Document.descend depth = .ok (depth - 1) := Document.descend_of_lt (by omega)
  have taken : Decode.entries (fields (depth - 1)) .nothing es none = _ := h.taken
  simp only [decode, descends, sound, bind, Except.bind, taken, pure, Except.pure]
  refine congrArg Except.ok ((Given.complete_known c target _).trans (c.override_congr fun f => ?_))
  exact List.mem_reverse

/-- An array may end before its last field. -/
theorem decode_array {doc : Field → Document} (h : ∀ f : Field, f.Written c (doc f)) (k : Nat)
    (hd : 2 < depth) :
    decode target depth (.array ((Field.all.take k).map doc) none) =
      .ok (c.override target (Field.all.take k)) := by
  have descends : Document.descend depth = .ok (depth - 1) := Document.descend_of_lt (by omega)
  have hd' : 1 < depth - 1 := by omega
  simp only [decode, descends, sound, bind, Except.bind, pure, Except.pure]
  rcases k with _ | _ | _ | _ | _ | k <;>
    simp [Field.all, elementOr, decode_buildTool (h .buildTool),
      decode_instrumentArgs (h .instrumentArgs) hd', decode_optimizeArgs (h .optimizeArgs) hd',
      decode_targetBinary (h .targetBinary), decode_onlyLoadFlag (h .onlyLoadFlag), close,
      override, bind, Except.bind, pure, Except.pure]

theorem pathToJson_of_text {p : Path} {s : String} (h : Utf8.encode s = p.octets) :
    pathToJson p = .ok (.string s) := by
  rw [pathToJson, Utf8.decode?_eq_some_iff.mpr h]

theorem pathToJson_of_not_text {p : Path} (h : ¬p.IsText) :
    pathToJson p = .error .pathNotText := by
  cases hs : Utf8.decode? p.octets with
  | none => rw [pathToJson, hs]
  | some s => exact absurd ⟨s, Utf8.decode?_eq_some_iff.mp hs⟩ h

/-- The fields of a configuration, in the order of their declaration. -/
def members (c : Config) (buildTool targetBinary : String) : List (String × Json) :=
  [("build_tool", .string buildTool), ("instrument_args", textsToJson c.instrumentArgs),
    ("optimize_args", textsToJson c.optimizeArgs), ("target_binary", .string targetBinary),
    ("only_load_flag", .string c.onlyLoadFlag)]

theorem toJson_of_text {b t : String} (hb : Utf8.encode b = c.buildTool.octets)
    (ht : Utf8.encode t = c.targetBinary.octets) :
    c.toJson = .ok (Json.ofFields (c.members b t)) := by
  simp only [toJson, pathToJson_of_text hb, pathToJson_of_text ht, bind, Except.bind]
  rfl

theorem toJson_error_iff :
    (∃ e, c.toJson = .error e) ↔ ¬(c.buildTool.IsText ∧ c.targetBinary.IsText) := by
  constructor
  · rintro ⟨e, he⟩ ⟨⟨b, hb⟩, ⟨t, ht⟩⟩
    rw [toJson_of_text hb ht] at he
    cases he
  · intro h
    refine ⟨.pathNotText, ?_⟩
    by_cases hb : c.buildTool.IsText
    · have ht : ¬c.targetBinary.IsText := fun ht => h ⟨hb, ht⟩
      obtain ⟨b, hb⟩ := hb
      simp only [toJson, pathToJson_of_text hb, pathToJson_of_not_text ht, bind, Except.bind]
    · simp only [toJson, pathToJson_of_not_text hb, bind, Except.bind]

theorem ofJson_textsToJson (ss : List String) :
    Document.ofJson (textsToJson ss) = .array (ss.map .str) none := by
  have items : Document.ofItems (ss.map .string) = ss.map .str := by
    induction ss with
    | nil => rfl
    | cons s ss ih => rw [List.map_cons, List.map_cons, Document.ofItems, ih]; rfl
  rw [textsToJson, Document.ofJson, items]

theorem exact_textsToJson (ss : List String) : (textsToJson ss).Exact := by
  induction ss with
  | nil => trivial
  | cons s ss ih => exact ⟨trivial, ih⟩

theorem nodup_members (c : Config) (b t : String) : ((c.members b t).map (·.1)).Nodup := by
  show (Field.all.map Field.name).Nodup
  decide

theorem exact_members (c : Config) (b t : String) :
    ∀ field ∈ c.members b t, field.2.Exact := by
  simp only [members, List.forall_mem_cons]
  exact ⟨trivial, exact_textsToJson _, exact_textsToJson _, trivial, trivial,
    List.forall_mem_nil _⟩

theorem overrides_members {b t : String} (hb : Utf8.encode b = c.buildTool.octets)
    (ht : Utf8.encode t = c.targetBinary.octets) :
    Overrides c Field.all (Document.ofFields (c.members b t)) := by
  simp only [members, Document.ofFields, ofJson_textsToJson]
  refine .field (.buildTool hb) (by decide) ?_
  refine .field .instrumentArgs (by decide) ?_
  refine .field .optimizeArgs (by decide) ?_
  refine .field (.targetBinary ht) (by decide) ?_
  exact .field .onlyLoadFlag (by decide) .nothing

/-- The fields that are stored are read back in any order. -/
theorem decode_members {b t : String} {fs : List (String × Json)}
    (hb : Utf8.encode b = c.buildTool.octets) (ht : Utf8.encode t = c.targetBinary.octets)
    (h : fs.Perm (c.members b t)) (hd : 2 < depth) :
    decode target depth (.object (Document.ofFields fs) none) = .ok c := by
  have perm : (Document.ofFields (c.members b t)).Perm (Document.ofFields fs) := by
    simp only [Document.ofFields_eq_map]
    exact h.symm.map _
  obtain ⟨entries, given⟩ :=
    (overrides_members hb ht).entries (show 1 < depth - 1 by omega)
  rw [decode_object (entries.perm perm)]
  refine congrArg Except.ok (c.override_all fun f => ?_)
  rw [← (Record.given_perm perm).mem_iff, given]
  exact f.mem_all

theorem text_decoded {d : Document} {s : String} {c' : Config}
    (hs : Document.Text.ofString s = ⟨d, false⟩) (h : decode target Document.depthLimit d = .ok c') :
    Decode.text (decode target) (Document.Text.ofString s) = .ok c' := by
  rw [hs, Decode.text, h]
  rfl

theorem toJson_read_back {j : Json} (h : c.toJson = .ok j) :
    ∃ gs, j = .object gs ∧ ∀ fs : List (String × Json), fs.Perm gs →
      Decode.text (decode target) (Document.Text.ofString (Json.object fs).text) = .ok c := by
  have texts : c.buildTool.IsText ∧ c.targetBinary.IsText := by
    refine Classical.byContradiction fun hn => ?_
    obtain ⟨e, he⟩ := toJson_error_iff.mpr hn
    rw [he] at h
    cases h
  obtain ⟨⟨b, hb⟩, t, ht⟩ := texts
  rw [toJson_of_text hb ht] at h
  cases h
  refine ⟨_, rfl, fun fs hfs => ?_⟩
  have perm := hfs.trans (Fields.ofList_perm (c.nodup_members b t))
  have hexact : (Json.object fs).Exact :=
    exactFields_iff.mpr fun field hf => c.exact_members b t field (perm.mem_iff.mp hf)
  exact text_decoded (Document.Text.ofString_text hexact) (decode_members hb ht perm (by decide))

/-- A configuration is stored unless a path of it is no text, and is read back from what is stored.
An object with some of its fields is read as the defaults but for these, and so is an array of as
many of its first fields as there are. -/
theorem stored_read_back (c : Config) (target : Target) :
    ((∃ e, c.toJson = .error e) ↔ ¬(c.buildTool.IsText ∧ c.targetBinary.IsText)) ∧
    (∀ j, c.toJson = .ok j →
      Decode.text (decode target) (Document.Text.ofString j.text) = .ok c ∧
      ∃ gs, j = .object gs ∧ ∀ fs : List (String × Json), fs.Perm gs →
        Decode.text (decode target) (Document.Text.ofString (Json.object fs).text) = .ok c) ∧
    (∀ (given : List Field) (es : List (Document × Document)) (s : String),
      Overrides c given es → Document.Text.ofString s = ⟨.object es none, false⟩ →
      Decode.text (decode target) (Document.Text.ofString s) = .ok (c.override target given)) ∧
    ∀ (doc : Field → Document) (k : Nat) (s : String), (∀ f : Field, f.Written c (doc f)) →
      Document.Text.ofString s = ⟨.array ((Field.all.take k).map doc) none, false⟩ →
      Decode.text (decode target) (Document.Text.ofString s) = .ok (c.override target (Field.all.take k)) := by
  refine ⟨toJson_error_iff, fun j hj => ?_, fun given es s h hs => ?_, fun doc k s h hs => ?_⟩
  · obtain ⟨gs, rfl, back⟩ := toJson_read_back hj
    exact ⟨back gs (.refl gs), gs, rfl, back⟩
  · obtain ⟨entries, hgiven⟩ := h.entries (show 1 < Document.depthLimit - 1 by decide)
    rw [← hgiven]
    exact text_decoded hs (decode_object entries)
  · exact text_decoded hs (decode_array h k (by decide))

def clangBuild : Config :=
  { default .linux with
    buildTool := Path.ofString "clang"
    instrumentArgs := ["instrument", ""]
    onlyLoadFlag := "--load" }

/-- Two fields of `clangBuild`, the last one first, behind a key of their own. -/
def clangBuildFields : List (String × Json) :=
  [("note", .array [.null]), ("only_load_flag", .string "--load"), ("build_tool", .string "clang")]

theorem clangBuild_overrides :
    Overrides clangBuild [.onlyLoadFlag, .buildTool] (Document.ofFields clangBuildFields) := by
  have noField : ∀ f : Field, f.name ≠ "note" := by
    intro f
    cases f <;> decide
  refine .foreign rfl noField (Document.skip_ofJson (.array [.null])) ?_
  refine .field .onlyLoadFlag (by decide) ?_
  exact .field (.buildTool rfl) (by decide) .nothing

def clangBuildDocument : Field → Document
  | .buildTool => .str "clang"
  | .instrumentArgs => .array [.str "instrument", .str ""] none
  | .optimizeArgs => .array [.str "pgo", .str "optimize"] none
  | .targetBinary => .str "target/x86_64-unknown-linux-gnu/release/aprs"
  | .onlyLoadFlag => .str "--load"

theorem clangBuild_written (f : Field) : f.Written clangBuild (clangBuildDocument f) := by
  cases f with
  | buildTool => exact .buildTool rfl
  | instrumentArgs => exact .instrumentArgs
  | optimizeArgs => exact .optimizeArgs
  | targetBinary => exact .targetBinary (by decide)
  | onlyLoadFlag => exact .onlyLoadFlag

theorem clangBuild_read_back :
    clangBuild.toJson = .ok (Json.ofFields
      (clangBuild.members "clang" "target/x86_64-unknown-linux-gnu/release/aprs")) ∧
    Decode.text (decode .linux) (Document.Text.ofString (Json.ofFields
      (clangBuild.members "clang" "target/x86_64-unknown-linux-gnu/release/aprs")).text) =
        .ok clangBuild ∧
    Decode.text (decode .linux) (Document.Text.ofString (Json.object clangBuildFields).text) =
      .ok { clangBuild with instrumentArgs := ["pgo", "build"] } ∧
    Decode.text (decode .linux) (Document.Text.ofString
      (Json.array [.string "clang", textsToJson ["instrument", ""]]).text) =
        .ok { clangBuild with onlyLoadFlag := "--only-load" } := by
  have stored : clangBuild.toJson = .ok (Json.ofFields
      (clangBuild.members "clang" "target/x86_64-unknown-linux-gnu/release/aprs")) :=
    toJson_of_text rfl (by decide)
  have hobject : (Json.object clangBuildFields).Exact := by
    simp [clangBuildFields, Exact, ExactItems, ExactFields]
  have harray : (Json.array [.string "clang", textsToJson ["instrument", ""]]).Exact :=
    ⟨trivial, exact_textsToJson _, trivial⟩
  obtain ⟨-, whole, fields, first⟩ := stored_read_back clangBuild .linux
  exact ⟨stored, (whole _ stored).1,
    fields _ _ _ clangBuild_overrides (Document.Text.ofString_text hobject),
    first clangBuildDocument 2 _ clangBuild_written (Document.Text.ofString_text harray)⟩

end Config

end ProfiledBuild
