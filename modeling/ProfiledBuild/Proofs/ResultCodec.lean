import ProfiledBuild.Proofs.Json.Records
import ProfiledBuild.Proofs.Json.RoundTrip
import ProfiledBuild.Proofs.Timestamps
import ProfiledBuild.Stage.Result

/-! The record of a stage as JSON text. Every record is read back from its own text and from every
other way to write it down. -/

namespace ProfiledBuild

open Json Json.Decode

namespace Exit

def kindName : Exit → String
  | .code _ => "code"
  | .signal _ => "signal"

def number : Exit → Int32
  | .code value => value
  | .signal number => number

/-- The ways to write an exit: an object with its two keys in either order, or a pair. -/
inductive Written (e : Exit) : Document → Prop
  | kindFirst :
      Written e (.object [(.str "kind", .str e.kindName), (.str "value", .whole e.number)] none)
  | valueFirst :
      Written e (.object [(.str "value", .whole e.number), (.str "kind", .str e.kindName)] none)
  | pair : Written e (.array [.str e.kindName, .whole e.number] none)

theorem written_ofJson (e : Exit) : e.Written (.ofJson e.toJson) := by
  cases e <;> exact .kindFirst

theorem exact_toJson (e : Exit) : e.toJson.Exact := by
  have range : -9223372036854775808 ≤ e.number.toInt ∧ e.number.toInt ≤ 18446744073709551615 := by
    have low := e.number.le_toInt
    have high := e.number.toInt_lt
    omega
  cases e <;> exact ⟨trivial, range, trivial⟩

def ofNumber : Exit → Int32 → Exit
  | .code _ => .code
  | .signal _ => .signal

theorem ofNumber_number (e : Exit) : e.ofNumber e.number = e := by
  cases e <;> rfl

theorem variant_kindName (e : Exit) (depth : Nat) :
    variant kinds depth (.str e.kindName) = .ok e.ofNumber := by
  cases e <;> rfl

theorem name_kindName (e : Exit) : name kinds (.str e.kindName) = .ok e.ofNumber := by
  cases e <;> rfl

theorem ofEntries_kindFirst (e : Exit) (depth : Nat) :
    ofEntries depth [(.str "kind", .str e.kindName), (.str "value", .whole e.number)] none =
      .ok e := by
  simp only [ofEntries, nextField, noMore, Document.key, sound, bind, Except.bind, pure,
    Except.pure, variant_kindName, int32_whole, ofNumber_number]

/-- The value is kept as JSON until the kind is known. -/
theorem ofEntries_valueFirst (e : Exit) (depth : Nat) :
    ofEntries depth [(.str "value", .whole e.number), (.str "kind", .str e.kindName)] none =
      .ok e := by
  have kept : Document.value depth (.whole e.number) = .ok (Json.int e.number.toInt) := rfl
  have back : int32 depth (.ofJson (Json.int e.number.toInt)) = .ok e.number :=
    int32_whole depth e.number
  simp only [ofEntries, nextField, noMore, Document.key, sound, bind, Except.bind, pure,
    Except.pure, kept, variant_kindName, back, ofNumber_number]

theorem Written.decoded {e : Exit} {d : Document} {depth : Nat} (h : e.Written d)
    (hd : 1 < depth) : decode depth d = .ok e := by
  cases h with
  | kindFirst =>
    simp only [Exit.decode, Document.descend_of_lt hd, sound, bind, Except.bind,
      ofEntries_kindFirst]
  | valueFirst =>
    simp only [Exit.decode, Document.descend_of_lt hd, sound, bind, Except.bind,
      ofEntries_valueFirst]
  | pair =>
    simp only [Exit.decode, Document.descend_of_lt hd, sound, bind, Except.bind, pure, Except.pure,
      element, name_kindName, int32_whole, close, ofNumber_number]

end Exit

namespace StageResult

inductive Field where
  | stage
  | command
  | status
  | exit
  | error
  | startedAt
  | endedAt
  deriving DecidableEq

namespace Field

def all : List Field := [.stage, .command, .status, .exit, .error, .startedAt, .endedAt]

def name : Field → String
  | .stage => "stage"
  | .command => "command"
  | .status => "status"
  | .exit => "exit"
  | .error => "error"
  | .startedAt => "started_at"
  | .endedAt => "ended_at"

def ofName? (name : String) : Option Field := all.find? fun f => f.name = name

/-- What a record writes for a field, if anything. -/
def json (r : StageResult) : Field → Option Json
  | .stage => some (.string r.stage.name)
  | .command => some (.string r.command)
  | .status => some (.string r.status.name)
  | .exit => r.exit.map Exit.toJson
  | .error => r.error.map .string
  | .startedAt => some (.string r.startedAt.text)
  | .endedAt => some (.string r.endedAt.text)

/-- The ways to write a field of a record. An exit or an error that is absent is null. -/
inductive Written (r : StageResult) : Field → Document → Prop
  | stage : Written r .stage (.str r.stage.name)
  | command : Written r .command (.str r.command)
  | status : Written r .status (.str r.status.name)
  | exit {e : Exit} {d : Document} : r.exit = some e → e.Written d → Written r .exit d
  | noExit : r.exit = none → Written r .exit .null
  | error {e : String} : r.error = some e → Written r .error (.str e)
  | noError : r.error = none → Written r .error .null
  | startedAt : Written r .startedAt (.str r.startedAt.text)
  | endedAt : Written r .endedAt (.str r.endedAt.text)

theorem mem_all (f : Field) : f ∈ all := by
  cases f <;> decide

theorem ofName?_name (f : Field) : ofName? f.name = some f := by
  cases f <;> rfl

theorem ofName?_eq_none_iff {name : String} :
    ofName? name = none ↔ ∀ f : Field, f.name ≠ name :=
  named?_eq_none_iff mem_all

theorem name_eq {name : String} {f : Field} (h : ofName? name = some f) : f.name = name :=
  name_of_named? h

theorem written_of_json {r : StageResult} {f : Field} {j : Json} (h : f.json r = some j) :
    Written r f (.ofJson j) := by
  cases f with
  | exit =>
    obtain ⟨e, he, rfl⟩ := Option.map_eq_some_iff.mp h
    exact .exit he e.written_ofJson
  | error =>
    obtain ⟨e, he, rfl⟩ := Option.map_eq_some_iff.mp h
    exact .error he
  | stage | command | status | startedAt | endedAt => cases h; constructor

theorem exit_of_null {r : StageResult} (h : Written r .exit .null) : r.exit = none := by
  cases h with
  | noExit h => exact h
  | exit _ h => cases h

theorem error_of_null {r : StageResult} (h : Written r .error .null) : r.error = none := by
  cases h with
  | noError h => exact h

theorem written_null_of_json {r : StageResult} {f : Field} (h : f.json r = none) :
    Written r f .null := by
  cases f with
  | exit => exact .noExit (Option.map_eq_none_iff.mp h)
  | error => exact .noError (Option.map_eq_none_iff.mp h)
  | stage | command | status | startedAt | endedAt => cases h

end Field

/-- The fields that a record writes, in the order of their declaration. -/
def members (r : StageResult) : List (String × Json) :=
  Field.all.filterMap fun f => (f.json r).map fun j => (f.name, j)

theorem toJson_eq (r : StageResult) : r.toJson = Json.ofFields r.members := by
  obtain ⟨stage, command, status, exit, error, startedAt, endedAt⟩ := r
  cases exit <;> cases error <;> rfl

theorem mem_members {r : StageResult} {name : String} {j : Json} (h : (name, j) ∈ r.members) :
    ∃ f : Field, f.name = name ∧ f.json r = some j := by
  obtain ⟨f, -, hf⟩ := List.mem_filterMap.mp h
  obtain ⟨j, hj, hname⟩ := Option.map_eq_some_iff.mp hf
  cases hname
  exact ⟨f, rfl, hj⟩

theorem names_members (r : StageResult) :
    r.members.map (·.1) = (Field.all.filter fun f => (f.json r).isSome).map Field.name := by
  rw [members, List.map_filterMap, ← List.filterMap_eq_filter, List.map_filterMap]
  congr 1
  funext f
  cases h : f.json r <;> simp [h, Option.guard]

theorem nodup_members (r : StageResult) : (r.members.map (·.1)).Nodup := by
  rw [names_members]
  have all : (Field.all.map Field.name).Nodup := by decide
  exact List.Pairwise.sublist (List.filter_sublist.map _) all

theorem exact_members (r : StageResult) : ∀ field ∈ r.members, field.2.Exact := by
  rintro ⟨name, j⟩ h
  obtain ⟨f, -, hf⟩ := mem_members h
  cases f with
  | exit =>
    obtain ⟨e, -, rfl⟩ := Option.map_eq_some_iff.mp hf
    exact e.exact_toJson
  | error =>
    obtain ⟨e, -, rfl⟩ := Option.map_eq_some_iff.mp hf
    trivial
  | stage | command | status | startedAt | endedAt => cases hf; trivial

namespace Given

/-- What is known of a record after some of its fields. -/
def known (r : StageResult) (taken : List Field) : Given where
  stage := if .stage ∈ taken then some r.stage else none
  command := if .command ∈ taken then some r.command else none
  status := if .status ∈ taken then some r.status else none
  exit := if .exit ∈ taken then some r.exit else none
  error := if .error ∈ taken then some r.error else none
  startedAt := if .startedAt ∈ taken then some r.startedAt else none
  endedAt := if .endedAt ∈ taken then some r.endedAt else none

end Given

variable {r : StageResult} {depth : Nat}

theorem decodeTime_text (t : Timestamp) : decodeTime depth (.str t.text) = .ok t := by
  simp only [decodeTime, Decode.string, sound, bind, Except.bind, Timestamp.parse_text, pure,
    Except.pure]

theorem decode_stage {d : Document} (h : Field.Written r .stage d) :
    decodeStage depth d = .ok r.stage := by
  cases h
  cases r.stage <;> rfl

theorem decode_command {d : Document} (h : Field.Written r .command d) :
    decodeText depth d = .ok r.command := by
  cases h
  rfl

theorem decode_status {d : Document} (h : Field.Written r .status d) :
    decodeStatus depth d = .ok r.status := by
  cases h
  cases r.status <;> rfl

theorem decode_startedAt {d : Document} (h : Field.Written r .startedAt d) :
    decodeTime depth d = .ok r.startedAt := by
  cases h
  exact decodeTime_text r.startedAt

theorem decode_endedAt {d : Document} (h : Field.Written r .endedAt d) :
    decodeTime depth d = .ok r.endedAt := by
  cases h
  exact decodeTime_text r.endedAt

theorem decode_exit {d : Document} (h : Field.Written r .exit d) (hd : 1 < depth) :
    optional Exit.decode depth d = .ok r.exit := by
  cases h with
  | noExit h => rw [h]; rfl
  | exit he h =>
    rw [he, optional_of_ne_null (by cases h <;> simp)]
    simp only [h.decoded hd, bind, Except.bind, pure, Except.pure]

theorem decode_error {d : Document} (h : Field.Written r .error d) :
    optional decodeText depth d = .ok r.error := by
  cases h with
  | noError h => rw [h]; rfl
  | error h => rw [h]; rfl

theorem complete_known {taken : List Field}
    (h : ∀ f : Field, f ∈ taken ∨ Field.Written r f .null) :
    (Given.known r taken).complete = .ok r := by
  have stage : Field.stage ∈ taken := (h .stage).resolve_right nofun
  have command : Field.command ∈ taken := (h .command).resolve_right nofun
  have status : Field.status ∈ taken := (h .status).resolve_right nofun
  have startedAt : Field.startedAt ∈ taken := (h .startedAt).resolve_right nofun
  have endedAt : Field.endedAt ∈ taken := (h .endedAt).resolve_right nofun
  have exit : (Given.known r taken).exit.join = r.exit := by
    rcases h .exit with h | h
    · simp [Given.known, h]
    · have absent := Field.exit_of_null h
      by_cases h : Field.exit ∈ taken <;> simp [Given.known, h, absent]
  have error : (Given.known r taken).error.join = r.error := by
    rcases h .error with h | h
    · simp [Given.known, h]
    · have absent := Field.error_of_null h
      by_cases h : Field.error ∈ taken <;> simp [Given.known, h, absent]
  simp only [Given.complete, exit, error]
  simp only [Given.known, stage, command, status, startedAt, endedAt, if_true, required, bind,
    Except.bind, pure, Except.pure]

theorem put_foreign {g : Given} {name : String} (h : ∀ f : Field, f.name ≠ name) :
    (fields depth).put g name = none := by
  simp only [fields]
  split
  case h_1 => exact absurd rfl (h .stage)
  case h_2 => exact absurd rfl (h .command)
  case h_3 => exact absurd rfl (h .status)
  case h_4 => exact absurd rfl (h .exit)
  case h_5 => exact absurd rfl (h .error)
  case h_6 => exact absurd rfl (h .startedAt)
  case h_7 => exact absurd rfl (h .endedAt)
  case h_8 => rfl

theorem put_known {taken : List Field} {f : Field} {d : Document} (hnew : f ∉ taken)
    (h : Field.Written r f d) (hd : 1 < depth) :
    ∃ take, (fields depth).put (Given.known r taken) f.name = some take ∧
      take d = .ok (Given.known r (f :: taken)) := by
  cases f with
  | stage => exact ⟨_, rfl, by simp [Given.known, hnew, decode_stage h]⟩
  | command => exact ⟨_, rfl, by simp [Given.known, hnew, decode_command h]⟩
  | status => exact ⟨_, rfl, by simp [Given.known, hnew, decode_status h]⟩
  | exit => exact ⟨_, rfl, by simp [Given.known, hnew, decode_exit h hd]⟩
  | error => exact ⟨_, rfl, by simp [Given.known, hnew, decode_error h]⟩
  | startedAt => exact ⟨_, rfl, by simp [Given.known, hnew, decode_startedAt h]⟩
  | endedAt => exact ⟨_, rfl, by simp [Given.known, hnew, decode_endedAt h]⟩

/-- The record as its object is read: the decoder knows the fields of `r` that it has taken. -/
def record (r : StageResult) (depth : Nat) (hd : 1 < depth) : Record Given Field where
  keyed := fields depth
  field? := Field.ofName?
  state := Given.known r
  Written := Field.Written r
  takes hf hnew h := by
    cases Field.name_eq hf
    exact put_known hnew h hd
  ignores h := put_foreign (Field.ofName?_eq_none_iff.mp h)

/-- The entries of objects that stand for a record. They come from those that the record itself
writes. Their order may change, so it is enough to speak of the first one: it may be an exit
written in another way, a null for what is absent, or a key that is no field, with any value. -/
inductive Rearranged (r : StageResult) : List (Document × Document) → Prop
  | written : Rearranged r (Document.ofFields (Fields.ofList r.members))
  | permuted {es es' : List (Document × Document)} :
      es.Perm es' → Rearranged r es → Rearranged r es'
  | exit {es : List (Document × Document)} {e : Exit} {d d' : Document} :
      r.exit = some e → e.Written d' → Rearranged r ((.str "exit", d) :: es) →
      Rearranged r ((.str "exit", d') :: es)
  | absent {es : List (Document × Document)} {f : Field} :
      f.json r = none → (∀ e ∈ es, e.1.key ≠ .ok f.name) → Rearranged r es →
      Rearranged r ((.str f.name, .null) :: es)
  | foreign {es : List (Document × Document)} {k d : Document} {name : String} :
      k.key = .ok name → (∀ f : Field, f.name ≠ name) → d.skip = .ok () → Rearranged r es →
      Rearranged r ((k, d) :: es)

/-- Every way to write down a record: as an object, or as the array of its fields. -/
inductive Presentation (r : StageResult) : Document → Prop
  | object {es : List (Document × Document)} : Rearranged r es → Presentation r (.object es none)
  | array {exit error : Document} : Field.exit.Written r exit → Field.error.Written r error →
      Presentation r (.array [.str r.stage.name, .str r.command, .str r.status.name, exit, error,
        .str r.startedAt.text, .str r.endedAt.text] none)

theorem given_members (r : StageResult) (hd : 1 < depth) :
    (record r depth hd).given (Document.ofFields r.members) =
      Field.all.filter fun f => (f.json r).isSome := by
  have back : (fun f : Field => Field.ofName? f.name) = some := funext Field.ofName?_name
  have names := congrArg (List.filterMap Field.ofName?) (names_members r)
  rw [List.filterMap_map, List.filterMap_map] at names
  rw [Record.given_ofFields]
  exact names.trans (by rw [Function.comp_def, back, List.filterMap_some])

theorem entries_members (r : StageResult) (hd : 1 < depth) :
    (record r depth hd).Entries (Document.ofFields r.members) where
  each := by
    rw [Document.ofFields_eq_map]
    intro e he
    obtain ⟨⟨name, j⟩, hmem, rfl⟩ := List.mem_map.mp he
    obtain ⟨f, rfl, hf⟩ := mem_members hmem
    exact .field rfl (Field.ofName?_name f) (Field.written_of_json hf)
  once := by
    rw [given_members]
    exact List.Pairwise.sublist List.filter_sublist (by decide : Field.all.Nodup)

theorem perm_members (r : StageResult) :
    (Document.ofFields r.members).Perm (Document.ofFields (Fields.ofList r.members)) := by
  simp only [Document.ofFields_eq_map]
  exact ((Fields.ofList_perm r.nodup_members).map _).symm

theorem Rearranged.entries {es : List (Document × Document)} (h : Rearranged r es)
    (hd : 1 < depth) :
    (record r depth hd).Entries es ∧
      ∀ f : Field, f ∈ (record r depth hd).given es ∨ f.Written r .null := by
  induction h with
  | written =>
    -- only the order of the printed entries differs from that of the members
    refine ⟨(entries_members r hd).perm (perm_members r), fun f => ?_⟩
    rw [← (Record.given_perm (perm_members r)).mem_iff, given_members]
    cases hf : f.json r with
    | none => exact .inr (Field.written_null_of_json hf)
    | some j => exact .inl (List.mem_filter.mpr ⟨Field.mem_all f, by rw [hf]; rfl⟩)
  | permuted hp _ ih =>
    exact ⟨ih.1.perm hp, fun f => (ih.2 f).imp_left (Record.given_perm hp).mem_iff.mp⟩
  | exit he hw _ ih => exact ⟨ih.1.rewritten rfl rfl (.exit he hw), ih.2⟩
  | @absent es f hf hnew _ ih =>
    have new : f ∉ (record r depth hd).given es := by
      intro hmem
      obtain ⟨e, he, name, hk, hname⟩ := Record.exists_key_of_mem_given hmem
      exact hnew e he (by rw [hk, Field.name_eq hname])
    have null := Field.written_null_of_json hf
    refine ⟨ih.1.field rfl (Field.ofName?_name f) null new, fun g => ?_⟩
    rw [Record.given_field es rfl (Field.ofName?_name f)]
    exact (ih.2 g).imp_left (List.mem_cons_of_mem f)
  | @foreign es k d name hk hname hskip _ ih =>
    have none := Field.ofName?_eq_none_iff.mpr hname
    refine ⟨ih.1.foreign hk none hskip, fun g => ?_⟩
    rw [Record.given_foreign es hk none]
    exact ih.2 g

theorem Presentation.decoded {d : Document} (h : Presentation r d) (hd : 2 < depth) :
    decode depth d = .ok r := by
  have hd' : 1 < depth - 1 := by omega
  have descends : Document.descend depth = .ok (depth - 1) := Document.descend_of_lt (by omega)
  cases h with
  | @object es h =>
    obtain ⟨entries, whole⟩ := h.entries hd'
    have taken : Decode.entries (fields (depth - 1)) .nothing es none = _ := entries.taken
    simp only [StageResult.decode, descends, sound, bind, Except.bind, taken]
    exact complete_known fun f => (whole f).imp_left List.mem_reverse.mpr
  | array hexit herror =>
    simp only [StageResult.decode, descends, sound, bind, Except.bind, pure, Except.pure, element,
      decode_stage .stage, decode_command .command, decode_status .status, decode_exit hexit hd',
      decode_error herror, decode_startedAt .startedAt, decode_endedAt .endedAt, close]

theorem Presentation.decoded_text {s : String} {d : Document}
    (hs : Document.Text.ofString s = ⟨d, false⟩) (h : Presentation r d) :
    Decode.text decode (Document.Text.ofString s) = .ok r := by
  rw [hs, Decode.text, h.decoded (by decide)]
  rfl

theorem presentation_members {fs : List (String × Json)} (h : fs.Perm r.members) :
    Presentation r (.object (Document.ofFields fs) none) := by
  refine .object (.permuted ((perm_members r).symm.trans ?_) .written)
  simp only [Document.ofFields_eq_map]
  exact h.symm.map _

theorem ofString_members {fs : List (String × Json)} (h : fs.Perm r.members) :
    Document.Text.ofString (Json.object fs).text =
      ⟨.object (Document.ofFields fs) none, false⟩ :=
  Document.Text.ofString_text
    (exactFields_iff.mpr fun field hf => r.exact_members field (h.mem_iff.mp hf))

theorem field?_exit (r : StageResult) : r.toJson.field? "exit" = r.exit.map Exit.toJson := by
  obtain ⟨stage, command, status, exit, error, startedAt, endedAt⟩ := r
  cases exit <;> cases error <;> rfl

theorem field?_error (r : StageResult) : r.toJson.field? "error" = r.error.map Json.string := by
  obtain ⟨stage, command, status, exit, error, startedAt, endedAt⟩ := r
  cases exit <;> cases error <;> rfl

/-- The text of a record is read back as that record, whatever order its fields are printed in,
and so is every other presentation of it; an exit or an error that is absent is not printed. -/
theorem presentations_read_back (r : StageResult) :
    Document.Text.ofString r.toJson.text = ⟨.ofJson r.toJson, false⟩ ∧
    Decode.text decode (Document.Text.ofString r.toJson.text) = .ok r ∧
    (∀ fs : List (String × Json), fs.Perm r.members →
      Decode.text decode (Document.Text.ofString (Json.object fs).text) = .ok r) ∧
    (r.toJson.field? "exit" = none ↔ r.exit = none) ∧
    (r.toJson.field? "error" = none ↔ r.error = none) ∧
    ∀ (s : String) (d : Document), Document.Text.ofString s = ⟨d, false⟩ → Presentation r d →
      Decode.text decode (Document.Text.ofString s) = .ok r := by
  have ofList := Fields.ofList_perm r.nodup_members
  have printed : ∀ fs : List (String × Json), fs.Perm r.members →
      Decode.text decode (Document.Text.ofString (Json.object fs).text) = .ok r := fun fs h =>
    (presentation_members h).decoded_text (ofString_members h)
  refine ⟨?_, ?_, printed, ?_, ?_, fun s d hs h => h.decoded_text hs⟩
  · rw [toJson_eq]
    exact ofString_members ofList
  · rw [toJson_eq]
    exact printed _ ofList
  · rw [field?_exit, Option.map_eq_none_iff]
  · rw [field?_error, Option.map_eq_none_iff]

def killedRun : StageResult :=
  ⟨.profilingRun, "./run", .fail, some (.signal 9), none, default, default⟩

/-- The fields of `killedRun` behind a key of their own, the error as null and the exit as a
pair. -/
def killedRunFields : List (String × Json) :=
  [("note", .array [.null]), ("error", .null),
    ("exit", .array [.string "signal", Json.int 9]), ("stage", .string "profiling_run"),
    ("command", .string "./run"), ("status", .string "fail"),
    ("started_at", .string killedRun.startedAt.text),
    ("ended_at", .string killedRun.endedAt.text)]

theorem killedRun_rearranged : Rearranged killedRun (Document.ofFields killedRunFields) := by
  have exitFirst : (Document.ofFields killedRun.members).Perm
      ((.str "exit", .ofJson (Exit.signal 9).toJson) ::
        (Document.ofFields killedRunFields).drop 3) :=
    @List.perm_middle _ _ ((Document.ofFields killedRun.members).take 3)
      ((Document.ofFields killedRun.members).drop 4)
  have exit : Rearranged killedRun ((Document.ofFields killedRunFields).drop 2) :=
    .exit rfl .pair (.permuted ((perm_members killedRun).symm.trans exitFirst) .written)
  have noError : ∀ e ∈ (Document.ofFields killedRunFields).drop 2, e.1.key ≠ .ok "error" := by
    simp [killedRunFields, Document.ofFields, Document.key]
  have noField : ∀ f : Field, f.name ≠ "note" := by
    intro f
    cases f <;> decide
  exact .foreign rfl noField (Document.skip_ofJson (.array [.null]))
    (.absent (f := .error) rfl noError exit)

theorem killedRun_read_back :
    Decode.text decode (Document.Text.ofString (Json.object killedRunFields).text) =
      .ok killedRun := by
  have exact : (Json.object killedRunFields).Exact := by
    simp [killedRunFields, Exact, ExactItems, ExactFields, Json.int]
  exact (presentations_read_back killedRun).2.2.2.2.2 _ _ (Document.Text.ofString_text exact)
    (.object killedRun_rearranged)

end StageResult

end ProfiledBuild
