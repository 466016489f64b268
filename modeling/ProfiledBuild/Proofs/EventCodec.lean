import ProfiledBuild.Event
import ProfiledBuild.Proofs.Json.Objects
import ProfiledBuild.Proofs.Json.RoundTrip

/-! An event as JSON text. An event is read back from its own text and from every other way to write
it down. Its own keys may come once; of keys of its data that come again the last one counts. -/

namespace ProfiledBuild

open Json Json.Decode

namespace Event

inductive Field where
  | type
  | timestamp
  | data
  deriving DecidableEq

namespace Field

def all : List Field := [.type, .timestamp, .data]

def name : Field → String
  | .type => "type"
  | .timestamp => "timestamp"
  | .data => "data"

def ofName? : String → Option Field := named? all name

/-- How a field of an event is written. The data may be written in any way that, with the object of
the event around it, does not nest too deep. -/
inductive Written (e : Event) : Field → Document → Prop
  | type : Written e .type (.str e.type)
  | timestamp : Written e .timestamp (.str e.timestamp)
  | data {t : Json} : t.Rearranged e.payload → t.nesting + 1 < Document.depthLimit →
      Written e .data (.ofJson t)

theorem mem_all (f : Field) : f ∈ all := by
  cases f <;> decide

theorem ofName?_name (f : Field) : ofName? f.name = some f := by
  cases f <;> rfl

theorem ofName?_eq_none_iff {name : String} :
    ofName? name = none ↔ ∀ f : Field, f.name ≠ name :=
  named?_eq_none_iff mem_all

theorem name_eq {name : String} {f : Field} (h : ofName? name = some f) : f.name = name :=
  name_of_named? h

theorem name_inj {f f' : Field} (h : f.name = f'.name) : f = f' := by
  have back := congrArg ofName? h
  rwa [ofName?_name, ofName?_name, Option.some.injEq] at back

end Field

/-- The entries of an object that gives some fields of an event, in any order, and between them keys
that are no fields, with any values. -/
inductive Members (e : Event) : List Field → List (Document × Document) → Prop
  | nothing : Members e [] []
  | field {f : Field} {given : List Field} {d : Document} {es : List (Document × Document)} :
      f.Written e d → f ∉ given → Members e given es →
      Members e (f :: given) ((.str f.name, d) :: es)
  | foreign {given : List Field} {k d : Document} {name : String}
      {es : List (Document × Document)} :
      k.key = .ok name → (∀ f : Field, f.name ≠ name) → d.skip = .ok () → Members e given es →
      Members e given ((k, d) :: es)
  | permuted {given : List Field} {es es' : List (Document × Document)} :
      es.Perm es' → Members e given es → Members e given es'

/-- Every way to write down an event: as an object, or as the array of its fields. Data that is
empty may be left out. -/
inductive Presentation (e : Event) : Document → Prop
  | object {given : List Field} {es : List (Document × Document)} : Members e given es →
      .type ∈ given → .timestamp ∈ given → (.data ∈ given ∨ e.data = []) →
      Presentation e (.object es none)
  | array {d : Document} : Field.data.Written e d →
      Presentation e (.array [.str e.type, .str e.timestamp, d] none)
  | short : e.data = [] → Presentation e (.array [.str e.type, .str e.timestamp] none)

namespace Given

/-- What is known of an event after some of its fields. -/
def known (e : Event) (taken : List Field) : Given where
  type := if .type ∈ taken then some e.type else none
  timestamp := if .timestamp ∈ taken then some e.timestamp else none
  data := if .data ∈ taken then some e.data else none

theorem complete_known {e : Event} {taken : List Field} (htype : .type ∈ taken)
    (htimestamp : .timestamp ∈ taken) (hdata : .data ∈ taken ∨ e.data = []) :
    (known e taken).complete = .ok e := by
  have data : (known e taken).data.getD [] = e.data := by
    by_cases h : Field.data ∈ taken
    · simp [known, h]
    · simp [known, h, hdata.resolve_left h]
  simp only [complete, data]
  simp only [known, htype, htimestamp, if_true, required, bind, Except.bind, pure, Except.pure]

/-- Whether a field is there. -/
def has (g : Given) : Field → Prop
  | .type => g.type.isSome
  | .timestamp => g.timestamp.isSome
  | .data => g.data.isSome

end Given

variable {e : Event}

theorem decode_data (hc : e.payload.Canonical) {d : Document} (h : Field.data.Written e d) :
    Decode.fields (Document.depthLimit - 1) d = .ok e.data := by
  cases h with
  | data ht hdepth => exact fields_of_value (ht.value_eq hc (Nat.lt_sub_of_add_lt hdepth))

theorem put_foreign {g : Given} {depth : Nat} {name : String} (h : ∀ f : Field, f.name ≠ name) :
    (fields depth).put g name = none := by
  simp only [fields]
  split
  case h_1 => exact absurd rfl (h .type)
  case h_2 => exact absurd rfl (h .timestamp)
  case h_3 => exact absurd rfl (h .data)
  case h_4 => rfl

theorem put_known (hc : e.payload.Canonical) {taken : List Field} {f : Field} {d : Document}
    (hnew : f ∉ taken) (h : f.Written e d) :
    ∃ take, (fields (Document.depthLimit - 1)).put (Given.known e taken) f.name = some take ∧
      take d = .ok (Given.known e (f :: taken)) := by
  cases f with
  | type =>
    cases h
    exact ⟨_, rfl, by simp [Given.known, hnew, decodeText, Decode.string, sound]⟩
  | timestamp =>
    cases h
    exact ⟨_, rfl, by simp [Given.known, hnew, decodeText, Decode.string, sound]⟩
  | data => exact ⟨_, rfl, by simp [Given.known, hnew, decode_data hc h]⟩

/-- The event as its object is read: the decoder knows the fields of `e` that it has taken. -/
def record (e : Event) (hc : e.payload.Canonical) : Record Given Field where
  keyed := fields (Document.depthLimit - 1)
  field? := Field.ofName?
  state := Given.known e
  Written := Field.Written e
  takes hf hnew h := by
    cases Field.name_eq hf
    exact put_known hc hnew h
  ignores h := put_foreign (Field.ofName?_eq_none_iff.mp h)

theorem Members.entries {given : List Field} {es : List (Document × Document)}
    (h : Members e given es) (hc : e.payload.Canonical) :
    (record e hc).Entries es ∧ ((record e hc).given es).Perm given := by
  induction h with
  | nothing => exact ⟨⟨List.forall_mem_nil _, List.nodup_nil⟩, .refl _⟩
  | @field f given d es hw hnew _ ih =>
    have known := Field.ofName?_name f
    refine ⟨ih.1.field rfl known hw fun hmem => hnew (ih.2.mem_iff.mp hmem), ?_⟩
    rw [Record.given_field es rfl known]
    exact ih.2.cons f
  | @foreign given k d name es hk hname hskip _ ih =>
    have unknown := Field.ofName?_eq_none_iff.mpr hname
    exact ⟨ih.1.foreign hk unknown hskip, by rw [Record.given_foreign es hk unknown]; exact ih.2⟩
  | permuted hp _ ih => exact ⟨ih.1.perm hp, (Record.given_perm hp).symm.trans ih.2⟩

theorem Presentation.decoded {d : Document} (h : Presentation e d) (hc : e.payload.Canonical) :
    decode Document.depthLimit d = .ok e := by
  have descends : Document.descend Document.depthLimit = .ok (Document.depthLimit - 1) := rfl
  cases h with
  | @object given es hmembers htype htimestamp hdata =>
    obtain ⟨entries, hgiven⟩ := hmembers.entries hc
    have taken : Decode.entries (fields (Document.depthLimit - 1)) .nothing es none = _ :=
      entries.taken
    have mem {f : Field} (hf : f ∈ given) : f ∈ ((record e hc).given es).reverse :=
      List.mem_reverse.mpr (hgiven.mem_iff.mpr hf)
    simp only [decode, descends, sound, bind, Except.bind, taken]
    exact Given.complete_known (mem htype) (mem htimestamp) (hdata.imp_left mem)
  | array hdata =>
    simp only [decode, descends, sound, bind, Except.bind, pure, Except.pure, element, elementOr,
      decodeText, Decode.string, decode_data hc hdata, close]
  | short hdata =>
    simp only [decode, descends, sound, bind, Except.bind, pure, Except.pure, element, elementOr,
      decodeText, Decode.string, close, ← hdata]

theorem Presentation.decoded_text {s : String} {d : Document} (h : Presentation e d)
    (hc : e.payload.Canonical) (hs : Document.Text.ofString s = ⟨d, false⟩) :
    Decode.text decode (Document.Text.ofString s) = .ok e := by
  rw [hs, Decode.text, h.decoded hc]
  rfl

def members (e : Event) : List (String × Json) :=
  [("type", .string e.type), ("timestamp", .string e.timestamp), ("data", e.payload)]

theorem nodup_members (e : Event) : (e.members.map (·.1)).Nodup := by
  show (Field.all.map Field.name).Nodup
  decide

theorem presentation_members {fs : List (String × Json)} (h : fs.Perm e.members)
    (hd : e.payload.nesting + 1 < Document.depthLimit) :
    Presentation e (.object (Document.ofFields fs) none) := by
  have written : Members e Field.all (Document.ofFields e.members) :=
    .field .type (by decide) (.field .timestamp (by decide)
      (.field (.data (.same _) hd) (by decide) .nothing))
  have perm : (Document.ofFields e.members).Perm (Document.ofFields fs) := by
    simp only [Document.ofFields_eq_map]
    exact h.symm.map _
  exact .object (.permuted perm written) (by decide) (by decide) (Or.inl (by decide))

theorem exact_members (hx : e.payload.Exact) {fs : List (String × Json)} (h : fs.Perm e.members) :
    (Json.object fs).Exact := by
  have each : ∀ field ∈ e.members, field.2.Exact := by
    simp only [members, List.forall_mem_cons]
    exact ⟨trivial, trivial, hx, List.forall_mem_nil _⟩
  exact exactFields_iff.mpr fun field hf => each field (h.mem_iff.mp hf)

/-- What is taken is a field that was not there, and all else stays. -/
theorem put_taken {depth : Nat} {g g' : Given} {key : String} {take : Document → Decoded Given}
    {d : Document} (hput : (fields depth).put g key = some take) (htake : take d = .ok g') :
    ∃ f : Field, f.name = key ∧ ¬g.has f ∧ g'.has f ∧ ∀ f', g.has f' → g'.has f' := by
  simp only [fields] at hput
  split at hput
  case h_4 => cases hput
  all_goals
    cases hput
    obtain ⟨a, ha, rfl⟩ := bind_return_eq_ok htake
    have hfresh := once_eq_ok ha
  case h_1 =>
    refine ⟨.type, rfl, by simp [Given.has, hfresh], rfl, fun f' hf' => ?_⟩
    cases f' <;> first | rfl | exact hf'
  case h_2 =>
    refine ⟨.timestamp, rfl, by simp [Given.has, hfresh], rfl, fun f' hf' => ?_⟩
    cases f' <;> first | rfl | exact hf'
  case h_3 =>
    refine ⟨.data, rfl, by simp [Given.has, hfresh], rfl, fun f' hf' => ?_⟩
    cases f' <;> first | rfl | exact hf'

theorem fields_once (depth : Nat) (f : Field) :
    (fields depth).Once f.name fun g => g.has f where
  field g := by cases f <;> exact Option.some_ne_none _
  stays hput htake hr := by
    obtain ⟨f', -, -, -, hstays⟩ := put_taken hput htake
    exact hstays f hr
  fresh hput htake := by
    obtain ⟨f', hname, hfresh, hthere, -⟩ := put_taken hput htake
    cases Field.name_inj hname
    exact ⟨hfresh, hthere⟩

theorem decode_repeated {depth : Nat} {f : Field} {k d k' d' : Document}
    {es : List (Document × Document)} {stop : Option Fault} (hk : k.key = .ok f.name)
    (hk' : k'.key = .ok f.name) (hes : [(k, d), (k', d')].Sublist es) :
    ∃ err, decode depth (.object es stop) = .error err := by
  rw [decode]
  cases hd : Document.descend depth with
  | error fault => exact ⟨_, rfl⟩
  | ok inside =>
    cases hread : entries (fields inside) Given.nothing es stop with
    | error err => exact ⟨err, by simp [hread, sound, bind, Except.bind]⟩
    | ok g => exact absurd hread ((fields_once inside f).repeated hk hk' hes)

/-- The text of an event is read back as that event, whatever order its fields are printed in, and
so is every other presentation of it. An object with a field that comes twice is refused. -/
theorem events_read_back (e : Event) (hc : e.payload.Canonical) :
    (e.payload.Exact → e.payload.nesting + 1 < Document.depthLimit →
      Decode.text decode (Document.Text.ofString e.toJson.text) = .ok e ∧
      ∀ fs : List (String × Json), fs.Perm e.members →
        Decode.text decode (Document.Text.ofString (Json.object fs).text) = .ok e) ∧
    (∀ (s : String) (d : Document), Document.Text.ofString s = ⟨d, false⟩ → Presentation e d →
      Decode.text decode (Document.Text.ofString s) = .ok e) ∧
    (∀ j : Json, j.Exact → Presentation e (.ofJson j) →
      Decode.text decode (Document.Text.ofString j.text) = .ok e) ∧
    ∀ (s : String) (es : List (Document × Document)) (stop : Option Fault) (trailing : Bool)
      (f : Field) (k d k' d' : Document), Document.Text.ofString s = ⟨.object es stop, trailing⟩ →
      [(k, d), (k', d')].Sublist es → k.key = .ok f.name → k'.key = .ok f.name →
      ∃ err, Decode.text decode (Document.Text.ofString s) = .error err := by
  have ofList := Fields.ofList_perm e.nodup_members
  have presented (s : String) (d : Document) (hs : Document.Text.ofString s = ⟨d, false⟩)
      (h : Presentation e d) : Decode.text decode (Document.Text.ofString s) = .ok e :=
    h.decoded_text hc hs
  refine ⟨fun hx hd => ?_, presented, fun j hj h => ?_, ?_⟩
  · have printed : ∀ fs : List (String × Json), fs.Perm e.members →
        Decode.text decode (Document.Text.ofString (Json.object fs).text) = .ok e := fun fs h =>
      presented _ _ (Document.Text.ofString_text (exact_members hx h)) (presentation_members h hd)
    exact ⟨printed _ ofList, printed⟩
  · exact presented _ _ (Document.Text.ofString_text hj) h
  · intro s es stop trailing f k d k' d' hs hes hk hk'
    obtain ⟨err, herr⟩ : ∃ err, decode Document.depthLimit (.object es stop) = .error err :=
      decode_repeated hk hk' hes
    exact ⟨err, by rw [hs, Decode.text, herr]; rfl⟩

def crash : Event where
  type := "stage.failed"
  timestamp := "noon"
  data := [("exit", .object [("code", Json.int 9), ("kind", .string "signal")]),
    ("stage", .string "profiling_run")]

/-- The data of `crash` in another order, at both levels, behind a stage that does not count. -/
def crashData : Json :=
  .object [("stage", .null), ("stage", .string "profiling_run"),
    ("exit", .object [("kind", .string "signal"), ("code", Json.int 9)])]

def crashFields : List (String × Json) :=
  [("data", crashData), ("note", .array [.null]), ("timestamp", .string "noon"),
    ("type", .string "stage.failed")]

theorem crashData_rearranged : crashData.Rearranged crash.payload := by
  have inside : (Json.object [("kind", .string "signal"), ("code", Json.int 9)]).Rearranged
      (.object [("code", Json.int 9), ("kind", .string "signal")]) :=
    .permuted (.swap ..) (by decide)
  refine .trans (@Rearranged.repeated [] _ _ _ (by decide)) ?_
  exact .trans (.permuted (.swap ..) (by decide)) (@Rearranged.field [] _ _ _ _ inside)

theorem crash_presentation : Presentation crash (.ofJson (.object crashFields)) := by
  have noField : ∀ f : Field, f.name ≠ "note" := by
    intro f
    cases f <;> decide
  have given : Members crash Field.all.reverse (Document.ofFields crashFields) :=
    .field (.data crashData_rearranged (by decide)) (by decide)
      (.foreign rfl noField (Document.skip_ofJson (.array [.null]))
        (.field .timestamp (by decide) (.field .type (by decide) .nothing)))
  exact .object given (by decide) (by decide) (Or.inl (by decide))

theorem crash_read_back :
    crash.payload.Canonical ∧
    Decode.text decode (Document.Text.ofString crash.toJson.text) = .ok crash ∧
    Decode.text decode (Document.Text.ofString (Json.object crashFields).text) = .ok crash ∧
    ∃ err, Decode.text decode (Document.Text.ofString
      (Json.object (("type", .string "stage.failed") :: crashFields)).text) = .error err := by
  have canonical : crash.payload.Canonical :=
    ⟨by decide, ⟨by decide, trivial, trivial, trivial⟩, trivial, trivial⟩
  have exactPayload : crash.payload.Exact := by
    simp [crash, payload, Exact, ExactFields, Json.int]
  have exactData : crashData.Exact := by
    simp [crashData, Exact, ExactFields, Json.int]
  have exactFields : (Json.object crashFields).Exact := ⟨exactData, ⟨trivial, trivial⟩, trivial,
    trivial, trivial⟩
  have exactTwice : (Json.object (("type", .string "stage.failed") :: crashFields)).Exact :=
    ⟨trivial, exactFields⟩
  obtain ⟨own, -, printed, twice⟩ := events_read_back crash canonical
  refine ⟨canonical, (own exactPayload (by decide)).1, printed _ exactFields crash_presentation, ?_⟩
  exact twice _ _ none false .type (.str "type") (.str "stage.failed") (.str "type")
    (.str "stage.failed") (Document.Text.ofString_text exactTwice) (by
      simp [crashFields, Document.ofFields, Document.ofJson]) rfl rfl

end Event

end ProfiledBuild
