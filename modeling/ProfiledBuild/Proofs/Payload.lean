import ProfiledBuild.Proofs.EventCodec

/-! The payload of an event. It holds the last value that was added for each key and nothing else of
how it came about, its text has the keys in ascending order at every level, and no other data have
that text. -/

namespace ProfiledBuild

namespace Json

namespace Document

mutual

/-- Keys ascend in the order of their octets, in every object as it is written. -/
def Ascending : Document → Prop
  | .array items _ => AscendingItems items
  | .object entries _ =>
    entries.Pairwise (fun a b => ∃ k k', a.1 = .str k ∧ b.1 = .str k' ∧
      Utf8.encode k < Utf8.encode k') ∧ AscendingEntries entries
  | _ => True

def AscendingItems : List Document → Prop
  | [] => True
  | d :: rest => Ascending d ∧ AscendingItems rest

def AscendingEntries : List (Document × Document) → Prop
  | [] => True
  | (_, d) :: rest => Ascending d ∧ AscendingEntries rest

end

theorem pairwise_ofFields {fields : List (String × Json)} (h : Fields.Sorted fields) :
    (ofFields fields).Pairwise fun a b => ∃ k k', a.1 = .str k ∧ b.1 = .str k' ∧
      Utf8.encode k < Utf8.encode k' := by
  rw [ofFields_eq_map, List.pairwise_map]
  exact h.imp fun hbefore => ⟨_, _, rfl, rfl, of_decide_eq_true hbefore⟩

mutual

theorem ascending_ofJson : ∀ {j : Json}, j.Canonical → (ofJson j).Ascending
  | .null, _ => trivial
  | .bool _, _ => trivial
  | .number _, _ => trivial
  | .string _, _ => trivial
  | .array _, h => ascending_ofItems h
  | .object _, h => ⟨pairwise_ofFields h.1, ascending_ofFields h.2⟩

theorem ascending_ofItems : ∀ {items : List Json}, CanonicalItems items →
    AscendingItems (ofItems items)
  | [], _ => trivial
  | _ :: _, h => ⟨ascending_ofJson h.1, ascending_ofItems h.2⟩

theorem ascending_ofFields : ∀ {fields : List (String × Json)}, CanonicalFields fields →
    AscendingEntries (ofFields fields)
  | [], _ => trivial
  | (_, _) :: _, h => ⟨ascending_ofJson h.1, ascending_ofFields h.2⟩

end

end Document

/-- A value that its text tells: exact numbers, and the fields of every object in order. -/
def Told (j : Json) : Prop := j.Exact ∧ j.Canonical

/-- No two values have one text. -/
theorem Told.eq_of_text {i j : Json} (hi : i.Told) (hj : j.Told) (h : i.text = j.text) : i = j := by
  have hread : Document.ofJson i = Document.ofJson j := by
    have htext := Document.Text.ofString_text hi.1
    rw [h, Document.Text.ofString_text hj.1] at htext
    exact (Document.Text.mk.inj htext).1.symm
  -- deep enough for both, so that the values can be taken back from what is read
  have hdepth : i.nesting < i.nesting + j.nesting + 1 ∧ j.nesting < i.nesting + j.nesting + 1 := by
    omega
  have hvalue := Document.value_ofJson hdepth.1
  rw [hread, Document.value_ofJson hdepth.2, Except.ok.injEq, hi.2.settled_eq,
    hj.2.settled_eq] at hvalue
  exact hvalue.symm

theorem canonicalFields_iff {fields : List (String × Json)} :
    CanonicalFields fields ↔ ∀ field ∈ fields, field.2.Canonical := by
  induction fields with
  | nil => simp [CanonicalFields]
  | cons field rest ih => rw [CanonicalFields, ih, List.forall_mem_cons]

theorem told_object {fields : List (String × Json)} (hsorted : Fields.Sorted fields)
    (h : ∀ field ∈ fields, field.2.Told) : (Json.object fields).Told :=
  ⟨exactFields_iff.mpr fun field hf => (h field hf).1, hsorted,
    canonicalFields_iff.mpr fun field hf => (h field hf).2⟩

theorem Fields.find?_eq_lookup (key : String) (fields : List (String × Json)) :
    find? key fields = fields.lookup key := by
  induction fields with
  | nil => rfl
  | cons field rest ih =>
    obtain ⟨k, v⟩ := field
    rw [find?, List.lookup_cons, ih]
    by_cases h : key = k
    · simp [h]
    · have hother : (key == k) = false := beq_eq_false_iff_ne.mpr h
      simp only [hother, if_neg h]

end Json

namespace Event

open Json

def adding (e : Event) (calls : List (String × Json)) : Event :=
  calls.foldl (fun e call => e.addData call.1 call.2) e

/-- The value that was added last for a key. -/
def lastValue (key : String) (calls : List (String × Json)) : Option Json :=
  calls.reverse.lookup key

/-- The entries of a map with the last value of every key, in whatever order the map has them. -/
structure Lists (calls entries : List (String × Json)) : Prop where
  nodup : (entries.map (·.1)).Nodup
  mem_iff : ∀ key value, (key, value) ∈ entries ↔ lastValue key calls = some value

theorem data_adding (e : Event) (calls : List (String × Json)) :
    (e.adding calls).data = calls.foldl (fun acc (k, v) => acc.insert k v) e.data := by
  induction calls generalizing e with
  | nil => rfl
  | cons call rest ih => exact ih (e.addData call.1 call.2)

theorem payload_adding (type : String) (now : Timestamp) (calls : List (String × Json)) :
    ((ofType type now).adding calls).payload = Json.ofFields calls := by
  rw [payload, data_adding]
  rfl

variable {calls more entries : List (String × Json)}

theorem find?_ofList_eq (key : String) (calls : List (String × Json)) :
    Fields.find? key (Fields.ofList calls) = lastValue key calls := by
  rw [Fields.find?_ofList, Fields.find?_eq_lookup, lastValue]

theorem lists_ofList (calls : List (String × Json)) : Lists calls (Fields.ofList calls) where
  nodup := (Fields.sorted_ofList calls).nodup
  mem_iff key value := by
    rw [← find?_ofList_eq, Fields.find?_eq_some_iff (Fields.sorted_ofList calls).nodup]

theorem mem_of_lastValue {key : String} {value : Json} (h : lastValue key calls = some value) :
    (key, value) ∈ calls := by
  obtain ⟨before, after, hcalls, -⟩ := List.lookup_eq_some_iff.mp h
  have hmem : (key, value) ∈ calls.reverse := by
    rw [hcalls]
    exact List.mem_append_right before List.mem_cons_self
  exact List.mem_reverse.mp hmem

/-- The keys of the map are those that were added. -/
theorem Lists.mem_keys (h : Lists calls entries) (key : String) :
    key ∈ entries.map (·.1) ↔ key ∈ calls.map (·.1) := by
  constructor
  · intro hkey
    obtain ⟨⟨_, value⟩, hmem, rfl⟩ := List.mem_map.mp hkey
    exact List.mem_map.mpr ⟨_, mem_of_lastValue ((h.mem_iff _ value).mp hmem), rfl⟩
  · intro hkey
    have hfound : lastValue key calls ≠ none := by
      rw [lastValue, ← Fields.find?_eq_lookup, Ne, Fields.find?_eq_none_iff, List.map_reverse,
        List.mem_reverse]
      exact fun hnot => hnot hkey
    obtain ⟨value, hvalue⟩ := Option.ne_none_iff_exists'.mp hfound
    exact List.mem_map.mpr ⟨_, (h.mem_iff key value).mpr hvalue, rfl⟩

/-- In whatever order a map has its entries, they make the same object. -/
theorem Lists.ofFields_eq (h : Lists calls entries) : Json.ofFields entries = Json.ofFields calls := by
  refine congrArg Json.object ((Fields.sorted_ofList entries).ext (Fields.sorted_ofList calls) ?_)
  intro key
  have hlisted := lists_ofList calls
  have hperm : (Fields.ofList entries).Perm entries := Fields.ofList_perm h.nodup
  rw [Fields.find?_perm hperm (Fields.sorted_ofList entries).nodup]
  ext value
  rw [Fields.find?_eq_some_iff h.nodup, Fields.find?_eq_some_iff hlisted.nodup, h.mem_iff,
    hlisted.mem_iff]

theorem told_ofFields (h : ∀ call ∈ calls, call.2.Told) : (Json.ofFields calls).Told := by
  refine told_object (Fields.sorted_ofList calls) fun field hf => ?_
  have hlast := ((lists_ofList calls).mem_iff field.1 field.2).mp hf
  exact h _ (mem_of_lastValue hlast)

theorem ofFields_eq_iff :
    Json.ofFields calls = Json.ofFields more ↔ ∀ key, lastValue key calls = lastValue key more := by
  constructor
  · intro h key
    rw [← find?_ofList_eq, ← find?_ofList_eq, Json.object.inj h]
  · intro h
    refine congrArg Json.object ((Fields.sorted_ofList calls).ext (Fields.sorted_ofList more) ?_)
    intro key
    rw [find?_ofList_eq, find?_ofList_eq, h key]

/-- The payload of an event is the object of the last values, in whatever order a map lists them. Its
text is that object written with ascending keys, and two events have one payload text exactly when
they agree in the last value of every key. -/
theorem payload_canonical (type : String) (now : Timestamp) (calls : List (String × Json))
    (h : ∀ call ∈ calls, call.2.Told) :
    let e := (ofType type now).adding calls
    (∃ fields, e.payload = .object fields ∧ Lists calls fields ∧
      ∀ key, key ∈ fields.map (·.1) ↔ key ∈ calls.map (·.1)) ∧
    (∀ entries, Lists calls entries → Json.ofFields entries = e.payload) ∧
    Document.Text.ofString e.payload.text = ⟨.ofJson e.payload, false⟩ ∧
    (Document.ofJson e.payload).Ascending ∧
    ∀ (type' : String) (now' : Timestamp) (more : List (String × Json)),
      (∀ call ∈ more, call.2.Told) →
      (e.payload.text = ((ofType type' now').adding more).payload.text ↔
        ∀ key, lastValue key calls = lastValue key more) := by
  intro e
  have hpayload : e.payload = Json.ofFields calls := payload_adding type now calls
  have htold := told_ofFields h
  rw [hpayload]
  refine ⟨⟨_, rfl, lists_ofList calls, (lists_ofList calls).mem_keys⟩,
    fun entries hentries => hentries.ofFields_eq, Document.Text.ofString_text htold.1,
    Document.ascending_ofJson htold.2, fun type' now' more hmore => ?_⟩
  rw [payload_adding, ← ofFields_eq_iff]
  exact ⟨htold.eq_of_text (told_ofFields hmore), congrArg Json.text⟩

/-- A value that is overwritten, and keys in other orders at both levels. -/
def untidyCalls : List (String × Json) :=
  [("stage", .null), ("exit", Json.ofFields [("kind", .string "signal"), ("code", Json.int 9)]),
    ("stage", .string "profiling_run")]

theorem untidyCalls_payload :
    (∀ call ∈ untidyCalls, call.2.Told) ∧
    ((ofType "stage.failed" default).adding untidyCalls).payload =
      .object [("exit", .object [("code", Json.int 9), ("kind", .string "signal")]),
        ("stage", .string "profiling_run")] ∧
    ((ofType "stage.failed" default).adding untidyCalls).payload.text =
      ((ofType "other" default).adding (untidyCalls.drop 1).reverse).payload.text := by
  have hexit : (Json.ofFields [("kind", .string "signal"), ("code", Json.int 9)]).Told :=
    told_ofFields (by simp [Told, Exact, Canonical, Json.int])
  have htold : ∀ call ∈ untidyCalls, call.2.Told := by
    simp only [untidyCalls, List.forall_mem_cons]
    exact ⟨⟨trivial, trivial⟩, hexit, ⟨trivial, trivial⟩, List.forall_mem_nil _⟩
  have hfewer : ∀ call ∈ (untidyCalls.drop 1).reverse, call.2.Told := fun call hcall =>
    htold call (List.mem_of_mem_drop (List.mem_reverse.mp hcall))
  obtain ⟨-, hlisted, -, -, htext⟩ := payload_canonical "stage.failed" default untidyCalls htold
  refine ⟨htold, payload_adding .., (htext "other" default _ hfewer).mpr fun key => ?_⟩
  by_cases hstage : key = "stage"
  · subst hstage
    rfl
  · have hother : (key == "stage") = false := beq_eq_false_iff_ne.mpr hstage
    simp [lastValue, untidyCalls, List.lookup_cons, hother]

end Event

end ProfiledBuild
