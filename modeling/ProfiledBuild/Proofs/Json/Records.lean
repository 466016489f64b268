import ProfiledBuild.Json.Decode

/-! Records written as objects. What a record takes from an object depends neither on the order of
its entries nor on keys that are no fields of it. -/

namespace ProfiledBuild.Json

namespace Fields

theorem insert_perm {key : String} (value : Json) {fields : List (String × Json)}
    (h : key ∉ fields.map (·.1)) : (insert key value fields).Perm ((key, value) :: fields) := by
  induction fields with
  | nil => exact .refl _
  | cons field rest ih =>
    obtain ⟨k, v⟩ := field
    rw [List.map_cons, List.mem_cons, not_or] at h
    rw [insert, if_neg h.1]
    split
    · exact .refl _
    · exact ((ih h.2).cons _).trans (.swap _ _ _)

theorem foldl_insert_perm {fields acc : List (String × Json)}
    (h : ((fields ++ acc).map (·.1)).Nodup) :
    (fields.foldl (fun acc (k, v) => insert k v acc) acc).Perm (fields ++ acc) := by
  induction fields generalizing acc with
  | nil => exact .refl _
  | cons field rest ih =>
    obtain ⟨k, v⟩ := field
    have inserted : (rest ++ insert k v acc).Perm ((k, v) :: rest ++ acc) := by
      rw [List.cons_append, List.map_cons, List.nodup_cons, List.map_append, List.mem_append,
        not_or] at h
      exact ((insert_perm v h.1.2).append_left rest).trans List.perm_middle
    exact (ih ((inserted.map _).nodup_iff.mpr h)).trans inserted

theorem ofList_perm {fields : List (String × Json)} (h : (fields.map (·.1)).Nodup) :
    (ofList fields).Perm fields := by
  rw [← List.append_nil fields] at h
  have perm := foldl_insert_perm h
  rwa [List.append_nil] at perm

end Fields

namespace Document

abbrev str (s : String) : Document := .string (.ok s)

abbrev whole (n : Int32) : Document := .number (.ok (.int n.toInt))

theorem descend_of_lt {depth : Nat} (h : 1 < depth) : descend depth = .ok (depth - 1) :=
  if_neg (Nat.not_le.mpr h)

theorem ofFields_eq_map (fields : List (String × Json)) :
    ofFields fields = fields.map fun field => (.string (.ok field.1), ofJson field.2) := by
  induction fields with
  | nil => rfl
  | cons field rest ih => rw [List.map_cons, ← ih]; rfl

mutual

theorem skip_ofJson : ∀ j : Json, (ofJson j).skip = .ok ()
  | .null => rfl
  | .bool _ => rfl
  | .number _ => rfl
  | .string _ => rfl
  | .array items => skipItems_ofItems items
  | .object fields => skipEntries_ofFields fields

theorem skipItems_ofItems : ∀ items : List Json, skipItems (ofItems items) none = .ok ()
  | [] => rfl
  | v :: rest => by
    rw [ofItems, skipItems, skip_ofJson v]
    exact skipItems_ofItems rest

theorem skipEntries_ofFields :
    ∀ fields : List (String × Json), skipEntries (ofFields fields) none = .ok ()
  | [] => rfl
  | (k, v) :: rest => by
    rw [ofFields, skipEntries, skip_ofJson v]
    exact skipEntries_ofFields rest

end

end Document

namespace Decode

@[simp] theorem map_ok {α β : Type} (f : α → β) (a : α) :
    (f <$> (.ok a : Decoded α)) = .ok (f a) := rfl

@[simp] theorem once_none {α : Type} (field : String) (decode : Document → Decoded α) (d : Document) :
    once field none decode d = decode d := rfl

theorem once_eq_ok {α : Type} {field : String} {sofar : Option α}
    {decode : Document → Decoded α} {d : Document} {a : α}
    (h : once field sofar decode d = .ok a) : sofar = none := by
  cases sofar with
  | none => rfl
  | some b => cases h

theorem bind_return_eq_ok {α β : Type} {x : Decoded α} {f : α → β} {b : β}
    (h : (do return f (← x)) = .ok b) : ∃ a, x = .ok a ∧ f a = b := by
  cases x with
  | ok a => exact ⟨a, rfl, Except.ok.inj h⟩
  | error err => cases h

theorem optional_of_ne_null {α : Type} {decode : Decoder α} {depth : Nat} {d : Document}
    (h : d ≠ .null) : optional decode depth d = do return some (← decode depth d) := by
  cases d with
  | null => exact absurd rfl h
  | _ => rfl

theorem int32_whole (depth : Nat) (n : Int32) : int32 depth (.whole n) = .ok n := by
  have range : -2147483648 ≤ n.toInt ∧ n.toInt ≤ 2147483647 :=
    ⟨n.le_toInt, Int.le_of_lt_add_one n.toInt_lt⟩
  simp [int32, range]

section

variable {ρ : Type} {keyed : Keyed ρ} {k d : Document} {es : List (Document × Document)}
  {stop : Option Fault} {r r' : ρ}

theorem entries_cons_eq_ok (h : entries keyed r ((k, d) :: es) stop = .ok r') :
    ∃ name, k.key = .ok name ∧
      ((∃ take r₁, keyed.put r name = some take ∧ take d = .ok r₁ ∧
          entries keyed r₁ es stop = .ok r') ∨
        keyed.put r name = none ∧ entries keyed r es stop = .ok r') := by
  rw [entries] at h
  cases hk : k.key with
  | error f => simp [hk, sound, fault, bind, Except.bind] at h
  | ok name =>
    refine ⟨name, rfl, ?_⟩
    simp only [hk, sound, bind, Except.bind] at h
    cases hput : keyed.put r name with
    | none =>
      rw [hput] at h
      cases hskip : d.skip with
      | error f => simp [hskip, fault] at h
      | ok => exact Or.inr ⟨rfl, by simpa [hskip] using h⟩
    | some take =>
      rw [hput] at h
      cases htake : take d with
      | error e => simp [htake] at h
      | ok r₁ => exact Or.inl ⟨take, r₁, rfl, htake, by simpa [htake] using h⟩

/-- A field that may be given once: it stays, and it is refused where it is there already. -/
structure Keyed.Once (keyed : Keyed ρ) (name : String) (has : ρ → Prop) : Prop where
  field : ∀ r, keyed.put r name ≠ none
  stays : ∀ {r r' : ρ} {key : String} {take : Document → Decoded ρ} {d : Document},
    keyed.put r key = some take → take d = .ok r' → has r → has r'
  fresh : ∀ {r r' : ρ} {take : Document → Decoded ρ} {d : Document},
    keyed.put r name = some take → take d = .ok r' → ¬has r ∧ has r'

variable {name : String} {has : ρ → Prop}

theorem Keyed.Once.refused (h : keyed.Once name has) (hk : k.key = .ok name)
    (hmem : (k, d) ∈ es) (hr : has r) : entries keyed r es stop ≠ .ok r' := by
  induction es generalizing r with
  | nil => exact absurd hmem List.not_mem_nil
  | cons e rest ih =>
    obtain ⟨k₁, d₁⟩ := e
    intro hread
    obtain ⟨name₁, hk₁, ⟨take, r₁, hput, htake, hrest⟩ | ⟨hput, hrest⟩⟩ :=
      entries_cons_eq_ok hread
    · rcases List.mem_cons.mp hmem with heq | hmem
      · cases heq
        cases hk.symm.trans hk₁
        exact (h.fresh hput htake).1 hr
      · exact ih hmem (h.stays hput htake hr) hrest
    · rcases List.mem_cons.mp hmem with heq | hmem
      · cases heq
        cases hk.symm.trans hk₁
        exact h.field r hput
      · exact ih hmem hr hrest

theorem Keyed.Once.repeated (h : keyed.Once name has) {k' d' : Document} (hk : k.key = .ok name)
    (hk' : k'.key = .ok name) (hes : [(k, d), (k', d')].Sublist es) :
    entries keyed r es stop ≠ .ok r' := by
  induction es generalizing r with
  | nil => cases hes
  | cons e rest ih =>
    obtain ⟨k₁, d₁⟩ := e
    intro hread
    obtain ⟨name₁, hk₁, ⟨take, r₁, hput, htake, hrest⟩ | ⟨hput, hrest⟩⟩ :=
      entries_cons_eq_ok hread
    · cases hes with
      | cons _ hes => exact ih hes hrest
      | cons_cons _ hes =>
        cases hk.symm.trans hk₁
        exact h.refused hk' (List.singleton_sublist.mp hes) (h.fresh hput htake).2 hrest
    · cases hes with
      | cons _ hes => exact ih hes hrest
      | cons_cons _ hes =>
        cases hk.symm.trans hk₁
        exact h.field r hput

end

section

variable {F : Type} {all : List F} {name : F → String}

def named? (all : List F) (name : F → String) (key : String) : Option F :=
  all.find? fun f => name f = key

theorem name_of_named? {key : String} {f : F} (h : named? all name key = some f) :
    name f = key := by
  simpa using List.find?_some h

theorem named?_eq_none_iff (hall : ∀ f, f ∈ all) {key : String} :
    named? all name key = none ↔ ∀ f, name f ≠ key := by
  simp [named?, List.find?_eq_none, hall]

end

/-- A record as its decoder fills it in. After the fields `taken` the decoder knows `state taken`;
`Written f d` says that the document `d` stands for the field `f`. -/
structure Record (ρ F : Type) where
  keyed : Keyed ρ
  field? : String → Option F
  state : List F → ρ
  Written : F → Document → Prop
  takes : ∀ {taken : List F} {name : String} {f : F} {d : Document}, field? name = some f →
    f ∉ taken → Written f d →
    ∃ take, keyed.put (state taken) name = some take ∧ take d = .ok (state (f :: taken))
  ignores : ∀ {taken : List F} {name : String}, field? name = none →
    keyed.put (state taken) name = none

namespace Record

variable {ρ F : Type} (R : Record ρ F)

def fieldOf? (k : Document) : Option F := k.key.toOption.bind R.field?

/-- The fields that some entries give, in the order in which they come. -/
def given (es : List (Document × Document)) : List F := es.filterMap fun e => R.fieldOf? e.1

/-- An entry is a field of the record or a key that is none, with a value to step over. -/
inductive Entry : Document × Document → Prop
  | field {k d : Document} {name : String} {f : F} :
      k.key = .ok name → R.field? name = some f → R.Written f d → Entry (k, d)
  | foreign {k d : Document} {name : String} :
      k.key = .ok name → R.field? name = none → d.skip = .ok () → Entry (k, d)

structure Entries (es : List (Document × Document)) : Prop where
  each : ∀ e ∈ es, R.Entry e
  once : (R.given es).Nodup

variable {R}

theorem fieldOf?_eq {k : Document} {name : String} (h : k.key = .ok name) :
    R.fieldOf? k = R.field? name := by
  rw [fieldOf?, h]
  rfl

theorem entries_field {taken : List F} {k d : Document} {name : String} {f : F}
    (rest : List (Document × Document)) (hk : k.key = .ok name) (hf : R.field? name = some f)
    (hd : R.Written f d) (hnew : f ∉ taken) :
    entries R.keyed (R.state taken) ((k, d) :: rest) none =
      entries R.keyed (R.state (f :: taken)) rest none := by
  obtain ⟨take, hput, htake⟩ := R.takes hf hnew hd
  simp only [entries, hk, sound, bind, Except.bind, hput, htake]

theorem entries_foreign {taken : List F} {k d : Document} {name : String}
    (rest : List (Document × Document)) (hk : k.key = .ok name) (hf : R.field? name = none)
    (hd : d.skip = .ok ()) :
    entries R.keyed (R.state taken) ((k, d) :: rest) none =
      entries R.keyed (R.state taken) rest none := by
  simp only [entries, hk, sound, bind, Except.bind, R.ignores hf, hd]

theorem given_ofFields (fields : List (String × Json)) :
    R.given (Document.ofFields fields) = fields.filterMap fun field => R.field? field.1 := by
  rw [given, Document.ofFields_eq_map, List.filterMap_map]
  rfl

theorem given_field {k d : Document} {name : String} {f : F} (rest : List (Document × Document))
    (hk : k.key = .ok name) (hf : R.field? name = some f) :
    R.given ((k, d) :: rest) = f :: R.given rest :=
  List.filterMap_cons_some ((fieldOf?_eq hk).trans hf)

theorem given_foreign {k d : Document} {name : String} (rest : List (Document × Document))
    (hk : k.key = .ok name) (hf : R.field? name = none) :
    R.given ((k, d) :: rest) = R.given rest :=
  List.filterMap_cons_none ((fieldOf?_eq hk).trans hf)

theorem given_perm {es es' : List (Document × Document)} (h : es.Perm es') :
    (R.given es).Perm (R.given es') :=
  h.filterMap _

theorem exists_key_of_mem_given {es : List (Document × Document)} {f : F} (h : f ∈ R.given es) :
    ∃ e ∈ es, ∃ name, e.1.key = .ok name ∧ R.field? name = some f := by
  obtain ⟨e, he, hf⟩ := List.mem_filterMap.mp h
  rw [fieldOf?] at hf
  cases hk : e.1.key with
  | error fault => rw [hk] at hf; cases hf
  | ok name => rw [hk] at hf; exact ⟨e, he, name, hk, hf⟩

/-- Entries with every field at most once are taken one after another. -/
theorem entries_eq {es : List (Document × Document)} {taken : List F} (h : R.Entries es)
    (hnew : ∀ f ∈ R.given es, f ∉ taken) :
    entries R.keyed (R.state taken) es none = .ok (R.state ((R.given es).reverse ++ taken)) := by
  -- what is still to come stays new to what has been taken
  induction es generalizing taken with
  | nil => rfl
  | cons e rest ih =>
    obtain ⟨k, d⟩ := e
    have each : ∀ e ∈ rest, R.Entry e := fun e he => h.each e (List.mem_cons_of_mem _ he)
    have once := h.once
    cases h.each (k, d) List.mem_cons_self with
    | @field _ _ name f hk hf hd =>
      rw [given_field rest hk hf] at hnew once ⊢
      rw [entries_field rest hk hf hd (hnew f List.mem_cons_self),
        ih ⟨each, (List.nodup_cons.mp once).2⟩ ?_]
      · simp
      · intro g hg
        have : g ≠ f := by rintro rfl; exact (List.nodup_cons.mp once).1 hg
        simp [this, hnew g (List.mem_cons_of_mem _ hg)]
    | foreign hk hf hd =>
      rw [given_foreign rest hk hf] at hnew once ⊢
      rw [entries_foreign rest hk hf hd, ih ⟨each, once⟩ hnew]

theorem Entries.taken {es : List (Document × Document)} (h : R.Entries es) :
    entries R.keyed (R.state []) es none = .ok (R.state (R.given es).reverse) := by
  rw [entries_eq h fun _ _ => List.not_mem_nil, List.append_nil]

theorem Entries.perm {es es' : List (Document × Document)} (h : R.Entries es) (hp : es.Perm es') :
    R.Entries es' where
  each e he := h.each e (hp.mem_iff.mpr he)
  once := (given_perm hp).nodup_iff.mp h.once

theorem Entries.field {es : List (Document × Document)} {k d : Document} {name : String} {f : F}
    (h : R.Entries es) (hk : k.key = .ok name) (hf : R.field? name = some f)
    (hd : R.Written f d) (hnew : f ∉ R.given es) : R.Entries ((k, d) :: es) where
  each := List.forall_mem_cons.mpr ⟨.field hk hf hd, h.each⟩
  once := by
    rw [given_field es hk hf]
    exact List.nodup_cons.mpr ⟨hnew, h.once⟩

theorem Entries.foreign {es : List (Document × Document)} {k d : Document} {name : String}
    (h : R.Entries es) (hk : k.key = .ok name) (hf : R.field? name = none)
    (hd : d.skip = .ok ()) : R.Entries ((k, d) :: es) where
  each := List.forall_mem_cons.mpr ⟨.foreign hk hf hd, h.each⟩
  once := by
    rw [given_foreign es hk hf]
    exact h.once

/-- A field may be written in another way where it stands. -/
theorem Entries.rewritten {es : List (Document × Document)} {k d d' : Document} {name : String}
    {f : F} (h : R.Entries ((k, d) :: es)) (hk : k.key = .ok name) (hf : R.field? name = some f)
    (hd : R.Written f d') : R.Entries ((k, d') :: es) := by
  have once := h.once
  rw [given_field es hk hf, List.nodup_cons] at once
  have rest : R.Entries es := ⟨fun e he => h.each e (List.mem_cons_of_mem _ he), once.2⟩
  exact rest.field hk hf hd once.1

end Record

end Decode

end ProfiledBuild.Json
