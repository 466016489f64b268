import ProfiledBuild.Proofs.Json.Records
import ProfiledBuild.Proofs.Text.Utf8

/-! Objects as values. The fields of an object are in order and so are told by their lookups alone;
of fields with one key the last one stays. Two texts have one value when one comes from the other
by such changes, at any level. -/

namespace ProfiledBuild.Json

theorem before_irrefl (a : String) : before a a = false :=
  decide_eq_false (List.lt_irrefl _)

theorem before_trans {a b c : String} (h : before a b = true) (h' : before b c = true) :
    before a c = true :=
  decide_eq_true (List.lt_trans (of_decide_eq_true h) (of_decide_eq_true h'))

theorem ne_of_before {a b : String} (h : before a b = true) : a ≠ b := by
  rintro rfl
  rw [before_irrefl] at h
  exact Bool.false_ne_true h

theorem before_total {a b : String} (hne : a ≠ b) (h : before a b = false) :
    before b a = true := by
  refine decide_eq_true (Classical.byContradiction fun h' => hne ?_)
  have octets : Utf8.encode a = Utf8.encode b := List.le_antisymm h' (of_decide_eq_false h)
  exact Utf8.encode_injective octets

namespace Fields

def Sorted (fields : Fields) : Prop := fields.Pairwise fun a b => before a.1 b.1 = true

theorem Sorted.nodup {fields : Fields} (h : Sorted fields) : (fields.map (·.1)).Nodup :=
  List.pairwise_map.mpr (h.imp ne_of_before)

theorem mem_insert {key : String} {value : Json} {fields : Fields} {field : String × Json}
    (h : field ∈ insert key value fields) : field = (key, value) ∨ field ∈ fields := by
  induction fields with
  | nil => exact Or.inl (List.mem_singleton.mp h)
  | cons first rest ih =>
    obtain ⟨k, v⟩ := first
    rw [insert] at h
    split at h
    · exact (List.mem_cons.mp h).imp_right (List.mem_cons_of_mem _)
    · split at h
      · exact List.mem_cons.mp h
      · rcases List.mem_cons.mp h with rfl | h
        · exact Or.inr List.mem_cons_self
        · exact (ih h).imp_right (List.mem_cons_of_mem _)

theorem Sorted.insert {fields : Fields} (h : Sorted fields) (key : String) (value : Json) :
    Sorted (fields.insert key value) := by
  induction fields with
  | nil => exact List.pairwise_singleton _ _
  | cons first rest ih =>
    obtain ⟨k, v⟩ := first
    obtain ⟨hfirst, hrest⟩ := List.pairwise_cons.mp h
    rw [Fields.insert]
    by_cases hk : key = k
    · rw [if_pos hk, hk]
      exact List.pairwise_cons.mpr ⟨hfirst, hrest⟩
    · rw [if_neg hk]
      cases hb : before key k with
      | true =>
        refine List.pairwise_cons.mpr ⟨List.forall_mem_cons.mpr ⟨hb, fun field hfield => ?_⟩, h⟩
        exact before_trans hb (hfirst field hfield)
      | false =>
        refine List.pairwise_cons.mpr ⟨fun field hfield => ?_, ih hrest⟩
        rcases mem_insert hfield with rfl | hfield
        · exact before_total hk hb
        · exact hfirst field hfield

theorem sorted_foldl_insert {acc : Fields} (h : Sorted acc) (fields : List (String × Json)) :
    Sorted (fields.foldl (fun acc (k, v) => acc.insert k v) acc) := by
  induction fields generalizing acc with
  | nil => exact h
  | cons field rest ih => exact ih (h.insert field.1 field.2)

theorem sorted_ofList (fields : List (String × Json)) : Sorted (ofList fields) :=
  sorted_foldl_insert List.Pairwise.nil fields

theorem find?_append (key : String) (fields more : List (String × Json)) :
    find? key (fields ++ more) = (find? key fields).or (find? key more) := by
  induction fields with
  | nil => rfl
  | cons field rest ih =>
    obtain ⟨k, v⟩ := field
    rw [List.cons_append, find?, find?, ih]
    split <;> rfl

theorem find?_eq_none_iff {key : String} {fields : Fields} :
    find? key fields = none ↔ key ∉ fields.map (·.1) := by
  induction fields with
  | nil => simp [find?]
  | cons field rest ih =>
    obtain ⟨k, v⟩ := field
    by_cases h : key = k <;> simp [find?, h, ih]

theorem find?_eq_some_iff {key : String} {value : Json} {fields : Fields}
    (h : (fields.map (·.1)).Nodup) :
    find? key fields = some value ↔ (key, value) ∈ fields := by
  induction fields with
  | nil => simp [find?]
  | cons field rest ih =>
    obtain ⟨k, v⟩ := field
    obtain ⟨hk, hrest⟩ := List.nodup_cons.mp h
    by_cases hkey : key = k
    · subst hkey
      have hmem : (key, value) ∉ rest := fun hmem => hk (List.mem_map.mpr ⟨_, hmem, rfl⟩)
      simp [find?, hmem, eq_comm]
    · simp [find?, hkey, ih hrest]

theorem find?_perm {fields more : Fields} (hp : fields.Perm more)
    (h : (fields.map (·.1)).Nodup) (key : String) : find? key fields = find? key more := by
  ext value
  rw [find?_eq_some_iff h, find?_eq_some_iff ((hp.map _).nodup_iff.mp h), hp.mem_iff]

/-- The last field with a key is the one that stays. -/
theorem find?_ofList (key : String) (fields : List (String × Json)) :
    find? key (ofList fields) = find? key fields.reverse := by
  have gathered (acc : Fields) :
      find? key (fields.foldl (fun acc (k, v) => acc.insert k v) acc) =
        (find? key fields.reverse).or (find? key acc) := by
    induction fields generalizing acc with
    | nil => rfl
    | cons field rest ih =>
      obtain ⟨k, v⟩ := field
      rw [List.foldl_cons, ih, find?_insert, List.reverse_cons, find?_append, Option.or_assoc,
        find?, find?]
      by_cases h : key = k <;> simp [h]
  rw [ofList, gathered, find?, Option.or_none]

/-- Fields in order are told by their lookups. -/
theorem Sorted.ext {fields more : Fields} (h : Sorted fields) (h' : Sorted more)
    (hfind : ∀ key, find? key fields = find? key more) : fields = more := by
  induction fields generalizing more with
  | nil =>
    cases more with
    | nil => rfl
    | cons field rest => simpa [find?] using hfind field.1
  | cons field rest ih =>
    obtain ⟨k, v⟩ := field
    obtain ⟨hfirst, hrest⟩ := List.pairwise_cons.mp h
    cases more with
    | nil => simpa [find?] using hfind k
    | cons field' rest' =>
      obtain ⟨k', v'⟩ := field'
      obtain ⟨hfirst', hrest'⟩ := List.pairwise_cons.mp h'
      -- the first keys agree, since each of them stands in the other list
      have hk : k = k' := by
        refine Classical.byContradiction fun hne => ?_
        have hin := hfind k
        have hin' := hfind k'
        rw [find?, if_pos rfl, find?, if_neg hne] at hin
        rw [find?, if_neg (Ne.symm hne), find?, if_pos rfl] at hin'
        have hmem := (find?_eq_some_iff (Sorted.nodup hrest')).mp hin.symm
        have hmem' := (find?_eq_some_iff (Sorted.nodup hrest)).mp hin'
        have hself := before_trans (hfirst _ hmem') (hfirst' _ hmem)
        rw [before_irrefl] at hself
        exact Bool.false_ne_true hself
      subst hk
      have hv : v = v' := by simpa [find?] using hfind k
      have hnone {rest : Fields} (hfirst : ∀ field ∈ rest, before k field.1 = true) :
          find? k rest = none := by
        rw [find?_eq_none_iff]
        intro hmem
        obtain ⟨field, hfield, hkey⟩ := List.mem_map.mp hmem
        exact ne_of_before (hfirst field hfield) hkey.symm
      rw [hv, ih hrest hrest' fun key => ?_]
      by_cases hkey : key = k
      · rw [hkey, hnone hfirst, hnone hfirst']
      · simpa [find?, hkey] using hfind key

theorem ofList_congr {fields more : List (String × Json)}
    (h : ∀ key, find? key fields.reverse = find? key more.reverse) :
    ofList fields = ofList more := by
  refine (sorted_ofList fields).ext (sorted_ofList more) fun key => ?_
  rw [find?_ofList, find?_ofList, h]

theorem ofList_of_perm {fields more : List (String × Json)} (hp : fields.Perm more)
    (h : (fields.map (·.1)).Nodup) : ofList fields = ofList more := by
  have hnodup : (fields.reverse.map (·.1)).Nodup :=
    ((List.reverse_perm fields).map _).nodup_iff.mpr h
  have hreverse : fields.reverse.Perm more.reverse :=
    (List.reverse_perm fields).trans (hp.trans (List.reverse_perm more).symm)
  exact ofList_congr (find?_perm hreverse hnodup)

/-- A field whose key comes again does not count. -/
theorem ofList_of_repeated {before after : List (String × Json)} {key : String} (value : Json)
    (h : key ∈ after.map (·.1)) :
    ofList (before ++ (key, value) :: after) = ofList (before ++ after) := by
  refine ofList_congr fun key' => ?_
  rw [List.reverse_append, List.reverse_append, List.reverse_cons, find?_append, find?_append,
    find?_append]
  by_cases hkey : key' = key
  · have hsome : find? key' after.reverse ≠ none := by
      intro hnone
      rw [find?_eq_none_iff, List.map_reverse, List.mem_reverse, hkey] at hnone
      exact hnone h
    obtain ⟨value', hvalue⟩ := Option.ne_none_iff_exists'.mp hsome
    rw [hvalue, Option.some_or, Option.some_or]
  · rw [find?, if_neg hkey, find?, Option.or_none]

theorem ofList_of_sorted {fields : Fields} (h : Sorted fields) : ofList fields = fields := by
  refine (sorted_ofList fields).ext h fun key => ?_
  rw [find?_ofList]
  have hnodup : (fields.reverse.map (·.1)).Nodup :=
    ((List.reverse_perm fields).map _).nodup_iff.mpr h.nodup
  exact find?_perm (List.reverse_perm fields) hnodup key

end Fields

mutual

/-- The value that is told by a tree as it is written: its objects with their fields in order. -/
def settled : Json → Json
  | .array items => .array (settledItems items)
  | .object fields => ofFields (settledFields fields)
  | j => j

def settledItems : List Json → List Json
  | [] => []
  | v :: rest => settled v :: settledItems rest

def settledFields : List (String × Json) → List (String × Json)
  | [] => []
  | (k, v) :: rest => (k, settled v) :: settledFields rest

end

mutual

/-- The number of containers inside each other. -/
def nesting : Json → Nat
  | .array items => nestingItems items + 1
  | .object fields => nestingFields fields + 1
  | _ => 0

def nestingItems : List Json → Nat
  | [] => 0
  | v :: rest => max (nesting v) (nestingItems rest)

def nestingFields : List (String × Json) → Nat
  | [] => 0
  | (_, v) :: rest => max (nesting v) (nestingFields rest)

end

theorem settledItems_eq_map (items : List Json) : settledItems items = items.map settled := by
  induction items with
  | nil => rfl
  | cons v rest ih => rw [settledItems, ih, List.map_cons]

theorem settledFields_eq_map (fields : List (String × Json)) :
    settledFields fields = fields.map fun field => (field.1, settled field.2) := by
  induction fields with
  | nil => rfl
  | cons field rest ih => rw [settledFields, ih, List.map_cons]

theorem keys_settledFields (fields : List (String × Json)) :
    (settledFields fields).map (·.1) = fields.map (·.1) := by
  rw [settledFields_eq_map, List.map_map]
  rfl

mutual

theorem Canonical.settled_eq : ∀ {j : Json}, j.Canonical → settled j = j
  | .null, _ => rfl
  | .bool _, _ => rfl
  | .number _, _ => rfl
  | .string _, _ => rfl
  | .array _, h => congrArg array (settledItems_eq_self h)
  | .object _, h => by
    rw [settled, settledFields_eq_self h.2, ofFields, Fields.ofList_of_sorted h.1]

theorem settledItems_eq_self : ∀ {items : List Json}, CanonicalItems items →
    settledItems items = items
  | [], _ => rfl
  | _ :: _, h => by rw [settledItems, h.1.settled_eq, settledItems_eq_self h.2]

theorem settledFields_eq_self : ∀ {fields : List (String × Json)}, CanonicalFields fields →
    settledFields fields = fields
  | [], _ => rfl
  | (_, _) :: _, h => by rw [settledFields, h.1.settled_eq, settledFields_eq_self h.2]

end

namespace Document

mutual

theorem value_ofJson : ∀ {j : Json} {depth : Nat}, j.nesting < depth →
    value depth (ofJson j) = .ok j.settled
  | .null, _, _ => rfl
  | .bool _, _, _ => rfl
  | .number _, _, _ => rfl
  | .string _, _, _ => rfl
  | .array items, depth, h => by
    have hinside : nestingItems items < depth - 1 := Nat.lt_sub_of_add_lt h
    have hd : descend depth = .ok (depth - 1) := descend_of_lt (by omega)
    simp only [ofJson, value, hd, bind, Except.bind, itemValues_ofItems hinside]
    rfl
  | .object fields, depth, h => by
    have hinside : nestingFields fields < depth - 1 := Nat.lt_sub_of_add_lt h
    have hd : descend depth = .ok (depth - 1) := descend_of_lt (by omega)
    simp only [ofJson, value, hd, bind, Except.bind, entryValues_ofFields hinside]
    rfl

theorem itemValues_ofItems : ∀ {items : List Json} {depth : Nat}, nestingItems items < depth →
    itemValues depth (ofItems items) none = .ok (settledItems items)
  | [], _, _ => rfl
  | v :: rest, depth, h => by
    obtain ⟨hv, hrest⟩ := Nat.max_lt.mp h
    simp only [ofItems, itemValues, bind, Except.bind, value_ofJson hv, itemValues_ofItems hrest]
    rfl

theorem entryValues_ofFields : ∀ {fields : List (String × Json)} {depth : Nat},
    nestingFields fields < depth →
    entryValues depth (ofFields fields) none = .ok (settledFields fields)
  | [], _, _ => rfl
  | (k, v) :: rest, depth, h => by
    obtain ⟨hv, hrest⟩ := Nat.max_lt.mp h
    simp only [ofFields, entryValues, key, bind, Except.bind, value_ofJson hv,
      entryValues_ofFields hrest]
    rfl

end

end Document

/-- The decoder of an object gets on its way to the value what the value holds. -/
theorem fields_of_value {depth : Nat} {d : Document} {data : Fields}
    (h : Document.value depth d = .ok (.object data)) : Decode.fields depth d = .ok data := by
  cases d with
  | object es stop =>
    rw [Document.value] at h
    cases hd : Document.descend depth with
    | error fault => simp [hd, bind, Except.bind] at h
    | ok inside =>
      cases hes : Document.entryValues inside es stop with
      | error fault => simp [hd, hes, bind, Except.bind] at h
      | ok fields =>
        simp only [hd, hes, bind, Except.bind, pure, Except.pure, Except.ok.injEq, ofFields,
          Json.object.injEq] at h
        simp only [Decode.fields, hd, hes, Decode.sound, bind, Except.bind, pure, Except.pure, h]
  | array ds stop =>
    rw [Document.value] at h
    cases hd : Document.descend depth with
    | error fault => simp [hd, bind, Except.bind] at h
    | ok inside =>
      cases hds : Document.itemValues inside ds stop with
      | error fault => simp [hd, hds, bind, Except.bind] at h
      | ok items => simp [hd, hds, bind, Except.bind, pure, Except.pure] at h
  | number n => cases n <;> simp [Document.value, Except.map] at h
  | string s => cases s <;> simp [Document.value, Except.map] at h
  | null | bool | broken => simp [Document.value] at h

/-- The other ways to write a value: the fields of an object stand in another order, or a field
comes before another one with its key. Such changes may be made at any level, one after another. -/
inductive Rearranged : Json → Json → Prop
  | same (j : Json) : Rearranged j j
  | trans {i j k : Json} : Rearranged i j → Rearranged j k → Rearranged i k
  | item {before after : List Json} {v w : Json} : Rearranged v w →
      Rearranged (.array (before ++ v :: after)) (.array (before ++ w :: after))
  | field {before after : List (String × Json)} {key : String} {v w : Json} : Rearranged v w →
      Rearranged (.object (before ++ (key, v) :: after)) (.object (before ++ (key, w) :: after))
  | permuted {fields more : List (String × Json)} :
      fields.Perm more → (fields.map (·.1)).Nodup → Rearranged (.object fields) (.object more)
  | repeated {before after : List (String × Json)} {key : String} {v : Json} :
      key ∈ after.map (·.1) →
      Rearranged (.object (before ++ (key, v) :: after)) (.object (before ++ after))

theorem Rearranged.settled_eq {i j : Json} (h : Rearranged i j) : i.settled = j.settled := by
  induction h with
  | same j => rfl
  | trans _ _ ih ih' => exact ih.trans ih'
  | item _ ih => simp only [settled, settledItems_eq_map, List.map_append, List.map_cons, ih]
  | field _ ih => simp only [settled, settledFields_eq_map, List.map_append, List.map_cons, ih]
  | @permuted fields more hp hnodup =>
    have hperm : (settledFields fields).Perm (settledFields more) := by
      rw [settledFields_eq_map, settledFields_eq_map]
      exact hp.map _
    rw [← keys_settledFields] at hnodup
    rw [settled, settled, ofFields, ofFields, Fields.ofList_of_perm hperm hnodup]
  | @repeated before after key v hkey =>
    rw [← keys_settledFields] at hkey
    have hdrop : Fields.ofList (settledFields before ++ (key, v.settled) :: settledFields after) =
        Fields.ofList (settledFields before ++ settledFields after) :=
      Fields.ofList_of_repeated v.settled hkey
    simp only [settledFields_eq_map] at hdrop
    simp only [settled, ofFields, settledFields_eq_map, List.map_append, List.map_cons, hdrop]

/-- Whatever way a value is written, it is read back if its containers do not nest too deep. -/
theorem Rearranged.value_eq {i j : Json} {depth : Nat} (h : Rearranged i j) (hj : j.Canonical)
    (hd : i.nesting < depth) : Document.value depth (.ofJson i) = .ok j := by
  rw [Document.value_ofJson hd, h.settled_eq, hj.settled_eq]

end ProfiledBuild.Json
