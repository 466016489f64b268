import ProfiledBuild.Json.Decode
import ProfiledBuild.Proofs.Json.Tokens

/-! What is printed is read back: the text of a value without floating-point numbers is one whole
document with the parts of that value, and nothing follows it. -/

namespace ProfiledBuild.Json

mutual

/-- A value whose numbers are whole and fit in 64 bits, with or without a sign. -/
def Exact : Json → Prop
  | .number (.int n) => -9223372036854775808 ≤ n ∧ n ≤ 18446744073709551615
  | .number (.float _) => False
  | .array items => ExactItems items
  | .object fields => ExactFields fields
  | _ => True

def ExactItems : List Json → Prop
  | [] => True
  | v :: rest => Exact v ∧ ExactItems rest

def ExactFields : List (String × Json) → Prop
  | [] => True
  | (_, v) :: rest => Exact v ∧ ExactFields rest

end

theorem exactFields_iff {fields : List (String × Json)} :
    ExactFields fields ↔ ∀ field ∈ fields, field.2.Exact := by
  induction fields with
  | nil => simp [ExactFields]
  | cons field rest ih => rw [ExactFields, ih, List.forall_mem_cons]

theorem skipBlanks_cons {c : Char} (s : List Char) (h : isBlank c = false) :
    skipBlanks (c :: s) = c :: s := by
  simp [skipBlanks, h]

def itemsText (items : List Json) : List Char := (",".intercalate (itemTexts items)).toList

def fieldsText (fields : List (String × Json)) : List Char :=
  (",".intercalate (fieldTexts fields)).toList

@[simp] theorem itemsText_singleton (v : Json) : itemsText [v] = v.text.toList := by
  simp [itemsText, itemTexts]

@[simp] theorem itemsText_cons_cons (v w : Json) (items : List Json) :
    itemsText (v :: w :: items) = v.text.toList ++ ',' :: itemsText (w :: items) := by
  simp [itemsText, itemTexts, String.toList_intercalate]

@[simp] theorem fieldsText_singleton (k : String) (v : Json) :
    fieldsText [(k, v)] = (stringText k).toList ++ ':' :: v.text.toList := by
  simp [fieldsText, fieldTexts]

@[simp] theorem fieldsText_cons_cons (k : String) (v : Json) (field : String × Json)
    (fields : List (String × Json)) :
    fieldsText ((k, v) :: field :: fields) =
      (stringText k).toList ++ ':' :: (v.text.toList ++ ',' :: fieldsText (field :: fields)) := by
  simp [fieldsText, fieldTexts, String.toList_intercalate]

theorem text_array (items : List Json) :
    (Json.array items).text.toList = '[' :: (itemsText items ++ [']']) := by
  simp [text, itemsText]

theorem text_object (fields : List (String × Json)) :
    (Json.object fields).text.toList = '\x7b' :: (fieldsText fields ++ ['\x7d']) := by
  simp [text, fieldsText]

theorem text_int (n : Int) :
    (Json.int n).text.toList =
      if 0 ≤ n then Nat.toDigits 10 n.toNat else '-' :: Nat.toDigits 10 (-n).toNat := by
  show (toString n).toList = _
  rw [Int.toString_eq_repr, Int.repr_eq_if]
  split <;> simp [Nat.toList_repr]

theorem not_isBlank_of_isDigit {c : Char} (h : c.isDigit = true) : isBlank c = false := by
  simp only [isBlank, Bool.or_eq_false_iff, decide_eq_false_iff_not]
  refine ⟨⟨⟨?_, ?_⟩, ?_⟩, ?_⟩ <;> (rintro rfl; exact absurd h (by decide))

theorem toDigits_cons (n : Nat) :
    ∃ c s, Nat.toDigits 10 n = c :: s ∧ c.isDigit = true := by
  obtain ⟨c, s, h⟩ := List.exists_cons_of_ne_nil (Nat.toDigits_ne_nil (n := n) (b := 10))
  exact ⟨c, s, h, Nat.isDigit_of_mem_toDigits (by decide) (by decide) (h ▸ List.mem_cons_self)⟩

/-- A value starts with a mark of its own, which closes nothing. -/
theorem text_leading {j : Json} (h : j.Exact) :
    ∃ c s, j.text.toList = c :: s ∧ isBlank c = false ∧ c ≠ ']' := by
  match j, h with
  | .null, _ => exact ⟨'n', _, rfl, rfl, by decide⟩
  | .bool true, _ => exact ⟨'t', _, rfl, rfl, by decide⟩
  | .bool false, _ => exact ⟨'f', _, rfl, rfl, by decide⟩
  | .string s, _ => exact ⟨'"', _, stringText_toList s, rfl, by decide⟩
  | .array items, _ => exact ⟨'[', _, text_array items, rfl, by decide⟩
  | .object fields, _ => exact ⟨'\x7b', _, text_object fields, rfl, by decide⟩
  | .number (.int n), _ =>
    -- a minus or a digit
    rw [show Json.number (.int n) = Json.int n from rfl, text_int]
    split
    · obtain ⟨c, s, hs, hc⟩ := toDigits_cons n.toNat
      exact ⟨c, s, hs, not_isBlank_of_isDigit hc, by rintro rfl; exact absurd hc (by decide)⟩
    · exact ⟨'-', _, rfl, rfl, by decide⟩

theorem itemsText_leading {v : Json} (h : v.Exact) (items : List Json) :
    ∃ c s, itemsText (v :: items) = c :: s ∧ isBlank c = false ∧ c ≠ ']' := by
  obtain ⟨c, s, hs, hc⟩ := text_leading h
  cases items with
  | nil => exact ⟨c, s, by rw [itemsText_singleton, hs], hc⟩
  | cons w items => exact ⟨c, _, by rw [itemsText_cons_cons, hs, List.cons_append], hc⟩

theorem fieldsText_leading (field : String × Json) (fields : List (String × Json)) :
    ∃ s, fieldsText (field :: fields) = '"' :: s := by
  obtain ⟨k, v⟩ := field
  cases fields with
  | nil => exact ⟨_, by rw [fieldsText_singleton, stringText_toList, List.cons_append]⟩
  | cons field fields =>
    exact ⟨_, by rw [fieldsText_cons_cons, stringText_toList, List.cons_append]⟩

namespace Document

theorem read_digit {c : Char} (fuel : Nat) (s : List Char) (h : c.isDigit = true) :
    read (fuel + 1) (c :: s) = ofNumber (unsignedNumber false (c :: s)) := by
  have hd : digit? c = some (c.toNat - '0'.toNat) := digit?_of_isDigit h
  rw [read, skipBlanks_cons s (not_isBlank_of_isDigit h)]
  split
  case h_9 heq =>
    obtain ⟨rfl, rfl⟩ := List.cons.inj heq
    simp [hd]
  all_goals next heq =>
    -- no mark of another kind of value is a digit
    cases heq <;> exact absurd h (by decide)

theorem read_int {n : Int} (fuel : Nat) {rest : List Char} (hn : (Json.int n).Exact)
    (hr : NumberEnds rest) :
    read (fuel + 1) ((Json.int n).text.toList ++ rest) = (.number (.ok (.int n)), some rest) := by
  obtain ⟨low, high⟩ : -9223372036854775808 ≤ n ∧ n ≤ 18446744073709551615 := hn
  rw [text_int]
  split
  case isTrue h =>
    obtain ⟨c, s, hs, hc⟩ := toDigits_cons n.toNat
    have token := unsignedNumber_toDigits false (n := n.toNat)
      (by simp only [maxSignificand]; omega) hr
    rw [hs, List.cons_append] at token ⊢
    rw [read_digit fuel _ hc, token]
    simp [ofNumber, wholeNumber, Int.max_eq_left h]
  case isFalse h =>
    have token := unsignedNumber_toDigits true (n := (-n).toNat)
      (by simp only [maxSignificand]; omega) hr
    rw [List.cons_append, read, skipBlanks_cons _ (by rfl)]
    have size : 0 < (-n).toNat ∧ (-n).toNat ≤ 9223372036854775808 := by omega
    have value : -((-n).toNat : Int) = n := by omega
    simp only [token, ofNumber]
    rw [wholeNumber, if_neg (by decide), if_pos size, value]

theorem read_stringText (fuel : Nat) (k : String) (rest : List Char) :
    read (fuel + 1) ((stringText k).toList ++ rest) = (.string (.ok k), some rest) := by
  rw [stringText_toList, List.cons_append, List.append_assoc, read, skipBlanks_cons _ (by rfl)]
  simp [stringBody_flatMap_escape, ofString, Except.map]

theorem numberEnds_mark {c : Char} (rest : List Char) (h : c ∈ [',', ']', '\x7d']) :
    NumberEnds (c :: rest) := by
  intro d hd
  obtain rfl : c = d := by simpa using hd
  simp only [List.mem_cons, List.not_mem_nil, or_false] at h
  rcases h with rfl | rfl | rfl <;> decide

theorem read_array {fuel : Nat} {c : Char} {s : List Char} (hc : isBlank c = false)
    (hc' : c ≠ ']') :
    read (fuel + 1) ('[' :: c :: s) =
      (.array (readItems fuel (c :: s)).1 (readItems fuel (c :: s)).2.1,
        (readItems fuel (c :: s)).2.2) := by
  rw [read, skipBlanks_cons _ (by rfl)]
  simp [skipBlanks_cons s hc, hc']

theorem read_object {fuel : Nat} {c : Char} {s : List Char} (hc : isBlank c = false)
    (hc' : c ≠ '\x7d') :
    read (fuel + 1) ('\x7b' :: c :: s) =
      (.object (readEntries fuel (c :: s)).1 (readEntries fuel (c :: s)).2.1,
        (readEntries fuel (c :: s)).2.2) := by
  rw [read, skipBlanks_cons _ (by rfl)]
  simp [skipBlanks_cons s hc, hc']

theorem readItems_last {fuel : Nat} {s rest : List Char} {d : Document}
    (h : read fuel s = (d, some (']' :: rest))) :
    readItems (fuel + 1) s = ([d], none, some rest) := by
  rw [readItems, h]
  rfl

theorem readItems_comma {fuel : Nat} {s s' rest : List Char} {d : Document} {ds : List Document}
    (h : read fuel s = (d, some (',' :: s')))
    (h' : readItems fuel s' = (ds, none, some rest)) :
    readItems (fuel + 1) s = (d :: ds, none, some rest) := by
  rw [readItems, h]
  simp only [skipBlanks_cons s' (show isBlank ',' = false from rfl), h']

theorem readEntries_last {fuel : Nat} {s s' rest : List Char} {k d : Document}
    (hk : read fuel s = (k, some (':' :: s'))) (hd : read fuel s' = (d, some ('\x7d' :: rest))) :
    readEntries (fuel + 1) s = ([(k, d)], none, some rest) := by
  rw [readEntries, hk]
  simp only [skipBlanks_cons s' (show isBlank ':' = false from rfl), hd]
  rfl

theorem readEntries_comma {fuel : Nat} {s s' s'' rest : List Char} {k d : Document}
    {es : List (Document × Document)} (hk : read fuel s = (k, some (':' :: s')))
    (hd : read fuel s' = (d, some (',' :: s'')))
    (h : readEntries fuel s'' = (es, none, some rest)) :
    readEntries (fuel + 1) s = ((k, d) :: es, none, some rest) := by
  rw [readEntries, hk]
  simp only [skipBlanks_cons s' (show isBlank ':' = false from rfl), hd,
    skipBlanks_cons s'' (show isBlank ',' = false from rfl), h]

/-- The value's text is read back in front of whatever does not go on with it. Every level of
containers takes two units of fuel, one for the value and one for its members, and has two
brackets; every further member takes one and has a comma. -/
def Reads (j : Json) : Prop :=
  ∀ fuel rest, NumberEnds rest → 2 * j.text.toList.length ≤ fuel →
    read fuel (j.text.toList ++ rest) = (ofJson j, some rest)

theorem readItems_text {items : List Json} {fuel : Nat} {rest : List Char} (hne : items ≠ [])
    (h : ∀ v ∈ items, Reads v) (hf : 2 * (itemsText items).length + 1 ≤ fuel) :
    readItems fuel (itemsText items ++ ']' :: rest) = (ofItems items, none, some rest) := by
  -- the members after the first have one unit of fuel less, and at least two characters
  induction items generalizing fuel with
  | nil => exact absurd rfl hne
  | cons v items ih =>
    obtain ⟨fuel, rfl⟩ : ∃ n, fuel = n + 1 := ⟨fuel - 1, by omega⟩
    cases items with
    | nil =>
      rw [itemsText_singleton] at hf ⊢
      exact readItems_last (h v (by simp) fuel _ (numberEnds_mark rest (by simp)) (by omega))
    | cons w items =>
      rw [itemsText_cons_cons, List.length_append, List.length_cons] at hf
      rw [itemsText_cons_cons, List.append_assoc, List.cons_append]
      exact readItems_comma (h v (by simp) fuel _ (numberEnds_mark _ (by simp)) (by omega))
        (ih (by simp) (fun v hv => h v (by simp [hv])) (by omega))

theorem readEntries_text {fields : List (String × Json)} {fuel : Nat} {rest : List Char}
    (hne : fields ≠ []) (h : ∀ field ∈ fields, Reads field.2)
    (hf : 2 * (fieldsText fields).length + 1 ≤ fuel) :
    readEntries fuel (fieldsText fields ++ '\x7d' :: rest) =
      (ofFields fields, none, some rest) := by
  induction fields generalizing fuel with
  | nil => exact absurd rfl hne
  | cons field fields ih =>
    obtain ⟨k, v⟩ := field
    obtain ⟨fuel, rfl⟩ : ∃ n, fuel = n + 1 := ⟨fuel - 1, by omega⟩
    have hv : Reads v := h (k, v) (by simp)
    cases fields with
    | nil =>
      rw [fieldsText_singleton, List.length_append, List.length_cons] at hf
      obtain ⟨fuel, rfl⟩ : ∃ n, fuel = n + 1 := ⟨fuel - 1, by omega⟩
      rw [fieldsText_singleton, List.append_assoc, List.cons_append]
      exact readEntries_last (read_stringText fuel k _)
        (hv _ _ (numberEnds_mark rest (by simp)) (by omega))
    | cons field fields =>
      rw [fieldsText_cons_cons, List.length_append, List.length_cons, List.length_append,
        List.length_cons] at hf
      obtain ⟨fuel, rfl⟩ : ∃ n, fuel = n + 1 := ⟨fuel - 1, by omega⟩
      rw [fieldsText_cons_cons, List.append_assoc, List.cons_append, List.append_assoc,
        List.cons_append]
      exact readEntries_comma (read_stringText fuel k _)
        (hv _ _ (numberEnds_mark _ (by simp)) (by omega))
        (ih (by simp) (fun field hfield => h field (by simp [hfield])) (by omega))

theorem Reads.array {items : List Json} (hi : ExactItems items) (h : ∀ v ∈ items, Reads v) :
    Reads (.array items) := by
  intro fuel rest _ hf
  rw [text_array, List.length_cons, List.length_append, List.length_singleton] at hf
  obtain ⟨fuel, rfl⟩ : ∃ n, fuel = n + 1 := ⟨fuel - 1, by omega⟩
  rw [text_array, List.cons_append, List.append_assoc, List.singleton_append]
  cases items with
  | nil => rfl
  | cons v items =>
    obtain ⟨c, s, hs, hc, hc'⟩ := itemsText_leading hi.1 items
    have members : readItems fuel (itemsText (v :: items) ++ ']' :: rest) = _ :=
      readItems_text (List.cons_ne_nil v items) h (by omega)
    rw [hs, List.cons_append] at members ⊢
    rw [read_array hc hc', members]
    rfl

theorem Reads.object {fields : List (String × Json)} (h : ∀ field ∈ fields, Reads field.2) :
    Reads (.object fields) := by
  intro fuel rest _ hf
  rw [text_object, List.length_cons, List.length_append, List.length_singleton] at hf
  obtain ⟨fuel, rfl⟩ : ∃ n, fuel = n + 1 := ⟨fuel - 1, by omega⟩
  rw [text_object, List.cons_append, List.append_assoc, List.singleton_append]
  cases fields with
  | nil => rfl
  | cons field fields =>
    obtain ⟨s, hs⟩ := fieldsText_leading field fields
    have members : readEntries fuel (fieldsText (field :: fields) ++ '\x7d' :: rest) = _ :=
      readEntries_text (List.cons_ne_nil field fields) h (by omega)
    rw [hs, List.cons_append] at members ⊢
    rw [read_object (by rfl) (by decide), members]
    rfl

theorem Reads.leaf {j : Json} (h : j.Exact)
    (hread : ∀ fuel rest, NumberEnds rest →
      read (fuel + 1) (j.text.toList ++ rest) = (ofJson j, some rest)) : Reads j := by
  intro fuel rest hr hf
  obtain ⟨c, s, hs, -⟩ := text_leading h
  rw [hs, List.length_cons] at hf
  obtain ⟨fuel, rfl⟩ : ∃ n, fuel = n + 1 := ⟨fuel - 1, by omega⟩
  exact hread fuel rest hr

mutual

theorem Reads.of_exact : ∀ {j : Json}, j.Exact → Reads j
  | .null, h => .leaf h fun _ _ _ => rfl
  | .bool true, h => .leaf h fun _ _ _ => rfl
  | .bool false, h => .leaf h fun _ _ _ => rfl
  | .number (.int _), h => .leaf h fun fuel _ hr => read_int fuel h hr
  | .string k, h => .leaf h fun fuel rest _ => read_stringText fuel k rest
  | .array _, h => .array h (reads_of_exactItems h)
  | .object _, h => .object (reads_of_exactFields h)

theorem reads_of_exactItems : ∀ {items : List Json}, ExactItems items → ∀ v ∈ items, Reads v
  | [], _ => List.forall_mem_nil _
  | _ :: _, h => List.forall_mem_cons.mpr ⟨.of_exact h.1, reads_of_exactItems h.2⟩

theorem reads_of_exactFields :
    ∀ {fields : List (String × Json)}, ExactFields fields → ∀ field ∈ fields, Reads field.2
  | [], _ => List.forall_mem_nil _
  | (_, _) :: _, h => List.forall_mem_cons.mpr ⟨.of_exact h.1, reads_of_exactFields h.2⟩

end

/-- A printed value is read as a whole text. -/
theorem Text.ofString_text {j : Json} (h : j.Exact) :
    Text.ofString j.text = ⟨ofJson j, false⟩ := by
  have reading := Reads.of_exact h (2 * j.text.toList.length + 2) []
    (by intro c hc; cases hc) (by omega)
  rw [List.append_nil] at reading
  rw [Text.ofString, Text.ofChars, reading]
  rfl

end Document

end ProfiledBuild.Json
