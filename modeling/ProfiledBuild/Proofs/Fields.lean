import Mathlib.Data.List.Basic
import ProfiledBuild.Shell.Run

/-! How words become fields. Nothing is lost in the cutting but what divides fields, and what is
quoted is not cut at all: the arguments of a script are handed on as they are. -/

namespace ProfiledBuild.Shell

def Mark.char? : Mark → Option (Char × Bool)
  | .char c isQuoted => some (c, isQuoted)
  | _ => none

variable {s : State} {c : Char}

theorem flatten_fieldsFrom (current : Option Field) (marks : List Mark) :
    (fieldsFrom current marks).flatten =
      (current.getD []).reverse ++ marks.filterMap Mark.char? := by
  induction marks generalizing current with
  | nil => cases current <;> simp [fieldsFrom]
  | cons mark rest ih =>
    cases mark with
    | char c isQuoted => simp [fieldsFrom, ih, Mark.char?]
    | hold =>
      rw [fieldsFrom, ih]
      rfl
    | split c =>
      simp only [fieldsFrom, List.flatten_append, ih, Mark.char?, List.filterMap_cons]
      cases current <;> split <;> simp

/-- Together the fields are all characters in their order. -/
theorem flatten_fields (marks : List Mark) : (fields marks).flatten = marks.filterMap Mark.char? :=
  flatten_fieldsFrom none marks

theorem fieldsFrom_chars (front f : Field) (rest : List Mark) :
    fieldsFrom (some front) (f.map (fun c => .char c.1 c.2) ++ rest) =
      fieldsFrom (some (f.reverse ++ front)) rest := by
  induction f generalizing front with
  | nil => rfl
  | cons c f ih =>
    rw [List.map_cons, List.cons_append, fieldsFrom, Option.getD_some, ih, List.reverse_cons,
      List.append_assoc, List.singleton_append]

theorem fieldsFrom_split (front : Field) (c : Char) (rest : List Mark) :
    fieldsFrom (some front) (.split c :: rest) = front.reverse :: fields rest := by
  rw [fieldsFrom, fields]
  split <;> rfl

/-- A field of characters that are all quoted, or all not. -/
def evenly (isQuoted : Bool) (text : Raw) : Field := text.map fun c => (c, isQuoted)

theorem plain_evenly (isQuoted : Bool) (text : Raw) : plain (evenly isQuoted text) = text := by
  rw [plain, evenly, List.map_map]
  exact List.map_id text

theorem map_char_eq (isQuoted : Bool) (text : Raw) :
    text.map (Mark.char · isQuoted) = (evenly isQuoted text).map fun c => .char c.1 c.2 := by
  rw [evenly, List.map_map]
  rfl

def quotedMarks (text : Raw) : List Mark := .hold :: text.map (.char · true)

theorem marks_quoted (s : State) (text : Raw) : s.marks text true = quotedMarks text := if_pos rfl

theorem fieldsFrom_quotedMarks (current : Option Field) (text : Raw) (rest : List Mark) :
    fieldsFrom current (quotedMarks text ++ rest) =
      fieldsFrom (some ((evenly true text).reverse ++ current.getD [])) rest := by
  rw [quotedMarks, List.cons_append, fieldsFrom, map_char_eq, fieldsFrom_chars]

theorem fields_quotedMarks (text : Raw) : fields (quotedMarks text) = [evenly true text] := by
  have hfields := fieldsFrom_quotedMarks none text []
  rw [List.append_nil, Option.getD_none, List.append_nil] at hfields
  rw [fields, hfields, fieldsFrom, Option.toList_some, List.map_singleton, List.reverse_reverse]

theorem fields_quotedMarks_split (text : Raw) (c : Char) (rest : List Mark) :
    fields (quotedMarks text ++ .split c :: rest) = evenly true text :: fields rest := by
  rw [fields, fieldsFrom_quotedMarks, fieldsFrom_split, Option.getD_none, List.append_nil,
    List.reverse_reverse]

theorem fields_intercalate (texts : List Raw) :
    fields ([Mark.split ' '].intercalate (texts.map quotedMarks)) = texts.map (evenly true) := by
  induction texts with
  | nil => rfl
  | cons text rest ih =>
    cases rest with
    | nil =>
      rw [List.map_singleton, List.map_singleton, List.intercalate_singleton]
      exact fields_quotedMarks text
    | cons next rest =>
      rw [List.map_cons, List.map_cons, List.intercalate_cons_cons, List.append_assoc,
        List.singleton_append, fields_quotedMarks_split, ← List.map_cons, ih]
      rfl

/-- Quoted arguments are fields of their own, each as it is, even if it is empty. -/
theorem fields_argumentMarks (s : State) :
    fields (s.argumentMarks true) = s.args.map (evenly true) := by
  simp only [State.argumentMarks, marks_quoted]
  exact fields_intercalate s.args

theorem globbed_quoted (h : Host) (text : Raw) : globbed h (evenly true text) = [text] := by
  have hspecial : Pattern.isSpecial (evenly true text) = false := by
    simp [Pattern.isSpecial, evenly]
  rw [globbed, hspecial, Bool.not_false, if_pos rfl, plain_evenly]

/-- Quoted fields stand for their texts, whether or not names are matched. -/
theorem found_quoted (s : State) (texts : List Raw) :
    (if s.manner.has 'f' then (texts.map (evenly true)).map plain
      else (texts.map (evenly true)).flatMap (globbed s.host)) = texts := by
  have hplain : plain ∘ evenly true = id := funext fun text => plain_evenly true text
  split
  · rw [List.map_map, hplain, List.map_id]
  · rw [List.flatMap_map]
    simp only [globbed_quoted]
    exact List.flatMap_singleton' texts

section

variable (driver : Process → Image → Host → Ending × Host)

theorem expandAll_nil (fuel : Nat) (declares : Bool) (s : State) :
    expandAll driver fuel declares [] s = ([], s) := by
  cases fuel with
  | zero => rw [expandAll]
  | succ fuel => simp [expandAll]

/-- A script hands on its arguments one by one, with nothing cut, dropped or matched. -/
theorem expandAll_arguments (fuel : Nat) (declares : Bool) (s : State) :
    expandAll driver (fuel + 1) declares [[.text [] true, .parameter ['@'] true]] s =
      (s.args, s) := by
  have hassignment : assignment? [.text [] true, .parameter ['@'] true] = none := rfl
  rw [expandAll, hassignment, ite_self]
  simp only [fields_argumentMarks, expandAll_nil, found_quoted, List.append_nil]

end

/-- A separator is in no field that is not quoted. -/
theorem not_mem_of_mem_fields {value : Raw} {f : Field} (hf : f ∈ fields (s.marks value false))
    (hc : c ∈ plain f) : c ∉ s.separators := by
  obtain ⟨⟨_, isQuoted⟩, hchar, rfl⟩ := List.mem_map.mp hc
  have hall := List.mem_flatten_of_mem hf hchar
  rw [flatten_fields] at hall
  obtain ⟨mark, hmark, heq⟩ := List.mem_filterMap.mp hall
  obtain ⟨d, -, rfl⟩ := List.mem_map.mp hmark
  split at heq
  next => cases heq
  next hd =>
    cases heq
    simpa using hd

theorem fields_evenly_split {text : Raw} (hne : text ≠ []) (c : Char) (rest : List Mark) :
    fields (text.map (Mark.char · false) ++ .split c :: rest) =
      evenly false text :: fields rest := by
  cases text with
  | nil => exact absurd rfl hne
  | cons d text =>
    rw [List.map_cons, List.cons_append, fields, fieldsFrom, Option.getD_none, map_char_eq,
      fieldsFrom_chars, fieldsFrom_split, List.reverse_append, List.reverse_reverse]
    rfl

theorem fields_split (c : Char) (rest : List Mark) :
    fields (.split c :: rest) = if isBlank c then fields rest else [] :: fields rest := by
  rw [fields, fieldsFrom]
  split <;> rfl

/-- A text of pieces with a separator behind each of them is cut into them. Blanks make no empty
fields. -/
theorem fields_ended (hc : c ∈ s.separators) {pieces : List Raw}
    (hpieces : ∀ piece ∈ pieces, ∀ d ∈ piece, d ∉ s.separators) :
    (fields (s.marks (pieces.flatMap (· ++ [c])) false)).map plain =
      if isBlank c then pieces.filter (· ≠ []) else pieces := by
  have hcut : s.marks (pieces.flatMap (· ++ [c])) false =
      pieces.flatMap fun piece => piece.map (Mark.char · false) ++ [.split c] := by
    rw [State.marks, if_neg Bool.false_ne_true, List.map_flatMap]
    refine List.flatMap_congr fun piece hpiece => ?_
    rw [List.map_append, List.map_singleton, if_pos (List.contains_iff_mem.mpr hc)]
    congr 1
    refine List.map_congr_left fun d hd => if_neg ?_
    simpa using hpieces piece hpiece d hd
  rw [hcut]
  clear hcut hpieces
  induction pieces with
  | nil => simp [fields, fieldsFrom]
  | cons piece rest ih =>
    rw [List.flatMap_cons, List.append_assoc, List.singleton_append]
    by_cases hne : piece = []
    · subst hne
      rw [List.map_nil, List.nil_append, fields_split]
      cases hblank : isBlank c with
      | true => simpa [hblank] using ih
      | false => simpa [hblank, plain] using ih
    · rw [fields_evenly_split hne, List.map_cons, plain_evenly, ih]
      cases hblank : isBlank c <;> simp [hne]

end ProfiledBuild.Shell
