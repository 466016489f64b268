import Mathlib.Data.List.TakeWhile
import ProfiledBuild.Proofs.Fields
import ProfiledBuild.Proofs.Text.Raw
import ProfiledBuild.Shell.Settings

/-! Values between quotes, as a shell writes them. Read again, each is one word, which comes to the
value that it was. -/

namespace ProfiledBuild.Shell

variable {fuel : Nat} {w : Word} {rest after : Raw}

/-- A word ends where there is nothing more or a character that no word has. -/
def EndsWord : Raw → Prop
  | [] => True
  | c :: _ => isMeta c = true

theorem word_ended (hends : EndsWord rest) : word .plain (fuel + 1) rest = .ok ([], rest) := by
  cases rest with
  | nil => rfl
  | cons c rest =>
    have hmeta : isMeta c = true := hends
    simp [word.eq_def, hmeta]

theorem takeWhile_inside {inside : Raw} (hinside : '\'' ∉ inside) (rest : Raw) :
    (inside ++ '\'' :: rest).takeWhile (· ≠ '\'') = inside := by
  have hall : ∀ c ∈ inside, decide (c ≠ '\'') = true := by
    intro c hc
    rw [decide_eq_true_eq]
    rintro rfl
    exact hinside hc
  rw [List.takeWhile_append_of_pos hall, List.takeWhile_cons_of_neg (by decide), List.append_nil]

theorem word_apostrophe (s : Raw) :
    word .plain (fuel + 1) ('\'' :: s) =
      if (s.takeWhile (· ≠ '\'')).length < s.length then do
        let (w, rest) ← word .plain fuel (s.drop ((s.takeWhile (· ≠ '\'')).length + 1))
        return (.text (s.takeWhile (· ≠ '\'')) true :: w, rest)
      else .error "Unterminated quoted string" := rfl

theorem word_doubleQuote (s : Raw) :
    word .plain (fuel + 1) ('"' :: s) = (do
      let (inside, rest) ← word .quoted fuel s
      let (w, rest) ← word .plain fuel rest
      return (.text [] true :: inside ++ w, rest)) := rfl

theorem word_quoted_apostrophe (s : Raw) :
    word .quoted (fuel + 1) ('\'' :: s) = (do
      let (w, rest) ← word .quoted fuel s
      return (consText '\'' true w, rest)) := rfl

theorem word_quoted_ended (s : Raw) : word .quoted (fuel + 1) ('"' :: s) = .ok ([], s) := rfl

theorem word_inside {inside : Raw} (hinside : '\'' ∉ inside)
    (hrest : word .plain fuel rest = .ok (w, after)) :
    word .plain (fuel + 1) ('\'' :: (inside ++ '\'' :: rest)) =
      .ok (.text inside true :: w, after) := by
  have hlength : inside.length < (inside ++ '\'' :: rest).length := by simp
  have hdrop : (inside ++ '\'' :: rest).drop (inside.length + 1) = rest := by simp
  rw [word_apostrophe, takeWhile_inside hinside, if_pos hlength, hdrop, hrest]
  rfl

theorem word_apostrophes {quotes : Raw} (hquotes : ∀ c ∈ quotes, c = '\'')
    (hfuel : quotes.length < fuel) :
    word .quoted fuel (quotes ++ '"' :: rest) =
      .ok (if quotes = [] then [] else [.text quotes true], rest) := by
  induction quotes generalizing fuel with
  | nil =>
    obtain ⟨fuel, rfl⟩ := Nat.exists_eq_add_one.mpr hfuel
    exact word_quoted_ended rest
  | cons c quotes ih =>
    obtain ⟨fuel, rfl⟩ := Nat.exists_eq_add_one.mpr (Nat.zero_lt_of_lt hfuel)
    obtain rfl := hquotes c List.mem_cons_self
    have hmore := ih (fun c hc => hquotes c (List.mem_cons_of_mem _ hc))
      (Nat.lt_of_succ_lt_succ hfuel)
    rw [List.cons_append, word_quoted_apostrophe, hmore]
    cases quotes <;> rfl

theorem word_between {quotes : Raw} (hquotes : ∀ c ∈ quotes, c = '\'') (hne : quotes ≠ [])
    (hfuel : quotes.length < fuel) (hrest : word .plain fuel rest = .ok (w, after)) :
    word .plain (fuel + 1) ('"' :: (quotes ++ '"' :: rest)) =
      .ok (.text [] true :: .text quotes true :: w, after) := by
  rw [word_doubleQuote, word_apostrophes hquotes hfuel, if_neg hne]
  change (word .plain fuel rest >>= _) = _
  rw [hrest]
  rfl

/-- What is written for a text: its front between single quotes, then the single quotes that follow
between double ones, and then the same for what is left. -/
theorem quotedText_cases (n : Nat) (text : Raw) :
    ∃ outside quotes last, text = outside ++ (quotes ++ last) ∧ '\'' ∉ outside ∧
      (∀ c ∈ quotes, c = '\'') ∧ (quotes = [] → last = []) ∧
      quotedText (n + 1) text = '\'' :: (outside ++ '\'' ::
        if quotes = [] then [] else '"' :: (quotes ++ '"' ::
          if last = [] then [] else quotedText n last)) := by
  let outside := text.takeWhile (· ≠ '\'')
  let behind := text.dropWhile (· ≠ '\'')
  let quotes := behind.takeWhile (· = '\'')
  let last := behind.dropWhile (· = '\'')
  have hbehind : quotes ++ last = behind := List.takeWhile_append_dropWhile
  refine ⟨outside, quotes, last, ?_, ?_, ?_, ?_, ?_⟩
  · rw [hbehind]
    exact List.takeWhile_append_dropWhile.symm
  · exact fun hmem => absurd (List.mem_takeWhile_imp hmem) (by decide)
  · exact fun c hc => by simpa using List.mem_takeWhile_imp hc
  · intro hquotes
    rw [hquotes, List.nil_append] at hbehind
    have hhead := List.head?_dropWhile_not (· ≠ '\'') text
    cases hlast : last with
    | nil => rfl
    | cons c rest =>
      have hcons : text.dropWhile (· ≠ '\'') = c :: rest := hbehind.symm.trans hlast
      rw [hcons, List.head?_cons] at hhead
      have hc : c = '\'' := by simpa using hhead
      have hfirst : quotes = '\'' :: rest.takeWhile (· = '\'') := by
        rw [show quotes = behind.takeWhile _ from rfl, ← hbehind, hlast, hc]
        exact List.takeWhile_cons_of_pos (by decide)
      rw [hquotes] at hfirst
      cases hfirst
  · rw [quotedText]
    simp only [Raw.drop_takeWhile, List.cons_append, List.append_assoc]
    rfl

/-- A word of quoted texts. -/
def spelled (texts : List Raw) : Word := texts.map fun text => .text text true

theorem word_quotedText (hends : EndsWord rest) {n : Nat} {text : Raw} (hn : text.length < n)
    (hfuel : (quotedText n text ++ rest).length < fuel) :
    ∃ texts, texts ≠ [] ∧ texts.flatten = text ∧
      word .plain fuel (quotedText n text ++ rest) = .ok (spelled texts, rest) := by
  induction n generalizing text fuel with
  | zero => omega
  | succ n ih =>
    obtain ⟨outside, quotes, last, rfl, houtside, hquotes, hnone, htext⟩ := quotedText_cases n text
    rw [htext] at hfuel ⊢
    by_cases hq : quotes = []
    · obtain rfl := hnone hq
      subst hq
      simp only [if_true, List.append_nil, List.cons_append, List.append_assoc, List.nil_append,
        List.length_append, List.length_cons] at hfuel ⊢
      obtain ⟨fuel, rfl⟩ : ∃ k, fuel = k + 1 + 1 := ⟨fuel - 2, by omega⟩
      exact ⟨[outside], by simp, by simp, word_inside houtside (word_ended hends)⟩
    · rw [if_neg hq] at hfuel ⊢
      -- one unit of fuel for each of the quotes at the front
      simp only [List.cons_append, List.append_assoc, List.length_append, List.length_cons]
        at hn hfuel ⊢
      obtain ⟨fuel, rfl⟩ : ∃ k, fuel = k + 1 + 1 + 1 := ⟨fuel - 3, by omega⟩
      have hquote := List.length_pos_of_ne_nil hq
      have hlast : ∃ texts, texts.flatten = last ∧
          word .plain (fuel + 1) ((if last = [] then [] else quotedText n last) ++ rest) =
            .ok (spelled texts, rest) := by
        by_cases hl : last = []
        · subst hl
          exact ⟨[], rfl, word_ended hends⟩
        · rw [if_neg hl] at hfuel ⊢
          have hless : (quotedText n last ++ rest).length < fuel + 1 := by
            rw [List.length_append]
            omega
          obtain ⟨texts, -, hflatten, hread⟩ := ih (by omega) hless
          exact ⟨texts, hflatten, hread⟩
      obtain ⟨texts, hflatten, hread⟩ := hlast
      have hbetween := word_between hquotes hq (by omega) hread
      exact ⟨outside :: [] :: quotes :: texts, by simp, by simp [hflatten],
        word_inside houtside hbetween⟩

theorem exists_quotedText (n : Nat) (text : Raw) :
    ∃ rest, quotedText (n + 1) text = '\'' :: rest := ⟨_, rfl⟩

/-- A text that begins with a quote begins with a word. -/
theorem tokens_quote (fuel line : Nat) (asked : List HereText) (s : Raw) {w : Word} {rest : Raw}
    (hword : word .plain (2 * (s.length + 1) + 2) ('\'' :: s) = .ok (w, rest)) :
    tokens (fuel + 1) line asked ('\'' :: s) =
      (line, .word w) :: tokens fuel (line + countLines
        (('\'' :: s).take (s.length + 1 - rest.length))) asked rest := by
  have hhere : numberedHere? ('\'' :: s) = none := rfl
  have hredirect : numberedRedirect? ('\'' :: s) = none := rfl
  have hoperator : operator? ('\'' :: s) = none := rfl
  rw [tokens.eq_def]
  simp [hhere, hredirect, hoperator, hword]

/-- What is written for a value is one word. -/
theorem tokensOf_quoted (text : Raw) :
    ∃ texts, texts ≠ [] ∧ texts.flatten = text ∧
      tokensOf (quoted text) = [(1, .word (spelled texts))] := by
  obtain ⟨s, hs⟩ := exists_quotedText text.length text
  have hquoted : quoted text = '\'' :: s := hs
  have hfuel : (quotedText (text.length + 1) text ++ []).length < 2 * (s.length + 1) + 2 := by
    rw [List.append_nil, hs, List.length_cons]
    omega
  have hends : EndsWord [] := trivial
  obtain ⟨texts, hne, hflatten, hread⟩ :=
    word_quotedText hends (Nat.lt_succ_self text.length) hfuel
  rw [List.append_nil, hs] at hread
  refine ⟨texts, hne, hflatten, ?_⟩
  rw [tokensOf, hquoted, List.length_cons, tokens_quote _ 1 [] s hread]
  rfl

theorem fieldsFrom_flatMap (front : Field) (texts : List Raw) :
    fieldsFrom (some front) (texts.flatMap quotedMarks) =
      [front.reverse ++ evenly true texts.flatten] := by
  induction texts generalizing front with
  | nil => simp [fieldsFrom, evenly]
  | cons text rest ih =>
    rw [List.flatMap_cons, fieldsFrom_quotedMarks, ih]
    simp [evenly]

theorem fields_flatMap {texts : List Raw} (hne : texts ≠ []) :
    fields (texts.flatMap quotedMarks) = [evenly true texts.flatten] := by
  obtain ⟨text, rest, rfl⟩ := List.exists_cons_of_ne_nil hne
  rw [List.flatMap_cons, fields, fieldsFrom_quotedMarks, fieldsFrom_flatMap]
  simp [evenly]

variable (driver : Process → Image → Host → Ending × Host) (s : State)

theorem expand_spelled {texts : List Raw} (hfuel : texts.length < fuel) :
    expand driver fuel (spelled texts) s = (texts.flatMap quotedMarks, s) := by
  induction texts generalizing fuel with
  | nil =>
    obtain ⟨fuel, rfl⟩ := Nat.exists_eq_add_one.mpr hfuel
    simp [spelled, expand]
  | cons text rest ih =>
    rw [List.length_cons] at hfuel
    obtain ⟨fuel, rfl⟩ : ∃ k, fuel = k + 1 + 1 := ⟨fuel - 2, by omega⟩
    have hrest := ih (by omega : rest.length < fuel + 1)
    have hpart : expandPart driver (fuel + 1) (.text text true) s = (quotedMarks text, s) := by
      rw [expandPart]
      rfl
    rw [spelled] at hrest ⊢
    rw [List.map_cons, expand, hpart]
    simp only [hrest, List.flatMap_cons]

/-- What is written for a value comes to the value when it is read. -/
theorem quoted_read_back (text : Raw) :
    ∃ w, tokensOf (quoted text) = [(1, .word w)] ∧ ∀ fuel declares, w.length < fuel →
      expandAll driver (fuel + 1) declares [w] s = ([text], s) := by
  obtain ⟨texts, hne, rfl, htokens⟩ := tokensOf_quoted text
  refine ⟨spelled texts, htokens, fun fuel declares hfuel => ?_⟩
  obtain ⟨text, rest, rfl⟩ := List.exists_cons_of_ne_nil hne
  have hassignment : assignment? (spelled (text :: rest)) = none := rfl
  have hhome : s.wordWithHome (spelled (text :: rest)) = spelled (text :: rest) := rfl
  have hother : spelled (text :: rest) ≠ [.text [] true, .parameter ['@'] true] := by
    cases rest <;> simp [spelled]
  rw [spelled, List.length_map] at hfuel
  have hfound := found_quoted s [(text :: rest).flatten]
  rw [List.map_singleton] at hfound
  rw [expandAll, hassignment, ite_self]
  · simp only [hhome, expand_spelled driver s hfuel, fields_flatMap hne, expandAll_nil,
      List.append_nil, hfound]
  · exact hother

end ProfiledBuild.Shell
