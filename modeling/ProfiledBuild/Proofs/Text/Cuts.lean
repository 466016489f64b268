import ProfiledBuild.Proofs.Text.Utf8

/-! Places where octets may be cut. What comes before an octet that goes on with no character is
read as if it stood alone, even if it ends in the middle of a character. -/

namespace ProfiledBuild.Utf8

/-- The front of a text that does not go on with a character. -/
def Opens (t : Octets) : Prop := ∀ c ∈ t.head?, ¬(0x80 ≤ c ∧ c ≤ 0xBF)

theorem opens_of_lt {b : UInt8} (h : b < 0x80) (s : Octets) : Opens (b :: s) := by
  intro c hc hrange
  obtain rfl : b = c := by simpa using hc
  exact absurd h (UInt8.not_lt.mpr hrange.1)

/-- Only tail octets may come after a lead. -/
theorem tails_of_ofOctet? {b : UInt8} {lead : Lead} (h : Lead.ofOctet? b = some lead) :
    0x80 ≤ lead.low ∧ lead.high ≤ 0xBF := by
  have all : ∀ b : Fin 256, ∀ lead ∈ Lead.ofOctet? (UInt8.ofNat b.val),
      0x80 ≤ lead.low ∧ lead.high ≤ 0xBF := by decide +kernel
  refine all ⟨b.toNat, b.toNat_lt⟩ lead ?_
  rw [UInt8.ofNat_toNat]
  exact h

theorem follow_append {low high : UInt8} {t : Octets} (tails bits : Nat) (s : Octets)
    (hlow : 0x80 ≤ low) (hhigh : high ≤ 0xBF) (ht : Opens t) :
    follow low high tails bits (s ++ t) =
      ((follow low high tails bits s).1, (follow low high tails bits s).2 ++ t) := by
  induction s generalizing low high tails bits with
  | nil =>
    -- a tail octet is wanted, and `t` starts with none
    cases t with
    | nil => simp only [List.append_nil, follow]
    | cons c t =>
      have hc : ¬(low ≤ c ∧ c ≤ high) := fun h =>
        ht c rfl ⟨UInt8.le_trans hlow h.1, UInt8.le_trans h.2 hhigh⟩
      simp only [List.nil_append, follow, if_neg hc]
  | cons b s ih =>
    by_cases hb : low ≤ b ∧ b ≤ high
    · cases tails with
      | zero => simp only [List.cons_append, follow, if_pos hb]
      | succ tails =>
        have hrest := ih tails (bits * 64 + (b &&& 0x3F).toNat) (UInt8.le_refl 0x80)
          (UInt8.le_refl 0xBF)
        simp only [List.cons_append, follow, if_pos hb, hrest]
    · simp only [List.cons_append, follow, if_neg hb]

theorem step_append (b : UInt8) (s : Octets) {t : Octets} (ht : Opens t) :
    step b (s ++ t) = ((step b s).1, (step b s).2 ++ t) := by
  by_cases hb : b < 0x80
  · rw [step_of_lt hb, step_of_lt hb]
  · cases hlead : Lead.ofOctet? b with
    | none => simp only [step, if_neg hb, hlead]
    | some lead =>
      obtain ⟨hlow, hhigh⟩ := tails_of_ofOctet? hlead
      have hfollow := follow_append lead.tails lead.bits s hlow hhigh ht
      simp only [step, if_neg hb, hlead, hfollow]

/-- Octets fall into the pieces before a cut and the pieces after it. -/
theorem pieces_append (s : Octets) {t : Octets} (ht : Opens t) :
    pieces (s ++ t) = pieces s ++ pieces t := by
  induction s using pieces.induct with
  | case1 => simp [pieces]
  | case2 b s ih =>
    have hstep := step_append b s ht
    have hlength := length_step_le b s
    -- the octets of a broken piece end before the cut
    have htake : (b :: (s ++ t)).take ((s ++ t).length + 1 - ((step b s).2 ++ t).length) =
        (b :: s).take (s.length + 1 - (step b s).2.length) := by
      have hcount : (s ++ t).length + 1 - ((step b s).2 ++ t).length =
          s.length + 1 - (step b s).2.length := by
        rw [List.length_append, List.length_append]
        omega
      rw [hcount, ← List.cons_append]
      refine List.take_append_of_le_length ?_
      rw [List.length_cons]
      omega
    rw [List.cons_append, pieces, pieces, hstep]
    simp only [htake, ih, List.cons_append]

theorem lossy_append (s : Octets) {t : Octets} (ht : Opens t) :
    lossy (s ++ t) = lossy s ++ lossy t := by
  rw [lossy, pieces_append s ht, List.map_append, String.ofList_append]
  rfl

def IsText (s : Octets) : Prop := ∃ text, encode text = s

/-- Octets are text exactly when no piece of them is broken. -/
theorem isText_iff {s : Octets} : IsText s ↔ ∀ p ∈ pieces s, ∃ c, p = .char c := by
  constructor
  · rintro ⟨text, rfl⟩ p hp
    rw [encode, pieces_flatMap, List.mem_map] at hp
    obtain ⟨c, -, hc⟩ := hp
    exact ⟨c, hc.symm⟩
  · intro h
    have hchars : pieces s = ((pieces s).map (·.char?.getD '\uFFFD')).map .char := by
      rw [List.map_map]
      refine (List.map_id _).symm.trans (List.map_congr_left fun p hp => ?_)
      obtain ⟨c, rfl⟩ := h p hp
      rfl
    refine ⟨lossy s, ?_⟩
    rw [encode, lossy, String.toList_ofList]
    exact flatMap_of_pieces hchars

theorem isText_append_iff (s : Octets) {t : Octets} (ht : Opens t) :
    IsText (s ++ t) ↔ IsText s ∧ IsText t := by
  rw [isText_iff, isText_iff, isText_iff, pieces_append s ht, List.forall_mem_append]

theorem encode_lossy_eq_iff {s : Octets} : encode (lossy s) = s ↔ IsText s := by
  constructor
  · intro h
    exact ⟨_, h⟩
  · rintro ⟨text, rfl⟩
    rw [lossy_encode]

def blank : UInt8 := 0x20

def joined (parts : List Octets) : Octets := [blank].intercalate parts

theorem joined_cons_cons (part part' : Octets) (parts : List Octets) :
    joined (part :: part' :: parts) = part ++ blank :: joined (part' :: parts) := by
  rw [joined, List.intercalate_cons_cons, List.append_assoc]
  rfl

theorem opens_blank (s : Octets) : Opens (blank :: s) := opens_of_lt (by decide) s

theorem pieces_blank (s : Octets) : pieces (blank :: s) = .char ' ' :: pieces s :=
  pieces_encodeChar_append ' ' s

theorem lossy_blank (s : Octets) : lossy (blank :: s) = " " ++ lossy s := by
  rw [lossy, pieces_blank, List.map_cons]
  exact @String.ofList_append [' '] _

theorem lossy_joined (part : Octets) (parts : List Octets) :
    lossy (joined (part :: parts)) =
      String.join (lossy part :: parts.map fun p => " " ++ lossy p) := by
  induction parts generalizing part with
  | nil => simp [joined, String.join]
  | cons part' parts ih =>
    rw [joined_cons_cons, lossy_append part (opens_blank _), lossy_blank, ih, List.map_cons,
      String.join_cons, String.join_cons, String.join_cons, String.append_assoc]

theorem joined_append {before after : List Octets} (hbefore : before ≠ []) (hafter : after ≠ []) :
    joined (before ++ after) = joined before ++ blank :: joined after := by
  obtain ⟨part', after, rfl⟩ := List.exists_cons_of_ne_nil hafter
  induction before with
  | nil => exact absurd rfl hbefore
  | cons part before ih =>
    cases before with
    | nil => rw [List.singleton_append, joined_cons_cons]; simp [joined]
    | cons part'' before =>
      rw [List.cons_append, List.cons_append, joined_cons_cons, ← List.cons_append,
        ih (List.cons_ne_nil _ _), joined_cons_cons, List.append_assoc, List.cons_append]

/-- Joined parts are text exactly when each of them is. -/
theorem isText_joined_iff {parts : List Octets} :
    IsText (joined parts) ↔ ∀ part ∈ parts, IsText part := by
  induction parts with
  | nil => exact iff_of_true ⟨"", rfl⟩ (List.forall_mem_nil _)
  | cons part parts ih =>
    cases parts with
    | nil => simp [joined]
    | cons part' parts =>
      have hblank (s : Octets) : IsText (blank :: s) ↔ IsText s := by
        rw [isText_iff, isText_iff, pieces_blank, List.forall_mem_cons, and_iff_right ⟨' ', rfl⟩]
      rw [joined_cons_cons, isText_append_iff part (opens_blank _), hblank, ih]
      exact List.forall_mem_cons.symm

end ProfiledBuild.Utf8
