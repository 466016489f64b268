/-! Sets of characters: ranges, and what is built from them. -/

namespace ProfiledBuild

inductive CharSet where
  | ranges (ranges : List (Char × Char))
  | union (a b : CharSet)
  | inter (a b : CharSet)
  | minus (a b : CharSet)
  deriving DecidableEq, Repr

namespace CharSet

def contains : CharSet → Char → Bool
  | .ranges rs, c => rs.any fun (low, high) => low ≤ c && c ≤ high
  | .union a b, c => a.contains c || b.contains c
  | .inter a b, c => a.contains c && b.contains c
  | .minus a b, c => a.contains c && !b.contains c

def none : CharSet := .ranges []

def all : CharSet := .ranges [('\x00', Char.ofNat 0x10FFFF)]

def single (c : Char) : CharSet := .ranges [(c, c)]

def complement (a : CharSet) : CharSet := .minus all a

def difference (a b : CharSet) : CharSet := .union (.minus a b) (.minus b a)

def ofList (cs : List Char) : CharSet := .ranges (cs.map fun c => (c, c))

theorem contains_single {c d : Char} : (single c).contains d = true ↔ d = c := by
  simp only [single, contains, List.any_cons, List.any_nil, Bool.or_false, Bool.and_eq_true,
    decide_eq_true_eq]
  exact ⟨fun ⟨hle, hge⟩ => Char.le_antisymm hge hle, fun h => by simp [h]⟩

theorem contains_all (c : Char) : all.contains c = true := by
  have hlast : c.toNat < 0x110000 := by
    rcases c.valid with hlow | ⟨-, hhigh⟩
    · exact Nat.lt_trans hlow (by decide)
    · exact hhigh
  have hle : c ≤ Char.ofNat 0x10FFFF := Nat.le_of_lt_succ hlast
  have hge : '\x00' ≤ c := Nat.zero_le c.toNat
  simp [all, contains, hle, hge]

end CharSet

end ProfiledBuild
