import ProfiledBuild.Text.Utf8

/-! JSON values. The fields of an object are kept in ascending order of the octets of their keys,
so that a value has one form whatever order its fields came in. -/

namespace ProfiledBuild

namespace Json

/-- Whole numbers and floating-point numbers are told apart: `12` and `12.0` differ. -/
inductive Number where
  | int (value : Int)
  | float (value : Float)
  deriving DecidableEq

end Json

inductive Json where
  | null
  | bool (value : Bool)
  | number (value : Json.Number)
  | string (value : String)
  | array (items : List Json)
  | object (fields : List (String × Json))

namespace Json

instance : Inhabited Json := ⟨.null⟩

abbrev Fields := List (String × Json)

def before (a b : String) : Bool :=
  decide (Utf8.encode a < Utf8.encode b)

namespace Fields

/-- Puts a field in its place; a field with the same key is replaced. -/
def insert (key : String) (value : Json) : Fields → Fields
  | [] => [(key, value)]
  | (k, v) :: rest =>
    if key = k then (key, value) :: rest
    else if before key k then (key, value) :: (k, v) :: rest
    else (k, v) :: insert key value rest

def ofList (fields : List (String × Json)) : Fields :=
  fields.foldl (fun acc (k, v) => insert k v acc) []

def find? (key : String) : Fields → Option Json
  | [] => none
  | (k, v) :: rest => if key = k then some v else find? key rest

@[simp] theorem find?_insert (key key' : String) (value : Json) (fields : Fields) :
    find? key' (insert key value fields) =
      if key' = key then some value else find? key' fields := by
  induction fields with
  | nil => rfl
  | cons field rest ih =>
    obtain ⟨k, v⟩ := field
    by_cases hk : key = k
    · subst hk
      by_cases h : key' = key <;> simp [insert, find?, h]
    · by_cases hb : before key k = true
      · simp [insert, find?, hk, hb]
      · by_cases h : key' = k
        · subst h
          simp [insert, find?, hk, hb, Ne.symm hk]
        · simp [insert, find?, hk, hb, h, ih]

end Fields

def ofFields (fields : List (String × Json)) : Json := .object (Fields.ofList fields)

def int (n : Int) : Json := .number (.int n)

/-- A floating-point number. JSON has no infinities and no NaN: they become `null`. -/
def float (x : Float) : Json :=
  if x.isFinite then .number (.float x) else .null

mutual

def Canonical : Json → Prop
  | .array items => CanonicalItems items
  | .object fields => fields.Pairwise (fun a b => before a.1 b.1 = true) ∧ CanonicalFields fields
  | _ => True

def CanonicalItems : List Json → Prop
  | [] => True
  | v :: rest => Canonical v ∧ CanonicalItems rest

def CanonicalFields : List (String × Json) → Prop
  | [] => True
  | (_, v) :: rest => Canonical v ∧ CanonicalFields rest

end

def field? (key : String) : Json → Option Json
  | .object fields => Fields.find? key fields
  | _ => none

end Json

end ProfiledBuild
