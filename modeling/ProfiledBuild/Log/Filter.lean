import ProfiledBuild.Log.Directive

/-! Log filters. A filter is a list of directives. For a record outside of all spans the most
specific directive that applies decides. A span that some directive asks for lets more through
inside it, but never less. -/

namespace ProfiledBuild.Log

structure Filter where
  directives : List Directive
  deriving DecidableEq, Repr

namespace Filter

/-- The filter that a text spells, with commas between directives. Empty directives do not count; a
single wrong one spoils the filter. -/
def parse? (s : String) : Option Filter := do
  let parts := (Raw.splitOn ',' s.toList).filter (· ≠ [])
  return ⟨← parts.mapM fun p => Directive.ofText? (String.ofList p)⟩

def default : Filter := ⟨[.everywhere (some .warn)]⟩

def lastOfEach : List Directive → List Directive
  | [] => []
  | d :: rest =>
    if rest.any (·.toDirectiveKey = d.toDirectiveKey) then lastOfEach rest
    else d :: lastOfEach rest

def statics (f : Filter) : List Directive := lastOfEach (f.directives.filter (·.isStatic))

def dynamics (f : Filter) : List Directive := lastOfEach (f.directives.filter (·.isDynamic))

def mostSpecific : List Directive → Option Directive
  | [] => none
  | d :: rest =>
    match mostSpecific rest with
    | none => some d
    | some e => if e.isBelow d then some d else some e

def decision (ds : List Directive) : Threshold := (mostSpecific ds).bind (·.threshold)

/-- A directive that asks for a field asks only records for it. -/
def admitsRecordAlone (f : Filter) (r : Record) : Bool :=
  (decision (f.statics.filter fun d => d.matchesTarget r.target && d.hasField r.fieldNames)).admits
    r.level

def admitsSpanAlone (f : Filter) (s : Span) : Bool :=
  (decision (f.statics.filter (·.matchesTarget s.target))).admits s.level

/-- The most that any directive lets through. Spans whose values have to be looked at are never
left out for their level. -/
def ceiling (f : Filter) : Threshold :=
  if f.directives.any fun d => d.field.any (·.wanted.isSome) then some .trace
  else .greatest (f.directives.map (·.threshold))

/-- A span is shown if some directive asks for it, or if it is let through on its own. -/
def admitsSpan (f : Filter) (s : Span) : Bool :=
  f.ceiling.admits s.level && (f.dynamics.any (·.caresFor s) || f.admitsSpanAlone s)

def thresholdInside (f : Filter) (s : Span) : Threshold :=
  .greatest ((f.dynamics.filter fun d => d.caresFor s && d.isMetBy s).map (·.threshold))

def admits (f : Filter) (r : Record) : Bool :=
  f.admitsRecordAlone r ||
    (r.spans.filter f.admitsSpan).any fun s => (f.thresholdInside s).admits r.level

/-- What is left of an entry: what a process wrote always passes, and of a record only the spans
that are shown. -/
def apply (f : Filter) : Entry → Option Entry
  | .raw s => some (.raw s)
  | .record r =>
    if f.admits r then some (.record { r with spans := r.spans.filter f.admitsSpan }) else none

end Filter

end ProfiledBuild.Log
