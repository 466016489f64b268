import Mathlib.Data.List.Basic
import ProfiledBuild.Host.Signal

/-! What signals do. Of all that a driver gets, the first that asks for a shutdown counts, and so
does the first that ends it. A process that waits takes every signal that it is sent, each kind
once, in the order in which they came. -/

namespace ProfiledBuild

namespace Driver

/-- The shutdown that a signal asks for. -/
def asked? (signal : Nat) : Option ShutdownSignal :=
  if signal = 2 then some .interrupt else if signal = 15 then some .terminate else none

/-- A signal that ends the driver. A fault does so when it comes again. -/
def IsFatal (d : Driver) (signal : Nat) : Prop :=
  ignores signal = false ∧ asked? signal = none ∧ (isFault signal = true → signal ∈ d.faults)

/-- All that a signal can do to a driver. -/
inductive Takes (d : Driver) (signal newest : Nat) : Driver → Prop where
  | nothing (hwhy : d.endedBy ≠ none ∨ ignores signal = true ∨
      asked? signal ≠ none ∧ d.shutdown ≠ none) : Takes d signal newest d
  | shutdown (halive : d.endedBy = none) (s : ShutdownSignal) (hasked : asked? signal = some s)
      (hfirst : d.shutdown = none) :
      Takes d signal newest { d with shutdown := some s, askedAt := newest }
  | fault (halive : d.endedBy = none) (hfault : isFault signal = true)
      (hfirst : signal ∉ d.faults) :
      Takes d signal newest { d with faults := signal :: d.faults }
  | ending (halive : d.endedBy = none) (hfatal : d.IsFatal signal) :
      Takes d signal newest { d with endedBy := some signal }

theorem take_of_asked {d : Driver} {signal newest : Nat} {s : ShutdownSignal}
    (halive : d.endedBy = none) (hignored : ignores signal = false)
    (hasked : asked? signal = some s) :
    d.take signal newest =
      if d.shutdown.isSome then d else { d with shutdown := some s, askedAt := newest } := by
  rw [asked?] at hasked
  rw [take, halive, hignored]
  split at hasked
  · cases hasked
    simp [*]
  · split at hasked
    · cases hasked
      simp [*]
    · cases hasked

theorem take_of_unasked {d : Driver} {signal newest : Nat} (halive : d.endedBy = none)
    (hignored : ignores signal = false) (hasked : asked? signal = none) :
    d.take signal newest =
      if isFault signal = true ∧ signal ∉ d.faults then { d with faults := signal :: d.faults }
      else { d with endedBy := some signal } := by
  have hother : signal ≠ 2 ∧ signal ≠ 15 := by
    constructor
    · rintro rfl
      exact absurd hasked (by decide)
    · rintro rfl
      exact absurd hasked (by decide)
  simp [take, halive, hignored, hother]

theorem take_cases (d : Driver) (signal newest : Nat) :
    Takes d signal newest (d.take signal newest) := by
  by_cases halive : d.endedBy = none
  · cases hignored : ignores signal with
    | true =>
      rw [take, hignored, Bool.or_true, if_pos rfl]
      exact .nothing (.inr (.inl hignored))
    | false =>
      cases hasked : asked? signal with
      | some s =>
        rw [take_of_asked halive hignored hasked]
        cases hfirst : d.shutdown with
        | some _ => exact .nothing (.inr (.inr ⟨by simp [hasked], by simp [hfirst]⟩))
        | none => exact .shutdown halive s hasked hfirst
      | none =>
        rw [take_of_unasked halive hignored hasked]
        split
        next hfault => exact .fault halive hfault.1 hfault.2
        next hfault => exact .ending halive ⟨hignored, hasked, by simpa using hfault⟩
  · rw [take, if_pos (by simp [Option.isSome_iff_ne_none, halive])]
    exact .nothing (.inl halive)

/-- A driver after a number of signals, each with the newest process at its time. -/
def takeAll (d : Driver) (signals : List (Nat × Nat)) : Driver :=
  signals.foldl (fun d signal => d.take signal.1 signal.2) d

@[simp] theorem takeAll_nil (d : Driver) : d.takeAll [] = d := rfl

@[simp] theorem takeAll_cons (d : Driver) (signal newest : Nat) (rest : List (Nat × Nat)) :
    d.takeAll ((signal, newest) :: rest) = (d.take signal newest).takeAll rest := rfl

theorem takeAll_of_endedBy {d : Driver} (hended : d.endedBy ≠ none) (signals : List (Nat × Nat)) :
    d.takeAll signals = d := by
  induction signals with
  | nil => rfl
  | cons signal rest ih =>
    have htake : d.take signal.1 signal.2 = d := by
      rw [take, if_pos (by simp [Option.isSome_iff_ne_none, hended])]
    rw [takeAll_cons, htake, ih]

theorem endedBy_of_takeAll {d : Driver} {signals : List (Nat × Nat)}
    (halive : (d.takeAll signals).endedBy = none) : d.endedBy = none := by
  by_contra hended
  rw [takeAll_of_endedBy hended] at halive
  exact hended halive

theorem asked?_of_isFault {signal : Nat} (hfault : isFault signal = true) :
    asked? signal = none ∧ ignores signal = false := by
  have hcases : signal = 7 ∨ signal = 11 := by simpa [isFault] using hfault
  rcases hcases with rfl | rfl <;> decide

theorem asked?_of_ignores {signal : Nat} (hignored : ignores signal = true) :
    asked? signal = none := by
  by_contra hasked
  have hcases : signal = 2 ∨ signal = 15 := by
    by_contra hother
    rw [not_or] at hother
    simp [asked?, hother] at hasked
  rcases hcases with rfl | rfl <;> exact absurd hignored (by decide)

theorem shutdown_takeAll_of_isSome {d : Driver} (hasked : d.shutdown.isSome)
    (signals : List (Nat × Nat)) : (d.takeAll signals).shutdown = d.shutdown := by
  induction signals generalizing d with
  | nil => rfl
  | cons signal rest ih =>
    have htake : (d.take signal.1 signal.2).shutdown = d.shutdown := by
      have htakes := take_cases d signal.1 signal.2
      generalize d.take signal.1 signal.2 = d' at htakes
      cases htakes with
      | nothing | fault | ending => rfl
      | shutdown _ _ _ hfirst => simp [hfirst] at hasked
    rw [takeAll_cons, ih (by rwa [htake]), htake]

/-- A driver that no signal ends shuts down as the first one asks it to. -/
theorem shutdown_takeAll {d : Driver} (hcalm : d.shutdown = none) {signals : List (Nat × Nat)}
    (halive : (d.takeAll signals).endedBy = none) :
    (d.takeAll signals).shutdown = signals.findSome? fun signal => asked? signal.1 := by
  induction signals generalizing d with
  | nil => exact hcalm
  | cons signal rest ih =>
    obtain ⟨number, newest⟩ := signal
    rw [takeAll_cons] at halive ⊢
    rw [List.findSome?_cons]
    have htakes := take_cases d number newest
    generalize d.take number newest = d' at halive htakes ⊢
    cases htakes with
    | nothing hwhy =>
      have hasked : asked? number = none := by
        rcases hwhy with hended | hignored | ⟨-, hshutdown⟩
        · exact absurd (endedBy_of_takeAll halive) hended
        · exact asked?_of_ignores hignored
        · exact absurd hcalm hshutdown
      rw [hasked]
      exact ih hcalm halive
    | shutdown _ s hasked =>
      rw [hasked]
      exact shutdown_takeAll_of_isSome rfl rest
    | fault _ hfault =>
      rw [(asked?_of_isFault hfault).1]
      exact ih hcalm halive
    | ending => exact absurd (endedBy_of_takeAll halive) (by simp)

/-- The faults that a driver has taken are those that it has got. -/
theorem mem_faults_takeAll {d : Driver} {signals : List (Nat × Nat)}
    (halive : (d.takeAll signals).endedBy = none) {fault : Nat} :
    fault ∈ (d.takeAll signals).faults ↔
      fault ∈ d.faults ∨ isFault fault = true ∧ fault ∈ signals.map Prod.fst := by
  induction signals generalizing d with
  | nil => simp
  | cons signal rest ih =>
    obtain ⟨number, newest⟩ := signal
    rw [takeAll_cons] at halive ⊢
    rw [ih halive, List.map_cons, List.mem_cons]
    have hother (hnot : isFault number = false) : isFault fault = true → fault ≠ number := by
      rintro hfault rfl
      exact absurd hfault (by simp [hnot])
    have htakes := take_cases d number newest
    generalize d.take number newest = d' at halive htakes ⊢
    cases htakes with
    | nothing hwhy =>
      have hnot : isFault number = false := by
        rw [← Bool.not_eq_true]
        intro hfault
        obtain ⟨hasked, hignored⟩ := asked?_of_isFault hfault
        rcases hwhy with hended | hignored' | ⟨hasked', -⟩
        · exact hended (endedBy_of_takeAll halive)
        · exact absurd hignored' (by simp [hignored])
        · exact hasked' hasked
      grind
    | shutdown _ s hasked =>
      have hnot : isFault number = false := by
        rw [← Bool.not_eq_true]
        intro hfault
        exact absurd (asked?_of_isFault hfault).1 (by simp [hasked])
      grind
    | fault _ hfault =>
      rw [List.mem_cons]
      grind
    | ending => exact absurd (endedBy_of_takeAll halive) (by simp)

/-- Of the signals that can end a driver the first one does; what comes later is nothing to it. -/
theorem takeAll_cases {d : Driver} (halive : d.endedBy = none) (signals : List (Nat × Nat)) :
    (d.takeAll signals).endedBy = none ∨
      ∃ before number newest after, signals = before ++ (number, newest) :: after ∧
        (d.takeAll before).endedBy = none ∧ (d.takeAll before).IsFatal number ∧
        d.takeAll signals = { d.takeAll before with endedBy := some number } := by
  induction signals generalizing d with
  | nil => exact .inl halive
  | cons signal rest ih =>
    obtain ⟨number, newest⟩ := signal
    by_cases hnext : (d.take number newest).endedBy = none
    · refine (ih hnext).imp id ?_
      rintro ⟨before, number', newest', after, rfl, hbefore, hfatal, htake⟩
      exact ⟨(number, newest) :: before, number', newest', after, rfl, hbefore, hfatal, htake⟩
    · have htake : d.takeAll ((number, newest) :: rest) = d.take number newest :=
        takeAll_of_endedBy hnext rest
      rw [htake]
      have htakes := take_cases d number newest
      generalize d.take number newest = d' at hnext htakes ⊢
      cases htakes with
      | nothing | shutdown | fault => exact absurd halive hnext
      | ending _ hfatal => exact .inr ⟨[], number, newest, rest, rfl, halive, hfatal, rfl⟩

end Driver

namespace Host

variable {h h' : Host} {signal pid other : Nat}

/-- The signals that a process has yet to take, the oldest first. -/
def signalsFor (h : Host) (pid : Nat) : List Nat := (h.sent.filter (·.1 = pid)).map Prod.snd

theorem signalsFor_leaveSignal (h : Host) (signal pid : Nat) :
    (h.leaveSignal signal pid).signalsFor pid =
      if signal ∈ h.signalsFor pid then h.signalsFor pid else h.signalsFor pid ++ [signal] := by
  have hmem : signal ∈ h.signalsFor pid ↔ (pid, signal) ∈ h.sent := by
    simp [signalsFor]
  simp only [hmem, leaveSignal, List.contains_iff_mem]
  split <;> simp [signalsFor]

theorem signalsFor_leaveSignal_of_ne (h : Host) (signal : Nat) (hne : other ≠ pid) :
    (h.leaveSignal signal pid).signalsFor other = h.signalsFor other := by
  rw [leaveSignal]
  split <;> simp [signalsFor, hne.symm]

theorem nodup_leaveSignal (hnodup : ∀ p, (h.signalsFor p).Nodup) (p : Nat) :
    ((h.leaveSignal signal pid).signalsFor p).Nodup := by
  by_cases hp : p = pid
  · subst hp
    rw [signalsFor_leaveSignal]
    split
    next => exact hnodup p
    next hnew =>
      rw [List.nodup_append]
      refine ⟨hnodup p, by simp, fun a ha b hb => ?_⟩
      rintro rfl
      exact hnew (List.mem_singleton.mp hb ▸ ha)
  · rw [signalsFor_leaveSignal_of_ne h signal hp]
    exact hnodup p

theorem lookup_eq_head? (sent : List (Nat × Nat)) (pid : Nat) :
    sent.lookup pid = ((sent.filter (·.1 = pid)).map Prod.snd).head? := by
  induction sent with
  | nil => rfl
  | cons message rest ih =>
    obtain ⟨owner, signal⟩ := message
    by_cases howner : owner = pid
    · simp [howner]
    · have howner' : (pid == owner) = false := by simpa using Ne.symm howner
      simp [List.lookup_cons, howner', howner, ih]

theorem filter_erase_lookup {sent : List (Nat × Nat)} (hlookup : sent.lookup pid = some signal) :
    ((sent.erase (pid, signal)).filter (·.1 = pid)).map Prod.snd =
      ((sent.filter (·.1 = pid)).map Prod.snd).tail := by
  induction sent with
  | nil => rfl
  | cons message rest ih =>
    obtain ⟨owner, number⟩ := message
    by_cases howner : owner = pid
    · subst howner
      obtain rfl : number = signal := by simpa [List.lookup_cons] using hlookup
      simp
    · have howner' : (pid == owner) = false := by simpa using Ne.symm howner
      rw [List.lookup_cons, howner'] at hlookup
      have hne : (owner, number) ≠ (pid, signal) := fun heq => howner (congrArg Prod.fst heq)
      rw [List.erase_cons_tail (by simpa using hne)]
      simpa [howner] using ih hlookup

theorem nextSignal_eq_none_iff : h.nextSignal pid = none ↔ h.signalsFor pid = [] := by
  rw [nextSignal, Option.map_eq_none_iff, lookup_eq_head?, List.head?_eq_none_iff, signalsFor]

theorem signalsFor_nextSignal (hnext : h.nextSignal pid = some (signal, h')) :
    h.signalsFor pid = signal :: h'.signalsFor pid := by
  obtain ⟨number, hlookup, heq⟩ := Option.map_eq_some_iff.mp hnext
  cases heq
  have hhead := hlookup
  rw [lookup_eq_head?] at hhead
  rw [signalsFor, signalsFor, filter_erase_lookup hlookup]
  exact (List.cons_head?_tail hhead).symm

/-- A process takes one signal after another. -/
inductive Drains (pid : Nat) : Host → List Nat → Host → Prop where
  | done (h : Host) (hnext : h.nextSignal pid = none) : Drains pid h [] h
  | next (h h' h'' : Host) (signal : Nat) (rest : List Nat)
      (hnext : h.nextSignal pid = some (signal, h')) (hrest : Drains pid h' rest h'') :
      Drains pid h (signal :: rest) h''

theorem Drains.eq {signals : List Nat} (hdrains : Drains pid h signals h') :
    signals = h.signalsFor pid ∧ h'.signalsFor pid = [] := by
  induction hdrains with
  | done h hnext =>
    have hnil := nextSignal_eq_none_iff.mp hnext
    exact ⟨hnil.symm, hnil⟩
  | next h h' h'' signal rest hnext hrest ih =>
    exact ⟨by rw [ih.1, signalsFor_nextSignal hnext], ih.2⟩

theorem exists_drains (h : Host) (pid : Nat) : ∃ h', Drains pid h (h.signalsFor pid) h' := by
  induction hsignals : h.signalsFor pid generalizing h with
  | nil => exact ⟨h, .done h (nextSignal_eq_none_iff.mpr hsignals)⟩
  | cons signal rest ih =>
    cases hnext : h.nextSignal pid with
    | none => exact absurd (nextSignal_eq_none_iff.mp hnext) (by simp [hsignals])
    | some next =>
      obtain ⟨number, after⟩ := next
      have heq := signalsFor_nextSignal hnext
      rw [hsignals, List.cons.injEq] at heq
      obtain ⟨rfl, hrest⟩ := heq
      obtain ⟨h', hdrains⟩ := ih after hrest.symm
      exact ⟨h', .next h after h' signal rest hnext hdrains⟩

theorem any_drivers_eq_false_iff :
    (h.drivers.any fun d => d.pid = pid) = false ↔ ∀ d ∈ h.drivers, d.pid ≠ pid := by
  simp

theorem signal?_eq_none_iff :
    h.signal? signal pid = none ↔ (∀ d ∈ h.drivers, d.pid ≠ pid) ∧ pid ∉ h.waiting := by
  rw [signal?, ← any_drivers_eq_false_iff]
  cases h.drivers.any fun d => d.pid = pid <;> simp

theorem drivers_leaveSignal (h : Host) (signal pid : Nat) :
    (h.leaveSignal signal pid).drivers = h.drivers := by
  rw [leaveSignal]
  split <;> rfl

/-- A signal reaches the drivers of its number, and where there are none it is left for the process
to take. -/
theorem signal?_spec (hsent : h.signal? signal pid = some h') :
    h'.drivers = h.drivers.map (fun d => if d.pid = pid then d.take signal h.lastPid else d) ∧
      h'.sent = if ∃ d ∈ h.drivers, d.pid = pid then h.sent
        else (h.leaveSignal signal pid).sent := by
  rw [signal?] at hsent
  cases hdriver : h.drivers.any fun d => d.pid = pid with
  | true =>
    have hex : ∃ d ∈ h.drivers, d.pid = pid := by simpa using hdriver
    simp only [hdriver, if_true, Option.some.injEq] at hsent
    cases hsent
    exact ⟨rfl, (if_pos hex).symm⟩
  | false =>
    have hnone := any_drivers_eq_false_iff.mp hdriver
    have hmap : h.drivers.map (fun d => if d.pid = pid then d.take signal h.lastPid else d) =
        h.drivers :=
      (List.map_congr_left fun d hd => if_neg (hnone d hd)).trans (List.map_id _)
    rw [hdriver, if_neg (by simp)] at hsent
    split at hsent
    · cases hsent
      refine ⟨by rw [drivers_leaveSignal, hmap], ?_⟩
      rw [if_neg (by simpa using hnone)]
    · cases hsent

end Host

end ProfiledBuild
