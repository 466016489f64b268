import Mathlib.Data.List.TakeWhile
import ProfiledBuild.Proofs.Text.Regex.Ways

/-! The search through all ways at once finds nothing but matches, and a text as a whole is found to
match whenever it does: there are so few ways that the search comes to its end. -/

namespace ProfiledBuild.Regex

variable {p : Place} {fuel : Nat} {met ways : List (List Regex)} {way : List Regex}
  {thread : Thread}

theorem threads_cons_of_mem (hway : way ∈ met) :
    threads p (fuel + 1) met (way :: ways) = threads p fuel met ways := by
  rw [threads, if_pos (List.contains_iff_mem.mpr hway)]

theorem threads_cons (hway : way ∉ met) :
    threads p (fuel + 1) met (way :: ways) =
      (own? way).toList ++ threads p fuel (way :: met) (nexts p way ++ ways) := by
  rw [threads, if_neg (by simpa using hway)]
  cases way with
  | nil => rfl
  | cons r rest =>
    cases r with
    | empty | chars | cat | alt | plus => rfl
    | boundary b => cases hb : b.holds p <;> simp [own?, nexts, hb]
    | loop greedy a => cases greedy <;> rfl

/-- A thread leads no farther than one of the ways that it comes from. -/
theorem threads_sound {x z : Point} (hmem : thread ∈ threads x.place fuel met ways)
    (hleads : thread.Leads x z) : ∃ way ∈ ways, WayMatches way x z := by
  induction fuel generalizing met ways with
  | zero => simp [threads] at hmem
  | succ fuel ih =>
    cases ways with
    | nil => simp [threads] at hmem
    | cons way ways =>
      by_cases hway : way ∈ met
      · rw [threads_cons_of_mem hway] at hmem
        obtain ⟨way', hway', hmatches⟩ := ih hmem
        exact ⟨way', List.mem_cons_of_mem _ hway', hmatches⟩
      · rw [threads_cons hway, List.mem_append, Option.mem_toList] at hmem
        rcases hmem with hown | hmore
        · exact ⟨way, List.mem_cons_self, wayMatches_iff.mpr (.inl ⟨thread, hown, hleads⟩)⟩
        · obtain ⟨next, hnext, hmatches⟩ := ih hmore
          rcases List.mem_append.mp hnext with hnext | hnext
          · exact ⟨way, List.mem_cons_self, wayMatches_iff.mpr (.inr ⟨next, hnext, hmatches⟩)⟩
          · exact ⟨next, List.mem_cons_of_mem _ hnext, hmatches⟩

/-- A way comes to a thread without passing through one that has been met. -/
inductive Reaches (p : Place) (met : List (List Regex)) : List Regex → Thread → Prop where
  | own {way : List Regex} {thread : Thread} (hway : way ∉ met) (hown : own? way = some thread) :
      Reaches p met way thread
  | next {way next : List Regex} {thread : Thread} (hway : way ∉ met) (hnext : next ∈ nexts p way)
      (hmore : Reaches p met next thread) : Reaches p met way thread

theorem Reaches.not_mem (hreaches : Reaches p met way thread) : way ∉ met := by
  cases hreaches with
  | own hway => exact hway
  | next hway => exact hway

/-- What is reached through a way is reached after the last time that it is passed. -/
theorem Reaches.cut (hreaches : Reaches p met way thread) (v : List Regex) :
    (way ≠ v ∧ Reaches p (v :: met) way thread) ∨ own? v = some thread ∨
      ∃ next ∈ nexts p v, Reaches p (v :: met) next thread := by
  induction hreaches with
  | @own way thread hway hown =>
    by_cases hv : way = v
    · subst hv
      exact .inr (.inl hown)
    · exact .inl ⟨hv, .own (by simp [hv, hway]) hown⟩
  | @next way next thread hway hnext _ ih =>
    rcases ih with ⟨hne, hmore⟩ | hv
    · by_cases hv : way = v
      · subst hv
        exact .inr (.inr ⟨next, hnext, hmore⟩)
      · exact .inl ⟨hv, .next (by simp [hv, hway]) hnext hmore⟩
    · exact .inr hv

/-- How many ways with a property have not been met. -/
def unmet (met : List (List Regex)) (q : List Regex → Bool) (all : List (List Regex)) : Nat :=
  all.countP fun way => way ∉ met && q way

theorem unmet_nil (q : List Regex → Bool) (all : List (List Regex)) :
    unmet [] q all = all.countP q := by
  simp [unmet]

theorem unmet_cons_le (met : List (List Regex)) (way : List Regex) (q : List Regex → Bool)
    (all : List (List Regex)) :
    unmet (way :: met) q all ≤ unmet met q all := by
  refine List.countP_mono_left fun v _ hv => ?_
  simp only [List.mem_cons, Bool.and_eq_true, decide_eq_true_eq, not_or] at hv ⊢
  exact ⟨hv.1.2, hv.2⟩

theorem unmet_cons_lt {q : List Regex → Bool} {all : List (List Regex)} (hall : way ∈ all)
    (hway : way ∉ met) (hq : q way = true) : unmet (way :: met) q all < unmet met q all := by
  induction all with
  | nil => simp at hall
  | cons v rest ih =>
    have hle := unmet_cons_le met way q rest
    simp only [unmet, List.countP_cons] at hle ih ⊢
    by_cases hv : v = way
    · have hafter : (decide (v ∉ way :: met) && q v) = false := by simp [hv]
      have hbefore : (decide (v ∉ met) && q v) = true := by simp [hv, hway, hq]
      rw [hafter, hbefore, if_neg (by decide), if_pos rfl]
      omega
    · have hrest := ih (List.mem_of_ne_of_mem (Ne.symm hv) hall)
      have hsame : (decide (v ∉ way :: met) && q v) = (decide (v ∉ met) && q v) := by simp [hv]
      rw [hsame]
      omega

theorem Closed.append {all : List (List Regex)} (hclosed : Closed all) (hway : way ∈ all)
    (hways : ways ⊆ all) (p : Place) : nexts p way ++ ways ⊆ all :=
  List.append_subset.mpr ⟨fun next hnext => hclosed way hway next (.inl ⟨p, hnext⟩), hways⟩

/-- All threads are found in as many steps as there are ways to follow, each of which leads to two
more at most. -/
theorem threads_complete {all : List (List Regex)} (hclosed : Closed all) (hways : ways ⊆ all)
    (hfuel : ways.length + 2 * unmet met (fun _ => true) all ≤ fuel) (hway : way ∈ ways)
    (hreaches : Reaches p met way thread) : thread ∈ threads p fuel met ways := by
  induction fuel generalizing met ways way with
  | zero =>
    have hpos := List.length_pos_of_mem hway
    omega
  | succ fuel ih =>
    cases ways with
    | nil => simp at hway
    | cons v ways =>
      obtain ⟨hv, hrest⟩ := List.cons_subset.mp hways
      rw [List.length_cons] at hfuel
      by_cases hmet : v ∈ met
      · rw [threads_cons_of_mem hmet]
        have hne : way ≠ v := by
          rintro rfl
          exact hreaches.not_mem hmet
        exact ih hrest (by omega) (List.mem_of_ne_of_mem hne hway) hreaches
      · rw [threads_cons hmet, List.mem_append, Option.mem_toList]
        have hlt := unmet_cons_lt (q := fun _ => true) hv hmet rfl
        have htwo := length_nexts_le p v
        have hmore := hclosed.append hv hrest p
        have hfuel' : (nexts p v ++ ways).length + 2 * unmet (v :: met) (fun _ => true) all ≤
            fuel := by
          rw [List.length_append]
          omega
        -- `v` is not followed again, so what is reached through it has to be found behind it
        rcases hreaches.cut v with ⟨hne, haround⟩ | hown | ⟨next, hnext, hthrough⟩
        · have hin := List.mem_append_right (nexts p v) (List.mem_of_ne_of_mem hne hway)
          exact .inr (ih hmore hfuel' hin haround)
        · exact .inl hown
        · exact .inr (ih hmore hfuel' (List.mem_append_left ways hnext) hthrough)

def Thread.isStep : Thread → Bool
  | .done => false
  | .step .. => true

theorem Thread.isStep_step (set : CharSet) (rest : List Regex) : (step set rest).isStep = true :=
  rfl

/-- Each way comes to one thread at most. -/
theorem countP_threads_le {all : List (List Regex)} (hclosed : Closed all) (hways : ways ⊆ all) :
    (threads p fuel met ways).countP Thread.isStep ≤ unmet met needsChar all := by
  induction fuel generalizing met ways with
  | zero => simp [threads]
  | succ fuel ih =>
    cases ways with
    | nil => simp [threads]
    | cons v ways =>
      obtain ⟨hv, hrest⟩ := List.cons_subset.mp hways
      by_cases hmet : v ∈ met
      · rw [threads_cons_of_mem hmet]
        exact ih hrest
      · rw [threads_cons hmet, List.countP_append]
        have hmore := hclosed.append hv hrest p
        have hle : (threads p fuel (v :: met) (nexts p v ++ ways)).countP Thread.isStep ≤
            unmet (v :: met) needsChar all := ih hmore
        cases hown : own? v with
        | none =>
          have hfewer := unmet_cons_le met v needsChar all
          rw [Option.toList_none, List.countP_nil]
          omega
        | some own =>
          cases own with
          | done =>
            have hfewer := unmet_cons_le met v needsChar all
            rw [Option.toList_some, List.countP_singleton, if_neg (by decide)]
            omega
          | step set rest =>
            have hneeds : needsChar v = true := by rw [needsChar, hown]
            have hfewer := unmet_cons_lt (q := needsChar) hv hmet hneeds
            rw [Option.toList_some, List.countP_singleton, if_pos (Thread.isStep_step set rest)]
            omega

theorem Matches.reaches {r : Regex} {x y z : Point} {rest : List Regex} (hr : Matches r x y)
    (hrest : WayMatches rest y z)
    (hreaches : ∃ thread, Reaches y.place [] rest thread ∧ thread.Leads y z) :
    ∃ thread, Reaches x.place [] (r :: rest) thread ∧ thread.Leads x z := by
  induction hr generalizing z rest with
  | empty x =>
    obtain ⟨thread, hthread, hleads⟩ := hreaches
    exact ⟨thread, .next (by simp) (by simp [nexts]) hthread, hleads⟩
  | chars before s hc =>
    exact ⟨_, .own (by simp) rfl, _, s, rfl, hc, hrest⟩
  | boundary hb =>
    obtain ⟨thread, hthread, hleads⟩ := hreaches
    exact ⟨thread, .next (by simp) (by simp [nexts, hb]) hthread, hleads⟩
  | cat _ hb iha ihb =>
    obtain ⟨thread, hthread, hleads⟩ := iha (.step hb hrest) (ihb hrest hreaches)
    exact ⟨thread, .next (by simp) (by simp [nexts]) hthread, hleads⟩
  | first _ ih | second _ ih =>
    obtain ⟨thread, hthread, hleads⟩ := ih hrest hreaches
    exact ⟨thread, .next (by simp) (by simp [nexts]) hthread, hleads⟩
  | leave greedy a x =>
    obtain ⟨thread, hthread, hleads⟩ := hreaches
    exact ⟨thread, .next (by simp) (by cases greedy <;> simp [nexts]) hthread, hleads⟩
  | @again greedy a x y z' _ hloop iha ihloop =>
    obtain ⟨thread, hthread, hleads⟩ := iha (.step hloop hrest) (ihloop hrest hreaches)
    exact ⟨thread, .next (by simp) (by cases greedy <;> simp [nexts]) hthread, hleads⟩
  | @plus greedy a x y z' _ hloop iha ihloop =>
    obtain ⟨thread, hthread, hleads⟩ := iha (.step hloop hrest) (ihloop hrest hreaches)
    exact ⟨thread, .next (by simp) (by simp [nexts]) hthread, hleads⟩

theorem WayMatches.reaches {x z : Point} (hway : WayMatches way x z) :
    ∃ thread, Reaches x.place [] way thread ∧ thread.Leads x z := by
  induction hway with
  | done x => exact ⟨.done, .own (by simp) rfl, rfl⟩
  | step hr hrest ih => exact hr.reaches hrest ih

theorem own_of_mem_threads {all : List (List Regex)} (hclosed : Closed all) (hways : ways ⊆ all)
    (hmem : thread ∈ threads p fuel met ways) : ∃ way ∈ all, own? way = some thread := by
  induction fuel generalizing met ways with
  | zero => simp [threads] at hmem
  | succ fuel ih =>
    cases ways with
    | nil => simp [threads] at hmem
    | cons v ways =>
      obtain ⟨hv, hrest⟩ := List.cons_subset.mp hways
      by_cases hmet : v ∈ met
      · rw [threads_cons_of_mem hmet] at hmem
        exact ih hrest hmem
      · rw [threads_cons hmet, List.mem_append, Option.mem_toList] at hmem
        rcases hmem with hown | hmore
        · exact ⟨v, hv, hown⟩
        · exact ih (hclosed.append hv hrest p) hmore

theorem Thread.after_eq_some {c : Char} {next : List Regex} (hafter : thread.after c = some next) :
    ∃ set, thread = .step set next ∧ set.contains c = true := by
  cases thread with
  | done => cases hafter
  | step set rest =>
    rw [Thread.after] at hafter
    split at hafter
    next hc =>
      cases hafter
      exact ⟨set, rfl, hc⟩
    next => cases hafter

theorem length_filterMap_after_le (c : Char) (threads : List Thread) :
    (threads.filterMap (Thread.after c)).length ≤ threads.countP Thread.isStep := by
  induction threads with
  | nil => simp
  | cons thread rest ih =>
    rw [List.filterMap_cons, List.countP_cons]
    cases hafter : thread.after c with
    | none => exact Nat.le_trans ih (Nat.le_add_right _ _)
    | some next =>
      obtain ⟨set, rfl, -⟩ := Thread.after_eq_some hafter
      rw [if_pos (Thread.isStep_step set next)]
      exact Nat.succ_le_succ ih

theorem exists_wayMatches_of_after {before : Option Char} {c : Char} {s : List Char}
    {next : List Regex} {z : Point}
    (hnext : next ∈ (threads (Point.place ⟨before, c :: s⟩) fuel [] ways).filterMap
      (Thread.after c))
    (hmatches : WayMatches next ⟨some c, s⟩ z) :
    ∃ way ∈ ways, WayMatches way ⟨before, c :: s⟩ z := by
  obtain ⟨thread, hthread, hafter⟩ := List.mem_filterMap.mp hnext
  obtain ⟨set, rfl, hc⟩ := Thread.after_eq_some hafter
  exact threads_sound hthread ⟨c, s, rfl, hc, hmatches⟩

theorem run_sound {before : Option Char} {s : List Char} (hrun : run fuel before ways s = true) :
    ∃ way ∈ ways, ∃ last, WayMatches way ⟨before, s⟩ ⟨last, []⟩ := by
  induction s generalizing before ways with
  | nil =>
    have hdone : Thread.done ∈ threads (Point.place ⟨before, []⟩) fuel [] ways :=
      List.contains_iff_mem.mp hrun
    obtain ⟨way, hway, hmatches⟩ := threads_sound (z := ⟨before, []⟩) hdone rfl
    exact ⟨way, hway, before, hmatches⟩
  | cons c s ih =>
    obtain ⟨next, hlive, last, hmatches⟩ := ih hrun
    have hnext := ((List.takeWhile_sublist _).filterMap (Thread.after c)).subset hlive
    obtain ⟨way, hway, hmatches⟩ := exists_wayMatches_of_after hnext hmatches
    exact ⟨way, hway, last, hmatches⟩

/-- While no way is done, none is dropped. -/
theorem run_cons_of_not_mem {before : Option Char} {c : Char} {s : List Char}
    (hopen : Thread.done ∉ threads (Point.place ⟨before, c :: s⟩) fuel [] ways) :
    run fuel before ways (c :: s) = run fuel (some c)
      ((threads (Point.place ⟨before, c :: s⟩) fuel [] ways).filterMap (Thread.after c)) s := by
  have hlive : (threads (Point.place ⟨before, c :: s⟩) fuel [] ways).takeWhile (· ≠ .done) =
      threads (Point.place ⟨before, c :: s⟩) fuel [] ways := by
    rw [List.takeWhile_eq_self_iff]
    intro thread hthread
    rw [decide_eq_true_eq]
    rintro rfl
    exact hopen hthread
  exact congrArg (fun live => run fuel (some c) (live.filterMap (Thread.after c)) s) hlive

/-- Where all ways go on to the end of the text, none of them is given up for another one. -/
theorem run_complete {all : List (List Regex)} (hclosed : Closed all)
    (hfuel : all.countP needsChar + 1 + 2 * all.length ≤ fuel) {before last : Option Char}
    {s : List Char} (hways : ways ⊆ all) (hlength : ways.length ≤ all.countP needsChar + 1)
    (hend : ∀ way ∈ ways, ∀ z, WayMatches way ⟨before, s⟩ z → z.rest = []) (hway : way ∈ ways)
    (hmatches : WayMatches way ⟨before, s⟩ ⟨last, []⟩) : run fuel before ways s = true := by
  have hfuel' {ways : List (List Regex)} (hlength : ways.length ≤ all.countP needsChar + 1) :
      ways.length + 2 * unmet [] (fun _ => true) all ≤ fuel := by
    rw [unmet_nil, List.countP_true]
    omega
  induction s generalizing before ways way with
  | nil =>
    obtain ⟨thread, hreaches, hleads⟩ := hmatches.reaches
    have hfound := threads_complete hclosed hways (hfuel' hlength) hway hreaches
    cases thread with
    | done => exact List.contains_iff_mem.mpr hfound
    | step set rest =>
      obtain ⟨c, s, hrest, -⟩ := hleads
      cases hrest
  | cons c s ih =>
    obtain ⟨thread, hreaches, hleads⟩ := hmatches.reaches
    have hfound := threads_complete hclosed hways (hfuel' hlength) hway hreaches
    have hopen : Thread.done ∉ threads (Point.place ⟨before, c :: s⟩) fuel [] ways := by
      intro hdone
      obtain ⟨way, hway, hmatches⟩ := threads_sound (z := ⟨before, c :: s⟩) hdone rfl
      exact absurd (hend way hway _ hmatches) (by simp)
    rw [run_cons_of_not_mem hopen]
    cases thread with
    | done => cases hleads
    | step set next =>
      obtain ⟨c', s', hrest, hc, hmore⟩ := hleads
      cases hrest
      have hnext : next ∈ (threads (Point.place ⟨before, c :: s⟩) fuel [] ways).filterMap
          (Thread.after c) :=
        List.mem_filterMap.mpr ⟨_, hfound, by rw [Thread.after, if_pos hc]⟩
      refine ih ?_ ?_ ?_ hnext hmore
      · intro next hnext
        obtain ⟨thread, hthread, hafter⟩ := List.mem_filterMap.mp hnext
        obtain ⟨set, rfl, -⟩ := Thread.after_eq_some hafter
        obtain ⟨way, hway, hown⟩ := own_of_mem_threads hclosed hways hthread
        exact hclosed way hway next (.inr ⟨set, hown⟩)
      · refine Nat.le_trans (length_filterMap_after_le c _) (Nat.le_trans ?_ (Nat.le_add_right _ 1))
        rw [← unmet_nil]
        exact countP_threads_le hclosed hways
      · intro next hnext z hz
        obtain ⟨way, hway, hmatches⟩ := exists_wayMatches_of_after hnext hz
        exact hend way hway z hmatches

/-- What is found matches from some place in the text up to its end. -/
theorem matchesToEnd_sound {r : Regex} {s : List Char} (hfound : r.matchesToEnd s = true) :
    ∃ x last, x.rest <:+ s ∧ (x = ⟨none, s⟩ ∨ x.before.isSome) ∧ Matches r x ⟨last, []⟩ := by
  obtain ⟨way, hway, last, hmatches⟩ := run_sound hfound
  obtain rfl := List.mem_singleton.mp hway
  obtain ⟨x, hloop, hrest⟩ := wayMatches_cons_iff.mp hmatches
  obtain ⟨y, hr, hdone⟩ := wayMatches_cons_iff.mp hrest
  cases wayMatches_nil_iff.mp hdone
  exact ⟨x, last, hloop.suffix.1, hloop.suffix.2, hr⟩

def whole (r : Regex) : Regex := concat [.boundary .textStart, r, .boundary .textEnd]

theorem matches_whole_iff {r : Regex} {x z : Point} :
    Matches (whole r) x z ↔ x.before = none ∧ Matches r x z ∧ z.rest = [] := by
  have hlast (y : Point) : WayMatches [.boundary .textEnd] y z ↔ z = y ∧ z.rest = [] := by
    rw [wayMatches_boundary_iff, wayMatches_nil_iff, and_comm]
    refine and_congr_right ?_
    rintro rfl
    change z.rest.head?.isNone = true ↔ _
    rw [Option.isNone_iff_eq_none, List.head?_eq_none_iff]
  rw [whole, matches_concat_iff, wayMatches_boundary_iff, wayMatches_cons_iff]
  refine and_congr Option.isNone_iff_eq_none ?_
  constructor
  · rintro ⟨y, hr, hy⟩
    obtain ⟨rfl, hend⟩ := (hlast y).mp hy
    exact ⟨hr, hend⟩
  · rintro ⟨hr, hend⟩
    exact ⟨z, hr, (hlast z).mpr ⟨rfl, hend⟩⟩

/-- A text matches as a whole if there is a match from its start to its end. -/
theorem matchesWhole_iff {r : Regex} {s : List Char} :
    r.matchesWhole s = true ↔ ∃ last, Matches r ⟨none, s⟩ ⟨last, []⟩ := by
  constructor
  · intro hfound
    obtain ⟨x, last, -, hstart, hmatches⟩ := matchesToEnd_sound hfound
    obtain ⟨hbefore, hr, -⟩ := matches_whole_iff.mp hmatches
    obtain rfl : x = ⟨none, s⟩ := hstart.resolve_right (by simp [hbefore])
    exact ⟨last, hr⟩
  · rintro ⟨last, hr⟩
    have hway : WayMatches [.loop false any, whole r] ⟨none, s⟩ ⟨last, []⟩ :=
      .step (.leave false any _) (.step (matches_whole_iff.mpr ⟨rfl, hr, rfl⟩) (.done _))
    have hweight := weight_searched_le (whole r)
    have hfuel : (searched (whole r)).countP needsChar + 1 + 2 * (searched (whole r)).length ≤
        4 * (whole r).size + 10 := by omega
    refine run_complete (closed_searched (whole r)) hfuel ?_ (by simp) ?_ List.mem_cons_self hway
    · intro way hway
      obtain rfl := List.mem_singleton.mp hway
      exact List.mem_append_left _ (mem_parts_self _ _)
    · intro way hway z hz
      obtain rfl := List.mem_singleton.mp hway
      obtain ⟨y, -, hrest⟩ := wayMatches_cons_iff.mp hz
      obtain ⟨y', hwhole, hdone⟩ := wayMatches_cons_iff.mp hrest
      cases wayMatches_nil_iff.mp hdone
      exact (matches_whole_iff.mp hwhole).2.2

end ProfiledBuild.Regex
