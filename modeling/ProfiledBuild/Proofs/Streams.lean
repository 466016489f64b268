import Mathlib.Data.List.TakeWhile
import ProfiledBuild.Proofs.Files
import ProfiledBuild.Proofs.Text.Raw

/-! Streams and open files. What processes write to a stream comes out of it in the same order, as
far as there is room; what they write to an open file stands there from its offset on, and whatever
stands elsewhere stays. -/

namespace ProfiledBuild

namespace Queue

def pushAll (q : Queue) (texts : List Raw) : Queue := texts.foldl push q

theorem text_eq (q : Queue) : q.text = q.front ++ q.back.reverse.flatten := by
  rw [text]
  cases q.back <;> simp

theorem text_push (q : Queue) (added : Raw) :
    (q.push added).text = q.text ++ match q.room with
      | none => added
      | some room => added.take room := by
  cases hroom : q.room <;> simp [push, hroom, text_eq]

/-- A stream without a limit takes everything. -/
theorem text_pushAll {q : Queue} (hroom : q.room = none) (texts : List Raw) :
    (q.pushAll texts).text = q.text ++ texts.flatten ∧
      (q.pushAll texts).isBroken = q.isBroken := by
  induction texts generalizing q with
  | nil => simp [pushAll]
  | cons added rest ih =>
    have hpush : (q.push added).room = none ∧ (q.push added).isBroken = q.isBroken := by
      simp [push, hroom]
    obtain ⟨htext, hbroken⟩ := ih hpush.1
    change ((q.push added).pushAll rest).text = _ ∧ ((q.push added).pushAll rest).isBroken = _
    rw [htext, hbroken, text_push, hroom, hpush.2]
    simp

/-- A stream with a limit takes as much as there is room for, and it is broken by more. -/
theorem text_pushAll_narrow {q : Queue} {room : Nat} (hroom : q.room = some room)
    (texts : List Raw) :
    (q.pushAll texts).text = q.text ++ texts.flatten.take room ∧
      (q.pushAll texts).isBroken = (q.isBroken || room < texts.flatten.length) := by
  induction texts generalizing q room with
  | nil => simp [pushAll]
  | cons added rest ih =>
    have hpush : (q.push added).room = some (room - added.length) ∧
        (q.push added).isBroken = (q.isBroken || room < added.length) := by
      simp [push, hroom]
    obtain ⟨htext, hbroken⟩ := ih hpush.1
    change ((q.push added).pushAll rest).text = _ ∧ ((q.push added).pushAll rest).isBroken = _
    rw [htext, hbroken, text_push, hroom, hpush.2, List.flatten_cons, List.take_append,
      List.length_append]
    have hmore : (room < added.length ∨ room - added.length < rest.flatten.length) ↔
        room < added.length + rest.flatten.length := by omega
    refine ⟨by simp, ?_⟩
    rw [Bool.or_assoc, ← Bool.decide_or, decide_eq_decide.mpr hmore]

end Queue

namespace Host

variable {h : Host} {id other : Nat}

theorem overwritten_at_end (before text : Raw) :
    overwritten before text before.length = before ++ text := by
  simp [overwritten]

/-- What stands before an offset, filled up if it is too short. -/
def filledTo (before : Raw) (offset : Nat) : Raw :=
  before.take offset ++ List.replicate (offset - before.length) '\x00'

theorem length_filledTo (before : Raw) (offset : Nat) :
    (filledTo before offset).length = offset := by
  rw [filledTo, List.length_append, List.length_take, List.length_replicate]
  omega

theorem overwritten_eq (before text : Raw) (offset : Nat) :
    overwritten before text offset =
      filledTo before offset ++ (text ++ before.drop (offset + text.length)) := by
  rw [overwritten, filledTo, List.append_assoc]

/-- What has been written is found where it has been written. -/
theorem take_drop_overwritten (before text : Raw) (offset : Nat) :
    ((overwritten before text offset).drop offset).take text.length = text := by
  rw [overwritten_eq, List.drop_left' (length_filledTo before offset), List.take_left]

theorem getElem?_overwritten {before text : Raw} {offset i : Nat}
    (houtside : i < offset ∨ offset + text.length ≤ i) (hi : i < before.length) :
    (overwritten before text offset)[i]? = before[i]? := by
  rw [overwritten_eq]
  rcases houtside with hbefore | hafter
  · rw [List.getElem?_append_left (by rw [length_filledTo]; exact hbefore), filledTo,
      List.getElem?_append_left (by rw [List.length_take]; omega), List.getElem?_take_of_lt hbefore]
  · have hlength := length_filledTo before offset
    rw [List.getElem?_append_right (by omega), List.getElem?_append_right (by omega),
      List.getElem?_drop]
    congr 1
    omega

theorem filledTo_append (a b : Raw) : filledTo (a ++ b) a.length = a := by
  simp [filledTo]

/-- Two writings one after the other are one. -/
theorem overwritten_append (before first second : Raw) (offset : Nat) :
    overwritten (overwritten before first offset) second (offset + first.length) =
      overwritten before (first ++ second) offset := by
  let head := filledTo before offset ++ first
  have hhead : head.length = offset + first.length := by
    rw [List.length_append, length_filledTo]
  have hfirst : overwritten before first offset = head ++ before.drop head.length := by
    rw [overwritten_eq, hhead, List.append_assoc]
  rw [hfirst, ← hhead, overwritten_eq, filledTo_append, overwritten_eq, List.drop_length_add_append,
    List.drop_drop, hhead, List.length_append, List.append_assoc, List.append_assoc,
    Nat.add_assoc]

def queue (h : Host) (id : Nat) : Queue := (h.streams.lookup id).getD (.ofText [])

theorem stream_eq (h : Host) (id : Nat) : h.stream id = (h.queue id).text := by
  rw [stream, queue]
  cases h.streams.lookup id <;> rfl

theorem queue_setQueue (h : Host) (q : Queue) :
    (h.setQueue id q).queue other = if other = id then q else h.queue other := by
  change (List.lookup other ((id, q) :: h.streams.filter (·.1 ≠ id))).getD _ = _
  rw [List.lookup_cons]
  by_cases hother : other = id
  · simp [hother]
  · have hkey : (other == id) = false := by simpa using hother
    rw [hkey, if_neg hother, queue]
    exact congrArg (Option.getD · _)
      (lookup_filter h.streams (p := (· ≠ id)) (by simpa using hother))

theorem streams_writeAt (h : Host) (c : Cursor) (text : Raw) :
    (h.writeAt id c text).streams = h.streams := by
  rw [writeAt]
  split <;> rfl

/-- A stream gets what is written to it, and nothing else. -/
theorem queue_write (h : Host) (c : Channel) (text : Raw) :
    (h.write c text).queue id =
      if c = .stream id ∧ text ≠ [] then (h.queue id).push text else h.queue id := by
  unfold write
  by_cases htext : text = []
  · simp [htext]
  · rw [if_neg htext]
    cases c with
    | stream target =>
      dsimp only
      split
      all_goals
        change (h.setQueue target ((h.queue target).push text)).queue id = _
        rw [queue_setQueue]
        by_cases hid : target = id
        · simp [hid, htext]
        · simp [hid, Ne.symm hid]
    | cursor cursor =>
      dsimp only
      split
      · simp [queue, streams_writeAt]
      · simp
    | device device => cases device <;> simp [queue, withFault]
    | closed => simp [queue, withFault]

def writeAll (h : Host) (writings : List (Channel × Raw)) : Host :=
  writings.foldl (fun h writing => h.write writing.1 writing.2) h

/-- All that has been written to a stream, in order. -/
def writtenTo (id : Nat) (writings : List (Channel × Raw)) : Raw :=
  (writings.filter (·.1 = .stream id)).flatMap Prod.snd

theorem writtenTo_cons (id : Nat) (writing : Channel × Raw) (rest : List (Channel × Raw)) :
    writtenTo id (writing :: rest) =
      (if writing.1 = .stream id then writing.2 else []) ++ writtenTo id rest := by
  by_cases hid : writing.1 = .stream id <;> simp [writtenTo, hid]

theorem stream_write (hroom : (h.queue id).room = none) (c : Channel) (text : Raw) :
    ((h.write c text).queue id).room = none ∧
      (h.write c text).stream id = h.stream id ++ if c = .stream id then text else [] := by
  rw [stream_eq, stream_eq, queue_write]
  by_cases hid : c = .stream id
  · by_cases htext : text = []
    · simp [hid, htext, hroom]
    · rw [if_pos ⟨hid, htext⟩, if_pos hid, Queue.text_push, hroom, Queue.push, hroom]
      exact ⟨rfl, rfl⟩
  · simp [hid, hroom]

/-- A stream without a limit gives what was written to it, whatever else was written meanwhile. -/
theorem stream_writeAll (hroom : (h.queue id).room = none) (writings : List (Channel × Raw)) :
    (h.writeAll writings).stream id = h.stream id ++ writtenTo id writings := by
  induction writings generalizing h with
  | nil => simp [writeAll, writtenTo]
  | cons writing rest ih =>
    obtain ⟨hnext, htext⟩ := stream_write hroom writing.1 writing.2
    change ((h.write writing.1 writing.2).writeAll rest).stream id = _
    rw [ih hnext, htext, writtenTo_cons, List.append_assoc]

theorem stream_leave (h : Host) (id taken : Nat) (rest : Raw) (atEnd : Bool) :
    (h.leave (.stream id) taken rest atEnd).stream id = rest := by
  change (h.setQueue id ((h.queue id).leave rest atEnd)).stream id = _
  rw [stream_eq, queue_setQueue, if_pos rfl, Queue.text_eq]
  exact List.append_nil rest

/-- A line that is read is the first of what there is, and the rest is left. -/
theorem readLine_stream {line : Raw} {isEnded : Bool} {after : Host}
    (hread : h.readLine (.stream id) = ((line, isEnded), after)) :
    '\n' ∉ line ∧ h.stream id = line ++ (if isEnded then ['\n'] else []) ++ after.stream id ∧
      (isEnded = false → after.stream id = []) := by
  let text := h.stream id
  let first := text.takeWhile (· ≠ '\n')
  have hfirst : '\n' ∉ first := fun hmem => absurd (List.mem_takeWhile_imp hmem) (by decide)
  have htext : first ++ text.dropWhile (· ≠ '\n') = text := List.takeWhile_append_dropWhile
  have hdrop : text.drop first.length = text.dropWhile (· ≠ '\n') := Raw.drop_takeWhile _ text
  have hhead := List.head?_dropWhile_not (· ≠ '\n') text
  have hunread : h.unread (.stream id) = text := rfl
  have htake : text.takeWhile (· ≠ '\n') = first := rfl
  rw [readLine] at hread
  simp only [hunread, htake, hdrop] at hread
  cases hrest : text.dropWhile (· ≠ '\n') with
  | nil =>
    rw [hrest] at hread htext
    rw [List.append_nil] at htext
    obtain ⟨⟨hline, hended⟩, hafter⟩ : (first = line ∧ false = isEnded) ∧ _ = after := by
      simpa only [Prod.mk.injEq] using hread
    rw [← hline, ← hended, ← hafter, stream_leave]
    exact ⟨hfirst, by simp [htext, text], fun _ => rfl⟩
  | cons c rest =>
    rw [hrest] at hread htext hhead
    have hc : c = '\n' := by simpa using hhead
    obtain ⟨⟨hline, hended⟩, hafter⟩ : (first = line ∧ true = isEnded) ∧ _ = after := by
      simpa only [Prod.mk.injEq] using hread
    rw [← hline, ← hended, ← hafter, stream_leave]
    refine ⟨hfirst, ?_, fun hnot => absurd hnot (by decide)⟩
    rw [if_pos rfl, List.append_assoc, List.singleton_append, ← hc]
    exact htext.symm

theorem length_overwritten (before text : Raw) (offset : Nat) :
    (overwritten before text offset).length = max before.length (offset + text.length) := by
  rw [overwritten_eq, List.length_append, List.length_append, length_filledTo, List.length_drop]
  omega

theorem overwritten_nil {before : Raw} {offset : Nat} (hwithin : offset ≤ before.length) :
    overwritten before [] offset = before := by
  simp [overwritten, Nat.sub_eq_zero_of_le hwithin]

/-- An open file has these contents and is written from this offset on, which is not beyond its
end. -/
structure Opens (h : Host) (id : Nat) (place : List Raw) (contents : Raw) (offset : Nat) :
    Prop where
  cursor : ∃ c, h.cursors.lookup id = some c ∧ c.place = place ∧
    (if c.appends then contents.length else c.offset) = offset
  file : ∃ executable, h.node? place = some (.file contents executable)
  within : offset ≤ contents.length

theorem Opens.write {place : List Raw} {contents : Raw} {offset : Nat}
    (hopens : h.Opens id place contents offset) (text : Raw) :
    (h.write (.cursor id) text).Opens id place (overwritten contents text offset)
      (offset + text.length) := by
  obtain ⟨⟨c, hcursor, hplace, hoffset⟩, ⟨executable, hfile⟩, hwithin⟩ := hopens
  subst hplace
  have hlength := length_overwritten contents text offset
  by_cases htext : text = []
  · rw [htext, overwritten_nil hwithin]
    exact ⟨⟨c, hcursor, rfl, hoffset⟩, ⟨executable, hfile⟩, hwithin⟩
  · have hwrite : h.write (.cursor id) text = h.writeAt id c text := by
      rw [Host.write, if_neg htext]
      simp only [hcursor]
    rw [hwrite, writeAt, hfile]
    simp only [hoffset]
    refine ⟨⟨{ c with offset := offset + text.length }, ?_, rfl, ?_⟩, ?_, by omega⟩
    · exact List.lookup_cons_self
    · cases happends : c.appends with
      | true =>
        rw [happends, if_pos rfl] at hoffset
        rw [if_pos rfl, hlength]
        omega
      | false => rfl
    · exact ⟨_, node?_put_self _ _ _⟩

/-- What is written to an open file bit by bit stands there as a whole. -/
theorem Opens.writeAll {place : List Raw} {contents : Raw} {offset : Nat}
    (hopens : h.Opens id place contents offset) (texts : List Raw) :
    (h.writeAll (texts.map fun text => (.cursor id, text))).Opens id place
      (overwritten contents texts.flatten offset) (offset + texts.flatten.length) := by
  induction texts generalizing h contents offset with
  | nil =>
    rw [List.flatten_nil, overwritten_nil hopens.within]
    exact hopens
  | cons text rest ih =>
    rw [List.flatten_cons, ← overwritten_append, List.length_append, ← Nat.add_assoc]
    exact ih (hopens.write text)

end Host

end ProfiledBuild
