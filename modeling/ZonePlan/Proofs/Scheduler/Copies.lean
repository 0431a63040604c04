/-
A copy is in force until the schedule is replaced, and never again.

Whether the copy of a snapshot is still the one in force is decided by its number alone.  That
this tells whether the schedule was replaced meanwhile, also by an equal one, rests on two
things: a number is used once (`Numbered`), and whatever is installed has numbers that were not
used when the snapshot was taken (`Since`).  The second is a relation between two worlds of a
run, so it holds across whatever zones do between them, to any depth and however it ends.
-/
import ZonePlan.Proofs.Scheduler.Moves

namespace ZonePlan

/-- Whether an event is that a schedule was replaced. -/
def Event.replaces : Event → Bool
  | .noted (.scheduleReplaced _) => true
  | _ => false

theorem Event.replaces_idle {e : Event} (h : e.isIdle = true) : e.replaces = false := by
  rcases e with n | _ | _ | _ | _
  · cases n with
    | scheduleReplaced schedule => simp [Event.isIdle] at h
    | _ => rfl
  all_goals rfl

namespace Scheduler

/-- What happened between one world and a later one. -/
def since (w w' : World) : List Event := w'.trace.drop w.trace.length

/-- Whether a schedule was replaced between one world and a later one. -/
def replacedSince (w w' : World) : Bool := (since w w').any Event.replaces

/-- What holds between a world and a later one: what has happened remains, numbers are not
given back, and the copies in force are either those of the earlier world or, when the schedule
was replaced, copies made after it. -/
structure Since (w w' : World) : Prop where
  trace : w.trace <+: w'.trace
  copies : w.scheduler.copies ≤ w'.scheduler.copies
  same : replacedSince w w' = false → w'.scheduler.live = w.scheduler.live
  fresh : replacedSince w w' = true →
    ∀ e ∈ w'.scheduler.live.entries, w.scheduler.copies ≤ e.2.number

/-- No number is in use that is still to be given. -/
def Numbered (w : World) : Prop :=
  ∀ e ∈ w.scheduler.live.entries, e.2.number < w.scheduler.copies

theorem since_of_trace {w w' : World} {events : List Event} (h : w'.trace = w.trace ++ events) :
    since w w' = events := by
  rw [since, h, List.drop_left]

theorem since_self (w : World) : since w w = [] := since_of_trace (List.append_nil _).symm

theorem since_trans {u v w : World} (h : u.trace <+: v.trace) (h' : v.trace <+: w.trace) :
    since u w = since u v ++ since v w := by
  obtain ⟨first, hfirst⟩ := h
  obtain ⟨second, hsecond⟩ := h'
  rw [since_of_trace hfirst.symm, since_of_trace hsecond.symm]
  refine since_of_trace ?_
  rw [← hsecond, ← hfirst, List.append_assoc]

theorem replacedSince_record (w : World) (events : List Event) :
    replacedSince w (w.record events) = events.any Event.replaces := by
  rw [replacedSince, since_of_trace rfl]

theorem replacedSince_trans {u v w : World} (h : u.trace <+: v.trace) (h' : v.trace <+: w.trace) :
    replacedSince u w = (replacedSince u v || replacedSince v w) := by
  rw [replacedSince, since_trans h h', List.any_append]
  rfl

namespace Since

theorem refl (w : World) : Since w w where
  trace := List.prefix_rfl
  copies := Nat.le_refl _
  same _ := rfl
  fresh h := by simp [replacedSince, since_self] at h

theorem trans {u v w : World} (h : Since u v) (h' : Since v w) : Since u w where
  trace := h.trace.trans h'.trace
  copies := Nat.le_trans h.copies h'.copies
  same hreplaced := by
    rw [replacedSince_trans h.trace h'.trace, Bool.or_eq_false_iff] at hreplaced
    rw [h'.same hreplaced.2, h.same hreplaced.1]
  fresh hreplaced := by
    intro e he
    -- Either the last part installed what is live, or it left alone what the first part did.
    rcases hlast : replacedSince v w with _ | _
    · rw [replacedSince_trans h.trace h'.trace, hlast, Bool.or_false] at hreplaced
      rw [h'.same hlast] at he
      exact h.fresh hreplaced e he
    · exact Nat.le_trans h.copies (h'.fresh hlast e he)

/-- A world in which something else happened and no copy changed. -/
theorem of_events {w w' : World} {events : List Event} (htrace : w'.trace = w.trace ++ events)
    (hevents : events.any Event.replaces = false) (hlive : w'.scheduler.live = w.scheduler.live)
    (hcopies : w'.scheduler.copies = w.scheduler.copies) : Since w w' where
  trace := ⟨events, htrace.symm⟩
  copies := Nat.le_of_eq hcopies.symm
  same _ := hlive
  fresh h := by
    rw [replacedSince, since_of_trace htrace, hevents] at h
    exact absurd h Bool.false_ne_true

theorem replacement_replaces (dropped : List Zone) (schedule : Schedule) :
    (replacement dropped schedule).any Event.replaces = true := by
  simp [replacement, Event.replaces]

theorem install (w : World) (schedule : Schedule) : Since w (installed schedule w) where
  trace := List.prefix_append _ _
  copies := Nat.le_add_right _ _
  same h := by
    rw [replacedSince, since_of_trace rfl, replacement_replaces] at h
    exact absurd h.symm Bool.false_ne_true
  fresh _ e he := (Copy.number_of_mem_ofTables he).1

theorem move {w w' : World} (h : Move w w') : Since w w' := by
  cases h with
  | idle e he =>
    exact .of_events rfl (by simp [Event.replaces_idle he]) rfl rfl
  | outside s _ => exact .of_events (List.append_nil _).symm rfl rfl rfl
  | control running lastCall hasWorker =>
    exact .of_events (List.append_nil _).symm rfl rfl rfl
  | install schedule => exact .install w schedule
  | vacate zone _ => exact .of_events rfl rfl rfl rfl
  | adopt zone period status =>
    unfold adopted
    split
    · exact .of_events rfl rfl rfl rfl
    · exact .of_events rfl rfl rfl rfl

/-- **It holds along every row of moves.** -/
theorem of_moves {w w' : World} (h : Moves w w') : Since w w' := by
  induction h with
  | refl => exact .refl w
  | tail _ hlast ih => exact ih.trans (.move hlast)

end Since

/-- It holds along a telling too.  This is no row of moves, since a status that was adopted is
remembered only after it. -/
theorem tell_since (zone : Zone) (period : Period) (status : Status) (w : World) :
    Since w (tell (takeSteps take) zone period status w).2 := by
  obtain ⟨-, w', hmoves, htell | ⟨cause, htell⟩⟩ :=
    tell_follows moves_course takeSteps_take_moving.reacts zone period status (w := w) trivial
  · rw [htell]
    exact (Since.of_moves hmoves).trans (.of_events rfl rfl rfl rfl)
  · rw [htell]
    exact .of_moves hmoves

theorem Numbered.move {w w' : World} (hmove : Move w w') (h : Numbered w) : Numbered w' := by
  cases hmove with
  | install schedule =>
    intro e he
    exact (Copy.number_of_mem_ofTables he).2
  | adopt zone period status =>
    unfold adopted
    split
    · exact h
    · exact h
  | _ => exact h

theorem Reachable.numbered {w : World} (h : Reachable w) : Numbered w :=
  h.induct (fun _ _ _ he => absurd he List.not_mem_nil) Numbered.move

/-! ### What the number of a copy tells -/

theorem mem_snapshot {s : Scheduler} {entry : Zone × Copy} :
    entry ∈ s.snapshot ↔ s.live.get? entry.1 = some entry.2 := by
  rw [Registry.get?_eq_some_iff]
  exact (List.mergeSort_perm s.live.entries _).mem_iff

/-- **A copy of a snapshot is in force as long as the schedule was not replaced since, and no
longer.** -/
theorem Since.isLive {w w' : World} (h : Since w w') (hw : Numbered w) {entry : Zone × Copy}
    (hentry : entry ∈ w.scheduler.snapshot) :
    w'.scheduler.isLive entry.1 entry.2 = !replacedSince w w' := by
  have hget := mem_snapshot.1 hentry
  rcases hreplaced : replacedSince w w' with _ | _
  · rw [Scheduler.isLive, h.same hreplaced, hget]
    simp
  · rw [Scheduler.isLive]
    rcases hnow : w'.scheduler.live.get? entry.1 with _ | copy
    · rfl
    · -- What is live now was numbered after the snapshot, and the snapshot's copies before it.
      have hfresh : w.scheduler.copies ≤ copy.number :=
        h.fresh hreplaced _ (Registry.get?_eq_some_iff.1 hnow)
      have hold : entry.2.number < w.scheduler.copies :=
        hw _ (Registry.get?_eq_some_iff.1 hget)
      simp only [Option.any_some, Bool.not_true, beq_eq_false_iff_ne]
      omega

/-- While the schedule was not replaced the table of a copy of a snapshot is its zone's table. -/
theorem Since.table {w w' : World} (h : Since w w') {entry : Zone × Copy}
    (hentry : entry ∈ w.scheduler.snapshot) (hreplaced : replacedSince w w' = false) :
    w'.scheduler.schedule.get? entry.1 = some entry.2.table := by
  rw [Scheduler.schedule, h.same hreplaced, Registry.get?_mapValues, mem_snapshot.1 hentry,
    Option.map_some]

end Scheduler
end ZonePlan
