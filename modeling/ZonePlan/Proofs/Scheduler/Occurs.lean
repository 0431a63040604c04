/-
Where tables are applied to zones, and what comes of it there.

A table is applied by a step that says so, by the visits of an execution, and by the steps that a
zone takes of its own while it is told a status, to any depth: `Occurs` lists these places.  Each
lies within its step (`Occurs.within`), and what comes of it there is told by the search of the
table alone: nothing in force, and the zone is forgotten (`apply_vacant`); what the zone was told
last, and nothing is done (`apply_same`); anything else, and the zone is told that (`apply_told`).
-/
import ZonePlan.Proofs.Scheduler.Aside
import ZonePlan.Proofs.Scheduler.Tick

namespace ZonePlan.Scheduler

open Act

/-! ### Places -/

/-- While a step is taken in one world, a table is applied to a zone in another: the step itself
comes to that, or one of those that a zone takes while it is told a status. -/
inductive Occurs : Step → World → Zone → Table → When → World → Prop
  | begins {step : Step} {w v : World} {zone : Zone} {table : Table} {now : When}
      (h : Begins step w zone table now v) : Occurs step w zone table now v
  | hooked {step next : Step} {w u u' v : World} {told zone : Zone} {given table : Table}
      {moment now : When} {done rest : List Step} (hbegins : Begins step w told given moment u)
      (htelling : Telling told given moment u u') (htimes : 0 < (u.conduct told).times)
      (hhook : (u.conduct told).hook = done ++ next :: rest)
      (h : Occurs next (takeSteps take told done u').2 zone table now v) :
      Occurs step w zone table now v

variable {zone : Zone} {table : Table} {now : When} {v : World} {period : Period} {status : Status}

theorem Occurs.tick {w : World}
    (h : Occurs (.execute none) (refresh (w.record [.noted .checking])).2 zone table now v) :
    Occurs .tick w zone table now v := by
  cases h with
  | begins h => exact .begins (.tick h)
  | hooked hbegins htelling htimes hhook h =>
    exact .hooked (.tick hbegins) htelling htimes hhook h

/-! ### What a table that is applied comes to -/

theorem searched_found (hforce : table.inForceAt v.surroundings.ahead now =
    .ok (some (period, status))) :
    searched table now v = v.record [.noted (.work (.periodMatches period now))] := by
  rw [searched, Table.searchEvents, hforce]
  rfl

theorem Telling.exists_asked {w' : World} (h : Telling zone table now v w') : ∃ period status,
    v.scheduler.schedule.has zone = true ∧
      table.inForceAt v.surroundings.ahead now = .ok (some (period, status)) ∧
      wasTold v zone status = false ∧ w' = asked zone period status (searched table now v) := by
  obtain @⟨period, status, hhas, hforce, hnew⟩ := h
  exact ⟨period, status, hhas, hforce, hnew, by rw [searched_found hforce]⟩

theorem apply_vacant (hhas : v.scheduler.schedule.has zone = true)
    (hforce : table.inForceAt v.surroundings.ahead now = .ok none) :
    (apply (takeSteps take) zone table now v).2 = vacated zone (searched table now v) := by
  rw [apply_of_scheduled _ _ _ hhas, hforce]

theorem apply_same (hhas : v.scheduler.schedule.has zone = true)
    (hforce : table.inForceAt v.surroundings.ahead now = .ok (some (period, status)))
    (hold : wasTold v zone status = true) :
    (apply (takeSteps take) zone table now v).2 = searched table now v := by
  have hold' : wasTold (searched table now v) zone status = true := hold
  rw [apply_of_scheduled _ _ _ hhas, hforce]
  simp only
  rw [push_of_told hold']

/-- A zone that is told a status takes the steps that it has, if any, and then it adopts the status
or refuses it. -/
theorem apply_told (hhas : v.scheduler.schedule.has zone = true)
    (hforce : table.inForceAt v.surroundings.ahead now = .ok (some (period, status)))
    (hnew : wasTold v zone status = false) : ∃ u,
      Moves ((searched table now v).record [.told zone period status]) u ∧
      ((v.conduct zone).times = 0 →
        u = (searched table now v).record [.told zone period status]) ∧
      (0 < (v.conduct zone).times → u = (takeSteps take zone (v.conduct zone).hook
        (asked zone period status (searched table now v))).2) ∧
      (tell (takeSteps take) zone period status (searched table now v) =
          (.ok (), u.record [.adopted zone period status]) ∧
        (apply (takeSteps take) zone table now v).2 = adopted zone period status u ∨
      ∃ cause, tell (takeSteps take) zone period status (searched table now v) =
          (.error cause, u.record [.refused zone]) ∧
        (apply (takeSteps take) zone table now v).2 = u.record [.refused zone]) := by
  have hnew' : wasTold (searched table now v) zone status = false := hnew
  obtain ⟨u, htell, hstill, hact⟩ := tell_apply zone period status (searched table now v)
  have happly : (apply (takeSteps take) zone table now v).2 =
      (push (takeSteps take) zone period status (searched table now v)).2 := by
    rw [apply_of_scheduled _ _ _ hhas, hforce]
  have hmoves : Moves ((searched table now v).record [.told zone period status]) u := by
    rcases Nat.eq_zero_or_pos (v.conduct zone).times with htimes | htimes
    · rw [hstill htimes]
    · rw [hact htimes]
      exact .head (.outside _ _ (useHook_ahead zone v.surroundings))
        (takeSteps_take_moving zone _ _)
  rw [happly, push_world hnew', htell, conclude_apply]
  refine ⟨u, hmoves, hstill, hact, ?_⟩
  rcases (u.conduct zone).refusal with _ | cause
  · exact .inl ⟨rfl, told_adopted zone period status u⟩
  · exact .inr ⟨cause, rfl, rfl⟩

/-- What applying a table to a scheduled zone leaves, by what the search of the table gives: nothing
more where that fails; where no period matches, a note of this and a zone of which nothing is
remembered; and a status that the zone was not told last is told, and remembered with its period
if the telling ends well and the zone is still scheduled. -/
def Leaves (zone : Zone) (table : Table) (now : When) (v v' : World) : Prop :=
  match table.inForceAt v.surroundings.ahead now with
  | .error _ => v' = v
  | .ok none =>
    v'.trace = (searched table now v).trace ++ [.noted (.noActivePeriod zone)] ∧
      Answers v' zone none none
  | .ok (some (period, status)) =>
    if wasTold v zone status then v' = searched table now v
    else
      (searched table now v).trace ++ [.told zone period status] <+: v'.trace ∧
        match tell (takeSteps take) zone period status (searched table now v) with
        | (.ok (), u) => (∃ past, u.trace = past ++ [.adopted zone period status]) ∧
          if u.scheduler.schedule.has zone then Answers v' zone (some status) (some period)
          else v' = u
        | (.error _, u) => v' = u

/-- **What applying a table comes to.** -/
theorem apply_leaves (table : Table) (now : When) (hhas : v.scheduler.schedule.has zone = true) :
    Leaves zone table now v (apply (takeSteps take) zone table now v).2 := by
  unfold Leaves
  rcases hforce : table.inForceAt v.surroundings.ahead now with cause | _ | ⟨period, status⟩
  · simp only
    rw [apply_of_scheduled _ _ _ hhas, hforce]
  · simp only
    rw [apply_vacant hhas hforce]
    refine ⟨rfl, answers_of_memory ?_⟩
    exact (memory_forget zone (searched table now v) zone).trans (if_pos rfl)
  · rcases hnew : wasTold v zone status with _ | _
    · obtain ⟨u, hmoves, -, -, ⟨htell, happly⟩ | ⟨cause, htell, happly⟩⟩ :=
        apply_told hhas hforce hnew
      · simp only [hnew, if_neg Bool.false_ne_true]
        rw [htell, happly]
        refine ⟨(Since.of_moves (hmoves.tail (.adopt u zone period status))).trace, ⟨_, rfl⟩, ?_⟩
        rcases hhas' : u.scheduler.schedule.has zone with _ | _
        · simp [adopted, hhas']
        · simp only [World.record_scheduler, hhas', if_true]
          refine answers_of_memory ?_
          rw [adopted, if_pos hhas']
          exact (memory_remember zone status period _ zone).trans (if_pos rfl)
      · simp only [hnew, if_neg Bool.false_ne_true]
        rw [htell, happly]
        exact ⟨(Since.of_moves (hmoves.tail (.idle u (.refused zone) rfl))).trace, rfl⟩
    · simp only [if_pos hnew]
      exact apply_same hhas hforce hnew

/-! ### Steps that apply tables -/

theorem take_apply {given : Option (Logged Table)} {w : World}
    (htable : tableOr zone given w = (.ok table, v)) :
    (take (.apply zone now given) w).2 = (apply (takeSteps take) zone table now v).2 := by
  have htake : take (.apply zone now given) w =
      ((apply (takeSteps take) zone table now v).1.map fun _ => .nothing,
        (apply (takeSteps take) zone table now v).2) :=
    (congrFun (congrFun take_eq _) w).trans
      ((bind_of_ok htable).trans (answered_apply _ .nothing v))
  rw [htake]

theorem take_apply_of_error {given : Option (Logged Table)} {w : World} {cause : Failure}
    (htable : tableOr zone given w = (.error cause, v)) :
    (take (.apply zone now given) w).2 = v := by
  have htake : take (.apply zone now given) w = (.error cause, v) :=
    (congrFun (congrFun take_eq _) w).trans (bind_of_error htable)
  rw [htake]

theorem take_execute_world (given : Option When) (w : World) :
    (take (.execute given) w).2 = (execute (takeSteps take) given w).2 :=
  congrArg Prod.snd (take_execute_apply given w)

/-- The notes of a run around its execution. -/
theorem take_tick_world (w : World) : ∃ events, (∀ e ∈ events, e.isIdle = true) ∧
    (take .tick w).2 =
      (take (.execute none) (refresh (w.record [.noted .checking])).2).2.record events := by
  rw [take_tick, tick_apply, take_execute_world]
  refine ⟨_, ?_, rfl⟩
  intro e he
  rcases List.mem_append.1 he with he | he
  · unfold failureNotes at he
    split at he
    · exact absurd he List.not_mem_nil
    · rw [List.mem_singleton.1 he]
      rfl
  · rw [List.mem_singleton.1 he]
    rfl

theorem visit_apply (now : When) {entry : Zone × Copy} {w : World}
    (hlive : w.scheduler.isLive entry.1 entry.2 = true) :
    ∃ events, (∀ e ∈ events, e.isIdle = true) ∧
      (visit (takeSteps take) now entry w).2 =
        (apply (takeSteps take) entry.1 entry.2.table now w).2.record events := by
  unfold visit
  rw [world_bind, if_pos hlive, bind_of_ok (attempt_apply _ _)]
  rcases apply (takeSteps take) entry.1 entry.2.table now w with ⟨cause | _, w'⟩
  · refine ⟨[.noted (.pushFailed entry.1 cause)], ?_, rfl⟩
    intro e he
    rw [List.mem_singleton.1 he]
    rfl
  · exact ⟨[], fun e he => absurd he List.not_mem_nil, (World.record_nil w').symm⟩

theorem takeSteps_append (first second : List Step) (w : World) :
    takeSteps take zone (first ++ second) w =
      takeSteps take zone second (takeSteps take zone first w).2 := by
  induction first generalizing w with
  | nil => rfl
  | cons step rest ih => rw [List.cons_append, takeSteps_cons, takeSteps_cons, ih]

/-! ### A place lies within its step -/

theorem Begins.within {step : Step} {w : World} (h : Begins step w zone table now v) :
    Moves (Scheduler.apply (takeSteps take) zone table now v).2 (take step w).2 := by
  induction h with
  | apply htable =>
    rw [take_apply htable]
  | @execute given now visited rest entry w v hnow hsnapshot hvisited hlive =>
    obtain ⟨events, hidle, hvisit⟩ := visit_apply now hlive
    rw [take_execute_world, execute_of_moment hnow, hsnapshot, visitAll_append, hvisited,
      visitAll_cons, hvisit]
    exact (record_moves hidle _).trans (visitAll_moves now rest _)
  | @tick _ _ _ w _ _ ih =>
    obtain ⟨events, hidle, htick⟩ := take_tick_world w
    rw [htick]
    exact ih.trans (record_moves hidle _)

/-- **What a place comes from is a part of the step, and so is what comes of it.** -/
theorem Occurs.within {step : Step} {w : World} (h : Occurs step w zone table now v) :
    Moves w v ∧ Moves (apply (takeSteps take) zone table now v).2 (take step w).2 := by
  induction h with
  | begins h => exact ⟨h.moves, h.within⟩
  | @hooked step next w u u' v told zone given table moment now done rest hbegins htelling htimes
      hhook h ih =>
    refine ⟨?_, ?_⟩
    · exact hbegins.moves.trans
        (htelling.moves.trans ((takeSteps_take_moving told done u').trans ih.1))
    · refine .trans ?_ hbegins.within
      obtain ⟨period, status, hhas, hforce, hnew, hasked⟩ := htelling.exists_asked
      obtain ⟨u₁, -, -, hact, hend⟩ := apply_told hhas hforce hnew
      -- What is left of the telling: the other steps of the zone that is told, and its end.
      have hrest : Moves (take next (takeSteps take told done u').2).2 u₁ := by
        rw [hact htimes, hhook, takeSteps_append, takeSteps_cons, ← hasked]
        exact .head (.idle _ _ rfl) (takeSteps_take_moving told rest _)
      refine ih.2.trans (hrest.trans ?_)
      rcases hend with ⟨-, happly⟩ | ⟨cause, -, happly⟩
      · rw [happly]
        exact .single (.adopt u₁ told _ _)
      · rw [happly]
        exact .single (.idle u₁ _ rfl)

end ZonePlan.Scheduler
