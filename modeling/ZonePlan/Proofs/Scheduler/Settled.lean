/-
What settles for a zone what period it is in.

An event of a trace that does so comes of a table's being applied to the zone, and of nothing else
(`take_arises`).  Where a trace says that no period was in force for a zone, it was scheduled and
a table was applied to it in which none matched; and where it says that the zone has adopted a
status, the table had that status for the period that matched.  So what a scheduler remembers, which
its trace tells (`Remembers`), is told by the tables that were applied and by the schedules that
were installed.

The induction is over the budget of a world, as steps lead to steps: a zone that takes its steps
gives up one of its times before the first of them (`budget_hooked`).
-/
import ZonePlan.Proofs.Scheduler.Installed
import ZonePlan.Proofs.Scheduler.Occurs

namespace ZonePlan

/-- Whether an event settles for a zone what period it is in, if any. -/
def Event.settles : Event → Bool
  | .adopted _ _ _ | .noted (.noActivePeriod _) => true
  | _ => false

theorem Event.settles_idle {e : Event} (h : e.isIdle = true) : e.settles = false := by
  rcases e with n | _ | _ | _ | _
  · cases n with
    | noActivePeriod zone => simp [Event.isIdle] at h
    | _ => rfl
  · rfl
  · simp [Event.isIdle] at h
  all_goals rfl

namespace Scheduler

open Act

/-! ### What settles something -/

/-- From one world to a later one, each event that settles something for a zone is as it is said to
be.  What is said of an event is said by all that has happened before it. -/
def Arising (A : List Event → Event → Prop) (w w' : World) : Prop :=
  ∃ events, w'.trace = w.trace ++ events ∧ ∀ before e after, events = before ++ e :: after →
    e.settles = true → A (w.trace ++ before) e

namespace Arising

variable {A B : List Event → Event → Prop} {u v w : World}

/-- Where nothing is settled there is nothing to say. -/
theorem of_events {events : List Event} (htrace : w.trace = v.trace ++ events)
    (h : ∀ e ∈ events, e.settles = false) : Arising A v w := by
  refine ⟨events, htrace, ?_⟩
  rintro before e after rfl hsettles
  rw [h e (by simp)] at hsettles
  exact absurd hsettles Bool.false_ne_true

theorem refl (w : World) : Arising A w w :=
  of_events (List.append_nil _).symm fun _ he => absurd he List.not_mem_nil

theorem of_idle {events : List Event} (h : ∀ e ∈ events, e.isIdle = true) (w : World) :
    Arising A w (w.record events) := of_events rfl fun e he => Event.settles_idle (h e he)

theorem record (w : World) {e : Event} (h : A w.trace e) : Arising A w (w.record [e]) := by
  refine ⟨[e], rfl, ?_⟩
  intro before e' after hsplit _
  rcases before with _ | ⟨first, rest⟩
  · obtain ⟨rfl, -⟩ := List.cons.inj hsplit
    rwa [List.append_nil]
  · simp at hsplit

theorem trans (h : Arising A u v) (h' : Arising A v w) : Arising A u w := by
  obtain ⟨first, hfirst, hbefore⟩ := h
  obtain ⟨second, hsecond, hafter⟩ := h'
  refine ⟨first ++ second, by rw [hsecond, hfirst, List.append_assoc], ?_⟩
  intro before e after hsplit hsettles
  -- The event is one of the first part or one of the second.
  rcases List.append_eq_append_iff.1 hsplit with ⟨more, rfl, hmore⟩ | ⟨more, rfl, hmore⟩
  · have hlate := hafter more e after hmore hsettles
    rwa [hfirst, List.append_assoc] at hlate
  · rcases more with _ | ⟨e', rest⟩
    · have hlate := hafter [] e after hmore.symm hsettles
      rwa [hfirst, List.append_nil, List.append_nil] at hlate
    · obtain ⟨rfl, -⟩ := List.cons.inj hmore
      exact hbefore before e rest rfl hsettles

theorem mono (hmono : ∀ past e, A past e → B past e) (h : Arising A v w) : Arising B v w := by
  obtain ⟨events, htrace, hevents⟩ := h
  exact ⟨events, htrace, fun before e after hsplit hsettles =>
    hmono _ _ (hevents before e after hsplit hsettles)⟩

end Arising

theorem arising_zoneless (A : List Event → Event → Prop) :
    Zoneless (fun _ => True) (Arising A) where
  refl := .refl
  trans := .trans
  keeps h _ := h
  note w n h := .of_idle (by simpa using h) w
  outside w s _ _ := .of_events (List.append_nil _).symm (by simp)
  control w running lastCall hasWorker := .of_events (List.append_nil _).symm (by simp)
  install w schedule := by
    refine .of_events rfl ?_
    intro e he
    rcases List.mem_append.1 he with he | he
    · split at he
      · exact absurd he List.not_mem_nil
      · rw [List.mem_singleton.1 he]
        rfl
    · rw [List.mem_singleton.1 he]
      rfl

/-! ### How it arises -/

/-- How an event comes of a table being applied, while a step is taken in a world; `past` is all
that has happened before the event. -/
inductive Arises (step : Step) (w : World) (past : List Event) : Event → Prop
  /-- The zone was scheduled, and no period of the table matched. -/
  | vacant {zone : Zone} {table : Table} {now : When} {v : World}
      (hoccurs : Occurs step w zone table now v) (hhas : v.scheduler.schedule.has zone = true)
      (hforce : table.inForceAt v.surroundings.ahead now = .ok none)
      (hpast : past = (searched table now v).trace) :
      Arises step w past (.noted (.noActivePeriod zone))
  /-- The zone was scheduled, it was told the status of the period that matched, and the telling
  has ended well. -/
  | adopted {zone : Zone} {table : Table} {now : When} {v u : World} {period : Period}
      {status : Status} (hoccurs : Occurs step w zone table now v)
      (hhas : v.scheduler.schedule.has zone = true)
      (hforce : table.inForceAt v.surroundings.ahead now = .ok (some (period, status)))
      (hnew : wasTold v zone status = false)
      (htold : tell (takeSteps take) zone period status (searched table now v) = (.ok (), u))
      (hpast : u.trace = past ++ [.adopted zone period status]) :
      Arises step w past (.adopted zone period status)

theorem Arises.mono {step step' : Step} {w w' : World} {past : List Event} {e : Event}
    (hoccurs : ∀ {zone table now v}, Occurs step w zone table now v →
      Occurs step' w' zone table now v) (h : Arises step w past e) : Arises step' w' past e := by
  cases h with
  | vacant h hhas hforce hpast => exact .vacant (hoccurs h) hhas hforce hpast
  | adopted h hhas hforce hnew htold hpast =>
    exact .adopted (hoccurs h) hhas hforce hnew htold hpast

variable {zone : Zone} {table : Table} {now : When} {v : World} {period : Period} {status : Status}

/-! ### What a zone's steps cost -/

theorem take_budget (step : Step) (w : World) :
    (take step w).2.budget ≤ w.budget + step.weight :=
  (performTo_succ w.budget step w (Nat.le_refl _)).2

theorem takeSteps_take_agree (bound : Nat) : Agree bound (takeSteps take) (takeSteps take) :=
  takeSteps_agree fun step w _ => ⟨rfl, take_budget step w⟩

theorem Begins.budget {step : Step} {w : World} (h : Begins step w zone table now v) :
    v.budget ≤ w.budget := by
  induction h with
  | @apply zone _ given table w v htable =>
    have htabled := (tableOr_follows (budget_course w.budget).zoneless zone given w
      (Nat.le_refl _)).2
    rwa [htable] at htabled
  | @execute _ now visited _ _ w v _ _ hvisited _ =>
    have happlies := (takeSteps_take_agree w.budget).reacts.applies (budget_course w.budget)
    have hvisits := (visitAll_follows (budget_course w.budget).zoneless happlies now visited w
      (Nat.le_refl _)).2
    rwa [hvisited] at hvisits
  | @tick _ _ _ w _ _ ih =>
    exact Nat.le_trans ih (refresh_follows (budget_course w.budget).zoneless
      (w.record [.noted .checking]) (Nat.le_refl w.budget)).2

theorem totalWeight_append (first second : List Step) :
    Step.totalWeight (first ++ second) = Step.totalWeight first + Step.totalWeight second := by
  induction first with
  | nil => exact (Nat.zero_add _).symm
  | cons step rest ih =>
    rw [List.cons_append, Step.totalWeight, Step.totalWeight, ih, Nat.add_assoc]

/-- Before each of the steps that a zone takes of its own the budget is lower than before the zone
was told anything. -/
theorem budget_hooked {w : World} (htimes : 0 < (w.conduct zone).times) {done rest : List Step}
    (hhook : (w.conduct zone).hook = done ++ rest) :
    (takeSteps take zone done (asked zone period status w)).2.budget < w.budget := by
  have hasked := budget_asked htimes period status
  rw [hhook, totalWeight_append] at hasked
  have hdone := ((takeSteps_take_agree w.budget) zone done (asked zone period status w)
    (by omega)).2
  omega

/-! ### What is settled comes of a place -/

theorem searched_arising {A : List Event → Event → Prop} (table : Table) (now : When) (w : World) :
    Arising A w (searched table now w) := by
  refine .of_idle ?_ w
  intro e he
  obtain ⟨n, rfl⟩ := Table.mem_searchEvents he
  rfl

/-- After a zone has adopted a status nothing more is settled. -/
theorem adopted_arising {A : List Event → Event → Prop} (zone : Zone) (period : Period)
    (status : Status) (w : World) :
    Arising A (w.record [.adopted zone period status]) (adopted zone period status w) := by
  rcases hhas : w.scheduler.schedule.has zone with _ | _
  · rw [adopted, if_neg (by simp [hhas])]
    exact .refl _
  · have hpushed : (adopted zone period status w).trace =
        (w.record [.adopted zone period status]).trace ++
          [.noted (.pushed zone status period)] := by
      simp [adopted, hhas]
    exact .of_events hpushed (by simp [Event.settles])

theorem refresh_arising {A : List Event → Event → Prop} (w : World) :
    Arising A w (refresh (w.record [.noted .checking])).2 :=
  (Arising.of_idle (by simp [Event.isIdle]) w).trans
    (refresh_follows (arising_zoneless A) (w.record [.noted .checking]) trivial).2

/-- A step that applies no table settles nothing. -/
theorem take_arising {A : List Event → Event → Prop} {step : Step}
    (hstep : step.appliesTables = false) (w : World) : Arising A w (take step w).2 := by
  rw [take_eq]
  rcases hconduct : step.changesConduct with _ | _
  · have hfollows : Follows (fun _ => True) (Arising A) (perform (takeSteps take) step)
        (perform (takeSteps take) step) := perform_zoneless (arising_zoneless A) hconduct hstep
    exact (hfollows w trivial).2
  · cases step with
    | setRefusal zone refusal => exact .of_events (List.append_nil _).symm (by simp)
    | setHook zone steps times => exact .of_events (List.append_nil _).symm (by simp)
    | _ => simp [Step.changesConduct] at hconduct

section Step

variable {step : Step} {w : World}

/-- What a zone settles that takes its steps comes of a place, if it does so in steps that are taken
on a lower budget. -/
theorem takeSteps_arises {told : Zone} {given : Table} {moment : When} {u u' : World}
    (hlower : ∀ next v, v.budget < w.budget → Arising (Arises next v) v (take next v).2)
    (hbegins : Begins step w told given moment u) (htelling : Telling told given moment u u')
    (htimes : 0 < (u.conduct told).times) (done rest : List Step)
    (hhook : (u.conduct told).hook = done ++ rest) :
    Arising (Arises step w) (takeSteps take told done u').2
      (takeSteps take told rest (takeSteps take told done u').2).2 := by
  induction rest generalizing done with
  | nil => exact .refl _
  | cons next rest ih =>
    have hbudget : (takeSteps take told done u').2.budget < w.budget := by
      obtain ⟨period, status, -, -, -, rfl⟩ := htelling.exists_asked
      exact Nat.lt_of_lt_of_le (budget_hooked (w := searched given moment u) htimes hhook)
        hbegins.budget
    have hnext := (hlower next _ hbudget).mono fun past e h =>
      h.mono fun hoccurs => .hooked hbegins htelling htimes hhook hoccurs
    have hrest := ih (done ++ [next]) (by rw [hhook, List.append_assoc]; rfl)
    rw [takeSteps_append] at hrest
    rw [takeSteps_cons]
    exact (hnext.trans (.of_idle (by simp [Event.isIdle]) _)).trans hrest

/-- What is settled when a table is applied comes of a place. -/
theorem apply_arises
    (hlower : ∀ next v, v.budget < w.budget → Arising (Arises next v) v (take next v).2)
    (hbegins : Begins step w zone table now v) :
    Arising (Arises step w) v (apply (takeSteps take) zone table now v).2 := by
  have hsearched : Arising (Arises step w) v (searched table now v) := searched_arising table now v
  rcases hhas : v.scheduler.schedule.has zone with _ | _
  · rw [apply_of_unscheduled _ _ _ hhas]
    exact .of_idle (by simp [Event.isIdle]) v
  · rcases hforce : table.inForceAt v.surroundings.ahead now with cause | _ | ⟨period, status⟩
    · rw [apply_of_scheduled _ _ _ hhas, hforce]
      exact .refl v
    · rw [apply_vacant hhas hforce]
      exact hsearched.trans (.record _ (.vacant (.begins hbegins) hhas hforce rfl))
    · rcases hnew : wasTold v zone status with _ | _
      · obtain ⟨u, -, hstill, hact, hend⟩ := apply_told hhas hforce hnew
        have htold : Arising (Arises step w) v u := by
          refine hsearched.trans ?_
          rcases Nat.eq_zero_or_pos (v.conduct zone).times with htimes | htimes
          · rw [hstill htimes]
            exact .of_idle (by simp [Event.isIdle]) _
          · have htelling : Telling zone table now v
                (asked zone period status (searched table now v)) := by
              rw [searched_found hforce]
              exact .intro hhas hforce hnew
            rw [hact htimes]
            exact (Arising.of_events rfl (by simp [Event.settles])).trans
              (takeSteps_arises hlower hbegins htelling htimes [] _ rfl)
        refine htold.trans ?_
        rcases hend with ⟨htell, happly⟩ | ⟨cause, -, happly⟩
        · have hadopted : Arises step w u.trace (.adopted zone period status) :=
            .adopted (.begins hbegins) hhas hforce hnew htell rfl
          refine (Arising.record u hadopted).trans ?_
          rw [happly]
          exact adopted_arising zone period status u
        · rw [happly]
          exact .of_idle (by simp [Event.isIdle]) u
      · rw [apply_same hhas hforce hnew]
        exact hsearched

theorem visitAll_arises {given : Option When}
    (hlower : ∀ next v, v.budget < w.budget → Arising (Arises next v) v (take next v).2)
    (hnow : momentOr given w = (.ok now, w)) (visited due later : List (Zone × Copy))
    (hsnapshot : w.scheduler.snapshot = visited ++ (due ++ later)) :
    Arising (Arises (.execute given) w) (visitAll (takeSteps take) now visited w).2
      (visitAll (takeSteps take) now due (visitAll (takeSteps take) now visited w).2).2 := by
  induction due generalizing visited with
  | nil => exact .refl _
  | cons entry due ih =>
    have hvisit : Arising (Arises (.execute given) w) (visitAll (takeSteps take) now visited w).2
        (visit (takeSteps take) now entry (visitAll (takeSteps take) now visited w).2).2 := by
      rcases hlive : (visitAll (takeSteps take) now visited w).2.scheduler.isLive entry.1 entry.2
        with _ | _
      · rw [visit_stale hlive]
        exact .of_idle (by simp [Event.isIdle]) _
      · obtain ⟨events, hidle, happly⟩ := visit_apply now hlive
        rw [happly]
        exact (apply_arises hlower (.execute hnow hsnapshot
          (Prod.ext (visitAll_ok visited w) rfl) hlive)).trans (.of_idle hidle _)
    have hrest := ih (visited ++ [entry]) (by rw [hsnapshot, List.append_assoc]; rfl)
    rw [visitAll_append, visitAll_cons] at hrest
    rw [visitAll_cons]
    exact hvisit.trans hrest

theorem execute_arises (given : Option When)
    (hlower : ∀ next v, v.budget < w.budget → Arising (Arises next v) v (take next v).2) :
    Arising (Arises (.execute given) w) w (take (.execute given) w).2 := by
  rw [take_execute_world]
  rcases hmoment : (momentOr given w).1 with cause | now
  · have hnow : momentOr given w = (.error cause, w) := Prod.ext hmoment (momentOr_apply given w)
    unfold execute
    rw [bind_of_error hnow]
    exact .refl w
  · have hnow : momentOr given w = (.ok now, w) := Prod.ext hmoment (momentOr_apply given w)
    rw [execute_of_moment hnow]
    exact visitAll_arises hlower hnow [] _ [] (List.append_nil _).symm

end Step

/-- **What a step settles for a zone comes of a table's being applied to it**, be it by the step
itself or by one that a zone takes of its own. -/
theorem take_arises (step : Step) (w : World) : Arising (Arises step w) w (take step w).2 := by
  induction w using (measure World.budget).wf.induction generalizing step with
  | h w hlower =>
    have hlower' : ∀ next v, v.budget < w.budget → Arising (Arises next v) v (take next v).2 :=
      fun next v hv => hlower v hv next
    cases step with
    | apply zone now given =>
      have htabled := (tableOr_follows (arising_zoneless (Arises (.apply zone now given) w)) zone
        given w trivial).2
      rcases htable : tableOr zone given w with ⟨cause | table, v⟩
      · rw [htable] at htabled
        rwa [take_apply_of_error htable]
      · rw [htable] at htabled
        rw [take_apply htable]
        exact htabled.trans (apply_arises hlower' (.apply htable))
    | execute given => exact execute_arises given hlower'
    | tick =>
      obtain ⟨events, hidle, htick⟩ := take_tick_world w
      have hbudget : (refresh (w.record [.noted .checking])).2.budget ≤ w.budget :=
        (refresh_follows (budget_course w.budget).zoneless (w.record [.noted .checking])
          (Nat.le_refl w.budget)).2
      have hexecuted := (execute_arises none fun next v hv =>
        hlower' next v (Nat.lt_of_lt_of_le hv hbudget)).mono fun _ _ h => h.mono Occurs.tick
      rw [htick]
      exact ((refresh_arising w).trans hexecuted).trans (.of_idle hidle _)
    | _ => exact take_arising rfl w

/-! ### In a run -/

theorem Begins.arises {step : Step} {w : World} (h : Begins step w zone table now v) :
    Arising (Arises step w) w v := by
  induction h with
  | @apply zone now given table w v htable =>
    have htabled := (tableOr_follows (arising_zoneless (Arises (.apply zone now given) w)) zone
      given w trivial).2
    rwa [htable] at htabled
  | @execute given now visited rest entry w v hnow hsnapshot hvisited _ =>
    have hvisits := visitAll_arises (fun next v _ => take_arises next v) hnow [] visited _ hsnapshot
    rwa [show visitAll (takeSteps take) now [] w = (.ok (), w) from rfl, hvisited] at hvisits
  | @tick _ _ _ w _ _ ih =>
    exact (refresh_arising w).trans (ih.mono fun _ _ h => h.mono Occurs.tick)

theorem Telling.arising {A : List Event → Event → Prop} {w w' : World}
    (h : Telling zone table now w w') : Arising A w w' := by
  obtain ⟨period, status, -, -, -, rfl⟩ := h.exists_asked
  exact (searched_arising table now w).trans (.of_events rfl (by simp [Event.settles]))

/-- On the way to the next world of a run what is settled comes of one step. -/
theorem Onward.arising {w w' : World} (h : Onward w w') :
    ∃ step, Arising (Arises step w) w w' := by
  cases h with
  | taken step => exact ⟨step, take_arises step w⟩
  | checking => exact ⟨.tick, .of_idle (by simp [Event.isIdle]) w⟩
  | refreshed => exact ⟨.tick, refresh_arising w⟩
  | met hmeets =>
    obtain ⟨hbegins, htelling⟩ := hmeets
    exact ⟨_, hbegins.arises.trans htelling.arising⟩
  | hooked zone step =>
    exact ⟨step, (take_arises step w).trans (.of_idle (by simp [Event.isIdle]) _)⟩

/-- An event arose in a run: in some world that it has come through a step was taken, and the event
comes of a table's being applied by it. -/
def Arose (w : World) (past : List Event) (e : Event) : Prop :=
  ∃ step v, Reachable v ∧ Runs v w ∧ Arises step v past e

theorem Arose.onward {w w' : World} (honward : Onward w w') {past : List Event} {e : Event}
    (h : Arose w past e) : Arose w' past e := by
  obtain ⟨step, v, hv, hruns, harises⟩ := h
  exact ⟨step, v, hv, hruns.tail honward, harises⟩

/-- The run may be said to start from any world in which a scheduler was made: nothing has happened
there. -/
theorem Reachable.arising {w : World} (h : Reachable w) (settings : Settings)
    (surroundings : Surroundings) :
    Arising (Arose w) (World.initial settings surroundings) w := by
  obtain ⟨settings, surroundings, schedule, hruns⟩ := reachable_iff_runs.1 h
  clear h
  induction hruns with
  | refl =>
    -- The run has another first world than the one asked for, but its trace is the same.
    exact (begin_follows (arising_zoneless _) schedule (World.initial settings surroundings)
      trivial).2
  | @tail w w' hruns honward ih =>
    have hw : Reachable w := reachable_iff_runs.2 ⟨settings, surroundings, schedule, hruns⟩
    obtain ⟨step, harising⟩ := honward.arising
    exact (ih.mono fun _ _ h => h.onward honward).trans
      (harising.mono fun _ _ h => ⟨step, w, hw, .single honward, h⟩)

/-- **What has settled something in a run arose in it.** -/
theorem Reachable.arose {w : World} (h : Reachable w) {before after : List Event} {e : Event}
    (hsplit : w.trace = before ++ e :: after) (hsettles : e.settles = true) : Arose w before e := by
  obtain ⟨events, htrace, hevents⟩ := h.arising .default w.surroundings
  exact hevents before e after (htrace.symm.trans hsplit) hsettles

/-- **In every world of a run, what a scheduler answers for the status and the period of a zone
is what the latest event that decides them has decided.**  So both are known for the same zones,
and all of these are scheduled.

Of these events, that no period was in force for a zone and that a zone has adopted a status are
found in the trace just where a table was applied to the zone while it was scheduled, by a step or
by one that a zone took of its own: no period of the table matched, or the zone was told the status
of the period that matched.  And wherever a table is applied to a scheduled zone, what is answered
afterwards goes by the period that matched, and what has happened there is found in the trace.  A
schedule that replaces the one before is found there as well, and nothing is answered afterwards for
a zone that it lacks. -/
theorem status_and_period_of_trace {w : World} (h : Reachable w) (zone : Zone) :
    take (.status zone) w =
        (.ok (.status ((decision zone w.trace.reverse).map (·.2))), w) ∧
      take (.period zone) w =
        (.ok (.period ((decision zone w.trace.reverse).map (·.1))), w) ∧
      w.scheduler.schedule = lastInstalled w.trace.reverse ∧
      w.scheduler.statuses.has zone = w.scheduler.periods.has zone ∧
      (w.scheduler.statuses.has zone = true → w.scheduler.schedule.has zone = true) ∧
      (∀ before after, w.trace = before ++ .noted (.noActivePeriod zone) :: after →
        Arose w before (.noted (.noActivePeriod zone))) ∧
      (∀ before after period status, w.trace = before ++ .adopted zone period status :: after →
        Arose w before (.adopted zone period status)) ∧
      (∀ table now v, v.scheduler.schedule.has zone = true →
        Leaves zone table now v (apply (takeSteps take) zone table now v).2) ∧
      (∀ step table now v, Occurs step w zone table now v →
        w.trace <+: v.trace ∧
          (apply (takeSteps take) zone table now v).2.trace <+: (take step w).2.trace) ∧
      ∀ schedule, ∃ w', replaceSchedule schedule w = (.ok (), w') ∧ Installs schedule w w' ∧
        (schedule.has zone = false → Answers w' zone none none) := by
  obtain ⟨hschedule, hmemory⟩ := h.remembers
  have hstatus : w.status? zone = (decision zone w.trace.reverse).map (·.2) :=
    congrArg Prod.fst (hmemory zone)
  have hperiod : w.period? zone = (decision zone w.trace.reverse).map (·.1) :=
    congrArg Prod.snd (hmemory zone)
  have hstatuses : w.scheduler.statuses.has zone = (decision zone w.trace.reverse).isSome := by
    rw [Registry.has_eq_isSome, ← World.status?, hstatus, Option.isSome_map]
  have hperiods : w.scheduler.periods.has zone = (decision zone w.trace.reverse).isSome := by
    rw [Registry.has_eq_isSome, ← World.period?, hperiod, Option.isSome_map]
  refine ⟨?_, ?_, hschedule, hstatuses.trans hperiods.symm, ?_, ?_, ?_, ?_, ?_, ?_⟩
  · rw [take_status, hstatus]
  · rw [take_period, hperiod]
  · intro hhas
    rw [hschedule]
    exact has_of_decision (hstatuses.symm.trans hhas)
  · intro before after hsplit
    exact h.arose hsplit rfl
  · intro before after period status hsplit
    exact h.arose hsplit rfl
  · intro table now v hhas
    exact apply_leaves table now hhas
  · intro step table now v hoccurs
    obtain ⟨hbefore, hafter⟩ := hoccurs.within
    exact ⟨(Since.of_moves hbefore).trace, (Since.of_moves hafter).trace⟩
  · intro schedule
    have hinstalls := h.remembers.installs (.refl w) schedule
    refine ⟨_, replaceSchedule_apply schedule w, hinstalls, ?_⟩
    intro hlacks
    exact answers_of_memory ((hinstalls.memory zone).trans (by simp [hlacks]))

/-- In the cottage the zone that installs a schedule while it is told a status still adopts it, and
it has none any more once a table without periods is applied to it. -/
theorem status_of_cottage :
    take (.status Cottage.den) (take (.apply Cottage.den Cottage.noon none) Cottage.made).2 =
        (.ok (.status (some Cottage.warm)),
          (take (.apply Cottage.den Cottage.noon none) Cottage.made).2) ∧
      Answers (take (.apply Cottage.den Cottage.noon (some (pure ∅)))
        (take (.apply Cottage.den Cottage.noon none) Cottage.made).2).2 Cottage.den none none := by
  obtain ⟨hstatus, -, -, -, -, -, -, hleaves, -, -⟩ := status_and_period_of_trace
    (.taken (.apply Cottage.den Cottage.noon none) Cottage.reachable_made) Cottage.den
  constructor
  · rw [hstatus]
    rfl
  · have hempty : tableOr Cottage.den (some (pure ∅))
        (take (.apply Cottage.den Cottage.noon none) Cottage.made).2 =
          (.ok ∅, (take (.apply Cottage.den Cottage.noon none) Cottage.made).2.record []) := rfl
    rw [take_apply hempty]
    exact (hleaves ∅ Cottage.noon _ rfl).2

end Scheduler
end ZonePlan
