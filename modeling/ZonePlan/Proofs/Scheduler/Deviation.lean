/-
Comparing a zone with its schedule.

What a comparison answers is made of the schedule in force and of what is given, and of nothing
else: `scheduled?` looks up what the schedule has for the zone, and `deviation_apply` says that the
comparison leaves only notes.  So it neither depends on what zones were told nor changes it.  It
answers that nothing differs just if nothing does, which rests on the difference of unequal
setpoints not being zero (`Double.sub_eqv_zero`).

An execution looks the schedule up in its own way.  That the two agree is seen from what an
execution leaves behind: a status that is remembered is equal to the one in force.
-/
import ZonePlan.Proofs.Number.Double
import ZonePlan.Proofs.Scheduler.Applied

namespace ZonePlan

/-! ### Deviations -/

namespace Status

/-- Equal statuses agree in their settings. -/
theorem agrees_of_eqv {s t : Status} (h : s.eqv t = true) :
    s.agrees (.finite t.setpoint) t.enabled t.voting = true := by
  simp only [eqv, Bool.and_eq_true] at h
  obtain ⟨⟨⟨hsetpoint, -⟩, henabled⟩, hvoting⟩ := h
  simp only [agrees, Double.eqv, Bool.and_eq_true]
  exact ⟨⟨hsetpoint, henabled⟩, hvoting⟩

theorem agrees_iff {s : Status} {setpoint : FiniteDouble} {enabled voting : Bool} :
    s.agrees (.finite setpoint) enabled voting = true ↔
      s.setpoint.eqv setpoint = true ∧ s.enabled = enabled ∧ s.voting = voting := by
  simp only [agrees, Double.eqv, Bool.and_eq_true, beq_iff_eq, and_assoc]

/-- A deviation is none just if the settings agree. -/
theorem isNone_deviation (s : Status) (setpoint : FiniteDouble) (enabled voting : Bool) :
    (s.deviation (.finite setpoint) enabled voting).isNone =
      s.agrees (.finite setpoint) enabled voting := by
  unfold deviation
  by_cases h : s.agrees (.finite setpoint) enabled voting = true
  · rw [if_pos h, h]
    rfl
  · rw [if_neg h, Bool.not_eq_true _ |>.mp h]
    simp only [Deviation.isNone, Double.sub_eqv_zero]
    rw [agrees_iff] at h
    by_cases hsetpoint : s.setpoint.eqv setpoint = true
    · by_cases henabled : s.enabled = enabled
      · have hvoting : s.voting ≠ voting := fun hvoting => h ⟨hsetpoint, henabled, hvoting⟩
        simp [hvoting]
      · simp [henabled]
    · simp [hsetpoint]

end Status

namespace Scheduler

open Act
open Calendar (Moment)

/-! ### Comparisons -/

/-- What a schedule has for a zone at a moment, if it has something. -/
def scheduled? (schedule : Schedule) (zone : Zone) (t : Moment) : Option (Period × Status) :=
  (schedule.get? zone).bind fun table => table.inForce t

theorem scheduled?_eq_some {schedule : Schedule} {zone : Zone} {t : Moment}
    {found : Period × Status} : scheduled? schedule zone t = some found ↔
      ∃ table, schedule.get? zone = some table ∧ table.inForce t = some found := by
  rw [scheduled?, Option.bind_eq_some_iff]

/-- How settings differ from what a schedule has, if it has something. -/
def deviationFrom (found : Option (Period × Status)) (setpoint : Double)
    (enabled voting : Bool) : Deviation :=
  match found with
  | none => .none
  | some (_, status) => status.deviation setpoint enabled voting

theorem compareWith_apply (zone : Zone) (status : Status) (setpoint : Double)
    (enabled voting : Bool) (w : World) :
    ∃ n, compareWith zone status setpoint enabled voting w =
      (.ok (status.deviation setpoint enabled voting), w.record [.noted n]) := by
  unfold compareWith
  by_cases h : status.agrees setpoint enabled voting = true
  · exact ⟨_, by rw [if_pos h]; rfl⟩
  · exact ⟨_, by rw [if_neg h]; rfl⟩

/-- A search of a table at a moment finds what is in force, and notes it. -/
theorem logged_noteInForce (table : Table) (t : Moment) (w : World) :
    logged (table.noteInForce w.surroundings.ahead (.moment t)) w =
      (.ok (table.inForce t),
        w.record [.noted (.work (.ofSearch (.moment t) ((table.inForce t).map (·.1))))]) := by
  rw [logged_apply, Table.result_noteInForce, Table.noteInForce_events, Table.searchEvents,
    Table.inForceAt_moment]

/-- A comparison always answers, and leaves nothing but notes. -/
theorem deviation_apply (zone : Zone) (setpoint : Double) (enabled voting : Bool) (t : Moment)
    (w : World) : ∃ notes : List Note,
      deviation zone setpoint enabled voting (some (.moment t)) w =
        (.ok (deviationFrom (scheduled? w.scheduler.schedule zone t) setpoint enabled voting),
          w.record (notes.map .noted)) := by
  have hmoment : momentOfComparison (some (.moment t)) w = (.ok (.moment t), w) := rfl
  unfold deviation scheduled?
  rw [bind_of_ok hmoment, world_bind]
  rcases w.scheduler.schedule.get? zone with _ | table
  · exact ⟨[.noTable zone], rfl⟩
  · simp only [Option.bind_some]
    rw [bind_of_ok (logged_noteInForce table t w)]
    rcases table.inForce t with _ | ⟨period, status⟩
    · refine ⟨[.work (.ofSearch (.moment t) none), .nothingInForce zone], Prod.ext rfl ?_⟩
      exact World.record_record w _ _
    · obtain ⟨n, hcompare⟩ := compareWith_apply zone status setpoint enabled voting
        (w.record [.noted (.work (.ofSearch (.moment t) (some period)))])
      refine ⟨[.work (.ofSearch (.moment t) (some period)), n], hcompare.trans ?_⟩
      exact Prod.ext rfl (World.record_record w _ _)

theorem take_deviation (zone : Zone) (setpoint : Double) (enabled voting : Bool) (t : Moment)
    (w : World) : ∃ notes : List Note,
      take (.deviation zone setpoint enabled voting (some (.moment t))) w =
        (.ok (.deviation
          (deviationFrom (scheduled? w.scheduler.schedule zone t) setpoint enabled voting)),
          w.record (notes.map .noted)) := by
  obtain ⟨notes, hdeviation⟩ := deviation_apply zone setpoint enabled voting t w
  refine ⟨notes, ?_⟩
  rw [take_eq]
  exact bind_of_ok hdeviation

/-- Nothing differs just if the schedule has nothing for the zone, or the settings agree with what
it has. -/
theorem isNone_deviationFrom (found : Option (Period × Status)) (setpoint : FiniteDouble)
    (enabled voting : Bool) :
    (deviationFrom found (.finite setpoint) enabled voting).isNone =
      found.all fun e => e.2.agrees (.finite setpoint) enabled voting := by
  rcases found with _ | ⟨period, status⟩
  · rfl
  · exact status.isNone_deviation setpoint enabled voting

/-- When nothing differs the answer is that nothing does, and else it is all that differs. -/
theorem deviationFrom_eq (found : Option (Period × Status)) (setpoint : FiniteDouble)
    (enabled voting : Bool) :
    deviationFrom found (.finite setpoint) enabled voting = .none ↔
      (deviationFrom found (.finite setpoint) enabled voting).isNone = true := by
  constructor
  · intro h
    rw [h]
    rfl
  · intro h
    rw [isNone_deviationFrom] at h
    rcases found with _ | ⟨period, status⟩
    · rfl
    · exact if_pos h

/-! ### After an execution -/

/-- A status that is remembered after an execution in which its zone did not refuse agrees with
what the schedule has for the zone. -/
theorem agrees_after_execution {w w' : World} (h : Reachable w) {t : Moment}
    (hexecute : (take (.execute (some (.moment t))) w).2 = w') (hkept : KeptAside w w')
    {zone : Zone} (hwilling : refusedSince w w' zone = false) {status : Status}
    (hstatus : w'.status? zone = some status) :
    ∃ period found, scheduled? w'.scheduler.schedule zone t = some (period, found) ∧
      found.agrees (.finite status.setpoint) status.enabled status.voting = true := by
  have hw' : Remembers w' := by
    subst hexecute
    exact (h.taken _).remembers
  obtain ⟨_, hdecided, -⟩ := hw'.decided hstatus
  have hhas : w'.scheduler.schedule.has zone = true := by
    rw [hw'.schedule]
    exact has_of_decision (Option.isSome_iff_exists.2 ⟨_, hdecided⟩)
  rw [Registry.has_eq_isSome] at hhas
  obtain ⟨table, htable⟩ := Option.isSome_iff_exists.1 hhas
  rcases hforce : table.inForce t with _ | ⟨period, found⟩
  · have hmemory := memory_after_execution hexecute hkept htable hwilling
    rw [hforce] at hmemory
    have hnone := hstatus.symm.trans (congrArg Prod.fst hmemory)
    cases hnone
  · obtain ⟨last, -, heqv, hmemory, -⟩ :=
      decision_after_execution h hexecute hkept htable hwilling hforce
    have hlast : status = last.2 :=
      Option.some.inj (hstatus.symm.trans (congrArg Prod.fst hmemory))
    rw [← hlast] at heqv
    exact ⟨period, found, scheduled?_eq_some.2 ⟨table, htable, hforce⟩,
      Status.agrees_of_eqv heqv⟩

/-! ### What is answered -/

/-- **What a comparison at a moment answers is a matter of the schedule in force.**  It answers that
nothing differs just if the zone has no table, no period of its table is in force, or the settings
agree with the status in force by value, where its dump priority is of no account; and otherwise it
answers with all that differs.  It changes nothing, and what zones were told makes no difference to
it.  After an execution at that moment, on which no zone acts on the scheduler and none refuses, it
answers of every status that is remembered that nothing differs. -/
theorem deviation_from_schedule {w : World} (h : Reachable w) (t : Moment) :
    (∀ (zone : Zone) (setpoint : FiniteDouble) (enabled voting : Bool),
      ∃ (deviation : Deviation) (notes : List Note),
        take (.deviation zone (.finite setpoint) enabled voting (some (.moment t))) w =
            (.ok (.deviation deviation), w.record (notes.map .noted)) ∧
          (deviation = .none ↔ w.scheduler.schedule.get? zone = none ∨
            ∃ table, w.scheduler.schedule.get? zone = some table ∧ (table.inForce t = none ∨
              ∃ period status, table.inForce t = some (period, status) ∧
                status.setpoint.eqv setpoint = true ∧ status.enabled = enabled ∧
                status.voting = voting)) ∧
          (deviation.isNone = true ↔ deviation = .none) ∧
          (∀ table period status, w.scheduler.schedule.get? zone = some table →
            table.inForce t = some (period, status) → deviation ≠ .none →
            deviation = ⟨(Double.finite status.setpoint).sub (.finite setpoint),
              status.enabled != enabled, status.voting != voting⟩) ∧
          ∀ v : World, v.scheduler.schedule = w.scheduler.schedule →
            (take (.deviation zone (.finite setpoint) enabled voting (some (.moment t))) v).1 =
              .ok (.deviation deviation)) ∧
    ∀ w', (take (.execute (some (.moment t))) w).2 = w' → KeptAside w w' →
      (∀ zone, refusedSince w w' zone = false) →
      ∀ zone status, (take (.status zone) w').1 = .ok (.status (some status)) →
        (take (.deviation zone (.finite status.setpoint) status.enabled status.voting
          (some (.moment t))) w').1 = .ok (.deviation .none) := by
  constructor
  · intro zone setpoint enabled voting
    obtain ⟨notes, htake⟩ := take_deviation zone (.finite setpoint) enabled voting t w
    refine ⟨_, notes, htake, ?_, (deviationFrom_eq _ _ _ _).symm, ?_, ?_⟩
    · rw [deviationFrom_eq, isNone_deviationFrom, scheduled?]
      rcases w.scheduler.schedule.get? zone with _ | table
      · simp
      · rcases hforce : table.inForce t with _ | ⟨period, status⟩
        · simp [hforce]
        · simp [hforce, Status.agrees_iff]
    · intro table period status htable hforce hdiffers
      rw [scheduled?_eq_some.2 ⟨table, htable, hforce⟩] at hdiffers ⊢
      have hnot : ¬status.agrees (.finite setpoint) enabled voting = true :=
        fun hagrees => hdiffers (if_pos hagrees)
      exact if_neg hnot
    · intro v hschedule
      obtain ⟨_, htake'⟩ := take_deviation zone (.finite setpoint) enabled voting t v
      rw [htake', hschedule]
  · intro w' hexecute hkept hwilling zone status hstatus
    rw [take_status] at hstatus
    have hremembered : w'.status? zone = some status := by simpa using hstatus
    obtain ⟨period, found, hfound, hagrees⟩ :=
      agrees_after_execution h hexecute hkept (hwilling zone) hremembered
    obtain ⟨_, htake⟩ :=
      take_deviation zone (.finite status.setpoint) status.enabled status.voting t w'
    rw [htake, hfound, deviationFrom, Status.deviation, if_pos hagrees]

/-- In the afternoon nothing differs when the den has the status that it was told in the forenoon,
and when it is not enabled just that differs. -/
theorem deviations_of_halved_cottage :
    (take (.deviation Cottage.den (.finite Cottage.warm.setpoint) true true
      (some (.moment Cottage.atOne))) Cottage.halvedOne).1 = .ok (.deviation .none) ∧
    (take (.deviation Cottage.den (.finite Cottage.warm.setpoint) false true
      (some (.moment Cottage.atOne))) Cottage.halvedTen).1 =
      .ok (.deviation ⟨.finite (.zero false), true, false⟩) := by
  obtain ⟨hanswers, hagrees⟩ :=
    deviation_from_schedule Cottage.reachable_halvedTen Cottage.atOne
  constructor
  · have hstatus : Cottage.halvedOne.status? Cottage.den = some Cottage.warm :=
      congrArg Prod.fst Cottage.memory_halvedOne
    refine hagrees Cottage.halvedOne rfl Cottage.keptAside_halvedOne Cottage.willing_halvedOne
      Cottage.den Cottage.warm ?_
    rw [take_status, hstatus]
  · have htable : Cottage.halvedTen.scheduler.schedule.get? Cottage.den =
        some Cottage.halves := by
      rw [Cottage.halvedTen_eq]
      rfl
    have hforce : Cottage.halves.inForce Cottage.atOne =
        some (Cottage.afternoon, Cottage.warm) := by decide
    obtain ⟨deviation, notes, htake, hnone, -, hdiffers, -⟩ :=
      hanswers Cottage.den Cottage.warm.setpoint false true
    have hne : deviation ≠ .none := by
      rw [Ne, hnone, htable]
      simp [hforce, Cottage.warm]
    rw [htake, hdiffers _ _ _ htable hforce hne]
    rfl

end Scheduler
end ZonePlan
