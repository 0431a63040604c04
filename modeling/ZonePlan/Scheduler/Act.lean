/-
Acting on the world.

An act changes the world and gives a value or fails; the changes made before a failure
remain.  A failure ends the acts behind it unless it is caught by `attempt`.
-/
import ZonePlan.Scheduler.World

namespace ZonePlan

/-- The world once more has happened. -/
def World.record (w : World) (events : List Event) : World :=
  { w with trace := w.trace ++ events }

/-- Something done to the world. -/
def Act (α : Type) : Type := World → Except Failure α × World

@[simp] theorem World.record_scheduler (w : World) (events : List Event) :
    (w.record events).scheduler = w.scheduler := rfl

@[simp] theorem World.record_surroundings (w : World) (events : List Event) :
    (w.record events).surroundings = w.surroundings := rfl

@[simp] theorem World.record_trace (w : World) (events : List Event) :
    (w.record events).trace = w.trace ++ events := rfl

theorem World.record_record (w : World) (first second : List Event) :
    (w.record first).record second = w.record (first ++ second) := by
  simp only [World.record, List.append_assoc]

theorem World.record_nil (w : World) : w.record [] = w := by
  simp only [World.record, List.append_nil]

namespace Act

variable {α β : Type}

protected def bind (x : Act α) (f : α → Act β) : Act β := fun w =>
  match x w with
  | (.ok a, w') => f a w'
  | (.error e, w') => (.error e, w')

instance : Monad Act where
  pure a := fun w => (.ok a, w)
  bind := Act.bind

/-- The world as it is. -/
def world : Act World := fun w => (.ok w, w)

/-- Changes the world. -/
def change (f : World → World) : Act Unit := fun w => (.ok (), f w)

/-- Fails. -/
def fail (e : Failure) : Act α := fun w => (.error e, w)

/-- Does something and hands on its outcome, whatever it is. -/
def attempt (x : Act α) : Act (Except Failure α) := fun w =>
  let (outcome, w') := x w
  (.ok outcome, w')

/-- The value of an outcome, or its failure. -/
def ofExcept (outcome : Except Failure α) : Act α := fun w => (outcome, w)

/-! ### Common acts -/

/-- Adds to the trace. -/
def happen (e : Event) : Act Unit := change fun w => w.record [e]

/-- Takes a note. -/
def note (n : Note) : Act Unit := happen (.noted n)

/-- Does a piece of work and takes its notes. -/
def logged (x : Logged α) : Act α := do
  change fun w => w.record (x.notes.map fun n => .noted (.work n))
  ofExcept x.result

/-- Changes the scheduler alone. -/
def changeScheduler (f : Scheduler → Scheduler) : Act Unit :=
  change fun w => { w with scheduler := f w.scheduler }

/-- Changes what surrounds the scheduler alone. -/
def changeSurroundings (f : Surroundings → Surroundings) : Act Unit :=
  change fun w => { w with surroundings := f w.surroundings }

/-! ### What an act does to a world -/

@[simp] theorem pure_apply (a : α) (w : World) : (pure a : Act α) w = (.ok a, w) := rfl

theorem bind_apply (x : Act α) (f : α → Act β) (w : World) :
    (x >>= f) w = match x w with
      | (.ok a, w') => f a w'
      | (.error e, w') => (.error e, w') := rfl

@[simp] theorem world_apply (w : World) : world w = (.ok w, w) := rfl

@[simp] theorem change_apply (f : World → World) (w : World) : change f w = (.ok (), f w) := rfl

@[simp] theorem fail_apply (e : Failure) (w : World) : (fail e : Act α) w = (.error e, w) := rfl

@[simp] theorem attempt_apply (x : Act α) (w : World) : attempt x w = (.ok (x w).1, (x w).2) := rfl

@[simp] theorem ofExcept_apply (r : Except Failure α) (w : World) : ofExcept r w = (r, w) := rfl

theorem bind_of_ok {x : Act α} {f : α → Act β} {w w' : World} {a : α} (h : x w = (.ok a, w')) :
    (x >>= f) w = f a w' := by
  rw [bind_apply, h]

theorem bind_of_error {x : Act α} {f : α → Act β} {w w' : World} {e : Failure}
    (h : x w = (.error e, w')) : (x >>= f) w = (.error e, w') := by
  rw [bind_apply, h]

@[simp] theorem world_bind (f : World → Act β) (w : World) : (world >>= f) w = f w w := rfl

@[simp] theorem happen_apply (e : Event) (w : World) : happen e w = (.ok (), w.record [e]) := rfl

@[simp] theorem note_apply (n : Note) (w : World) : note n w = (.ok (), w.record [.noted n]) := rfl

@[simp] theorem logged_apply (x : Logged α) (w : World) :
    logged x w = (x.result, w.record (x.notes.map fun n => .noted (.work n))) := rfl

@[simp] theorem changeScheduler_apply (f : Scheduler → Scheduler) (w : World) :
    changeScheduler f w = (.ok (), { w with scheduler := f w.scheduler }) := rfl

@[simp] theorem changeSurroundings_apply (f : Surroundings → Surroundings) (w : World) :
    changeSurroundings f w = (.ok (), { w with surroundings := f w.surroundings }) := rfl

end Act
end ZonePlan
