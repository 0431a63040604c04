/-
Names of log levels.

A level is named in any case, with blanks around it.  Two small letters that are not ASCII
have ASCII capitals, the i without a dot and the long s; they count as the letters that
their capitals belong to.
-/
import ZonePlan.Text.Blank
import ZonePlan.Text.Lower

namespace ZonePlan.LogLevel

/-- The names of levels and their numbers. -/
def names : List (Text × Nat) :=
  [("CRITICAL", 50), ("FATAL", 50), ("ERROR", 40), ("WARN", 30), ("WARNING", 30), ("INFO", 20),
    ("DEBUG", 10), ("NOTSET", 0)]

/-- The capital of a letter, where it is an ASCII letter. -/
def capital (code : Nat) : Nat :=
  if code = 'ı'.toNat then 'I'.toNat
  else if code = 'ſ'.toNat then 'S'.toNat
  else if 'a'.toNat ≤ code ∧ code ≤ 'z'.toNat then code - 0x20
  else code

/-- The number of a level that is named in small letters. -/
def number? (level : Text) : Option Nat := names.lookup ⟨level.codes.map capital⟩

/-- The name of a level as it is kept: without the blanks around it and in small letters. -/
def normalize (t : Text) : Text := t.strip.lower

/-- The level where none is given. -/
def default : Text := "info"

/-- The level that a text names; one without other characters than blanks names the
default. -/
def read? (t : Text) : Option Text :=
  if t.strip = "" then some default
  else if (number? (normalize t)).isSome then some (normalize t)
  else none

theorem number?_default : number? default = some 20 := by decide +kernel

/-- What is read is a level with a number. -/
theorem number?_isSome_of_read? {t level : Text} (h : read? t = some level) :
    (number? level).isSome := by
  unfold read? at h
  by_cases hblank : t.strip = ""
  · rw [if_pos hblank, Option.some_inj] at h
    rw [← h, number?_default]
    exact Option.isSome_some
  · rw [if_neg hblank] at h
    by_cases hsome : (number? (normalize t)).isSome
    · rw [if_pos hsome, Option.some_inj] at h
      exact h ▸ hsome
    · rw [if_neg hsome] at h
      exact absurd h (by simp)

end ZonePlan.LogLevel
