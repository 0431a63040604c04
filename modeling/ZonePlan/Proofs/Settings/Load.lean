/-
The log level of settings.

Settings are read field by field, and the value of a field is what the first source gives for it.  So
one value that the caller gives decides about one field and nothing else (`load_withLevel`).  Of the
level this is used twice: for the level that a caller gives, and for the level that settings have
kept, when it is given again.
-/
import ZonePlan.Proofs.Check.Tree
import ZonePlan.Proofs.Settings.LogLevel
import ZonePlan.Settings.Basic

namespace ZonePlan.Settings

open Check Checked

/-! ### The value of a field -/

/-- The settings of the sources have the values that the sources give. -/
theorem lookup_fields (s : Sources) {name : Text} (h : name ∈ known) :
    Json.Value.lookup s.fields name = s.value? name := by
  have hfields : ∀ field : Text × Json.Value, field ∈ s.fields ↔
      field.1 ∈ known ∧ s.value? field.1 = some field.2 := by
    intro field
    simp only [Sources.fields, List.mem_filterMap, Option.map_eq_some_iff]
    constructor
    · rintro ⟨other, hother, v, hv, rfl⟩
      exact ⟨hother, hv⟩
    · rintro ⟨hknown, hv⟩
      exact ⟨_, hknown, _, hv, rfl⟩
  unfold Json.Value.lookup
  cases hfind : s.fields.reverse.find? fun field => field.1 = name with
  | none =>
    rw [List.find?_eq_none] at hfind
    cases hvalue : s.value? name with
    | none => rfl
    | some v =>
      have hmem := List.mem_reverse.2 ((hfields (name, v)).2 ⟨h, hvalue⟩)
      exact absurd (decide_eq_true rfl) (hfind _ hmem)
  | some field =>
    have hmem := (hfields field).1 (List.mem_reverse.1 (List.mem_of_find?_eq_some hfind))
    have hname : field.1 = name := by simpa using List.find?_some hfind
    rw [Option.map_some, ← hmem.2, hname]

/-- Settings fit field by field. -/
theorem check_eq_fits {fields : Fields} {extras : Registry Text Json.Value} {settings : Settings} :
    check fields extras = .fits settings ↔
      optional "schedule_granularity_ms" 60000 (fun v => ofScalar (wholeAbove 0 v)) fields =
          .fits settings.granularity ∧
        optional "startup_delay_ms" 10000 (fun v => ofScalar (wholeFrom 0 v)) fields =
          .fits settings.startupDelay ∧
        optional "misfire_grace_time_s" 60 (fun v => ofScalar (wholeFrom 1 v)) fields =
          .fits settings.misfireGrace ∧
        optional "updater_timeout_s" (.ofInt 30)
            (fun v => ofScalar (positiveNumber .decoded v)) fields =
          .fits settings.updaterTimeout ∧
        optional "debug" false (fun v => ofScalar (truth v)) fields = .fits settings.debug ∧
        optional "log_level" LogLevel.default checkLevel fields = .fits settings.logLevel ∧
        settings.extras = extras := by
  simp only [check, seq_eq_fits, map_eq_fits]
  constructor
  · rintro ⟨_, logLevel, ⟨_, debug, ⟨_, updaterTimeout, ⟨_, misfireGrace, ⟨_, startupDelay,
      ⟨granularity, hgranularity, rfl⟩, hstartupDelay, rfl⟩, hmisfireGrace, rfl⟩,
      hupdaterTimeout, rfl⟩, hdebug, rfl⟩, hlogLevel, rfl⟩
    exact ⟨hgranularity, hstartupDelay, hmisfireGrace, hupdaterTimeout, hdebug, hlogLevel, rfl⟩
  · rintro ⟨hgranularity, hstartupDelay, hmisfireGrace, hupdaterTimeout, hdebug, hlogLevel, rfl⟩
    exact ⟨_, _, ⟨_, _, ⟨_, _, ⟨_, _, ⟨_, _, ⟨_, hgranularity, rfl⟩, hstartupDelay, rfl⟩,
      hmisfireGrace, rfl⟩, hupdaterTimeout, rfl⟩, hdebug, rfl⟩, hlogLevel, rfl⟩

/-- Sources give settings if the names that the caller gives consist of characters and every field
fits. -/
theorem load_eq_ok {s : Sources} {settings : Settings} :
    load s = .ok settings ↔
      s.given.any (·.1.isBroken) = false ∧ check s.fields s.extras = .fits settings := by
  simp only [load]
  constructor
  · intro h
    split at h
    · cases h
    · exact named_eq_fits.1 (orFail_eq_ok.1 h)
  · intro h
    have hwritable : unwritable? (check s.fields s.extras).faults = none := by
      rw [h.2]
      rfl
    simp only [hwritable]
    exact orFail_eq_ok.2 (named_eq_fits.2 h)

/-! ### A value that the caller gives -/

/-- The sources where the caller gives a value for the log level. -/
def Sources.withLevel (s : Sources) (v : Json.Value) : Sources :=
  { s with given := ("log_level", v) :: s.given.filter fun field => field.1.lower ≠ "log_level" }

section WithLevel

variable (s : Sources) (v : Json.Value)

theorem lower_log_level : (("log_level" : String) : Text).lower = "log_level" := by decide +kernel

theorem value?_withLevel_self : (s.withLevel v).value? "log_level" = some v := by
  simp [Sources.value?, Sources.given?, Sources.withLevel, lower_log_level]

/-- The other settings keep their values. -/
theorem value?_withLevel {name : Text} (h : name ≠ "log_level") :
    (s.withLevel v).value? name = s.value? name := by
  have hgiven : (s.withLevel v).given? name = s.given? name := by
    unfold Sources.given? Sources.withLevel
    rw [List.find?_cons_of_neg (by simpa [lower_log_level] using h.symm), List.find?_filter]
    congr 2
    funext field
    by_cases hname : field.1.lower = name
    · simp [hname, h]
    · simp [hname]
  unfold Sources.value?
  rw [hgiven]
  rfl

theorem optional_withLevel {α : Type} {name : String} (hknown : (name : Text) ∈ known)
    (hne : (name : Text) ≠ "log_level") (default : α) (check : Json.Value → Checked α) :
    Check.optional name default check (s.withLevel v).fields =
      Check.optional name default check s.fields := by
  unfold Check.optional
  rw [lookup_fields _ hknown, lookup_fields _ hknown, value?_withLevel s v hne]

theorem extras_withLevel : (s.withLevel v).extras = s.extras := by
  have hknown : Sources.isKnown "log_level" = true := by decide
  have hgiven : (s.withLevel v).given.filter (fun field => !Sources.isKnown field.1.lower) =
      s.given.filter (fun field => !Sources.isKnown field.1.lower) := by
    unfold Sources.withLevel
    rw [List.filter_cons_of_neg (by simp [lower_log_level, hknown]), List.filter_filter]
    refine List.filter_congr fun field _ => ?_
    by_cases hname : field.1.lower = "log_level"
    · simp [hname, hknown]
    · simp [hname]
  unfold Sources.extras
  rw [hgiven]
  rfl

theorem isBroken_withLevel (h : s.given.any (·.1.isBroken) = false) :
    (s.withLevel v).given.any (·.1.isBroken) = false := by
  have hname : (("log_level" : String) : Text).isBroken = false := by decide
  rw [List.any_eq_false] at h ⊢
  intro field hfield
  rcases List.mem_cons.1 hfield with rfl | hrest
  · simp [hname]
  · exact h field (List.mem_of_mem_filter hrest)

end WithLevel

/-- A value that names a level changes the level of settings and nothing else. -/
theorem load_withLevel {s : Sources} {v : Json.Value} {settings : Settings} {level : Text}
    (h : load s = .ok settings) (hlevel : checkLevel v = .fits level) :
    load (s.withLevel v) = .ok { settings with logLevel := level } := by
  obtain ⟨hnames, hcheck⟩ := load_eq_ok.1 h
  obtain ⟨hgranularity, hstartupDelay, hmisfireGrace, hupdaterTimeout, hdebug, -, hextras⟩ :=
    check_eq_fits.1 hcheck
  have hlookup : Json.Value.lookup (s.withLevel v).fields "log_level" = some v := by
    rw [lookup_fields _ (by decide), value?_withLevel_self]
  refine load_eq_ok.2 ⟨isBroken_withLevel s v hnames, check_eq_fits.2 ⟨?_, ?_, ?_, ?_, ?_, ?_, ?_⟩⟩
  · rw [optional_withLevel s v (by decide) (by decide)]
    exact hgranularity
  · rw [optional_withLevel s v (by decide) (by decide)]
    exact hstartupDelay
  · rw [optional_withLevel s v (by decide) (by decide)]
    exact hmisfireGrace
  · rw [optional_withLevel s v (by decide) (by decide)]
    exact hupdaterTimeout
  · rw [optional_withLevel s v (by decide) (by decide)]
    exact hdebug
  · exact optional_eq_fits.2 (.inl ⟨v, hlookup, hlevel⟩)
  · rw [extras_withLevel]
    exact hextras

/-! ### The level that is kept -/

/-- What a check keeps as the level was read from a text, or is the default, which is read as
itself. -/
theorem read?_of_checkLevel {v : Json.Value} {level : Text} (h : checkLevel v = .fits level) :
    LogLevel.read? level = some level := by
  unfold checkLevel at h
  split at h
  · split at h
    · rename_i hread
      cases h
      exact LogLevel.read?_of_read? hread
    · cases h
  · cases h
    decide +kernel

theorem read?_logLevel_of_load {s : Sources} {settings : Settings} (h : load s = .ok settings) :
    LogLevel.read? settings.logLevel = some settings.logLevel := by
  obtain ⟨-, -, -, -, -, -, hlevel, -⟩ := And.imp_right check_eq_fits.1 (load_eq_ok.1 h)
  exact of_optional (P := fun level => LogLevel.read? level = some level) (by decide +kernel)
    (fun _ _ => read?_of_checkLevel) hlevel

/-- **The level of settings has a number, and is read again as itself.**  Whatever was given as the
level, and whether or not records for debugging are asked for, the look-up of the level that is kept
finds one of six numbers.  Sources that give settings still do when the caller gives that level, and
nothing but the level of the settings can change; so the same sources give the same settings again. -/
theorem level_of_load {s : Sources} {settings : Settings} (h : load s = .ok settings) :
    (∃ n ∈ [0, 10, 20, 30, 40, 50], LogLevel.number? settings.logLevel = some n ∧
        settings.effectiveLevel = if settings.debug then 10 else n) ∧
      settings.effectiveLevel ∈ [0, 10, 20, 30, 40, 50] ∧
      load (s.withLevel (.text settings.logLevel)) = .ok settings ∧
      ∀ s' settings', load s' = .ok settings' →
        load (s'.withLevel (.text settings.logLevel)) =
          .ok { settings' with logLevel := settings.logLevel } := by
  have hread := read?_logLevel_of_load h
  have hcheck : checkLevel (.text settings.logLevel) = .fits settings.logLevel := by
    simp only [checkLevel, hread]
  obtain ⟨n, hn⟩ := Option.isSome_iff_exists.1 (LogLevel.number?_isSome_of_read? hread)
  have hmem := LogLevel.number?_mem hn
  have heffective : settings.effectiveLevel = if settings.debug then 10 else n := by
    rw [effectiveLevel, hn, Option.getD_some]
  refine ⟨⟨n, hmem, hn, heffective⟩, ?_, load_withLevel h hcheck, ?_⟩
  · rw [heffective]
    cases settings.debug with
    | true => simp
    | false => exact hmem
  · intro s' settings' h'
    exact load_withLevel h' hcheck

/-- A caller who names a level with blanks around it, capitals and a letter that is not ASCII. -/
def spelledOddly : Sources where
  given := [("log_level", .str "\u00a0WARN\u0131ng\t"), ("debug", .bool false)]
  environment := [("ZONESCHEDULER_LOG_LEVEL", "error")]
  file := none

/-- A caller who asks for debugging and names no level. -/
def debugging : Sources where
  given := [("debug", .bool true)]
  environment := []
  file := none

theorem level_of_spelledOddly :
    load spelledOddly = .ok { default with logLevel := "warn\u0131ng" } ∧
      effectiveLevel { default with logLevel := "warn\u0131ng" } = 30 ∧
      load (spelledOddly.withLevel (.str "warn\u0131ng")) =
        .ok { default with logLevel := "warn\u0131ng" } ∧
      load debugging = .ok { default with debug := true } ∧
      load (debugging.withLevel (.str "warn\u0131ng")) =
        .ok { { default with debug := true } with logLevel := "warn\u0131ng" } := by
  have hload : load spelledOddly = .ok { default with logLevel := "warn\u0131ng" } := by
    refine load_eq_ok.2 ⟨by decide +kernel, check_eq_fits.2 ⟨rfl, rfl, rfl, ?_, rfl, rfl, rfl⟩⟩
    refine optional_eq_fits.2 (.inr ⟨rfl, ?_⟩)
    simp only [default]
  have hdebug : load debugging = .ok { default with debug := true } := by
    refine load_eq_ok.2 ⟨by decide +kernel, check_eq_fits.2 ⟨rfl, rfl, rfl, ?_, rfl, rfl, rfl⟩⟩
    refine optional_eq_fits.2 (.inr ⟨rfl, ?_⟩)
    simp only [default]
  obtain ⟨-, -, hagain, hother⟩ := level_of_load hload
  exact ⟨hload, by decide +kernel, hagain, hdebug, hother debugging _ hdebug⟩

end ZonePlan.Settings
