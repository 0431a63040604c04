/-
What reading a schedule file can fail with.

A file is read in four stages: its bytes, their characters, the value that these write, and the
schedule that the value describes.  A failure of the first is one of the updater.  A failure of the
last is one of the document, whatever the value (`kind_of_scheduleOf`): a checked document is valid,
and all that can be wrong with a valid one is one of its offences.

The two stages in between report most faults as ones of the document as well.  Three they hand on as
they are (`handedOn?`): bytes that are not UTF-8, a number of too many digits, and containers nested
too deep.  These are all that is ever reported as something else.  The same bytes given as a
document, and not as a file, never fail but by a fault of the document (`kind_of_scheduleOfBytes`).
-/
import ZonePlan.Document.File
import ZonePlan.Proofs.Document.Build
import ZonePlan.Proofs.Document.Check

namespace ZonePlan.Document

variable {resolve : String → Option Zone}

/-! ### Documents from outside -/

theorem kind_of_parse {v : Json.Value} {f : Failure} (h : parse v = .error f) :
    f.kind = .malformedDocument := by
  unfold parse at h
  obtain ⟨faults, -, rfl⟩ := Checked.orFail_eq_error.1 h
  rfl

theorem kind_of_parseBytes {bytes : List Nat} {f : Failure} (h : parseBytes bytes = .error f) :
    f.kind = .malformedDocument := by
  unfold parseBytes at h
  obtain ⟨faults, -, rfl⟩ := Checked.orFail_eq_error.1 h
  rfl

theorem kind_of_schedule {d : Document} (hvalid : d.IsValid) {f : Failure}
    (h : (schedule resolve d).result = .error f) : f.kind = .malformedDocument := by
  have hoffence := failure?_schedule hvalid resolve
  rw [Logged.failure?_of_error h] at hoffence
  exact kind_of_offence hoffence.symm

/-- Whatever a value holds, only the document can be at fault. -/
theorem kind_of_scheduleOf {v : Json.Value} {f : Failure}
    (h : (scheduleOf resolve v).result = .error f) : f.kind = .malformedDocument := by
  rw [scheduleOf, Logged.result_bind, Logged.result_ofExcept] at h
  rcases hparse : parse v with f' | d
  · rw [hparse] at h
    obtain rfl := Except.error.inj h
    exact kind_of_parse hparse
  · rw [hparse] at h
    exact kind_of_schedule (isValid_of_parse hparse) h

/-- Whatever bytes are given as a document, only the document can be at fault. -/
theorem kind_of_scheduleOfBytes {bytes : List Nat} {f : Failure}
    (h : (scheduleOfBytes resolve bytes).result = .error f) : f.kind = .malformedDocument := by
  rw [scheduleOfBytes, Logged.result_bind, Logged.result_ofExcept] at h
  rcases hparse : parseBytes bytes with f' | d
  · rw [hparse] at h
    obtain rfl := Except.error.inj h
    exact kind_of_parseBytes hparse
  · rw [hparse] at h
    exact kind_of_schedule (isValid_of_parseBytes hparse) h

/-! ### Files -/

/-- The failure as which a reader's cause to stop is handed on, if it is one of those. -/
def passedOn? : Json.Cause → Option Failure
  | .longNumber digits => some (.numberTooLong digits)
  | .nestedTooDeep container => some (.nestedTooDeep container)
  | _ => none

/-- The failure of reading a file that is handed on as it is. -/
def handedOn? : FileContent → Option Failure
  | .bytes bytes =>
    match Text.Utf8.decode bytes with
    | .error fault => some (.notUtf8 fault)
    | .ok chars =>
      match Json.read .lenient (Text.unifyLineEnds chars) with
      | .error fault => passedOn? fault.cause
      | .ok _ => none
  | _ => none

theorem result_load (resolve : String → Option Zone) (path : String) (content : FileContent) :
    (load resolve path content).result = (fileBytes path content).bind fun bytes =>
      (fileValue path bytes).bind fun v => (scheduleOf resolve v).result := by
  simp only [load, Logged.result_bind, Logged.result_ofExcept]
  refine congrArg _ (funext fun bytes => congrArg _ (funext fun v => ?_))
  cases (scheduleOf resolve v).result with
  | ok s => rfl
  | error f => rfl

/-- A file's value, with the failures of finding it. -/
theorem fileValue_eq (path : String) (bytes : List Nat) : fileValue path bytes =
    match Text.Utf8.decode bytes with
    | .error fault => .error (.notUtf8 fault)
    | .ok chars => (Json.read .lenient (Text.unifyLineEnds chars)).mapError fun fault =>
        (passedOn? fault.cause).getD (.notJson path (fault.locate (Text.unifyLineEnds chars))) := by
  unfold fileValue
  rcases Text.Utf8.decode bytes with fault | chars
  · rfl
  · simp only [Except.mapError, bind, Except.bind]
    rcases Json.read .lenient (Text.unifyLineEnds chars) with ⟨cause, offset⟩ | v
    · cases cause <;> rfl
    · rfl

theorem kind_of_passedOn {cause : Json.Cause} {f : Failure} (h : passedOn? cause = some f) :
    f.kind ≠ .updateFailed ∧ f.kind ≠ .malformedDocument := by
  unfold passedOn? at h
  split at h
  · obtain rfl := Option.some.inj h
    exact ⟨nofun, nofun⟩
  · obtain rfl := Option.some.inj h
    exact ⟨nofun, nofun⟩
  · cases h

/-- A failure that is handed on is neither one of the updater nor one of the document. -/
theorem kind_of_handedOn {content : FileContent} {f : Failure} (h : handedOn? content = some f) :
    f.kind ≠ .updateFailed ∧ f.kind ≠ .malformedDocument := by
  unfold handedOn? at h
  split at h
  · split at h
    · obtain rfl := Option.some.inj h
      exact ⟨nofun, nofun⟩
    · split at h
      · exact kind_of_passedOn h
      · cases h
  · cases h

theorem fileValue_of_handedOn {bytes : List Nat} {f : Failure}
    (h : handedOn? (.bytes bytes) = some f) (path : String) : fileValue path bytes = .error f := by
  unfold handedOn? at h
  rw [fileValue_eq]
  rcases hdecode : Text.Utf8.decode bytes with fault | chars
  · simp only [hdecode] at h ⊢
    rw [Option.some.inj h]
  · rcases hread : Json.read .lenient (Text.unifyLineEnds chars) with fault | v
    · simp only [hdecode, hread, Except.mapError] at h ⊢
      rw [h, Option.getD_some]
    · simp [hdecode, hread] at h

/-- A file that holds no value has a fault of the document, or one that is handed on. -/
theorem fault_of_fileValue {path : String} {bytes : List Nat} {f : Failure}
    (h : fileValue path bytes = .error f) :
    f.kind = .malformedDocument ∨ handedOn? (.bytes bytes) = some f := by
  rw [fileValue_eq] at h
  unfold handedOn?
  rcases hdecode : Text.Utf8.decode bytes with fault | chars
  · simp only [hdecode] at h ⊢
    exact .inr (congrArg some (Except.error.inj h))
  · rcases hread : Json.read .lenient (Text.unifyLineEnds chars) with fault | v
    · simp only [hdecode, hread, Except.mapError] at h ⊢
      rcases hpassed : passedOn? fault.cause with _ | f'
      · rw [hpassed, Option.getD_none] at h
        obtain rfl := Except.error.inj h
        exact .inl rfl
      · rw [hpassed, Option.getD_some] at h
        exact .inr (congrArg some (Except.error.inj h))
    · simp [hdecode, hread, Except.mapError] at h

/-- Where nothing is found that has bytes, the updater is at fault. -/
theorem load_of_no_bytes {content : FileContent} (h : content = .absent ∨ content = .directory)
    (resolve : String → Option Zone) (path : String) :
    ∃ f, (load resolve path content).result = .error f ∧ f.kind = .updateFailed := by
  rw [result_load]
  rcases h with rfl | rfl
  · exact ⟨_, rfl, rfl⟩
  · exact ⟨_, rfl, rfl⟩

theorem load_of_handedOn {content : FileContent} {f : Failure} (h : handedOn? content = some f)
    (resolve : String → Option Zone) (path : String) :
    (load resolve path content).result = .error f := by
  rw [result_load]
  cases content with
  | absent => cases h
  | directory => cases h
  | bytes bytes =>
    show ((fileValue path bytes).bind fun v => (scheduleOf resolve v).result) = .error f
    rw [fileValue_of_handedOn h]
    rfl

/-- What loading a file can fail with. -/
theorem fault_of_load {path : String} {content : FileContent} {f : Failure}
    (h : (load resolve path content).result = .error f) :
    f.kind = .updateFailed ∧ (content = .absent ∨ content = .directory) ∨
      f.kind = .malformedDocument ∨ handedOn? content = some f := by
  rw [result_load] at h
  cases content with
  | absent =>
    obtain rfl := Except.error.inj h
    exact .inl ⟨rfl, .inl rfl⟩
  | directory =>
    obtain rfl := Except.error.inj h
    exact .inl ⟨rfl, .inr rfl⟩
  | bytes bytes =>
    have hread : ((fileValue path bytes).bind fun v => (scheduleOf resolve v).result) = .error f :=
      h
    rcases hvalue : fileValue path bytes with f' | v
    · rw [hvalue] at hread
      obtain rfl := Except.error.inj hread
      exact .inr (fault_of_fileValue hvalue)
    · rw [hvalue] at hread
      exact .inr (.inl (kind_of_scheduleOf hread))

/-- **Loading a file fails by a fault of the updater just if nothing is found there that has bytes,
and by a fault that is neither one of the updater nor one of the document just if it is handed on.**
Whatever else a file holds, it gives a schedule or has a fault of the document. -/
theorem load_fails_with (resolve : String → Option Zone) (path : String) (content : FileContent) :
    ((∃ f, (load resolve path content).result = .error f ∧ f.kind = .updateFailed) ↔
      content = .absent ∨ content = .directory) ∧
    ∀ f, (load resolve path content).result = .error f ∧ f.kind ≠ .updateFailed ∧
      f.kind ≠ .malformedDocument ↔ handedOn? content = some f := by
  refine ⟨⟨?_, fun h => load_of_no_bytes h resolve path⟩, fun f => ⟨?_, fun h => ?_⟩⟩
  · rintro ⟨f, hf, hkind⟩
    rcases fault_of_load hf with ⟨-, hnone⟩ | hmalformed | hhanded
    · exact hnone
    · rw [hmalformed] at hkind
      cases hkind
    · exact absurd hkind (kind_of_handedOn hhanded).1
  · rintro ⟨hf, hupdater, hdocument⟩
    rcases fault_of_load hf with ⟨hkind, -⟩ | hmalformed | hhanded
    · exact absurd hkind hupdater
    · exact absurd hmalformed hdocument
    · exact hhanded
  · exact ⟨load_of_handedOn h resolve path, kind_of_handedOn h⟩

/-- A byte that starts no character makes loading a file fail by a fault that is neither one of the
updater nor one of the document. -/
theorem load_of_stray_byte : ¬∀ (resolve : String → Option Zone) (path : String)
    (content : FileContent), (∃ s, (load resolve path content).result = .ok s) ∨
      ∃ f, (load resolve path content).result = .error f ∧
        (f.kind = .updateFailed ∨ f.kind = .malformedDocument) := by
  intro hguarded
  have hload : (load (fun _ => none) "schedule.json" (.bytes [0xff])).result =
      .error (.notUtf8 ⟨.invalidStart, 0, 1, 0xff⟩) := rfl
  rcases hguarded (fun _ => none) "schedule.json" (.bytes [0xff]) with ⟨s, hs⟩ | ⟨f, hf, hkind⟩
  · rw [hload] at hs
    cases hs
  · rw [hload] at hf
    obtain rfl := Except.error.inj hf
    rcases hkind with hkind | hkind <;> cases hkind

end ZonePlan.Document
