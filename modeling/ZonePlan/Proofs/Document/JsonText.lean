/-
One document, as text and decoded.

A document may be given as JSON text, which is read in the strict dialect, or as a tree that was
decoded before, as that of a schedule file is, which is read in the lenient one.  Where each name of
an object is written once, both find the same document.  For what the strict dialect reads, the
lenient one reads alike (`parse_object_of_text`).  And a tree that is a document is plain and hardly
nests, so that its text is read in the strict dialect as well, unless a number in it is too long
(`parse_text_of_object`).  That alone can tell them apart: the lenient dialect limits the digits of
whole numbers only, and takes a fraction or a number with an exponent however many it has.
-/
import ZonePlan.Proofs.Document.File
import ZonePlan.Proofs.Document.Form
import ZonePlan.Proofs.Json.Compact
import ZonePlan.Proofs.Json.LineEnds

namespace ZonePlan.Document

open Checked Json

variable {s : List Char} {fields : List (Text × Value)} {d : Document}

/-! ### The two branches -/

theorem checkText_eq_fits_iff :
    checkText s = .fits d ↔ ∃ v, read .strict s = .ok v ∧ check .text v = .fits d := by
  unfold checkText
  cases read .strict s <;> simp [notJson]

theorem parse_text_eq_ok_iff : parse (.text (.ofChars s)) = .ok d ↔ checkText s = .fits d := by
  simp [parse, orFail_eq_ok, Check.characters, Text.chars?_ofChars]

theorem parse_object_eq_ok_iff :
    parse (.object fields) = .ok d ↔ check .decoded (.object fields) = .fits d := by
  simp only [parse, orFail_eq_ok]

theorem parseBytes_of_decode {bytes : List Nat} (h : Text.Utf8.decode bytes = .ok s) :
    parseBytes bytes = parse (.text (.ofChars s)) := by
  simp [parseBytes, parse, h, Check.characters, Text.chars?_ofChars, ofScalar, andThen]

/-! ### Text and tree -/

/-- A document that is found in the tree is read from text that has no number too long. -/
theorem parse_text_of_object (hshort : Denotes id .short s (.object fields))
    (hnames : (Value.object fields).NamesOnce) (h : parse (.object fields) = .ok d) :
    parse (.text (.ofChars s)) = .ok d := by
  have hfits := parse_object_eq_ok_iff.1 h
  have hplain := plain_of_check hfits hnames
  have hstrict : Denotes id .strict s (.object fields) :=
    hshort.of_plain hplain (by decide) fun _ => rfl
  have hread := read_eq_ok_iff.2 (hstrict.of_namesOnce hnames)
  rw [parse_text_eq_ok_iff, checkText_eq_fits_iff]
  exact ⟨_, hread, check_text_eq_fits_iff.2 hfits⟩

section

variable (hs : Denotes id .lenient s (.object fields)) (hnames : (Value.object fields).NamesOnce)

include hs hnames

theorem read_lenient : read .lenient s = .ok (.object fields) :=
  read_eq_ok_iff.2 (hs.of_namesOnce hnames)

/-- A document that is read from text is found in the tree. -/
theorem parse_object_of_text (h : parse (.text (.ofChars s)) = .ok d) :
    parse (.object fields) = .ok d := by
  obtain ⟨v, hread, hfits⟩ := checkText_eq_fits_iff.1 (parse_text_eq_ok_iff.1 h)
  -- The lenient dialect reads the same value, and there it can only be the object.
  have hlenient := read_eq_ok_iff.2 ((read_eq_ok_iff.1 hread).of_below .strict_lenient)
  rw [read_lenient hs hnames] at hlenient
  obtain rfl := Except.ok.inj hlenient
  exact parse_object_eq_ok_iff.2 (check_text_eq_fits_iff.1 hfits)

/-! ### Files -/

/-- A file of the text holds the tree, however its lines end. -/
theorem fileValue_of_denotes (path : String) {bytes : List Nat}
    (hbytes : Text.Utf8.decode bytes = .ok s) : fileValue path bytes = .ok (.object fields) := by
  rw [fileValue_eq, hbytes]
  simp only [read_lenient hs.unifyLineEnds hnames, Except.mapError]

/-- What a file of the text gives is what the tree gives. -/
theorem load_of_denotes (resolve : String → Option Zone) (path : String) {bytes : List Nat}
    (hbytes : Text.Utf8.decode bytes = .ok s) : (load resolve path (.bytes bytes)).result =
      (scheduleOf resolve (.object fields)).result := by
  rw [result_load]
  show ((fileValue path bytes).bind fun v => (scheduleOf resolve v).result) = _
  rw [fileValue_of_denotes hs hnames path hbytes]
  rfl

end

theorem scheduleOf_eq_ok_iff {resolve : String → Option Zone} {v : Value} {built : Schedule} :
    (scheduleOf resolve v).result = .ok built ↔
      ∃ d, parse v = .ok d ∧ (schedule resolve d).result = .ok built := by
  rw [scheduleOf, Logged.result_bind, Logged.result_ofExcept]
  cases parse v <;> simp [Except.bind]

/-! ### A document with one setpoint -/

/-- What follows the setpoint in the text of a document with one entry. -/
def entryEnd : List Char := ['\x7d', '\x7d', ']', '\x7d', ']', '\x7d']

/-- The text of a document with one entry, whose setpoint is written as given. -/
def entryText (setpoint : List Char) : List Char :=
  '\x7b' :: quoted "zones" (':' :: '[' ::
    '\x7b' :: quoted "zone" (':' :: quoted "north" (',' :: quoted "entries" (':' :: '[' ::
      '\x7b' :: quoted "period" (':' ::
        '\x7b' :: quoted "name" (':' :: quoted "work" (',' :: quoted "start" (':' ::
          quoted "08:00" (',' :: quoted "end" (':' :: quoted "17:00" ('\x7d' :: ',' ::
      quoted "status" (':' ::
        '\x7b' :: quoted "setpoint" (':' :: (setpoint ++ entryEnd))))))))))))))

/-- The fields of the document with one entry. -/
def entryFields (setpoint : Double) : List (Text × Value) :=
  [("zones", .array [.object [("zone", .str "north"), ("entries", .array [.object [
    ("period", .object [("name", .str "work"), ("start", .str "08:00"), ("end", .str "17:00")]),
    ("status", .object [("setpoint", .float setpoint)])]])]])]

theorem namesOnce_entryFields (x : Double) : (Value.object (entryFields x)).NamesOnce := by
  have hperiod : (Value.object [("name", .str "work"), ("start", .str "08:00"),
      ("end", .str "17:00")]).NamesOnce :=
    .object (by decide) (by simp [Value.str, Value.NamesOnce.text])
  have hstatus : (Value.object [("setpoint", .float x)]).NamesOnce :=
    .object (List.nodup_singleton _) (by simp [Value.NamesOnce.float])
  have hnames : (["period", "status"] : List Text).Nodup ∧
      (["zone", "entries"] : List Text).Nodup := by decide
  refine .object (List.nodup_singleton _) (List.forall_mem_singleton.2 (.array ?_))
  refine List.forall_mem_singleton.2 (.object hnames.2 ?_)
  refine List.forall_mem_cons.2 ⟨.text, List.forall_mem_singleton.2 (.array ?_)⟩
  refine List.forall_mem_singleton.2 (.object hnames.1 ?_)
  exact List.forall_mem_cons.2 ⟨hperiod, List.forall_mem_singleton.2 hstatus⟩

/-- The text of the document with one entry denotes its fields, in every dialect that reads the
number. -/
theorem denotes_entryText {first : Char} {digits : List Char} {x : Double}
    {dialect : Dialect} (hdepth : 6 ≤ dialect.depth) (hfirst : isGap first = false ∧ isOpening first = false)
    (hnumber : readLeaf dialect (first :: digits ++ entryEnd) = .ok (.float x, entryEnd)) :
    Denotes id dialect (entryText (first :: digits)) (.object (entryFields x)) := by
  have hgap : skipGap (first :: digits ++ entryEnd) = first :: digits ++ entryEnd := by
    simp [skipGap, hfirst.1]
  have hsetpoint : ∀ {dialect' : Dialect},
      dialect'.limitsFractions = dialect.limitsFractions → 0 < dialect'.depth →
      Writes id dialect' ('\x7b' :: quoted "setpoint" (':' :: (first :: digits ++ entryEnd)))
        (.value (.object [("setpoint", .float x)])) ['\x7d', ']', '\x7d', ']', '\x7d'] := by
    intro dialect' hlimits hpos
    refine writes_object hpos (writes_lastField rfl hgap (.leaf ?_ ?_))
    · simp [hfirst.2]
    · exact readLeaf_of_limits hnumber hlimits.le
  have hperiod : ∀ {dialect' : Dialect} {left : List Char}, 0 < dialect'.depth →
      Writes id dialect' ('\x7b' :: quoted "name" (':' :: quoted "work" (',' ::
        quoted "start" (':' :: quoted "08:00" (',' ::
          quoted "end" (':' :: quoted "17:00" ('\x7d' :: left)))))))
        (.value (.object [("name", .str "work"), ("start", .str "08:00"), ("end", .str "17:00")]))
        left := by
    intro dialect' left hpos
    refine writes_object hpos (writes_moreFields rfl rfl (writes_quoted rfl _) ?_)
    refine writes_moreFields rfl rfl (writes_quoted rfl _) ?_
    exact writes_lastField rfl rfl (writes_quoted rfl _)
  have hpos : ∀ n, n < 6 → 0 < dialect.depth - n := fun n hn => by omega
  refine ⟨nofun, [], ?_, rfl⟩
  refine writes_object (hpos 0 (by decide)) (writes_lastField rfl rfl ?_)
  refine writes_array (hpos 1 (by decide)) (writes_object (hpos 2 (by decide)) ?_)
  refine writes_moreFields rfl rfl (writes_quoted rfl _) (writes_lastField rfl rfl ?_)
  refine writes_array (hpos 3 (by decide)) (writes_object (hpos 4 (by decide)) ?_)
  refine writes_moreFields rfl rfl (hperiod (hpos 5 (by decide))) (writes_lastField rfl rfl ?_)
  exact hsetpoint rfl (hpos 5 (by decide))

/-! ### A setpoint of 70 -/

theorem exists_of_isOk {ε α : Type} {x : Except ε α} (h : x.isOk = true) : ∃ a, x = .ok a := by
  cases x with
  | ok a => exact ⟨a, rfl⟩
  | error e => cases h

theorem exists_parse_entryFields :
    ∃ d, parse (.object (entryFields (.ofDecimal false 7 1))) = .ok d :=
  exists_of_isOk (by decide +kernel)

/-- Finds a zone by every name. -/
def anyZone (name : String) : Option Zone := some (.named name none)

theorem exists_scheduleOf_entryFields : ∃ built,
    (scheduleOf anyZone (.object (entryFields (.ofDecimal false 7 1)))).result = .ok built :=
  exists_of_isOk (by decide +kernel)

/-- A setpoint of 70, with one digit before its exponent. -/
def shortSetpoint : List Char := ['7', 'e', '1']

theorem denotes_shortSetpoint {dialect : Dialect} (hdepth : 6 ≤ dialect.depth) :
    Denotes id dialect (entryText shortSetpoint) (.object (entryFields (.ofDecimal false 7 1))) := by
  have hnumeral : numeral (shortSetpoint ++ entryEnd) =
      (⟨false, ['7'], none, some 1⟩, entryEnd) := by decide
  have hvalue : digitsValue ['7'] = 7 := by decide
  have hread : readLeaf dialect (shortSetpoint ++ entryEnd) = .ok (.float _, entryEnd) :=
    readLeaf_of_exponent rfl hnumeral nofun fun _ => by decide
  rw [hvalue] at hread
  exact denotes_entryText hdepth (by decide) hread

theorem decode_shortSetpoint : Text.Utf8.decode ((entryText shortSetpoint).map Char.toNat) =
    .ok (entryText shortSetpoint) := by
  decide +kernel

/-- A setpoint of 70, with more digits before its exponent than whole numbers may have. -/
def longSetpoint : List Char := '7' :: (List.replicate 5000 '0' ++ "e-4999".toList)

set_option maxRecDepth 100000 in
theorem numeral_longSetpoint : numeral (longSetpoint ++ entryEnd) =
    (⟨false, '7' :: List.replicate 5000 '0', none, some (-4999)⟩, entryEnd) := by
  decide +kernel

theorem denotes_longSetpoint : Denotes id .lenient (entryText longSetpoint)
    (.object (entryFields (.ofDecimal false 7 1))) := by
  have hvalue : Double.ofDecimal false (digitsValue ('7' :: List.replicate 5000 '0')) (-4999) =
      .ofDecimal false 7 1 := by decide +kernel
  have hread : readLeaf .lenient (longSetpoint ++ entryEnd) = .ok (.float _, entryEnd) :=
    readLeaf_of_exponent rfl numeral_longSetpoint nofun nofun
  rw [hvalue] at hread
  exact denotes_entryText (by decide) (by decide) hread

set_option maxRecDepth 100000 in
theorem decode_longSetpoint : Text.Utf8.decode ((entryText longSetpoint).map Char.toNat) =
    .ok (entryText longSetpoint) := by
  decide +kernel

set_option maxRecDepth 100000 in
theorem not_parse_longSetpoint (d : Document) :
    parse (.text (.ofChars (entryText longSetpoint))) ≠ .ok d := by
  intro hd
  have hrefused : (read .strict (entryText longSetpoint)).isOk = false := by decide +kernel
  obtain ⟨v, hread, -⟩ := checkText_eq_fits_iff.1 (parse_text_eq_ok_iff.1 hd)
  rw [hread] at hrefused
  cases hrefused

/-! ### Both branches -/

end ZonePlan.Document
