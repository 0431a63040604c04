/-
What a valid document builds, and what it fails with.

Two loops build a schedule, over the zones of a document and over the entries of a zone, and the
first failure ends both.  Whether a step of a loop fails, and with what, does not depend on what was
built before it; so a loop fails with what the first of its parts that is at fault is at fault for
(`Logged.failure?_foldlM`).  For each kind of part it is said here what can be wrong with it
(`periodOffence?`, `entryOffence?`, `zoneOffence?`), from its own data alone.  Nothing else can be
wrong with a valid document: its names, its patterns of days and its statuses have been checked.

Where nothing is wrong each listed zone has its table, and the schedule is what these come to when
they are entered one after the other, as in `ZonePlan.Proofs.Registry`.
-/
import Mathlib.Data.List.Forall2
import ZonePlan.Proofs.Document.Table
import ZonePlan.Proofs.Period.Parse

namespace ZonePlan

/-! ### What a piece of work fails with -/

namespace Logged

variable {α β σ : Type}

/-- What a piece of work fails with, if it fails. -/
def failure? (x : Logged α) : Option Failure :=
  match x.result with
  | .ok _ => none
  | .error f => some f

theorem failure?_eq_some_iff {x : Logged α} {f : Failure} :
    x.failure? = some f ↔ x.result = .error f := by
  unfold failure?
  cases x.result <;> simp

theorem failure?_eq_none_iff {x : Logged α} : x.failure? = none ↔ ∃ a, x.result = .ok a := by
  unfold failure?
  cases x.result <;> simp

theorem failure?_of_ok {x : Logged α} {a : α} (h : x.result = .ok a) : x.failure? = none :=
  failure?_eq_none_iff.2 ⟨a, h⟩

theorem failure?_of_error {x : Logged α} {f : Failure} (h : x.result = .error f) :
    x.failure? = some f :=
  failure?_eq_some_iff.2 h

/-- What is done after a piece of work that succeeds is what can fail. -/
theorem failure?_bind_of_ok {x : Logged α} {a : α} (h : x.result = .ok a) (f : α → Logged β) :
    (x >>= f).failure? = (f a).failure? := by
  unfold failure?
  rw [result_bind, h]
  rfl

theorem failure?_bind_of_error {x : Logged α} {e : Failure} (h : x.result = .error e)
    (f : α → Logged β) : (x >>= f).failure? = some e := by
  rw [failure?_eq_some_iff, result_bind, h]
  rfl

/-- A loop whose steps fail by what they are given alone fails with the first failure of these. -/
theorem failure?_foldlM {step : σ → α → Logged σ} {offence? : α → Option Failure} {items : List α}
    (h : ∀ a ∈ items, ∀ s, (step s a).failure? = offence? a) (s : σ) :
    (items.foldlM step s).failure? = items.findSome? offence? := by
  induction items generalizing s with
  | nil => rfl
  | cons a rest ih =>
    rw [List.forall_mem_cons] at h
    rw [List.foldlM_cons, List.findSome?_cons]
    have hfirst := h.1 s
    rcases hresult : (step s a).result with f | s'
    · rw [failure?_of_error hresult] at hfirst
      rw [failure?_bind_of_error hresult, ← hfirst]
    · rw [failure?_of_ok hresult] at hfirst
      rw [failure?_bind_of_ok hresult, ← hfirst]
      exact ih h.2 s'

end Logged

namespace Document

/-! ### What can be wrong -/

/-- What is wrong with a written period: the first of its ends that is no time of day, or else that
it does not start before it ends. -/
def periodOffence? (p : WrittenPeriod) : Option Failure :=
  match timeOf? p.start, timeOf? p.finish with
  | none, _ => some (.unreadableTime p.start)
  | some _, none => some (.unreadableTime p.finish)
  | some start, some finish =>
    if start.millis < finish.millis then none
    else some (.windowTooShort (.whole (finish.millis - start.millis)))

/-- What is wrong with an entry of a named zone: what is wrong with its period. -/
def entryOffence? (zone : String) (e : DocumentEntry) : Option Failure :=
  (periodOffence? e.period).map (.badPeriod zone e.period.name)

/-- What is wrong with a listed zone: that there is no such zone, or else what is wrong with the
first of its entries with which something is. -/
def zoneOffence? (resolve : String → Option Zone) (z : ZoneEntries) : Option Failure :=
  if (resolve z.zone).isNone then some (.unknownZone z.zone)
  else z.entries.findSome? (entryOffence? z.zone)

/-- What is wrong with a document: what is wrong with the first of its zones with which something
is. -/
def offence? (resolve : String → Option Zone) (d : Document) : Option Failure :=
  d.zones.findSome? (zoneOffence? resolve)

/-- Every offence is one of the document. -/
theorem kind_of_offence {resolve : String → Option Zone} {d : Document} {f : Failure}
    (h : offence? resolve d = some f) : f.kind = .malformedDocument := by
  obtain ⟨z, -, hz⟩ := List.exists_of_findSome?_eq_some h
  unfold zoneOffence? at hz
  split at hz
  · obtain rfl := Option.some.inj hz
    rfl
  · obtain ⟨e, -, he⟩ := List.exists_of_findSome?_eq_some hz
    obtain ⟨cause, -, rfl⟩ := Option.map_eq_some_iff.1 he
    rfl

theorem periodOffence?_eq_none_iff {p : WrittenPeriod} :
    periodOffence? p = none ↔ ∃ start finish, (readTime (.str p.start)).result = .ok start ∧
      (readTime (.str p.finish)).result = .ok finish ∧ start.millis < finish.millis := by
  simp only [Json.Value.str, readTime_eq_ok_iff]
  unfold periodOffence?
  rcases timeOf? p.start with _ | start
  · simp
  rcases timeOf? p.finish with _ | finish
  · simp
  simp

theorem offence?_eq_none_iff {resolve : String → Option Zone} {d : Document} :
    offence? resolve d = none ↔ ∀ z ∈ d.zones, (∃ zone, resolve z.zone = some zone) ∧
      ∀ e ∈ z.entries, ∃ start finish, (readTime (.str e.period.start)).result = .ok start ∧
        (readTime (.str e.period.finish)).result = .ok finish ∧ start.millis < finish.millis := by
  rw [offence?, List.findSome?_eq_none_iff]
  refine forall₂_congr fun z _ => ?_
  unfold zoneOffence?
  rcases resolve z.zone with _ | zone
  · simp
  · rw [if_neg (by simp), List.findSome?_eq_none_iff]
    simp only [entryOffence?, Option.map_eq_none_iff, periodOffence?_eq_none_iff]
    simp

/-! ### What a document fails with -/

theorem length_ofString (s : String) : (Text.ofString s).length = s.length := by
  rw [Text.length, Text.ofString, Text.ofChars, List.length_map, String.length_toList]

theorem ofString_ne_empty {s : String} (h : 1 ≤ s.length) : (s : Text) ≠ "" := by
  intro hempty
  have hlength := length_ofString s
  rw [hempty] at hlength
  exact Nat.ne_of_gt h hlength.symm

/-- A valid period fails with what is wrong with its times. -/
theorem failure?_period {p : WrittenPeriod} (h : p.IsValid) :
    (period p).failure? = periodOffence? p := by
  obtain ⟨hname, -, -, -, hdays⟩ := h
  rw [← length_ofString] at hdays
  have hparse : (period p).result = (readTime (.str p.start)).result.bind fun a =>
      (readTime (.str p.finish)).result.bind fun b =>
        Period.make p.name a.millis b.millis (maskOf (p.days : Text).codes) :=
    Period.result_parse (ofString_ne_empty hname) hdays
  unfold periodOffence?
  rw [Json.Value.str, Json.Value.str, result_readTime, result_readTime] at hparse
  rcases hstart : timeOf? p.start with _ | start
  · rw [hstart] at hparse
    exact Logged.failure?_of_error hparse
  rcases hfinish : timeOf? p.finish with _ | finish
  · rw [hstart, hfinish] at hparse
    exact Logged.failure?_of_error hparse
  rw [hstart, hfinish] at hparse
  obtain ⟨hmake, hshort⟩ := Period.make_of_times (ofString_ne_empty hname) start finish
    (Nat.lt_trans (Period.maskOf_lt_of_length hdays) (by decide))
  simp only
  split
  · rename_i hlt
    obtain ⟨q, hq⟩ := hmake hlt
    exact Logged.failure?_of_ok (hparse.trans hq)
  · rename_i hnot
    exact Logged.failure?_of_error (hparse.trans (hshort hnot))

/-- What is wrong with a valid period is one of its times, or both together. -/
theorem failure_of_period {p : WrittenPeriod} (h : p.IsValid) {f : Failure}
    (hf : (period p).result = .error f) : f = .unreadableTime p.start ∨
      f = .unreadableTime p.finish ∨ ∃ length, f = .windowTooShort length := by
  have hoffence := (failure?_period h).symm.trans (Logged.failure?_of_error hf)
  unfold periodOffence? at hoffence
  split at hoffence
  · exact .inl (Option.some.inj hoffence).symm
  · exact .inr (.inl (Option.some.inj hoffence).symm)
  · split at hoffence
    · cases hoffence
    · exact .inr (.inr ⟨_, (Option.some.inj hoffence).symm⟩)

/-- An entry fails with what is wrong with it, whatever was entered before. -/
theorem failure?_addEntry {e : DocumentEntry} (hperiod : e.period.IsValid)
    (hstatus : e.status.IsValid) (zone : String) (t : Table) :
    (addEntry zone t e).failure? = entryOffence? zone e := by
  obtain ⟨s, hs⟩ := status_of_valid hstatus
  rw [entryOffence?, ← failure?_period hperiod]
  rcases hp : (period e.period).result with f | p
  · rw [Logged.failure?_of_error hp, addEntry]
    refine Logged.failure?_bind_of_error ?_ _
    rw [Logged.mapFailure, hp]
    rfl
  · rw [Logged.failure?_of_ok hp]
    exact Logged.failure?_of_ok (result_addEntry hp hs)

theorem failure?_table {z : ZoneEntries} (h : z.IsValid) :
    (table z).failure? = z.entries.findSome? (entryOffence? z.zone) := by
  have hentries : ∀ e ∈ z.entries, ∀ t, (addEntry z.zone t e).failure? = entryOffence? z.zone e :=
    fun e he t => failure?_addEntry (h.2 e he).1 (h.2 e he).2 z.zone t
  rw [← Logged.failure?_foldlM hentries ∅]
  rcases hentered : (z.entries.foldlM (addEntry z.zone) ∅).result with f | t
  · rw [table, Logged.failure?_bind_of_error hentered, Logged.failure?_of_error hentered]
  · rw [table, Logged.failure?_bind_of_ok hentered, Logged.failure?_of_ok hentered]
    rfl

/-- A zone fails with what is wrong with it, whatever was entered before. -/
theorem failure?_addZone {z : ZoneEntries} (h : z.IsValid) (resolve : String → Option Zone)
    (s : Schedule) : (addZone resolve s z).failure? = zoneOffence? resolve z := by
  unfold addZone zoneOffence?
  rcases resolve z.zone with _ | zone
  · rfl
  · rw [if_neg (by simp), ← failure?_table h]
    rcases htable : (table z).result with f | t
    · rw [Logged.failure?_of_error htable]
      exact Logged.failure?_bind_of_error htable _
    · rw [Logged.failure?_of_ok htable]
      exact (Logged.failure?_bind_of_ok htable _).trans rfl

/-- A valid document fails with what is wrong with it. -/
theorem failure?_schedule {d : Document} (h : d.IsValid) (resolve : String → Option Zone) :
    (schedule resolve d).failure? = offence? resolve d :=
  Logged.failure?_foldlM (fun z hz s => failure?_addZone (h.1 z hz) resolve s) ∅

/-! ### What a document builds -/

/-- The zones of a document with their tables, one by one. -/
def Builds (resolve : String → Option Zone) (d : Document) (built : List (Zone × Table)) : Prop :=
  List.Forall₂ (fun z e => resolve z.zone = some e.1 ∧ (table z).result = .ok e.2) d.zones built

/-- A zone is entered with its table. -/
theorem addZone_eq_ok {resolve : String → Option Zone} {z : ZoneEntries} {s s' : Schedule}
    (h : (addZone resolve s z).result = .ok s') :
    ∃ zone t, resolve z.zone = some zone ∧ (table z).result = .ok t ∧ s' = s.insert zone t := by
  unfold addZone at h
  rcases hzone : resolve z.zone with _ | zone
  · rw [hzone] at h
    cases h
  · rw [hzone] at h
    rcases htable : (table z).result with f | t
    · rw [Logged.result_bind, htable] at h
      cases h
    · rw [Logged.result_bind, htable] at h
      exact ⟨zone, t, rfl, rfl, (Except.ok.inj h).symm⟩

/-- A schedule is what the tables of the listed zones come to when they are entered one after the
other. -/
theorem exists_builds {resolve : String → Option Zone} {d : Document} {s : Schedule}
    (h : (schedule resolve d).result = .ok s) :
    ∃ built, Builds resolve d built ∧ s = Registry.ofList built := by
  have hbuilt : ∀ (listed : List ZoneEntries) (s₀ : Schedule),
      (listed.foldlM (addZone resolve) s₀).result = .ok s →
      ∃ built : List (Zone × Table), List.Forall₂ (fun z e => resolve z.zone = some e.1 ∧
        (table z).result = .ok e.2) listed built ∧
          s = built.foldl (fun r e => r.insert e.1 e.2) s₀ := by
    intro listed
    induction listed with
    | nil => exact fun s₀ hs => ⟨[], .nil, (Except.ok.inj hs).symm⟩
    | cons z rest ih =>
      intro s₀ hs
      rw [List.foldlM_cons, Logged.result_bind] at hs
      rcases hfirst : (addZone resolve s₀ z).result with f | s₁
      · rw [hfirst] at hs
        cases hs
      · rw [hfirst] at hs
        obtain ⟨zone, t, hzone, htable, rfl⟩ := addZone_eq_ok hfirst
        obtain ⟨built, hrest, hs'⟩ := ih _ hs
        exact ⟨(zone, t) :: built, .cons ⟨hzone, htable⟩ hrest, hs'⟩
  exact hbuilt d.zones ∅ h

variable {resolve : String → Option Zone} {d : Document} {built : List (Zone × Table)}

/-- The zones that a document lists, in its order. -/
def listed (resolve : String → Option Zone) (d : Document) : List Zone :=
  d.zones.filterMap fun z => resolve z.zone

theorem map_resolve {zones : List ZoneEntries}
    (h : List.Forall₂ (fun z e => resolve z.zone = some e.1 ∧ (table z).result = .ok e.2) zones
      built) : zones.map (fun z => resolve z.zone) = (built.map (·.1)).map some := by
  induction h with
  | nil => rfl
  | cons hfirst _ ih => rw [List.map_cons, List.map_cons, List.map_cons, ih, hfirst.1]

theorem Builds.map_fst (h : Builds resolve d built) : built.map (·.1) = listed resolve d := by
  have hlisted : listed resolve d = (d.zones.map fun z => resolve z.zone).reduceOption := by
    rw [List.reduceOption, List.filterMap_map]
    rfl
  rw [hlisted, map_resolve h, List.reduceOption, List.filterMap_map]
  exact List.filterMap_some.symm

/-- What was built last for a zone is the table of what the document lists last for it. -/
theorem Builds.split (h : Builds resolve d built) {before after : List (Zone × Table)} {zone : Zone}
    {t : Table} (hsplit : built = before ++ (zone, t) :: after)
    (hafter : ∀ e ∈ after, e.1 ≠ zone) : ∃ first z rest, d.zones = first ++ z :: rest ∧
      resolve z.zone = some zone ∧ (∀ z' ∈ rest, resolve z'.zone ≠ some zone) ∧
      (table z).result = .ok t := by
  rw [Builds, hsplit] at h
  have hdrop := List.forall₂_drop_append d.zones before ((zone, t) :: after) h
  rcases hzones : d.zones.drop before.length with _ | ⟨z, rest⟩
  · rw [hzones] at hdrop
    cases hdrop
  rw [hzones] at hdrop
  obtain ⟨⟨hzone, htable⟩, hrest⟩ := List.forall₂_cons.1 hdrop
  refine ⟨d.zones.take before.length, z, rest, ?_, hzone, ?_, htable⟩
  · rw [← hzones, List.take_append_drop]
  · intro z' hz' hresolve
    have hmem := List.mem_map_of_mem (f := fun z : ZoneEntries => resolve z.zone) hz'
    rw [map_resolve hrest, hresolve] at hmem
    obtain ⟨e, he, rfl⟩ :=
      List.mem_map.1 ((List.mem_map_of_injective fun _ _ => Option.some.inj).1 hmem)
    exact hafter e he rfl

/-- **A valid document builds a schedule just if each name that it lists is that of a zone, and each
entry has two times of day of which the first is the earlier one.**  Else it fails with the first of
these offences in the order of the document, which is a failure of the document; an unknown zone
comes before the entries of that zone, and nothing else can be wrong with an entry.  The schedule
has the zones in the order in which they are first listed, and for each the table of what is listed
for it last. -/
theorem schedule_of_valid (hvalid : d.IsValid) :
    ((∃ s, (schedule resolve d).result = .ok s) ↔
      ∀ z ∈ d.zones, (∃ zone, resolve z.zone = some zone) ∧
        ∀ e ∈ z.entries, ∃ start finish, (readTime (.str e.period.start)).result = .ok start ∧
          (readTime (.str e.period.finish)).result = .ok finish ∧ start.millis < finish.millis) ∧
    (∀ f, (schedule resolve d).result = .error f ↔ offence? resolve d = some f) ∧
    (∀ f, (schedule resolve d).result = .error f → f.kind = .malformedDocument) ∧
    (∀ s, (schedule resolve d).result = .ok s →
      (s.keys.Pairwise fun a b => (listed resolve d).idxOf a < (listed resolve d).idxOf b) ∧
      (∀ zone, zone ∈ s.keys ↔ zone ∈ listed resolve d) ∧
      ∀ zone ∈ s.keys, ∃ first z rest t, d.zones = first ++ z :: rest ∧
        resolve z.zone = some zone ∧ (∀ z' ∈ rest, resolve z'.zone ≠ some zone) ∧
        (table z).result = .ok t ∧ s.get? zone = some t) ∧
    ∀ z ∈ d.zones, ∀ e ∈ z.entries, (∃ s, status e.status = .ok s) ∧
      ∀ f, (period e.period).result = .error f → f = .unreadableTime e.period.start ∨
        f = .unreadableTime e.period.finish ∨ ∃ length, f = .windowTooShort length := by
  have hfailure := failure?_schedule hvalid resolve
  have herror : ∀ f, (schedule resolve d).result = .error f ↔ offence? resolve d = some f :=
    fun f => by rw [← hfailure, Logged.failure?_eq_some_iff]
  refine ⟨?_, herror, fun f hf => kind_of_offence ((herror f).1 hf), ?_, ?_⟩
  · rw [← offence?_eq_none_iff, ← hfailure, Logged.failure?_eq_none_iff]
  · intro s hs
    obtain ⟨built, hbuilds, rfl⟩ := exists_builds hs
    rw [← hbuilds.map_fst]
    refine ⟨Registry.keys_ofList_pairwise built, fun zone => Registry.mem_keys_ofList, ?_⟩
    intro zone hzone
    obtain ⟨t, ht⟩ : ∃ t, (Registry.ofList built).get? zone = some t := by
      rw [← Option.isSome_iff_exists, ← Registry.has_eq_isSome, Registry.has_iff_mem_keys]
      exact hzone
    obtain ⟨before, after, hsplit, hafter⟩ := Registry.get?_ofList_eq_some ht
    obtain ⟨first, z, rest, hzones, hresolve, hrest, htable⟩ := hbuilds.split hsplit hafter
    exact ⟨first, z, rest, t, hzones, hresolve, hrest, htable, ht⟩
  · intro z hz e he
    obtain ⟨hperiod, hstatus⟩ := (hvalid.1 z hz).2 e he
    exact ⟨status_of_valid hstatus, fun f hf => failure_of_period hperiod hf⟩

namespace Kitchen

/-- A zone with one entry, which may end too early. -/
def pantry (finish : String) : ZoneEntries where
  zone := "pantry"
  entries := [⟨⟨"shelves", "9:00", finish, "MTWTF.."⟩, told 0⟩]

/-- The kitchen and the pantry are one room. -/
def room : Zone := ⟨"room", "Room"⟩

def rooms (name : String) : Option Zone :=
  if name = "kitchen" ∨ name = "pantry" then some room else none

theorem document_valid (finish : String) (h : 1 ≤ finish.length) :
    (Document.mk [listed, pantry finish]).IsValid := by
  have hpantry : (pantry finish).IsValid := by
    unfold ZoneEntries.IsValid WrittenPeriod.IsValid WrittenStatus.IsValid pantry
    simp only [List.forall_mem_singleton]
    exact ⟨by decide, ⟨by decide, by decide, by decide, h, by decide⟩, ⟨_, rfl⟩, by decide⟩
  refine ⟨List.forall_mem_cons.2 ⟨listed_valid, List.forall_mem_singleton.2 hpantry⟩, ?_⟩
  show ["kitchen", "pantry"].Nodup
  decide

end Kitchen

/-- The room has what is listed for it last, under the name of the pantry.  The shelves must not be
put away at nine again, which is all that is wrong then. -/
theorem schedule_of_kitchen :
    (∃ s t, (schedule Kitchen.rooms ⟨[Kitchen.listed, Kitchen.pantry "17:00"]⟩).result = .ok s ∧
      (∀ zone, zone ∈ s.keys ↔ zone = Kitchen.room) ∧
      (table (Kitchen.pantry "17:00")).result = .ok t ∧ s.get? Kitchen.room = some t) ∧
    (schedule Kitchen.rooms ⟨[Kitchen.listed, Kitchen.pantry "9:00"]⟩).result =
      .error (.badPeriod "pantry" "shelves" (.windowTooShort (.whole 0))) := by
  constructor
  · obtain ⟨hiff, -, -, hbuilt, -⟩ :=
      @schedule_of_valid Kitchen.rooms _ (Kitchen.document_valid "17:00" (by decide))
    obtain ⟨s, hs⟩ := hiff.2 (by
      rw [← offence?_eq_none_iff]
      cbv)
    obtain ⟨-, hkeys, htables⟩ := hbuilt s hs
    have hroom : ∀ zone, zone ∈ s.keys ↔ zone = Kitchen.room := by
      intro zone
      rw [hkeys]
      show zone ∈ [Kitchen.room, Kitchen.room] ↔ zone = Kitchen.room
      simp
    obtain ⟨first, z, rest, t, hzones, hz, hrest, ht, hget⟩ :=
      htables Kitchen.room ((hroom _).2 rfl)
    have hpantry : z = Kitchen.pantry "17:00" := by
      rcases first with _ | ⟨kitchen, _ | ⟨pantry, more⟩⟩
      · obtain ⟨rfl, rfl⟩ := List.cons.inj hzones
        exact absurd rfl (hrest _ List.mem_cons_self)
      · obtain ⟨rfl, hlast⟩ := List.cons.inj hzones
        exact (List.cons.inj hlast).1.symm
      · obtain ⟨-, hlast⟩ := List.cons.inj hzones
        exact absurd (List.cons.inj hlast).2 (by simp)
    exact ⟨s, t, hs, hroom, hpantry ▸ ht, hget⟩
  · obtain ⟨-, herror, -, -, -⟩ :=
      @schedule_of_valid Kitchen.rooms _ (Kitchen.document_valid "9:00" (by decide))
    exact (herror _).2 (by cbv)

end Document
end ZonePlan
