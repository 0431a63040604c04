/-
What the table of a zone keeps of its entries.

Entries are entered one after the other, and the table is sorted at the end.  An entry whose period
the table does not have yet adds a key; any other replaces a status, and a warning says so.  Hence
the keys and the periods that were warned about are together the periods that were listed
(`again_append_keys_perm`), and neither is a period lost nor an entry passed over in silence.

Sorting moves keys, but it leaves those of one window in the order in which they were entered, which
is that of their first entries.
-/
import Mathlib
import ZonePlan.Proofs.Document.Table

namespace ZonePlan

/-! ### Warnings -/

namespace Logged

variable {α β : Type}

/-- The warnings among the notes of a piece of work. -/
def warnings (x : Logged α) : List WorkNote := x.notes.filter fun n => n.level = .warning

theorem warnings_bind_of_ok {x : Logged α} {a : α} (h : x.result = .ok a) (f : α → Logged β) :
    (x >>= f).warnings = x.warnings ++ (f a).warnings := by
  show (Logged.bind x f).warnings = _
  simp [Logged.bind, h, warnings]

/-- Work that is done in parts which warn of nothing warns of nothing. -/
theorem warnings_bind_eq_nil {x : Logged α} {f : α → Logged β} (hx : x.warnings = [])
    (hf : ∀ a, (f a).warnings = []) : (x >>= f).warnings = [] := by
  cases hresult : x.result with
  | ok a => rw [warnings_bind_of_ok hresult, hx, hf a, List.append_nil]
  | error e =>
    show (Logged.bind x f).warnings = []
    simpa [Logged.bind, hresult, warnings] using hx

end Logged

theorem warnings_readTime (v : Json.Value) : (readTime v).warnings = [] := by
  unfold readTime
  refine Logged.warnings_bind_eq_nil ?_ ?_
  · simp [Logged.warnings, Logged.noteAll, rejections, WorkNote.level]
  · intro _
    split
    · rfl
    · rfl

/-- Reading a period warns of nothing. -/
theorem Period.warnings_parse (name start finish days : Json.Value) :
    (parse name start finish days).warnings = [] := by
  unfold parse
  refine Logged.warnings_bind_eq_nil rfl ?_
  intro name
  refine Logged.warnings_bind_eq_nil (warnings_readTime start) ?_
  intro start
  refine Logged.warnings_bind_eq_nil (warnings_readTime finish) ?_
  intro finish
  exact Logged.warnings_bind_eq_nil rfl fun _ => rfl

/-! ### Keys that are entered again -/

namespace Registry

variable {κ α : Type} [DecidableEq κ]

/-- The keys of entries that have a value already when they are entered. -/
def again (r : Registry κ α) : List (κ × α) → List κ
  | [] => []
  | (k, a) :: rest => (if r.has k then [k] else []) ++ again (r.insert k a) rest

/-- Every entry either adds a key or enters one again. -/
theorem again_append_keys_perm (r : Registry κ α) (entries : List (κ × α)) :
    (again r entries ++ (entries.foldl (fun r e => r.insert e.1 e.2) r).keys).Perm
      (r.keys ++ entries.map (·.1)) := by
  induction entries generalizing r with
  | nil => simp [again]
  | cons e rest ih =>
    obtain ⟨k, a⟩ := e
    have hrest := ih (r.insert k a)
    rw [again, List.foldl_cons, List.map_cons]
    rw [keys_insert] at hrest
    by_cases hk : r.has k = true
    · rw [if_pos hk] at hrest ⊢
      exact (hrest.cons k).trans List.perm_middle.symm
    · rw [if_neg hk] at hrest ⊢
      simpa using hrest

end Registry

/-! ### The order of a table -/

namespace Period

theorem sortKey_lt_iff {p q : Period} :
    toLex p.sortKey < toLex q.sortKey ↔
      p.start < q.start ∨ p.start = q.start ∧ q.finish < p.finish := by
  simp [sortKey, Prod.Lex.toLex_lt_toLex]

theorem sortKey_eq_iff {p q : Period} : p.sortKey = q.sortKey ↔ p.sameWindow q = true := by
  simp [sortKey, sameWindow]

/-- Of two periods the first one stands before the other in a table: it sorts before it, or they
sort alike and it was listed before it. -/
def StandsBefore (listed : List Period) (p q : Period) : Prop :=
  toLex p.sortKey < toLex q.sortKey ∨ p.sortKey = q.sortKey ∧ listed.idxOf p < listed.idxOf q

theorem StandsBefore.asymm {listed : List Period} {p q : Period} (h : StandsBefore listed p q) :
    ¬StandsBefore listed q p := by
  intro h'
  rcases h with hlt | ⟨heq, hlt⟩
  · rcases h' with hlt' | ⟨heq', -⟩
    · exact lt_asymm hlt hlt'
    · exact hlt.ne (congrArg toLex heq'.symm)
  · rcases h' with hlt' | ⟨-, hlt'⟩
    · exact hlt'.ne (congrArg toLex heq.symm)
    · exact lt_asymm hlt hlt'

/-- Such an order leaves no choice. -/
theorem eq_of_standsBefore {listed keys keys' : List Period} (hperm : keys.Perm keys')
    (h : keys.Pairwise (StandsBefore listed)) (h' : keys'.Pairwise (StandsBefore listed)) :
    keys = keys' :=
  hperm.eq_of_pairwise (fun _ _ _ _ hpq hqp => absurd hqp hpq.asymm) h h'

/-- Sorting keeps periods that sort alike in the order in which they were listed. -/
theorem sort_pairwise {listed keys : List Period}
    (h : keys.Pairwise fun p q => listed.idxOf p < listed.idxOf q) :
    (sort keys).Pairwise (StandsBefore listed) := by
  rw [List.pairwise_iff_forall_sublist] at h ⊢
  intro p q hpq
  have hordered := List.pairwise_iff_forall_sublist.1 (sort_ordered keys) hpq
  by_cases hwindow : p.sameWindow q = true
  · refine .inr ⟨sortKey_eq_iff.2 hwindow, h ?_⟩
    -- Of the periods of one window the sorted list has the same ones in the same order.
    have hpair : [p, q].filter p.sameWindow = [p, q] := by
      simp [hwindow, sameWindow_refl]
    have hsorted : [p, q].Sublist ((sort keys).filter p.sameWindow) := by
      rw [← hpair]
      exact hpq.filter p.sameWindow
    rw [(sort_sortsByWindow keys).stable p] at hsorted
    exact hsorted.trans List.filter_sublist
  · refine .inl (sortKey_lt_iff.2 ?_)
    rw [sameWindow_iff] at hwindow
    omega

end Period

namespace Document

/-- Entries of which it is known what they say can be read. -/
theorem Reads.exists_period {z : ZoneEntries} {entries : List (Period × Status)}
    (h : Reads z entries) : ∀ e ∈ z.entries, ∃ p, (period e.period).result = .ok p := by
  have hboth : List.Forall₂ (fun (e : DocumentEntry) read =>
      (∃ p, (period e.period).result = .ok p) ∧ status e.status = .ok read.2) z.entries entries :=
    h.imp fun e read hread => ⟨⟨read.1, hread.1⟩, hread.2⟩
  exact ((List.forall₂_and_left _ _).1 hboth).1

/-! ### What is warned of -/

/-- An entry is warned of just if its period is in the table. -/
theorem warnings_addEntry {zone : String} {t : Table} {e : DocumentEntry} {p : Period}
    (hp : (period e.period).result = .ok p) :
    (addEntry zone t e).warnings = if t.has p then [.duplicatePeriod zone p] else [] := by
  have hread : ((period e.period).mapFailure (.badPeriod zone e.period.name)).result = .ok p := by
    rw [Logged.mapFailure, hp]
    rfl
  have hquiet : ((period e.period).mapFailure (.badPeriod zone e.period.name)).warnings = [] :=
    Period.warnings_parse ..
  have hinsert : (Logged.ofExcept (status e.status) >>= fun s => pure (t.insert p s)).warnings =
      [] := Logged.warnings_bind_eq_nil rfl fun _ => rfl
  unfold addEntry
  rw [Logged.warnings_bind_of_ok hread, hquiet, List.nil_append]
  by_cases hdup : t.has p = true
  · rw [if_pos hdup, if_pos hdup]
    refine (Logged.warnings_bind_of_ok (Logged.result_note _) _).trans ?_
    rw [hinsert]
    rfl
  · rw [if_neg hdup, if_neg hdup]
    exact hinsert

/-- What is warned of are the periods that are listed again. -/
theorem warnings_table {z : ZoneEntries} {entries : List (Period × Status)} (h : Reads z entries) :
    (table z).warnings = (Registry.again ∅ entries).map (.duplicatePeriod z.zone) := by
  have hentered : ∀ (listed : List DocumentEntry) (entries : List (Period × Status)) (t : Table),
      List.Forall₂ (fun e read => (period e.period).result = .ok read.1 ∧
        status e.status = .ok read.2) listed entries →
      (listed.foldlM (addEntry z.zone) t).warnings =
        (Registry.again t entries).map (.duplicatePeriod z.zone) := by
    intro listed entries t hread
    induction hread generalizing t with
    | nil => rfl
    | cons hfirst _ ih =>
      rw [List.foldlM_cons, Logged.warnings_bind_of_ok (result_addEntry hfirst.1 hfirst.2),
        warnings_addEntry hfirst.1, ih, Registry.again, List.map_append]
      congr 1
      split
      · rfl
      · rfl
  rw [← hentered z.entries entries ∅ h, table]
  cases hresult : (z.entries.foldlM (addEntry z.zone) ∅).result with
  | ok t => exact (Logged.warnings_bind_of_ok hresult _).trans (List.append_nil _)
  | error e =>
    show (Logged.bind _ _).warnings = _
    simp [Logged.bind, hresult, Logged.warnings]

/-- **The keys of a table are the periods that its entries say, each once, in their order, and
those that sort alike in the order of their first entries.**  The status of a period is the one of
its last entry.  Every entry that does not add a key is warned of. -/
theorem table_of_entries {z : ZoneEntries} (hvalid : z.IsValid)
    (hperiods : ∀ e ∈ z.entries, ∃ p, (period e.period).result = .ok p) :
    ∃ entries t, Reads z entries ∧ (table z).result = .ok t ∧
      (t.keys.Nodup ∧ ∀ p, p ∈ t.keys ↔ p ∈ entries.map (·.1)) ∧
      t.keys.Pairwise (Period.StandsBefore (entries.map (·.1))) ∧
      (∀ p ∈ t.keys, ∃ s before after, t.get? p = some s ∧
        entries = before ++ (p, s) :: after ∧ ∀ e ∈ after, e.1 ≠ p) ∧
      ∃ repeated, (table z).warnings = repeated.map (.duplicatePeriod z.zone) ∧
        (repeated ++ t.keys).Perm (entries.map (·.1)) ∧
        (table z).warnings.length + t.keys.length = z.entries.length := by
  obtain ⟨entries, hreads⟩ := exists_reads hvalid hperiods
  have hperm : (Table.sort (Registry.ofList entries)).keys.Perm (Registry.ofList entries).keys := by
    rw [Table.keys_sort]
    exact (Period.sort_sortsByWindow _).perm
  have hagain : (Registry.again ∅ entries ++ (Table.sort (Registry.ofList entries)).keys).Perm
      (entries.map (·.1)) :=
    (hperm.append_left _).trans (Registry.again_append_keys_perm ∅ entries)
  refine ⟨entries, _, hreads, result_table hreads, ⟨Registry.nodup _, ?_⟩, ?_, ?_, ?_⟩
  · intro p
    rw [hperm.mem_iff, Registry.mem_keys_ofList]
  · rw [Table.keys_sort]
    exact Period.sort_pairwise (Registry.keys_ofList_pairwise entries)
  · intro p hp
    rw [← Registry.has_iff_mem_keys, Registry.has_eq_isSome, Option.isSome_iff_exists] at hp
    obtain ⟨s, hs⟩ := hp
    obtain ⟨before, after, hsplit, hlast⟩ :=
      Registry.get?_ofList_eq_some ((Table.get?_sort _ p).symm.trans hs)
    exact ⟨s, before, after, hs, hsplit, hlast⟩
  · refine ⟨_, warnings_table hreads, hagain, ?_⟩
    have hlength := hagain.length_eq
    rw [List.length_append, List.length_map, ← List.Forall₂.length_eq hreads] at hlength
    rw [warnings_table hreads, List.length_map]
    exact hlength

/-- Of the three entries of the kitchen the table keeps two; lunch has the status of its second
entry, which is warned of. -/
theorem table_of_kitchen : ∃ t, (table Kitchen.listed).result = .ok t ∧
    t.keys = [Period.Lunch.lunch, Period.Lunch.siesta] ∧
    t.get? Period.Lunch.lunch = some (Kitchen.read 3) ∧
    (table Kitchen.listed).warnings = [.duplicatePeriod "kitchen" Period.Lunch.lunch] := by
  obtain ⟨entries, t, hreads, htable, ⟨hnodup, hmem⟩, horder, hlast, repeated, hwarned, hperm, -⟩ :=
    table_of_entries Kitchen.listed_valid Kitchen.listed_reads.exists_period
  obtain rfl := hreads.unique Kitchen.listed_reads
  have hkeys : t.keys = [Period.Lunch.lunch, Period.Lunch.siesta] := by
    refine Period.eq_of_standsBefore ?_ horder ?_
    · rw [List.perm_ext_iff_of_nodup hnodup (by decide)]
      intro p
      rw [hmem]
      simp
      tauto
    · exact List.pairwise_pair.2 (.inr ⟨rfl, by decide⟩)
  refine ⟨t, htable, hkeys, ?_, ?_⟩
  · obtain ⟨s, before, after, hs, hsplit, hafter⟩ := hlast Period.Lunch.lunch (by simp [hkeys])
    have hend := congrArg List.getLast? hsplit
    -- The entry behind which lunch does not come again is the last one.
    rcases List.eq_nil_or_concat' after with rfl | ⟨initial, e, rfl⟩
    · obtain rfl : s = Kitchen.read 3 := by simpa using hend.symm
      exact hs
    · rw [← List.cons_append, ← List.append_assoc, List.getLast?_append_cons] at hend
      obtain rfl : (Period.Lunch.lunch, Kitchen.read 3) = e := Option.some.inj hend
      exact absurd rfl (hafter (Period.Lunch.lunch, Kitchen.read 3) (by simp))
  · have hagain : repeated.Perm [Period.Lunch.lunch] := by
      rw [← List.perm_append_right_iff t.keys, hkeys]
      rw [hkeys] at hperm
      exact hperm.trans (by decide)
    rw [hwarned, List.perm_singleton.1 hagain]
    rfl

end Document
end ZonePlan
