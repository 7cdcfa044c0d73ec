import FleetProfile.Proofs.OpeningOrder

/-! What the calls of the ledger answer, and when they are refused. A call refuses what it does not
find, and a time that a column does not take; the sweep finds the one run of its pipeline that may
be active. -/
namespace FleetProfile
open Time (Instant)
open Store (isHoldable isActive stamp)

namespace LedgerRow

/-- The run of the row is one that a sweep of a pipeline fails. -/
def Stale (pipeline : String) (staleBefore : Instant) (l : LedgerRow) : Prop :=
  l.pipeline = pipeline ∧ l.Active ∧ Instant.ofMicros l.heartbeatAt < staleBefore

instance (pipeline : String) (staleBefore : Instant) (l : LedgerRow) :
    Decidable (l.Stale pipeline staleBefore) := inferInstanceAs (Decidable (_ ∧ _))

def staleMessage (l : LedgerRow) : String :=
  s!"stale run: no heartbeat from {l.runner} since {(Instant.ofMicros l.heartbeatAt).offsetText}"

/-- The row after a sweep of a pipeline. -/
def swept (pipeline : String) (staleBefore : Instant) (t : Int) (l : LedgerRow) : LedgerRow :=
  if l.Stale pipeline staleBefore then Store.bury l.staleMessage t l else l

end LedgerRow

namespace Store

variable {s s' : Store}

/-- What is known of a store that calls of clients have led to. -/
structure Sound (s : Store) : Prop where
  orderly : s.Orderly
  writable : s.readOnly = false
  /-- A column that took a date takes it again. -/
  held : ∀ l ∈ s.ledger, isHoldable (Instant.ofMicros l.date) = true

/-! ### Updates -/

theorem stamp_of_held {t : Instant} (held : isHoldable t = true) : stamp t = .ok t.toMicros :=
  stamp_eq_ok.2 ⟨held, rfl⟩

theorem rowsAt_of_held {α : Type} {date : Instant} (held : isHoldable date = true)
    (dateOf : α → Int) (rows : List α) :
    rowsAt date dateOf rows = .ok (rows.filter fun r => dateOf r = date.toMicros) := by
  cases rows with
  | nil => rfl
  | cons r rest =>
    rw [rowsAt_cons, stamp_of_held held]
    rfl

theorem ensureWritable_eq_ok (writable : s.readOnly = false) : s.ensureWritable = .ok () := by
  unfold ensureWritable
  rw [writable]
  rfl

variable {run : Run} {accepts : RunStatus → Bool} {now : Instant}

/-- Without a row to change, the time of the change is not looked at. -/
theorem updateRun_of_none (now : Instant) (change : Int → LedgerRow → LedgerRow)
    (writable : s.readOnly = false) (held : isHoldable run.date = true)
    (none : ∀ l ∈ s.ledger, l.key = run.key → l.status.holds accepts = false) :
    s.updateRun run accepts now change = .ok (0, s) := by
  have hhits : (s.ledger.filter fun l => decide (l.pipeline = run.pipeline ∧
      l.status.holds accepts = true)).filter (fun l => l.date = run.date.toMicros) = [] := by
    refine List.eq_nil_iff_forall_not_mem.2 fun l hl => ?_
    obtain ⟨hl, hkey, hst⟩ := mem_hits.1 hl
    rw [none l hl hkey] at hst
    exact absurd hst (by simp)
  unfold updateRun
  rw [ensureWritable_eq_ok writable]
  simp only [rowsAt_of_held held, hhits, bind, Except.bind]

/-- With a row to change, the call is refused where a column does not take the time. -/
theorem updateRun_of_row (now : Instant) (change : Int → LedgerRow → LedgerRow)
    (writable : s.readOnly = false) (held : isHoldable run.date = true) {l : LedgerRow}
    (hl : l ∈ s.ledger) (hkey : l.key = run.key) (hst : l.status.holds accepts = true) :
    ∃ n, n ≠ 0 ∧ s.updateRun run accepts now change = (stamp now).map fun t =>
      (n, { s with ledger := s.ledger.map (LedgerRow.updated run.key accepts (change t)) }) := by
  cases hhits : (s.ledger.filter fun l => decide (l.pipeline = run.pipeline ∧
      l.status.holds accepts = true)).filter (fun l => l.date = run.date.toMicros) with
  | nil =>
    have hmem := mem_hits.2 ⟨hl, hkey, hst⟩
    rw [hhits] at hmem
    exact absurd hmem (by simp)
  | cons hit rest =>
    obtain ⟨-, hhit, -⟩ := mem_hits.1 (hhits ▸ List.mem_cons_self)
    refine ⟨rest.length + 1, Nat.succ_ne_zero _, ?_⟩
    unfold updateRun
    rw [ensureWritable_eq_ok writable]
    simp only [rowsAt_of_held held, hhits, bind, Except.bind]
    cases stamp now with
    | error e => rfl
    | ok t =>
      simp only [Except.map, map_hits hhit, List.length_cons]

/-! ### Moving a run -/

variable {r : Run} {source target : RunStatus}

theorem mem_rowsOf {l : LedgerRow} :
    l ∈ (s.ledger.filter fun l => l.pipeline = r.pipeline).filter
        (fun l => l.date = r.date.toMicros) ↔ l ∈ s.ledger ∧ l.key = r.key := by
  simp only [List.mem_filter, decide_eq_true_eq, LedgerRow.key, Run.key, Prod.mk.injEq]
  tauto

theorem run_of_none (held : isHoldable r.date = true) (none : ∀ l ∈ s.ledger, l.key ≠ r.key) :
    s.run r = .ok .none := by
  have hrows : (s.ledger.filter fun l => l.pipeline = r.pipeline).filter
      (fun l => l.date = r.date.toMicros) = [] := by
    refine List.eq_nil_iff_forall_not_mem.2 fun l hl => ?_
    obtain ⟨hl, hkey⟩ := mem_rowsOf.1 hl
    exact none l hl hkey
  unfold Store.run
  rw [rowsAt_of_held held, hrows]
  rfl

/-- A read of a run finds one of its rows. -/
theorem run_of_row (horderly : s.Orderly) (held : isHoldable r.date = true) {l : LedgerRow}
    (hl : l ∈ s.ledger) (hkey : l.key = r.key) :
    ∃ e, s.run r = .ok (some e) ∧ ∃ l ∈ s.ledger, l.key = r.key ∧ l.status = .known e.status := by
  have hentry : ∀ x ∈ s.joinMetadata ((s.ledger.filter fun l => l.pipeline = r.pipeline).filter
      fun l => l.date = r.date.toMicros), ∃ e, entryOf x = .ok e ∧ e.run = runOf x.1 x.2 := by
    intro x hx
    have hmem := (mem_rowsOf.1 (mem_joinMetadata.1 hx).1).1
    exact horderly.exists_entryOf x.2 hmem
  obtain ⟨es, hes, -⟩ := exists_mapM_eq_ok hentry
  have hrun : s.run r = .ok es.getLast? := by
    unfold Store.run
    rw [rowsAt_of_held held]
    simp only [hes, bind, Except.bind]
  cases hlast : es.getLast? with
  | none =>
    obtain ⟨m, hm, hmkey⟩ := horderly.rows l hl
    obtain ⟨e, he, -⟩ := horderly.exists_entryOf m hl
    have hmem : e ∈ es := (mem_iff_of_mapM_eq_ok hes e).2
      ⟨(l, m), mem_joinMetadata.2 ⟨mem_rowsOf.2 ⟨hl, hkey⟩, hm, hmkey⟩, he⟩
    rw [List.getLast?_eq_none_iff.1 hlast] at hmem
    exact absurd hmem (by simp)
  | some e =>
    obtain ⟨⟨l', m⟩, hx, he⟩ := (mem_iff_of_mapM_eq_ok hes e).1 (List.mem_of_getLast? hlast)
    obtain ⟨hl', hkey'⟩ := mem_rowsOf.1 (mem_joinMetadata.1 hx).1
    exact ⟨e, by rw [hrun, hlast], l', hl', hkey', (entryOf_eq_ok he).1⟩

/-- A move that no run may make is refused before the store is looked at. -/
theorem transition_of_illegal {error : Option String}
    (illegal : source.canBecome target = false) :
    s.transition r source target error now = .error (.invalidTransition source target) := by
  unfold transition
  rw [illegal]
  rfl

theorem transition_of_row {error : Option String} (writable : s.readOnly = false)
    (legal : source.canBecome target = true) (heldDate : isHoldable r.date = true)
    (heldNow : isHoldable now = true) {l : LedgerRow} (hl : l ∈ s.ledger) (hkey : l.key = r.key)
    (hst : l.status = .known source) :
    s.transition r source target error now = .ok { s with
      ledger := s.ledger.map
        (LedgerRow.updated r.key (· = source) (moveTo target error now.toMicros)) } := by
  obtain ⟨n, hn, hupdate⟩ := updateRun_of_row now (moveTo target error) writable heldDate hl
    hkey (StatusCell.holds_eq.2 hst)
  unfold transition
  rw [if_pos legal, hupdate, stamp_of_held heldNow]
  simp only [Except.map, bind, Except.bind, if_neg hn]

/-- Without a row in the state, the refusal tells the state that the run is in, or that there is no
such run. -/
theorem transition_of_none (error : Option String) (now : Instant) (hs : s.Sound)
    (legal : source.canBecome target = true)
    (held : isHoldable r.date = true)
    (none : ∀ l ∈ s.ledger, l.key = r.key → l.status ≠ .known source) :
    (∃ l ∈ s.ledger, l.key = r.key ∧ ∃ st, l.status = .known st ∧
        s.transition r source target error now = .error (.invalidTransition st target)) ∨
      (∀ l ∈ s.ledger, l.key ≠ r.key) ∧ s.transition r source target error now =
        .error (.notFound s!"run {r.pipeline} at {r.date.displayText}") := by
  have hupdate := updateRun_of_none now (moveTo target error) hs.writable held
    fun l hl hkey => Bool.eq_false_iff.2 fun h => none l hl hkey (StatusCell.holds_eq.1 h)
  by_cases hrow : ∃ l ∈ s.ledger, l.key = r.key
  · obtain ⟨l, hl, hkey⟩ := hrow
    obtain ⟨e, hrun, l', hl', hkey', hst⟩ := run_of_row hs.orderly held hl hkey
    refine .inl ⟨l', hl', hkey', e.status, hst, ?_⟩
    unfold transition
    rw [if_pos legal, hupdate]
    simp only [hrun, bind, Except.bind, if_true]
  · have hno : ∀ l ∈ s.ledger, l.key ≠ r.key := fun l hl hkey => hrow ⟨l, hl, hkey⟩
    refine .inr ⟨hno, ?_⟩
    unfold transition
    rw [if_pos legal, hupdate]
    simp only [run_of_none held hno, bind, Except.bind, if_true]

/-- What the call answers that asks for a move of a run. -/
inductive MoveAnswer (s : Store) (r : Run) (source target : RunStatus) (error : Option String)
    (now : Instant) : Except Error Store → Prop
  /-- A move that no run may make is refused with the two states that were given. -/
  | illegal (illegal : source.canBecome target = false) :
      MoveAnswer s r source target error now (.error (.invalidTransition source target))
  /-- A column does not take one of the times. -/
  | unheld (legal : source.canBecome target = true)
      (unheld : isHoldable r.date = false ∨ isHoldable now = false) (e : Error) :
      MoveAnswer s r source target error now (.error e)
  | moved (legal : source.canBecome target = true) (heldDate : isHoldable r.date = true)
      (heldNow : isHoldable now = true)
      (row : ∃ l ∈ s.ledger, l.key = r.key ∧ l.status = .known source) :
      MoveAnswer s r source target error now (.ok { s with
        ledger := s.ledger.map
          (LedgerRow.updated r.key (· = source) (moveTo target error now.toMicros)) })
  /-- The run is in another state, which the refusal tells. -/
  | elsewhere (legal : source.canBecome target = true)
      (none : ∀ l ∈ s.ledger, l.key = r.key → l.status ≠ .known source) {st : RunStatus}
      (row : ∃ l ∈ s.ledger, l.key = r.key ∧ l.status = .known st) :
      MoveAnswer s r source target error now (.error (.invalidTransition st target))
  | missing (legal : source.canBecome target = true) (none : ∀ l ∈ s.ledger, l.key ≠ r.key) :
      MoveAnswer s r source target error now
        (.error (.notFound s!"run {r.pipeline} at {r.date.displayText}"))

theorem Sound.moveAnswer (hs : s.Sound) (r : Run) (source target : RunStatus)
    (error : Option String) (now : Instant) :
    s.MoveAnswer r source target error now (s.transition r source target error now) := by
  cases legal : source.canBecome target with
  | false =>
    rw [transition_of_illegal legal]
    exact .illegal legal
  | true =>
    by_cases held : isHoldable r.date = true ∧ isHoldable now = true
    · by_cases hrow : ∃ l ∈ s.ledger, l.key = r.key ∧ l.status = .known source
      · obtain ⟨l, hl, hkey, hstatus⟩ := hrow
        rw [transition_of_row hs.writable legal held.1 held.2 hl hkey hstatus]
        exact .moved legal held.1 held.2 ⟨l, hl, hkey, hstatus⟩
      · have hnone : ∀ l ∈ s.ledger, l.key = r.key → l.status ≠ .known source :=
          fun l hl hkey hstatus => hrow ⟨l, hl, hkey, hstatus⟩
        rcases transition_of_none error now hs legal held.1 hnone with
          ⟨l, hl, hkey, st, hstatus, hanswer⟩ | ⟨hno, hanswer⟩
        · rw [hanswer]
          exact .elsewhere legal hnone ⟨l, hl, hkey, hstatus⟩
        · rw [hanswer]
          exact .missing legal hno
    · cases hanswer : s.transition r source target error now with
      | error e =>
        refine .unheld legal ?_ e
        simp only [← Bool.not_eq_true]
        tauto
      | ok s' =>
        obtain ⟨-, heldDate, heldNow, -, -⟩ := transition_eq_ok hanswer
        exact absurd ⟨heldDate, heldNow⟩ held

/-! ### The sweep -/

/-- What an entry tells of its row. -/
structure Shows (l : LedgerRow) (e : RunEntry) : Prop where
  status : l.status = .known e.status
  key : e.run.key = l.key
  date : e.run.date = .ofMicros l.date
  message : staleMessage e = l.staleMessage
  heartbeat : e.heartbeatAt = .ofMicros l.heartbeatAt

theorem shows_of_entryOf {l : LedgerRow} {m : MetadataRow} {e : RunEntry}
    (h : entryOf (l, m) = .ok e) : Shows l e := by
  obtain ⟨hst, hrun⟩ := entryOf_eq_ok h
  simp only [entryOf, bind_eq_ok, Except.ok.injEq] at h
  obtain ⟨st, -, rfl⟩ := h
  refine ⟨hst, ?_, rfl, rfl, rfl⟩
  simp only [Run.key, LedgerRow.key, Instant.toMicros_ofMicros]

/-- Where a run is not in the state of its entries any more, there is nothing to fail. -/
theorem foldlM_buryRun_of_none (writable : s.readOnly = false) {l : LedgerRow}
    (held : isHoldable (Instant.ofMicros l.date) = true)
    (none : ∀ l' ∈ s.ledger, l'.key = l.key → l'.status ≠ l.status) {es : List RunEntry}
    (hes : ∀ e ∈ es, Shows l e) : es.foldlM (buryRun now) s = .ok s := by
  induction es with
  | nil => rfl
  | cons e es ih =>
    obtain ⟨he, hes⟩ := List.forall_mem_cons.1 hes
    have hupdate : s.updateRun e.run (· = e.status) now (bury (staleMessage e)) = .ok (0, s) := by
      refine updateRun_of_none now _ writable (he.date ▸ held) fun l' hl' hkey => ?_
      refine Bool.eq_false_iff.2 fun h => none l' hl' (hkey.trans he.key) ?_
      rw [he.status, StatusCell.holds_eq.1 h]
    rw [List.foldlM_cons, buryRun, hupdate]
    exact ih hes

/-- Entries of one row fail its run once. -/
theorem foldlM_buryRun_of_row (writable : s.readOnly = false) {l : LedgerRow}
    (held : isHoldable (Instant.ofMicros l.date) = true) (hl : l ∈ s.ledger) (active : l.Active)
    {e : RunEntry} {es : List RunEntry} (he : Shows l e) (hes : ∀ e ∈ es, Shows l e) :
    (e :: es).foldlM (buryRun now) s = (stamp now).map fun t => { s with
      ledger := s.ledger.map
        (LedgerRow.updated l.key (· = e.status) (bury l.staleMessage t)) } := by
  obtain ⟨n, -, hupdate⟩ := updateRun_of_row now (bury (staleMessage e)) writable (he.date ▸ held)
    hl he.key.symm (StatusCell.holds_eq.2 he.status)
  rw [List.foldlM_cons, buryRun, hupdate, he.message, he.key]
  cases stamp now with
  | error e => rfl
  | ok t =>
    let failed : Store := { s with
      ledger := s.ledger.map (LedgerRow.updated l.key (· = e.status) (bury l.staleMessage t)) }
    have hkept : failed.readOnly = false := writable
    show es.foldlM (buryRun now) failed = .ok failed
    refine foldlM_buryRun_of_none hkept held (fun l' hl' hkey hst => ?_) hes
    obtain ⟨l₀, -, rfl⟩ := List.mem_map.1 hl'
    unfold LedgerRow.updated at hkey hst
    split_ifs at hkey hst with hit
    · -- A row that was failed is not active, as the one is that the entries tell of.
      exact LedgerRow.not_active_bury l.staleMessage t l₀ ((LedgerRow.active_congr hst).2 active)
    · exact hit ⟨hkey, StatusCell.holds_eq.2 (hst.trans he.status)⟩

theorem Orderly.exists_activeRuns (h : s.Orderly) (pipeline : String) :
    ∃ es, s.activeRuns pipeline = .ok es := by
  have hentry : ∀ x ∈ orderedBy (fun r => r.1.date) (s.joinMetadata (s.ledger.filter fun l =>
      l.pipeline = pipeline ∧ l.status.holds isActive)),
      ∃ e, entryOf x = .ok e ∧ e.run = runOf x.1 x.2 := by
    intro x hx
    have hmem := (mem_joinMetadata.1 (List.mem_mergeSort.1 hx)).1
    exact h.exists_entryOf x.2 (List.mem_of_mem_filter hmem)
  obtain ⟨es, hes, -⟩ := exists_mapM_eq_ok hentry
  exact ⟨es, hes⟩

/-- The entries of active runs are those of the active rows of the pipeline. -/
theorem mem_activeRuns_iff {pipeline : String} {es : List RunEntry}
    (h : s.activeRuns pipeline = .ok es) {e : RunEntry} :
    e ∈ es ↔ ∃ l ∈ s.ledger, l.pipeline = pipeline ∧ l.Active ∧
      ∃ m ∈ s.metadata, m.key = l.key ∧ entryOf (l, m) = .ok e := by
  rw [mem_entries_iff h]
  simp only [List.mem_filter, decide_eq_true_eq, and_assoc]
  rfl

theorem activeRuns_of_none {pipeline : String}
    (none : ∀ l ∈ s.ledger, l.pipeline = pipeline → ¬ l.Active) :
    s.activeRuns pipeline = .ok [] := by
  have hrows : (s.ledger.filter fun l => l.pipeline = pipeline ∧ l.status.holds isActive) = [] := by
    refine List.filter_eq_nil_iff.2 fun l hl h => ?_
    obtain ⟨hpipeline, hactive⟩ := of_decide_eq_true h
    exact none l hl hpipeline hactive
  unfold activeRuns
  rw [hrows]
  simp only [entries, joinMetadata, orderedBy, List.flatMap_nil, List.mergeSort_nil, List.mapM_nil]
  rfl

/-- The rows of a pipeline with a property that only active ones have are at most one. -/
theorem Orderly.filter_eq_singleton (h : s.Orderly) {l : LedgerRow} (hl : l ∈ s.ledger)
    {p : LedgerRow → Prop} [DecidablePred p] (hp : p l)
    (active : ∀ x ∈ s.ledger, p x → x.pipeline = l.pipeline ∧ x.Active) :
    (s.ledger.filter fun x => p x) = [l] := by
  have hmem : l ∈ s.ledger.filter fun x => p x := List.mem_filter.2 ⟨hl, decide_eq_true hp⟩
  have hsame : (s.ledger.filter fun x => p x) =
      (s.ledger.filter fun x => x.pipeline = l.pipeline ∧ x.Active).filter fun x => p x := by
    rw [List.filter_filter]
    apply List.filter_congr
    intro x hx
    by_cases hpx : p x
    · simp [hpx, active x hx hpx]
    · simp [hpx]
  have hle : (s.ledger.filter fun x => p x).length ≤ 1 := by
    rw [hsame]
    exact (List.length_filter_le _ _).trans (h.length_active_le_one l.pipeline)
  obtain ⟨x, hx⟩ := List.length_eq_one_iff.1
    (Nat.le_antisymm hle (List.length_pos_iff_exists_mem.2 ⟨l, hmem⟩))
  rw [hx, List.mem_singleton] at hmem
  rw [hx, hmem]

/-- Only one row of a pipeline may be active. -/
theorem Orderly.eq_of_active (h : s.Orderly) {l l' : LedgerRow} (hl : l ∈ s.ledger)
    (hl' : l' ∈ s.ledger) (hpipeline : l'.pipeline = l.pipeline) (active : l.Active)
    (active' : l'.Active) : l' = l := by
  have honly : (s.ledger.filter fun x => x.pipeline = l.pipeline ∧ x.Active) = [l] :=
    h.filter_eq_singleton hl ⟨rfl, active⟩ fun x _ hx => hx
  have hmem : l' ∈ s.ledger.filter fun x => x.pipeline = l.pipeline ∧ x.Active :=
    List.mem_filter.2 ⟨hl', decide_eq_true ⟨hpipeline, active'⟩⟩
  rwa [honly, List.mem_singleton] at hmem

variable {pipeline : String} {staleBefore : Instant}

/-- What is done to the stale run of a pipeline is what a sweep does to its rows. -/
theorem Orderly.map_updated_eq (h : s.Orderly) {l : LedgerRow} (hl : l ∈ s.ledger)
    (stale : l.Stale pipeline staleBefore) {st : RunStatus} (hst : l.status = .known st) {t : Int} :
    s.ledger.map (LedgerRow.updated l.key (· = st) (bury l.staleMessage t)) =
      s.ledger.map (LedgerRow.swept pipeline staleBefore t) := by
  refine List.map_congr_left fun l' hl' => ?_
  unfold LedgerRow.updated LedgerRow.swept
  by_cases hstale : l'.Stale pipeline staleBefore
  · have heq := h.eq_of_active hl hl' (hstale.1.trans stale.1.symm) stale.2.1 hstale.2.1
    rw [heq, if_pos ⟨rfl, StatusCell.holds_eq.2 hst⟩, if_pos stale]
  · rw [if_neg hstale, if_neg]
    rintro ⟨hkey, hstatus⟩
    have hsame : l'.status = l.status := (StatusCell.holds_eq.1 hstatus).trans hst.symm
    have hactive : l'.Active := (LedgerRow.active_congr hsame).2 stale.2.1
    have heq := h.eq_of_active hl hl' (congrArg Prod.fst hkey) stale.2.1 hactive
    rw [heq] at hstale
    exact hstale stale

/-- The entries of stale runs are those of the stale rows. -/
theorem Orderly.exists_staleRuns (h : s.Orderly) (pipeline : String) (staleBefore : Instant) :
    ∃ es, s.staleRuns pipeline staleBefore = .ok es ∧ ∀ e, e ∈ es ↔
      ∃ l ∈ s.ledger, l.Stale pipeline staleBefore ∧
        ∃ m ∈ s.metadata, m.key = l.key ∧ entryOf (l, m) = .ok e := by
  obtain ⟨es, hes⟩ := h.exists_activeRuns pipeline
  refine ⟨es.filter fun e => e.heartbeatAt < staleBefore, ?_, fun e => ?_⟩
  · unfold staleRuns
    simp only [hes, bind, Except.bind]
  · rw [List.mem_filter, decide_eq_true_eq, mem_activeRuns_iff hes]
    constructor
    · rintro ⟨⟨l, hl, hpipeline, hactive, m, hm, hkey, hentry⟩, hlt⟩
      rw [(shows_of_entryOf hentry).heartbeat] at hlt
      exact ⟨l, hl, ⟨hpipeline, hactive, hlt⟩, m, hm, hkey, hentry⟩
    · rintro ⟨l, hl, ⟨hpipeline, hactive, hlt⟩, m, hm, hkey, hentry⟩
      rw [(shows_of_entryOf hentry).heartbeat]
      exact ⟨⟨l, hl, hpipeline, hactive, m, hm, hkey, hentry⟩, hlt⟩

theorem failStale_of_none (horderly : s.Orderly)
    (none : ∀ l ∈ s.ledger, ¬ l.Stale pipeline staleBefore) :
    s.failStale pipeline staleBefore now = .ok ([], s) := by
  obtain ⟨es, hes, hmem⟩ := horderly.exists_staleRuns pipeline staleBefore
  obtain rfl : es = [] := by
    refine List.eq_nil_iff_forall_not_mem.2 fun e he => ?_
    obtain ⟨l, hl, stale, -⟩ := (hmem e).1 he
    exact none l hl stale
  unfold failStale
  simp only [hes, bind, Except.bind, List.foldlM_nil, pure, Except.pure, List.map_nil]

/-- A sweep that finds a stale run fails it, unless a column does not take the time. -/
theorem failStale_of_stale (now : Instant) (hs : s.Sound) {l : LedgerRow} (hl : l ∈ s.ledger)
    (stale : l.Stale pipeline staleBefore) :
    ∃ entries, s.failStale pipeline staleBefore now = (stamp now).map fun t =>
      (entries, { s with ledger := s.ledger.map (LedgerRow.swept pipeline staleBefore t) }) := by
  obtain ⟨es, hes, hmem⟩ := hs.orderly.exists_staleRuns pipeline staleBefore
  have hshows : ∀ e ∈ es, Shows l e := by
    intro e he
    obtain ⟨l', hl', stale', m, -, -, hentry⟩ := (hmem e).1 he
    have heq := hs.orderly.eq_of_active hl hl' (stale'.1.trans stale.1.symm) stale.2.1 stale'.2.1
    rw [← heq]
    exact shows_of_entryOf hentry
  refine ⟨es.map (buried now), ?_⟩
  unfold failStale
  simp only [hes, bind, Except.bind]
  cases es with
  | nil =>
    obtain ⟨m, hm, hkey⟩ := hs.orderly.rows l hl
    obtain ⟨e, hentry, -⟩ := hs.orderly.exists_entryOf m hl
    exact absurd ((hmem e).2 ⟨l, hl, stale, m, hm, hkey, hentry⟩) (by simp)
  | cons e rest =>
    obtain ⟨he, hrest⟩ := List.forall_mem_cons.1 hshows
    rw [foldlM_buryRun_of_row hs.writable (hs.held l hl) hl stale.2.1 he hrest]
    cases stamp now with
    | error err => rfl
    | ok t => simp only [Except.map, hs.orderly.map_updated_eq hl stale he.status]

/-- A sweep that is not refused fails the stale run and nothing else. -/
theorem Sound.failStale_eq_ok (hs : s.Sound) {swept : List RunEntry}
    (h : s.failStale pipeline staleBefore now = .ok (swept, s')) :
    s' = { s with ledger := s.ledger.map (LedgerRow.swept pipeline staleBefore now.toMicros) } ∧
      ∀ l ∈ s.ledger, l.Stale pipeline staleBefore → isHoldable now = true := by
  by_cases hstale : ∃ l ∈ s.ledger, l.Stale pipeline staleBefore
  · obtain ⟨l, hl, stale⟩ := hstale
    obtain ⟨entries, hsweep⟩ := failStale_of_stale now hs hl stale
    rw [hsweep, map_eq_ok] at h
    obtain ⟨t, ht, h⟩ := h
    obtain ⟨held, rfl⟩ := stamp_eq_ok.1 ht
    simp only [Prod.mk.injEq] at h
    exact ⟨h.2.symm, fun _ _ _ => held⟩
  · have hnone : ∀ l ∈ s.ledger, ¬ l.Stale pipeline staleBefore :=
      fun l hl stale => hstale ⟨l, hl, stale⟩
    have hsame : s.ledger.map (LedgerRow.swept pipeline staleBefore now.toMicros) = s.ledger := by
      refine (List.map_congr_left fun l hl => ?_).trans (List.map_id s.ledger)
      exact if_neg (hnone l hl)
    rw [failStale_of_none hs.orderly hnone] at h
    simp only [Except.ok.injEq, Prod.mk.injEq] at h
    refine ⟨?_, fun l hl stale => absurd stale (hnone l hl)⟩
    rw [hsame, h.2]

/-! ### Opening -/

/-- After a sweep that leaves no active run a run is opened, unless a column does not take its
date. -/
theorem openRun_of_idle {q : OpenRequest} {swept : List RunEntry}
    (hsweep : s.failStale q.pipeline q.staleBefore q.now.canonical = .ok (swept, s'))
    (writable : s'.readOnly = false) (idle : s'.activeRuns q.pipeline = .ok []) :
    let r := Run.new q.pipeline (s'.nextDate q.now.canonical) q.version
    s.openRun q = (stamp r.date).map fun _ =>
      (⟨⟨r, .pending, q.runner, r.date, none, none⟩, swept⟩, s'.recorded r q.runner) := by
  intro r
  unfold openRun recordRun
  simp only [hsweep, idle, bind, Except.bind, ensureWritable_eq_ok writable]
  cases hdate : stamp r.date with
  | error e => rfl
  | ok d =>
    obtain ⟨-, rfl⟩ := stamp_eq_ok.1 hdate
    rfl

/-- After a sweep that found a stale run, no run of the pipeline is active. -/
theorem activeRuns_of_stale (hs : s.Sound) {l : LedgerRow} (hl : l ∈ s.ledger)
    (stale : l.Stale pipeline staleBefore) (t : Int) :
    { s with ledger := s.ledger.map (LedgerRow.swept pipeline staleBefore t) }.activeRuns pipeline =
      .ok [] := by
  refine activeRuns_of_none fun l' hl' hpipeline hactive => ?_
  obtain ⟨l₀, hl₀, rfl⟩ := List.mem_map.1 hl'
  unfold LedgerRow.swept at hpipeline hactive
  split_ifs at hpipeline hactive with hstale
  · exact LedgerRow.not_active_bury _ _ _ hactive
  · have heq := hs.orderly.eq_of_active hl hl₀ (hpipeline.trans stale.1.symm) stale.2.1 hactive
    rw [heq] at hstale
    exact hstale stale

/-- A run is opened in the place of a stale one, unless a column does not take the times. -/
theorem openRun_of_stale (hs : s.Sound) {q : OpenRequest} {l : LedgerRow} (hl : l ∈ s.ledger)
    (stale : l.Stale q.pipeline q.staleBefore) (heldNow : isHoldable q.now.canonical = true)
    (heldDate :
      isHoldable (Run.new q.pipeline (s.nextDate q.now.canonical) q.version).date = true) :
    ∃ o, s.openRun q = .ok (o, { s with
      ledger := s.ledger.map
        (LedgerRow.swept q.pipeline q.staleBefore q.now.canonical.toMicros) }.recorded
          (Run.new q.pipeline (s.nextDate q.now.canonical) q.version) q.runner) := by
  obtain ⟨entries, hsweep⟩ := failStale_of_stale q.now.canonical hs hl stale
  rw [stamp_of_held heldNow] at hsweep
  have hopen := openRun_of_idle hsweep hs.writable (activeRuns_of_stale hs hl stale _)
  exact ⟨_, hopen.trans (congrArg (Except.map _) (stamp_of_held heldDate))⟩

end Store

namespace History

theorem sound_fresh (constraints : Constraints) : (fresh constraints).store.Sound where
  orderly := orderly_fresh constraints
  writable := rfl
  held := by simp [fresh]

theorem sound_step {c : Call} {h h' : History} (clock : c.OnClock) (hstep : Step c h h')
    (hs : h.store.Sound) : h'.store.Sound where
  orderly := orderly_step hstep hs.orderly
  writable := hstep.readOnly_eq.trans hs.writable
  held := by
    intro l' hl'
    obtain ⟨i, hi⟩ := List.getElem?_of_mem hl'
    cases hl : h.store.ledger[i]? with
    | some l =>
      obtain ⟨l₁, hl₁, hchange⟩ := hstep.exists_change hl
      obtain rfl : l₁ = l' := Option.some.inj (hl₁.symm.trans hi)
      have hdate : l₁.date = l.date := congrArg Prod.snd hchange.key_eq
      rw [hdate]
      exact hs.held l (List.mem_of_getElem? hl)
    | none =>
      obtain ⟨q, s, r, rfl, rfl, held, rfl⟩ := hstep.exists_opened hi hl
      refine Store.isHoldable_ofMicros_toMicros ?_ held
      rcases s.nextDate_eq q.now.canonical with hdate | ⟨d, hdate⟩
      · rw [Run.new, hdate]
        exact (Instant.OnClock.canonical clock).canonical
      · rw [Run.new, hdate]
        exact (Instant.onClock_ofMicros d).canonical

theorem sound_after (constraints : Constraints) {calls : List Call}
    (hcalls : ∀ c ∈ calls, c.OnClock) : (after constraints calls).store.Sound :=
  after_induction (P := fun h => h.store.Sound) (sound_fresh constraints)
    (fun _ _ _ clock hstep => sound_step clock hstep) hcalls

end History

end FleetProfile
