import FleetProfile.Proofs.Ledger.Rows

/-! Reading the rows of the ledger beside those of the runs, and the sweep of the runs that are
found in it. -/
namespace FleetProfile.Store
open Time (Instant)

variable {s s' : Store}

/-! ### Entries -/

theorem mem_joinMetadata {rows : List LedgerRow} {l : LedgerRow} {m : MetadataRow} :
    (l, m) ∈ s.joinMetadata rows ↔ l ∈ rows ∧ m ∈ s.metadata ∧ m.key = l.key := by
  simp only [joinMetadata, List.mem_flatMap, List.mem_map, List.mem_filter, Prod.mk.injEq,
    decide_eq_true_eq, MetadataRow.key, LedgerRow.key]
  constructor
  · rintro ⟨_, hl, _, ⟨hm, hkey⟩, rfl, rfl⟩
    exact ⟨hl, hm, hkey⟩
  · rintro ⟨hl, hm, hkey⟩
    exact ⟨l, hl, m, ⟨hm, hkey⟩, rfl, rfl⟩

/-- The run that a row of the ledger and its row of the runs stand for. -/
def runOf (l : LedgerRow) (m : MetadataRow) : Run :=
  ⟨l.pipeline, .ofMicros l.date, m.version.getD ""⟩

theorem entryOf_eq_ok {l : LedgerRow} {m : MetadataRow} {e : RunEntry}
    (h : entryOf (l, m) = .ok e) : l.status = .known e.status ∧ e.run = runOf l m := by
  simp only [entryOf, bind_eq_ok, Except.ok.injEq] at h
  obtain ⟨st, hst, rfl⟩ := h
  cases hc : l.status with
  | known st' =>
    rw [hc] at hst
    obtain rfl : st' = st := Except.ok.inj hst
    exact ⟨rfl, rfl⟩
  | other text =>
    rw [hc] at hst
    exact absurd hst (by simp [StatusCell.read])

theorem mem_entries_iff {rows : List LedgerRow} {es : List RunEntry}
    (h : s.entries rows = .ok es) (e : RunEntry) :
    e ∈ es ↔ ∃ l ∈ rows, ∃ m ∈ s.metadata, m.key = l.key ∧ entryOf (l, m) = .ok e := by
  unfold entries at h
  rw [mem_iff_of_mapM_eq_ok h]
  unfold orderedBy
  simp only [List.mem_mergeSort, Prod.exists, mem_joinMetadata]
  constructor
  · rintro ⟨l, m, ⟨hl, hm, hkey⟩, he⟩
    exact ⟨l, hl, m, hm, hkey, he⟩
  · rintro ⟨l, hl, m, hm, hkey, he⟩
    exact ⟨l, m, ⟨hl, hm, hkey⟩, he⟩

theorem activeRuns_status {pipeline : String} {es : List RunEntry}
    (h : s.activeRuns pipeline = .ok es) {e : RunEntry} (he : e ∈ es) :
    e.run.pipeline = pipeline ∧ isActive e.status = true := by
  obtain ⟨l, hl, m, -, -, hentry⟩ := (mem_entries_iff h e).1 he
  obtain ⟨hst, hrun⟩ := entryOf_eq_ok hentry
  simp only [List.mem_filter, decide_eq_true_eq, hst, StatusCell.holds] at hl
  rw [hrun]
  exact hl.2

/-- Where every row of the ledger has its row of the runs, no row of a pipeline is overlooked. -/
theorem not_active_of_activeRuns_eq_nil {pipeline : String}
    (hrows : ∀ l ∈ s.ledger, ∃ m ∈ s.metadata, m.key = l.key)
    (hknown : ∀ l ∈ s.ledger, ∃ st, l.status = .known st)
    (h : s.activeRuns pipeline = .ok []) :
    ∀ l ∈ s.ledger, l.pipeline = pipeline → ¬ l.Active := by
  intro l hl hpipeline hactive
  obtain ⟨m, hm, hkey⟩ := hrows l hl
  obtain ⟨st, hst⟩ := hknown l hl
  have hentry : ∃ e, entryOf (l, m) = .ok e := by
    simp only [entryOf, hst, StatusCell.read, bind_eq_ok, Except.ok.injEq]
    exact ⟨_, st, rfl, rfl⟩
  obtain ⟨e, he⟩ := hentry
  have hmem : e ∈ ([] : List RunEntry) := by
    refine (mem_entries_iff h e).2 ⟨l, ?_, m, hm, hkey, he⟩
    simp only [List.mem_filter, decide_eq_true_eq]
    exact ⟨hl, hpipeline, hactive⟩
  simp at hmem

/-! ### The sweep -/

/-- What a sweep of a pipeline may do to a row. -/
def Swept (pipeline : String) (l l' : LedgerRow) : Prop :=
  l' = l ∨ l.pipeline = pipeline ∧ l.Active ∧ ∃ message t, l' = bury message t l

theorem Swept.change {pipeline : String} {l l' : LedgerRow} (h : Swept pipeline l l') :
    LedgerRow.Change l l' := by
  rcases h with rfl | ⟨-, hactive, message, t, rfl⟩
  · exact .none
  · exact .bury message t hactive

/-- What was buried once is found no more, so that a second change never meets a first one. -/
theorem Swept.trans {pipeline : String} {l₁ l₂ l₃ : LedgerRow} (h₁ : Swept pipeline l₁ l₂)
    (h₂ : Swept pipeline l₂ l₃) : Swept pipeline l₁ l₃ := by
  rcases h₁ with rfl | ⟨hpipeline, hactive, message, t, rfl⟩
  · exact h₂
  · rcases h₂ with rfl | ⟨-, hburied, -⟩
    · exact .inr ⟨hpipeline, hactive, message, t, rfl⟩
    · exact absurd hburied (LedgerRow.not_active_bury message t l₁)

theorem buryRun_eq_ok {pipeline : String} {now : Instant} {e : RunEntry}
    (hpipeline : e.run.pipeline = pipeline) (hactive : isActive e.status = true)
    (h : buryRun now s e = .ok s') :
    ∃ f, (∀ l, Swept pipeline l (f l)) ∧ s' = { s with ledger := s.ledger.map f } := by
  simp only [buryRun, bind_eq_ok, Except.ok.injEq] at h
  obtain ⟨⟨n, s₁⟩, hupdate, rfl⟩ := h
  rcases updateRun_eq_ok hupdate with ⟨-, rfl⟩ | ⟨-, -, -, -, rfl⟩
  · exact ⟨id, fun _ => .inl rfl, by simp⟩
  · refine ⟨_, fun l => ?_, rfl⟩
    unfold LedgerRow.updated
    split_ifs with hit
    · obtain ⟨hkey, hst⟩ := hit
      have hst' := StatusCell.holds_eq.1 hst
      refine .inr ⟨?_, ?_, _, _, rfl⟩
      · rw [← hpipeline]
        exact congrArg Prod.fst hkey
      · unfold LedgerRow.Active
        rw [hst']
        exact hactive
    · exact .inl rfl

theorem foldlM_buryRun_eq_ok {pipeline : String} {now : Instant} {es : List RunEntry}
    (hes : ∀ e ∈ es, e.run.pipeline = pipeline ∧ isActive e.status = true)
    (h : es.foldlM (buryRun now) s = .ok s') :
    ∃ f, (∀ l, Swept pipeline l (f l)) ∧ s' = { s with ledger := s.ledger.map f } := by
  induction es generalizing s with
  | nil =>
    obtain rfl : s = s' := Except.ok.inj h
    exact ⟨id, fun _ => .inl rfl, by simp⟩
  | cons e es ih =>
    simp only [List.foldlM_cons, bind_eq_ok] at h
    obtain ⟨s₁, hfirst, hrest⟩ := h
    obtain ⟨he, hes⟩ := List.forall_mem_cons.1 hes
    obtain ⟨f, hf, rfl⟩ := buryRun_eq_ok he.1 he.2 hfirst
    obtain ⟨g, hg, rfl⟩ := ih hes hrest
    exact ⟨g ∘ f, fun l => (hf l).trans (hg (f l)), by simp⟩

theorem failStale_eq_ok {pipeline : String} {staleBefore now : Instant} {swept : List RunEntry}
    (h : s.failStale pipeline staleBefore now = .ok (swept, s')) :
    ∃ f, (∀ l, Swept pipeline l (f l)) ∧ s' = { s with ledger := s.ledger.map f } := by
  simp only [failStale, staleRuns, bind_eq_ok, Except.ok.injEq, Prod.mk.injEq] at h
  obtain ⟨stale, ⟨active, hactive, rfl⟩, s₁, hfold, -, rfl⟩ := h
  exact foldlM_buryRun_eq_ok
    (fun e he => activeRuns_status hactive (List.mem_of_mem_filter he)) hfold

theorem failStale_revises {pipeline : String} {staleBefore now : Instant} {swept : List RunEntry}
    (h : s.failStale pipeline staleBefore now = .ok (swept, s')) : s.Revises s' := by
  obtain ⟨f, hf, hs⟩ := failStale_eq_ok h
  exact ⟨f, fun l => (hf l).change, hs⟩

/-! ### Opening -/

/-- The store with a new run, which has not begun yet. -/
def recorded (s : Store) (r : Run) (runner : String) : Store :=
  { s with
    metadata := s.metadata ++ [⟨r.pipeline, r.date.toMicros, some r.version⟩]
    ledger := s.ledger ++
      [⟨r.pipeline, r.date.toMicros, .known .pending, runner, r.date.toMicros, none, none⟩] }

theorem getElem?_recorded {i : Nat} {l : LedgerRow} (hl : s.ledger[i]? = some l) (r : Run)
    (runner : String) : (s.recorded r runner).ledger[i]? = some l := by
  rw [recorded, List.getElem?_append_left (List.getElem?_eq_some_iff.1 hl).1, hl]

/-- A run is only opened after a sweep that left no active run of the pipeline. -/
theorem openRun_eq_ok {q : OpenRequest} {o : OpenedRun} (h : s.openRun q = .ok (o, s')) :
    ∃ swept s₁ r, s.failStale q.pipeline q.staleBefore q.now.canonical = .ok (swept, s₁) ∧
      s₁.activeRuns q.pipeline = .ok [] ∧
      r = Run.new q.pipeline (s₁.nextDate q.now.canonical) q.version ∧
      isHoldable r.date = true ∧ o.entry.run = r ∧ s' = s₁.recorded r q.runner := by
  simp only [openRun, bind_eq_ok] at h
  obtain ⟨⟨swept, s₁⟩, hsweep, active, hactive, h⟩ := h
  cases active with
  | cons blocking rest => exact absurd h (by simp)
  | nil =>
    simp only [recordRun, bind_eq_ok, stamp_eq_ok, Except.ok.injEq, Prod.mk.injEq] at h
    obtain ⟨s₂, ⟨_, -, d, ⟨hdate, rfl⟩, rfl⟩, rfl, rfl⟩ := h
    exact ⟨swept, s₁, _, hsweep, hactive, rfl, hdate, rfl, rfl⟩

end FleetProfile.Store
