import FleetProfile.Proofs.Recovery

/-! What opening a run and sweeping a pipeline leave in the tables, to the row. The entries that
they answer with are made in memory; reads of the changed tables answer with the same entries. -/
namespace FleetProfile
open Store (OpenRequest isHoldable stamp entryOf buried bury)
open Time (Instant)

theorem Call.Regular.onClock {c : Call} (h : c.Regular) : c.OnClock := by
  cases c with
  | openRun q => exact fun leap => absurd leap (by simp [h.2])
  | _ => trivial

namespace LedgerRow

variable {pipeline : String} {staleBefore : Instant} {t : Int} {l : LedgerRow}

/-- The run of the row stands in the way of a new one: it is not over, and gave a sign of life. -/
def Blocks (pipeline : String) (staleBefore : Instant) (l : LedgerRow) : Prop :=
  l.pipeline = pipeline ∧ l.Active ∧ staleBefore ≤ .ofMicros l.heartbeatAt

instance (pipeline : String) (staleBefore : Instant) (l : LedgerRow) :
    Decidable (l.Blocks pipeline staleBefore) := inferInstanceAs (Decidable (_ ∧ _))

theorem Blocks.not_stale (h : l.Blocks pipeline staleBefore) : ¬ l.Stale pipeline staleBefore :=
  fun stale => h.2.2 stale.2.2

theorem stale_of_not_blocks (hpipeline : l.pipeline = pipeline) (active : l.Active)
    (h : ¬ l.Blocks pipeline staleBefore) : l.Stale pipeline staleBefore := by
  refine ⟨hpipeline, active, ?_⟩
  by_contra hlt
  exact h ⟨hpipeline, active, hlt⟩

theorem change_swept (pipeline : String) (staleBefore : Instant) (t : Int) (l : LedgerRow) :
    Change l (l.swept pipeline staleBefore t) := by
  unfold swept
  split_ifs with stale
  · exact .bury _ _ stale.2.1
  · exact .none

theorem not_stale_swept : ¬ (l.swept pipeline staleBefore t).Stale pipeline staleBefore := by
  unfold swept
  split_ifs with stale
  · exact fun again => not_active_bury _ _ _ again.2.1
  · exact stale

end LedgerRow

namespace Store

variable {s s' : Store} {l : LedgerRow} {m : MetadataRow} {e : RunEntry}
variable {pipeline : String} {staleBefore now : Instant}

/-! ### Dates of new runs -/

theorem toMicros_nextDate_le {bound : Int} (hbound : ∀ m ∈ s.metadata, m.date ≤ bound)
    {t : Instant} (hnow : t.toMicros ≤ bound) : (s.nextDate t).toMicros ≤ bound + 1 := by
  unfold nextDate latestDate
  cases hmax : (s.metadata.map (·.date)).max? with
  | none =>
    simp only [Option.map_none]
    omega
  | some d =>
    obtain ⟨m, hm, rfl⟩ := List.mem_map.1 (List.max?_eq_some_iff.1 hmax).1
    have hle := hbound m hm
    simp only [Option.map_some]
    split_ifs with hback
    · rw [Instant.nextMicro_ofMicros, Instant.toMicros_ofMicros]
      omega
    · omega

/-! ### Reading back -/

/-- The rows of the tables of runs are told apart by their keys. -/
structure Keyed (s : Store) : Prop where
  ledger : (s.ledger.map LedgerRow.key).Nodup
  metadata : (s.metadata.map MetadataRow.key).Nodup

theorem Keyed.joinMetadata_singleton (hk : s.Keyed) (hm : m ∈ s.metadata) (hkey : m.key = l.key) :
    s.joinMetadata [l] = [(l, m)] := by
  have hrow : (s.metadata.filter fun m => m.pipeline = l.pipeline ∧ m.date = l.date) = [m] := by
    rw [← filter_key_eq_singleton hk.metadata hm]
    apply List.filter_congr
    intro m' _
    rw [hkey]
    simp only [MetadataRow.key, LedgerRow.key, Prod.mk.injEq]
  simp only [joinMetadata, List.flatMap_cons, List.flatMap_nil, hrow, List.map_cons, List.map_nil,
    List.append_nil]

/-- A read of a run answers with the entry of its row. -/
theorem Keyed.run_eq (hk : s.Keyed) (hl : l ∈ s.ledger)
    (held : isHoldable (Instant.ofMicros l.date) = true) (hm : m ∈ s.metadata)
    (hkey : m.key = l.key) (he : entryOf (l, m) = .ok e) : s.run e.run = .ok (some e) := by
  have hrun := (entryOf_eq_ok he).2
  have hrow : (s.ledger.filter fun x => x.pipeline = e.run.pipeline).filter
      (fun x => x.date = e.run.date.toMicros) = [l] := by
    rw [← filter_key_eq_singleton hk.ledger hl, List.filter_filter, hrun]
    apply List.filter_congr
    intro x _
    by_cases hpipeline : x.pipeline = l.pipeline
    · simp [runOf, LedgerRow.key, hpipeline]
    · simp [runOf, LedgerRow.key, hpipeline]
  have hdate : isHoldable e.run.date = true := by
    rw [hrun]
    exact held
  unfold Store.run
  rw [rowsAt_of_held hdate, hrow]
  simp only [hk.joinMetadata_singleton hm hkey, List.mapM_cons, List.mapM_nil, he, bind,
    Except.bind, pure, Except.pure, List.getLast?_singleton]

/-- A read of the run of each entry answers with the entry. -/
def ReadsBack (s : Store) (es : List RunEntry) : Prop := ∀ e ∈ es, s.run e.run = .ok (some e)

/-! ### The sweep -/

/-- The store after a sweep of a pipeline. -/
def afterSweep (s : Store) (pipeline : String) (staleBefore now : Instant) : Store :=
  { s with ledger := s.ledger.map (LedgerRow.swept pipeline staleBefore now.toMicros) }

theorem revises_afterSweep (s : Store) (pipeline : String) (staleBefore now : Instant) :
    s.Revises (s.afterSweep pipeline staleBefore now) :=
  ⟨_, LedgerRow.change_swept pipeline staleBefore now.toMicros, rfl⟩

theorem Keyed.afterSweep (hk : s.Keyed) : (s.afterSweep pipeline staleBefore now).Keyed where
  ledger := by
    rw [(s.revises_afterSweep pipeline staleBefore now).map_key_eq]
    exact hk.ledger
  metadata := hk.metadata

theorem Keyed.activeRuns_of_active (hk : s.Keyed) (horderly : s.Orderly) (hl : l ∈ s.ledger)
    (active : l.Active) :
    ∃ e, s.activeRuns l.pipeline = .ok [e] ∧
      ∃ m ∈ s.metadata, m.key = l.key ∧ entryOf (l, m) = .ok e := by
  obtain ⟨m, hm, hkey⟩ := horderly.rows l hl
  obtain ⟨e, he, -⟩ := horderly.exists_entryOf m hl
  refine ⟨e, ?_, m, hm, hkey, he⟩
  have hrows : (s.ledger.filter fun x => x.pipeline = l.pipeline ∧ x.status.holds isActive) =
      [l] :=
    horderly.filter_eq_singleton (p := fun x => x.pipeline = l.pipeline ∧ x.Active) hl
      ⟨rfl, active⟩ fun x _ hx => hx
  unfold activeRuns entries
  simp only [hrows, hk.joinMetadata_singleton hm hkey, orderedBy, List.mergeSort_singleton,
    List.mapM_cons, List.mapM_nil, he, bind, Except.bind, pure, Except.pure]

/-- The stale runs are those of the stale rows. -/
theorem Keyed.map_key_staleRuns (hk : s.Keyed) (horderly : s.Orderly) {es : List RunEntry}
    (h : s.staleRuns pipeline staleBefore = .ok es) :
    es.map (·.run.key) =
      (s.ledger.filter fun l => l.Stale pipeline staleBefore).map LedgerRow.key := by
  by_cases hstale : ∃ l ∈ s.ledger, l.Stale pipeline staleBefore
  · obtain ⟨l, hl, stale⟩ := hstale
    have hrows : (s.ledger.filter fun l => l.Stale pipeline staleBefore) = [l] :=
      horderly.filter_eq_singleton hl stale
        fun x _ hx => ⟨hx.1.trans stale.1.symm, hx.2.1⟩
    obtain ⟨e, hactive, m, -, -, he⟩ := hk.activeRuns_of_active horderly hl stale.2.1
    have hshows := shows_of_entryOf he
    have hlt : e.heartbeatAt < staleBefore := by
      rw [hshows.heartbeat]
      exact stale.2.2
    rw [stale.1] at hactive
    unfold staleRuns at h
    simp only [hactive, bind, Except.bind, Except.ok.injEq] at h
    rw [← h, hrows, List.filter_singleton, decide_eq_true hlt]
    exact congrArg ([·]) hshows.key
  · obtain ⟨es', hes', hmem⟩ := horderly.exists_staleRuns pipeline staleBefore
    obtain rfl : es' = es := Except.ok.inj (hes'.symm.trans h)
    have hnone : es' = [] := by
      refine List.eq_nil_iff_forall_not_mem.2 fun e he => ?_
      obtain ⟨l, hl, stale, -⟩ := (hmem e).1 he
      exact hstale ⟨l, hl, stale⟩
    have hrows : (s.ledger.filter fun l => l.Stale pipeline staleBefore) = [] := by
      refine List.filter_eq_nil_iff.2 fun l hl stale => ?_
      exact hstale ⟨l, hl, of_decide_eq_true stale⟩
    rw [hnone, hrows]
    rfl

/-- A sweep at a time that a column takes fails the stale runs and nothing else. -/
theorem Sound.failStale_of_held (hs : s.Sound) (pipeline : String) (staleBefore : Instant)
    (held : isHoldable now = true) :
    ∃ es, s.staleRuns pipeline staleBefore = .ok es ∧ s.failStale pipeline staleBefore now =
      .ok (es.map (buried now), s.afterSweep pipeline staleBefore now) := by
  obtain ⟨es, hes, -⟩ := hs.orderly.exists_staleRuns pipeline staleBefore
  have hanswer : ∃ answer, s.failStale pipeline staleBefore now = .ok answer := by
    by_cases hstale : ∃ l ∈ s.ledger, l.Stale pipeline staleBefore
    · obtain ⟨l, hl, stale⟩ := hstale
      obtain ⟨entries, hsweep⟩ := failStale_of_stale now hs hl stale
      rw [stamp_of_held held] at hsweep
      exact ⟨_, hsweep⟩
    · have hnone : ∀ l ∈ s.ledger, ¬ l.Stale pipeline staleBefore :=
        fun l hl stale => hstale ⟨l, hl, stale⟩
      exact ⟨_, failStale_of_none hs.orderly hnone⟩
  obtain ⟨⟨swept, s'⟩, hsweep⟩ := hanswer
  obtain ⟨hs', -⟩ := hs.failStale_eq_ok hsweep
  have hswept : es.map (buried now) = swept := by
    simp only [failStale, hes, bind_eq_ok, Except.ok.injEq, Prod.mk.injEq] at hsweep
    obtain ⟨_, rfl, _, -, hswept, -⟩ := hsweep
    exact hswept
  refine ⟨es, hes, ?_⟩
  rw [hsweep, hs', hswept]
  rfl

/-- The entry of a row that was failed is the one that the sweep answers with. -/
theorem entryOf_bury (exact : Instant.ofMicros now.toMicros = now) (he : entryOf (l, m) = .ok e) :
    entryOf (bury l.staleMessage now.toMicros l, m) = .ok (buried now e) := by
  have hmessage := (shows_of_entryOf he).message
  simp only [entryOf, bind_eq_ok, Except.ok.injEq] at he
  obtain ⟨st, -, rfl⟩ := he
  simp only [entryOf, bury, StatusCell.read, bind, Except.bind, Option.map_some, exact, buried,
    hmessage]

/-- The swept runs are read back wherever the rows stay that the sweep left. -/
theorem Sound.readsBack_swept (hs : s.Sound) (hk : s'.Keyed)
    (hledger : (s.afterSweep pipeline staleBefore now).ledger ⊆ s'.ledger)
    (hmetadata : s.metadata ⊆ s'.metadata) (exact : Instant.ofMicros now.toMicros = now)
    {es : List RunEntry} (hes : s.staleRuns pipeline staleBefore = .ok es) :
    s'.ReadsBack (es.map (buried now)) := by
  obtain ⟨es', hes', hmem⟩ := hs.orderly.exists_staleRuns pipeline staleBefore
  obtain rfl : es' = es := Except.ok.inj (hes'.symm.trans hes)
  intro e' he'
  obtain ⟨e, he, rfl⟩ := List.mem_map.1 he'
  obtain ⟨l, hl, stale, m, hm, hkey, hentry⟩ := (hmem e).1 he
  have hrow : bury l.staleMessage now.toMicros l ∈ s'.ledger := by
    apply hledger
    refine List.mem_map.2 ⟨l, hl, ?_⟩
    unfold LedgerRow.swept
    rw [if_pos stale]
  exact hk.run_eq hrow (hs.held l hl) (hmetadata hm) hkey (entryOf_bury exact hentry)

/-- A sweep is answered with what a read gives of the runs it failed, and leaves none to fail. -/
theorem Sound.failStale_exact (hs : s.Sound) (hk : s.Keyed) (pipeline : String)
    (staleBefore : Instant) (held : isHoldable now = true)
    (exact : Instant.ofMicros now.toMicros = now) :
    let s' := s.afterSweep pipeline staleBefore now
    ∃ swept, s.failStale pipeline staleBefore now = .ok (swept, s') ∧
      swept.map (·.run.key) =
        (s.ledger.filter fun l => l.Stale pipeline staleBefore).map LedgerRow.key ∧
      s'.ReadsBack swept ∧ s'.failStale pipeline staleBefore now = .ok ([], s') := by
  intro s'
  obtain ⟨es, hes, hsweep⟩ := hs.failStale_of_held pipeline staleBefore held
  have horderly' : s'.Orderly := hs.orderly.revises (s.revises_afterSweep pipeline staleBefore now)
  have hnone : ∀ l' ∈ s'.ledger, ¬ l'.Stale pipeline staleBefore := by
    intro l' hl'
    obtain ⟨l, -, rfl⟩ := List.mem_map.1 hl'
    exact LedgerRow.not_stale_swept
  refine ⟨_, hsweep, ?_, ?_, failStale_of_none horderly' hnone⟩
  · rw [List.map_map]
    exact hk.map_key_staleRuns hs.orderly hes
  · exact hs.readsBack_swept hk.afterSweep (List.Subset.refl _) (List.Subset.refl _) exact hes

/-! ### Opening -/

variable {q : OpenRequest} {r : Run}

/-- The store after a run was opened in it. -/
def afterOpen (s : Store) (q : OpenRequest) (r : Run) : Store :=
  (s.afterSweep q.pipeline q.staleBefore q.now.canonical).recorded r q.runner

/-- A run that stands in the way is named by the refusal. -/
theorem Sound.openRun_of_blocks (hs : s.Sound) (hk : s.Keyed) (hl : l ∈ s.ledger)
    (blocks : l.Blocks q.pipeline q.staleBefore) :
    s.openRun q = .error (.runInProgress l.pipeline (.ofMicros l.date)) := by
  obtain ⟨hpipeline, active, -⟩ := id blocks
  -- No other run of the pipeline is active, so the sweep finds nothing.
  have hnone : ∀ x ∈ s.ledger, ¬ x.Stale q.pipeline q.staleBefore := by
    intro x hx stale
    have hsame := hs.orderly.eq_of_active hl hx (stale.1.trans hpipeline.symm) active stale.2.1
    rw [hsame] at stale
    exact blocks.not_stale stale
  obtain ⟨e, hactive, m, -, -, he⟩ := hk.activeRuns_of_active hs.orderly hl active
  rw [hpipeline] at hactive
  obtain ⟨-, hrun⟩ := entryOf_eq_ok he
  unfold openRun
  simp only [failStale_of_none hs.orderly hnone, hactive, bind, Except.bind, hrun, runOf]

/-- Where no run stands in the way, a run is opened, unless a column does not take its date. -/
theorem Sound.openRun_of_free (hs : s.Sound) (heldNow : isHoldable q.now.canonical = true)
    (free : ∀ l ∈ s.ledger, ¬ l.Blocks q.pipeline q.staleBefore) :
    let r := Run.new q.pipeline (s.nextDate q.now.canonical) q.version
    ∃ es, s.staleRuns q.pipeline q.staleBefore = .ok es ∧
      s.openRun q = (stamp r.date).map fun _ =>
        (⟨⟨r, .pending, q.runner, r.date, none, none⟩, es.map (buried q.now.canonical)⟩,
          s.afterOpen q r) := by
  intro r
  obtain ⟨es, hes, hsweep⟩ := hs.failStale_of_held q.pipeline q.staleBefore heldNow
  have hidle : (s.afterSweep q.pipeline q.staleBefore q.now.canonical).activeRuns q.pipeline =
      .ok [] := by
    refine activeRuns_of_none fun l' hl' hpipeline hactive => ?_
    obtain ⟨l, hl, rfl⟩ := List.mem_map.1 hl'
    unfold LedgerRow.swept at hpipeline hactive
    split_ifs at hpipeline hactive with hstale
    · exact LedgerRow.not_active_bury _ _ _ hactive
    · exact hstale (LedgerRow.stale_of_not_blocks hpipeline hactive (free l hl))
  exact ⟨es, hes, openRun_of_idle hsweep hs.writable hidle⟩

/-- A run that was opened is read back as it was answered. -/
theorem Keyed.run_new (hk : (s.afterOpen q r).Keyed) (held : isHoldable r.date = true)
    (exact : Instant.ofMicros r.date.toMicros = r.date) :
    (s.afterOpen q r).run r = .ok (some ⟨r, .pending, q.runner, r.date, none, none⟩) := by
  let l : LedgerRow :=
    ⟨r.pipeline, r.date.toMicros, .known .pending, q.runner, r.date.toMicros, none, none⟩
  have hl : l ∈ (s.afterOpen q r).ledger := List.mem_append_right _ List.mem_cons_self
  have hm : r.toRow ∈ (s.afterOpen q r).metadata := List.mem_append_right _ List.mem_cons_self
  have he : entryOf (l, r.toRow) = .ok ⟨r, .pending, q.runner, r.date, none, none⟩ := by
    simp only [entryOf, l, StatusCell.read, bind, Except.bind, exact, Run.toRow, Option.getD_some,
      Option.map_none]
  exact hk.run_eq hl (exact ▸ held) hm rfl he

end Store

namespace History

variable {h : History}

theorem step_openRun {q : OpenRequest} {o : Store.OpenedRun} {s' : Store}
    (hopen : h.store.openRun q = .ok (o, s')) :
    h.step (.openRun q) = { h with store := s', opened := h.opened ++ [o.entry.run] } := by
  simp only [step, hopen]

theorem Dated.keyed (hdated : h.Dated) : h.store.Keyed where
  ledger := by
    rw [hdated.ledger]
    exact hdated.nodup_key
  metadata := by
    rw [hdated.metadata, List.map_map]
    exact hdated.nodup_key

/-- Each run that was opened moved the dates on by a microsecond at most, from the last time that
64 bits count in nanoseconds. -/
theorem date_le_after (constraints : Constraints) {calls : List Call}
    (hcalls : ∀ c ∈ calls, c.Timely) :
    ∀ m ∈ (after constraints calls).store.metadata,
      m.date ≤ 9223372036854775 + (after constraints calls).store.metadata.length := by
  refine after_induction (Q := Call.Timely)
    (P := fun h => ∀ m ∈ h.store.metadata, m.date ≤ 9223372036854775 + h.store.metadata.length)
    (by simp [fresh]) (fun c h h' timely hstep hle => ?_) hcalls
  cases hstep with
  | refused => exact hle
  | revised rows =>
    rw [rows.metadata_eq]
    exact hle
  | @opened q s r call rows idle run held =>
    subst call
    rw [← rows.metadata_eq] at hle
    have hnow := Instant.toMicros_canonical_le timely
    have hnew := Store.toMicros_nextDate_le hle (t := q.now.canonical) (by omega)
    simp only [Store.recorded, List.forall_mem_append, List.forall_mem_singleton,
      List.length_append, List.length_singleton]
    refine ⟨fun m hm => ?_, ?_⟩
    · have hold := hle m hm
      omega
    · rw [run, Run.new, Instant.toMicros_canonical]
      omega
  | prepared call screened counts => exact hle
  | wrote t origin held running => exact hle

/-- A column takes the date of a new run, unless the dates ran on for thousands of years. -/
theorem isHoldable_nextDate (constraints : Constraints) {calls : List Call}
    (hcalls : ∀ c ∈ calls, c.Regular)
    (hfew : (after constraints calls).store.metadata.length < 100000000000000000) {q : OpenRequest}
    (hq : (Call.openRun q).Regular) :
    isHoldable ((after constraints calls).store.nextDate q.now.canonical).canonical = true := by
  have hle := date_le_after constraints fun c hc => (hcalls c hc).timely
  rcases Store.nextDate_eq (after constraints calls).store q.now.canonical with hdate | ⟨d, hdate⟩
  · rw [hdate, Instant.canonical_canonical]
    exact Store.isHoldable_canonical hq.1 hq.2
  · have hnow := Instant.toMicros_canonical_le hq.1
    have hnew := Store.toMicros_nextDate_le hle (t := q.now.canonical) (by omega)
    rw [hdate, Instant.canonical_eq_self (Instant.ofMicros_nanos_mod d)]
    rw [hdate, Instant.toMicros_ofMicros] at hnew
    exact Store.isHoldable_ofMicros (by omega)

/-- Where no run stands in the way, a run is opened, and what is answered is what a read gives. -/
theorem openRun_of_free (constraints : Constraints) {calls : List Call}
    (hcalls : ∀ c ∈ calls, c.Regular) {q : OpenRequest} (hq : (Call.openRun q).Regular)
    (free : ∀ l ∈ (after constraints calls).store.ledger, ¬ l.Blocks q.pipeline q.staleBefore)
    (hfew : (after constraints calls).store.metadata.length < 100000000000000000) :
    let s := (after constraints calls).store
    let r := Run.new q.pipeline (s.nextDate q.now.canonical) q.version
    let new : RunEntry := ⟨r, .pending, q.runner, r.date, none, none⟩
    ∃ swept, s.openRun q = .ok (⟨new, swept⟩, s.afterOpen q r) ∧
      swept.map (·.run.key) =
        (s.ledger.filter fun l => l.Stale q.pipeline q.staleBefore).map LedgerRow.key ∧
      (s.afterOpen q r).ReadsBack (new :: swept) := by
  intro s r new
  have hs : s.Sound := sound_after constraints fun c hc => (hcalls c hc).onClock
  have hk : s.Keyed := (dated_after constraints fun c hc => (hcalls c hc).timely).keyed
  have held : isHoldable r.date = true := isHoldable_nextDate constraints hcalls hfew hq
  obtain ⟨es, hes, hopen⟩ := hs.openRun_of_free (Store.isHoldable_canonical hq.1 hq.2) free
  rw [Store.stamp_of_held held] at hopen
  -- The rows of both tables are those of the opened runs, whose dates differ, also of the new one.
  have hmore : ∀ c ∈ calls ++ [.openRun q], c.Regular :=
    List.forall_mem_append.2 ⟨hcalls, List.forall_mem_singleton.2 hq⟩
  have hdated' := dated_after constraints fun c hc => (hmore c hc).timely
  have hexact' := exact_after constraints hmore
  rw [after_append, List.foldl_cons, List.foldl_nil, step_openRun hopen] at hdated' hexact'
  have hk' : (s.afterOpen q r).Keyed := hdated'.keyed
  have hexact : Instant.ofMicros r.date.toMicros = r.date :=
    hexact' r (List.mem_append_right _ List.mem_cons_self)
  refine ⟨_, hopen, ?_, ?_⟩
  · rw [List.map_map]
    exact hk.map_key_staleRuns hs.orderly hes
  · intro e he
    rcases List.mem_cons.1 he with rfl | hswept
    · exact hk'.run_new held hexact
    · exact hs.readsBack_swept hk' (List.subset_append_left _ _) (List.subset_append_left _ _)
        (Instant.ofMicros_toMicros_canonical hq.1 hq.2) hes e hswept

/-- Opening a run is refused for a run in progress exactly if one of the pipeline is not over and
gave a sign of life since the time of the request, and then nothing is changed. Otherwise the stale
runs of the pipeline are failed and one run is recorded, as far as the dates of runs did not run on
into the year 10000, a microsecond with each run, for which there are too few of them; all rows else
are as they were. The entries that are answered are those that a read gives. A sweep alone does as
much, and finds nothing a second time. -/
theorem openRun_exact (constraints : Constraints) {calls : List Call}
    (hcalls : ∀ c ∈ calls, c.Regular) (q : OpenRequest) (hq : (Call.openRun q).Regular) :
    let h := after constraints calls
    let s := h.store
    let r := Run.new q.pipeline (s.nextDate q.now.canonical) q.version
    let new : RunEntry := ⟨r, .pending, q.runner, r.date, none, none⟩
    ((∃ pipeline date, s.openRun q = .error (.runInProgress pipeline date)) ↔
        ∃ l ∈ s.ledger, l.Blocks q.pipeline q.staleBefore) ∧
      ((∃ l ∈ s.ledger, l.Blocks q.pipeline q.staleBefore) → h.step (.openRun q) = h) ∧
      ((∀ l ∈ s.ledger, ¬ l.Blocks q.pipeline q.staleBefore) →
        s.metadata.length < 100000000000000000 →
        ∃ swept, s.openRun q = .ok (⟨new, swept⟩, s.afterOpen q r) ∧
          swept.map (·.run.key) =
            (s.ledger.filter fun l => l.Stale q.pipeline q.staleBefore).map LedgerRow.key ∧
          (s.afterOpen q r).ReadsBack (new :: swept)) ∧
      ∀ pipeline staleBefore now,
        now.fitsNanos = true → now.isLeap = false → now.nanos % 1000 = 0 →
          let s' := s.afterSweep pipeline staleBefore now
          ∃ swept, s.failStale pipeline staleBefore now = .ok (swept, s') ∧
            swept.map (·.run.key) =
              (s.ledger.filter fun l => l.Stale pipeline staleBefore).map LedgerRow.key ∧
            s'.ReadsBack swept ∧ s'.failStale pipeline staleBefore now = .ok ([], s') := by
  intro h s r new
  have hs : s.Sound := sound_after constraints fun c hc => (hcalls c hc).onClock
  have hk : s.Keyed := (dated_after constraints fun c hc => (hcalls c hc).timely).keyed
  refine ⟨⟨?_, ?_⟩, ?_, openRun_of_free constraints hcalls hq, ?_⟩
  · rintro ⟨pipeline, date, hopen⟩
    by_contra hno
    have hfree : ∀ l ∈ s.ledger, ¬ l.Blocks q.pipeline q.staleBefore :=
      fun l hl blocks => hno ⟨l, hl, blocks⟩
    obtain ⟨es, -, hanswer⟩ := hs.openRun_of_free (Store.isHoldable_canonical hq.1 hq.2) hfree
    rw [hanswer] at hopen
    exact Store.stamp_ne_runInProgress _ _ _ (map_eq_error.1 hopen)
  · rintro ⟨l, hl, blocks⟩
    exact ⟨_, _, hs.openRun_of_blocks hk hl blocks⟩
  · rintro ⟨l, hl, blocks⟩
    have hopen := hs.openRun_of_blocks hk hl blocks
    simp only [step, hopen, s]
  · intro pipeline staleBefore now fits regular whole
    have hcanonical : now.canonical = now := Instant.canonical_eq_self whole
    have held := Store.isHoldable_canonical fits regular
    have exact := Instant.ofMicros_toMicros_canonical fits regular
    rw [hcanonical] at held exact
    exact hs.failStale_exact hk pipeline staleBefore held exact

/-- The stale run of one pipeline makes place for a new one; that of the other one is left alone. -/
theorem openRun_exact_stale :
    let calls : List Call := [.openRun ⟨"a", "1", "x", ⟨10, 0⟩, ⟨0, 0⟩⟩,
      .openRun ⟨"b", "1", "x", ⟨20, 0⟩, ⟨0, 0⟩⟩]
    let q : OpenRequest := ⟨"a", "2", "y", ⟨100, 0⟩, ⟨50, 0⟩⟩
    ∃ o s', (after {} calls).store.openRun q = .ok (o, s') ∧
      o.swept.map (·.run.key) = [("a", 10000000)] ∧ s'.ReadsBack (o.entry :: o.swept) := by
  intro calls q
  have hcalls : ∀ c ∈ calls, c.Regular := by
    simp [calls, Call.Regular, Instant.fitsNanos, Instant.toNanos, Instant.isLeap]
  have hq : (Call.openRun q).Regular := ⟨by decide, by decide⟩
  obtain ⟨-, -, hfree, -⟩ := openRun_exact {} hcalls q hq
  obtain ⟨swept, hopen, hkeys, hread⟩ := hfree (by decide +kernel) (by decide +kernel)
  have hstale : ((after {} calls).store.ledger.filter fun l =>
      l.Stale q.pipeline q.staleBefore).map LedgerRow.key = [("a", 10000000)] := by
    decide +kernel
  exact ⟨_, _, hopen, hkeys.trans hstale, hread⟩

end History

end FleetProfile
