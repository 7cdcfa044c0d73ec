import FleetProfile.Proofs.OtherClients
import FleetProfile.Proofs.PriorCounters
import FleetProfile.Proofs.RunOutcome
import FleetProfile.Proofs.ValidConfig
import Mathlib.Algebra.Order.Group.Multiset

/-! A run that succeeded is complete. Its rows of the audit are those of one load for each table of
each source, its outcome tells what they tell, and its records are as many as they say. -/
namespace FleetProfile
open Store (BatchWrite OpenRequest OpenedRun)
open Time (Instant)

/-- What a row of the audit says of its load. -/
def AuditRow.report (a : AuditRow) : LoadReport where
  written := a.written
  rejected := a.rejected
  duplicates := a.duplicates
  regressions := a.regressions

/-- The loads of a run as the audit has them: their sources, their tables and their reports. -/
def Store.loadsOf (s : Store) (k : RunKey) : Multiset (String × Table × LoadReport) :=
  ↑((s.audit.filter fun a => a.key = k).map fun a => (a.source, a.table, a.report))

namespace History

variable {h h' : History} {c : Call} {k : RunKey}

/-- What is known of the tables whatever clocks show. -/
structure Traced (h : History) : Prop where
  logged : h.Logged
  checked : h.Checked
  orderly : h.store.Orderly

theorem traced_step (byLoad : c.ByLoad) (hstep : Step c h h') (ht : h.Traced) : h'.Traced where
  logged := logged_step hstep ht.logged
  checked := checked_step byLoad hstep ht.checked
  orderly := orderly_step hstep ht.orderly

theorem traced_after (constraints : Constraints) {calls : List Call}
    (hcalls : ∀ c ∈ calls, c.ByLoad) : (after constraints calls).Traced :=
  after_induction ⟨logged_fresh constraints, ⟨by simp [fresh], by simp [fresh]⟩,
    orderly_fresh constraints⟩ (fun _ _ _ byLoad hstep => traced_step byLoad hstep) hcalls

/-- What batches are in hand does not matter to the tables. -/
theorem Traced.withPrepared (ht : h.Traced) {hand : List BatchWrite}
    (hhand : ∀ b ∈ hand, b.Screened) : { h with prepared := hand }.Traced where
  logged := ⟨ht.logged.inventory, ht.logged.usage, ht.logged.attribution, ht.logged.audit,
    ht.logged.runs, ht.logged.held⟩
  checked := ⟨hhand, ht.checked.written⟩
  orderly := ht.orderly

/-- Nothing was written for a run before it was opened. -/
theorem Traced.batchesOf_of_openRun (ht : h.Traced) {q : OpenRequest} {opened : OpenedRun}
    {s : Store} (whole : q.now.canonical.nanos % 1000 = 0)
    (hopen : h.store.openRun q = .ok (opened, s)) : h.batchesOf opened.entry.run.key = [] := by
  obtain ⟨swept, s₁, r, hsweep, -, hr, -, hrun, -⟩ := Store.openRun_eq_ok hopen
  rw [hrun]
  refine List.filter_eq_nil_iff.2 fun b hb hkey => ?_
  obtain ⟨l, hl, hlkey⟩ := ht.logged.runs b hb
  obtain ⟨m, hm, hmkey⟩ := ht.orderly.rows l hl
  have hdate : m.date = r.date.toMicros :=
    congrArg Prod.snd ((hmkey.trans hlkey).trans (of_decide_eq_true hkey))
  have hlt := Store.lt_date_new whole hr m ((Store.failStale_revises hsweep).metadata_eq ▸ hm)
  exact absurd hdate (Int.ne_of_lt hlt)

/-- The audit has the loads that were committed. -/
theorem Logged.loadsOf_eq (hlogged : h.Logged) (k : RunKey) :
    h.store.loadsOf k = ↑((h.batchesOf k).map fun b => (b.source, b.rows.table, b.report)) := by
  have haudit := congrArg (fun rows => (rows.filter fun a : AuditRow => a.key = k).map
    fun a => (a.source, a.table, a.report)) hlogged.audit
  simp only [List.filter_map, List.map_map] at haudit
  exact congrArg _ haudit

end History

/-- Calls of clients have led to the store, and the date of a run is in it that of no other. -/
def Store.TracedFor (k : RunKey) (s : Store) : Prop :=
  ∃ h : History, h.Traced ∧ h.store = s ∧ s.OwnDate k

namespace Store.TracedFor

variable {s : Store} {k : RunKey}

theorem auditedRows_eq (s : Store) (k : RunKey) (table : Table) :
    s.auditedRows (· = k) table =
      (((s.audit.filter fun a => a.key = k).filter
        fun a => a.table = table).map (·.written)).sum := by
  rw [auditedRows, List.filter_filter]
  congr 2
  refine List.filter_congr fun a _ => ?_
  rw [← Bool.decide_and, decide_eq_decide, and_comm]

/-- The records at the date of a run are as many as its loads wrote. -/
theorem length_rows (h : s.TracedFor k) :
    (s.inventory.filter fun r => r.extractTs = k.2).length +
        (s.usage.filter fun u => u.extractTs = k.2).length =
      s.auditedRows (· = k) .inventory + s.auditedRows (· = k) .usage := by
  obtain ⟨h, ht, rfl, hown⟩ := h
  have hdates : ∀ b ∈ h.written, b.run.date.toMicros = k.2 ↔ b.run.key = k :=
    fun b hb => ⟨hown.eq_of_date (ht.logged.runs b hb), congrArg Prod.snd⟩
  rw [ht.logged.length_inventory ht.checked (P := (· = k)) (q := (· = k.2)) hdates,
    ht.logged.length_usage ht.checked (P := (· = k)) (q := (· = k.2)) hdates]

end Store.TracedFor

namespace Pipeline

variable {σ : Type} {env : Environment σ}

/-! ### What is kept while a run goes on -/

/-- What a load of a run adds to those that the audit has. -/
def oneLoad (source : String) (table : Table) (report : LoadReport) :
    Multiset (String × Table × LoadReport) := {(source, table, report)}

/-- No client but the pipeline loads to a run. -/
def Environment.LoadsAlone (env : Environment σ) (k : RunKey) : Prop :=
  env.OthersCall (fun c => c.Timely ∧ c.ByLoad ∧ ¬ c.LoadsTo k)
    fun b => b.Screened ∧ b.run.key ≠ k

/-- Changes in place leave no trace. -/
theorem tracedFor_revises {k : RunKey} {s s' : Store} (c : FleetProfile.Call) (timely : c.Timely)
    (byLoad : c.ByLoad) (rows : s.Revises s') (h : s.TracedFor k) :
    s'.TracedFor k ∧ s'.loadsOf k = s.loadsOf k := by
  obtain ⟨h, ht, rfl, hown⟩ := h
  have hstep : History.Step c h { h with store := s' } := .revised rows
  refine ⟨⟨_, History.traced_step byLoad hstep ht, rfl, History.ownDate_step timely hstep hown⟩, ?_⟩
  obtain ⟨f, -, rfl⟩ := rows
  rfl

theorem tracedFor_others {k : RunKey} (alone : env.LoadsAlone k) {s : Store} (o : σ)
    (h : s.TracedFor k) :
    (env.others s o).1.TracedFor k ∧ (env.others s o).1.loadsOf k = s.loadsOf k := by
  obtain ⟨h, ht, rfl, hown⟩ := h
  obtain ⟨h', hstore, ht', hown', helse⟩ := alone.induction
    (P := fun h' => h'.Traced ∧ h'.store.OwnDate k ∧ h'.Elsewhere k (h.batchesOf k)) h
    (fun hand hhand => ⟨ht.withPrepared fun b hb => (hhand b hb).1, hown,
      fun b hb => (hhand b hb).2, rfl⟩)
    (fun c h' hc hP => ⟨History.traced_step hc.2.1 (History.step_cases c h') hP.1,
      History.ownDate_step hc.1 (History.step_cases c h') hP.2.1,
      History.elsewhere_step hc.2.1 hc.2.2 hP.2.2⟩) o
  rw [← hstore]
  refine ⟨⟨h', ht', rfl, hown'⟩, ?_⟩
  rw [ht'.logged.loadsOf_eq, ht.logged.loadsOf_eq, helse.written]

/-- A batch of a run is one more load. -/
theorem tracedFor_write {s s' : Store} {b : BatchWrite} {now : Instant} {n : Nat}
    (screened : b.Screened) (hwrite : s.insertBatch b now = .ok (n, s'))
    (h : s.TracedFor b.run.key) : s'.TracedFor b.run.key ∧
      s'.loadsOf b.run.key = s.loadsOf b.run.key + oneLoad b.source b.rows.table b.report := by
  obtain ⟨h, ht, rfl, hown⟩ := h
  obtain ⟨held, running, rfl⟩ := Store.insertBatch_eq_ok hwrite
  have ht' := ht.withPrepared (List.forall_mem_singleton.2 screened)
  let commit : FleetProfile.Call := .commit 0 now
  have hstep := History.Step.wrote (c := commit) (h := { h with prepared := [b] }) now.toMicros
    (.inr (.inl (List.mem_singleton_self b))) held running
  have ht'' := History.traced_step (c := commit) trivial hstep ht'
  refine ⟨⟨_, ht'', rfl, History.ownDate_step (c := commit) trivial hstep hown⟩, ?_⟩
  have hloads := ht''.logged.loadsOf_eq b.run.key
  rw [ht.logged.loadsOf_eq]
  refine hloads.trans ?_
  rw [History.batchesOf, List.filter_append, List.filter_cons_of_pos (by simp), List.filter_nil,
    List.map_append]
  rfl

/-- What a run does to the tables are its loads. -/
theorem respects_tracedFor {r : Run} (alone : env.LoadsAlone r.key) :
    RespectsMoves env r (Store.TracedFor r.key) (Store.loadsOf · r.key) oneLoad where
  others s o hs := tracedFor_others alone o hs
  beat s now s' hs hbeat :=
    tracedFor_revises (.heartbeat r now) trivial trivial (Store.heartbeat_revises hbeat) hs
  write s b now n s' hs hrun screened hwrite := by
    subst hrun
    exact tracedFor_write screened hwrite hs
  moved s source target error now s' hs hmove :=
    tracedFor_revises (.transition r source target error now) trivial trivial
      (Store.transition_revises hmove) hs

/-- When a run is opened, nothing was loaded to it. -/
theorem tracedFor_openRun (clock : ∀ o, (env.now o).1.fitsNanos = true) {c : Config}
    {w w₁ : World σ} {opened : OpenedRun} (alone : env.LoadsAlone opened.entry.run.key)
    {h : History} (ht : h.Traced) (hw : w.store = h.store)
    (hopen : (openRun env c).run w = (.ok opened, w₁)) :
    w₁.store.TracedFor opened.entry.run.key ∧ w₁.store.loadsOf opened.entry.run.key = 0 := by
  obtain ⟨h₁, q, ht₁, whole, hopen⟩ := exists_opening clock alone (P := History.Traced)
    (fun hand hhand => ht.withPrepared fun b hb => (hhand b hb).1)
    (fun c h hc ht => History.traced_step hc.2.1 (History.step_cases c h) ht) hw hopen
  have ht₂ := History.traced_step (c := .openRun q) trivial (History.step_cases _ h₁) ht₁
  have hstore : (h₁.step (.openRun q)).store = w₁.store := by simp only [History.step, hopen]
  have hwritten : (h₁.step (.openRun q)).written = h₁.written := by
    simp only [History.step, hopen]
  refine ⟨⟨_, ht₂, hstore, .of_openRun ht₁.orderly whole hopen⟩, ?_⟩
  have hnone := ht₁.batchesOf_of_openRun whole hopen
  rw [History.batchesOf] at hnone
  rw [← hstore, ht₂.logged.loadsOf_eq, History.batchesOf, hwritten, hnone]
  rfl

/-! ### What the outcome tells -/

/-- The loads that sources report, one for each of their tables. -/
def loadsIn (sources : List SourceReport) : List (String × Table × LoadReport) :=
  sources.flatMap fun x => [(x.source, .inventory, x.inventory), (x.source, .usage, x.usage)]

theorem loadsIn_cons (x : SourceReport) (sources : List SourceReport) :
    loadsIn (x :: sources) = (x.source, .inventory, x.inventory) ::
      (x.source, .usage, x.usage) :: loadsIn sources := rfl

theorem sum_cost_oneLoad (sources : List SourceReport) :
    (sources.map (SourceReport.cost oneLoad)).sum = ↑(loadsIn sources) := by
  induction sources with
  | nil => rfl
  | cons x sources ih =>
    rw [List.map_cons, List.sum_cons, ih]
    rfl

/-- What adds up under merges adds up in the total of the sources. -/
theorem total_eq_sum_loadsIn {f : LoadReport → Nat} (hzero : f {} = 0)
    (hmerge : ∀ a b, f (a.merge b) = f a + f b) (sources : List SourceReport) :
    f (LoadReport.total (sources.map SourceReport.total)) =
      ((loadsIn sources).map fun x => f x.2.2).sum := by
  have hfold (a : LoadReport) : f ((sources.map SourceReport.total).foldl LoadReport.merge a) =
      f a + ((loadsIn sources).map fun x => f x.2.2).sum := by
    induction sources generalizing a with
    | nil => rfl
    | cons x sources ih =>
      rw [List.map_cons, List.foldl_cons, ih, hmerge, SourceReport.total, hmerge, loadsIn_cons,
        List.map_cons, List.map_cons, List.sum_cons, List.sum_cons]
      simp only [Nat.add_assoc]
  rw [LoadReport.total, hfold, hzero, Nat.zero_add]

section

variable {rows : List AuditRow} {sources : List SourceReport}
  (hrows : (rows.map fun a => (a.source, a.table, a.report)).Perm (loadsIn sources))

include hrows

theorem map_table_perm {names : List String} (hnames : sources.map (·.source) = names) :
    (rows.map fun a => (a.source, a.table)).Perm
      (names.flatMap fun name => [(name, .inventory), (name, .usage)]) := by
  have htables := hrows.map fun x => (x.1, x.2.1)
  rw [List.map_map, loadsIn, List.map_flatMap] at htables
  rw [← hnames, List.flatMap_map]
  exact htables

theorem total_eq_sum {f : LoadReport → Nat} (hzero : f {} = 0)
    (hmerge : ∀ a b, f (a.merge b) = f a + f b) :
    f (LoadReport.total (sources.map SourceReport.total)) = (rows.map fun a => f a.report).sum := by
  have hsum := (hrows.map fun x => f x.2.2).sum_eq
  rw [List.map_map] at hsum
  rw [total_eq_sum_loadsIn hzero hmerge, ← hsum]
  rfl

/-- No load is one of another table. -/
theorem sum_written_tables :
    ((rows.filter fun a => a.table = .inventory).map (·.written)).sum +
        ((rows.filter fun a => a.table = .usage).map (·.written)).sum =
      (rows.map (·.written)).sum := by
  have htable : ∀ a ∈ rows, a.table = .inventory ∨ a.table = .usage := by
    intro a ha
    obtain ⟨x, -, hx⟩ := List.mem_flatMap.1 (hrows.subset (List.mem_map_of_mem ha))
    simp only [List.mem_cons, List.not_mem_nil, or_false, Prod.mk.injEq] at hx
    tauto
  clear hrows
  induction rows with
  | nil => rfl
  | cons a rows ih =>
    obtain ⟨ha, hrest⟩ := List.forall_mem_cons.1 htable
    have hsum := ih hrest
    rcases ha with ha | ha <;> simp [ha] <;> omega

end

/-- A run that succeeded, and that no other client loaded to, has one load for each table of each
source; its outcome lists all sources in their order and tells what the loads tell; and the records
at its date are as many as it says. -/
theorem complete_of_succeeded (constraints : Constraints) (calls : List FleetProfile.Call)
    (hcalls : ∀ c ∈ calls, c.ByLoad) (env : Environment σ)
    (clock : ∀ o, (env.now o).1.fitsNanos = true) (c : Config) (w w' : World σ)
    (hw : w.store = (History.after constraints calls).store) (outcome : Outcome)
    (hrun : (run env c).run w = (.ok outcome, w')) (alone : env.LoadsAlone outcome.run.key)
    (hgood : outcome.status = .succeeded) :
    let k := outcome.run.key
    let rows := w'.store.audit.filter fun a => a.key = k
    (c.sources.map (·.name)).Nodup ∧
      (rows.map fun a => (a.source, a.table)).Perm
        ((c.sources.map (·.name)).flatMap fun name => [(name, .inventory), (name, .usage)]) ∧
      outcome.sources.map (·.source) = c.sources.map (·.name) ∧
      (outcome.report.written = (rows.map (·.written)).sum ∧
        outcome.report.rejected = (rows.map (·.rejected)).sum ∧
        outcome.report.duplicates = (rows.map (·.duplicates)).sum ∧
        outcome.report.regressions = (rows.map (·.regressions)).sum) ∧
      (w'.store.inventory.filter fun r => r.extractTs = k.2).length +
          (w'.store.usage.filter fun u => u.extractTs = k.2).length = outcome.report.written := by
  intro k rows
  obtain ⟨opened, w₁, hopen, hopened⟩ := Job.bind_run_eq_ok hrun
  have hopenedRun : outcome.run = opened.entry.run := run_of_runOpened hopened
  have halone : env.LoadsAlone opened.entry.run.key := hopenedRun ▸ alone
  obtain ⟨htraced, hnone⟩ :=
    tracedFor_openRun clock halone (History.traced_after constraints hcalls) hw hopen
  obtain ⟨htraced', d, hloads, hpost⟩ :=
    ((respects_tracedFor halone).runOpened (.ofConfig c env.runner) c rfl).run (s := w₁) htraced
  have hanswer : (Process.run (runOpened env (.ofConfig c env.runner) c opened).attempt w₁) =
      (.ok outcome, w') := hopened
  rw [hanswer] at htraced' hloads hpost
  obtain ⟨-, hpost⟩ := hpost outcome rfl
  obtain ⟨hsources, hreport, hd⟩ := hpost hgood
  have hrows : (rows.map fun a => (a.source, a.table, a.report)).Perm
      (loadsIn outcome.sources) := by
    refine Multiset.coe_eq_coe.1 ?_
    rw [← sum_cost_oneLoad, ← hd, zero_add]
    refine Eq.trans ?_ (hloads.trans (by rw [OnStore, hnone, zero_add]))
    rw [← hopenedRun]
    rfl
  obtain ⟨valid, -⟩ := openRun_run_eq_ok clock hopen
  refine ⟨Config.nodup_of_validate valid, map_table_perm hrows hsources, hsources, ?_, ?_⟩
  · rw [hreport]
    exact ⟨total_eq_sum hrows rfl fun _ _ => rfl, total_eq_sum hrows rfl fun _ _ => rfl,
      total_eq_sum hrows rfl fun _ _ => rfl, total_eq_sum hrows rfl fun _ _ => rfl⟩
  · rw [← hopenedRun] at htraced'
    have hlength := Store.TracedFor.length_rows htraced'
    rw [Store.TracedFor.auditedRows_eq, Store.TracedFor.auditedRows_eq] at hlength
    rw [hreport]
    exact (hlength.trans (sum_written_tables hrows)).trans
      (total_eq_sum hrows (f := LoadReport.written) rfl fun _ _ => rfl).symm

/-- Sources that report a statement twice, less of it than before, and a row that cannot be read.
Early calls fail, the jobs go on in turn, and all the time another client tries to open a run of its
own pipeline. -/
def busyDay : Environment Nat where
  runner := "test:1"
  now o := (⟨1714521600, 0⟩, o)
  cancelled o := (false, o)
  answer call o :=
    let database : Source.RawRow := [("create_date", .string "2024-01-01 00:00:00"),
      ("database_id", .int 5), ("name", .string call.source.name)]
    let statement : Source.RawRow := [("creation_time", .string "2024-01-01 00:00:00"),
      ("execution_count", .int 4), ("last_execution_time", .string "2024-01-02 00:00:00"),
      ("sql_handle", .string "A"), ("total_elapsed_time", .int 30), ("total_rows", .int 40),
      ("total_worker_time", .int 20)]
    let rows := match call.request with
      | .databases => [database, []]
      | .statements _ => [statement, statement]
    (⟨⟨0⟩, if o < 16 then .fault (.unreachable "no route") else .answer rows⟩, o + 1)
  others s o :=
    let q : OpenRequest := ⟨"hourly", "1.0", "test:2", ⟨1714521600, 0⟩, ⟨0, 0⟩⟩
    ((({ store := s } : History).step (.openRun q)).store, o)
  first o := (o % 2 = 0, o + 1)

theorem complete_of_succeeded_busyDay :
    let c : Config := { pipeline := "nightly", sources := [
      { name := "prod", kind := .sqlServer },
      { name := "west", kind := .sqlServer, incremental := false }] }
    let w : World Nat := { store := (History.after {} History.oneReport).store, outside := 0 }
    let s := ((run busyDay c).run w).2.store
    let k : RunKey := ("nightly", 1714521600000002)
    (s.inventory.filter fun r => r.extractTs = k.2).length +
        (s.usage.filter fun u => u.extractTs = k.2).length = 4 ∧
      ((s.audit.filter fun a => a.key = k).map (·.regressions)).sum = 1 := by
  intro c w s k
  cases hrun : (run busyDay c).run w with
  | mk answer w' =>
    have htold : ((run busyDay c).run w).1.toOption.map
        (fun o => (o.run.key, o.status, o.report.written, o.report.regressions)) =
        some (k, .succeeded, 4, 1) := by decide +kernel
    rw [hrun] at htold
    cases answer with
    | error e => exact absurd htold (by simp [Except.toOption])
    | ok outcome =>
      simp only [Except.toOption, Option.map_some, Option.some.injEq, Prod.mk.injEq] at htold
      obtain ⟨hkey, hgood, hwritten, hregressions⟩ := htold
      have alone : busyDay.LoadsAlone outcome.run.key := fun s o =>
        ⟨[], [.openRun ⟨"hourly", "1.0", "test:2", ⟨1714521600, 0⟩, ⟨0, 0⟩⟩], by simp,
          by simp [FleetProfile.Call.Timely, FleetProfile.Call.ByLoad, FleetProfile.Call.LoadsTo,
            FleetProfile.Call.named?, Instant.fitsNanos, Instant.toNanos], rfl⟩
      obtain ⟨-, -, -, ⟨-, -, -, hsum⟩, hlength⟩ := complete_of_succeeded {} History.oneReport
        (fun c hc => (History.timely_oneReport c hc).2) busyDay
        (fun o => by simp [busyDay, Instant.fitsNanos, Instant.toNanos]) c _ w' rfl outcome hrun
        alone hgood
      have hs : s = w'.store := congrArg (fun x => x.2.store) hrun
      rw [hkey] at hsum hlength
      rw [hs, hlength, ← hsum]
      exact ⟨hwritten, hregressions⟩

end Pipeline

end FleetProfile
