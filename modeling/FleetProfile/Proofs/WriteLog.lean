import FleetProfile.Proofs.OpeningOrder

/-! The committed batches as a log. The rows of the tables are those of the batches, in the order in
which they were committed; of the audit they are all but the time. -/
namespace FleetProfile
open Store (BatchWrite)

/-- A row of the audit without its time. -/
def AuditRow.untimed (a : AuditRow) : AuditRow := { a with committedAt := 0 }

/-- The records of a statement in batches, in their order. -/
def Store.reportsIn (bs : List BatchWrite) (handle : String) : List UsageRecord :=
  bs.flatMap fun b => b.rows.statements.filter fun r => r.handle = handle

/-- A run has come to a good end. -/
def Store.Succeeded (s : Store) (k : RunKey) : Prop :=
  ∃ l ∈ s.ledger, l.key = k ∧ l.status = .known .succeeded

instance (s : Store) (k : RunKey) : Decidable (s.Succeeded k) :=
  inferInstanceAs (Decidable (∃ l ∈ s.ledger, l.key = k ∧ l.status = .known .succeeded))

theorem Store.exists_succeeded_iff {s : Store} {pipeline : String} {d : Int} :
    (∃ l ∈ s.succeeded pipeline, l.date = d) ↔ s.Succeeded (pipeline, d) := by
  simp only [succeeded, Succeeded, List.mem_filter, decide_eq_true_eq, LedgerRow.key,
    Prod.mk.injEq]
  constructor
  · rintro ⟨l, ⟨hl, hpipeline, hstatus⟩, hdate⟩
    exact ⟨l, hl, ⟨hpipeline, hdate⟩, hstatus⟩
  · rintro ⟨l, hl, ⟨hpipeline, hdate⟩, hstatus⟩
    exact ⟨l, ⟨hl, hpipeline, hstatus⟩, hdate⟩

namespace History

/-- The batches that were committed to a run. -/
def batchesOf (h : History) (k : RunKey) : List BatchWrite :=
  h.written.filter fun b => b.run.key = k

/-- Nothing but batches wrote to the tables, and those were of runs. -/
structure Logged (h : History) : Prop where
  inventory :
    h.store.inventory = h.written.flatMap fun b => b.rows.databases.map InventoryRecord.toRow
  usage : h.store.usage = h.written.flatMap fun b => b.rows.statements.map UsageRecord.toRow
  attribution : h.store.attribution = h.written.flatMap BatchWrite.attributions
  audit : h.store.audit.map AuditRow.untimed =
    h.written.map fun b => Store.auditRow b b.run.date.toMicros 0
  runs : ∀ b ∈ h.written, ∃ l ∈ h.store.ledger, l.key = b.run.key
  held : ∀ b ∈ h.written, Store.isHoldable b.run.date = true

theorem logged_fresh (constraints : Constraints) : (fresh constraints).Logged where
  inventory := rfl
  usage := rfl
  attribution := rfl
  audit := rfl
  runs := by simp [fresh]
  held := by simp [fresh]

/-- A key in the ledger stays there. -/
theorem Step.exists_key {c : Call} {h h' : History} (hstep : Step c h h') {k : RunKey}
    (hk : ∃ l ∈ h.store.ledger, l.key = k) : ∃ l ∈ h'.store.ledger, l.key = k := by
  rw [← List.mem_map] at hk ⊢
  cases hstep with
  | refused => exact hk
  | revised rows => rwa [rows.map_key_eq]
  | opened call rows idle run held =>
    rw [Store.recorded, List.map_append, rows.map_key_eq]
    exact List.mem_append_left _ hk
  | prepared call screened counts => exact hk
  | wrote t origin held running => rwa [Store.map_key_withBatch]

/-- A committed batch stays in the log. -/
theorem Step.mem_written {c : Call} {h h' : History} (hstep : Step c h h') {b : BatchWrite}
    (hb : b ∈ h.written) : b ∈ h'.written := by
  cases hstep with
  | refused => exact hb
  | revised rows => exact hb
  | opened call rows idle run held => exact hb
  | prepared call screened counts => exact hb
  | wrote t origin held running => exact List.mem_append_left _ hb

theorem logged_step {c : Call} {h h' : History} (hstep : Step c h h') (hlogged : h.Logged) :
    h'.Logged := by
  have hruns : ∀ b ∈ h.written, ∃ l ∈ h'.store.ledger, l.key = b.run.key :=
    fun b hb => hstep.exists_key (hlogged.runs b hb)
  cases hstep with
  | refused => exact hlogged
  | revised rows =>
    obtain ⟨f, hf, rfl⟩ := rows
    exact ⟨hlogged.inventory, hlogged.usage, hlogged.attribution, hlogged.audit, hruns,
      hlogged.held⟩
  | opened call rows idle run held =>
    obtain ⟨f, hf, rfl⟩ := rows
    exact ⟨hlogged.inventory, hlogged.usage, hlogged.attribution, hlogged.audit, hruns,
      hlogged.held⟩
  | prepared call screened counts =>
    exact ⟨hlogged.inventory, hlogged.usage, hlogged.attribution, hlogged.audit, hruns,
      hlogged.held⟩
  | @wrote b t origin held running =>
    have hnew : ∃ l ∈ (h.store.withBatch b t).ledger, l.key = b.run.key := by
      obtain ⟨l, hl, hkey, -⟩ := running
      refine ⟨_, List.mem_map_of_mem hl, ?_⟩
      rw [(LedgerRow.change_claimed b.run.key t l).key_eq, hkey]
    refine ⟨?_, ?_, ?_, ?_, ?_, ?_⟩
    · rw [Store.withBatch, hlogged.inventory, List.flatMap_append, List.flatMap_singleton]
    · rw [Store.withBatch, hlogged.usage, List.flatMap_append, List.flatMap_singleton]
    · rw [Store.withBatch, hlogged.attribution, List.flatMap_append, List.flatMap_singleton]
    · rw [Store.withBatch, List.map_append, hlogged.audit, List.map_append]
      rfl
    · exact List.forall_mem_append.2 ⟨hruns, List.forall_mem_singleton.2 hnew⟩
    · exact List.forall_mem_append.2 ⟨hlogged.held, List.forall_mem_singleton.2 held⟩

/-- What loads have in hand or have written went through their checks. -/
structure Checked (h : History) : Prop where
  prepared : ∀ b ∈ h.prepared, b.Screened
  written : ∀ b ∈ h.written, b.Screened

theorem checked_step {c : Call} {h h' : History} (byLoad : c.ByLoad) (hstep : Step c h h')
    (hchecked : h.Checked) : h'.Checked := by
  cases hstep with
  | refused => exact hchecked
  | revised rows => exact ⟨hchecked.prepared, hchecked.written⟩
  | opened call rows idle run held => exact ⟨hchecked.prepared, hchecked.written⟩
  | @prepared b call screened counts =>
    refine ⟨List.forall_mem_append.2 ⟨hchecked.prepared, ?_⟩, hchecked.written⟩
    exact List.forall_mem_singleton.2 screened
  | @wrote b t origin held running =>
    have hb : b.Screened := by
      rcases origin with hc | hb | ⟨screened, -⟩
      · exact absurd byLoad hc
      · exact hchecked.prepared b hb
      · exact screened
    refine ⟨hchecked.prepared, List.forall_mem_append.2 ⟨hchecked.written, ?_⟩⟩
    exact List.forall_mem_singleton.2 hb

variable {h : History}

/-- Of two rows of a pipeline, the one of the earlier run is over. -/
theorem not_active_of_lt (hdated : h.Dated) (horderly : h.store.Orderly) {l l' : LedgerRow}
    (hl : l ∈ h.store.ledger) (hl' : l' ∈ h.store.ledger) (hpipeline : l.pipeline = l'.pipeline)
    (hlt : l.date < l'.date) : ¬ l.Active := by
  have hdates : h.store.ledger.Pairwise fun a b => a.date < b.date := by
    have hincreasing := hdated.increasing_key
    rw [← hdated.ledger, List.pairwise_map] at hincreasing
    exact hincreasing
  -- It is not known which of the rows stands first; the wrong order is against the dates.
  have hover : h.store.ledger.Pairwise fun a b =>
      a.pipeline = b.pipeline → a.date < b.date → ¬ a.Active :=
    horderly.ended.imp fun hab hp _ => hab hp
  have hflip : h.store.ledger.Pairwise
      (flip fun a b => a.pipeline = b.pipeline → a.date < b.date → ¬ a.Active) :=
    hdates.imp fun hab _ hba => absurd hba (Int.lt_asymm hab)
  exact hover.forall_of_forall_of_flip (fun a _ _ hlt => absurd hlt (Int.lt_irrefl _)) hflip
    hl hl' hpipeline hlt

/-- A date occurs at most once among rows of the ledger. -/
theorem Dated.countDate_filter (hdated : h.Dated) (p : LedgerRow → Bool) (d : Int) :
    Store.countDate (h.store.ledger.filter p) d =
      if ∃ l ∈ h.store.ledger.filter p, l.date = d then 1 else 0 := by
  have hnodup : ((h.store.ledger.filter p).map (·.date)).Nodup :=
    (List.filter_sublist.map _).nodup hdated.nodup_date
  unfold Store.countDate
  split_ifs with hd
  · obtain ⟨l, hl, rfl⟩ := hd
    rw [List.countP_eq_length_filter, filter_key_eq_singleton hnodup hl, List.length_singleton]
  · exact List.countP_eq_zero.2 fun l hl hdate => hd ⟨l, hl, of_decide_eq_true hdate⟩

/-- All that is known of what loads leave behind. The batches of a pipeline come in the order of
their runs. -/
structure Consistent (h : History) : Prop where
  orderly : h.store.Orderly
  dated : h.Dated
  logged : h.Logged
  checked : h.Checked
  ordered : h.written.Pairwise fun a b =>
    a.run.pipeline = b.run.pipeline → a.run.date.toMicros ≤ b.run.date.toMicros

/-- The rows of a batch are dated as its run. -/
theorem Consistent.extractTs_toRow {h : History} (hc : h.Consistent) {b : BatchWrite}
    (hb : b ∈ h.written) {r : UsageRecord} (hr : r ∈ b.rows.statements) :
    r.toRow.extractTs = b.run.date.toMicros :=
  (hc.checked.written b hb).extractTs_statement hr

/-- The databases at some dates are those of the batches of those dates. -/
theorem Logged.filter_inventory_date {h : History} (hlogged : h.Logged) (hchecked : h.Checked)
    (p : Int → Bool) : (h.store.inventory.filter fun r => p r.extractTs) =
      (h.written.filter fun b => p b.run.date.toMicros).flatMap fun b =>
        b.rows.databases.map InventoryRecord.toRow := by
  rw [hlogged.inventory]
  refine filter_flatMap_of_forall fun b hb => List.forall_mem_map.2 fun r hr => ?_
  rw [(hchecked.written b hb).extractTs_database hr]

/-- The statements at some dates are those of the batches of those dates. -/
theorem Logged.filter_usage_date {h : History} (hlogged : h.Logged) (hchecked : h.Checked)
    (p : Int → Bool) : (h.store.usage.filter fun u => p u.extractTs) =
      (h.written.filter fun b => p b.run.date.toMicros).flatMap fun b =>
        b.rows.statements.map UsageRecord.toRow := by
  rw [hlogged.usage]
  refine filter_flatMap_of_forall fun b hb => List.forall_mem_map.2 fun r hr => ?_
  rw [(hchecked.written b hb).extractTs_statement hr]

/-- The rows of a statement at some dates are its reports in the batches of those dates. -/
theorem Consistent.filter_usage {h : History} (hc : h.Consistent) (p : Int → Bool)
    (handle : String) :
    (h.store.usage.filter fun u => u.handle = handle ∧ p u.extractTs) =
      (Store.reportsIn (h.written.filter fun b => p b.run.date.toMicros) handle).map
        UsageRecord.toRow := by
  have hsplit : (h.store.usage.filter fun u => u.handle = handle ∧ p u.extractTs) =
      (h.store.usage.filter fun u => p u.extractTs).filter fun u => u.handle = handle := by
    rw [List.filter_filter]
    exact List.filter_congr fun u _ => by simp
  rw [hsplit, hc.logged.filter_usage_date hc.checked, Store.reportsIn, List.filter_flatMap,
    List.map_flatMap]
  exact List.flatMap_congr fun b _ => List.filter_map

/-- As dates are those of one run each, a batch at the date of a run is one of that run. -/
theorem Consistent.date_eq_iff {h : History} (hc : h.Consistent) {k : RunKey}
    (hk : ∃ l ∈ h.store.ledger, l.key = k) :
    ∀ b ∈ h.written, b.run.date.toMicros = k.2 ↔ b.run.key = k :=
  fun b hb => ⟨hc.dated.eq_of_date (hc.logged.runs b hb) hk, congrArg Prod.snd⟩

theorem Consistent.filter_written_date {h : History} (hc : h.Consistent) {k : RunKey}
    (hk : ∃ l ∈ h.store.ledger, l.key = k) :
    (h.written.filter fun b => b.run.date.toMicros = k.2) = h.batchesOf k :=
  List.filter_congr fun b hb => decide_eq_decide.2 (hc.date_eq_iff hk b hb)

theorem consistent_fresh (constraints : Constraints) : (fresh constraints).Consistent where
  orderly := orderly_fresh constraints
  dated := dated_fresh constraints
  logged := logged_fresh constraints
  checked := ⟨by simp [fresh], by simp [fresh]⟩
  ordered := .nil

theorem consistent_step {c : Call} {h h' : History} (timely : c.Timely) (byLoad : c.ByLoad)
    (hstep : Step c h h') (hc : h.Consistent) : h'.Consistent where
  orderly := orderly_step hstep hc.orderly
  dated := dated_step timely hstep hc.dated
  logged := logged_step hstep hc.logged
  checked := checked_step byLoad hstep hc.checked
  ordered := by
    cases hstep with
    | refused => exact hc.ordered
    | revised rows => exact hc.ordered
    | opened call rows idle run held => exact hc.ordered
    | prepared call screened counts => exact hc.ordered
    | @wrote b t origin held running =>
      refine List.pairwise_append.2 ⟨hc.ordered, List.pairwise_singleton _ _, ?_⟩
      intro a ha b' hb' hpipeline
      obtain rfl := List.mem_singleton.1 hb'
      obtain ⟨l, hl, hkey, hstatus⟩ := running
      obtain ⟨l', hl', hkey'⟩ := hc.logged.runs a ha
      simp only [LedgerRow.key, Run.key, Prod.mk.injEq] at hkey hkey'
      by_contra hlt
      have hactive : l.Active := LedgerRow.active_iff.2 (.inr hstatus)
      refine not_active_of_lt hc.dated hc.orderly hl hl' ?_ ?_ hactive
      · rw [hkey.1, hkey'.1, hpipeline]
      · omega

theorem consistent_after (constraints : Constraints) {calls : List Call}
    (hcalls : ∀ c ∈ calls, c.Timely ∧ c.ByLoad) : (after constraints calls).Consistent :=
  after_induction (consistent_fresh constraints)
    (fun _ _ _ hq hstep => consistent_step hq.1 hq.2 hstep) hcalls

end History

end FleetProfile
