import FleetProfile.Proofs.PriorCounters

/-! What came before a run in its pipeline is over for good. A load of the run therefore compares
with the same counters at every later time, and the regressions that it reported can be found
again. -/
namespace FleetProfile
open Store (BatchWrite)

namespace Store

variable {s s' : Store}

/-- Changes in place do not make a success of a run that is over, or undo it. -/
theorem succeeded_map_iff {f : LedgerRow → LedgerRow} (hf : ∀ l, LedgerRow.Change l (f l))
    (hs : s'.ledger = s.ledger.map f) {k : RunKey}
    (hover : ∀ l ∈ s.ledger, l.key = k → ¬ l.Active) : s'.Succeeded k ↔ s.Succeeded k := by
  unfold Succeeded
  rw [hs]
  constructor
  · rintro ⟨l', hl', hkey, hstatus⟩
    obtain ⟨l, hl, rfl⟩ := List.mem_map.1 hl'
    rw [(hf l).key_eq] at hkey
    rw [(hf l).eq_of_not_active (hover l hl hkey)] at hstatus
    exact ⟨l, hl, hkey, hstatus⟩
  · rintro ⟨l, hl, hkey, hstatus⟩
    have heq := (hf l).eq_of_not_active (hover l hl hkey)
    exact ⟨l, List.mem_map.2 ⟨l, hl, heq⟩, hkey, hstatus⟩

theorem length_regressions {prior : List (String × Counters)} {records : List UsageRecord} :
    (Load.regressions prior records).length = records.countP fun r =>
      (prior.lookup r.handle).any fun before => ¬ Counters.Continues before r.counters := by
  unfold Load.regressions
  rw [List.length_filterMap_eq_countP]
  refine List.countP_congr fun r _ => ?_
  cases prior.lookup r.handle with
  | none => simp
  | some before => by_cases hle : Counters.Continues before r.counters <;> simp [hle]

/-- A batch counts the statements whose counters are not beyond what they were before its run. -/
theorem countsRegressions_iff {b : BatchWrite} (held : isHoldable b.run.date = true) :
    b.CountsRegressions s ↔ b.regressions = b.rows.statements.countP fun r =>
      (s.priorAt b.run.pipeline b.source r.handle b.run.date.toMicros).any fun before =>
        ¬ Counters.Continues before r.counters := by
  obtain ⟨m, hm, hlookup⟩ :=
    s.lookup_priorCounters b.run.pipeline b.source (b.rows.statements.map (·.handle)) held
  have hcount : (Load.regressions m b.rows.statements).length = b.rows.statements.countP fun r =>
      (s.priorAt b.run.pipeline b.source r.handle b.run.date.toMicros).any fun before =>
        ¬ Counters.Continues before r.counters := by
    rw [length_regressions]
    refine List.countP_congr fun r hr => ?_
    rw [hlookup, if_pos (List.mem_map_of_mem hr)]
  have hdetect : Load.detect s b.run b.source b.rows.statements =
      .ok (Load.regressions m b.rows.statements) := by
    unfold Load.detect Load.priorOf
    rw [hm]
    rfl
  unfold BatchWrite.CountsRegressions
  rw [hdetect, ← hcount]
  exact ⟨fun h => (Except.ok.inj h).symm, fun h => congrArg Except.ok h.symm⟩

end Store

namespace History

variable {c : Call} {h h' : History} {pipeline source handle : String} {d : Int}

/-- No call changes how the runs before one of the pipeline ended, or what was written in them. -/
theorem Step.past_eq (hstep : Step c h h') (hc : h.Consistent)
    (hrun : ∃ l ∈ h.store.ledger, l.key = (pipeline, d)) {d' : Int} (hlt : d' < d) :
    (h'.store.Succeeded (pipeline, d') ↔ h.store.Succeeded (pipeline, d')) ∧
      h'.batchesOf (pipeline, d') = h.batchesOf (pipeline, d') := by
  have hover : ∀ l ∈ h.store.ledger, l.key = (pipeline, d') → ¬ l.Active := by
    intro l hl hkey
    obtain ⟨l', hl', hkey'⟩ := hrun
    simp only [LedgerRow.key, Prod.mk.injEq] at hkey hkey'
    refine not_active_of_lt hc.dated hc.orderly hl hl' (hkey.1.trans hkey'.1.symm) ?_
    omega
  cases hstep with
  | refused => exact ⟨Iff.rfl, rfl⟩
  | revised rows =>
    obtain ⟨f, hf, rfl⟩ := rows
    exact ⟨Store.succeeded_map_iff hf rfl hover, rfl⟩
  | @opened q s r call rows idle run held =>
    obtain ⟨f, hf, hs⟩ := rows
    have hledger : s.ledger = h.store.ledger.map f := by rw [hs]
    rw [← Store.succeeded_map_iff hf hledger hover]
    -- The new row is of a run that has not even begun.
    exact ⟨by simp [Store.Succeeded, Store.recorded], rfl⟩
  | prepared call screened counts => exact ⟨Iff.rfl, rfl⟩
  | @wrote b t origin held running =>
    refine ⟨Store.succeeded_map_iff (LedgerRow.change_claimed b.run.key t) rfl hover, ?_⟩
    have hne : b.run.key ≠ (pipeline, d') := by
      intro hkey
      obtain ⟨l, hl, hl', hstatus⟩ := running
      exact hover l hl (hl'.trans hkey) (LedgerRow.active_iff.2 (.inr hstatus))
    simp [batchesOf, hne]

/-- So what is read of them is the same after any call. -/
theorem Step.priorAt_eq (hstep : Step c h h') (hc : h.Consistent) (hc' : h'.Consistent)
    (hrun : ∃ l ∈ h.store.ledger, l.key = (pipeline, d)) :
    h'.store.priorAt pipeline source handle d = h.store.priorAt pipeline source handle d := by
  have hreported {d' : Int} (hlt : d' < d) :
      h'.Reported pipeline source handle d' ↔ h.Reported pipeline source handle d' := by
    obtain ⟨hsucceeded, hbatches⟩ := hstep.past_eq hc hrun hlt
    rw [Reported, Reported, hsucceeded, hbatches]
  have hset : {d' | d' < d ∧ h'.Reported pipeline source handle d'} =
      {d' | d' < d ∧ h.Reported pipeline source handle d'} :=
    Set.ext fun d' => and_congr_right hreported
  ext counters
  rw [priorAt_eq_some_iff hc, priorAt_eq_some_iff hc', LatestReport, LatestReport, hset]
  refine exists_congr fun d' => and_congr_right fun hd' => ?_
  rw [reports, reports, (hstep.past_eq hc hrun hd'.1.1).2]

/-- Nor does it change how many regressions a batch of the run has. -/
theorem Step.countsRegressions (hstep : Step c h h') (hc : h.Consistent) (hc' : h'.Consistent)
    {b : BatchWrite} (held : Store.isHoldable b.run.date = true)
    (hrun : ∃ l ∈ h.store.ledger, l.key = b.run.key) (hcounts : b.CountsRegressions h.store) :
    b.CountsRegressions h'.store := by
  rw [Store.countsRegressions_iff held] at hcounts ⊢
  rw [hcounts]
  refine List.countP_congr fun r _ => ?_
  rw [hstep.priorAt_eq hc hc' hrun]

/-- The regressions of every batch are those that the store still shows. -/
structure Counted (h : History) : Prop where
  idle : h.prepared = []
  counts : ∀ b ∈ h.written, b.CountsRegressions h.store

theorem counted_step (whole : c.Whole) (hstep : Step c h h') (hc : h.Consistent)
    (hc' : h'.Consistent) (hcounted : h.Counted) : h'.Counted := by
  have hkept : ∀ b : BatchWrite, Store.isHoldable b.run.date = true →
      (∃ l ∈ h.store.ledger, l.key = b.run.key) → b.CountsRegressions h.store →
      b.CountsRegressions h'.store := fun _ => hstep.countsRegressions hc hc'
  have hold : ∀ b ∈ h.written, b.CountsRegressions h'.store :=
    fun b hb => hkept b (hc.logged.held b hb) (hc.logged.runs b hb) (hcounted.counts b hb)
  cases hstep with
  | refused => exact hcounted
  | revised rows => exact ⟨hcounted.idle, hold⟩
  | opened call rows idle run held => exact ⟨hcounted.idle, hold⟩
  | prepared call screened counts => exact absurd whole call
  | @wrote b t origin held running =>
    refine ⟨hcounted.idle, List.forall_mem_append.2 ⟨hold, List.forall_mem_singleton.2 ?_⟩⟩
    obtain ⟨l, hl, hkey, -⟩ := running
    refine hkept b held ⟨l, hl, hkey⟩ ?_
    rcases origin with hload | hprepared | ⟨-, hcounts⟩
    · exact absurd whole.byLoad hload
    · rw [hcounted.idle] at hprepared
      exact absurd hprepared (by simp)
    · exact hcounts

theorem counted_after (constraints : Constraints) {calls : List Call}
    (hcalls : ∀ c ∈ calls, c.Timely ∧ c.Whole) :
    (after constraints calls).Consistent ∧ (after constraints calls).Counted := by
  refine after_induction (P := fun h => h.Consistent ∧ h.Counted)
    ⟨consistent_fresh constraints, rfl, by simp [fresh]⟩ (fun c h h' hq hstep hP => ?_) hcalls
  have hc' := consistent_step hq.1 hq.2.byLoad hstep hP.1
  exact ⟨hc', counted_step hq.2 hstep hP.1 hc' hP.2⟩

end History

end FleetProfile
