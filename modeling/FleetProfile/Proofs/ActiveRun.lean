import FleetProfile.Proofs.History

/-! A pipeline has at most one run that is not over. The tables hold no such constraint; it follows
from how runs are opened and from what may become of a row. -/
namespace FleetProfile
open Store (BatchWrite)

/-- Every row of the ledger has its row of the runs and a state, and a run of a pipeline was over
before the next one was opened. -/
structure Store.Orderly (s : Store) : Prop where
  rows : ∀ l ∈ s.ledger, ∃ m ∈ s.metadata, m.key = l.key
  known : ∀ l ∈ s.ledger, ∃ st, l.status = .known st
  ended : s.ledger.Pairwise fun a b => a.pipeline = b.pipeline → ¬ a.Active

namespace Store

variable {s s' : Store}

theorem Orderly.congr (h : s.Orderly) (hm : s'.metadata = s.metadata)
    {f : LedgerRow → LedgerRow} (hf : ∀ l, LedgerRow.Change l (f l))
    (hl : s'.ledger = s.ledger.map f) : s'.Orderly where
  rows := by
    rw [hm, hl]
    intro l' hl'
    obtain ⟨l, hmem, rfl⟩ := List.mem_map.1 hl'
    rw [(hf l).key_eq]
    exact h.rows l hmem
  known := by
    rw [hl]
    intro l' hl'
    obtain ⟨l, hmem, rfl⟩ := List.mem_map.1 hl'
    exact (hf l).exists_known (h.known l hmem)
  ended := by
    rw [hl, List.pairwise_map]
    refine h.ended.imp fun {a b} hover hpipeline hactive => ?_
    have hkeys : (f a).pipeline = a.pipeline ∧ (f b).pipeline = b.pipeline :=
      ⟨congrArg Prod.fst (hf a).key_eq, congrArg Prod.fst (hf b).key_eq⟩
    rw [hkeys.1, hkeys.2] at hpipeline
    exact hover hpipeline ((hf a).active_of_active hactive)

theorem Orderly.revises (h : s.Orderly) (hr : s.Revises s') : s'.Orderly := by
  obtain ⟨f, hf, rfl⟩ := hr
  exact h.congr rfl hf rfl

theorem Orderly.withBatch (h : s.Orderly) (b : BatchWrite) (t : Int) : (s.withBatch b t).Orderly :=
  h.congr rfl (LedgerRow.change_claimed b.run.key t) rfl

theorem Orderly.recorded (h : s.Orderly) (r : Run) (runner : String)
    (idle : s.activeRuns r.pipeline = .ok []) : (s.recorded r runner).Orderly where
  rows := by
    simp only [Store.recorded, List.mem_append, List.mem_singleton]
    rintro l (hmem | rfl)
    · obtain ⟨m, hm, hkey⟩ := h.rows l hmem
      exact ⟨m, .inl hm, hkey⟩
    · exact ⟨_, .inr rfl, rfl⟩
  known := by
    simp only [Store.recorded, List.mem_append, List.mem_singleton]
    rintro l (hmem | rfl)
    · exact h.known l hmem
    · exact ⟨_, rfl⟩
  ended := by
    simp only [Store.recorded, List.pairwise_append, List.pairwise_singleton, List.mem_singleton]
    refine ⟨h.ended, trivial, ?_⟩
    rintro l hmem _ rfl hpipeline
    exact not_active_of_activeRuns_eq_nil h.rows h.known idle l hmem hpipeline

/-- Of the rows of a pipeline, only the last one may be of a run that is not over. -/
theorem Orderly.length_active_le_one (h : s.Orderly) (pipeline : String) :
    (s.ledger.filter fun l => l.pipeline = pipeline ∧ l.Active).length ≤ 1 := by
  have hpair : (s.ledger.filter fun l => l.pipeline = pipeline ∧ l.Active).Pairwise
      fun _ _ => False := by
    refine (h.ended.sublist List.filter_sublist).imp_of_mem fun {a b} ha hb hover => ?_
    simp only [List.mem_filter, decide_eq_true_eq] at ha hb
    exact hover (ha.2.1.trans hb.2.1.symm) ha.2.2
  cases hrows : s.ledger.filter fun l => l.pipeline = pipeline ∧ l.Active with
  | nil => simp
  | cons a rest =>
    rw [hrows, List.pairwise_cons] at hpair
    cases rest with
    | nil => simp
    | cons b rest => exact absurd (hpair.1 b List.mem_cons_self) not_false

end Store

namespace LedgerRow

variable {l : LedgerRow}

theorem active_iff : l.Active ↔ l.status = .known .pending ∨ l.status = .known .running := by
  unfold Active
  cases l.status with
  | other text => simp [StatusCell.holds]
  | known st => cases st <;> simp [StatusCell.holds, Store.isActive, RunStatus.isTerminal]

/-- Rows that a beat or a batch is for are of runs that are not over. -/
theorem active_of_running (h : l.status.holds (· = .running) = true) : l.Active :=
  active_iff.2 (.inr (StatusCell.holds_eq.1 h))

/-- The run of the row is over. -/
def Ended (l : LedgerRow) : Prop := l.status = .known .succeeded ∨ l.status = .known .failed

theorem Ended.not_active (h : l.Ended) : ¬ l.Active := by
  rw [active_iff]
  rcases h with h | h <;> simp [h]

end LedgerRow

namespace History

theorem orderly_fresh (constraints : Constraints) : (fresh constraints).store.Orderly where
  rows := by simp [fresh]
  known := by simp [fresh]
  ended := by simp [fresh]

theorem orderly_step {c : Call} {h h' : History} (hstep : Step c h h')
    (horderly : h.store.Orderly) : h'.store.Orderly := by
  cases hstep with
  | refused => exact horderly
  | revised rows => exact horderly.revises rows
  | opened call rows idle run held =>
    subst run
    exact (horderly.revises rows).recorded _ _ idle
  | prepared call screened counts => exact horderly
  | wrote t origin held running => exact horderly.withBatch _ t

theorem orderly_after (constraints : Constraints) (calls : List Call) :
    (after constraints calls).store.Orderly :=
  after_induction (Q := fun _ => True) (orderly_fresh constraints)
    (fun _ _ _ _ hstep => orderly_step hstep) (fun _ _ => trivial)

/-- Whatever clients call in whatever order, at most one run of a pipeline is pending or running. -/
theorem length_pending_or_running_le_one (constraints : Constraints) (calls : List Call)
    (pipeline : String) :
    ((after constraints calls).store.ledger.filter fun l => l.pipeline = pipeline ∧
      (l.status = .known .pending ∨ l.status = .known .running)).length ≤ 1 := by
  have hle := (orderly_after constraints calls).length_active_le_one pipeline
  simpa only [LedgerRow.active_iff] using hle

end History

end FleetProfile
