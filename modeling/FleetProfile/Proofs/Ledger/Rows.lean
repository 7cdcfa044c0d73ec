import FleetProfile.Proofs.Chain
import FleetProfile.Proofs.Instant
import FleetProfile.Store.Ledger
import Mathlib.Tactic.Common

/-! What the calls of the ledger do to its rows. A row belongs to its run for good, and a row whose
run is over is not changed any more. -/
namespace FleetProfile
open Store (isActive)

/-- What tells a run from all others in the tables. -/
abbrev RunKey := String × Int

def Run.key (r : Run) : RunKey := (r.pipeline, r.date.toMicros)

def MetadataRow.key (m : MetadataRow) : RunKey := (m.pipeline, m.date)

theorem StatusCell.holds_eq {c : StatusCell} {st : RunStatus} :
    c.holds (fun x => decide (x = st)) = true ↔ c = .known st := by
  cases c <;> simp [holds]

namespace LedgerRow

def key (l : LedgerRow) : RunKey := (l.pipeline, l.date)

/-- The run of the row is not over. -/
def Active (l : LedgerRow) : Prop := l.status.holds isActive = true

instance (l : LedgerRow) : Decidable l.Active := inferInstanceAs (Decidable (_ = true))

/-- What one call may do to a row. -/
inductive Change : LedgerRow → LedgerRow → Prop
  | none {l : LedgerRow} : Change l l
  | beat {l : LedgerRow} (t : Int) (active : l.Active) : Change l (Store.beat t l)
  | move {l : LedgerRow} {source target : RunStatus} (error : Option String) (t : Int)
      (status : l.status = .known source) (legal : source.canBecome target = true) :
      Change l (Store.moveTo target error t l)
  | bury {l : LedgerRow} (message : String) (t : Int) (active : l.Active) :
      Change l (Store.bury message t l)

/-- The row after an update of the rows of a run whose state is accepted. -/
def updated (key : RunKey) (accepts : RunStatus → Bool) (change : LedgerRow → LedgerRow)
    (l : LedgerRow) : LedgerRow :=
  if l.key = key ∧ l.status.holds accepts = true then change l else l

theorem active_congr {l l' : LedgerRow} (h : l'.status = l.status) : l'.Active ↔ l.Active := by
  unfold Active
  rw [h]

theorem active_of_canBecome {l : LedgerRow} {source target : RunStatus}
    (status : l.status = .known source) (legal : source.canBecome target = true) : l.Active := by
  unfold Active
  rw [status]
  cases source <;> cases target <;> simp_all [RunStatus.canBecome, StatusCell.holds, isActive,
    RunStatus.isTerminal]

theorem not_active_bury (message : String) (t : Int) (l : LedgerRow) :
    ¬ (Store.bury message t l).Active := by
  simp [Active, Store.bury, StatusCell.holds, isActive, RunStatus.isTerminal]

namespace Change

variable {l l' : LedgerRow}

theorem key_eq (h : Change l l') : l'.key = l.key := by
  cases h <;> rfl

theorem eq_of_not_active (h : Change l l') (ended : ¬ l.Active) : l' = l := by
  cases h with
  | none => rfl
  | beat t active => exact absurd active ended
  | move error t status legal => exact absurd (active_of_canBecome status legal) ended
  | bury message t active => exact absurd active ended

/-- No change revives a run. -/
theorem active_of_active (h : Change l l') (active : l'.Active) : l.Active := by
  by_contra ended
  rw [h.eq_of_not_active ended] at active
  exact ended active

theorem exists_known (h : Change l l') (known : ∃ st, l.status = .known st) :
    ∃ st, l'.status = .known st := by
  cases h with
  | none => exact known
  | beat t active => exact known
  | move error t status legal => exact ⟨_, rfl⟩
  | bury message t active => exact ⟨_, rfl⟩

end Change

theorem change_updated (key : RunKey) {accepts : RunStatus → Bool}
    {change : LedgerRow → LedgerRow}
    (h : ∀ l, l.status.holds accepts = true → Change l (change l)) (l : LedgerRow) :
    Change l (updated key accepts change l) := by
  unfold updated
  split_ifs with hit
  · exact h l hit.2
  · exact .none

/-- What a batch does to the rows before it writes. -/
theorem change_claimed (key : RunKey) (t : Int) (l : LedgerRow) :
    Change l (updated key (· = .running) (Store.beat t) l) := by
  refine change_updated key (fun l hst => .beat _ ?_) l
  unfold Active
  rw [StatusCell.holds_eq.1 hst]
  rfl

/-- A batch leaves the state of a row as it is. -/
theorem status_claimed (key : RunKey) (t : Int) (l : LedgerRow) :
    (updated key (· = .running) (Store.beat t) l).status = l.status := by
  unfold updated
  split_ifs <;> rfl

end LedgerRow

namespace Store
open Time (Instant)

variable {s s' : Store}

/-- Rows of the ledger were changed in place, and nothing else. -/
def Revises (s s' : Store) : Prop :=
  ∃ f : LedgerRow → LedgerRow,
    (∀ l, LedgerRow.Change l (f l)) ∧ s' = { s with ledger := s.ledger.map f }

theorem Revises.metadata_eq (h : s.Revises s') : s'.metadata = s.metadata := by
  obtain ⟨f, -, rfl⟩ := h
  rfl

theorem Revises.map_key_eq (h : s.Revises s') :
    s'.ledger.map LedgerRow.key = s.ledger.map LedgerRow.key := by
  obtain ⟨f, hf, rfl⟩ := h
  rw [List.map_map]
  exact List.map_congr_left fun l _ => (hf l).key_eq

theorem rowsAt_nil {α : Type} (date : Instant) (dateOf : α → Int) :
    rowsAt date dateOf [] = .ok [] := rfl

theorem rowsAt_cons {α : Type} (date : Instant) (dateOf : α → Int) (r : α) (rest : List α) :
    rowsAt date dateOf (r :: rest) =
      stamp date >>= fun d => .ok ((r :: rest).filter fun r => dateOf r = d) := rfl

theorem rowsAt_eq_ok {α : Type} {date : Instant} {dateOf : α → Int} {rows hits : List α}
    (h : rowsAt date dateOf rows = .ok hits) :
    hits = rows.filter (fun r => dateOf r = date.toMicros) ∧
      (hits ≠ [] → isHoldable date = true) := by
  cases rows with
  | nil =>
    rw [rowsAt_nil] at h
    obtain rfl : [] = hits := Except.ok.inj h
    simp
  | cons r rest =>
    simp only [rowsAt_cons, bind_eq_ok, stamp_eq_ok, Except.ok.injEq] at h
    obtain ⟨d, ⟨held, rfl⟩, rfl⟩ := h
    exact ⟨rfl, fun _ => held⟩

section

variable {run : Run} {accepts : RunStatus → Bool}

theorem mem_hits {l : LedgerRow} :
    l ∈ (s.ledger.filter fun l => decide (l.pipeline = run.pipeline ∧
        l.status.holds accepts = true)).filter (fun l => l.date = run.date.toMicros) ↔
      l ∈ s.ledger ∧ l.key = run.key ∧ l.status.holds accepts = true := by
  simp only [List.mem_filter, decide_eq_true_eq, LedgerRow.key, Run.key, Prod.mk.injEq]
  tauto

/-- The rows that an update changes are those at the date of one that it found. -/
theorem map_hits {change : LedgerRow → LedgerRow} {hit : LedgerRow} (hkey : hit.key = run.key) :
    (s.ledger.map fun l => if decide (l.pipeline = run.pipeline ∧
        l.status.holds accepts = true) = true ∧ l.date = hit.date then change l else l) =
      s.ledger.map (LedgerRow.updated run.key accepts change) := by
  have hdate : hit.date = run.date.toMicros := congrArg Prod.snd hkey
  refine List.map_congr_left fun l _ => if_congr ?_ rfl rfl
  simp only [LedgerRow.key, Run.key, Prod.mk.injEq, decide_eq_true_eq, hdate]
  tauto

/-- An update that is not refused changes nothing, or all rows of the run whose state it accepts. -/
theorem updateRun_eq_ok {now : Instant} {change : Int → LedgerRow → LedgerRow} {n : Nat}
    (h : s.updateRun run accepts now change = .ok (n, s')) :
    (n = 0 ∧ s' = s) ∨
      (n ≠ 0 ∧ isHoldable run.date = true ∧ isHoldable now = true ∧
        (∃ l ∈ s.ledger, l.key = run.key ∧ l.status.holds accepts = true) ∧
        s' = { s with
          ledger := s.ledger.map (LedgerRow.updated run.key accepts (change now.toMicros)) }) := by
  simp only [updateRun, bind_eq_ok] at h
  obtain ⟨_, -, hits, hrows, h⟩ := h
  obtain ⟨hhits, held⟩ := rowsAt_eq_ok hrows
  cases hits with
  | nil =>
    simp only [Except.ok.injEq, Prod.mk.injEq] at h
    exact .inl ⟨h.1.symm, h.2.symm⟩
  | cons hit rest =>
    simp only [bind_eq_ok, stamp_eq_ok, Except.ok.injEq, Prod.mk.injEq] at h
    obtain ⟨t, ⟨hnow, rfl⟩, rfl, rfl⟩ := h
    obtain ⟨hin, hkey, hstatus⟩ := mem_hits.1 (hhits ▸ List.mem_cons_self)
    refine .inr ⟨by simp, held (by simp), hnow, ⟨hit, hin, hkey, hstatus⟩, ?_⟩
    rw [map_hits hkey]

end

/-! ### The calls -/

theorem transition_eq_ok {r : Run} {source target : RunStatus} {error : Option String}
    {now : Instant} (h : s.transition r source target error now = .ok s') :
    source.canBecome target = true ∧ isHoldable r.date = true ∧ isHoldable now = true ∧
      (∃ l ∈ s.ledger, l.key = r.key ∧ l.status = .known source) ∧
      s' = { s with
        ledger := s.ledger.map
          (LedgerRow.updated r.key (· = source) (moveTo target error now.toMicros)) } := by
  unfold transition at h
  split_ifs at h with legal
  simp only [bind_eq_ok] at h
  obtain ⟨⟨n, s₁⟩, hupdate, h⟩ := h
  rcases updateRun_eq_ok hupdate with ⟨rfl, rfl⟩ | ⟨hn, hdate, hnow, ⟨l, hl, hkey, hst⟩, hs⟩
  · -- Without a row in the state the call is refused, whatever the reason it gives.
    rw [if_pos rfl] at h
    simp only [bind_eq_ok] at h
    obtain ⟨entry, -, h⟩ := h
    cases entry <;> simp at h
  · rw [if_neg hn] at h
    obtain rfl : s₁ = s' := Except.ok.inj h
    exact ⟨legal, hdate, hnow, ⟨l, hl, hkey, StatusCell.holds_eq.1 hst⟩, hs⟩

theorem heartbeat_eq_ok {r : Run} {now : Instant} (h : s.heartbeat r now = .ok s') :
    isHoldable r.date = true ∧ isHoldable now = true ∧
      (∃ l ∈ s.ledger, l.key = r.key ∧ l.Active) ∧
      s' = { s with
        ledger := s.ledger.map (LedgerRow.updated r.key isActive (beat now.toMicros)) } := by
  simp only [heartbeat, bind_eq_ok] at h
  obtain ⟨⟨n, s₁⟩, hupdate, h⟩ := h
  rcases updateRun_eq_ok hupdate with ⟨rfl, rfl⟩ | ⟨hn, hdate, hnow, hrow, hs⟩
  · rw [if_pos rfl] at h
    exact absurd h (by simp)
  · rw [if_neg hn] at h
    obtain rfl : s₁ = s' := Except.ok.inj h
    exact ⟨hdate, hnow, hrow, hs⟩

theorem claim_eq_ok {r : Run} {now : Instant} (h : s.claim r now = .ok s') :
    isHoldable r.date = true ∧ isHoldable now = true ∧
      (∃ l ∈ s.ledger, l.key = r.key ∧ l.status = .known .running) ∧
      s' = { s with
        ledger := s.ledger.map (LedgerRow.updated r.key (· = .running) (beat now.toMicros)) } := by
  simp only [claim, bind_eq_ok] at h
  obtain ⟨⟨n, s₁⟩, hupdate, h⟩ := h
  rcases updateRun_eq_ok hupdate with ⟨rfl, rfl⟩ | ⟨hn, hdate, hnow, ⟨l, hl, hkey, hst⟩, hs⟩
  · rw [if_pos rfl] at h
    exact absurd h (by simp)
  · rw [if_neg hn] at h
    obtain rfl : s₁ = s' := Except.ok.inj h
    exact ⟨hdate, hnow, ⟨l, hl, hkey, StatusCell.holds_eq.1 hst⟩, hs⟩

theorem transition_revises {r : Run} {source target : RunStatus} {error : Option String}
    {now : Instant} (h : s.transition r source target error now = .ok s') : s.Revises s' := by
  obtain ⟨legal, -, -, -, hs⟩ := transition_eq_ok h
  refine ⟨_, LedgerRow.change_updated _ fun l hst => ?_, hs⟩
  exact .move error _ (StatusCell.holds_eq.1 hst) legal

theorem heartbeat_revises {r : Run} {now : Instant} (h : s.heartbeat r now = .ok s') :
    s.Revises s' := by
  obtain ⟨-, -, -, hs⟩ := heartbeat_eq_ok h
  exact ⟨_, LedgerRow.change_updated _ fun l hst => .beat _ hst, hs⟩

end Store

end FleetProfile
