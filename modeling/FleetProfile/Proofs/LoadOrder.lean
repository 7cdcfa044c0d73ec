import FleetProfile.Proofs.LedgerAnswers
import FleetProfile.Proofs.Settled

/-! The loads of a running run do not see each other: none reads what another of them writes, and
what they write they only append. In whatever order they come, each answers the same and the tables
end up with the same rows. -/
namespace FleetProfile
open Store (BatchWrite asWriteError isHoldable)
open Time (Instant)

/-! ### Loads in turn -/

namespace Load

/-- A load that a run asks for. -/
structure Request where
  chunkSize : Nat
  source : String
  batch : Source.Batch

namespace Request

/-- The load, which no one cancels. -/
def load (q : Request) (s : Store) (r : Run) (now : Instant) : Except Error (LoadReport × Store) :=
  Load.load s q.chunkSize (fun _ => false) q.source q.batch r now

end Request

/-- Loads of a run one after the other, each as its clock reads: what they answer, and the store
after them all. -/
def inTurn (r : Run) (s : Store) :
    List (Request × Instant) → List (Except Error LoadReport) × Store
  | [] => ([], s)
  | (q, now) :: rest =>
    match q.load s r now with
    | .ok (report, s') => (.ok report :: (inTurn r s' rest).1, (inTurn r s' rest).2)
    | .error e => (.error e :: (inTurn r s rest).1, (inTurn r s rest).2)

end Load

/-- A row of the ledger without its sign of life. -/
def LedgerRow.unbeaten (l : LedgerRow) : LedgerRow := { l with heartbeatAt := 0 }

/-- The tables hold the same rows, but for the clock readings of writes. -/
structure Store.SameRows (s s' : Store) : Prop where
  inventory : s.inventory.Perm s'.inventory
  usage : s.usage.Perm s'.usage
  metadata : s.metadata.Perm s'.metadata
  ledger : (s.ledger.map LedgerRow.unbeaten).Perm (s'.ledger.map LedgerRow.unbeaten)
  audit : (s.audit.map AuditRow.untimed).Perm (s'.audit.map AuditRow.untimed)
  attribution : s.attribution.Perm s'.attribution

/-! ### What a load answers -/

/-- Whether tables take the rows of a batch. -/
def Constraints.takes (c : Constraints) (b : BatchWrite) : Except Error Unit :=
  (Store.appendRows { constraints := c } b 0).map fun _ => ()

namespace Store

variable {s s' : Store} {b : BatchWrite} {l : LedgerRow}

/-- Of a store, only the constraints say whether rows are taken. -/
theorem map_appendRows (s : Store) (b : BatchWrite) (d : Int) :
    (s.appendRows b d).map (fun _ => ()) = s.constraints.takes b := by
  have hinventory : s.checkedInventoryRow =
      ({ constraints := s.constraints } : Store).checkedInventoryRow := rfl
  have husage : s.checkedUsageRow =
      ({ constraints := s.constraints } : Store).checkedUsageRow := rfl
  unfold Constraints.takes appendRows
  cases b.rows with
  | inventory records =>
    simp only [hinventory]
    cases convertPasses b.cancelled _ 0 (passes b.chunkSize records) <;> rfl
  | usage records =>
    simp only [husage]
    cases convertPasses b.cancelled _ 0 (passes b.chunkSize records) <;> rfl

/-- To a running run a batch is written if the tables take its rows. -/
theorem insertBatch_of_running {now : Instant} (writable : s.readOnly = false)
    (held : isHoldable b.run.date = true) (heldNow : isHoldable now.canonical = true)
    (hl : l ∈ s.ledger) (hkey : l.key = b.run.key) (hst : l.status = .known .running) :
    s.insertBatch b now = ((s.constraints.takes b).mapError (asWriteError b.rows.table)).map
      fun _ => (b.rows.length, s.withBatch b now.toMicros) := by
  obtain ⟨n, hn, hupdate⟩ := updateRun_of_row now.canonical beat writable held hl hkey
    (StatusCell.holds_eq.2 hst)
  have hclaim : ∃ s₁, s.claim b.run now.canonical = .ok s₁ ∧ s₁.constraints = s.constraints := by
    refine ⟨{ s with
      ledger := s.ledger.map
        (LedgerRow.updated b.run.key (· = .running) (beat now.canonical.toMicros)) }, ?_, rfl⟩
    unfold claim
    rw [hupdate, stamp_of_held heldNow]
    simp only [Except.map, bind, Except.bind, if_neg hn]
  obtain ⟨s₁, hclaim, hsame⟩ := hclaim
  have htakes := s₁.map_appendRows b b.run.date.toMicros
  rw [hsame] at htakes
  rw [← htakes]
  cases happend : s₁.appendRows b b.run.date.toMicros with
  | error e =>
    unfold insertBatch writeBatch
    simp only [hclaim, stamp_of_held held, happend, bind, Except.bind]
    rfl
  | ok s₂ =>
    have hinsert : s.insertBatch b now = .ok (b.rows.length, { s₂ with
        audit := s₂.audit ++ [auditRow b b.run.date.toMicros now.canonical.toMicros] }) := by
      unfold insertBatch writeBatch
      simp only [hclaim, stamp_of_held held, stamp_of_held heldNow, happend, bind, Except.bind]
    obtain ⟨-, -, hs⟩ := insertBatch_eq_ok hinsert
    rw [hinsert, hs]
    rfl

/-- A run whose date no column takes is refused, whatever the clock says. -/
theorem insertBatch_of_unheld (writable : s.readOnly = false)
    (unheld : isHoldable b.run.date = false) (hl : l ∈ s.ledger) (hkey : l.key = b.run.key)
    (hst : l.status = .known .running) : ∃ e, ∀ now, s.insertBatch b now = .error e := by
  refine ⟨asWriteError b.rows.table (.database (.timestamp b.run.date.sqlText)), fun now => ?_⟩
  have hcandidate : l ∈ s.ledger.filter fun l => decide (l.pipeline = b.run.pipeline ∧
      l.status.holds (fun x => decide (x = .running)) = true) := by
    refine List.mem_filter.2 ⟨hl, decide_eq_true ⟨congrArg Prod.fst hkey, ?_⟩⟩
    exact StatusCell.holds_eq.2 hst
  have hstamp : stamp b.run.date = .error (.database (.timestamp b.run.date.sqlText)) := by
    unfold stamp
    rw [unheld]
    rfl
  obtain ⟨first, rest, hrows⟩ := List.exists_cons_of_ne_nil (List.ne_nil_of_mem hcandidate)
  unfold insertBatch writeBatch claim updateRun
  simp only [ensureWritable_eq_ok writable, hrows, rowsAt_cons, hstamp, bind, Except.bind]

end Store

namespace Load

variable {s s' : Store} {r : Run} {l : LedgerRow}

/-- The batch that a load leads to, if it is one that the tables take. -/
def Request.outcome (q : Request) (s : Store) (r : Run) : Except Error BatchWrite := do
  let p ← prepare s q.chunkSize (fun _ => false) q.source q.batch r
  ((s.constraints.takes p.write).mapError (asWriteError p.write.rows.table)).map fun _ => p.write

theorem Request.outcome_eq_ok {q : Request} {b : BatchWrite} (h : q.outcome s r = .ok b) :
    b.run = r ∧ b.Screened ∧ b.CountsRegressions s := by
  simp only [outcome, bind_eq_ok, map_eq_ok] at h
  obtain ⟨p, hprepare, -, -, rfl⟩ := h
  obtain ⟨hrun, -, screened⟩ := prepare_eq_ok hprepare
  exact ⟨hrun, screened, prepare_countsRegressions hprepare⟩

theorem Request.load_of_running (q : Request) {now : Instant} (writable : s.readOnly = false)
    (held : isHoldable r.date = true) (heldNow : isHoldable now.canonical = true)
    (hl : l ∈ s.ledger) (hkey : l.key = r.key) (hst : l.status = .known .running) :
    q.load s r now = (q.outcome s r).map fun b => (b.report, s.withBatch b now.toMicros) := by
  unfold load Load.load outcome
  cases hprepare : prepare s q.chunkSize (fun _ => false) q.source q.batch r with
  | error e => rfl
  | ok p =>
    obtain ⟨hrun, -, -⟩ := prepare_eq_ok hprepare
    have hinsert := Store.insertBatch_of_running (b := p.write) writable (hrun ▸ held) heldNow hl
      (hrun ▸ hkey) hst
    simp only [bind, Except.bind, Bool.false_eq_true, if_false, commit, hinsert]
    cases s.constraints.takes p.write <;> rfl

theorem Request.load_of_unheld (q : Request) (writable : s.readOnly = false)
    (unheld : isHoldable r.date = false) (hl : l ∈ s.ledger) (hkey : l.key = r.key)
    (hst : l.status = .known .running) : ∃ e, ∀ now, q.load s r now = .error e := by
  unfold load Load.load
  cases hprepare : prepare s q.chunkSize (fun _ => false) q.source q.batch r with
  | error e => exact ⟨e, fun now => rfl⟩
  | ok p =>
    obtain ⟨hrun, -, -⟩ := prepare_eq_ok hprepare
    obtain ⟨e, hinsert⟩ := Store.insertBatch_of_unheld (b := p.write) writable (hrun ▸ unheld) hl
      (hrun ▸ hkey) hst
    refine ⟨e, fun now => ?_⟩
    simp only [bind, Except.bind, Bool.false_eq_true, if_false, commit, hinsert]

/-! ### What a load reads -/

/-- Two stores that loads of a run cannot tell apart. -/
structure Alike (r : Run) (s s' : Store) : Prop where
  constraints : s'.constraints = s.constraints
  prior : ∀ source handle, s'.priorAt r.pipeline source handle r.date.toMicros =
    s.priorAt r.pipeline source handle r.date.toMicros

theorem regressions_congr {prior prior' : List (String × Counters)} {records : List UsageRecord}
    (h : ∀ x ∈ records, prior'.lookup x.handle = prior.lookup x.handle) :
    regressions prior' records = regressions prior records :=
  List.filterMap_congr fun x hx => by rw [h x hx]

theorem Alike.detect_eq (alike : Alike r s s') (held : isHoldable r.date = true) (source : String)
    (records : List UsageRecord) : detect s' r source records = detect s r source records := by
  obtain ⟨m, hm, hlookup⟩ :=
    s.lookup_priorCounters r.pipeline source (records.map (·.handle)) held
  obtain ⟨m', hm', hlookup'⟩ :=
    s'.lookup_priorCounters r.pipeline source (records.map (·.handle)) held
  have hsame : regressions m' records = regressions m records := by
    refine regressions_congr fun x _ => ?_
    rw [hlookup, hlookup', alike.prior]
  unfold detect priorOf
  rw [hm, hm']
  simp only [bind, Except.bind, hsame]

theorem Alike.outcome_eq (alike : Alike r s s') (held : isHoldable r.date = true) (q : Request) :
    q.outcome s' r = q.outcome s r := by
  have hprepare : prepare s' q.chunkSize (fun _ => false) q.source q.batch r =
      prepare s q.chunkSize (fun _ => false) q.source q.batch r := by
    unfold prepare
    simp only [alike.detect_eq held]
  unfold Request.outcome
  rw [hprepare, alike.constraints]

end Load

/-! ### What is written -/

namespace Store

/-- The store with batches, each committed at a time. -/
def withBatches (s : Store) (bs : List (BatchWrite × Int)) : Store :=
  bs.foldl (fun s x => s.withBatch x.1 x.2) s

variable {s : Store} {bs bs' : List (BatchWrite × Int)}

/-- A table that each batch appends rows to gets the rows of all batches. -/
theorem table_withBatches {α : Type} {table : Store → List α} {rowsOf : BatchWrite → List α}
    (grows : ∀ s b t, table (s.withBatch b t) = table s ++ rowsOf b) (s : Store)
    (bs : List (BatchWrite × Int)) :
    table (s.withBatches bs) = table s ++ (bs.map Prod.fst).flatMap rowsOf := by
  induction bs generalizing s with
  | nil => simp [withBatches]
  | cons x bs ih =>
    have hrest := ih (s.withBatch x.1 x.2)
    rw [grows, List.append_assoc] at hrest
    exact hrest

/-- In whatever order batches come, and whenever, they leave the same rows. -/
theorem sameRows_withBatches (hperm : (bs.map Prod.fst).Perm (bs'.map Prod.fst)) :
    (s.withBatches bs).SameRows (s.withBatches bs') := by
  have htable {α : Type} (table : Store → List α) (rowsOf : BatchWrite → List α)
      (grows : ∀ s b t, table (s.withBatch b t) = table s ++ rowsOf b) :
      (table (s.withBatches bs)).Perm (table (s.withBatches bs')) := by
    rw [table_withBatches grows, table_withBatches grows]
    exact (hperm.flatMap_right rowsOf).append_left _
  refine ⟨htable (·.inventory) _ fun _ _ _ => rfl, htable (·.usage) _ fun _ _ _ => rfl,
    htable (·.metadata) (fun _ => []) fun _ _ _ => (List.append_nil _).symm,
    htable (fun s => s.ledger.map LedgerRow.unbeaten) (fun _ => []) fun s b t => ?_,
    htable (fun s => s.audit.map AuditRow.untimed)
      (fun b => [auditRow b b.run.date.toMicros 0]) fun s b t => ?_,
    htable (·.attribution) _ fun _ _ _ => rfl⟩
  · rw [withBatch, List.map_map, List.append_nil]
    refine List.map_congr_left fun l _ => ?_
    simp only [Function.comp_apply, LedgerRow.updated]
    split_ifs <;> rfl
  · rw [withBatch, List.map_append]
    rfl

end Store

/-! ### Any order -/

namespace History

variable {h : History} {r : Run} {l : LedgerRow}

open Load (Request inTurn Alike)

/-- The batches that loads write, with the times of their commits. -/
def accepted (s : Store) (r : Run) (jobs : List (Request × Instant)) : List (BatchWrite × Int) :=
  jobs.filterMap fun j => (j.1.outcome s r).toOption.map (·, j.2.toMicros)

theorem map_fst_accepted (s : Store) (r : Run) (jobs : List (Request × Instant)) :
    (accepted s r jobs).map Prod.fst =
      (jobs.map Prod.fst).filterMap fun q => (q.outcome s r).toOption := by
  rw [accepted, List.map_filterMap, List.filterMap_map]
  refine List.filterMap_congr fun j _ => ?_
  simp only [Function.comp_apply, Option.map_map]
  exact Option.map_id'

/-- Each load of a running run answers and writes what it would alone. -/
theorem inTurn_of_running {jobs : List (Request × Instant)}
    (hclock : ∀ j ∈ jobs, isHoldable j.2.canonical = true) (hc : h.Consistent)
    (writable : h.store.readOnly = false) (held : isHoldable r.date = true)
    (hl : l ∈ h.store.ledger) (hkey : l.key = r.key) (hst : l.status = .known .running) :
    inTurn r h.store jobs = (jobs.map fun j => (j.1.outcome h.store r).map (·.report),
      h.store.withBatches (accepted h.store r jobs)) := by
  induction jobs generalizing h l with
  | nil => rfl
  | cons j rest ih =>
    obtain ⟨q, now⟩ := j
    obtain ⟨hnow, hrest⟩ := List.forall_mem_cons.1 hclock
    have hload := q.load_of_running writable held hnow hl hkey hst
    cases houtcome : q.outcome h.store r with
    | error e =>
      rw [houtcome] at hload
      have haccepted : accepted h.store r ((q, now) :: rest) = accepted h.store r rest := by
        rw [accepted, List.filterMap_cons, houtcome]
        rfl
      rw [haccepted, List.map_cons, houtcome, inTurn, hload]
      simp only [Except.map, ih hrest hc writable hl hkey hst]
    | ok b =>
      rw [houtcome] at hload
      obtain ⟨hrun, screened, hcounts⟩ := Request.outcome_eq_ok houtcome
      have hrunning : ∃ l ∈ h.store.ledger, l.key = b.run.key ∧ l.status = .known .running :=
        ⟨l, hl, hrun ▸ hkey, hst⟩
      have hstep : Step (.commit 0 now) h { h with
          store := h.store.withBatch b now.toMicros, written := h.written ++ [b] } :=
        .wrote _ (.inr (.inr ⟨screened, hcounts⟩)) (hrun ▸ held) hrunning
      have hc' := consistent_step (c := .commit 0 now) trivial trivial hstep hc
      have alike : Alike r h.store (h.store.withBatch b now.toMicros) :=
        ⟨rfl, fun _ _ => hstep.priorAt_eq hc hc' ⟨l, hl, hkey⟩⟩
      have haccepted : accepted h.store r ((q, now) :: rest) =
          (b, now.toMicros) :: accepted h.store r rest := by
        rw [accepted, List.filterMap_cons, houtcome]
        rfl
      have hturn := ih hrest hc' writable (List.mem_map_of_mem hl)
        ((LedgerRow.change_claimed b.run.key now.toMicros l).key_eq.trans hkey)
        ((LedgerRow.status_claimed _ _ l).trans hst)
      simp only [accepted, alike.outcome_eq held] at hturn
      rw [haccepted, List.map_cons, houtcome, inTurn, hload]
      simp only [Except.map, hturn]
      rfl

/-- Where no column takes the date of the run, every load is refused. -/
theorem inTurn_of_unheld {s : Store} (writable : s.readOnly = false)
    (unheld : isHoldable r.date = false) (hl : l ∈ s.ledger) (hkey : l.key = r.key)
    (hst : l.status = .known .running) (jobs : List (Request × Instant)) (now : Instant) :
    inTurn r s jobs = (jobs.map fun j => (j.1.load s r now).map Prod.fst, s) := by
  induction jobs with
  | nil => rfl
  | cons j rest ih =>
    obtain ⟨e, hload⟩ := j.1.load_of_unheld writable unheld hl hkey hst
    rw [inTurn, hload, List.map_cons, hload, ih]
    rfl

/-- In whatever order the loads of a running run come, each answers what it would alone, and the
same rows are left. -/
theorem inTurn_perm (constraints : Constraints) (calls : List Call)
    (hcalls : ∀ c ∈ calls, c.Timely ∧ c.ByLoad) (r : Run)
    (running : ∃ l ∈ (after constraints calls).store.ledger,
      l.key = r.key ∧ l.status = .known .running)
    (jobs jobs' : List (Request × Instant))
    (hclock : ∀ j ∈ jobs ++ jobs', isHoldable j.2.canonical = true)
    (hperm : (jobs.map Prod.fst).Perm (jobs'.map Prod.fst)) :
    let s := (after constraints calls).store
    (∃ answer : Request → Except Error LoadReport,
      (∀ q now, isHoldable now.canonical = true → (q.load s r now).map Prod.fst = answer q) ∧
        (inTurn r s jobs).1 = jobs.map (fun j => answer j.1) ∧
        (inTurn r s jobs').1 = jobs'.map fun j => answer j.1) ∧
      (inTurn r s jobs).2.SameRows (inTurn r s jobs').2 := by
  intro s
  obtain ⟨l, hl, hkey, hst⟩ : ∃ l ∈ s.ledger, l.key = r.key ∧ l.status = .known .running := running
  obtain ⟨hjobs, hjobs'⟩ := List.forall_mem_append.1 hclock
  have hc := consistent_after constraints hcalls
  have writable : s.readOnly = false := readOnly_after constraints calls
  by_cases held : isHoldable r.date = true
  · have hturn : ∀ jobs : List (Request × Instant),
        (∀ j ∈ jobs, isHoldable j.2.canonical = true) → inTurn r s jobs =
          (jobs.map fun j => (j.1.outcome s r).map (·.report), s.withBatches (accepted s r jobs)) :=
      fun jobs hjobs => inTurn_of_running hjobs hc writable held hl hkey hst
    rw [hturn jobs hjobs, hturn jobs' hjobs']
    refine ⟨⟨fun q => (q.outcome s r).map (·.report), fun q now hnow => ?_, rfl, rfl⟩, ?_⟩
    · rw [q.load_of_running writable held hnow hl hkey hst]
      show _ = (q.outcome s r).map (·.report)
      cases q.outcome s r <;> rfl
    · refine Store.sameRows_withBatches ?_
      rw [map_fst_accepted, map_fst_accepted]
      exact hperm.filterMap _
  · have unheld := Bool.eq_false_iff.2 held
    have hturn := inTurn_of_unheld writable unheld hl hkey hst
    rw [hturn jobs ⟨0, 0⟩, hturn jobs' ⟨0, 0⟩]
    refine ⟨⟨fun q => (q.load s r ⟨0, 0⟩).map Prod.fst, fun q now _ => ?_, rfl, rfl⟩,
      ⟨.refl _, .refl _, .refl _, .refl _, .refl _, .refl _⟩⟩
    obtain ⟨e, hload⟩ := q.load_of_unheld writable unheld hl hkey hst
    show _ = (q.load s r ⟨0, 0⟩).map Prod.fst
    rw [hload, hload]

/-- Two sources report the same statement, and a table does not take what one of them says. -/
theorem inTurn_perm_capped :
    let r : Run := ⟨"nightly", ⟨1714521600, 0⟩, "1.0"⟩
    let capped : Constraints := { usage := fun u => u.counters.executionCount < 1000 }
    let calls : List Call := [.openRun ⟨r.pipeline, r.version, "test:1", r.date, ⟨0, 0⟩⟩,
      .transition r .pending .running none r.date]
    let s := (after capped calls).store
    let job (source : String) (count : Int) (seconds : Int) : Request × Instant :=
      (⟨100, source, .usage [⟨"A", ⟨0, 0⟩, ⟨0, 0⟩, ⟨count, 0, 0, 0⟩, r.date⟩], 0⟩, ⟨seconds, 0⟩)
    let jobs := [job "east" 10 1714521660, job "west" 5000 1714521661, job "west" 7 1714521662]
    let jobs' := [job "west" 7 1714521663, job "east" 10 1714521664, job "west" 5000 1714521665]
    (inTurn r s jobs).1.map (·.isOk) = [true, false, true] ∧
      (inTurn r s jobs).2.SameRows (inTurn r s jobs').2 := by
  intro r capped calls s job jobs jobs'
  have hcalls : ∀ c ∈ calls, c.Timely ∧ c.ByLoad := by
    simp [calls, r, Call.Timely, Call.ByLoad, Instant.fitsNanos, Instant.toNanos]
  have hclock : ∀ j ∈ jobs ++ jobs', isHoldable j.2.canonical = true := by
    have hregular : ∀ j ∈ jobs ++ jobs', j.2.fitsNanos = true ∧ j.2.isLeap = false := by
      decide +kernel
    exact fun j hj => Store.isHoldable_canonical (hregular j hj).1 (hregular j hj).2
  have hperm : (jobs.map Prod.fst).Perm (jobs'.map Prod.fst) :=
    ((List.Perm.swap _ _ _).cons _).trans (List.Perm.swap _ _ _)
  exact ⟨by decide +kernel,
    (inTurn_perm capped calls hcalls r (by decide +kernel) jobs jobs' hclock hperm).2⟩

end History

end FleetProfile
