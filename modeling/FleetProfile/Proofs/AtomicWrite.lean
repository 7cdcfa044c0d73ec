import FleetProfile.Proofs.StorableRecords

/-! A batch is written in passes, between which its cancellation is looked at, within one
transaction. Where the passes part is not seen from outside: the batch is written whole, or the
store is as it was. -/
namespace FleetProfile
open Store (BatchWrite asWriteError convertPasses isHoldable passes stamp)
open Time (Instant)

/-- The first records of a table, up to a number. -/
def TableRows.take (n : Nat) : TableRows → TableRows
  | .inventory records => .inventory (records.take n)
  | .usage records => .usage (records.take n)

namespace Store.BatchWrite

/-- The batch without a cancellation, written in passes of a size. -/
def undisturbed (b : BatchWrite) (size : Nat) : BatchWrite :=
  { b with chunkSize := size, cancelled := fun _ => false }

/-- There is no pass before which the cancellation of the batch shows. -/
def Unseen (b : BatchWrite) : Prop :=
  ∀ i, i * max b.chunkSize 1 < b.rows.length → b.cancelled i = false

/-- The pass of a number is the first one before which the cancellation of the batch shows. -/
structure SeenBefore (b : BatchWrite) (i : Nat) : Prop where
  pass : i * max b.chunkSize 1 < b.rows.length
  seen : b.cancelled i = true
  first : ∀ j < i, b.cancelled j = false

theorem unseen_undisturbed (b : BatchWrite) (size : Nat) : (b.undisturbed size).Unseen :=
  fun _ _ => rfl

end Store.BatchWrite

namespace Store

variable {s : Store} {b : BatchWrite} {now : Instant}

/-! ### Passes -/

/-- Passes convert what is before the first one that sees the cancellation, and then stop. -/
theorem convertPasses_of_seen {α β : Type} {cancelled : Nat → Bool} {convert : α → Except Error β}
    {size i n : Nat} {records : List α} (hpass : i * max size 1 < records.length)
    (seen : cancelled (n + i) = true) (first : ∀ j < i, cancelled (n + j) = false)
    (before : ∀ r ∈ records.take (i * max size 1), ∃ row, convert r = .ok row) :
    convertPasses cancelled convert n (passes size records) = .error .cancelled := by
  have hne : records ≠ [] := List.ne_nil_of_length_pos (by omega)
  -- By the number of passes before: the first one takes its records away and moves the number on.
  induction i generalizing n records with
  | zero =>
    rw [Nat.add_zero] at seen
    rw [passes, dif_neg hne, convertPasses, if_pos seen]
  | succ i ih =>
    have hrest : i * max size 1 < (records.drop (max size 1)).length := by
      rw [Nat.succ_mul] at hpass
      rw [List.length_drop]
      omega
    have hnow : cancelled n = false := first 0 (Nat.succ_pos i)
    have hlater : ∀ j, cancelled (n + 1 + j) = cancelled (n + (j + 1)) := by
      intro j
      rw [Nat.add_assoc, Nat.add_comm 1 j]
    obtain ⟨rows, hrows⟩ : ∃ rows, (records.take (max size 1)).mapM convert = .ok rows := by
      refine exists_mapM_iff.2 fun r hr => before r ?_
      exact List.take_subset_take_left _ (Nat.le_mul_of_pos_left _ (Nat.succ_pos i)) hr
    have hbefore : ∀ r ∈ (records.drop (max size 1)).take (i * max size 1),
        ∃ row, convert r = .ok row := by
      intro r hr
      apply before
      rw [List.take_drop] at hr
      rw [Nat.succ_mul, Nat.add_comm]
      exact List.mem_of_mem_drop hr
    have hstop := ih hrest (hlater i ▸ seen) (fun j hj => hlater j ▸ first (j + 1) (by omega))
      hbefore (List.ne_nil_of_length_pos (by omega))
    rw [passes, dif_neg hne, convertPasses, hnow]
    simp only [Bool.false_eq_true, if_false, hrows, hstop, bind, Except.bind]

theorem appendRows_of_unseen (unseen : b.Unseen) (size : Nat) (d : Int) :
    s.appendRows (b.undisturbed size) d = s.appendRows b d := by
  unfold BatchWrite.Unseen at unseen
  unfold appendRows
  simp only [BatchWrite.undisturbed]
  cases hrows : b.rows with
  | inventory records =>
    rw [hrows] at unseen
    simp only
    rw [convertPasses_of_unseen _ fun _ _ => rfl, convertPasses_of_unseen]
    intro i hi
    rw [Nat.zero_add]
    exact unseen i hi
  | usage records =>
    rw [hrows] at unseen
    simp only
    rw [convertPasses_of_unseen _ fun _ _ => rfl, convertPasses_of_unseen]
    intro i hi
    rw [Nat.zero_add]
    exact unseen i hi

theorem appendRows_of_seen {i : Nat} (seen : b.SeenBefore i)
    (before : s.constraints.TakesRows (b.rows.take (i * max b.chunkSize 1))) (d : Int) :
    s.appendRows b d = .error .cancelled := by
  obtain ⟨hpass, hseen, hfirst⟩ := seen
  unfold appendRows
  cases hrows : b.rows with
  | inventory records =>
    rw [hrows] at hpass before
    have hstop : convertPasses b.cancelled s.checkedInventoryRow 0 (passes b.chunkSize records) =
        .error .cancelled := by
      apply convertPasses_of_seen hpass
      · rwa [Nat.zero_add]
      · intro j hj
        rw [Nat.zero_add, hfirst j hj]
      · exact fun r hr => exists_checkedInventoryRow_iff.2 (before.databases r hr)
    simp only [hstop, bind, Except.bind]
  | usage records =>
    rw [hrows] at hpass before
    have hstop : convertPasses b.cancelled s.checkedUsageRow 0 (passes b.chunkSize records) =
        .error .cancelled := by
      apply convertPasses_of_seen hpass
      · rwa [Nat.zero_add]
      · intro j hj
        rw [Nat.zero_add, hfirst j hj]
      · exact fun r hr => exists_checkedUsageRow_iff.2 (before.statements r hr)
    simp only [hstop, bind, Except.bind]

/-! ### Faults -/

theorem stamp_eq_error {t : Instant} {e : Error} (h : stamp t = .error e) :
    ∃ fault, e = .database fault := by
  unfold stamp at h
  split_ifs at h
  exact ⟨_, (Except.error.inj h).symm⟩

theorem checked_eq_error {α : Type} {table : Table} {ok : α → Bool} {row : α} {e : Error}
    (h : checked table ok row = .error e) : ∃ fault, e = .database fault := by
  unfold checked at h
  split_ifs at h
  exact ⟨_, (Except.error.inj h).symm⟩

theorem checkedInventoryRow_eq_error {r : InventoryRecord} {e : Error}
    (h : s.checkedInventoryRow r = .error e) : ∃ fault, e = .database fault := by
  simp only [checkedInventoryRow, inventoryRow, bind_eq_error] at h
  rcases h with (h | ⟨_, -, h | ⟨_, -, h⟩⟩) | ⟨_, -, h⟩
  · exact stamp_eq_error h
  · exact stamp_eq_error h
  · exact absurd h (by simp)
  · exact checked_eq_error h

theorem checkedUsageRow_eq_error {r : UsageRecord} {e : Error}
    (h : s.checkedUsageRow r = .error e) : ∃ fault, e = .database fault := by
  simp only [checkedUsageRow, usageRow, bind_eq_error] at h
  rcases h with (h | ⟨_, -, h | ⟨_, -, h | ⟨_, -, h⟩⟩⟩) | ⟨_, -, h⟩
  · exact stamp_eq_error h
  · exact stamp_eq_error h
  · exact stamp_eq_error h
  · exact absurd h (by simp)
  · exact checked_eq_error h

theorem updateRun_eq_error {run : Run} {accepts : RunStatus → Bool}
    {change : Int → LedgerRow → LedgerRow} {e : Error}
    (h : s.updateRun run accepts now change = .error e) : ∃ fault, e = .database fault := by
  simp only [updateRun, bind_eq_error] at h
  rcases h with h | ⟨_, -, h | ⟨hits, -, h⟩⟩
  · unfold ensureWritable at h
    split_ifs at h
    exact ⟨_, (Except.error.inj h).symm⟩
  · cases hrows : s.ledger.filter fun l => decide (l.pipeline = run.pipeline ∧
        l.status.holds accepts = true) with
    | nil =>
      rw [hrows, rowsAt_nil] at h
      exact absurd h (by simp)
    | cons l rest =>
      rw [hrows, rowsAt_cons] at h
      rcases bind_eq_error.1 h with h | ⟨_, -, h⟩
      · exact stamp_eq_error h
      · exact absurd h (by simp)
  · cases hits with
    | nil => exact absurd h (by simp)
    | cons hit rest =>
      rcases bind_eq_error.1 h with h | ⟨_, -, h⟩
      · exact stamp_eq_error h
      · exact absurd h (by simp)

/-- A write claims its run first, and is refused as the claim is. -/
theorem insertBatch_of_claim {e : Error} (h : s.claim b.run now.canonical = .error e) :
    s.insertBatch b now = .error (asWriteError b.rows.table e) := by
  unfold insertBatch writeBatch
  simp only [h, bind, Except.bind]

/-- A claim is refused for a fault of the database, or because the run takes no more writes. -/
theorem claim_eq_error {run : Run} {e : Error} (h : s.claim run now = .error e) :
    (∃ fault, e = .database fault) ∨ e = .ofInactive run := by
  simp only [claim, bind_eq_error] at h
  rcases h with h | ⟨⟨n, s'⟩, -, h⟩
  · exact .inl (updateRun_eq_error h)
  · split_ifs at h
    exact .inr (Except.error.inj h).symm

theorem claim_of_not_running {run : Run} (writable : s.readOnly = false)
    (held : isHoldable run.date = true)
    (none : ∀ l ∈ s.ledger, l.key = run.key → l.status ≠ .known .running) :
    s.claim run now = .error (.ofInactive run) := by
  have hupdate := updateRun_of_none now beat writable held fun l hl hkey =>
    Bool.eq_false_iff.2 fun h => none l hl hkey (StatusCell.holds_eq.1 h)
  unfold claim
  simp only [hupdate, bind, Except.bind, if_true]

/-- Where no one cancels a batch, tables refuse it for a fault of the database. -/
theorem takes_eq_error {c : Constraints} {size : Nat} {e : Error}
    (h : c.takes (b.undisturbed size) = .error e) : ∃ fault, e = .database fault := by
  unfold Constraints.takes appendRows at h
  simp only [BatchWrite.undisturbed] at h
  rw [map_eq_error] at h
  cases hrows : b.rows with
  | inventory records =>
    simp only [hrows] at h
    rw [convertPasses_of_unseen _ fun _ _ => rfl] at h
    rcases bind_eq_error.1 h with h | ⟨_, -, h⟩
    · obtain ⟨r, -, hr⟩ := mapM_eq_error h
      exact checkedInventoryRow_eq_error hr
    · exact absurd h (by simp)
  | usage records =>
    simp only [hrows] at h
    rw [convertPasses_of_unseen _ fun _ _ => rfl] at h
    rcases bind_eq_error.1 h with h | ⟨_, -, h⟩
    · obtain ⟨r, -, hr⟩ := mapM_eq_error h
      exact checkedUsageRow_eq_error hr
    · exact absurd h (by simp)

/-! ### The write -/

/-- A write answers the same whatever the size of its passes, if none sees a cancellation. -/
theorem insertBatch_of_unseen (unseen : b.Unseen) (size : Nat) :
    s.insertBatch (b.undisturbed size) now = s.insertBatch b now := by
  have happend : ∀ (s' : Store) (d : Int),
      s'.appendRows (b.undisturbed size) d = s'.appendRows b d :=
    fun s' d => appendRows_of_unseen unseen size d
  unfold insertBatch writeBatch
  simp only [happend]
  rfl

/-- What the look-up of the run and the sign of life on it need: that the store is open for writing,
and that columns take the date of the run and the time of the write. -/
structure Admits (s : Store) (run : Run) (now : Instant) : Prop where
  writable : s.readOnly = false
  held : isHoldable run.date = true
  heldNow : isHoldable now = true

variable {l : LedgerRow}

/-- One record that a table does not take keeps out the batch, at whatever position it is. -/
theorem insertBatch_of_refused (admitted : s.Admits b.run now.canonical)
    (hl : l ∈ s.ledger) (hkey : l.key = b.run.key) (hst : l.status = .known .running)
    (unseen : b.Unseen) (refused : ¬ s.constraints.TakesRows b.rows) :
    ∃ detail, s.insertBatch b now = .error (.sinkWrite b.rows.table.name detail) := by
  rw [← insertBatch_of_unseen unseen b.chunkSize,
    insertBatch_of_running (b := b.undisturbed b.chunkSize) admitted.writable admitted.held
      admitted.heldNow hl hkey hst]
  cases htakes : s.constraints.takes (b.undisturbed b.chunkSize) with
  | ok u => exact absurd ((exists_takes_iff s.constraints rfl).1 ⟨u, htakes⟩) refused
  | error e =>
    obtain ⟨fault, rfl⟩ := takes_eq_error htakes
    exact ⟨_, rfl⟩

theorem insertBatch_of_taken (admitted : s.Admits b.run now.canonical)
    (hl : l ∈ s.ledger) (hkey : l.key = b.run.key) (hst : l.status = .known .running)
    (unseen : b.Unseen) (taken : s.constraints.TakesRows b.rows) :
    s.insertBatch b now = .ok (b.rows.length, s.withBatch b now.toMicros) := by
  obtain ⟨u, htakes⟩ :=
    (exists_takes_iff s.constraints (b := b.undisturbed b.chunkSize) rfl).2 taken
  rw [← insertBatch_of_unseen unseen b.chunkSize,
    insertBatch_of_running (b := b.undisturbed b.chunkSize) admitted.writable admitted.held
      admitted.heldNow hl hkey hst, htakes]
  rfl

/-- A cancellation that shows before a pass keeps out the batch, after whatever passes. -/
theorem insertBatch_of_seen (admitted : s.Admits b.run now.canonical)
    (hl : l ∈ s.ledger) (hkey : l.key = b.run.key) (hst : l.status = .known .running) {i : Nat}
    (seen : b.SeenBefore i)
    (before : s.constraints.TakesRows (b.rows.take (i * max b.chunkSize 1))) :
    s.insertBatch b now = .error .cancelled := by
  have htakes : s.constraints.takes b = .error .cancelled :=
    map_eq_error.2 (appendRows_of_seen (s := { constraints := s.constraints }) seen before 0)
  rw [insertBatch_of_running admitted.writable admitted.held admitted.heldNow hl hkey hst, htakes]
  rfl

/-- Otherwise the database refuses the look-up, or finds nothing to compare a date with. -/
theorem insertBatch_of_not_admitted (refused : ¬ s.Admits b.run now.canonical) :
    (∃ detail, s.insertBatch b now = .error (.sinkWrite b.rows.table.name detail)) ∨
      s.insertBatch b now = .error (.ofInactive b.run) := by
  cases hclaim : s.claim b.run now.canonical with
  | ok s' =>
    obtain ⟨held, heldNow, -⟩ := claim_eq_ok hclaim
    have writable : s.readOnly = false := by
      simp only [claim, updateRun, ensureWritable, bind_eq_ok] at hclaim
      obtain ⟨_, ⟨_, hwritable, -⟩, -⟩ := hclaim
      split_ifs at hwritable with hreading
      exact Bool.eq_false_iff.2 hreading
    exact absurd ⟨writable, held, heldNow⟩ refused
  | error e =>
    rw [insertBatch_of_claim hclaim]
    rcases claim_eq_error hclaim with ⟨fault, rfl⟩ | rfl
    · exact .inl ⟨_, rfl⟩
    · exact .inr rfl

/-- A batch with a first pass is not written if the cancellation shows before it. -/
theorem insertBatch_of_cancelled (b : BatchWrite) (now : Instant) (cancelled : b.cancelled 0 = true)
    (pass : b.rows.length ≠ 0) : ∃ e, s.insertBatch b now = .error e := by
  have hseen : b.SeenBefore 0 := ⟨by omega, cancelled, fun j hj => absurd hj (Nat.not_lt_zero j)⟩
  have hnone : ∀ s' : Store, s'.constraints.TakesRows (b.rows.take (0 * max b.chunkSize 1)) := by
    intro s'
    rw [Nat.zero_mul]
    cases b.rows with
    | inventory records => exact Constraints.takesRows_inventory.2 (List.forall_mem_nil _)
    | usage records => exact Constraints.takesRows_usage.2 (List.forall_mem_nil _)
  cases hwrite : s.writeBatch b now.canonical with
  | error e =>
    unfold insertBatch
    simp only [hwrite]
    exact ⟨_, rfl⟩
  | ok s' =>
    simp only [writeBatch, bind_eq_ok] at hwrite
    obtain ⟨s₁, -, d, -, s₂, happend, -⟩ := hwrite
    rw [appendRows_of_seen hseen (hnone s₁) d] at happend
    exact absurd happend (by simp)

end Store

namespace History

/-- A batch that is refused leaves everything as it was. -/
theorem step_of_refused {h : History} {b : BatchWrite} {now : Instant} {e : Error}
    (herror : h.store.insertBatch b now = .error e) : h.step (.insertBatch b now) = h := by
  simp only [step, write, herror]

/-- What a write in passes answers, in terms of the batch alone. If no pass sees a cancellation, the
size of passes does not matter: the batch is written whole to a running run, unless a table does not
take one of its records. If one does, the batch is cancelled, as far as tables take what comes
before. Where the run cannot even be looked up, the batch is refused without saying more. A batch
that is not written leaves the store as it was. -/
theorem write_in_passes (h : History) (b : BatchWrite) (now : Instant) :
    let s := h.store
    let admitted := s.Admits b.run now.canonical
    let running := ∃ l ∈ s.ledger, l.key = b.run.key ∧ l.status = .known .running
    (b.Unseen → ∀ size, s.insertBatch (b.undisturbed size) now = s.insertBatch b now) ∧
      (admitted → ¬ running → s.insertBatch b now = .error (.ofInactive b.run)) ∧
      (admitted → running → b.Unseen → ¬ s.constraints.TakesRows b.rows →
        ∃ detail, s.insertBatch b now = .error (.sinkWrite b.rows.table.name detail)) ∧
      (admitted → running → b.Unseen → s.constraints.TakesRows b.rows →
        s.insertBatch b now = .ok (b.rows.length, s.withBatch b now.toMicros)) ∧
      (admitted → running → ∀ i, b.SeenBefore i →
        s.constraints.TakesRows (b.rows.take (i * max b.chunkSize 1)) →
        s.insertBatch b now = .error .cancelled) ∧
      (¬ admitted →
        (∃ detail, s.insertBatch b now = .error (.sinkWrite b.rows.table.name detail)) ∨
          s.insertBatch b now = .error (.ofInactive b.run)) ∧
      ∀ e, s.insertBatch b now = .error e → h.step (.insertBatch b now) = h := by
  intro s admitted running
  refine ⟨Store.insertBatch_of_unseen, ?_, ?_, ?_, ?_, Store.insertBatch_of_not_admitted,
    fun e => step_of_refused⟩
  · intro hadmitted idle
    have hclaim : s.claim b.run now.canonical = .error (.ofInactive b.run) :=
      Store.claim_of_not_running hadmitted.writable hadmitted.held
        fun l hl hkey hst => idle ⟨l, hl, hkey, hst⟩
    exact Store.insertBatch_of_claim hclaim
  · rintro hadmitted ⟨l, hl, hkey, hst⟩ unseen refused
    exact Store.insertBatch_of_refused hadmitted hl hkey hst unseen refused
  · rintro hadmitted ⟨l, hl, hkey, hst⟩ unseen taken
    exact Store.insertBatch_of_taken hadmitted hl hkey hst unseen taken
  · rintro hadmitted ⟨l, hl, hkey, hst⟩ i seen before
    exact Store.insertBatch_of_seen hadmitted hl hkey hst seen before

/-- Databases with the numbers of a list, as a run saw them. -/
def numbered (r : Run) (ids : List Int) : TableRows :=
  .inventory (ids.map fun id => ⟨id, "db", .unknown, r.date, r.date⟩)

/-- A batch of databases with the numbers of a list, in passes of two. -/
def inPairs (r : Run) (cancelled : Nat → Bool) (ids : List Int) : BatchWrite where
  run := r
  source := "prod"
  rows := numbered r ids
  chunkSize := 2
  cancelled := cancelled
  rejected := 0
  duplicates := 0
  regressions := 0

/-- The last one of three databases violates the constraint, in the second pass. -/
theorem write_in_passes_last :
    let r : Run := ⟨"nightly", ⟨1714557600, 0⟩, "1.0"⟩
    let b := inPairs r (fun _ => false) [1, 2, 3]
    let h := after { inventory := fun row => row.dbId < 3 } (begun r)
    (∃ detail, h.store.insertBatch b r.date = .error (.sinkWrite "inventory" detail)) ∧
      h.step (.insertBatch b r.date) = h := by
  intro r b h
  have hadmitted : h.store.Admits b.run r.date.canonical :=
    ⟨by decide +kernel, by decide +kernel, by decide +kernel⟩
  obtain ⟨-, -, hrefused, -, -, -, hkept⟩ := write_in_passes h b r.date
  have hviolated : ¬ h.store.constraints.TakesRows b.rows := by
    intro htaken
    have hlast := (htaken.databases ⟨3, "db", .unknown, r.date, r.date⟩ (by decide +kernel)).2
    exact absurd hlast (by decide +kernel)
  obtain ⟨detail, hanswer⟩ := hrefused hadmitted (by decide +kernel)
    (Store.BatchWrite.unseen_undisturbed b 2) hviolated
  exact ⟨⟨detail, hanswer⟩, hkept _ hanswer⟩

/-- A run that was never opened is not refused as one that takes no more writes, if its date is one
that no column takes and another run of the pipeline is running. -/
theorem write_year_10000 :
    let r : Run := ⟨"nightly", ⟨1714557600, 0⟩, "1.0"⟩
    let b := inPairs ⟨"nightly", ⟨253402318799, 0⟩, "1.0"⟩ (fun _ => false) []
    let s := (after {} (begun r)).store
    (¬ ∃ l ∈ s.ledger, l.key = b.run.key ∧ l.status = .known .running) ∧
      s.insertBatch b r.date ≠ .error (.ofInactive b.run) := by
  intro r b s
  constructor
  · decide +kernel
  · intro hanswer
    have hwrong : (s.insertBatch b r.date).map (fun _ => ()) ≠ .error (.ofInactive b.run) := by
      decide +kernel
    exact hwrong (map_eq_error.2 hanswer)

/-- A batch whose cancellation shows before its first pass is refused, and leaves everything as it
was, if it has a first pass. A batch without rows has none, and is written all the same. -/
theorem write_of_cancelled (h : History) (b : BatchWrite) (now : Instant)
    (cancelled : b.cancelled 0 = true) :
    (b.rows.length ≠ 0 → (∃ e, h.store.insertBatch b now = .error e) ∧
        h.step (.insertBatch b now) = h) ∧
      (b.rows.length = 0 →
        h.store.insertBatch b now = h.store.insertBatch (b.undisturbed b.chunkSize) now) := by
  constructor
  · intro pass
    obtain ⟨e, hanswer⟩ := Store.insertBatch_of_cancelled (s := h.store) b now cancelled pass
    exact ⟨⟨e, hanswer⟩, step_of_refused hanswer⟩
  · intro empty
    have hunseen : b.Unseen := by
      intro i hi
      rw [empty] at hi
      exact absurd hi (Nat.not_lt_zero _)
    exact (Store.insertBatch_of_unseen hunseen b.chunkSize).symm

/-- Nothing is written of one database to a running run. -/
theorem write_of_cancelled_one :
    let r : Run := ⟨"nightly", ⟨1714557600, 0⟩, "1.0"⟩
    let b := inPairs r (fun _ => true) [1]
    let h := after {} (begun r)
    h.step (.insertBatch b ⟨1714557660, 0⟩) = h := by
  intro r b h
  obtain ⟨hpass, -⟩ := write_of_cancelled h b ⟨1714557660, 0⟩ rfl
  exact (hpass (by decide)).2

/-- A cancelled batch without rows is committed: it stamps a sign of life on its run, and leaves a
row of the audit. -/
theorem write_of_cancelled_none :
    let r : Run := ⟨"nightly", ⟨1714557600, 0⟩, "1.0"⟩
    let b := inPairs r (fun _ => true) []
    let h := after {} (begun r)
    let h' := h.step (.insertBatch b ⟨1714557660, 0⟩)
    (h.store.insertBatch b ⟨1714557660, 0⟩).isOk = true ∧
      h'.store.ledger ≠ h.store.ledger ∧ h.store.audit = [] ∧ h'.store.audit.length = 1 := by
  decide +kernel

end History

end FleetProfile
