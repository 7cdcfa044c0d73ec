import FleetProfile.Proofs.AuditedRows
import FleetProfile.Proofs.Settled

/-! A load looks for regressions before its write, and other clients may come between. They cannot
change what it found: that its run is running when it commits means that the runs before were over
when it read. -/
namespace FleetProfile
open Store (BatchWrite)
open Time (Instant)

/-- The number of regressions that a load of statements for a run finds in a store. -/
def Store.regressionsOf (s : Store) (run : Run) (source : String) (records : List UsageRecord) :
    Except Error Nat :=
  (Load.detect s run source (Load.screenUsage run records).rows).map List.length

/-- A load of statements has in hand what is left of them, for the run and the source it names. -/
theorem Load.prepare_usage_eq_ok {s : Store} {chunkSize : Nat} {cancelled : Nat → Bool}
    {source : String} {records : List UsageRecord} {rejected : Nat} {run : Run} {p : Prepared}
    (h : prepare s chunkSize cancelled source ⟨.usage records, rejected⟩ run = .ok p) :
    p.write.run = run ∧ p.write.source = source ∧
      p.write.rows = .usage (screenUsage run records).rows := by
  simp only [prepare, bind_eq_ok, Except.ok.injEq] at h
  obtain ⟨found, -, rfl⟩ := h
  exact ⟨rfl, rfl, rfl⟩

namespace History

variable {c : Call} {h h' : History} {constraints : Constraints} {before : List Call}

/-! ### What stays -/

/-- A batch in hand keeps its number. -/
theorem Step.getElem?_prepared (hstep : Step c h h') {i : Nat} {b : BatchWrite}
    (hb : h.prepared[i]? = some b) : h'.prepared[i]? = some b := by
  cases hstep with
  | refused => exact hb
  | revised rows => exact hb
  | opened call rows idle run held => exact hb
  | prepared call screened counts =>
    have hlt : i < h.prepared.length := (List.getElem?_eq_some_iff.1 hb).1
    rwa [List.getElem?_append_left hlt]
  | wrote t origin held running => exact hb

theorem Step.mem_audit (hstep : Step c h h') {a : AuditRow} (ha : a ∈ h.store.audit) :
    a ∈ h'.store.audit := by
  cases hstep with
  | refused => exact ha
  | revised rows =>
    obtain ⟨f, -, rfl⟩ := rows
    exact ha
  | opened call rows idle run held =>
    obtain ⟨f, -, rfl⟩ := rows
    exact ha
  | prepared call screened counts => exact ha
  | wrote t origin held running => exact List.mem_append_left _ ha

theorem getElem?_prepared_after {i : Nat} {b : BatchWrite}
    (hb : (after constraints before).prepared[i]? = some b) (more : List Call) :
    (after constraints (before ++ more)).prepared[i]? = some b :=
  after_append_induction (P := fun h => h.prepared[i]? = some b) (Q := fun _ => True) before hb
    (fun _ _ _ _ hstep hb => hstep.getElem?_prepared hb) (fun _ _ => trivial)

theorem mem_audit_after {a : AuditRow} (ha : a ∈ (after constraints before).store.audit)
    (more : List Call) : a ∈ (after constraints (before ++ more)).store.audit :=
  after_append_induction (P := fun h => a ∈ h.store.audit) (Q := fun _ => True) before ha
    (fun _ _ _ _ hstep ha => hstep.mem_audit ha) (fun _ _ => trivial)

/-- Once its run is in the ledger, a batch has the same regressions in all stores to come. -/
theorem countsRegressions_after (hbefore : ∀ c ∈ before, c.Timely ∧ c.ByLoad) {b : BatchWrite}
    (held : Store.isHoldable b.run.date = true)
    (hrun : ∃ l ∈ (after constraints before).store.ledger, l.key = b.run.key)
    (hcounts : b.CountsRegressions (after constraints before).store) {more : List Call}
    (hmore : ∀ c ∈ more, c.Timely ∧ c.ByLoad) :
    b.CountsRegressions (after constraints (before ++ more)).store := by
  have hinv : (after constraints (before ++ more)).Consistent ∧
      (∃ l ∈ (after constraints (before ++ more)).store.ledger, l.key = b.run.key) ∧
      b.CountsRegressions (after constraints (before ++ more)).store := by
    refine after_append_induction (P := fun h => h.Consistent ∧
      (∃ l ∈ h.store.ledger, l.key = b.run.key) ∧ b.CountsRegressions h.store) before
      ⟨consistent_after constraints hbefore, hrun, hcounts⟩ ?_ hmore
    rintro c h h' ⟨timely, byLoad⟩ hstep ⟨hc, hrow, hcounts⟩
    have hc' := consistent_step timely byLoad hstep hc
    exact ⟨hc', hstep.exists_key hrow, hstep.countsRegressions hc hc' held hrow hcounts⟩
  exact hinv.2.2

/-! ### The load -/

section

variable {chunkSize : Nat} {cancelled : Nat → Bool} {source : String} {batch : Source.Batch}
  {r : Run} {p : Load.Prepared}

/-- What a load has in hand stays there, whatever comes between. -/
theorem getElem?_prepared_of_prepare
    (hread : Load.prepare (after constraints before).store chunkSize cancelled source batch r =
      .ok p) (between : List Call) :
    (after constraints (before ++ .prepare chunkSize cancelled source batch r ::
      between)).prepared[(after constraints before).prepared.length]? = some p.write := by
  have hnew : (after constraints
      (before ++ [.prepare chunkSize cancelled source batch r])).prepared =
        (after constraints before).prepared ++ [p.write] := by
    rw [after_append, List.foldl_cons, List.foldl_nil, step, hread]
  have hkept := getElem?_prepared_after (hnew ▸ List.getElem?_concat_length) between
  rwa [List.append_assoc, List.singleton_append] at hkept

theorem store_commit {i : Nat} {b : BatchWrite} (hb : h.prepared[i]? = some b) {now : Instant}
    {n : Nat} {s : Store} (hcommit : h.store.insertBatch b now = .ok (n, s)) :
    (h.step (.commit i now)).store = s := by
  simp only [step, hb, write, hcommit]

end

/-- Of a load that reads at one time and commits at another, the regressions in the audit are those
of the store at the commit and for good. -/
theorem regressions_of_commit (constraints : Constraints) (before between : List Call)
    (hbefore : ∀ c ∈ before, c.Timely ∧ c.ByLoad) (hbetween : ∀ c ∈ between, c.Timely ∧ c.ByLoad)
    (r : Run) (hr : r ∈ (after constraints before).opened) (chunkSize : Nat)
    (cancelled : Nat → Bool) (source : String) (records : List UsageRecord) (rejected : Nat)
    (p : Load.Prepared)
    (hread : Load.prepare (after constraints before).store chunkSize cancelled source
      ⟨.usage records, rejected⟩ r = .ok p)
    (now : Instant) (n : Nat) (s : Store) :
    let i := (after constraints before).prepared.length
    let begun := before ++
      .prepare chunkSize cancelled source ⟨.usage records, rejected⟩ r :: between
    let calls := begun ++ [.commit i now]
    (after constraints begun).store.insertBatch p.write now = .ok (n, s) →
      (after constraints calls).store = s ∧
        ∃ row, s.audit = (after constraints begun).store.audit ++ [row] ∧ row.key = r.key ∧
          row.source = source ∧ row.table = .usage ∧
          (after constraints begun).store.regressionsOf r source records = .ok row.regressions ∧
          ∀ more, (∀ c ∈ more, c.Timely ∧ c.ByLoad) →
            row ∈ (after constraints (calls ++ more)).store.audit ∧
              (after constraints (calls ++ more)).store.regressionsOf r source records =
                .ok row.regressions := by
  intro i begun calls hcommit
  obtain ⟨hrun, hsource, hrows⟩ := Load.prepare_usage_eq_ok hread
  obtain ⟨held, -, hs⟩ := Store.insertBatch_eq_ok hcommit
  -- The row of the run was there when the load read.
  have hrow : ∃ l ∈ (after constraints before).store.ledger, l.key = p.write.run.key := by
    rw [hrun, ← List.mem_map, (consistent_after constraints hbefore).dated.ledger]
    exact List.mem_map_of_mem hr
  have hcounts : ∀ more, (∀ c ∈ more, c.Timely ∧ c.ByLoad) →
      (after constraints (before ++ more)).store.regressionsOf r source records =
        .ok p.write.regressions := by
    intro more hmore
    have hcount := countsRegressions_after hbefore held hrow
      (Load.prepare_countsRegressions hread) hmore
    rwa [BatchWrite.CountsRegressions, hrun, hsource, hrows] at hcount
  have hbegun : ∀ c ∈ (.prepare chunkSize cancelled source ⟨.usage records, rejected⟩ r ::
      between : List Call), c.Timely ∧ c.ByLoad :=
    List.forall_mem_cons.2 ⟨⟨trivial, trivial⟩, hbetween⟩
  have hdone : (after constraints calls).store = s := by
    rw [after_append]
    exact store_commit (getElem?_prepared_of_prepare hread between) hcommit
  have haudit : s.audit = (after constraints begun).store.audit ++
      [Store.auditRow p.write p.write.run.date.toMicros now.toMicros] := by rw [hs]; rfl
  refine ⟨hdone, _, haudit, congrArg Run.key hrun, hsource, ?_, hcounts _ hbegun,
    fun more hmore => ⟨?_, ?_⟩⟩
  · show p.write.rows.table = .usage
    rw [hrows]
    rfl
  · refine mem_audit_after ?_ more
    rw [hdone, haudit]
    exact List.mem_append_right _ List.mem_cons_self
  · have hcommitted : ∀ c ∈ .commit i now :: more, c.Timely ∧ c.ByLoad :=
      List.forall_mem_cons.2 ⟨⟨trivial, trivial⟩, hmore⟩
    have hall := List.forall_mem_append.2 ⟨hbegun, hcommitted⟩
    rw [List.append_assoc, List.append_assoc]
    exact hcounts _ hall

/-- While a load of the second run is on its way, another source commits, an open of the pipeline
is refused and another pipeline is begun. -/
theorem regressions_of_commit_between :
    let r : Run := ⟨"nightly", ⟨1714525200, 0⟩, "1.0"⟩
    let report (handle : String) : List UsageRecord :=
      [⟨handle, ⟨0, 0⟩, ⟨0, 0⟩, ⟨3, 20, 30, 40⟩, r.date⟩]
    let before := oneReport ++ [.openRun ⟨r.pipeline, r.version, "test:1", r.date, ⟨0, 0⟩⟩,
      .transition r .pending .running none r.date]
    let between : List Call := [
      .load 100 (fun _ => false) "east" ⟨.usage (report "A"), 0⟩ r r.date,
      .openRun ⟨r.pipeline, r.version, "test:2", ⟨1714525260, 0⟩, ⟨0, 0⟩⟩,
      .openRun ⟨"hourly", r.version, "test:2", ⟨1714525260, 0⟩, ⟨0, 0⟩⟩]
    let calls := before ++
      .prepare 100 (fun _ => false) "prod" ⟨.usage (report "A"), 0⟩ r :: between ++
        [.commit 0 ⟨1714525320, 0⟩]
    let ended := after {} (calls ++ [.transition r .running .succeeded none ⟨1714525380, 0⟩])
    ended.store.Succeeded r.key ∧ ended.store.regressionsOf r "prod" (report "A") = .ok 1 := by
  intro r report before between calls ended
  have hbefore : ∀ c ∈ before, c.Timely ∧ c.ByLoad := by
    refine List.forall_mem_append.2 ⟨timely_oneReport, ?_⟩
    simp [Call.Timely, Call.ByLoad, r, Instant.fitsNanos, Instant.toNanos]
  have hbetween : ∀ c ∈ between, c.Timely ∧ c.ByLoad := by
    simp [between, Call.Timely, Call.ByLoad, Instant.fitsNanos, Instant.toNanos]
  have hload : (do
      let p ← Load.prepare (after {} before).store 100 (fun _ => false) "prod"
        ⟨.usage (report "A"), 0⟩ r
      (after {} (before ++ Call.prepare 100 (fun _ => false) "prod" ⟨.usage (report "A"), 0⟩ r ::
        between)).store.insertBatch p.write ⟨1714525320, 0⟩).isOk = true := by decide +kernel
  obtain ⟨⟨n, s⟩, hload⟩ := isOk_iff.1 hload
  obtain ⟨p, hread, hcommit⟩ := bind_eq_ok.1 hload
  obtain ⟨-, row, -, -, -, -, hcount, hmore⟩ := regressions_of_commit {} before between hbefore
    hbetween r (by decide +kernel) 100 _ "prod" (report "A") 0 p hread _ n s hcommit
  have hnumber : (after {} before).prepared.length = 0 := by decide +kernel
  rw [hnumber] at hmore
  obtain ⟨-, hlater⟩ := hmore [.transition r .running .succeeded none ⟨1714525380, 0⟩]
    (List.forall_mem_singleton.2 ⟨trivial, trivial⟩)
  have hone : (after {} (before ++ Call.prepare 100 (fun _ => false) "prod"
      ⟨.usage (report "A"), 0⟩ r :: between)).store.regressionsOf r "prod" (report "A") =
      .ok 1 := by decide +kernel
  exact ⟨by decide +kernel, hlater.trans (hcount.symm.trans hone)⟩

end History

end FleetProfile
