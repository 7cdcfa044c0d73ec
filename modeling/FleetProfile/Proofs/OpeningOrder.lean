import FleetProfile.Proofs.ActiveRun
import FleetProfile.Proofs.Lists

/-! The order in which runs are opened is the order of their dates, whatever the clocks say. So a
date stands for one run of the whole store, and whoever reads the latest run finds the one that was
opened last. -/
namespace FleetProfile
open Time (Instant)

/-- The row of a run. -/
def Run.toRow (r : Run) : MetadataRow := ⟨r.pipeline, r.date.toMicros, some r.version⟩

namespace Store

variable {s : Store} {t : Instant}

/-- The greatest date is the one that a new run has to be after. -/
theorem latestDate_eq_some {latest : Instant} (h : s.latestDate = some latest) :
    ∃ d, latest = .ofMicros d ∧ ∀ m ∈ s.metadata, m.date ≤ d := by
  unfold latestDate at h
  cases hmax : (s.metadata.map (·.date)).max? with
  | none =>
    rw [hmax] at h
    exact absurd h (by simp)
  | some d =>
    rw [hmax, Option.map_some, Option.some.injEq] at h
    refine ⟨d, h.symm, fun m hm => ?_⟩
    exact (List.max?_eq_some_iff.1 hmax).2 _ (List.mem_map_of_mem hm)

theorem latestDate_eq_none (h : s.latestDate = none) : s.metadata = [] := by
  unfold latestDate at h
  rwa [Option.map_eq_none_iff, List.max?_eq_none_iff, List.map_eq_nil_iff] at h

theorem lt_nextDate (whole : t.nanos % 1000 = 0) :
    ∀ m ∈ s.metadata, m.date < (s.nextDate t).toMicros := by
  unfold nextDate
  cases hlatest : s.latestDate with
  | none => simp [latestDate_eq_none hlatest]
  | some latest =>
    obtain ⟨d, rfl, hmax⟩ := latestDate_eq_some hlatest
    intro m hm
    have hle := hmax m hm
    simp only
    split_ifs with hnow
    · rw [Instant.nextMicro_ofMicros, Instant.toMicros_ofMicros]
      omega
    · have hlt := Instant.lt_toMicros_of_lt (not_not.1 hnow) whole
      omega

theorem nextDate_eq (s : Store) (t : Instant) :
    s.nextDate t = t ∨ ∃ d, s.nextDate t = .ofMicros d := by
  unfold nextDate
  cases hlatest : s.latestDate with
  | none => exact .inl rfl
  | some latest =>
    obtain ⟨d, rfl, -⟩ := latestDate_eq_some hlatest
    simp only
    split_ifs with hnow
    · exact .inr ⟨d + 1, Instant.nextMicro_ofMicros d⟩
    · exact .inl rfl

/-! ### Rows in order -/

theorem Orderly.exists_entryOf (h : s.Orderly) {l : LedgerRow} (m : MetadataRow)
    (hl : l ∈ s.ledger) : ∃ e, entryOf (l, m) = .ok e ∧ e.run = runOf l m := by
  obtain ⟨st, hst⟩ := h.known l hl
  simp only [entryOf, hst, StatusCell.read, bind_eq_ok, Except.ok.injEq]
  exact ⟨_, ⟨st, rfl, rfl⟩, rfl⟩

theorem orderedBy_eq_self {α : Type} {key : α → Int} {rows : List α}
    (h : (rows.map key).Pairwise (· ≤ ·)) : orderedBy key rows = rows := by
  refine List.mergeSort_of_pairwise ((List.pairwise_map.1 h).imp fun hle => ?_)
  exact decide_eq_true hle

/-- Sorted backwards, rows whose numbers grow come in reverse. -/
theorem mergeSort_eq_reverse {α : Type} {key : α → Int} {rows : List α}
    (h : (rows.map key).Pairwise (· < ·)) :
    (rows.mergeSort fun a b => key b ≤ key a) = rows.reverse := by
  have hinj := List.inj_on_of_nodup_map (h.imp Int.ne_of_lt)
  have hsorted : (rows.mergeSort fun a b => key b ≤ key a).Pairwise fun a b => key b ≤ key a := by
    have hbool := List.pairwise_mergeSort
      (fun a b c (hab : decide (key b ≤ key a) = true) hbc =>
        decide_eq_true (Int.le_trans (of_decide_eq_true hbc) (of_decide_eq_true hab)))
      (fun a b => by simp only [Bool.or_eq_true, decide_eq_true_eq]; omega) rows
    exact hbool.imp of_decide_eq_true
  have hreverse : rows.reverse.Pairwise fun a b => key b ≤ key a :=
    List.pairwise_reverse.2 ((List.pairwise_map.1 h).imp Int.le_of_lt)
  refine List.Perm.eq_of_pairwise (fun a b ha hb hba hab => ?_) hsorted hreverse
    ((List.mergeSort_perm _ _).trans (List.reverse_perm _).symm)
  exact hinj (List.mem_mergeSort.1 ha) (List.mem_reverse.1 hb) (Int.le_antisymm hab hba)

end Store

namespace History

/-- The tables of runs list what was opened, with dates that grow. -/
structure Dated (h : History) : Prop where
  metadata : h.store.metadata = h.opened.map Run.toRow
  ledger : h.store.ledger.map LedgerRow.key = h.opened.map Run.key
  increasing : h.opened.Pairwise fun a b => a.date.toMicros < b.date.toMicros

theorem dated_fresh (constraints : Constraints) : (fresh constraints).Dated where
  metadata := rfl
  ledger := rfl
  increasing := .nil

theorem dated_step {c : Call} {h h' : History} (timely : c.Timely) (hstep : Step c h h')
    (hdated : h.Dated) : h'.Dated := by
  cases hstep with
  | refused => exact hdated
  | revised rows =>
    exact ⟨rows.metadata_eq.trans hdated.metadata, rows.map_key_eq.trans hdated.ledger,
      hdated.increasing⟩
  | @opened q s r call rows idle run held =>
    subst call
    have hmetadata := rows.metadata_eq.trans hdated.metadata
    refine ⟨?_, ?_, ?_⟩
    · rw [Store.recorded, hmetadata, List.map_append]
      rfl
    · rw [Store.recorded, List.map_append, rows.map_key_eq, hdated.ledger, List.map_append]
      rfl
    · rw [List.pairwise_append]
      refine ⟨hdated.increasing, List.pairwise_singleton _ _, fun a ha b hb => ?_⟩
      obtain rfl := List.mem_singleton.1 hb
      have hlt := Store.lt_nextDate (Instant.canonical_nanos_mod timely) a.toRow
        (hmetadata ▸ List.mem_map_of_mem ha)
      rw [run, Run.new, Instant.toMicros_canonical]
      exact hlt
  | prepared call screened counts => exact ⟨hdated.metadata, hdated.ledger, hdated.increasing⟩
  | wrote t origin held running =>
    exact ⟨hdated.metadata, (Store.map_key_withBatch _ _ t).trans hdated.ledger, hdated.increasing⟩

theorem dated_after (constraints : Constraints) {calls : List Call}
    (hcalls : ∀ c ∈ calls, c.Timely) : (after constraints calls).Dated :=
  after_induction (dated_fresh constraints) (fun _ _ _ timely hstep => dated_step timely hstep)
    hcalls

/-- The dates of the runs are those that the columns hold. -/
def Exact (h : History) : Prop := ∀ r ∈ h.opened, Instant.ofMicros r.date.toMicros = r.date

theorem exact_step {c : Call} {h h' : History} (regular : c.Regular) (hstep : Step c h h')
    (hexact : h.Exact) : h'.Exact := by
  cases hstep with
  | refused => exact hexact
  | revised rows => exact hexact
  | @opened q s r call rows idle run held =>
    subst call
    have hnew : Instant.ofMicros r.date.toMicros = r.date := by
      rw [run, Run.new]
      rcases s.nextDate_eq q.now.canonical with hdate | ⟨d, hdate⟩
      · rw [hdate, Instant.canonical_canonical]
        exact Instant.ofMicros_toMicros_canonical regular.1 regular.2
      · rw [hdate, Instant.canonical_eq_self (Instant.ofMicros_nanos_mod d),
          Instant.toMicros_ofMicros]
    exact List.forall_mem_append.2 ⟨hexact, List.forall_mem_singleton.2 hnew⟩
  | prepared call screened counts => exact hexact
  | wrote t origin held running => exact hexact

theorem exact_after (constraints : Constraints) {calls : List Call}
    (hcalls : ∀ c ∈ calls, c.Regular) : (after constraints calls).Exact :=
  after_induction (by simp [Exact, fresh]) (fun _ _ _ regular hstep => exact_step regular hstep)
    hcalls

/-! ### Reading back -/

variable {h : History}

namespace Dated

theorem increasing_key (hdated : h.Dated) : (h.opened.map Run.key).Pairwise (·.2 < ·.2) :=
  List.pairwise_map.2 hdated.increasing

theorem nodup_key (hdated : h.Dated) : (h.opened.map Run.key).Nodup :=
  hdated.increasing_key.imp fun hlt heq => by simp [heq] at hlt

theorem nodup_date (hdated : h.Dated) : (h.store.ledger.map (·.date)).Nodup := by
  have hdates : h.store.ledger.map (·.date) = (h.opened.map Run.key).map Prod.snd := by
    rw [← hdated.ledger, List.map_map]
    rfl
  rw [hdates]
  exact List.pairwise_map.2 (hdated.increasing_key.imp Int.ne_of_lt)

/-- A date stands for one run. -/
theorem eq_of_date (hdated : h.Dated) {k k' : RunKey} (hk : ∃ l ∈ h.store.ledger, l.key = k)
    (hk' : ∃ l ∈ h.store.ledger, l.key = k') (hdate : k.2 = k'.2) : k = k' := by
  obtain ⟨l, hl, rfl⟩ := hk
  obtain ⟨l', hl', rfl⟩ := hk'
  rw [List.inj_on_of_nodup_map hdated.nodup_date hl hl' hdate]

/-- Every run has one row for reports. -/
theorem filter_metadata (hdated : h.Dated) {r : Run} (hr : r ∈ h.opened) :
    (h.store.metadata.filter fun m => m.key = r.key) = [r.toRow] := by
  have hnodup : (h.store.metadata.map MetadataRow.key).Nodup := by
    rw [hdated.metadata, List.map_map]
    exact hdated.nodup_key
  have hrow : r.toRow ∈ h.store.metadata := hdated.metadata ▸ List.mem_map_of_mem hr
  exact filter_key_eq_singleton hnodup hrow

theorem joinMetadata_cons (hdated : h.Dated) {l : LedgerRow} {r : Run} (rows : List LedgerRow)
    (hkey : l.key = r.key) (hr : r ∈ h.opened) :
    h.store.joinMetadata (l :: rows) = (l, r.toRow) :: h.store.joinMetadata rows := by
  have hhits := hdated.filter_metadata hr
  simp only [MetadataRow.key, ← hkey, LedgerRow.key, Prod.mk.injEq] at hhits
  unfold Store.joinMetadata
  rw [List.flatMap_cons, hhits]
  rfl

/-- Rows of the ledger beside those for reports are runs that were opened. -/
theorem joinMetadata_eq (hdated : h.Dated) (hexact : h.Exact) {rows : List LedgerRow}
    {runs : List Run} (hkeys : rows.map LedgerRow.key = runs.map Run.key)
    (hopened : ∀ r ∈ runs, r ∈ h.opened) :
    (h.store.joinMetadata rows).map Prod.fst = rows ∧
      ((h.store.joinMetadata rows).map fun x => Store.runOf x.1 x.2) = runs := by
  induction rows generalizing runs with
  | nil =>
    obtain rfl : runs = [] := List.map_eq_nil_iff.1 hkeys.symm
    exact ⟨rfl, rfl⟩
  | cons l rows ih =>
    cases runs with
    | nil => simp at hkeys
    | cons r runs =>
      rw [List.map_cons, List.map_cons, List.cons.injEq] at hkeys
      obtain ⟨hr, hopened⟩ := List.forall_mem_cons.1 hopened
      obtain ⟨hfst, hruns⟩ := ih hkeys.2 hopened
      have hrun : Store.runOf l r.toRow = r := by
        have hkey := hkeys.1
        simp only [LedgerRow.key, Run.key, Prod.mk.injEq] at hkey
        rw [Store.runOf, hkey.1, hkey.2, hexact r hr]
        rfl
      rw [hdated.joinMetadata_cons rows hkeys.1 hr, List.map_cons, List.map_cons, hfst, hruns, hrun]
      exact ⟨rfl, rfl⟩

/-- The dates of such rows grow as those of the runs do. -/
theorem increasing_joinMetadata (hdated : h.Dated) (hexact : h.Exact) {rows : List LedgerRow}
    {runs : List Run} (hkeys : rows.map LedgerRow.key = runs.map Run.key)
    (hruns : runs.Sublist h.opened) :
    ((h.store.joinMetadata rows).map fun x => x.1.date).Pairwise (· < ·) := by
  have hdates : (h.store.joinMetadata rows).map (fun x => x.1.date) =
      (runs.map Run.key).map Prod.snd := by
    rw [← hkeys, ← (hdated.joinMetadata_eq hexact hkeys hruns.subset).1, List.map_map,
      List.map_map, (hdated.joinMetadata_eq hexact hkeys hruns.subset).1]
    rfl
  rw [hdates, List.map_map]
  exact List.pairwise_map.2 (hdated.increasing.sublist hruns)

/-- The entries of all rows are those of the runs, in the order in which they were opened. -/
theorem runs_none (hdated : h.Dated) (hexact : h.Exact) (horderly : h.store.Orderly) :
    ∃ es, h.store.runs none = .ok es ∧ es.map (·.run) = h.opened := by
  have hsorted := hdated.increasing_joinMetadata hexact hdated.ledger (List.Sublist.refl _)
  have hentry : ∀ x ∈ h.store.joinMetadata h.store.ledger,
      ∃ e, Store.entryOf x = .ok e ∧ e.run = Store.runOf x.1 x.2 :=
    fun x hx => horderly.exists_entryOf x.2 (Store.mem_joinMetadata.1 hx).1
  obtain ⟨es, hes, hmap⟩ := exists_mapM_eq_ok hentry
  refine ⟨es, ?_, hmap.trans (hdated.joinMetadata_eq hexact hdated.ledger fun _ hr => hr).2⟩
  have hall : (h.store.ledger.filter fun l => (none : Option String).all (l.pipeline = ·)) =
      h.store.ledger := List.filter_eq_self.2 fun _ _ => rfl
  rw [Store.runs, hall, Store.entries, Store.orderedBy_eq_self (hsorted.imp Int.le_of_lt)]
  exact hes

theorem latestRun_none (hdated : h.Dated) (hexact : h.Exact) (horderly : h.store.Orderly)
    (pipeline : String) :
    ∃ e, h.store.latestRun pipeline none = .ok e ∧
      e.map (·.run) = (h.opened.filter fun r => r.pipeline = pipeline).getLast? := by
  have hkeys : (h.store.ledger.filter fun l => l.pipeline = pipeline).map LedgerRow.key =
      (h.opened.filter fun r => r.pipeline = pipeline).map Run.key := by
    have hfilter := congrArg (List.filter fun k => k.1 = pipeline) hdated.ledger
    rw [List.filter_map, List.filter_map] at hfilter
    exact hfilter
  have hsorted := hdated.increasing_joinMetadata hexact hkeys List.filter_sublist
  obtain ⟨-, hruns⟩ := hdated.joinMetadata_eq hexact hkeys fun r hr => List.mem_of_mem_filter hr
  have hall : (h.store.ledger.filter fun l => l.pipeline = pipeline ∧
      (none : Option RunStatus).all fun t => l.status = .known t) =
      h.store.ledger.filter fun l => l.pipeline = pipeline :=
    List.filter_congr fun l _ => by simp
  unfold Store.latestRun
  simp only [hall, Store.mergeSort_eq_reverse hsorted, List.head?_reverse]
  rw [← hruns, List.getLast?_map]
  cases hlast : (h.store.joinMetadata _).getLast? with
  | none => exact ⟨none, rfl, rfl⟩
  | some x =>
    obtain ⟨hl, -⟩ := Store.mem_joinMetadata.1 (List.mem_of_getLast? hlast)
    obtain ⟨e, he, hrun⟩ := horderly.exists_entryOf x.2 (List.mem_of_mem_filter hl)
    refine ⟨some e, map_eq_ok.2 ⟨e, he, rfl⟩, ?_⟩
    rw [Option.map_some, Option.map_some, hrun]

end Dated

/-- Whatever the clocks say, the rows of both tables are those of the opened runs, no two runs
share a date, dates grow as runs are opened, and reads answer in that order. -/
theorem dated_in_opening_order (constraints : Constraints) (calls : List Call)
    (hcalls : ∀ c ∈ calls, c.Regular) :
    let h := after constraints calls
    h.store.metadata.map MetadataRow.key = h.opened.map Run.key ∧
      h.store.ledger.map LedgerRow.key = h.opened.map Run.key ∧
      (h.store.ledger.map (·.date)).Nodup ∧
      (h.opened.Pairwise fun a b => a.date < b.date) ∧
      (∃ es, h.store.runs none = .ok es ∧ es.map (·.run) = h.opened) ∧
      ∀ pipeline, ∃ e, h.store.latestRun pipeline none = .ok e ∧
        e.map (·.run) = (h.opened.filter fun r => r.pipeline = pipeline).getLast? := by
  intro h
  have hdated : h.Dated := dated_after constraints fun c hc => (hcalls c hc).timely
  have hexact : h.Exact := exact_after constraints hcalls
  have horderly : h.store.Orderly := orderly_after constraints calls
  refine ⟨?_, hdated.ledger, hdated.nodup_date, ?_, hdated.runs_none hexact horderly,
    hdated.latestRun_none hexact horderly⟩
  · rw [hdated.metadata, List.map_map]
    rfl
  · refine hdated.increasing.imp_of_mem fun {a b} ha hb hlt => ?_
    rw [← hexact a ha, ← hexact b hb]
    exact Instant.ofMicros_lt_ofMicros.2 hlt

/-- A clock that runs back makes the second run the next microsecond's. -/
theorem dated_in_opening_order_back :
    let calls : List Call := [.openRun ⟨"a", "1", "x", ⟨10, 0⟩, ⟨0, 0⟩⟩,
      .openRun ⟨"b", "1", "x", ⟨5, 999⟩, ⟨0, 0⟩⟩]
    (after {} calls).opened.map (·.date) = [⟨10, 0⟩, ⟨10, 1000⟩] ∧
      ∃ es, (after {} calls).store.runs none = .ok es ∧
        es.map (·.run) = (after {} calls).opened := by
  intro calls
  have hcalls : ∀ c ∈ calls, c.Regular := by
    simp [calls, Call.Regular, Instant.fitsNanos, Instant.toNanos, Instant.isLeap]
  obtain ⟨-, -, -, -, hruns, -⟩ := dated_in_opening_order {} calls hcalls
  exact ⟨by decide +kernel, hruns⟩

end History

end FleetProfile
