import FleetProfile.Proofs.PriorCounters

/-! What stands in the tables at a date is the work of one run, written while that run was running.
Once the run is over it is final: dates are those of one run each, and no call revives a run. -/
namespace FleetProfile
open Store (BatchWrite)

namespace Store

/-- The rows of a date in the tables that loads write to. -/
structure Contents where
  inventory : List InventoryRow
  usage : List UsageRow
  audit : List AuditRow
  attribution : List AttributionRow

def contentsAt (s : Store) (d : Int) : Contents where
  inventory := s.inventory.filter fun r => r.extractTs = d
  usage := s.usage.filter fun u => u.extractTs = d
  audit := s.audit.filter fun a => a.date = d
  attribution := s.attribution.filter fun a => a.date = d

/-- The dates of all records that are stored. -/
def recordDates (s : Store) : List Int :=
  s.inventory.map (·.extractTs) ++ s.usage.map (·.extractTs)

/-- Some run of a date is running. -/
def RunningAt (s : Store) (d : Int) : Prop :=
  ∃ l ∈ s.ledger, l.date = d ∧ l.status = .known .running

/-- Records are only added at the end, and each at the date of a run that is running both before
and after. -/
def GrowsRunning (s s' : Store) : Prop :=
  ∃ inventory usage,
    s'.inventory = s.inventory ++ inventory ∧ s'.usage = s.usage ++ usage ∧
      ∀ d ∈ inventory.map (·.extractTs) ++ usage.map (·.extractTs), s.RunningAt d ∧ s'.RunningAt d

variable {s : Store}

theorem GrowsRunning.of_eq {s' : Store} (hinventory : s'.inventory = s.inventory)
    (husage : s'.usage = s.usage) : s.GrowsRunning s' :=
  ⟨[], [], by simp [hinventory], by simp [husage], by simp⟩

/-- A write leaves the contents of other dates as they are. -/
theorem contentsAt_withBatch {b : BatchWrite} (screened : b.Screened) (t : Int) {d : Int}
    (hne : b.run.date.toMicros ≠ d) : (s.withBatch b t).contentsAt d = s.contentsAt d := by
  have hinventory : (b.rows.databases.map InventoryRecord.toRow).filter
      (fun r => r.extractTs = d) = [] := by
    simp only [List.filter_eq_nil_iff, List.forall_mem_map, decide_eq_true_eq]
    intro r hr
    rwa [screened.extractTs_database hr]
  have husage : (b.rows.statements.map UsageRecord.toRow).filter
      (fun u => u.extractTs = d) = [] := by
    simp only [List.filter_eq_nil_iff, List.forall_mem_map, decide_eq_true_eq]
    intro r hr
    rwa [screened.extractTs_statement hr]
  have hattribution : b.attributions.filter (fun a => a.date = d) = [] := by
    simp only [BatchWrite.attributions, List.filter_eq_nil_iff, List.forall_mem_map,
      decide_eq_true_eq]
    exact fun _ _ => hne
  have haudit : [auditRow b b.run.date.toMicros t].filter (fun a => a.date = d) = [] := by
    rw [List.filter_singleton]
    simp [auditRow, hne]
  simp only [contentsAt, withBatch, List.filter_append, hinventory, husage, hattribution, haudit,
    List.append_nil]

end Store

namespace History

variable {c : Call} {h h' : History}

/-- Whatever a call writes is written to a run that is running. -/
theorem Step.growsRunning (hstep : Step c h h') (hc' : h'.Consistent) :
    h.store.GrowsRunning h'.store := by
  cases hstep with
  | refused => exact .of_eq rfl rfl
  | revised rows =>
    obtain ⟨f, -, rfl⟩ := rows
    exact .of_eq rfl rfl
  | opened call rows idle run held =>
    obtain ⟨f, -, rfl⟩ := rows
    exact .of_eq rfl rfl
  | prepared call screened counts => exact .of_eq rfl rfl
  | @wrote b t origin held running =>
    have screened : b.Screened := hc'.checked.written b (by simp)
    obtain ⟨l, hl, hkey, hstatus⟩ := running
    have hdate : l.date = b.run.date.toMicros := congrArg Prod.snd hkey
    have hbefore : h.store.RunningAt b.run.date.toMicros := ⟨l, hl, hdate, hstatus⟩
    have hafter : (h.store.withBatch b t).RunningAt b.run.date.toMicros := by
      refine ⟨_, List.mem_map_of_mem hl, ?_, ?_⟩
      · exact (congrArg Prod.snd (LedgerRow.change_claimed b.run.key t l).key_eq).trans hdate
      · rw [LedgerRow.updated, if_pos ⟨hkey, StatusCell.holds_eq.2 hstatus⟩]
        exact hstatus
    refine ⟨_, _, rfl, rfl, fun d hd => ?_⟩
    have hown : d = b.run.date.toMicros := by
      rcases List.mem_append.1 hd with hd | hd <;>
        simp only [List.map_map, List.mem_map, Function.comp_apply] at hd <;>
        obtain ⟨r, hr, rfl⟩ := hd
      · exact screened.extractTs_database hr
      · exact screened.extractTs_statement hr
    rw [hown]
    exact ⟨hbefore, hafter⟩

/-- No call touches what a run that is over left behind. -/
theorem Step.contentsAt_eq (hstep : Step c h h') (hc : h.Consistent) (hc' : h'.Consistent)
    {l : LedgerRow} (hl : l ∈ h.store.ledger) (ended : ¬ l.Active) :
    h'.store.contentsAt l.date = h.store.contentsAt l.date := by
  cases hstep with
  | refused => rfl
  | revised rows =>
    obtain ⟨f, -, rfl⟩ := rows
    rfl
  | opened call rows idle run held =>
    obtain ⟨f, -, rfl⟩ := rows
    rfl
  | prepared call screened counts => rfl
  | @wrote b t origin held running =>
    refine Store.contentsAt_withBatch (hc'.checked.written b (by simp)) t fun hdate => ?_
    -- A batch of that date would have to be of that very run, which is not running.
    obtain ⟨l', hl', hkey, hstatus⟩ := running
    have hsame : l'.date = l.date := (congrArg Prod.snd hkey).trans hdate
    obtain rfl := List.inj_on_of_nodup_map hc.dated.nodup_date hl' hl hsame
    exact ended (LedgerRow.active_iff.2 (.inr hstatus))

theorem contentsAt_after_of_not_active {constraints : Constraints} {before more : List Call}
    (hbefore : ∀ c ∈ before, c.Timely ∧ c.ByLoad) (hmore : ∀ c ∈ more, c.Timely ∧ c.ByLoad)
    {l : LedgerRow} (hl : l ∈ (after constraints before).store.ledger) (ended : ¬ l.Active) :
    (after constraints (before ++ more)).store.contentsAt l.date =
      (after constraints before).store.contentsAt l.date := by
  obtain ⟨i, hi⟩ := List.mem_iff_getElem?.1 hl
  have hinv : (after constraints (before ++ more)).Consistent ∧
      (after constraints (before ++ more)).store.ledger[i]? = some l ∧
      (after constraints (before ++ more)).store.contentsAt l.date =
        (after constraints before).store.contentsAt l.date := by
    refine after_append_induction (P := fun h => h.Consistent ∧ h.store.ledger[i]? = some l ∧
      h.store.contentsAt l.date = (after constraints before).store.contentsAt l.date) before
      ⟨consistent_after constraints hbefore, hi, rfl⟩ ?_ hmore
    rintro c h h' ⟨timely, byLoad⟩ hstep ⟨hc, hrow, hcontents⟩
    have hc' := consistent_step timely byLoad hstep hc
    have hsame := hstep.contentsAt_eq hc hc' (List.mem_of_getElem? hrow) ended
    exact ⟨hc', hstep.getElem?_of_not_active hrow ended, hsame.trans hcontents⟩
  exact hinv.2.2

/-- The date of a run finds its row in each of the two tables of runs, and no other. -/
theorem Dated.filter_date (hdated : h.Dated) {l : LedgerRow} (hl : l ∈ h.store.ledger) :
    ∃ m, h.store.metadata.filter (fun m => m.date = l.date) = [m] ∧
      h.store.ledger.filter (fun l' => l'.date = l.date) = [l] ∧ m.key = l.key := by
  have hopened : l.key ∈ h.opened.map Run.key := hdated.ledger ▸ List.mem_map_of_mem hl
  obtain ⟨r, hr, hkey⟩ := List.mem_map.1 hopened
  have hdate : r.toRow.date = l.date := congrArg Prod.snd hkey
  have hrow : r.toRow ∈ h.store.metadata := hdated.metadata ▸ List.mem_map_of_mem hr
  have hnodup : (h.store.metadata.map (·.date)).Nodup := by
    rw [hdated.metadata, List.map_map]
    exact List.pairwise_map.2 (hdated.increasing.imp Int.ne_of_lt)
  refine ⟨r.toRow, ?_, filter_key_eq_singleton hdated.nodup_date hl, hkey⟩
  rw [← hdate]
  exact filter_key_eq_singleton hnodup hrow

/-- Every record is dated as a batch that was committed. -/
theorem Consistent.exists_written (hc : h.Consistent) {d : Int} (hd : d ∈ h.store.recordDates) :
    ∃ b ∈ h.written, b.run.date.toMicros = d := by
  rw [Store.recordDates, hc.logged.inventory, hc.logged.usage, List.mem_append] at hd
  rcases hd with hd | hd <;>
    simp only [List.map_flatMap, List.map_map, List.mem_flatMap, List.mem_map,
      Function.comp_apply] at hd <;>
    obtain ⟨b, hb, r, hr, rfl⟩ := hd
  · exact ⟨b, hb, ((hc.checked.written b hb).extractTs_database hr).symm⟩
  · exact ⟨b, hb, ((hc.checked.written b hb).extractTs_statement hr).symm⟩

/-- Every record is dated as exactly one run, a load only adds records of a run that is running
as it commits, and nothing is added, removed or changed at the date of a run that is over. -/
theorem contents_final (constraints : Constraints) (calls : List Call)
    (hcalls : ∀ c ∈ calls, c.Timely ∧ c.ByLoad) :
    let s := (after constraints calls).store
    (∀ d ∈ s.recordDates, ∃ m l, s.metadata.filter (fun m => m.date = d) = [m] ∧
      s.ledger.filter (fun l => l.date = d) = [l] ∧ m.key = l.key) ∧
    (∀ before c more, calls = before ++ c :: more →
      (after constraints before).store.GrowsRunning (after constraints (before ++ [c])).store) ∧
    ∀ before more, calls = before ++ more → ∀ l ∈ (after constraints before).store.ledger,
      l.status = .known .succeeded ∨ l.status = .known .failed →
        s.contentsAt l.date = (after constraints before).store.contentsAt l.date := by
  intro s
  have hc : (after constraints calls).Consistent := consistent_after constraints hcalls
  refine ⟨fun d hd => ?_, ?_, ?_⟩
  · obtain ⟨b, hb, rfl⟩ := hc.exists_written hd
    obtain ⟨l, hl, hkey⟩ := hc.logged.runs b hb
    obtain ⟨m, hmetadata, hledger, hm⟩ := hc.dated.filter_date hl
    have hdate : l.date = b.run.date.toMicros := congrArg Prod.snd hkey
    rw [hdate] at hmetadata hledger
    exact ⟨m, l, hmetadata, hledger, hm⟩
  · rintro before c more rfl
    have hbefore : ∀ c' ∈ before ++ [c], c'.Timely ∧ c'.ByLoad :=
      fun c' hc' => hcalls c' (by
        rw [List.append_cons]
        exact List.mem_append_left _ hc')
    have hc' := consistent_after constraints hbefore
    rw [after_append] at hc' ⊢
    exact (step_cases c _).growsRunning hc'
  · rintro before more rfl l hl hover
    have ended : ¬ l.Active := LedgerRow.Ended.not_active hover
    exact contentsAt_after_of_not_active (fun c hc => hcalls c (List.mem_append_left _ hc))
      (fun c hc => hcalls c (List.mem_append_right _ hc)) hl ended

/-- A client that goes through the same run again, with other counters, finds it over. -/
theorem contents_final_again :
    let again := reportingRun ⟨1714521600, 0⟩ ⟨3, 20, 30, 40⟩
    let s := (after {} oneReport).store
    (s.contentsAt 1714521600000000).usage.length = 1 ∧
      (after {} (oneReport ++ again)).store.contentsAt 1714521600000000 =
        s.contentsAt 1714521600000000 := by
  intro again s
  have hcalls : ∀ c ∈ oneReport ++ again, c.Timely ∧ c.ByLoad := by
    intro c hc
    rcases List.mem_append.1 hc with hc | hc
    · exact timely_oneReport c hc
    · have hwhole := whole_reportingRun (by decide) _ c hc
      exact ⟨hwhole.1, hwhole.2.byLoad⟩
  have hrow : (⟨"nightly", 1714521600000000, .known .succeeded, "test:1", 1714521600000000,
      some 1714521600000000, none⟩ : LedgerRow) ∈ s.ledger := by decide +kernel
  obtain ⟨-, -, hfinal⟩ := contents_final {} (oneReport ++ again) hcalls
  exact ⟨by decide +kernel, hfinal oneReport again rfl _ hrow (.inl rfl)⟩

end History

end FleetProfile
