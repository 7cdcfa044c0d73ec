import FleetProfile.Pipeline.World
import FleetProfile.Proofs.AuditedRows

/-! What other clients do while a run of a pipeline goes on, and what they leave alone: the run
itself unless they ask for it by name, and its date. -/
namespace FleetProfile
open Store (BatchWrite OpenedRun)
open Time (Instant)

/-- Between the statements of a pipeline, other clients make calls of a kind, and commit batches
that they have in hand. -/
def Pipeline.Environment.OthersCall {σ : Type} (env : Environment σ)
    (allowed : FleetProfile.Call → Prop) (inHand : BatchWrite → Prop) : Prop :=
  ∀ s o, ∃ (hand : List BatchWrite) (calls : List FleetProfile.Call), (∀ b ∈ hand, inHand b) ∧
    (∀ c ∈ calls, allowed c) ∧
    (env.others s o).1 = (calls.foldl History.step { store := s, prepared := hand }).store

namespace Call

/-- The call asks for another state of a run. -/
def Moves (k : RunKey) : Call → Prop
  | transition run .. => run.key = k
  | _ => False

/-- The call loads a batch for a run, or begins to. -/
def LoadsTo (k : RunKey) (c : Call) : Prop :=
  ∃ source run, c.named? = some (source, run) ∧ run.key = k

end Call

/-- A run is recorded, and its date is that of no other run. -/
structure Store.OwnDate (k : RunKey) (s : Store) : Prop where
  recorded : ∃ m ∈ s.metadata, m.key = k
  once : (s.ledger.map LedgerRow.key).filter (fun x => x.2 = k.2) = [k]

namespace Store

variable {s s' : Store} {k : RunKey}

/-- Of a run, nothing but a sweep has changed the state. -/
def LeavesRun (k : RunKey) (s s' : Store) : Prop :=
  ∀ l' ∈ s'.ledger, l'.key = k → ∃ l ∈ s.ledger, l.key = k ∧
    (l'.status = l.status ∨ l.Active ∧ l'.status = .known .failed)

namespace LeavesRun

theorem refl (k : RunKey) (s : Store) : s.LeavesRun k s :=
  fun l hl hkey => ⟨l, hl, hkey, .inl rfl⟩

theorem map {f : LedgerRow → LedgerRow} (hf : ∀ l, LedgerRow.Change l (f l))
    (hstatus : ∀ l, l.key = k →
      (f l).status = l.status ∨ l.Active ∧ (f l).status = .known .failed)
    (hs : s'.ledger = s.ledger.map f := by rfl) : s.LeavesRun k s' := by
  intro l' hl' hkey
  rw [hs] at hl'
  obtain ⟨l, hl, rfl⟩ := List.mem_map.1 hl'
  rw [(hf l).key_eq] at hkey
  exact ⟨l, hl, hkey, hstatus l hkey⟩

/-- A new run is another one. -/
theorem recorded (h : s.LeavesRun k s') {r : Run} (hr : r.key ≠ k) (runner : String) :
    s.LeavesRun k (s'.recorded r runner) := by
  intro l' hl' hkey
  rcases List.mem_append.1 hl' with hl' | hl'
  · exact h l' hl' hkey
  · rw [List.mem_singleton.1 hl'] at hkey
    exact absurd hkey hr

end LeavesRun

theorem leavesRun_failStale {pipeline : String} {staleBefore now : Instant}
    {swept : List RunEntry} (h : s.failStale pipeline staleBefore now = .ok (swept, s')) :
    s.LeavesRun k s' := by
  obtain ⟨f, hf, rfl⟩ := failStale_eq_ok h
  refine .map (fun l => (hf l).change) fun l _ => ?_
  rcases hf l with heq | ⟨-, hactive, message, t, heq⟩
  · exact .inl (congrArg LedgerRow.status heq)
  · exact .inr ⟨hactive, congrArg LedgerRow.status heq⟩

/-- A run that is opened later has a later date. -/
theorem lt_date_new {q : OpenRequest} {r : Run} (whole : q.now.canonical.nanos % 1000 = 0)
    (hr : r = Run.new q.pipeline (s.nextDate q.now.canonical) q.version) :
    ∀ m ∈ s.metadata, m.date < r.date.toMicros := by
  rw [hr, Run.new, Instant.toMicros_canonical]
  exact lt_nextDate whole

end Store

namespace Store.OwnDate

variable {s s' : Store} {k : RunKey}

/-- A run has one row in the ledger. -/
theorem exists_row (h : s.OwnDate k) : ∃ l, s.ledger.filter (fun l => l.key = k) = [l] := by
  have hrow : s.ledger.filter (fun l => l.date = k.2) = s.ledger.filter fun l => l.key = k := by
    refine List.filter_congr fun l hl => decide_eq_decide.2 ⟨fun hdate => ?_, fun hkey => ?_⟩
    · have hmem : l.key ∈ (s.ledger.map LedgerRow.key).filter (fun x => x.2 = k.2) :=
        List.mem_filter.2 ⟨List.mem_map_of_mem hl, decide_eq_true hdate⟩
      rw [h.once, List.mem_singleton] at hmem
      exact hmem
    · exact congrArg Prod.snd hkey
  have honce := h.once
  rw [List.filter_map, List.map_eq_singleton_iff] at honce
  obtain ⟨l, hl, -⟩ := honce
  exact ⟨l, hrow.symm.trans hl⟩

theorem exists_mem (h : s.OwnDate k) : ∃ l ∈ s.ledger, l.key = k := by
  obtain ⟨l, hl⟩ := h.exists_row
  have hmem : l ∈ s.ledger.filter fun l => l.key = k := hl ▸ List.mem_singleton_self l
  obtain ⟨hmem, hkey⟩ := List.mem_filter.1 hmem
  exact ⟨l, hmem, of_decide_eq_true hkey⟩

theorem eq_of_key (h : s.OwnDate k) {l l' : LedgerRow} (hl : l ∈ s.ledger) (hl' : l' ∈ s.ledger)
    (hkey : l.key = k) (hkey' : l'.key = k) : l = l' := by
  obtain ⟨x, hx⟩ := h.exists_row
  have honly : ∀ l ∈ s.ledger, l.key = k → l = x := fun l hl hkey =>
    List.mem_singleton.1 (hx ▸ List.mem_filter.2 ⟨hl, decide_eq_true hkey⟩)
  rw [honly l hl hkey, honly l' hl' hkey']

/-- What is dated as the run and is of some run is of that run. -/
theorem eq_of_date (h : s.OwnDate k) {k' : RunKey} (hk' : ∃ l ∈ s.ledger, l.key = k')
    (hdate : k'.2 = k.2) : k' = k := by
  have hmem : k' ∈ (s.ledger.map LedgerRow.key).filter (fun x => x.2 = k.2) :=
    List.mem_filter.2 ⟨List.mem_map.2 hk', decide_eq_true hdate⟩
  rwa [h.once, List.mem_singleton] at hmem

/-- A new run has a date that is after those of all others. -/
theorem recorded_new (horderly : s.Orderly) {q : OpenRequest} {r : Run}
    (whole : q.now.canonical.nanos % 1000 = 0)
    (hr : r = Run.new q.pipeline (s.nextDate q.now.canonical) q.version) :
    (s.recorded r q.runner).OwnDate r.key where
  recorded := ⟨r.toRow, List.mem_append_right _ List.mem_cons_self, rfl⟩
  once := by
    have hold : (s.ledger.map LedgerRow.key).filter (fun x => x.2 = r.key.2) = [] := by
      refine List.filter_eq_nil_iff.2 fun x hx hdate => ?_
      obtain ⟨l, hl, rfl⟩ := List.mem_map.1 hx
      obtain ⟨m, hm, hkey⟩ := horderly.rows l hl
      have hlt := lt_date_new whole hr m hm
      have hmdate : m.date = l.date := congrArg Prod.snd hkey
      have hdate : l.date = r.date.toMicros := of_decide_eq_true hdate
      omega
    rw [Store.recorded, List.map_append, List.filter_append, hold, List.nil_append]
    exact List.filter_cons_of_pos (a := r.key) (decide_eq_true rfl)

theorem of_openRun (horderly : s.Orderly) {q : OpenRequest} {opened : OpenedRun}
    (whole : q.now.canonical.nanos % 1000 = 0) (h : s.openRun q = .ok (opened, s')) :
    s'.OwnDate opened.entry.run.key := by
  obtain ⟨swept, s₁, r, hsweep, -, hr, -, hrun, rfl⟩ := openRun_eq_ok h
  rw [hrun]
  exact recorded_new (horderly.revises (failStale_revises hsweep)) whole hr

theorem revises (h : s.OwnDate k) (rows : s.Revises s') : s'.OwnDate k :=
  ⟨rows.metadata_eq ▸ h.recorded, by rw [rows.map_key_eq]; exact h.once⟩

end Store.OwnDate

namespace History

variable {c : Call} {h h' : History} {k : RunKey}

/-! ### The same calls on the same store -/

theorem revise_congr (hs : h.store = h'.store) (hp : h.prepared = h'.prepared)
    (answer : Except Error Store) : (h.revise answer).store = (h'.revise answer).store ∧
      (h.revise answer).prepared = (h'.revise answer).prepared := by
  cases answer with
  | error e => exact ⟨hs, hp⟩
  | ok s => exact ⟨rfl, hp⟩

theorem write_congr (hs : h.store = h'.store) (hp : h.prepared = h'.prepared) (b : BatchWrite)
    (now : Instant) : (h.write b now).store = (h'.write b now).store ∧
      (h.write b now).prepared = (h'.write b now).prepared := by
  unfold write
  rw [hs]
  cases h'.store.insertBatch b now with
  | error e => exact ⟨hs, hp⟩
  | ok answer => exact ⟨rfl, hp⟩

/-- What a call makes of the store depends on the store and on what is in hand. -/
theorem step_congr (hs : h.store = h'.store) (hp : h.prepared = h'.prepared) (c : Call) :
    (h.step c).store = (h'.step c).store ∧ (h.step c).prepared = (h'.step c).prepared := by
  cases c with
  | openRun q =>
    simp only [step, hs]
    cases h'.store.openRun q with
    | error e => exact ⟨hs, hp⟩
    | ok answer => exact ⟨rfl, hp⟩
  | transition run source target error now =>
    simp only [step, hs]
    exact revise_congr hs hp _
  | heartbeat run now =>
    simp only [step, hs]
    exact revise_congr hs hp _
  | failStale pipeline staleBefore now =>
    simp only [step, hs]
    exact revise_congr hs hp _
  | insertBatch b now => exact write_congr hs hp b now
  | prepare chunkSize cancelled source batch run =>
    simp only [step, hs]
    cases Load.prepare h'.store chunkSize cancelled source batch run with
    | error e => exact ⟨hs, hp⟩
    | ok p => exact ⟨rfl, congrArg (· ++ [p.write]) hp⟩
  | commit i now =>
    simp only [step, hp]
    cases h'.prepared[i]? with
    | none => exact ⟨hs, hp⟩
    | some b => exact write_congr hs hp b now
  | load chunkSize cancelled source batch run now =>
    simp only [step, hs]
    split
    · exact ⟨rfl, hp⟩
    · exact ⟨hs, hp⟩

theorem foldl_step_congr (hs : h.store = h'.store) (hp : h.prepared = h'.prepared)
    (calls : List Call) : (calls.foldl step h).store = (calls.foldl step h').store := by
  induction calls generalizing h h' with
  | nil => exact hs
  | cons c calls ih =>
    obtain ⟨hs', hp'⟩ := step_congr hs hp c
    exact ih hs' hp'

/-! ### The date of a run -/

/-- Runs that are opened later get later dates. -/
theorem ownDate_step (timely : c.Timely) (hstep : Step c h h') (hk : h.store.OwnDate k) :
    h'.store.OwnDate k := by
  cases hstep with
  | refused => exact hk
  | revised rows => exact hk.revises rows
  | @opened q s r call rows idle run held =>
    subst call
    obtain ⟨m, hm, hkey⟩ := hk.recorded
    refine ⟨⟨m, List.mem_append_left _ (rows.metadata_eq ▸ hm), hkey⟩, ?_⟩
    have hlt := Store.lt_date_new (Instant.canonical_nanos_mod timely) run m
      (rows.metadata_eq ▸ hm)
    have hdate : r.date.toMicros ≠ k.2 := by
      have hmdate : m.date = k.2 := congrArg Prod.snd hkey
      omega
    rw [Store.recorded, List.map_append, List.filter_append, rows.map_key_eq, hk.once]
    have hnew : [r.key].filter (fun x => x.2 = k.2) = [] :=
      List.filter_cons_of_neg fun h => hdate (of_decide_eq_true h)
    exact congrArg ([k] ++ ·) hnew
  | prepared call screened counts => exact hk
  | wrote t origin held running =>
    exact ⟨hk.recorded, by rw [Store.map_key_withBatch]; exact hk.once⟩

/-! ### The batches of a run -/

/-- No one has a batch of a run in hand, and some were committed to it. -/
structure Elsewhere (h : History) (k : RunKey) (bs : List BatchWrite) : Prop where
  prepared : ∀ b ∈ h.prepared, b.run.key ≠ k
  written : h.batchesOf k = bs

theorem elsewhere_step {bs : List BatchWrite} (byLoad : c.ByLoad) (hloads : ¬ c.LoadsTo k)
    (he : h.Elsewhere k bs) : (h.step c).Elsewhere k bs := by
  obtain ⟨inHand, hprepared, hinHand⟩ := exists_prepared_step c h
  obtain ⟨new, hwritten, hnew⟩ := exists_written_step byLoad h
  have hnamed : ∀ b : BatchWrite, c.named? = some (b.source, b.run) → b.run.key ≠ k :=
    fun b hb hkey => hloads ⟨b.source, b.run, hb, hkey⟩
  constructor
  · rw [hprepared]
    exact List.forall_mem_append.2 ⟨he.prepared, fun b hb => hnamed b (hinHand b hb)⟩
  · have hother : new.filter (fun b => b.run.key = k) = [] := by
      refine List.filter_eq_nil_iff.2 fun b hb hkey => ?_
      rcases hnew b hb with hb | hb
      · exact he.prepared b hb (of_decide_eq_true hkey)
      · exact hnamed b hb (of_decide_eq_true hkey)
    rw [batchesOf, hwritten, List.filter_append, hother, List.append_nil]
    exact he.written

/-! ### The state of a run -/

theorem leavesRun_revise {answer : Except Error Store}
    (hanswer : ∀ s, answer = .ok s → h.store.LeavesRun k s) :
    h.store.LeavesRun k (h.revise answer).store := by
  cases answer with
  | error e => exact .refl k h.store
  | ok s => exact hanswer s rfl

theorem leavesRun_write (h : History) (k : RunKey) (b : BatchWrite) (now : Instant) :
    h.store.LeavesRun k (h.write b now).store := by
  unfold write
  cases hinsert : h.store.insertBatch b now with
  | error e => exact .refl k h.store
  | ok answer =>
    obtain ⟨n, s⟩ := answer
    obtain ⟨-, -, rfl⟩ := Store.insertBatch_eq_ok hinsert
    exact .map (LedgerRow.change_claimed b.run.key _) fun l _ =>
      .inl (LedgerRow.status_claimed b.run.key _ l)

/-- A call that does not ask for another state of a run leaves its state, or fails the run. -/
theorem leavesRun_step (timely : c.Timely) (hmoves : ¬ c.Moves k)
    (hk : ∃ m ∈ h.store.metadata, m.key = k) : h.store.LeavesRun k (h.step c).store := by
  cases c with
  | openRun q =>
    cases hopen : h.store.openRun q with
    | error e =>
      simp only [step, hopen]
      exact .refl k h.store
    | ok answer =>
      obtain ⟨o, s⟩ := answer
      obtain ⟨swept, s₁, r, hsweep, -, hr, -, -, rfl⟩ := Store.openRun_eq_ok hopen
      simp only [step, hopen]
      have hlater : r.key ≠ k := by
        obtain ⟨m, hm, rfl⟩ := hk
        rw [← (Store.failStale_revises hsweep).metadata_eq] at hm
        have hlt := Store.lt_date_new (Instant.canonical_nanos_mod timely) hr m hm
        exact fun hkey => absurd (congrArg Prod.snd hkey) (Int.ne_of_gt hlt)
      exact (Store.leavesRun_failStale hsweep).recorded hlater _
  | transition run source target error now =>
    refine leavesRun_revise fun s hmove => ?_
    obtain ⟨legal, -, -, -, rfl⟩ := Store.transition_eq_ok hmove
    refine .map (LedgerRow.change_updated _ fun l hst =>
      .move error _ (StatusCell.holds_eq.1 hst) legal) fun l hkey => .inl ?_
    have hother : ¬ (l.key = run.key ∧ l.status.holds (· = source) = true) :=
      fun hit => hmoves (hit.1.symm.trans hkey)
    rw [LedgerRow.updated, if_neg hother]
  | heartbeat run now =>
    refine leavesRun_revise fun s hbeat => ?_
    obtain ⟨-, -, -, rfl⟩ := Store.heartbeat_eq_ok hbeat
    refine .map (LedgerRow.change_updated _ fun l hst => .beat _ hst) fun l _ => .inl ?_
    unfold LedgerRow.updated
    split_ifs <;> rfl
  | failStale pipeline staleBefore now =>
    refine leavesRun_revise fun s hs => ?_
    obtain ⟨⟨swept, s₁⟩, hsweep, rfl⟩ := map_eq_ok.1 hs
    exact Store.leavesRun_failStale hsweep
  | insertBatch b now => exact leavesRun_write h k b now
  | prepare chunkSize cancelled source batch run =>
    simp only [step]
    split <;> exact .refl k h.store
  | commit i now =>
    simp only [step]
    split
    · exact leavesRun_write h k _ now
    · exact .refl k h.store
  | load chunkSize cancelled source batch run now =>
    cases hload : Load.load h.store chunkSize cancelled source batch run now with
    | error e =>
      simp only [step, hload]
      exact .refl k h.store
    | ok answer =>
      obtain ⟨report, s⟩ := answer
      obtain ⟨p, n, hprepare, hinsert⟩ := Load.load_eq_ok hload
      obtain ⟨-, -, rfl⟩ := Store.insertBatch_eq_ok hinsert
      simp only [step, hload, hprepare]
      exact .map (LedgerRow.change_claimed p.write.run.key _) fun l _ =>
        .inl (LedgerRow.status_claimed p.write.run.key _ l)

end History

/-- What holds with the batches of other clients in hand, and what their calls keep, holds after
them. -/
theorem Pipeline.Environment.OthersCall.induction {σ : Type} {env : Environment σ}
    {allowed : FleetProfile.Call → Prop} {inHand : BatchWrite → Prop} {P : History → Prop}
    (hothers : env.OthersCall allowed inHand) (h : History)
    (start : ∀ hand, (∀ b ∈ hand, inHand b) → P { h with prepared := hand })
    (keep : ∀ c h, allowed c → P h → P (h.step c)) (o : σ) :
    ∃ h', h'.store = (env.others h.store o).1 ∧ P h' := by
  obtain ⟨hand, calls, hhand, hcalls, hstore⟩ := hothers h.store o
  refine ⟨calls.foldl History.step { h with prepared := hand }, ?_, ?_⟩
  · rw [hstore]
    apply History.foldl_step_congr <;> rfl
  · exact List.foldlRecOn (motive := P) calls History.step (start hand hhand)
      fun h hP c hc => keep c h (hcalls c hc) hP

end FleetProfile
