import FleetProfile.Proofs.Batch

/-! Calls of any number of clients, in the order in which the store runs them, and what they leave
behind. A load reads before it writes; where it is two calls, others may come between. -/
namespace FleetProfile
open Store (BatchWrite OpenRequest)
open Time (Instant)

/-- A call that a client makes. -/
inductive Call where
  | openRun (q : OpenRequest)
  | transition (run : Run) (source target : RunStatus) (error : Option String) (now : Instant)
  | heartbeat (run : Run) (now : Instant)
  | failStale (pipeline : String) (staleBefore now : Instant)
  | insertBatch (b : BatchWrite) (now : Instant)
  /-- A load up to the point where it has read the store. -/
  | prepare (chunkSize : Nat) (cancelled : Nat → Bool) (source : String) (batch : Source.Batch)
      (run : Run)
  /-- The rest of the load that was prepared as the one of a number. -/
  | commit (i : Nat) (now : Instant)
  | load (chunkSize : Nat) (cancelled : Nat → Bool) (source : String) (batch : Source.Batch)
      (run : Run) (now : Instant)

namespace Call

/-- Runs are opened at times that 64 bits count in nanoseconds. -/
def Timely : Call → Prop
  | openRun q => q.now.fitsNanos = true
  | _ => True

/-- Runs are opened at such times, and in no leap second. -/
def Regular : Call → Prop
  | openRun q => q.now.fitsNanos = true ∧ q.now.isLeap = false
  | _ => True

/-- Runs are opened at times that a clock shows. -/
def OnClock : Call → Prop
  | openRun q => q.now.OnClock
  | _ => True

/-- Batches come from loads, which may be at any point of their work. -/
def ByLoad : Call → Prop
  | insertBatch _ _ => False
  | _ => True

/-- Batches come from loads that nothing comes between. -/
def Whole : Call → Prop
  | insertBatch _ _ => False
  | prepare .. => False
  | _ => True

theorem Regular.timely {c : Call} (h : c.Regular) : c.Timely := by
  cases c <;> first | exact h.1 | trivial

theorem Whole.byLoad {c : Call} (h : c.Whole) : c.ByLoad := by
  cases c <;> first | exact h | trivial

end Call

/-- A store with the runs that were opened in it, the batches that loads have in hand, and those
that were committed. -/
structure History where
  store : Store
  opened : List Run := []
  prepared : List BatchWrite := []
  written : List BatchWrite := []

namespace History

/-- Nothing was done to the store yet. -/
def fresh (c : Constraints) : History where
  store := { constraints := c }

/-- The history after a call that does no more than change rows of the ledger. -/
def revise (h : History) : Except Error Store → History
  | .ok s => { h with store := s }
  | .error _ => h

/-- The history after a write of a batch. -/
def write (h : History) (b : BatchWrite) (now : Instant) : History :=
  match h.store.insertBatch b now with
  | .ok (_, s) => { h with store := s, written := h.written ++ [b] }
  | .error _ => h

/-- The history after a call. A call that is refused leaves it as it was. -/
def step (h : History) : Call → History
  | .openRun q =>
    match h.store.openRun q with
    | .ok (o, s) => { h with store := s, opened := h.opened ++ [o.entry.run] }
    | .error _ => h
  | .transition run source target error now =>
    h.revise (h.store.transition run source target error now)
  | .heartbeat run now => h.revise (h.store.heartbeat run now)
  | .failStale pipeline staleBefore now =>
    h.revise ((h.store.failStale pipeline staleBefore now).map Prod.snd)
  | .insertBatch b now => h.write b now
  | .prepare chunkSize cancelled source batch run =>
    match Load.prepare h.store chunkSize cancelled source batch run with
    | .ok p => { h with prepared := h.prepared ++ [p.write] }
    | .error _ => h
  | .commit i now =>
    match h.prepared[i]? with
    | some b => h.write b now
    | none => h
  | .load chunkSize cancelled source batch run now =>
    match Load.load h.store chunkSize cancelled source batch run now,
      Load.prepare h.store chunkSize (fun i => cancelled (i + 2)) source batch run with
    | .ok (_, s), .ok p => { h with store := s, written := h.written ++ [p.write] }
    | _, _ => h

/-- The history after calls on a new store. -/
def after (c : Constraints) (calls : List Call) : History :=
  calls.foldl step (fresh c)

/-- What a call can do. -/
inductive Step (c : Call) (h : History) : History → Prop
  | refused : Step c h h
  | revised {s : Store} (rows : h.store.Revises s) : Step c h { h with store := s }
  | opened {q : OpenRequest} {s : Store} {r : Run} (call : c = .openRun q)
      (rows : h.store.Revises s) (idle : s.activeRuns q.pipeline = .ok [])
      (run : r = Run.new q.pipeline (s.nextDate q.now.canonical) q.version)
      (held : Store.isHoldable r.date = true) :
      Step c h { h with store := s.recorded r q.runner, opened := h.opened ++ [r] }
  | prepared {b : BatchWrite} (call : ¬ c.Whole) (screened : b.Screened)
      (counts : b.CountsRegressions h.store) : Step c h { h with prepared := h.prepared ++ [b] }
  | wrote {b : BatchWrite} (t : Int)
      (origin : ¬ c.ByLoad ∨ b ∈ h.prepared ∨ b.Screened ∧ b.CountsRegressions h.store)
      (held : Store.isHoldable b.run.date = true)
      (running : ∃ l ∈ h.store.ledger, l.key = b.run.key ∧ l.status = .known .running) :
      Step c h { h with store := h.store.withBatch b t, written := h.written ++ [b] }

theorem step_revise {c : Call} {h : History} {answer : Except Error Store}
    (rows : ∀ s, answer = .ok s → h.store.Revises s) : Step c h (h.revise answer) := by
  cases answer with
  | error e => exact .refused
  | ok s => exact .revised (rows s rfl)

theorem step_write {c : Call} (h : History) (b : BatchWrite) (now : Instant)
    (origin : ¬ c.ByLoad ∨ b ∈ h.prepared ∨ b.Screened ∧ b.CountsRegressions h.store) :
    Step c h (h.write b now) := by
  unfold write
  cases hinsert : h.store.insertBatch b now with
  | error e => exact .refused
  | ok answer =>
    obtain ⟨n, s⟩ := answer
    obtain ⟨held, running, rfl⟩ := Store.insertBatch_eq_ok hinsert
    exact .wrote _ origin held running

theorem step_cases (c : Call) (h : History) : Step c h (h.step c) := by
  cases c with
  | openRun q =>
    cases hopen : h.store.openRun q with
    | error e =>
      simp only [step, hopen]
      exact .refused
    | ok answer =>
      obtain ⟨o, s⟩ := answer
      obtain ⟨swept, s₁, r, hsweep, idle, run, held, hrun, rfl⟩ := Store.openRun_eq_ok hopen
      simp only [step, hopen, hrun]
      exact .opened rfl (Store.failStale_revises hsweep) idle run held
  | transition run source target error now =>
    exact step_revise fun s hmove => Store.transition_revises hmove
  | heartbeat run now => exact step_revise fun s hbeat => Store.heartbeat_revises hbeat
  | failStale pipeline staleBefore now =>
    refine step_revise fun s hs => ?_
    obtain ⟨⟨swept, s₁⟩, hsweep, rfl⟩ := map_eq_ok.1 hs
    exact Store.failStale_revises hsweep
  | insertBatch b now => exact step_write h b now (.inl fun byLoad => byLoad)
  | prepare chunkSize cancelled source batch run =>
    cases hprepare : Load.prepare h.store chunkSize cancelled source batch run with
    | error e =>
      simp only [step, hprepare]
      exact .refused
    | ok p =>
      obtain ⟨-, -, screened⟩ := Load.prepare_eq_ok hprepare
      simp only [step, hprepare]
      exact .prepared id screened (Load.prepare_countsRegressions hprepare)
  | commit i now =>
    cases hb : h.prepared[i]? with
    | none =>
      simp only [step, hb]
      exact .refused
    | some b =>
      simp only [step, hb]
      exact step_write h b now (.inr (.inl (List.mem_of_getElem? hb)))
  | load chunkSize cancelled source batch run now =>
    cases hload : Load.load h.store chunkSize cancelled source batch run now with
    | error e =>
      simp only [step, hload]
      exact .refused
    | ok answer =>
      obtain ⟨report, s⟩ := answer
      obtain ⟨p, n, hprepare, hinsert⟩ := Load.load_eq_ok hload
      obtain ⟨held, running, rfl⟩ := Store.insertBatch_eq_ok hinsert
      obtain ⟨-, -, screened⟩ := Load.prepare_eq_ok hprepare
      simp only [step, hload, hprepare]
      exact .wrote _ (.inr (.inr ⟨screened, Load.prepare_countsRegressions hprepare⟩)) held running

theorem after_append (constraints : Constraints) (before more : List Call) :
    after constraints (before ++ more) = more.foldl step (after constraints before) :=
  List.foldl_append

/-- What holds after some calls and what every step keeps holds after all further calls. -/
theorem after_append_induction {P : History → Prop} {Q : Call → Prop} {constraints : Constraints}
    (before : List Call) (start : P (after constraints before))
    (keep : ∀ (c : Call) (h h' : History), Q c → Step c h h' → P h → P h')
    {more : List Call} (hmore : ∀ c ∈ more, Q c) : P (after constraints (before ++ more)) := by
  rw [after_append]
  refine List.foldlRecOn (motive := P) more step start fun h hP c hc => ?_
  exact keep c h _ (hmore c hc) (step_cases c h) hP

/-- What holds of a new store and what every step keeps holds after all calls. -/
theorem after_induction {P : History → Prop} {Q : Call → Prop} {constraints : Constraints}
    (start : P (fresh constraints))
    (keep : ∀ (c : Call) (h h' : History), Q c → Step c h h' → P h → P h')
    {calls : List Call} (hcalls : ∀ c ∈ calls, Q c) : P (after constraints calls) :=
  after_append_induction [] start keep hcalls

/-! ### The rows of the ledger -/

variable {c : Call} {h h' : History} {i : Nat} {l : LedgerRow}

/-- A row keeps its place, whatever a call does to it. -/
theorem Step.exists_change (hstep : Step c h h') (hl : h.store.ledger[i]? = some l) :
    ∃ l', h'.store.ledger[i]? = some l' ∧ LedgerRow.Change l l' := by
  cases hstep with
  | refused => exact ⟨l, hl, .none⟩
  | revised rows =>
    obtain ⟨f, hf, rfl⟩ := rows
    refine ⟨f l, ?_, hf l⟩
    rw [List.getElem?_map, hl, Option.map_some]
  | opened call rows idle run held =>
    obtain ⟨f, hf, rfl⟩ := rows
    refine ⟨f l, Store.getElem?_recorded ?_ _ _, hf l⟩
    rw [List.getElem?_map, hl, Option.map_some]
  | prepared call screened counts => exact ⟨l, hl, .none⟩
  | @wrote b t origin held running =>
    refine ⟨_, ?_, LedgerRow.change_claimed b.run.key t l⟩
    rw [Store.withBatch, List.getElem?_map, hl, Option.map_some]

/-- A row that was not there before is that of a run that was opened. -/
theorem Step.exists_opened (hstep : Step c h h') (hl : h'.store.ledger[i]? = some l)
    (hnew : h.store.ledger[i]? = none) :
    ∃ q s r, c = .openRun q ∧ r = Run.new q.pipeline (Store.nextDate s q.now.canonical) q.version ∧
      Store.isHoldable r.date = true ∧ l =
        ⟨r.pipeline, r.date.toMicros, .known .pending, q.runner, r.date.toMicros, none, none⟩ := by
  cases hstep with
  | refused => exact absurd (hl.symm.trans hnew) (by simp)
  | revised rows =>
    obtain ⟨f, hf, rfl⟩ := rows
    rw [List.getElem?_map, hnew] at hl
    exact absurd hl (by simp)
  | @opened q s r call rows idle run held =>
    obtain ⟨f, hf, rfl⟩ := rows
    have hle : (h.store.ledger.map f).length ≤ i := by
      rw [List.length_map]
      exact List.getElem?_eq_none_iff.1 hnew
    rw [Store.recorded, List.getElem?_append_right hle] at hl
    exact ⟨q, _, r, call, run, held, List.mem_singleton.1 (List.mem_of_getElem? hl)⟩
  | prepared call screened counts => exact absurd (hl.symm.trans hnew) (by simp)
  | wrote t origin held running =>
    rw [Store.withBatch, List.getElem?_map, hnew] at hl
    exact absurd hl (by simp)

theorem Step.getElem?_of_not_active (hstep : Step c h h') (hl : h.store.ledger[i]? = some l)
    (ended : ¬ l.Active) : h'.store.ledger[i]? = some l := by
  obtain ⟨l', hl', hchange⟩ := hstep.exists_change hl
  rwa [hchange.eq_of_not_active ended] at hl'

theorem Step.readOnly_eq (hstep : Step c h h') : h'.store.readOnly = h.store.readOnly := by
  cases hstep with
  | refused => rfl
  | revised rows =>
    obtain ⟨f, -, rfl⟩ := rows
    rfl
  | opened call rows idle run held =>
    obtain ⟨f, -, rfl⟩ := rows
    rfl
  | prepared call screened counts => rfl
  | wrote t origin held running => rfl

theorem readOnly_after (constraints : Constraints) (calls : List Call) :
    (after constraints calls).store.readOnly = false :=
  after_induction (P := fun h => h.store.readOnly = false) (Q := fun _ => True) rfl
    (fun _ _ _ _ hstep writable => hstep.readOnly_eq.trans writable) (fun _ _ => trivial)

/-- The row of a run that is over is there for good, as it is. -/
theorem getElem?_after_of_not_active {constraints : Constraints} {before : List Call}
    (hl : (after constraints before).store.ledger[i]? = some l) (ended : ¬ l.Active)
    (more : List Call) : (after constraints (before ++ more)).store.ledger[i]? = some l :=
  after_append_induction (P := fun h => h.store.ledger[i]? = some l) (Q := fun _ => True) before hl
    (fun _ _ _ _ hstep hl => hstep.getElem?_of_not_active hl ended) (fun _ _ => trivial)

end History

end FleetProfile
