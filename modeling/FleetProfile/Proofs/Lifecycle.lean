import FleetProfile.Proofs.LedgerAnswers

/-! The life of a run. Four calls change rows of the ledger, each with a guard of its own; in
whatever order they come, a run goes from state to state as it should, and of all calls that would
take it out of a state the first one does. -/
namespace FleetProfile
open Time (Instant)
open Store (isHoldable)

/-! ### States in order -/

/-- The ways in which a run may pass through its states. -/
def RunStatus.lives : List (List RunStatus) :=
  [[.pending, .running, .succeeded], [.pending, .running, .failed], [.pending, .failed]]

namespace StatusCell

/-- A state may come right after another one. -/
def Becomes (a b : StatusCell) : Prop :=
  ∃ s t, a = .known s ∧ b = .known t ∧ RunStatus.canBecome s t = true

/-- How far a run has come. -/
def rank : StatusCell → Nat
  | .known .running => 1
  | .known .succeeded | .known .failed => 2
  | _ => 0

theorem Becomes.rank_lt {a b : StatusCell} (h : Becomes a b) : a.rank < b.rank := by
  obtain ⟨s, t, rfl, rfl, legal⟩ := h
  cases s <;> cases t <;> first | decide | exact absurd legal (by decide)

theorem becomes_pending {b : StatusCell} (h : Becomes (.known .pending) b) :
    b = .known .running ∨ b = .known .failed := by
  obtain ⟨s, t, hs, rfl, legal⟩ := h
  obtain rfl := StatusCell.known.inj hs
  cases t <;> simp_all [RunStatus.canBecome]

theorem becomes_running {b : StatusCell} (h : Becomes (.known .running) b) :
    b = .known .succeeded ∨ b = .known .failed := by
  obtain ⟨s, t, hs, rfl, legal⟩ := h
  obtain rfl := StatusCell.known.inj hs
  cases t <;> simp_all [RunStatus.canBecome]

theorem not_becomes_of_isTerminal {s : RunStatus} (h : s.isTerminal = true) {b : StatusCell} :
    ¬ Becomes (.known s) b := by
  rintro ⟨s', t, hs, rfl, legal⟩
  obtain rfl := StatusCell.known.inj hs
  rw [RunStatus.canBecome_of_isTerminal h] at legal
  exact absurd legal (by decide)

theorem eq_nil_of_isTerminal {s : RunStatus} (h : s.isTerminal = true) {states : List StatusCell}
    (hchain : (StatusCell.known s :: states).IsChain Becomes) : states = [] := by
  cases states with
  | nil => rfl
  | cons b states =>
    obtain ⟨hb, -⟩ := List.isChain_cons_cons.1 hchain
    exact absurd hb (not_becomes_of_isTerminal h)

/-- States that follow each other are the beginning of a life. -/
theorem exists_life {states : List StatusCell}
    (h : (StatusCell.known .pending :: states).IsChain Becomes) :
    ∃ life ∈ RunStatus.lives, (.known .pending :: states) <+: life.map StatusCell.known := by
  cases states with
  | nil => exact ⟨[.pending, .failed], by decide, by decide⟩
  | cons b states =>
    obtain ⟨hb, hstates⟩ := List.isChain_cons_cons.1 h
    rcases becomes_pending hb with rfl | rfl
    · cases states with
      | nil => exact ⟨[.pending, .running, .failed], by decide, by decide⟩
      | cons c states =>
        obtain ⟨hc, hrest⟩ := List.isChain_cons_cons.1 hstates
        rcases becomes_running hc with rfl | rfl
        · obtain rfl := eq_nil_of_isTerminal rfl hrest
          exact ⟨[.pending, .running, .succeeded], by decide, by decide⟩
        · obtain rfl := eq_nil_of_isTerminal rfl hrest
          exact ⟨[.pending, .running, .failed], by decide, by decide⟩
    · obtain rfl := eq_nil_of_isTerminal rfl hstates
      exact ⟨[.pending, .failed], by decide, by decide⟩

end StatusCell

namespace LedgerRow

theorem Change.status {l l' : LedgerRow} (h : Change l l') :
    l'.status = l.status ∨ StatusCell.Becomes l.status l'.status := by
  cases h with
  | none => exact .inl rfl
  | beat t active => exact .inl rfl
  | move error t status legal => exact .inr ⟨_, _, status, rfl, legal⟩
  | bury message t active =>
    rcases active_iff.1 active with status | status
    · exact .inr ⟨_, _, status, rfl, rfl⟩
    · exact .inr ⟨_, _, status, rfl, rfl⟩

/-- A run has an end time exactly when it is over. -/
def Timed (l : LedgerRow) : Prop := l.finishedAt.isSome = true ↔ l.Ended

theorem Timed.change {l l' : LedgerRow} (h : l.Timed) (hchange : Change l l') : l'.Timed := by
  cases hchange with
  | none => exact h
  | beat t active => exact h
  | @move source target error t status legal =>
    unfold Timed Ended Store.moveTo
    cases target <;> simp [RunStatus.isTerminal]
  | bury message t active => simp [Timed, Ended, Store.bury]

end LedgerRow

namespace History

variable {c : Call} {h h' : History} {i : Nat} {l : LedgerRow}

/-! ### The states of a row -/

/-- The state of a row after each of the calls on a history, from where there is a row. -/
def statuses (h : History) (calls : List Call) (i : Nat) : List StatusCell :=
  (calls.scanl step h).filterMap fun h => h.store.ledger[i]?.map (·.status)

/-- Of a row that is not there yet, the first state is the one of a run that has not begun. -/
theorem isChain_statuses (h : History) (calls : List Call) (i : Nat) :
    ((h.statuses calls i).IsChain fun a b => b = a ∨ StatusCell.Becomes a b) ∧
      ∀ a ∈ (h.statuses calls i).head?,
        a = (h.store.ledger[i]?.map (·.status)).getD (.known .pending) := by
  unfold statuses
  induction calls generalizing h with
  | nil =>
    rw [List.scanl_nil, List.filterMap_cons, List.filterMap_nil]
    cases h.store.ledger[i]? <;> simp
  | cons c calls ih =>
    obtain ⟨hchain, hhead⟩ := ih (h.step c)
    rw [List.scanl_cons, List.filterMap_cons]
    -- A row that is not there yet adds no state here; one that is adds the first one.
    cases hl : h.store.ledger[i]? with
    | none =>
      refine ⟨hchain, fun a ha => (hhead a ha).trans ?_⟩
      cases hl' : (h.step c).store.ledger[i]? with
      | none => rfl
      | some l' =>
        obtain ⟨q, s, r, -, -, -, rfl⟩ := (step_cases c h).exists_opened hl' hl
        rfl
    | some l =>
      obtain ⟨l', hl', hchange⟩ := (step_cases c h).exists_change hl
      refine ⟨List.isChain_cons.2 ⟨fun b hb => ?_, hchain⟩, by simp⟩
      obtain rfl := hhead b hb
      rw [hl']
      exact hchange.status

theorem statuses_prefix_life (constraints : Constraints) (calls : List Call) (i : Nat) :
    ∃ life ∈ RunStatus.lives,
      ((fresh constraints).statuses calls i).destutter (· ≠ ·) <+: life.map .known := by
  obtain ⟨hchain, hhead⟩ := isChain_statuses (fresh constraints) calls i
  cases hstates : (fresh constraints).statuses calls i with
  | nil => exact ⟨_, List.mem_cons_self, List.nil_prefix⟩
  | cons a states =>
    rw [hstates] at hchain hhead
    obtain rfl : a = .known .pending := hhead a rfl
    obtain ⟨ys, hys, hlife⟩ := exists_destutter'_eq hchain
    rw [List.destutter_cons', hys]
    exact StatusCell.exists_life hlife

/-- A row stays in its state, or goes on for good. -/
theorem status_after_append {constraints : Constraints} {before : List Call}
    (hl : (after constraints before).store.ledger[i]? = some l) (more : List Call) :
    ∃ l', (after constraints (before ++ more)).store.ledger[i]? = some l' ∧
      (l'.status = l.status ∨ l.status.rank < l'.status.rank) := by
  refine after_append_induction (P := fun h => ∃ l', h.store.ledger[i]? = some l' ∧
    (l'.status = l.status ∨ l.status.rank < l'.status.rank)) (Q := fun _ => True) before
    ⟨l, hl, .inl rfl⟩ ?_ (fun _ _ => trivial)
  rintro c h h' - hstep ⟨l₁, hl₁, hrank⟩
  obtain ⟨l₂, hl₂, hchange⟩ := hstep.exists_change hl₁
  refine ⟨l₂, hl₂, ?_⟩
  rcases hchange.status with hsame | hnext
  · rwa [hsame]
  · have hlt := hnext.rank_lt
    rcases hrank with hsame | hrank
    · exact .inr (hsame ▸ hlt)
    · exact .inr (Nat.lt_trans hrank hlt)

theorem timed_step (hstep : Step c h h') (htimed : ∀ l ∈ h.store.ledger, l.Timed) :
    ∀ l ∈ h'.store.ledger, l.Timed := by
  intro l' hl'
  obtain ⟨i, hi⟩ := List.getElem?_of_mem hl'
  cases hl : h.store.ledger[i]? with
  | some l =>
    obtain ⟨l₁, hl₁, hchange⟩ := hstep.exists_change hl
    obtain rfl : l₁ = l' := Option.some.inj (hl₁.symm.trans hi)
    exact (htimed l (List.mem_of_getElem? hl)).change hchange
  | none =>
    obtain ⟨q, s, r, -, -, -, rfl⟩ := hstep.exists_opened hi hl
    simp [LedgerRow.Timed, LedgerRow.Ended]

end History

/-! ### Leaving a state -/

/-- A call takes the run of a row out of its state, into another one. -/
inductive Call.Takes (s : Store) (l : LedgerRow) : Call → RunStatus → Prop
  | transition {run : Run} {source target : RunStatus} {error : Option String} {now : Instant}
      (named : run.key = l.key) (status : l.status = .known source)
      (legal : source.canBecome target = true) (heldDate : isHoldable run.date = true)
      (heldNow : isHoldable now = true) : Takes s l (.transition run source target error now) target
  | sweep {pipeline : String} {staleBefore now : Instant} (stale : l.Stale pipeline staleBefore)
      (heldNow : isHoldable now = true) : Takes s l (.failStale pipeline staleBefore now) .failed
  | opening {q : Store.OpenRequest} (stale : l.Stale q.pipeline q.staleBefore)
      (heldNow : isHoldable q.now.canonical = true)
      (heldDate : isHoldable
        (Run.new q.pipeline (s.nextDate q.now.canonical) q.version).date = true) :
      Takes s l (.openRun q) .failed

namespace Call.Takes

variable {s : Store} {l : LedgerRow} {c : Call} {st st' : RunStatus}

theorem ne_status (h : c.Takes s l st) : l.status ≠ .known st := by
  cases h with
  | @transition run source target error now named status legal heldDate heldNow =>
    rw [status]
    cases source <;> cases st <;> first | exact absurd legal (by decide) | decide
  | sweep stale heldNow => exact fun heq => LedgerRow.Ended.not_active (.inr heq) stale.2.1
  | opening stale heldNow heldDate =>
    exact fun heq => LedgerRow.Ended.not_active (.inr heq) stale.2.1

theorem eq_of_takes (h : c.Takes s l st) (h' : c.Takes s l st') : st = st' := by
  cases h <;> cases h' <;> rfl

end Call.Takes

/-- What becomes of the state of a row is decided by whether the call takes the row out of it. -/
def Call.Decides (c : Call) (s : Store) (l l' : LedgerRow) : Prop :=
  (∃ st, c.Takes s l st ∧ l'.status = .known st) ∨
    (∀ st, ¬ c.Takes s l st) ∧ l'.status = l.status

theorem Call.Decides.takes_iff {c : Call} {s : Store} {l l' : LedgerRow} (h : c.Decides s l l')
    (st : RunStatus) : c.Takes s l st ↔ l'.status = .known st ∧ l'.status ≠ l.status := by
  rcases h with ⟨st', htakes, hstatus⟩ | ⟨hnone, hsame⟩
  · constructor
    · intro h
      rw [hstatus, htakes.eq_of_takes h]
      exact ⟨rfl, h.ne_status.symm⟩
    · rintro ⟨heq, -⟩
      obtain rfl := StatusCell.known.inj (hstatus.symm.trans heq)
      exact htakes
  · exact ⟨fun h => absurd h (hnone st), fun h => absurd hsame h.2⟩

namespace History

variable {c : Call} {h : History} {i : Nat} {l : LedgerRow}

theorem decides_transition (hs : h.store.Sound) (hl : h.store.ledger[i]? = some l) (run : Run)
    (source target : RunStatus) (error : Option String) (now : Instant) :
    ∃ l', (h.step (.transition run source target error now)).store.ledger[i]? = some l' ∧
      (Call.transition run source target error now).Decides h.store l l' := by
  by_cases htakes : ∃ st, (Call.transition run source target error now).Takes h.store l st
  · obtain ⟨st, htakes⟩ := htakes
    cases htakes with
    | transition named status legal heldDate heldNow =>
      have hanswer : h.store.transition run source target error now = .ok _ :=
        Store.transition_of_row hs.writable legal heldDate heldNow (List.mem_of_getElem? hl)
          named.symm status
      simp only [step, hanswer, revise, List.getElem?_map, hl, Option.map_some]
      refine ⟨_, rfl, .inl ⟨target, .transition named status legal heldDate heldNow, ?_⟩⟩
      rw [LedgerRow.updated, if_pos ⟨named.symm, StatusCell.holds_eq.2 status⟩]
      rfl
  · have hnone : ∀ st, ¬ (Call.transition run source target error now).Takes h.store l st :=
      fun st ht => htakes ⟨st, ht⟩
    cases hanswer : h.store.transition run source target error now with
    | error e =>
      simp only [step, hanswer, revise]
      exact ⟨l, hl, .inr ⟨hnone, rfl⟩⟩
    | ok s =>
      obtain ⟨legal, heldDate, heldNow, -, rfl⟩ := Store.transition_eq_ok hanswer
      simp only [step, hanswer, revise, List.getElem?_map, hl, Option.map_some]
      refine ⟨_, rfl, .inr ⟨hnone, ?_⟩⟩
      unfold LedgerRow.updated
      split_ifs with hit
      · have hstatus := StatusCell.holds_eq.1 hit.2
        exact absurd (.transition hit.1.symm hstatus legal heldDate heldNow) (hnone target)
      · rfl

theorem decides_failStale (hs : h.store.Sound) (hl : h.store.ledger[i]? = some l)
    (pipeline : String) (staleBefore now : Instant) :
    ∃ l', (h.step (.failStale pipeline staleBefore now)).store.ledger[i]? = some l' ∧
      (Call.failStale pipeline staleBefore now).Decides h.store l l' := by
  have hmem := List.mem_of_getElem? hl
  cases hanswer : h.store.failStale pipeline staleBefore now with
  | error e =>
    simp only [step, hanswer, Except.map, revise]
    refine ⟨l, hl, .inr ⟨fun st htakes => ?_, rfl⟩⟩
    cases htakes with
    | sweep stale heldNow =>
      obtain ⟨entries, hsweep⟩ := Store.failStale_of_stale now hs hmem stale
      rw [Store.stamp_of_held heldNow, hanswer] at hsweep
      exact absurd hsweep (by simp [Except.map])
  | ok answer =>
    obtain ⟨entries, s⟩ := answer
    obtain ⟨rfl, held⟩ := hs.failStale_eq_ok hanswer
    simp only [step, hanswer, Except.map, revise, List.getElem?_map, hl, Option.map_some]
    refine ⟨_, rfl, ?_⟩
    unfold LedgerRow.swept
    split_ifs with stale
    · exact .inl ⟨.failed, .sweep stale (held l hmem stale), rfl⟩
    · refine .inr ⟨fun st htakes => ?_, rfl⟩
      cases htakes with
      | sweep stale' heldNow => exact stale stale'

theorem decides_openRun (hs : h.store.Sound) (hl : h.store.ledger[i]? = some l)
    (q : Store.OpenRequest) :
    ∃ l', (h.step (.openRun q)).store.ledger[i]? = some l' ∧
      (Call.openRun q).Decides h.store l l' := by
  have hmem := List.mem_of_getElem? hl
  cases hanswer : h.store.openRun q with
  | error e =>
    simp only [step, hanswer]
    refine ⟨l, hl, .inr ⟨fun st htakes => ?_, rfl⟩⟩
    cases htakes with
    | opening stale heldNow heldDate =>
      obtain ⟨o, hopen⟩ := Store.openRun_of_stale hs hmem stale heldNow heldDate
      rw [hanswer] at hopen
      exact absurd hopen (by simp)
  | ok answer =>
    obtain ⟨o, s⟩ := answer
    obtain ⟨entries, s₁, r, hsweep, -, rfl, heldDate, -, rfl⟩ := Store.openRun_eq_ok hanswer
    obtain ⟨rfl, held⟩ := hs.failStale_eq_ok hsweep
    simp only [step, hanswer]
    refine ⟨LedgerRow.swept q.pipeline q.staleBefore q.now.canonical.toMicros l, ?_, ?_⟩
    · apply Store.getElem?_recorded
      rw [List.getElem?_map, hl, Option.map_some]
    · unfold LedgerRow.swept
      split_ifs with stale
      · exact .inl ⟨.failed, .opening stale (held l hmem stale) heldDate, rfl⟩
      · refine .inr ⟨fun st htakes => ?_, rfl⟩
        cases htakes with
        | opening stale' heldNow heldDate' => exact stale stale'

/-- Signs of life and batches leave all runs in their states. -/
theorem status_beat (hl : h.store.ledger[i]? = some l) (key : RunKey) (accepts : RunStatus → Bool)
    (t : Int) :
    ∃ l', (h.store.ledger.map (LedgerRow.updated key accepts (Store.beat t)))[i]? = some l' ∧
      l'.status = l.status := by
  refine ⟨_, by rw [List.getElem?_map, hl, Option.map_some], ?_⟩
  unfold LedgerRow.updated
  split_ifs <;> rfl

theorem status_write (hl : h.store.ledger[i]? = some l) (b : Store.BatchWrite) (now : Instant) :
    ∃ l', (h.write b now).store.ledger[i]? = some l' ∧ l'.status = l.status := by
  unfold write
  cases hinsert : h.store.insertBatch b now with
  | error e => exact ⟨l, hl, rfl⟩
  | ok answer =>
    obtain ⟨n, s⟩ := answer
    obtain ⟨-, -, rfl⟩ := Store.insertBatch_eq_ok hinsert
    exact status_beat hl _ _ _

/-- A call takes a row out of its state, or leaves it there. -/
theorem decides_step (hs : h.store.Sound) (hl : h.store.ledger[i]? = some l) (c : Call) :
    ∃ l', (h.step c).store.ledger[i]? = some l' ∧ c.Decides h.store l l' := by
  -- Of the calls that no case of `Takes` is about, only the states have to be looked at.
  have hother (hkind : ∀ st, ¬ c.Takes h.store l st)
      (hstatus : ∃ l', (h.step c).store.ledger[i]? = some l' ∧ l'.status = l.status) :
      ∃ l', (h.step c).store.ledger[i]? = some l' ∧ c.Decides h.store l l' := by
    obtain ⟨l', hl', hstatus⟩ := hstatus
    exact ⟨l', hl', .inr ⟨hkind, hstatus⟩⟩
  cases c with
  | openRun q => exact decides_openRun hs hl q
  | transition run source target error now =>
    exact decides_transition hs hl run source target error now
  | failStale pipeline staleBefore now => exact decides_failStale hs hl pipeline staleBefore now
  | heartbeat run now =>
    refine hother (fun st htakes => by cases htakes) ?_
    cases hanswer : h.store.heartbeat run now with
    | error e =>
      simp only [step, hanswer, revise]
      exact ⟨l, hl, rfl⟩
    | ok s =>
      obtain ⟨-, -, -, rfl⟩ := Store.heartbeat_eq_ok hanswer
      simp only [step, hanswer, revise]
      exact status_beat hl _ _ _
  | insertBatch b now => exact hother (fun st htakes => by cases htakes) (status_write hl b now)
  | prepare chunkSize cancelled source batch run =>
    refine hother (fun st htakes => by cases htakes) ⟨l, ?_, rfl⟩
    cases hanswer : Load.prepare h.store chunkSize cancelled source batch run <;>
      simpa only [step, hanswer] using hl
  | commit j now =>
    refine hother (fun st htakes => by cases htakes) ?_
    cases hb : h.prepared[j]? with
    | none =>
      simp only [step, hb]
      exact ⟨l, hl, rfl⟩
    | some b =>
      simp only [step, hb]
      exact status_write hl b now
  | load chunkSize cancelled source batch run now =>
    refine hother (fun st htakes => by cases htakes) ?_
    cases hanswer : Load.load h.store chunkSize cancelled source batch run now with
    | error e =>
      simp only [step, hanswer]
      exact ⟨l, hl, rfl⟩
    | ok answer =>
      obtain ⟨report, s⟩ := answer
      obtain ⟨p, n, hprepare, hinsert⟩ := Load.load_eq_ok hanswer
      obtain ⟨-, -, rfl⟩ := Store.insertBatch_eq_ok hinsert
      simp only [step, hanswer, hprepare]
      exact status_beat hl _ _ _

/-- What is known for good of a row that calls have left behind. -/
structure Lasting (constraints : Constraints) (calls : List Call) (i : Nat) (l : LedgerRow) :
    Prop where
  timed : l.Timed
  /-- The row of a run that is over is never changed. -/
  final : l.Ended → ∀ more, (after constraints (calls ++ more)).store.ledger[i]? = some l
  /-- Whoever is the first to take the run out of its state does, and nobody else. -/
  first : ∀ c, ∃ l', ((after constraints calls).step c).store.ledger[i]? = some l' ∧
    ∀ st, c.Takes (after constraints calls).store l st ↔
      l'.status = .known st ∧ l'.status ≠ l.status
  /-- After that the run is never in the state again. -/
  once : ∀ c st more, c.Takes (after constraints calls).store l st →
    ∃ l', (after constraints (calls ++ c :: more)).store.ledger[i]? = some l' ∧
      l'.status ≠ l.status
  /-- Who asks for a move out of the state then is refused; only a run of the same pipeline and date
  could be the one that is moved. -/
  late : ∀ c st more, c.Takes (after constraints calls).store l st →
    (∀ l' ∈ (after constraints (calls ++ c :: more)).store.ledger, l'.key = l.key →
      (after constraints (calls ++ c :: more)).store.ledger[i]? = some l') →
    ∀ r source target error now, r.key = l.key → l.status = .known source →
      ∃ e, (after constraints (calls ++ c :: more)).store.transition r source target error now =
        .error e

theorem once_of_takes {constraints : Constraints} {calls : List Call}
    (hs : (after constraints calls).store.Sound)
    (hl : (after constraints calls).store.ledger[i]? = some l) {st : RunStatus}
    (htakes : c.Takes (after constraints calls).store l st) (more : List Call) :
    ∃ l', (after constraints (calls ++ c :: more)).store.ledger[i]? = some l' ∧
      l'.status ≠ l.status := by
  obtain ⟨l₁, hl₁, hdecides⟩ := decides_step hs hl c
  have hleft : l₁.status ≠ l.status := ((hdecides.takes_iff st).1 htakes).2
  have hstep : after constraints (calls ++ [c]) = (after constraints calls).step c :=
    after_append constraints calls [c]
  rw [← hstep] at hl₁
  have hrank : l.status.rank < l₁.status.rank := by
    obtain ⟨l₂, hl₂, hrank⟩ := status_after_append hl [c]
    obtain rfl : l₁ = l₂ := Option.some.inj (hl₁.symm.trans hl₂)
    exact hrank.resolve_left hleft
  obtain ⟨l', hl', hlater⟩ := status_after_append hl₁ more
  rw [List.append_assoc, List.singleton_append] at hl'
  refine ⟨l', hl', fun hback => ?_⟩
  rw [hback] at hlater
  rcases hlater with hsame | hlt
  · exact hleft hsame.symm
  · omega

theorem timed_after (constraints : Constraints) (calls : List Call) :
    ∀ l ∈ (after constraints calls).store.ledger, l.Timed :=
  after_induction (P := fun h => ∀ l ∈ h.store.ledger, l.Timed) (Q := fun _ => True)
    (by simp [fresh]) (fun _ _ _ _ hstep => timed_step hstep) (fun _ _ => trivial)

theorem lasting_after {constraints : Constraints} {calls : List Call}
    (hs : (after constraints calls).store.Sound)
    (hl : (after constraints calls).store.ledger[i]? = some l) : Lasting constraints calls i l where
  timed := timed_after constraints calls l (List.mem_of_getElem? hl)
  final := fun ended => getElem?_after_of_not_active hl ended.not_active
  first := by
    intro c
    obtain ⟨l', hl', hdecides⟩ := decides_step hs hl c
    exact ⟨l', hl', hdecides.takes_iff⟩
  once := fun c st more htakes => once_of_takes hs hl htakes more
  late := by
    intro c st more htakes only r source target error now hkey hsource
    obtain ⟨l', hl', hleft⟩ := once_of_takes hs hl htakes more
    cases hanswer : (after constraints (calls ++ c :: more)).store.transition r source target error
        now with
    | error e => exact ⟨e, rfl⟩
    | ok s =>
      obtain ⟨-, -, -, ⟨l₁, hl₁, hkey₁, hstatus⟩, -⟩ := Store.transition_eq_ok hanswer
      have hsame := only l₁ hl₁ (hkey₁.trans hkey)
      obtain rfl : l' = l₁ := Option.some.inj (hl'.symm.trans hsame)
      exact absurd (hstatus.trans hsource.symm) hleft

/-- Whatever clients call in whatever order, runs pass through their states as they should. The
first call that would take a run out of a state does, a run that is over stays as it is, and a move
that is refused leaves everything as it was. -/
theorem follows_lifecycle (constraints : Constraints) (calls : List Call)
    (hcalls : ∀ c ∈ calls, c.OnClock) :
    let h := after constraints calls
    (∀ i, ∃ life ∈ RunStatus.lives,
        ((fresh constraints).statuses calls i).destutter (· ≠ ·) <+: life.map .known) ∧
      (∀ i l, h.store.ledger[i]? = some l → Lasting constraints calls i l) ∧
      ∀ r source target error now,
        h.store.MoveAnswer r source target error now
            (h.store.transition r source target error now) ∧
          ∀ e, h.store.transition r source target error now = .error e →
            h.step (.transition r source target error now) = h := by
  intro h
  have hs : h.store.Sound := sound_after constraints hcalls
  refine ⟨statuses_prefix_life constraints calls, fun i l hl => lasting_after hs hl,
    fun r source target error now => ⟨hs.moveAnswer r source target error now, fun e he => ?_⟩⟩
  simp only [step, he, revise]

/-- A run that is swept before its owner reports the success. -/
def sweptRun : List Call :=
  let run : Run := ⟨"nightly", ⟨1714521600, 0⟩, "1.0"⟩
  [.openRun ⟨run.pipeline, run.version, "test:1", run.date, ⟨0, 0⟩⟩,
    .transition run .pending .running none run.date,
    .failStale run.pipeline ⟨1714525200, 0⟩ ⟨1714525200, 0⟩,
    .transition run .running .succeeded none ⟨1714525260, 0⟩]

theorem follows_lifecycle_swept :
    ((fresh {}).statuses sweptRun 0).destutter (· ≠ ·) =
        [.known .pending, .known .running, .known .failed] ∧
      ∃ l, (after {} sweptRun).store.ledger[0]? = some l ∧
        ∀ more, (after {} (sweptRun ++ more)).store.ledger[0]? = some l := by
  have hcalls : ∀ c ∈ sweptRun, c.OnClock := by
    simp [sweptRun, Call.OnClock, Instant.OnClock, Instant.isLeap]
  have hstatus : (after {} sweptRun).store.ledger[0]?.map (·.status) = some (.known .failed) := by
    decide +kernel
  obtain ⟨l, hl, hfailed⟩ := Option.map_eq_some_iff.1 hstatus
  obtain ⟨-, hrows, -⟩ := follows_lifecycle {} sweptRun hcalls
  exact ⟨by decide +kernel, l, hl, (hrows 0 l hl).final (.inr hfailed)⟩

/-- A pending run is asked to go from success to failure, and refused with the state that it is not
in; asked to begin in the year 10000, it is refused although nobody was faster. -/
theorem transition_illegal_or_unheld :
    let run : Run := ⟨"nightly", ⟨1714521600, 0⟩, "1.0"⟩
    let s := (after {} [.openRun ⟨run.pipeline, run.version, "test:1", run.date, ⟨0, 0⟩⟩]).store
    (s.ledger.map fun l => (l.key, l.status)) = [(run.key, .known .pending)] ∧
      s.transition run .succeeded .failed none ⟨1714521660, 0⟩ =
        .error (.invalidTransition .succeeded .failed) ∧
      ∀ s', s.transition run .pending .running none ⟨253402304399, 0⟩ ≠ .ok s' := by
  intro run s
  refine ⟨by decide +kernel, Store.transition_of_illegal rfl, fun s' hanswer => ?_⟩
  obtain ⟨-, -, heldNow, -⟩ := Store.transition_eq_ok hanswer
  exact absurd heldNow (by decide)

end History

end FleetProfile
