import FleetProfile.Proofs.LedgerAnswers

/-! Taking the place of a run whose owner went silent. The sweep judges a run by its row; the row
tells when the owner was last heard of, unless all that was heard is that the run was opened. -/
namespace FleetProfile
open Store (isHoldable isActive)
open Time (Instant)

/-- A clock that counts microseconds shows the time. -/
structure Time.Instant.OnMicroClock (t : Instant) : Prop where
  whole : t.nanos % 1000 = 0
  clock : t.OnClock

/-- A column that takes the time of such a clock holds it exactly. -/
theorem Time.Instant.OnMicroClock.ofMicros_toMicros {t : Instant} (h : t.OnMicroClock)
    (held : isHoldable t = true) : Instant.ofMicros t.toMicros = t :=
  Instant.ofMicros_toMicros (Store.nanos_lt_of_held h.clock held) h.whole

/-- All times that owners of runs give are those of such clocks. -/
def Call.OnMicroClocks : Call → Prop
  | openRun q => q.now.OnMicroClock
  | transition _ _ _ _ now => now.OnMicroClock
  | heartbeat _ now => now.OnMicroClock
  | insertBatch _ now => now.OnMicroClock
  | commit _ now => now.OnMicroClock
  | load _ _ _ _ _ now => now.OnMicroClock
  | _ => True

theorem Call.OnMicroClocks.onClock {c : Call} (h : c.OnMicroClocks) : c.OnClock := by
  cases c with
  | openRun q => exact h.clock
  | _ => trivial

/-- A sign of life, which a call gives of a run that is not refused. -/
structure Sign where
  run : RunKey
  time : Instant
  /-- Whether it is the call that opened the run. -/
  opening : Bool
deriving DecidableEq

namespace History

/-- The sign of life that a batch gives. -/
def signOfBatch (h : History) (b : Store.BatchWrite) (now : Instant) : List Sign :=
  match h.store.insertBatch b now with
  | .ok _ => [⟨b.run.key, now, false⟩]
  | .error _ => []

/-- The sign of life that a call gives, if it gives one. -/
def signOf (h : History) : Call → List Sign
  | .openRun q =>
    match h.store.openRun q with
    | .ok (o, _) => [⟨o.entry.run.key, q.now, true⟩]
    | .error _ => []
  | .transition run source target error now =>
    match h.store.transition run source target error now with
    | .ok _ => [⟨run.key, now, false⟩]
    | .error _ => []
  | .heartbeat run now =>
    match h.store.heartbeat run now with
    | .ok _ => [⟨run.key, now, false⟩]
    | .error _ => []
  | .failStale .. => []
  | .insertBatch b now => h.signOfBatch b now
  | .prepare .. => []
  | .commit i now =>
    match h.prepared[i]? with
    | some b => h.signOfBatch b now
    | none => []
  | .load chunkSize cancelled source batch run now =>
    match Load.load h.store chunkSize cancelled source batch run now with
    | .ok _ => [⟨run.key, now, false⟩]
    | .error _ => []

/-- The signs of life that calls give, one after the other. -/
def signs : History → List Call → List Sign
  | _, [] => []
  | h, c :: calls => h.signOf c ++ signs (h.step c) calls

end History

/-! ### What the rows tell -/

/-- A row tells of a sign of life of its run, or the run was opened and not heard of again. -/
def LedgerRow.Tells (signs : List Sign) (l : LedgerRow) : Prop :=
  (∃ g ∈ signs, g.run = l.key ∧ Instant.ofMicros l.heartbeatAt = g.time) ∨
    l.heartbeatAt = l.date ∧ ∀ g ∈ signs, g.run = l.key → g.opening = true

/-- Signs of life are of runs that are recorded, and the rows of active runs tell of them. -/
structure Store.Heard (signs : List Sign) (s : Store) : Prop where
  recorded : ∀ g ∈ signs, ∃ m ∈ s.metadata, m.key = g.run
  tells : ∀ l ∈ s.ledger, l.Active → l.Tells signs

namespace LedgerRow

variable {signs more : List Sign} {l l' : LedgerRow}

theorem Tells.congr (h : l.Tells signs) (hkey : l'.key = l.key)
    (hbeat : l'.heartbeatAt = l.heartbeatAt) : l'.Tells signs := by
  have hdate : l'.date = l.date := congrArg Prod.snd hkey
  unfold Tells
  rw [hkey, hbeat, hdate]
  exact h

/-- Signs of other runs do not matter, nor does one of the opening of the run. -/
theorem Tells.append (h : l.Tells signs)
    (hmore : ∀ g ∈ more, g.run = l.key → g.opening = true) : l.Tells (signs ++ more) := by
  rcases h with ⟨g, hg, hrun, htime⟩ | ⟨hdate, hopening⟩
  · exact .inl ⟨g, List.mem_append_left more hg, hrun, htime⟩
  · exact .inr ⟨hdate, List.forall_mem_append.2 ⟨hopening, hmore⟩⟩

theorem tells_concat {g : Sign} (hrun : g.run = l.key)
    (htime : Instant.ofMicros l.heartbeatAt = g.time) : l.Tells (signs ++ [g]) :=
  .inl ⟨g, List.mem_append_right signs List.mem_cons_self, hrun, htime⟩

theorem Change.heartbeatAt_swept {pipeline : String} (h : Store.Swept pipeline l l') :
    l'.heartbeatAt = l.heartbeatAt := by
  rcases h with rfl | ⟨-, -, message, t, rfl⟩
  · rfl
  · rfl

end LedgerRow

namespace Store.Heard

variable {signs : List Sign} {s s' : Store}

/-- A call that stamps a sign of life on the rows of a run whose state it accepts. -/
theorem updated (hh : s.Heard signs) (horderly : s.Orderly) {key : RunKey}
    {accepts : RunStatus → Bool} {change : LedgerRow → LedgerRow} {now : Instant}
    (hchange : ∀ l, l.status.holds accepts = true → LedgerRow.Change l (change l))
    (hactive : ∀ l : LedgerRow, l.status.holds accepts = true → l.Active)
    (hbeat : ∀ l, (change l).heartbeatAt = now.toMicros)
    (hnow : Instant.ofMicros now.toMicros = now)
    (hrow : ∃ l ∈ s.ledger, l.key = key ∧ l.status.holds accepts = true) :
    Heard (signs ++ [⟨key, now, false⟩])
      { s with ledger := s.ledger.map (LedgerRow.updated key accepts change) } := by
  obtain ⟨l₀, hl₀, hkey₀, hst₀⟩ := hrow
  constructor
  case recorded =>
    obtain ⟨m, hm, hkey⟩ := horderly.rows l₀ hl₀
    have hnew : ∃ m ∈ s.metadata, m.key = key := ⟨m, hm, hkey.trans hkey₀⟩
    exact List.forall_mem_append.2 ⟨hh.recorded, List.forall_mem_singleton.2 hnew⟩
  case tells =>
    intro l' hl' active'
    obtain ⟨l, hl, rfl⟩ := List.mem_map.1 hl'
    have hc : LedgerRow.Change l (LedgerRow.updated key accepts change l) :=
      LedgerRow.change_updated key hchange l
    have active : l.Active := hc.active_of_active active'
    by_cases hkey : l.key = key
    · -- The only active row of the pipeline is the one that the call was about.
      have hsame : l = l₀ := by
        apply horderly.eq_of_active hl₀ hl _ (hactive l₀ hst₀) active
        exact congrArg Prod.fst (hkey.trans hkey₀.symm)
      have hhit : LedgerRow.updated key accepts change l = change l := by
        unfold LedgerRow.updated
        rw [if_pos ⟨hkey, hsame ▸ hst₀⟩]
      apply LedgerRow.tells_concat
      · rw [hc.key_eq, hkey]
      · rw [hhit, hbeat, hnow]
    · have hmiss : LedgerRow.updated key accepts change l = l := by
        unfold LedgerRow.updated
        rw [if_neg fun hit => hkey hit.1]
      rw [hmiss]
      apply (hh.tells l hl active).append
      intro g hg hrun
      rw [List.mem_singleton.1 hg] at hrun
      exact absurd hrun.symm hkey

theorem failStale (hh : s.Heard signs) {pipeline : String} {staleBefore now : Instant}
    {swept : List RunEntry} (h : s.failStale pipeline staleBefore now = .ok (swept, s')) :
    s'.Heard signs := by
  obtain ⟨f, hf, rfl⟩ := failStale_eq_ok h
  constructor
  case recorded => exact hh.recorded
  case tells =>
    intro l' hl' active'
    obtain ⟨l, hl, rfl⟩ := List.mem_map.1 hl'
    have hc := (hf l).change
    apply (hh.tells l hl (hc.active_of_active active')).congr hc.key_eq
    exact LedgerRow.Change.heartbeatAt_swept (hf l)

/-- A new run has a date that no run had before, so that no earlier sign is of it. -/
theorem recorded_new (hh : s.Heard signs) {q : OpenRequest} {r : Run}
    (whole : q.now.canonical.nanos % 1000 = 0)
    (hr : r = Run.new q.pipeline (s.nextDate q.now.canonical) q.version) :
    (s.recorded r q.runner).Heard (signs ++ [⟨r.key, q.now, true⟩]) := by
  constructor
  case recorded =>
    intro g hg
    rcases List.mem_append.1 hg with hg | hg
    · obtain ⟨m, hm, hkey⟩ := hh.recorded g hg
      exact ⟨m, List.mem_append_left _ hm, hkey⟩
    · rw [List.mem_singleton.1 hg]
      exact ⟨r.toRow, List.mem_append_right _ List.mem_cons_self, rfl⟩
  case tells =>
    intro l hl active
    rcases List.mem_append.1 hl with hl | hl
    · apply (hh.tells l hl active).append
      intro g hg _
      rw [List.mem_singleton.1 hg]
    · rw [List.mem_singleton.1 hl]
      refine .inr ⟨rfl, List.forall_mem_append.2 ⟨?_, by simp⟩⟩
      intro g hg hrun
      obtain ⟨m, hm, hkey⟩ := hh.recorded g hg
      have hlt : m.date < r.date.toMicros := by
        rw [hr, Run.new, Instant.toMicros_canonical]
        exact lt_nextDate whole m hm
      have hdate : m.date = r.date.toMicros := congrArg Prod.snd (hkey.trans hrun)
      omega

end Store.Heard

namespace History

variable {h : History} {c : Call} {past : List Sign}

theorem heard_withBatch (hh : h.store.Heard past) (horderly : h.store.Orderly)
    {b : Store.BatchWrite} {now : Instant} (clock : now.OnMicroClock) {n : Nat} {s : Store}
    (hinsert : h.store.insertBatch b now = .ok (n, s)) :
    s.Heard (past ++ [⟨b.run.key, now, false⟩]) := by
  have held := Store.isHoldable_of_insertBatch hinsert
  rw [Instant.canonical_eq_self clock.whole] at held
  obtain ⟨-, ⟨l, hl, hkey, hst⟩, rfl⟩ := Store.insertBatch_eq_ok hinsert
  have hrow : ∃ l ∈ h.store.ledger, l.key = b.run.key ∧ l.status.holds (· = .running) = true :=
    ⟨l, hl, hkey, StatusCell.holds_eq.2 hst⟩
  have active (l : LedgerRow) (hst : l.status.holds (· = .running) = true) : l.Active :=
    LedgerRow.active_of_running hst
  have hledger := hh.updated horderly (fun l hst => .beat now.toMicros (active l hst)) active
    (fun _ => rfl) (clock.ofMicros_toMicros held) hrow
  exact ⟨hledger.recorded, hledger.tells⟩

theorem heard_write (hh : h.store.Heard past) (horderly : h.store.Orderly)
    {b : Store.BatchWrite} {now : Instant} (clock : now.OnMicroClock) :
    (h.write b now).store.Heard (past ++ h.signOfBatch b now) := by
  unfold write signOfBatch
  cases hinsert : h.store.insertBatch b now with
  | error e =>
    rw [List.append_nil]
    exact hh
  | ok answer => exact heard_withBatch hh horderly clock hinsert

/-- After a call, rows tell of the signs of life up to that call. -/
theorem heard_step (clock : c.OnMicroClocks) (horderly : h.store.Orderly)
    (hh : h.store.Heard past) : (h.step c).store.Heard (past ++ h.signOf c) := by
  cases c with
  | openRun q =>
    cases hopen : h.store.openRun q with
    | error e =>
      simp only [step, signOf, hopen, List.append_nil]
      exact hh
    | ok answer =>
      obtain ⟨o, s⟩ := answer
      obtain ⟨swept, s₁, r, hsweep, -, hr, -, hrun, rfl⟩ := Store.openRun_eq_ok hopen
      simp only [step, signOf, hopen, hrun]
      have hwhole : q.now.canonical.nanos % 1000 = 0 := by
        rw [Instant.canonical_eq_self clock.whole]
        exact clock.whole
      exact (hh.failStale hsweep).recorded_new hwhole hr
  | transition run source target error now =>
    cases hmove : h.store.transition run source target error now with
    | error e =>
      simp only [step, signOf, hmove, List.append_nil]
      exact hh
    | ok s =>
      simp only [step, signOf, hmove]
      obtain ⟨legal, -, held, ⟨l, hl, hkey, hst⟩, rfl⟩ := Store.transition_eq_ok hmove
      apply hh.updated horderly
      · intro l hst
        exact .move error _ (StatusCell.holds_eq.1 hst) legal
      · intro l hst
        exact LedgerRow.active_of_canBecome (StatusCell.holds_eq.1 hst) legal
      · exact fun _ => rfl
      · exact clock.ofMicros_toMicros held
      · exact ⟨l, hl, hkey, StatusCell.holds_eq.2 hst⟩
  | heartbeat run now =>
    cases hbeat : h.store.heartbeat run now with
    | error e =>
      simp only [step, signOf, hbeat, List.append_nil]
      exact hh
    | ok s =>
      simp only [step, signOf, hbeat]
      obtain ⟨-, held, hrow, rfl⟩ := Store.heartbeat_eq_ok hbeat
      apply hh.updated horderly
      · exact fun l hst => .beat _ hst
      · exact fun l hst => hst
      · exact fun _ => rfl
      · exact clock.ofMicros_toMicros held
      · exact hrow
  | failStale pipeline staleBefore now =>
    cases hsweep : h.store.failStale pipeline staleBefore now with
    | error e =>
      simp only [step, signOf, hsweep, List.append_nil]
      exact hh
    | ok answer =>
      simp only [step, signOf, hsweep, List.append_nil]
      exact hh.failStale hsweep
  | insertBatch b now => exact heard_write hh horderly clock
  | prepare chunkSize cancelled source batch run =>
    simp only [step, signOf, List.append_nil]
    split <;> exact hh
  | commit i now =>
    cases hb : h.prepared[i]? with
    | none =>
      simp only [step, signOf, hb, List.append_nil]
      exact hh
    | some b =>
      simp only [step, signOf, hb]
      exact heard_write hh horderly clock
  | load chunkSize cancelled source batch run now =>
    cases hload : Load.load h.store chunkSize cancelled source batch run now with
    | error e =>
      simp only [step, signOf, hload, List.append_nil]
      exact hh
    | ok answer =>
      obtain ⟨report, s⟩ := answer
      obtain ⟨p, n, hprepare, hinsert⟩ := Load.load_eq_ok hload
      obtain ⟨hrun, -, -⟩ := Load.prepare_eq_ok hprepare
      simp only [step, signOf, hload, hprepare]
      rw [← hrun]
      exact heard_withBatch hh horderly clock hinsert

theorem heard_foldl {calls : List Call} (clocks : ∀ c ∈ calls, c.OnMicroClocks)
    (horderly : h.store.Orderly) (hh : h.store.Heard past) :
    (calls.foldl step h).store.Heard (past ++ h.signs calls) := by
  induction calls generalizing h past with
  | nil =>
    rw [signs, List.append_nil]
    exact hh
  | cons c calls ih =>
    obtain ⟨hfirst, hrest⟩ := List.forall_mem_cons.1 clocks
    rw [signs, ← List.append_assoc]
    exact ih hrest (orderly_step (step_cases c h) horderly) (heard_step hfirst horderly hh)

theorem heard_after (constraints : Constraints) {calls : List Call}
    (clocks : ∀ c ∈ calls, c.OnMicroClocks) :
    (after constraints calls).store.Heard ((fresh constraints).signs calls) := by
  have hnew : (fresh constraints).store.Heard [] := ⟨by simp, by simp [fresh]⟩
  exact heard_foldl clocks (orderly_fresh constraints) hnew

end History

/-! ### The sweep -/

namespace Store

variable {s : Store} {l : LedgerRow}

theorem stamp_ne_runInProgress (t : Instant) (pipeline : String) (date : Instant) :
    stamp t ≠ .error (.runInProgress pipeline date) := by
  unfold stamp
  split_ifs <;> simp

/-- Opening a run is not refused for one that is stale. -/
theorem openRun_ne_runInProgress (hs : s.Sound) (hl : l ∈ s.ledger) {q : OpenRequest}
    (stale : l.Stale q.pipeline q.staleBefore) (pipeline : String) (date : Instant) :
    s.openRun q ≠ .error (.runInProgress pipeline date) := by
  obtain ⟨entries, hsweep⟩ := failStale_of_stale q.now.canonical hs hl stale
  intro hopen
  cases hnow : stamp q.now.canonical with
  | error e =>
    rw [hnow] at hsweep
    have hsame : s.openRun q = .error e := by
      unfold openRun
      simp only [hsweep, Except.map, bind, Except.bind]
    rw [hsame, Except.error.injEq] at hopen
    exact stamp_ne_runInProgress _ _ _ (hopen ▸ hnow)
  | ok t =>
    rw [hnow] at hsweep
    have hsame := openRun_of_idle hsweep hs.writable (activeRuns_of_stale hs hl stale t)
    rw [hsame] at hopen
    exact stamp_ne_runInProgress _ _ _ (map_eq_error.1 hopen)

end Store

namespace History

/-- A run of which every sign of life is earlier than a time is stale at that time, if it was heard
of after it was opened, or else if its date is earlier too. -/
theorem stale_of_lt {s : Store} {signs : List Sign} (hh : s.Heard signs) {l : LedgerRow}
    (hl : l ∈ s.ledger) (active : l.Active) {staleBefore : Instant}
    (hlt : ∀ g ∈ signs, g.run = l.key → g.time < staleBefore)
    (hmoved : (∃ g ∈ signs, g.run = l.key ∧ g.opening = false) ∨
      Instant.ofMicros l.date < staleBefore) : l.Stale l.pipeline staleBefore := by
  refine ⟨rfl, active, ?_⟩
  rcases hh.tells l hl active with ⟨g, hg, hrun, htime⟩ | ⟨hbeat, hopening⟩
  · rw [htime]
    exact hlt g hg hrun
  · rcases hmoved with ⟨g, hg, hrun, hlater⟩ | hdate
    · exact absurd (hopening g hg hrun) (by simp [hlater])
    · rwa [hbeat]

/-- A run that gave no sign of life for long enough is failed by a sweep of its pipeline, and does
not stand in the way of a new run. Of a run that was not heard of after it was opened, its date must
lie as far back, which may be later than the time at which it was opened. -/
theorem recovered (constraints : Constraints) (calls : List Call)
    (clocks : ∀ c ∈ calls, c.OnMicroClocks) {l : LedgerRow}
    (hl : l ∈ (after constraints calls).store.ledger) (active : l.Active) (staleBefore : Instant)
    (hlt : ∀ g ∈ (fresh constraints).signs calls, g.run = l.key → g.time < staleBefore)
    (hmoved : (∃ g ∈ (fresh constraints).signs calls, g.run = l.key ∧ g.opening = false) ∨
      Instant.ofMicros l.date < staleBefore) :
    let s := (after constraints calls).store
    (∀ now, isHoldable now = true → ∃ swept, s.failStale l.pipeline staleBefore now =
      .ok (swept, { s with ledger := s.ledger.map fun x =>
        if x = l then Store.bury l.staleMessage now.toMicros l else x })) ∧
      ∀ q : Store.OpenRequest, q.pipeline = l.pipeline → q.staleBefore = staleBefore →
        ∀ pipeline date, s.openRun q ≠ .error (.runInProgress pipeline date) := by
  intro s
  have hs : s.Sound := sound_after constraints fun c hc => (clocks c hc).onClock
  have stale : l.Stale l.pipeline staleBefore :=
    stale_of_lt (heard_after constraints clocks) hl active hlt hmoved
  constructor
  · intro now held
    obtain ⟨swept, hsweep⟩ := Store.failStale_of_stale now hs hl stale
    refine ⟨swept, ?_⟩
    rw [hsweep, Store.stamp_of_held held]
    have hrows : s.ledger.map (LedgerRow.swept l.pipeline staleBefore now.toMicros) =
        s.ledger.map fun x => if x = l then Store.bury l.staleMessage now.toMicros l else x := by
      apply List.map_congr_left
      intro x hx
      unfold LedgerRow.swept
      by_cases hstale : x.Stale l.pipeline staleBefore
      · have heq := hs.orderly.eq_of_active hl hx hstale.1 active hstale.2.1
        rw [if_pos hstale, if_pos heq, heq]
      · have hne : x ≠ l := fun heq => hstale (heq ▸ stale)
        rw [if_neg hstale, if_neg hne]
    rw [← hrows]
    rfl
  · intro q hpipeline hbefore
    apply Store.openRun_ne_runInProgress hs hl
    rw [hpipeline, hbefore]
    exact stale

/-- Two pipelines whose clocks differ: the second run is dated after the first one, which is later
than its own clock. -/
def twoClocks : List Call :=
  [.openRun ⟨"weekly", "1.0", "test:1", ⟨1714564800, 0⟩, ⟨0, 0⟩⟩,
    .openRun ⟨"nightly", "1.0", "test:1", ⟨1714557600, 0⟩, ⟨0, 0⟩⟩]

/-- The second run is heard of once more by its own clock, and then never again. -/
theorem recovered_heartbeat :
    let date : Instant := ⟨1714564800, 1000⟩
    let staleBefore : Instant := ⟨1714561200, 0⟩
    let calls : List Call := twoClocks ++ [.heartbeat ⟨"nightly", date, "1.0"⟩ ⟨1714557900, 0⟩]
    let s := (after {} calls).store
    staleBefore < date ∧ ∃ swept s',
      s.failStale "nightly" staleBefore staleBefore = .ok (swept, s') ∧ ∃ l ∈ s'.ledger,
        l.key = ("nightly", date.toMicros) ∧ l.status = .known .failed := by
  intro date staleBefore calls s
  let l : LedgerRow := ⟨"nightly", date.toMicros, .known .pending, "test:1", 1714557900000000,
    none, none⟩
  have clocks : ∀ c ∈ calls, c.OnMicroClocks := by
    have hwhole (seconds : Int) : Instant.OnMicroClock ⟨seconds, 0⟩ :=
      ⟨rfl, fun hleap => absurd hleap (by simp [Instant.isLeap])⟩
    intro c hc
    simp only [calls, twoClocks, List.cons_append, List.nil_append, List.mem_cons,
      List.not_mem_nil, or_false] at hc
    rcases hc with rfl | rfl | rfl <;> exact hwhole _
  have hl : l ∈ s.ledger := by decide +kernel
  obtain ⟨hsweep, -⟩ := recovered {} calls clocks hl (by decide) staleBefore (by decide +kernel)
    (.inl (by decide +kernel))
  obtain ⟨swept, hsweep⟩ := hsweep staleBefore (by decide +kernel)
  refine ⟨by decide, swept, _, hsweep, _, List.mem_map_of_mem hl, ?_⟩
  rw [if_pos rfl]
  exact ⟨rfl, rfl⟩

/-- Without that, a sweep by its own clock leaves the run as it is, long after it was last heard
of, and it stands in the way of a new one. -/
theorem openRun_twoClocks :
    let date : Instant := ⟨1714564800, 1000⟩
    let staleBefore : Instant := ⟨1714561200, 0⟩
    let s := (after {} twoClocks).store
    (∃ l ∈ s.ledger, l.key = ("nightly", date.toMicros) ∧ l.Active) ∧
      (∀ g ∈ (fresh {}).signs twoClocks, g.run = ("nightly", date.toMicros) →
        g.time < staleBefore) ∧
      (s.failStale "nightly" staleBefore staleBefore).map (fun a => (a.1, a.2.ledger)) =
        .ok ([], s.ledger) ∧
      (s.openRun ⟨"nightly", "1.0", "test:2", ⟨1714563000, 0⟩, staleBefore⟩).map Prod.fst =
        .error (.runInProgress "nightly" date) := by
  decide +kernel

end History

end FleetProfile
