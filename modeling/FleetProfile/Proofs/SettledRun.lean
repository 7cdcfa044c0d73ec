import FleetProfile.Proofs.LedgerAnswers
import FleetProfile.Proofs.OtherClients
import FleetProfile.Proofs.RunOutcome

/-! When a run of a pipeline returns, the run that it opened is over, and its outcome tells what the
ledger does. Between any two of its statements other clients may have failed the run in a sweep. -/
namespace FleetProfile
open Store (BatchWrite OpenedRun isHoldable)
open Time (Instant)

namespace Store

/-- A run has a row of its own, in one of some states, and the store can be written to. -/
structure InPhase (r : Run) (P : RunStatus → Prop) (s : Store) : Prop where
  orderly : s.Orderly
  writable : s.readOnly = false
  own : s.OwnDate r.key
  state : ∀ l ∈ s.ledger, l.key = r.key → ∃ st, l.status = .known st ∧ P st

/-- A state, or that of a run that was swept meanwhile. -/
def OrFailed (source st : RunStatus) : Prop := st = source ∨ st = .failed

variable {s s' : Store} {r : Run} {P Q : RunStatus → Prop} {source target : RunStatus}
  {error : Option String} {now : Instant}

namespace InPhase

theorem mono (h : s.InPhase r P) (hPQ : ∀ st, P st → Q st) : s.InPhase r Q where
  orderly := h.orderly
  writable := h.writable
  own := h.own
  state l hl hkey := by
    obtain ⟨st, hst, hP⟩ := h.state l hl hkey
    exact ⟨st, hst, hPQ st hP⟩

theorem exists_row (h : s.InPhase r P) :
    ∃ l, s.ledger.filter (fun l => l.key = r.key) = [l] ∧ ∃ st, l.status = .known st ∧ P st := by
  obtain ⟨l, hl⟩ := h.own.exists_row
  have hmem : l ∈ s.ledger.filter fun l => l.key = r.key := hl ▸ List.mem_singleton_self l
  obtain ⟨hmem, hkey⟩ := List.mem_filter.1 hmem
  exact ⟨l, hl, h.state l hmem (of_decide_eq_true hkey)⟩

/-- A run that was moved is where it was moved to. -/
theorem moved (h : s.InPhase r P) (hmove : s.transition r source target error now = .ok s') :
    s'.InPhase r (· = target) := by
  have rows := transition_revises hmove
  obtain ⟨legal, -, -, ⟨l, hl, hkey, hst⟩, rfl⟩ := transition_eq_ok hmove
  refine ⟨h.orderly.revises rows, h.writable, h.own.revises rows, fun l' hl' hkey' => ?_⟩
  obtain ⟨l₀, hl₀, rfl⟩ := List.mem_map.1 hl'
  have hkeys := (LedgerRow.change_updated r.key (fun l hst =>
    .move error now.toMicros (StatusCell.holds_eq.1 hst) legal) l₀).key_eq
  have hsame : l₀ = l := h.own.eq_of_key hl₀ hl (hkeys.symm.trans hkey') hkey
  refine ⟨target, ?_, rfl⟩
  rw [hsame, LedgerRow.updated, if_pos ⟨hkey, StatusCell.holds_eq.2 hst⟩]
  rfl

/-- A move that is refused has not found the run in the state that it was to leave. -/
theorem refused (h : s.InPhase r P) (legal : source.canBecome target = true)
    (held : isHoldable r.date = true) (heldNow : isHoldable now = true) {e : Error}
    (hmove : s.transition r source target error now = .error e) :
    s.InPhase r fun st => P st ∧ st ≠ source where
  orderly := h.orderly
  writable := h.writable
  own := h.own
  state l hl hkey := by
    obtain ⟨st, hst, hP⟩ := h.state l hl hkey
    refine ⟨st, hst, hP, ?_⟩
    rintro rfl
    rw [transition_of_row h.writable legal held heldNow hl hkey hst] at hmove
    exact absurd hmove (by simp)

end InPhase

end Store

namespace History

variable {c : Call} {h : History} {r : Run} {source : RunStatus}

/-- Calls that do not ask for another state of a run may fail it, and do no more to it. -/
theorem inPhase_step (timely : c.Timely) (hmoves : ¬ c.Moves r.key)
    (h₀ : h.store.InPhase r (Store.OrFailed source)) :
    (h.step c).store.InPhase r (Store.OrFailed source) where
  orderly := orderly_step (step_cases c h) h₀.orderly
  writable := (step_cases c h).readOnly_eq.trans h₀.writable
  own := ownDate_step timely (step_cases c h) h₀.own
  state l' hl' hkey' := by
    obtain ⟨l, hl, hkey, hstatus⟩ := leavesRun_step timely hmoves h₀.own.recorded l' hl' hkey'
    rcases hstatus with hsame | ⟨-, hfailed⟩
    · rw [hsame]
      exact h₀.state l hl hkey
    · exact ⟨.failed, hfailed, .inr rfl⟩

end History

namespace Pipeline

variable {σ : Type} {env : Environment σ} {r : Run} {source : RunStatus}

/-- The clock shows times that 64 bits count in nanoseconds, and no leap second. -/
def Environment.ClockRegular (env : Environment σ) : Prop :=
  ∀ o, (env.now o).1.fitsNanos = true ∧ (env.now o).1.isLeap = false

/-- No client but the pipeline asks for another state of a run. Others may sweep it. -/
def Environment.MovesAlone (env : Environment σ) (k : RunKey) : Prop :=
  env.OthersCall (fun c => c.Timely ∧ ¬ c.Moves k) fun _ => True

theorem inPhase_others (alone : env.MovesAlone r.key) {s : Store} (o : σ)
    (hs : s.InPhase r (Store.OrFailed source)) :
    (env.others s o).1.InPhase r (Store.OrFailed source) := by
  obtain ⟨h', hstore, hphase⟩ := alone.induction
    (P := fun h => h.store.InPhase r (Store.OrFailed source)) { store := s } (fun _ _ => hs)
    (fun c h hc hP => History.inPhase_step hc.1 hc.2 hP) o
  exact hstore ▸ hphase

/-- The work on the sources leaves the run as it is, or failed. -/
theorem respects_inPhase (alone : env.MovesAlone r.key) :
    Respects env r (Store.InPhase r (Store.OrFailed source)) (fun _ => 0)
      (fun _ _ _ => (0 : Nat)) where
  others s o hs := ⟨inPhase_others alone o hs, rfl⟩
  beat s now s' hs hbeat := by
    have hstep := History.inPhase_step (c := .heartbeat r now) (h := { store := s }) trivial id hs
    simp only [History.step, hbeat, History.revise] at hstep
    exact ⟨hstep, rfl⟩
  write s b now n s' hs hrun screened hwrite := by
    have hstep := History.inPhase_step (c := .insertBatch b now) (h := { store := s }) trivial id hs
    simp only [History.step, History.write, hwrite] at hstep
    exact ⟨hstep, rfl⟩

/-- What an outcome tells is what the ledger does. -/
structure Outcome.Agrees (o : Outcome) (r : Run) (s : Store) : Prop where
  run : o.run = r
  status : o.status = .succeeded ↔ o.error = none
  succeeded : o.error = none → s.InPhase r (· = .succeeded)
  failed : ∀ e, o.error = some e → s.InPhase r (· = .failed)

namespace Outcome.Agrees

variable {o : Outcome} {s : Store}

theorem exists_ended (h : o.Agrees r s) :
    ∃ row, s.ledger.filter (fun row => row.key = r.key) = [row] ∧ row.Ended := by
  cases herror : o.error with
  | none =>
    obtain ⟨row, hrow, st, hst, rfl⟩ := (h.succeeded herror).exists_row
    exact ⟨row, hrow, .inl hst⟩
  | some e =>
    obtain ⟨row, hrow, st, hst, rfl⟩ := (h.failed e herror).exists_row
    exact ⟨row, hrow, .inr hst⟩

theorem succeeded_iff (h : o.Agrees r s) : o.error = none ↔ s.Succeeded r.key := by
  constructor
  · intro herror
    have hphase := h.succeeded herror
    obtain ⟨row, hrow, hkey⟩ := hphase.own.exists_mem
    obtain ⟨st, hst, rfl⟩ := hphase.state row hrow hkey
    exact ⟨row, hrow, hkey, hst⟩
  · rintro ⟨row, hrow, hkey, hst⟩
    cases herror : o.error with
    | none => rfl
    | some e =>
      obtain ⟨st, hst', rfl⟩ := (h.failed e herror).state row hrow hkey
      exact absurd (hst.symm.trans hst') (by simp)

end Outcome.Agrees

/-- What is told of the work on the sources: why it could not begin, or what is wrong with them. -/
def failure? : Except Error (List SourceEnd) → Option Error
  | .error e => some e
  | .ok ends => firstError (ends.map SourceEnd.result)

theorem run_failureOf (env : Environment σ) (ends : Except Error (List SourceEnd))
    (w : World σ) :
    ((failureOf env ends).run w).2.store = w.store ∧
      ∀ e, failure? ends = some e → ((failureOf env ends).run w).1 = some e := by
  unfold failureOf failure?
  cases ends with
  | error e => exact ⟨rfl, fun _ he => he⟩
  | ok es =>
    simp only
    cases firstError (es.map SourceEnd.result) with
    | some e => exact ⟨rfl, fun _ he => he⟩
    | none =>
      refine ⟨?_, by simp⟩
      rw [Process.run_bind]
      split_ifs <;> rfl

/-! ### Moves -/

section

variable (clock : env.ClockRegular) (alone : env.MovesAlone r.key)
  (held : isHoldable r.date = true)

include clock alone held

/-- A move is made, or the run was failed by then. -/
theorem run_move (target : RunStatus) (legal : source.canBecome target = true)
    (error : Option String) {w : World σ}
    (hw : w.store.InPhase r (Store.OrFailed source)) :
    let x := (Ledger.move env r source target error).run w
    x.1 = .ok () ∧ x.2.store.InPhase r (· = target) ∨
      (∃ e, x.1 = .error e) ∧ x.2.store.InPhase r (· = .failed) := by
  intro x
  let w₁ : World σ := { w with outside := (env.now w.outside).2 }
  let now := (env.now w.outside).1.canonical
  let move := fun s : Store => (s.transition r source target error now).map ((), ·)
  have hx : x = (env.execute (fun _ => []) move).run w₁ := rfl
  have hs := inPhase_others alone w₁.outside hw
  have heldNow : isHoldable now = true :=
    Store.isHoldable_canonical (clock w.outside).1 (clock w.outside).2
  cases hmove : (env.others w₁.store w₁.outside).1.transition r source target error now with
  | ok s' =>
    have hmoved : move (env.others w₁.store w₁.outside).1 = .ok ((), s') :=
      map_eq_ok.2 ⟨s', hmove, rfl⟩
    obtain ⟨hanswer, hstore⟩ := run_execute_of_ok (fun _ => []) hmoved
    rw [hx, hanswer, hstore]
    exact .inl ⟨rfl, hs.moved hmove⟩
  | error e =>
    have hrefused : move (env.others w₁.store w₁.outside).1 = .error e := by
      simp only [move, hmove, Except.map]
    obtain ⟨hanswer, hstore⟩ := run_execute_of_error (fun _ => []) hrefused
    rw [hx, hanswer, hstore]
    exact .inr ⟨⟨e, rfl⟩, (hs.refused legal held heldNow hmove).mono fun st hst =>
      hst.1.resolve_left hst.2⟩

/-- A run that is to be failed is failed, if not by this call then before. -/
theorem run_markFailed (legal : source.canBecome .failed = true) (e : Error) {w : World σ}
    (hw : w.store.InPhase r (Store.OrFailed source)) :
    ((markFailed env r source e).run w).2.store.InPhase r (· = .failed) := by
  have hmove := run_move clock alone held .failed legal (some e.message) hw
  have hfail := Job.run_bind (Ledger.move env r source .failed (some e.message))
    (fun _ => Job.note [.error s!"Run failed: {e.message}"]) w
  have hstore : ((markFailed env r source e).run w).2.store =
      ((Ledger.move env r source .failed (some e.message)).run w).2.store := by
    have hmark : (markFailed env r source e).run w = _ :=
      Process.run_bind (Ledger.fail env r source e.message).attempt _ w
    have hattempt : (Ledger.fail env r source e.message).attempt.run w = _ := hfail
    rw [hmark, hattempt]
    cases (Ledger.move env r source .failed (some e.message)).run w with
    | mk answer w' => cases answer <;> rfl
  rw [hstore]
  rcases hmove with ⟨-, hphase⟩ | ⟨-, hphase⟩
  · exact hphase
  · exact hphase

/-- Without an error a run succeeds, unless it was failed by then. -/
theorem run_settle {w : World σ} (hw : w.store.InPhase r (Store.OrFailed .running)) :
    let x := (settle env r none).run w
    x.1 = none ∧ x.2.store.InPhase r (· = .succeeded) ∨
      (∃ e, x.1 = some e) ∧ x.2.store.InPhase r (· = .failed) := by
  intro x
  have hmove := run_move clock alone held .succeeded rfl none hw
  have hx : x = _ := Process.run_bind (Ledger.succeed env r).attempt _ w
  have hattempt : (Ledger.succeed env r).attempt.run w =
    (Ledger.move env r .running .succeeded none).run w := rfl
  rw [hx, hattempt]
  cases hanswer : (Ledger.move env r .running .succeeded none).run w with
  | mk answer w' =>
    rw [hanswer] at hmove
    rcases hmove with ⟨rfl, hphase⟩ | ⟨⟨e, rfl⟩, hphase⟩
    · exact .inl ⟨rfl, hphase⟩
    · exact .inr ⟨⟨e, rfl⟩, hphase⟩

/-- A run that is finished ends as its outcome tells, and an error that it had is told. -/
theorem run_finish (sources : List SourceReport) (error : Option Error)
    (recovered : List RunEntry) {w : World σ} (hw : w.store.InPhase r (Store.OrFailed .running)) :
    let x := (finish env r sources error recovered).run w
    x.1.Agrees r x.2.store ∧ ∀ e, error = some e → x.1.error = some e := by
  intro x
  have hx : x = (tell r sources recovered ((settle env r error).run w).1,
      ((close env r ((settle env r error).run w).1).run ((settle env r error).run w).2).2) := by
    show (finish env r sources error recovered).run w = _
    rw [finish, Process.run_bind, Process.run_bind]
    rfl
  have hfailed {w₁ : World σ} (e : Error) (hw₁ : w₁.store.InPhase r (Store.OrFailed .running)) :
      (tell r sources recovered (some e)).Agrees r ((close env r (some e)).run w₁).2.store :=
    ⟨rfl, by simp [tell], by simp [tell],
      fun _ _ => run_markFailed clock alone held rfl e hw₁⟩
  rw [hx]
  cases error with
  | some e => exact ⟨hfailed e hw, fun e' he' => he'⟩
  | none =>
    refine ⟨?_, by simp⟩
    cases hsettle : (settle env r none).run w with
    | mk error' w₁ =>
      have hrun := run_settle clock alone held hw
      rw [hsettle] at hrun
      rcases hrun with ⟨rfl, hphase⟩ | ⟨⟨e, rfl⟩, hphase⟩
      · exact ⟨rfl, by simp [tell], fun _ => hphase, by simp [tell]⟩
      · exact hfailed e (hphase.mono fun _ => .inr)

theorem run_conclude {opened : OpenedRun} (hrun : opened.entry.run = r)
    (ends : Except Error (List SourceEnd)) {w : World σ}
    (hw : w.store.InPhase r (Store.OrFailed .running)) :
    let x := (conclude env opened ends).run w
    x.1.Agrees r x.2.store ∧ ∀ e, failure? ends = some e → x.1.error = some e := by
  intro x
  subst hrun
  obtain ⟨hstore, htold⟩ := run_failureOf env ends w
  have hx : x = (finish env opened.entry.run (finished (ends.toOption.getD []))
      ((failureOf env ends).run w).1 opened.swept).run ((failureOf env ends).run w).2 :=
    Process.run_bind ..
  obtain ⟨hagrees, herror⟩ := run_finish clock alone held (finished (ends.toOption.getD []))
    ((failureOf env ends).run w).1 opened.swept (hstore ▸ hw)
  rw [hx]
  exact ⟨hagrees, fun e he => herror e (htold e he)⟩

/-- What becomes of a run that was opened: it could not be started, or its sources were worked
through. -/
theorem run_runOpened (l : Ledger) (c : Config) {opened : OpenedRun}
    (hrun : opened.entry.run = r) {w₁ : World σ}
    (hw : w₁.store.InPhase r (Store.OrFailed .pending)) :
    let x := (runOpened env l c opened).run w₁
    (∃ e, x.1 = .error e) ∧ x.2.store.InPhase r (· = .failed) ∨
      ∃ w₂ ends w₃ o, (Ledger.start env r).run w₁ = (.ok (), w₂) ∧
        (runSources env l c r).run w₂ = (ends, w₃) ∧ x.1 = .ok o ∧ o.Agrees r x.2.store ∧
        (∀ es, ends = .ok es → List.Forall₂ SourceEnd.Of c.sources es) ∧
        ∀ e, failure? ends = some e → o.error = some e := by
  intro x
  subst hrun
  have hmove := run_move clock alone held .running rfl none hw
  cases hstart : (Ledger.start env opened.entry.run).run w₁ with
  | mk answer w₂ =>
    rw [show Ledger.move env opened.entry.run .pending .running none =
      Ledger.start env opened.entry.run from rfl, hstart] at hmove
    rcases hmove with ⟨rfl, hphase⟩ | ⟨⟨e, rfl⟩, hphase⟩
    · refine .inr ?_
      cases hsources : (runSources env l c opened.entry.run).run w₂ with
      | mk ends w₃ =>
        have hwork := ((respects_inPhase alone).runSources l c).run
          (hphase.mono (Q := Store.OrFailed .running) fun _ => .inl)
        rw [show (runSources env l c opened.entry.run).attempt.run w₂ = (ends, w₃) from hsources]
          at hwork
        obtain ⟨hphase₃, _, -, hends⟩ := hwork
        obtain ⟨hagrees, htold⟩ := run_conclude clock alone held rfl ends hphase₃
        have hx : x = _ := run_runOpened_of_ok hstart hsources
        rw [hx]
        exact ⟨w₂, ends, w₃, _, rfl, hsources, rfl, hagrees, fun es hes => (hends es hes).2, htold⟩
    · have hx : x = _ := run_runOpened_of_error hstart
      rw [hx]
      exact .inl ⟨⟨e, rfl⟩, run_markFailed clock alone held rfl e (hphase.mono fun _ => .inr)⟩

end

/-! ### A run -/

/-- A run that was opened has not begun, and its date is one that columns take. -/
theorem inPhase_openRun (clock : ∀ o, (env.now o).1.fitsNanos = true) {c : Config}
    {w w₁ : World σ} {opened : OpenedRun} {allowed : FleetProfile.Call → Prop}
    {inHand : BatchWrite → Prop} (hothers : env.OthersCall allowed inHand)
    (horderly : w.store.Orderly) (writable : w.store.readOnly = false)
    (hopen : (openRun env c).run w = (.ok opened, w₁)) :
    w₁.store.InPhase opened.entry.run (· = .pending) ∧
      isHoldable opened.entry.run.date = true := by
  obtain ⟨h, q, ⟨horderly, writable⟩, whole, hopen⟩ := exists_opening clock hothers
    (P := fun h => h.store.Orderly ∧ h.store.readOnly = false) (h := { store := w.store })
    (fun _ _ => ⟨horderly, writable⟩)
    (fun c h _ hP => ⟨History.orderly_step (History.step_cases c h) hP.1,
      (History.step_cases c h).readOnly_eq.trans hP.2⟩) rfl hopen
  have hstep := History.step_cases (.openRun q) h
  have hstore : (h.step (.openRun q)).store = w₁.store := by simp only [History.step, hopen]
  have horderly₁ := History.orderly_step hstep horderly
  have hwritable₁ := hstep.readOnly_eq.trans writable
  rw [hstore] at horderly₁ hwritable₁
  have hown := Store.OwnDate.of_openRun horderly whole hopen
  obtain ⟨swept, s, r, -, -, -, held, hrun, hs⟩ := Store.openRun_eq_ok hopen
  rw [hrun] at hown
  rw [hrun]
  refine ⟨⟨horderly₁, hwritable₁, hown, fun l hl hkey => ⟨.pending, ?_, rfl⟩⟩, held⟩
  have hnew : (⟨r.pipeline, r.date.toMicros, .known .pending, q.runner, r.date.toMicros, none,
      none⟩ : LedgerRow) ∈ w₁.store.ledger := by
    rw [hs]
    exact List.mem_append_right _ (List.mem_singleton_self _)
  rw [hown.eq_of_key hl hnew hkey rfl]

/-- Whatever sources do, wherever the run is cancelled and whenever other clients sweep: a run that
was opened is over when the call returns, an outcome tells what the ledger does, and its error is
that of the first source that failed, which is only a cancellation if all of them were. -/
theorem settled_of_opened (constraints : Constraints) (calls : List FleetProfile.Call)
    (env : Environment σ) (clock : env.ClockRegular) (c : Config) (w w₁ : World σ)
    (hw : w.store = (History.after constraints calls).store) (opened : OpenedRun)
    (hopen : (openRun env c).run w = (.ok opened, w₁))
    (alone : env.MovesAlone opened.entry.run.key) :
    let r := opened.entry.run
    let l := Ledger.ofConfig c env.runner
    let x := (run env c).run w
    (∃ row, x.2.store.ledger.filter (fun row => row.key = r.key) = [row] ∧ row.Ended) ∧
      ∀ outcome, x.1 = .ok outcome → outcome.run = r ∧
        (outcome.status = .succeeded ↔ outcome.error = none) ∧
        (outcome.error = none ↔ x.2.store.Succeeded r.key) ∧
        ∃ w₂ ends w₃, (Ledger.start env r).run w₁ = (.ok (), w₂) ∧
          (runSources env l c r).run w₂ = (ends, w₃) ∧
          (∀ e, ends = .error e → outcome.error = some e) ∧
          ∀ es, ends = .ok es →
            let failures := es.flatMap SourceEnd.failures
            List.Forall₂ SourceEnd.Of c.sources es ∧
              (outcome.error = some .cancelled → ∀ e ∈ failures, e = .cancelled) ∧
              ∀ e, failures.find? (· ≠ .cancelled) = some e → outcome.error = some e := by
  intro r l x
  obtain ⟨hphase, held⟩ := inPhase_openRun (fun o => (clock o).1) alone
    (hw ▸ History.orderly_after constraints calls) (hw ▸ History.readOnly_after constraints calls)
    hopen
  have hx : x = (runOpened env l c opened).run w₁ := run_of_opened hopen
  have hrun := run_runOpened clock alone held l c rfl
    (hphase.mono (Q := Store.OrFailed .pending) fun _ => .inl)
  rw [← hx] at hrun
  rcases hrun with ⟨⟨e, he⟩, hfailed⟩ | ⟨w₂, ends, w₃, o, hstart, hsources, ho, hagrees, hof, htold⟩
  · obtain ⟨row, hrow, st, hst, rfl⟩ := hfailed.exists_row
    refine ⟨⟨row, hrow, .inr hst⟩, fun outcome houtcome => ?_⟩
    rw [he] at houtcome
    exact absurd houtcome (by simp)
  · refine ⟨hagrees.exists_ended, fun outcome houtcome => ?_⟩
    rw [ho] at houtcome
    obtain rfl : o = outcome := Except.ok.inj houtcome
    refine ⟨hagrees.run, hagrees.status, hagrees.succeeded_iff, w₂, ends, w₃, hstart, hsources,
      fun e he => htold e (by rw [he]; rfl), fun es hes => ?_⟩
    have hfound : ∀ e, (es.flatMap SourceEnd.failures).find? (· ≠ .cancelled) = some e →
        o.error = some e := fun e he => htold e (by rw [hes]; exact firstError_of_find? he)
    refine ⟨hof es hes, fun hcancelled => ?_, hfound⟩
    rcases find?_ne_cancelled (es.flatMap SourceEnd.failures) with ⟨e, he, hne⟩ | hall
    · exact absurd (Option.some.inj ((hfound e he).symm.trans hcancelled)) hne
    · exact hall

/-- All sources come to a good end, and then another client sweeps the run before it succeeds. -/
def sweptLate : Environment Nat where
  runner := "test:1"
  now o := (⟨1714521600, 0⟩, o)
  cancelled o := (false, o)
  answer _ o := (⟨⟨0⟩, .answer []⟩, o)
  others s o :=
    let staleBefore : Instant := if o < 11 then ⟨0, 0⟩ else ⟨1714525200, 0⟩
    let h : History := { store := s }
    ((h.step (.failStale "nightly" staleBefore ⟨1714525201, 0⟩)).store, o + 1)

theorem settled_of_opened_sweptLate :
    let c : Config := { pipeline := "nightly", sources := [
      { name := "east", kind := .sqlServer },
      { name := "west", kind := .snowflake, incremental := false }] }
    let x := (run sweptLate c).run { store := {}, outside := 0 }
    x.1.toOption.map (fun o => (o.status, o.sources.length)) = some (.failed, 2) ∧
      ¬ x.2.store.Succeeded ("nightly", 1714521600000000) := by
  intro c x
  have htold : x.1.toOption.map (fun o => (o.status, o.sources.length)) = some (.failed, 2) := by
    decide +kernel
  refine ⟨htold, ?_⟩
  have hkey : ((openRun sweptLate c).run { store := {}, outside := 0 }).1.toOption.map
      (·.entry.run.key) = some ("nightly", 1714521600000000) := by decide +kernel
  cases hopen : (openRun sweptLate c).run { store := {}, outside := 0 } with
  | mk answer w₁ =>
    rw [hopen] at hkey
    cases answer with
    | error e => exact absurd hkey (by simp [Except.toOption])
    | ok opened =>
      have alone : sweptLate.MovesAlone opened.entry.run.key := fun s o =>
        ⟨[], [.failStale "nightly" (if o < 11 then ⟨0, 0⟩ else ⟨1714525200, 0⟩) ⟨1714525201, 0⟩],
          by simp, by simp [FleetProfile.Call.Timely, FleetProfile.Call.Moves], rfl⟩
      obtain ⟨-, houtcome⟩ := settled_of_opened {} [] sweptLate
        (fun o => by simp [sweptLate, Instant.fitsNanos, Instant.toNanos, Instant.isLeap])
        c _ w₁ rfl opened hopen alone
      cases hx : x.1 with
      | error e => exact absurd htold (by simp [hx, Except.toOption])
      | ok outcome =>
        obtain ⟨-, hstatus, hsucceeded, -⟩ := houtcome outcome hx
        rw [hx] at htold
        simp only [Except.toOption, Option.map_some, Option.some.injEq, Prod.mk.injEq] at htold hkey
        rw [← hkey, ← hsucceeded, ← hstatus, htold.1]
        simp

end Pipeline

end FleetProfile
