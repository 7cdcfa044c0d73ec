import FleetProfile.Proofs.OtherClients
import FleetProfile.Proofs.SourceWork

/-! From the opening of a run to its outcome. How the sources ended tells what is wrong with the
run, and an outcome without an error is one of sources that all came to a good end. -/
namespace FleetProfile.Pipeline
open Store (BatchWrite OpenedRun)
open Time (Instant)

variable {σ α β : Type} {env : Environment σ}

/-! ### Jobs one after the other -/

namespace Job

theorem run_bind (x : Job σ α) (f : α → Job σ β) (w : World σ) :
    (x >>= f).run w = match x.run w with
      | (.ok a, w') => (f a).run w'
      | (.error e, w') => (.error e, w') := by
  show Process.run (x.attempt >>= _) w = _
  rw [Process.run_bind]
  have hattempt : x.attempt.run w = x.run w := rfl
  rw [hattempt]
  cases x.run w with
  | mk r w' => cases r <;> rfl

theorem run_liftM (p : Process (World σ) α) (w : World σ) :
    (liftM p : Job σ α).run w = (.ok (p.run w).1, (p.run w).2) :=
  Process.run_bind ..

theorem run_liftM_bind (p : Process (World σ) α) (f : α → Job σ β) (w : World σ) :
    ((liftM p : Job σ α) >>= f).run w = (f (p.run w).1).run (p.run w).2 := by
  rw [run_bind, run_liftM]

/-- A job that comes to an end is over with both of its parts. -/
theorem bind_run_eq_ok {x : Job σ α} {f : α → Job σ β} {w w' : World σ} {b : β}
    (h : (x >>= f).run w = (.ok b, w')) :
    ∃ a w₁, x.run w = (.ok a, w₁) ∧ (f a).run w₁ = (.ok b, w') := by
  rw [run_bind] at h
  cases hx : x.run w with
  | mk r w₁ =>
    rw [hx] at h
    cases r with
    | ok a => exact ⟨a, w₁, rfl, h⟩
    | error e => exact absurd (congrArg Prod.fst h) (by simp)

end Job

/-! ### Statements -/

section

variable {f : Store → Except Error (α × Store)} {w w' : World σ} (log : Store → List LogEntry)

theorem run_execute_of_ok {a : α} {s : Store}
    (h : f (env.others w.store w.outside).1 = .ok (a, s)) :
    ((env.execute log f).run w).1 = .ok a ∧ ((env.execute log f).run w).2.store = s := by
  simp only [Job.run, Environment.execute, Job.atom, Process.run_atom, h, and_self]

theorem run_execute_of_error {e : Error} (h : f (env.others w.store w.outside).1 = .error e) :
    ((env.execute log f).run w).1 = .error e ∧
      ((env.execute log f).run w).2.store = (env.others w.store w.outside).1 := by
  simp only [Job.run, Environment.execute, Job.atom, Process.run_atom, h, and_self]

theorem run_execute_eq_ok {log : Store → List LogEntry} {a : α}
    (h : (env.execute log f).run w = (.ok a, w')) :
    f (env.others w.store w.outside).1 = .ok (a, w'.store) := by
  cases hf : f (env.others w.store w.outside).1 with
  | error e =>
    have herror := (run_execute_of_error log hf).1
    rw [h] at herror
    exact absurd herror (by simp)
  | ok x =>
    obtain ⟨a', s'⟩ := x
    obtain ⟨hanswer, hstore⟩ := run_execute_of_ok log hf
    rw [h] at hanswer hstore
    rw [← Except.ok.inj hanswer, ← hstore]

end

/-! ### Opening -/

/-- A run is opened in the store as other clients leave it, under a configuration that is valid and
at a time of whole microseconds. -/
theorem openRun_run_eq_ok (clock : ∀ o, (env.now o).1.fitsNanos = true) {c : Config}
    {w w' : World σ} {opened : OpenedRun} (h : (openRun env c).run w = (.ok opened, w')) :
    c.validate = .ok () ∧ ∃ o q, q.now.canonical.nanos % 1000 = 0 ∧
      (env.others w.store o).1.openRun q = .ok (opened, w'.store) := by
  obtain ⟨_, w₁, hvalidate, h⟩ := Job.bind_run_eq_ok h
  have hvalidate : (c.validate, w) = (.ok (), w₁) := hvalidate
  obtain ⟨valid, rfl⟩ := Prod.mk.inj hvalidate
  obtain ⟨now, w₂, hclock, h⟩ := Job.bind_run_eq_ok h
  have hclock : (.ok (env.now w.outside).1.canonical, { w with outside := (env.now w.outside).2 }) =
      ((.ok now, w₂) : Except Error Instant × World σ) := hclock
  obtain ⟨hnow, rfl⟩ := Prod.mk.inj hclock
  refine ⟨valid, _, _, ?_, run_execute_eq_ok h⟩
  have whole : now.nanos % 1000 = 0 :=
    Except.ok.inj hnow ▸ Instant.canonical_nanos_mod (clock w.outside)
  show now.canonical.nanos % 1000 = 0
  rwa [Instant.canonical_eq_self whole]

/-- When a run is opened, what the calls of other clients keep holds of the store. -/
theorem exists_opening (clock : ∀ o, (env.now o).1.fitsNanos = true)
    {allowed : FleetProfile.Call → Prop} {inHand : BatchWrite → Prop} {P : History → Prop}
    (hothers : env.OthersCall allowed inHand) {h : History}
    (start : ∀ hand, (∀ b ∈ hand, inHand b) → P { h with prepared := hand })
    (keep : ∀ c h, allowed c → P h → P (h.step c)) {c : Config} {w w' : World σ}
    {opened : OpenedRun} (hw : w.store = h.store)
    (hopen : (openRun env c).run w = (.ok opened, w')) :
    ∃ h' q, P h' ∧ q.now.canonical.nanos % 1000 = 0 ∧
      h'.store.openRun q = .ok (opened, w'.store) := by
  obtain ⟨-, o, q, whole, hopen⟩ := openRun_run_eq_ok clock hopen
  obtain ⟨h', hstore, hP⟩ := hothers.induction h start keep o
  rw [hw, ← hstore] at hopen
  exact ⟨h', q, hP, whole, hopen⟩

/-- After the opening comes the rest. -/
theorem run_of_opened {c : Config} {w w₁ : World σ} {opened : OpenedRun}
    (h : (openRun env c).run w = (.ok opened, w₁)) :
    (run env c).run w = (runOpened env (.ofConfig c env.runner) c opened).run w₁ := by
  unfold run
  rw [Job.run_bind, h]

/-! ### After the opening -/

section

variable {l : Ledger} {c : Config} {opened : OpenedRun} {w w₂ w₃ : World σ}

/-- A run that cannot be started is marked as failed. -/
theorem run_runOpened_of_error {e : Error}
    (h : (Ledger.start env opened.entry.run).run w = (.error e, w₂)) :
    (runOpened env l c opened).run w =
      (.error e, ((markFailed env opened.entry.run .pending e).run w₂).2) := by
  have hstart : (Ledger.start env opened.entry.run).attempt.run w = (.error e, w₂) := h
  rw [runOpened, Job.run_liftM_bind, hstart, Job.run_liftM_bind]
  rfl

theorem run_runOpened_of_ok {ends : Except Error (List SourceEnd)}
    (h : (Ledger.start env opened.entry.run).run w = (.ok (), w₂))
    (hsources : (runSources env l c opened.entry.run).run w₂ = (ends, w₃)) :
    (runOpened env l c opened).run w =
      (.ok ((conclude env opened ends).run w₃).1, ((conclude env opened ends).run w₃).2) := by
  have hstart : (Ledger.start env opened.entry.run).attempt.run w = (.ok (), w₂) := h
  have hwork : (runSources env l c opened.entry.run).attempt.run w₂ = (ends, w₃) := hsources
  rw [runOpened, Job.run_liftM_bind, hstart, Job.run_liftM_bind, hwork, Job.run_liftM]

end

/-! ### What is wrong with a run -/

/-- What failed in the work on a source, in the order of its halves. -/
def SourceEnd.failures : SourceEnd → List Error
  | .skipped => [.cancelled]
  | .unprepared e => [e]
  | .worked _ inventory usage => errors inventory ++ errors usage
where
  errors : Except Error LoadReport → List Error
    | .ok _ => []
    | .error e => [e]

/-- What is told of two errors: the first, unless it is a cancellation. -/
def keepFirst : Option Error → Error → Option Error
  | none, e => some e
  | some .cancelled, e => some e
  | some found, _ => some found

theorem keepFirst_of_ne {found : Error} (h : found ≠ .cancelled) (e : Error) :
    keepFirst (some found) e = some found := by
  cases found <;> first | rfl | exact absurd rfl h

theorem keepFirst_of_cancelled {found : Option Error} (h : ∀ f ∈ found, f = .cancelled)
    (e : Error) : keepFirst found e = some e := by
  cases found with
  | none => rfl
  | some f =>
    obtain rfl : f = .cancelled := h f rfl
    rfl

theorem foldl_keepFirst_of_ne {found : Error} (h : found ≠ .cancelled) (errors : List Error) :
    errors.foldl keepFirst (some found) = some found := by
  induction errors with
  | nil => rfl
  | cons e errors ih => rw [List.foldl_cons, keepFirst_of_ne h, ih]

/-- The first error that is no cancellation is kept. -/
theorem foldl_keepFirst_of_find? {found : Option Error} (hfound : ∀ f ∈ found, f = .cancelled)
    {errors : List Error} {e : Error} (h : errors.find? (· ≠ .cancelled) = some e) :
    errors.foldl keepFirst found = some e := by
  induction errors generalizing found with
  | nil => exact absurd h (by simp)
  | cons e₀ errors ih =>
    rw [List.foldl_cons, keepFirst_of_cancelled hfound]
    by_cases hcancelled : e₀ = .cancelled
    · rw [List.find?_cons_of_neg (by simp [hcancelled])] at h
      refine ih (fun f hf => ?_) h
      rw [← Option.some.inj hf, hcancelled]
    · rw [List.find?_cons_of_pos (by simp [hcancelled])] at h
      rw [foldl_keepFirst_of_ne hcancelled, h]

/-- With any errors, one is kept. -/
theorem foldl_keepFirst_eq_none {found : Option Error} {errors : List Error}
    (h : errors.foldl keepFirst found = none) : found = none ∧ errors = [] := by
  induction errors generalizing found with
  | nil => exact ⟨h, rfl⟩
  | cons e errors ih =>
    rw [List.foldl_cons] at h
    have hkept := (ih h).1
    cases found with
    | none => exact absurd hkept (by simp [keepFirst])
    | some f => cases f <;> exact absurd hkept (by simp [keepFirst])

theorem keepFirst_keepFirst (found : Option Error) (e e' : Error) :
    keepFirst (keepFirst found e) e' =
      keepFirst found (if e = .cancelled then e' else e) := by
  by_cases hfound : ∀ f ∈ found, f = .cancelled
  · rw [keepFirst_of_cancelled hfound, keepFirst_of_cancelled hfound]
    split_ifs with he
    · subst he
      rfl
    · exact keepFirst_of_ne he e'
  · cases found with
    | none => exact absurd (by simp) hfound
    | some f =>
      have hne : f ≠ .cancelled := fun hf => hfound fun g hg => Option.some.inj hg ▸ hf
      rw [keepFirst_of_ne hne, keepFirst_of_ne hne, keepFirst_of_ne hne]

theorem pair_error (name : String) (e : Error) (usage : Except Error LoadReport) :
    pair name (.error e) usage = match usage with
      | .ok _ => .error e
      | .error e' => .error (if e = .cancelled then e' else e) := by
  cases e <;> cases usage <;> rfl

/-- Of a source its halves tell what its result does. -/
theorem foldl_failures (x : SourceEnd) (found : Option Error) :
    x.failures.foldl keepFirst found = match x.result with
      | .ok _ => found
      | .error e => keepFirst found e := by
  cases x with
  | skipped => rfl
  | unprepared e => rfl
  | worked source inventory usage =>
    cases inventory with
    | ok i => cases usage <;> rfl
    | error e =>
      rw [SourceEnd.result, pair_error]
      cases usage with
      | ok u => rfl
      | error e' => exact keepFirst_keepFirst found e e'

/-- What is told of sources is what is kept of all that failed in them. -/
theorem firstError_eq_foldl (ends : List SourceEnd) :
    firstError (ends.map SourceEnd.result) =
      (ends.flatMap SourceEnd.failures).foldl keepFirst none := by
  rw [firstError, List.foldl_map, List.foldl_flatMap]
  congr 1
  funext found x
  rw [foldl_failures]
  cases x.result with
  | ok report => rcases found with _ | f <;> [rfl; cases f <;> rfl]
  | error e => rcases found with _ | f <;> [rfl; cases f <;> rfl]

/-- Some error is no cancellation, or all of them are one. -/
theorem find?_ne_cancelled (errors : List Error) :
    (∃ e, errors.find? (· ≠ .cancelled) = some e ∧ e ≠ .cancelled) ∨
      ∀ e ∈ errors, e = .cancelled := by
  cases hfind : errors.find? (· ≠ .cancelled) with
  | none => exact .inr fun e he => not_not.1 fun hne =>
      List.find?_eq_none.1 hfind e he (decide_eq_true hne)
  | some e =>
    have hne := List.find?_some hfind
    exact .inl ⟨e, rfl, of_decide_eq_true hne⟩

/-- What is told of sources is the first thing that failed in them and is no cancellation. -/
theorem firstError_of_find? {ends : List SourceEnd} {e : Error}
    (h : (ends.flatMap SourceEnd.failures).find? (· ≠ .cancelled) = some e) :
    firstError (ends.map SourceEnd.result) = some e := by
  rw [firstError_eq_foldl]
  exact foldl_keepFirst_of_find? (by simp) h

/-- The work on a source came to a good end. -/
def SourceEnd.Good (x : SourceEnd) : Prop :=
  ∃ source inventory usage, x = .worked source (.ok inventory) (.ok usage)

/-- Where nothing is told of sources, all of them came to a good end. -/
theorem good_of_firstError_eq_none {ends : List SourceEnd}
    (h : firstError (ends.map SourceEnd.result) = none) :
    ∀ x ∈ ends, x.Good := by
  rw [firstError_eq_foldl] at h
  intro x hx
  have hnone := List.flatMap_eq_nil_iff.1 (foldl_keepFirst_eq_none h).2 x hx
  cases x with
  | skipped => exact absurd hnone (by simp [SourceEnd.failures])
  | unprepared e => exact absurd hnone (by simp [SourceEnd.failures])
  | worked source inventory usage =>
    obtain ⟨hinventory, husage⟩ := List.append_eq_nil_iff.1 hnone
    cases inventory with
    | error e => exact absurd hinventory (by simp [SourceEnd.failures.errors])
    | ok i =>
      cases usage with
      | error e => exact absurd husage (by simp [SourceEnd.failures.errors])
      | ok u => exact ⟨source, i, u, rfl⟩

/-! ### Finishing -/

variable {M : Type} [AddCommMonoid M] {I : Store → Prop} {total : Store → M}

theorem steady_failureOf (ends : Except Error (List SourceEnd)) :
    (failureOf env ends).Steady (OnStore I) (OnStore total) fun x =>
      x = none → ∃ es, ends = .ok es ∧ firstError (es.map SourceEnd.result) = none := by
  unfold failureOf
  cases ends with
  | error e => exact .pure fun h => absurd h (by simp)
  | ok es =>
    simp only
    cases hfirst : firstError (es.map SourceEnd.result) with
    | some e => exact .pure fun h => absurd h (by simp)
    | none =>
      have hlook : env.isCancelled.Steady (OnStore I) (OnStore total) fun _ => True :=
        .of_keeps (keeps_of_store_eq fun _ => rfl)
      refine hlook.bind fun ended _ => ?_
      split_ifs
      · exact .pure fun h => absurd h (by simp)
      · exact .pure fun _ => ⟨es, rfl, hfirst⟩

/-- What a source that came to a good end stands for. -/
def SourceReport.cost (cost : String → Table → LoadReport → M) (x : SourceReport) : M :=
  cost x.source .inventory x.inventory + cost x.source .usage x.usage

/-- Sources that all came to a good end stand for what they report. -/
theorem sum_spent_finished {cost : String → Table → LoadReport → M} {ends : List SourceEnd}
    (h : ∀ x ∈ ends, x.Good) :
    (ends.map (SourceEnd.spent cost)).sum =
      ((finished ends).map (SourceReport.cost cost)).sum := by
  induction ends with
  | nil => rfl
  | cons x ends ih =>
    obtain ⟨⟨source, inventory, usage, rfl⟩, hends⟩ := List.forall_mem_cons.1 h
    rw [List.map_cons, List.sum_cons, ih hends]
    rfl

theorem map_source_finished {sources : List SourceConfig} {ends : List SourceEnd}
    (hsources : List.Forall₂ SourceEnd.Of sources ends)
    (h : ∀ x ∈ ends, x.Good) :
    (finished ends).map (·.source) = sources.map (·.name) := by
  induction hsources with
  | nil => rfl
  | cons hsource _ ih =>
    obtain ⟨⟨name, inventory, usage, rfl⟩, hends⟩ := List.forall_mem_cons.1 h
    rw [List.map_cons, ← ih hends, ← (hsource : name = _)]
    rfl

/-- Moves of the run keep the invariant as well, and add nothing. -/
structure RespectsMoves (env : Environment σ) (r : Run) (I : Store → Prop) (total : Store → M)
    (cost : String → Table → LoadReport → M) : Prop extends Respects env r I total cost where
  moved : ∀ s source target error now s', I s →
    s.transition r source target error now = .ok s' → I s' ∧ total s' = total s

namespace RespectsMoves

variable {r : Run} {cost : String → Table → LoadReport → M}
  (hr : RespectsMoves env r I total cost)

include hr

theorem move (source target : RunStatus) (error : Option String) :
    (Ledger.move env r source target error).attempt.Steady (OnStore I) (OnStore total)
      fun _ => True := by
  refine Job.steady_bind (steady_readClock env) (fun now _ => ?_) fun _ _ => trivial
  exact hr.toRespects.execute_update _ fun s s' hs hmove =>
    hr.moved s source target error now s' hs hmove

theorem markFailed (source : RunStatus) (e : Error) :
    (markFailed env r source e).Steady (OnStore I) (OnStore total) fun _ => True := by
  have hfail : (Ledger.fail env r source e.message).attempt.Steady (OnStore I) (OnStore total)
      fun _ => True :=
    Job.steady_bind (hr.move source .failed _)
      (fun _ _ => (Job.steady_always (steady_note _)).mono fun _ _ => trivial) fun _ _ => trivial
  refine hfail.bind fun answer _ => ?_
  cases answer with
  | ok _ => exact .pure trivial
  | error f => exact steady_note _

theorem settle (error : Option Error) :
    (settle env r error).Steady (OnStore I) (OnStore total) fun x => x = none → error = none := by
  cases error with
  | some e => exact .pure fun h => absurd h (by simp)
  | none =>
    refine (hr.move .running .succeeded none).bind fun answer _ => ?_
    cases answer with
    | ok _ => exact .pure fun _ => rfl
    | error e => exact (steady_note _).bind fun _ _ => .pure fun _ => rfl

/-- An outcome tells of the sources that are given, and is a good one only without an error. -/
theorem finish (sources : List SourceReport) (error : Option Error) (recovered : List RunEntry) :
    (finish env r sources error recovered).Steady (OnStore I) (OnStore total) fun o =>
      o.run = r ∧ o.sources = sources ∧
        o.report = LoadReport.total (sources.map SourceReport.total) ∧
        (o.status = .succeeded → error = none) := by
  refine (hr.settle error).bind fun error' herror => ?_
  have hclose : (close env r error').Steady (OnStore I) (OnStore total) fun _ => True := by
    cases error' with
    | none => exact .pure trivial
    | some e => exact hr.markFailed .running e
  refine hclose.bind fun _ _ => .pure ⟨rfl, rfl, rfl, fun hgood => herror ?_⟩
  cases error' with
  | none => rfl
  | some e => exact absurd hgood (by simp [tell])

/-- An outcome is a good one only where all sources came to a good end. -/
theorem conclude {opened : OpenedRun} (hrun : opened.entry.run = r)
    (ends : Except Error (List SourceEnd)) :
    (conclude env opened ends).Steady (OnStore I) (OnStore total) fun o =>
      o.run = r ∧ (o.status = .succeeded →
        ∃ es, ends = .ok es ∧ firstError (es.map SourceEnd.result) = none ∧
          o.sources = finished es ∧
          o.report = LoadReport.total (o.sources.map SourceReport.total)) := by
  subst hrun
  refine (steady_failureOf ends).bind fun error herror => ?_
  refine (hr.finish _ error _).mono fun o ho => ?_
  obtain ⟨hrun, hsources, hreport, hstatus⟩ := ho
  refine ⟨hrun, fun hgood => ?_⟩
  obtain ⟨es, rfl, hfirst⟩ := herror (hstatus hgood)
  exact ⟨es, rfl, hfirst, hsources, hsources ▸ hreport⟩

/-- A run that came to a good end adds what its sources report, and these are all sources. -/
theorem runOpened (l : Ledger) (c : Config) {opened : OpenedRun} (hrun : opened.entry.run = r) :
    (runOpened env l c opened).attempt.Adds (OnStore I) (OnStore total)
      (fun x n => ∀ o, x = .ok o → o.run = r ∧ (o.status = .succeeded →
        o.sources.map (·.source) = c.sources.map (·.name) ∧
          o.report = LoadReport.total (o.sources.map SourceReport.total) ∧
          n = (o.sources.map (SourceReport.cost cost)).sum)) 0 := by
  subst hrun
  have hstart := Job.steady_always (hr.move .pending .running none)
  refine Job.steady_bind_adds hstart (fun answer _ => ?_) fun _ _ _ h => absurd h (by simp)
  cases answer with
  | error e =>
    refine Job.steady_bind_adds (Job.steady_always (hr.markFailed .pending e))
      (fun _ _ => ?_) fun _ _ _ h => absurd h (by simp)
    exact fun _ h => absurd h (by simp)
  | ok _ =>
    refine Job.adds_always_bind ?_
    refine (hr.toRespects.runSources l c).mono fun ends n hends => ?_
    refine (Job.steady_always (hr.conclude rfl ends) n).mono fun x n' hx o ho => ?_
    obtain ⟨rfl, hP⟩ := hx
    obtain ⟨hrun, hP⟩ := hP o ho
    refine ⟨hrun, fun hgood => ?_⟩
    obtain ⟨es, rfl, hfirst, hsources, hreport⟩ := hP hgood
    obtain ⟨hn, hof⟩ := hends es rfl
    have hgood := good_of_firstError_eq_none hfirst
    rw [hn, sum_spent_finished hgood, hsources]
    exact ⟨map_source_finished hof hgood, hsources ▸ hreport, rfl⟩

end RespectsMoves

/-- Nothing has to be known of the store to keep nothing. -/
theorem respectsMoves_trivial (env : Environment σ) (r : Run) :
    RespectsMoves env r (fun _ => True) (fun _ => 0) (fun _ _ _ => (0 : Nat)) where
  others _ _ _ := ⟨trivial, rfl⟩
  beat _ _ _ _ _ := ⟨trivial, rfl⟩
  write _ _ _ _ _ _ _ _ _ := ⟨trivial, rfl⟩
  moved _ _ _ _ _ _ _ _ := ⟨trivial, rfl⟩

/-- Whatever becomes of the store, an outcome is one of the run that was opened. -/
theorem run_of_runOpened {l : Ledger} {c : Config} {opened : OpenedRun} {w w' : World σ}
    {o : Outcome} (h : (runOpened env l c opened).run w = (.ok o, w')) :
    o.run = opened.entry.run := by
  obtain ⟨-, _, -, hpost⟩ :=
    ((respectsMoves_trivial env opened.entry.run).runOpened l c rfl).run (s := w) trivial
  exact (hpost o (congrArg Prod.fst h)).1

end FleetProfile.Pipeline
