import FleetProfile.Pipeline.Outcome
import FleetProfile.Proofs.Batch
import FleetProfile.Proofs.Interleaving

/-! The work on the sources of a run. Its jobs touch the store with signs of life and with batches
of the run, and nothing else; so what those keep is kept by all of the work, however its jobs are
mixed, and what the batches add to a total is what the ends of the sources stand for. -/
namespace FleetProfile.Pipeline
open Store (BatchWrite)
open Process (Keeps)

/-- A function of the store of a world. -/
abbrev OnStore {σ : Type} {α : Sort*} (f : Store → α) (w : World σ) : α := f w.store

variable {σ α β M : Type} {I : Store → Prop} {total : Store → M}

/-! ### Jobs -/

/-- A step that leaves the store alone keeps what is known of it. -/
theorem keeps_of_store_eq {act : World σ → α × World σ} (h : ∀ w, (act w).2.store = w.store) :
    Keeps (OnStore I) (OnStore total) act := by
  intro w hw
  unfold OnStore
  rw [h w]
  exact ⟨hw, rfl⟩

variable [AddCommMonoid M]

namespace Job

variable {x : Job σ α} {f : α → Job σ β} {J : World σ → Prop} {sum : World σ → M}
  {P : Except Error α → Prop} {m : M}

theorem steady_bind {Q : Except Error β → Prop} (hx : x.attempt.Steady J sum P)
    (hf : ∀ a, P (.ok a) → (f a).attempt.Steady J sum Q)
    (he : ∀ e, P (.error e) → Q (.error e)) : (x >>= f).attempt.Steady J sum Q := by
  refine hx.bind fun r hr => ?_
  cases r with
  | ok a => exact hf a hr
  | error e => exact .pure (he e hr)

theorem steady_bind_adds {post : Except Error β → M → Prop} (hx : x.attempt.Steady J sum P)
    (hf : ∀ a, P (.ok a) → (f a).attempt.Adds J sum post m)
    (he : ∀ e, P (.error e) → post (.error e) m) : (x >>= f).attempt.Adds J sum post m := by
  refine hx.bind_adds fun r hr => ?_
  cases r with
  | ok a => exact hf a hr
  | error e => exact .pure (he e hr)

theorem steady_always {p : Process (World σ) α} {Q : α → Prop} (hp : p.Steady J sum Q) :
    (always p).attempt.Steady J sum fun r => ∀ a, r = .ok a → Q a :=
  hp.bind fun _ ha => .pure fun _ h => Except.ok.inj h ▸ ha

theorem adds_always_bind {p : Process (World σ) α} {post : Except Error β → M → Prop}
    (h : p.Adds J sum (fun a n => (f a).attempt.Adds J sum post n) m) :
    (always p >>= f).attempt.Adds J sum post m :=
  Process.Adds.bind (Process.Adds.bind h)

end Job

/-! ### Steps that leave the store alone -/

/-- Calls of a source that leave the store alone add nothing, however often they are repeated. -/
theorem steady_attempts {env : Connector.Surroundings (World σ) α}
    (hcancelled : ∀ w, (env.cancelled w).2.store = w.store)
    (hattempt : ∀ w, (env.attempt w).2.store = w.store)
    (hheartbeat : Keeps (OnStore I) (OnStore total) env.heartbeat)
    (hnote : ∀ e w, (env.note e w).store = w.store) (name : Connector.CallName)
    (limit left : Nat) : (Connector.attempts env name limit left).Steady (OnStore I)
      (OnStore total) fun _ => True := by
  have hlook : (Process.atom env.cancelled).Steady (OnStore I) (OnStore total) fun _ => True :=
    .of_keeps (keeps_of_store_eq hcancelled)
  have hattempt {onFault : Connector.Fault → Process (World σ) (Except Error α)}
      (honFault : ∀ f, (onFault f).Steady (OnStore I) (OnStore total) fun _ => True) :
      (Connector.attempt env onFault).Steady (OnStore I) (OnStore total) fun _ => True := by
    refine hlook.bind fun ended _ => ?_
    split_ifs
    · exact .pure trivial
    · refine (Process.Steady.of_keeps (keeps_of_store_eq hattempt)).bind fun answer _ => ?_
      cases answer with
      | ok v => exact .pure trivial
      | error f => exact honFault f
  induction left with
  | zero => exact hattempt fun f => .pure trivial
  | succ left ih =>
    refine hattempt fun f => ?_
    split_ifs
    · refine (Process.Steady.of_keeps (keeps_of_store_eq (hnote _))).bind fun _ _ =>
        hlook.bind fun ended _ => ?_
      split_ifs
      · exact .pure trivial
      · refine (Process.Steady.of_keeps hheartbeat).bind fun answer _ => ?_
        cases answer with
        | ok v => exact ih
        | error e => exact .pure trivial
    · exact .pure trivial

theorem steady_note (entries : List LogEntry) :
    (World.note entries : Process (World σ) Unit).Steady (OnStore I) (OnStore total)
      fun _ => True :=
  .of_keeps (keeps_of_store_eq fun _ => rfl)

theorem steady_stop : (World.stop : Process (World σ) Unit).Steady (OnStore I) (OnStore total)
    fun _ => True :=
  .of_keeps (keeps_of_store_eq fun _ => rfl)

section

variable (env : Environment σ)

theorem store_look (w : World σ) : (env.look w).2.store = w.store := rfl

theorem store_turn (workers : Nat) (w : World σ) : (env.turn workers w).2.store = w.store := by
  unfold Environment.turn
  split_ifs <;> rfl

theorem steady_look :
    (Process.atom env.look).Steady (OnStore I) (OnStore total) fun _ => True :=
  .of_keeps (keeps_of_store_eq (store_look env))

theorem steady_readClock :
    env.readClock.attempt.Steady (OnStore I) (OnStore total) fun _ => True :=
  .of_keeps (keeps_of_store_eq fun _ => rfl)

theorem steady_ensureActive :
    env.ensureActive.attempt.Steady (OnStore I) (OnStore total) fun _ => True := by
  refine .of_keeps (keeps_of_store_eq fun w => ?_)
  cases h : env.look w with
  | mk ended w' =>
    have hstore := store_look env w
    rw [h] at hstore
    cases ended <;> exact hstore

theorem steady_ready : env.ready.attempt.Steady (OnStore I) (OnStore total) fun _ => True :=
  .of_keeps (keeps_of_store_eq fun _ => rfl)

theorem steady_looks (n : Nat) :
    (env.looks n).Steady (OnStore I) (OnStore total) fun _ => True := by
  induction n with
  | zero => exact .pure trivial
  | succ n ih =>
    exact (steady_look env).bind fun _ _ => ih.bind fun _ _ => .pure trivial

end

/-! ### What the work relies on -/

/-- Other clients, signs of life and batches of a run keep an invariant of the store. Batches add
to a total what their source, their table and their report cost. -/
structure Respects (env : Environment σ) (r : Run) (I : Store → Prop) (total : Store → M)
    (cost : String → Table → LoadReport → M) : Prop where
  others : ∀ s o, I s → I (env.others s o).1 ∧ total (env.others s o).1 = total s
  beat : ∀ s now s', I s → s.heartbeat r now = .ok s' → I s' ∧ total s' = total s
  write : ∀ s b now n s', I s → b.run = r → b.Screened → s.insertBatch b now = .ok (n, s') →
    I s' ∧ total s' = total s + cost b.source b.rows.table b.report

/-- What a half of the work on a source stands for. -/
def spent (cost : String → Table → LoadReport → M) (source : String) (table : Table) :
    Except Error LoadReport → M
  | .ok report => cost source table report
  | .error _ => 0

/-- What the work on a source stands for. -/
def SourceEnd.spent (cost : String → Table → LoadReport → M) : SourceEnd → M
  | .skipped => 0
  | .unprepared _ => 0
  | .worked source inventory usage =>
    Pipeline.spent cost source .inventory inventory + Pipeline.spent cost source .usage usage

/-- The end is one of the work on a source. -/
def SourceEnd.Of (source : SourceConfig) : SourceEnd → Prop
  | .worked name _ _ => name = source.name
  | _ => True

namespace Respects

variable {env : Environment σ} {r : Run} {cost : String → Table → LoadReport → M}
  (hr : Respects env r I total cost)

include hr

/-- A statement after which the store is one that is known. -/
theorem execute {log : Store → List LogEntry} {f : Store → Except Error (α × Store)}
    {post : Except Error α → M → Prop} {m : M}
    (hok : ∀ s a s', I s → f s = .ok (a, s') →
      I s' ∧ ∃ d, total s' = total s + d ∧ post (.ok a) (m + d))
    (herror : ∀ e, post (.error e) m) :
    (env.execute log f).attempt.Adds (OnStore I) (OnStore total) post m := by
  refine Process.Adds.atom fun w hw => ?_
  obtain ⟨hI, htotal⟩ := hr.others w.store w.outside hw
  simp only [OnStore]
  cases hf : f (env.others w.store w.outside).1 with
  | error e =>
    refine ⟨hI, 0, htotal.trans (add_zero _).symm, ?_⟩
    rw [add_zero]
    exact herror e
  | ok x =>
    obtain ⟨a, s'⟩ := x
    obtain ⟨hI', d, htotal', hpost⟩ := hok _ a s' hI hf
    exact ⟨hI', d, htotal'.trans (congrArg (· + d) htotal), hpost⟩

/-- A statement that only changes what is not looked at. -/
theorem execute_steady (log : Store → List LogEntry) {f : Store → Except Error (α × Store)}
    {P : α → Prop} (hok : ∀ s a s', I s → f s = .ok (a, s') → I s' ∧ total s' = total s ∧ P a) :
    (env.execute log f).attempt.Steady (OnStore I) (OnStore total)
      fun x => ∀ a, x = .ok a → P a := by
  intro m
  refine hr.execute (fun s a s' hs hf => ?_) fun e => ⟨rfl, fun a h => absurd h (by simp)⟩
  obtain ⟨hI, htotal, hP⟩ := hok s a s' hs hf
  exact ⟨hI, 0, htotal.trans (add_zero _).symm, add_zero m, fun _ h => Except.ok.inj h ▸ hP⟩

/-- A statement that answers nothing. -/
theorem execute_update (log : Store → List LogEntry) {g : Store → Except Error Store}
    (hok : ∀ s s', I s → g s = .ok s' → I s' ∧ total s' = total s) :
    (env.execute log fun s => (g s).map ((), ·)).attempt.Steady (OnStore I) (OnStore total)
      fun _ => True := by
  refine (hr.execute_steady log (P := fun _ => True) fun s a s' hs hf => ?_).mono fun _ _ => trivial
  obtain ⟨s₁, hg, heq⟩ := map_eq_ok.1 hf
  obtain ⟨-, rfl⟩ := Prod.mk.inj heq
  obtain ⟨hI, htotal⟩ := hok s s₁ hs hg
  exact ⟨hI, htotal, trivial⟩

/-- A statement that only reads. -/
theorem execute_read (log : Store → List LogEntry) {g : Store → Except Error α} {P : α → Prop}
    (hok : ∀ s a, g s = .ok a → P a) :
    (env.execute log fun s => (g s).map (·, s)).attempt.Steady (OnStore I) (OnStore total)
      fun x => ∀ a, x = .ok a → P a := by
  refine hr.execute_steady log fun s a s' hs hf => ?_
  obtain ⟨a', ha, heq⟩ := map_eq_ok.1 hf
  obtain ⟨rfl, rfl⟩ := Prod.mk.inj heq
  exact ⟨hs, rfl, hok s a' ha⟩

/-- A sign of life adds nothing. -/
theorem heartbeat : (Ledger.heartbeat env r).attempt.Steady (OnStore I) (OnStore total)
    fun _ => True := by
  refine Job.steady_bind (steady_readClock env) (fun now _ => ?_) fun _ _ => trivial
  exact hr.execute_update _ fun s s' hs hbeat => hr.beat s now s' hs hbeat

theorem extract (c : Config) (call : Call) :
    (extract env c r call).attempt.Steady (OnStore I) (OnStore total) fun _ => True := by
  have hbeat : Keeps (OnStore I) (OnStore total) (callSurroundings env c r call).heartbeat :=
    fun w hw => ⟨(hr.heartbeat.run hw).1, (hr.heartbeat.run hw).2.1⟩
  have hcall := Job.steady_always (steady_attempts (store_look env) (fun _ => rfl) hbeat
    (fun _ _ => rfl) ⟨call.source.name, call.request.operation⟩ c.retryLimit c.retryLimit)
  refine Job.steady_bind hcall (fun answer _ => ?_) fun _ _ => trivial
  cases answer with
  | ok rows =>
    exact Job.steady_bind (Job.steady_always (steady_note _)) (fun _ _ => .pure trivial)
      fun _ _ => trivial
  | error e =>
    exact Job.steady_bind (Job.steady_always steady_stop) (fun _ _ => .pure trivial)
      fun _ _ => trivial

/-- A commit adds what its report costs. -/
theorem commit {b : BatchWrite} (hrun : b.run = r) (screened : b.Screened) :
    (commit env b).attempt.Adds (OnStore I) (OnStore total)
      (fun x n => n = spent cost b.source b.rows.table x) 0 := by
  refine Job.steady_bind_adds (Job.steady_always (steady_looks env _)) (fun seen _ => ?_)
    fun _ _ => rfl
  refine Job.steady_bind_adds (steady_readClock env) (fun now _ => ?_) fun _ _ => rfl
  refine hr.execute (fun s report s' hs hcommit => ?_) fun _ => rfl
  obtain ⟨rfl, n, hinsert⟩ := Load.commit_eq_ok hcommit
  -- What the looks saw does not matter to what is written.
  obtain ⟨hI, htotal⟩ := hr.write s { b with cancelled := fun n => seen.getD n false } now n s' hs
    hrun ⟨screened.databases_own, screened.databases_nodup, screened.statements_own,
      screened.statements_nodup⟩ hinsert
  exact ⟨hI, _, htotal, zero_add _⟩

theorem load (c : Config) (source : String) (batch : Source.Batch) :
    (load env c source batch r).attempt.Adds (OnStore I) (OnStore total)
      (fun x n => n = spent cost source batch.rows.table x) 0 := by
  refine Job.steady_bind_adds (steady_ensureActive env) (fun _ _ => ?_) fun _ _ => rfl
  have hprepare := hr.execute_read (prepareLog source batch r)
    (g := fun s => Load.prepare s c.batchSize (fun _ => false) source batch r)
    (P := fun p => p.write.run = r ∧ p.write.source = source ∧ p.write.Screened ∧
      p.write.rows.table = batch.rows.table) fun s p hp => by
        obtain ⟨hrun, hsource, screened⟩ := Load.prepare_eq_ok hp
        exact ⟨hrun, hsource, screened, Load.table_prepare hp⟩
  refine Job.steady_bind_adds hprepare (fun p hp => ?_) fun _ _ => rfl
  obtain ⟨hrun, hsource, screened, htable⟩ := hp p rfl
  refine Job.steady_bind_adds (steady_ensureActive env) (fun _ _ => ?_) fun _ _ => rfl
  rw [← hsource, ← htable]
  exact hr.commit hrun screened

theorem half (c : Config) (ctx : Source.Context) (source : SourceConfig) (request : Request) :
    (half env c r ctx source request).attempt.Adds (OnStore I) (OnStore total)
      (fun x n => n = spent cost source.name request.table x) 0 := by
  refine Job.steady_bind_adds (hr.extract c ⟨source, request⟩) (fun rows _ => ?_) fun _ _ => rfl
  refine Job.steady_bind_adds (Job.steady_always (steady_note _)) (fun _ _ => ?_) fun _ _ => rfl
  have htable : (Source.normalizeRows source.kind ctx request.table rows).rows.table =
      request.table := by cases request <;> rfl
  have hload := hr.load c source.name (Source.normalizeRows source.kind ctx request.table rows)
  rwa [htable] at hload

theorem prepareSource (l : Ledger) (source : SourceConfig) :
    (prepareSource env l r source).attempt.Steady (OnStore I) (OnStore total) fun _ => True := by
  have hoffset : (Job.ofExcept source.offset : Job σ Int).attempt.Steady (OnStore I)
      (OnStore total) fun _ => True := .pure trivial
  have hstart : (startOf env l source).attempt.Steady (OnStore I) (OnStore total)
      fun _ => True := by
    unfold startOf
    split_ifs
    · exact (hr.execute_read (P := fun _ => True) _ fun _ _ _ => trivial).mono fun _ _ => trivial
    · exact .pure trivial
  exact Job.steady_bind hoffset (fun _ _ => Job.steady_bind hstart (fun _ _ => .pure trivial)
    fun _ _ => trivial) fun _ _ => trivial

theorem workOn (l : Ledger) (c : Config) (source : SourceConfig) :
    (workOn env l c r source).Adds (OnStore I) (OnStore total)
      (fun x n => n = x.spent cost ∧ x.Of source) 0 := by
  refine (hr.prepareSource l source).bind_adds fun answer _ => ?_
  cases answer with
  | error e => exact ⟨rfl, trivial⟩
  | ok prepared =>
    obtain ⟨ctx, since⟩ := prepared
    have hboth := (hr.half c ctx source .databases).both
      (keeps_of_store_eq (store_turn env c.maxWorkers)) (hr.half c ctx source (.statements since))
    rw [add_zero] at hboth
    refine Process.Adds.bind (hboth.mono fun x n hx => ?_)
    obtain ⟨n₁, n₂, rfl, rfl, rfl⟩ := hx
    exact ⟨rfl, rfl⟩

theorem runJob (l : Ledger) (c : Config) (source : SourceConfig) :
    (runJob env l c r source).Adds (OnStore I) (OnStore total)
      (fun x n => n = x.spent cost ∧ x.Of source) 0 := by
  refine (steady_look env).bind_adds fun ended _ => ?_
  split_ifs
  · exact ⟨rfl, trivial⟩
  · refine Process.Adds.bind ((hr.workOn l c source).mono fun x n hx => ?_)
    cases x.result with
    | ok report => exact hx
    | error e =>
      exact (steady_note _).bind_adds fun _ _ => steady_stop.bind_adds fun _ _ => hx

/-- All of the work adds what the ends of the sources stand for. -/
theorem runSources (l : Ledger) (c : Config) :
    (runSources env l c r).attempt.Adds (OnStore I) (OnStore total)
      (fun x n => ∀ ends, x = .ok ends → n = (ends.map (SourceEnd.spent cost)).sum ∧
        List.Forall₂ SourceEnd.Of c.sources ends) 0 := by
  refine Job.steady_bind_adds (steady_ready env) (fun _ _ => ?_)
    fun _ _ ends h => absurd h (by simp)
  have hall := Process.Adds.all (keeps_of_store_eq (store_turn env c.maxWorkers))
    fun source (_ : source ∈ c.sources) => hr.runJob l c source
  exact Process.Adds.bind (hall.mono fun ends n h _ heq => Except.ok.inj heq ▸ h)

end Respects

end FleetProfile.Pipeline
