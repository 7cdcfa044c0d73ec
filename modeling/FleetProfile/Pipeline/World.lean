import FleetProfile.Config.Basic
import FleetProfile.Connector.Fault
import FleetProfile.Process
import FleetProfile.Source.RawRow
import FleetProfile.Store.Basic
/-!
What a run works with: the store, and an environment that it does not control. The environment
tells the time, answers calls to sources, may cancel the run at any look, lets other clients of the
store come in before every statement, and decides which of several jobs goes on.
-/
namespace FleetProfile.Pipeline

open Source (RawRow)
open Time (Instant)

inductive Request where
  | databases
  /-- The statements, those since a time where the source can tell. -/
  | statements (since : Option Instant)
deriving DecidableEq, Repr

namespace Request

def operation : Request → String
  | .databases => "list_databases"
  | .statements _ => "list_query_stats"

def table : Request → Table
  | .databases => .inventory
  | .statements _ => .usage

end Request

structure Call where
  source : SourceConfig
  request : Request

/-- An environment whose own state is a `σ`. Every contact with it may change that state. -/
structure Environment (σ : Type) where
  /-- The process that runs the pipeline, as `host:pid`. -/
  runner : String
  /-- Read the clock. -/
  now : σ → Instant × σ
  /-- Look whether the run has been cancelled from outside. -/
  cancelled : σ → Bool × σ
  /-- The work behind a call. -/
  answer : Call → σ → Connector.Work (List RawRow) × σ
  /-- What other clients make of the store before the next statement. -/
  others : Store → σ → Store × σ
  /-- Get ready to work on sources. -/
  setUp : σ → Except Error Unit × σ := fun o => (.ok (), o)
  /-- Whether of two jobs the first one goes on. -/
  first : σ → Bool × σ := fun o => (true, o)

/-- The store, the state of the environment, and what the jobs of a run share. -/
structure World (σ : Type) where
  store : Store
  outside : σ
  /-- Set by the first job that fails; the others end as soon as they look. -/
  stopped : Bool := false
  log : List LogEntry := []

namespace World

/-- Log events. -/
def note (entries : List LogEntry) : Process (World σ) Unit :=
  .atom fun w => ((), { w with log := w.log ++ entries })

/-- Tell all jobs to end. -/
def stop : Process (World σ) Unit :=
  .atom fun w => ((), { w with stopped := true })

end World

/-- A computation on a world, which keeps its changes also when it fails. -/
structure Job (σ α : Type) where
  /-- The computation that does not fail but answers an error. -/
  attempt : Process (World σ) (Except Error α)

namespace Job

def ofExcept (r : Except Error α) : Job σ α := ⟨.done r⟩

def answer (a : α) : Job σ α := ofExcept (.ok a)

def fail (e : Error) : Job σ α := ofExcept (.error e)

/-- A job of one step. -/
def atom (act : World σ → Except Error α × World σ) : Job σ α := ⟨.atom act⟩

/-- A computation that does not fail. -/
def always (p : Process (World σ) α) : Job σ α where
  attempt := do
    let a ← p
    return .ok a

/-- One job, then another that depends on its answer. -/
def andThen (x : Job σ α) (f : α → Job σ β) : Job σ β where
  attempt := do
    match ← x.attempt with
    | .ok a => (f a).attempt
    | .error e => return .error e

instance : Monad (Job σ) where
  pure := answer
  bind := andThen

instance : MonadLift (Process (World σ)) (Job σ) := ⟨always⟩

/-- The job with nothing between its steps. -/
def run (x : Job σ α) (w : World σ) : Except Error α × World σ := x.attempt.run w

instance : CoeFun (Job σ α) fun _ => World σ → Except Error α × World σ := ⟨run⟩

def note (entries : List LogEntry) : Job σ Unit := always (World.note entries)

def stop : Job σ Unit := always World.stop

end Job

namespace Environment

def readClock (env : Environment σ) : Job σ Instant := .atom fun w =>
  let (t, outside) := env.now w.outside
  (.ok t.canonical, { w with outside })

def ready (env : Environment σ) : Job σ Unit := .atom fun w =>
  let (r, outside) := env.setUp w.outside
  (r, { w with outside })

def isCancelled (env : Environment σ) : Process (World σ) Bool := .atom fun w =>
  let (c, outside) := env.cancelled w.outside
  (c, { w with outside })

/-- Look whether the jobs have to end, cancelled from outside or by one of them. -/
def look (env : Environment σ) (w : World σ) : Bool × World σ :=
  let (c, outside) := env.cancelled w.outside
  (c || w.stopped, { w with outside })

def ensureActive (env : Environment σ) : Job σ Unit := .atom fun w =>
  match env.look w with
  | (true, w) => (.error .cancelled, w)
  | (false, w) => (.ok (), w)

/-- What the next looks show, one after the other. -/
def looks (env : Environment σ) : Nat → Process (World σ) (List Bool)
  | 0 => pure []
  | n + 1 => do
    let ended ← .atom env.look
    let more ← looks env n
    pure (ended :: more)

/-- Whether of two jobs the first one goes on. With one worker it always does. -/
def turn (env : Environment σ) (workers : Nat) (w : World σ) : Bool × World σ :=
  if workers ≤ 1 then (true, w)
  else
    let (isFirst, outside) := env.first w.outside
    (isFirst, { w with outside })

/--
Execute a statement on the store as the other clients leave it. `log` are its events, which are
logged also when it fails.
-/
def execute (env : Environment σ) (log : Store → List LogEntry)
    (f : Store → Except Error (α × Store)) : Job σ α := .atom fun w =>
  let (store, outside) := env.others w.store w.outside
  let w := { w with store, outside, log := w.log ++ log store }
  match f store with
  | .ok (a, store) => (.ok a, { w with store })
  | .error e => (.error e, w)

def read (env : Environment σ) (f : Store → Except Error α) : Job σ α :=
  env.execute (fun _ => []) fun s => (f s).map (·, s)

end Environment

end FleetProfile.Pipeline
