import FleetProfile.Connector.Retry
import FleetProfile.Proofs.Interleaving
import Mathlib.Data.List.Basic

/-! Repeated calls, told by what they do in their surroundings. A call leaves one of a few traces,
and its trace says how often the source was called, what stood between two calls and which of them
decided the result. -/
namespace FleetProfile.Connector

variable {σ α : Type}

/-! ### Events -/

/-- What a repeated call does in its surroundings. -/
inductive Event (σ α : Type) where
  /-- It looks whether the run has been cancelled. -/
  | look (cancelled : Bool)
  /-- It calls the source. -/
  | attempt (start : σ) (outcome : Except Fault α)
  /-- It gives a sign of life. -/
  | beat (outcome : Except Error Unit)

namespace Event

@[simp] def looked? : Event σ α → Option Bool
  | look cancelled => some cancelled
  | attempt .. => none
  | beat _ => none

@[simp] def attempted? : Event σ α → Option (Except Fault α)
  | look _ => none
  | attempt _ outcome => some outcome
  | beat _ => none

@[simp] def beaten? : Event σ α → Option (Except Error Unit)
  | look _ => none
  | attempt .. => none
  | beat outcome => some outcome

end Event

/-- What the looks showed, in order. -/
def looks (log : List (Event σ α)) : List Bool := log.filterMap Event.looked?

/-- What the source answered, in order. -/
def answers (log : List (Event σ α)) : List (Except Fault α) := log.filterMap Event.attempted?

/-- What became of the signs of life, in order. -/
def beats (log : List (Event σ α)) : List (Except Error Unit) := log.filterMap Event.beaten?

section

variable (x : Event σ α) (log : List (Event σ α))

@[simp] theorem looks_nil : looks ([] : List (Event σ α)) = [] := rfl

@[simp] theorem looks_cons : looks (x :: log) = x.looked?.toList ++ looks log := by
  cases x <;> rfl

@[simp] theorem answers_nil : answers ([] : List (Event σ α)) = [] := rfl

@[simp] theorem answers_cons : answers (x :: log) = x.attempted?.toList ++ answers log := by
  cases x <;> rfl

@[simp] theorem beats_nil : beats ([] : List (Event σ α)) = [] := rfl

@[simp] theorem beats_cons : beats (x :: log) = x.beaten?.toList ++ beats log := by
  cases x <;> rfl

end

namespace Surroundings

/-- The same surroundings with a record of what is done in them. -/
def recorded (env : Surroundings σ α) : Surroundings (σ × List (Event σ α)) α where
  cancelled := fun (s, log) =>
    let (c, s) := env.cancelled s
    (c, s, log ++ [.look c])
  attempt := fun (s, log) =>
    let (outcome, s') := env.attempt s
    (outcome, s', log ++ [.attempt s outcome])
  heartbeat := fun (s, log) =>
    let (outcome, s) := env.heartbeat s
    (outcome, s, log ++ [.beat outcome])
  note := fun entry (s, log) => (env.note entry s, log)

/-- A state that a look left which did not show the run as cancelled. -/
def Clear (env : Surroundings σ α) (s : σ) : Prop :=
  ∃ before, env.cancelled before = (false, s)

end Surroundings

/-! ### Traces -/

/-- The traces of a call that may be repeated some more times of `limit`, and its results. -/
inductive Trace (env : Surroundings σ α) (name : CallName) (limit : Nat) :
    Nat → List (Event σ α) → Except Error α → Prop
  | cancelled {left : Nat} : Trace env name limit left [.look true] (.error .cancelled)
  | answered {left : Nat} {start : σ} {v : α} (clear : env.Clear start) :
      Trace env name limit left [.look false, .attempt start (.ok v)] (.ok v)
  | exhausted {left : Nat} {start : σ} {f : Fault} (clear : env.Clear start)
      (final : f.isRetryable = false ∨ left = 0) :
      Trace env name limit left [.look false, .attempt start (.error f)]
        (.error (exhausted name f (limit - left)))
  | woken {left : Nat} {start : σ} {f : Fault} (clear : env.Clear start)
      (retryable : f.isRetryable = true) :
      Trace env name limit (left + 1) [.look false, .attempt start (.error f), .look true]
        (.error .cancelled)
  | lost {left : Nat} {start : σ} {f : Fault} {e : Error} (clear : env.Clear start)
      (retryable : f.isRetryable = true) :
      Trace env name limit (left + 1)
        [.look false, .attempt start (.error f), .look false, .beat (.error e)] (.error e)
  | again {left : Nat} {start : σ} {f : Fault} {log : List (Event σ α)} {r : Except Error α}
      (clear : env.Clear start) (retryable : f.isRetryable = true)
      (rest : Trace env name limit left log r) :
      Trace env name limit (left + 1)
        (.look false :: .attempt start (.error f) :: .look false :: .beat (.ok ()) :: log) r

variable {env : Surroundings σ α} {name : CallName} {limit left : Nat} {log : List (Event σ α)}
  {r : Except Error α}

/-! ### The trace of a call -/

/-- Two computations, the second of which records what the first does: they have one result, and `T`
allows what is recorded of it. -/
def Leaves (T : List (Event σ α) → Except Error α → Prop) (p : Process σ (Except Error α))
    (p' : Process (σ × List (Event σ α)) (Except Error α)) : Prop :=
  ∀ s before, ∃ log r s', T log r ∧ p.run s = (r, s') ∧ p'.run (s, before) = (r, s', before ++ log)

namespace Leaves

variable {T T' : List (Event σ α) → Except Error α → Prop}
  {p : Process σ (Except Error α)} {p' : Process (σ × List (Event σ α)) (Except Error α)}

theorem mono (h : Leaves T p p') (himp : ∀ log r, T log r → T' log r) : Leaves T' p p' := by
  intro s before
  obtain ⟨log, r, s', hT, hrun, hrecord⟩ := h s before
  exact ⟨log, r, s', himp log r hT, hrun, hrecord⟩

theorem pure (h : T [] r) : Leaves T (Pure.pure r) (Pure.pure r) :=
  fun s before => ⟨[], r, s, h, rfl, by rw [List.append_nil]; rfl⟩

theorem attempt {onFault : Fault → Process σ (Except Error α)}
    {onFault' : Fault → Process (σ × List (Event σ α)) (Except Error α)}
    (cancelled : T [.look true] (.error .cancelled))
    (answered : ∀ start v, env.Clear start → T [.look false, .attempt start (.ok v)] (.ok v))
    (fault : ∀ start f, env.Clear start →
      Leaves (fun log r => T (.look false :: .attempt start (.error f) :: log) r) (onFault f)
        (onFault' f)) :
    Leaves T (Connector.attempt env onFault) (Connector.attempt env.recorded onFault') := by
  intro s before
  rcases hlook : env.cancelled s with ⟨_ | _, start⟩
  · rcases hanswer : env.attempt start with ⟨f | v, s₁⟩
    · obtain ⟨log, r, s', hT, hrun, hrecord⟩ := fault start f ⟨s, hlook⟩ s₁
        (before ++ [.look false] ++ [.attempt start (.error f)])
      refine ⟨_, r, s', hT, ?_, ?_⟩
      · simpa [Connector.attempt, hlook, hanswer] using hrun
      · simpa [Connector.attempt, Surroundings.recorded, hlook, hanswer] using hrecord
    · refine ⟨_, _, s₁, answered start v ⟨s, hlook⟩, ?_, ?_⟩
      · simp [Connector.attempt, hlook, hanswer]
      · simp [Connector.attempt, Surroundings.recorded, hlook, hanswer]
  · refine ⟨_, _, start, cancelled, ?_, ?_⟩
    · simp [Connector.attempt, hlook]
    · simp [Connector.attempt, Surroundings.recorded, hlook]

theorem retry {warning : LogEntry} (cancelled : T [.look true] (.error .cancelled))
    (lost : ∀ e, T [.look false, .beat (.error e)] (.error e))
    (again : Leaves (fun log r => T (.look false :: .beat (.ok ()) :: log) r) p p') :
    Leaves T (Connector.retry env warning p) (Connector.retry env.recorded warning p') := by
  intro s before
  rcases hlook : env.cancelled (env.note warning s) with ⟨_ | _, s₁⟩
  · rcases hbeat : env.heartbeat s₁ with ⟨e | _, s₂⟩
    · refine ⟨_, _, s₂, lost e, ?_, ?_⟩
      · simp [Connector.retry, hlook, hbeat]
      · simp [Connector.retry, Surroundings.recorded, hlook, hbeat]
    · obtain ⟨log, r, s', hT, hrun, hrecord⟩ := again s₂
        (before ++ [.look false] ++ [.beat (.ok ())])
      refine ⟨_, r, s', hT, ?_, ?_⟩
      · simpa [Connector.retry, hlook, hbeat] using hrun
      · simpa [Connector.retry, Surroundings.recorded, hlook, hbeat] using hrecord
  · refine ⟨_, _, s₁, cancelled, ?_, ?_⟩
    · simp [Connector.retry, hlook]
    · simp [Connector.retry, Surroundings.recorded, hlook]

end Leaves

/-- A call leaves a trace, and to record it changes nothing else. -/
theorem leaves_trace (env : Surroundings σ α) (name : CallName) (limit left : Nat) :
    Leaves (Trace env name limit left) (attempts env name limit left)
      (attempts env.recorded name limit left) := by
  induction left with
  | zero =>
    exact .attempt .cancelled (fun _ _ clear => .answered clear) fun start f clear =>
      .pure (.exhausted clear (.inr rfl))
  | succ left ih =>
    refine .attempt .cancelled (fun _ _ clear => .answered clear) fun start f clear => ?_
    cases hretry : f.isRetryable with
    | false => exact .pure (.exhausted clear (.inl hretry))
    | true =>
      exact .retry (.woken clear hretry) (fun e => .lost clear hretry)
        (ih.mono fun _ _ rest => .again clear hretry rest)

/-! ### What a trace keeps to -/

/-- A statement about every event of a log, what came before it and what came after. -/
theorem forall_split_cons {β : Type} {P : List β → β → List β → Prop} {a : β} {l : List β} :
    (∀ before x after, a :: l = before ++ x :: after → P before x after) ↔
      P [] a l ∧ ∀ before x after, l = before ++ x :: after → P (a :: before) x after := by
  constructor
  · intro h
    exact ⟨h [] a l rfl, fun before x after hl => h (a :: before) x after (hl ▸ rfl)⟩
  · rintro ⟨hhead, htail⟩ before x after hl
    cases before with
    | nil =>
      obtain ⟨rfl, rfl⟩ := List.cons.inj hl
      exact hhead
    | cons c before =>
      obtain ⟨rfl, hrest⟩ := List.cons.inj hl
      exact htail before x after hrest

namespace Trace

theorem length_answers_le (h : Trace env name limit left log r) :
    (answers log).length ≤ left + 1 := by
  induction h with
  | cancelled => simp
  | answered | exhausted | woken | lost => simp
  | again _ _ rest ih => simpa [Nat.add_comm] using ih

/-- There is no sign of life before the first attempt. -/
theorem beats_before (h : Trace env name limit left log r) :
    beats (log.takeWhile (·.attempted?.isNone)) = [] := by
  cases h <;> simp

theorem beats_between (h : Trace env name limit left log r) :
    ∀ before x after, log = before ++ x :: after → x.attempted?.isSome = true →
      answers after ≠ [] → beats (after.takeWhile (·.attempted?.isNone)) = [.ok ()] := by
  induction h with
  | cancelled => simp [forall_split_cons]
  | answered | exhausted | woken | lost => simp [forall_split_cons]
  | again _ _ rest ih =>
    have hfirst := rest.beats_before
    simpa [forall_split_cons] using ⟨fun _ => hfirst, ih⟩

theorem beats_after_last (h : Trace env name limit left log r) :
    ∀ before x after, log = before ++ x :: after → x.attempted?.isSome = true →
      (answers before).length = left → beats after = [] := by
  induction h with
  | cancelled => simp [forall_split_cons]
  | answered | exhausted | woken | lost => simp [forall_split_cons]
  | again _ _ rest ih => simpa [forall_split_cons] using ih

theorem clear_of_attempt (h : Trace env name limit left log r) :
    ∀ before x after, log = before ++ x :: after → ∀ start outcome, x = .attempt start outcome →
      true ∉ looks before ∧ before.getLast? = some (.look false) ∧ env.Clear start := by
  induction h with
  | cancelled => simp [forall_split_cons]
  | answered clear | exhausted clear | woken clear | lost clear =>
    simpa [forall_split_cons] using clear
  | again clear _ rest ih =>
    simp only [forall_split_cons]
    refine ⟨by simp, ?_, by simp, by simp, fun before x after hlog start outcome hx => ?_⟩
    · simpa using clear
    · obtain ⟨hlooks, hlast, hclear⟩ := ih before x after hlog start outcome hx
      refine ⟨by simpa using hlooks, ?_, hclear⟩
      simp [List.getLast?_cons, hlast]

theorem answers_after_fault (h : Trace env name limit left log r) :
    ∀ before x after, log = before ++ x :: after → ∀ f, x.attempted? = some (.error f) →
      f.isRetryable = false → answers after = [] := by
  induction h with
  | cancelled => simp [forall_split_cons]
  | answered | exhausted | woken | lost => simp [forall_split_cons]
  | again _ retryable rest ih => simpa [forall_split_cons, retryable] using ih

end Trace

/-! ### Results -/

/-- How a repeated call may end. -/
inductive Exit (α : Type) where
  /-- The source answered. -/
  | answer (v : α)
  /-- The source failed for good, or once too often. -/
  | fault (f : Fault)
  /-- There was no sign of life to be given. -/
  | lost (e : Error)
  | cancelled

/-- What the caller gets of an exit after a number of repetitions. -/
def Exit.result (name : CallName) (retries : Nat) : Exit α → Except Error α
  | answer v => .ok v
  | fault f =>
    .error (.connection name.source
      (if retries = 0 then s!"{name.operation} failed: {f.message}"
      else s!"{name.operation} failed after {retries} retries: {f.message}"))
  | lost e => .error e
  | cancelled => .error .cancelled

theorem error_exhausted (name : CallName) (f : Fault) (retries : Nat) :
    (.error (exhausted name f retries) : Except Error α) = (Exit.fault f).result name retries := by
  unfold exhausted Exit.result
  split_ifs with h h' h'
  · omega
  · rfl
  · rfl
  · omega

theorem Exit.result_eq_ok_iff {retries : Nat} {v : α} {exit : Exit α} :
    exit.result name retries = .ok v ↔ exit = .answer v := by
  cases exit <;> simp [Exit.result]

theorem Exit.result_eq_cancelled_iff {retries : Nat} {exit : Exit α} :
    exit.result name retries = .error .cancelled ↔ exit = .cancelled ∨ exit = .lost .cancelled := by
  cases exit <;> simp [Exit.result]

theorem Fault.isRetryable_eq_false_iff {f : Fault} :
    f.isRetryable = false ↔ ∃ detail, f = .query detail := by
  cases f <;> simp [isRetryable]

/-- The log of a call shows which exit it took. A sign of life may fail with any error, so that
exits are told apart by their causes and not by what the caller gets. -/
structure Exit.Shown (limit : Nat) (log : List (Event σ α)) (exit : Exit α) : Prop where
  answer : ∀ v, exit = .answer v ↔ (answers log).getLast? = some (.ok v)
  fault : ∀ f, exit = .fault f ↔ (answers log).getLast? = some (.error f) ∧
    ((∃ detail, f = .query detail) ∨ (answers log).length = limit + 1)
  lost : ∀ e, exit = .lost e ↔ .error e ∈ beats log
  cancelled : exit = .cancelled ↔ true ∈ looks log

theorem Trace.exists_exit (h : Trace env name limit left log r) (hleft : left ≤ limit) :
    ∃ exit : Exit α, r = exit.result name (limit - left + (answers log).length - 1) ∧
      exit.Shown left log := by
  induction h with
  | cancelled => exact ⟨.cancelled, rfl, by simp, by simp, by simp, by simp⟩
  | @answered _ _ v _ => exact ⟨.answer v, rfl, by simp, by simp, by simp, by simp⟩
  | @exhausted _ _ f _ final =>
    refine ⟨.fault f, error_exhausted .., by simp, ?_, by simp, by simp⟩
    simpa [← Fault.isRetryable_eq_false_iff] using final
  | @woken _ _ f _ retryable =>
    refine ⟨.cancelled, rfl, by simp, ?_, by simp, by simp⟩
    simpa [← Fault.isRetryable_eq_false_iff] using retryable
  | @lost _ _ _ e _ retryable =>
    refine ⟨.lost e, rfl, by simp, ?_, by simp [eq_comm], by simp⟩
    simpa [← Fault.isRetryable_eq_false_iff] using retryable
  | @again left _ f log r _ retryable rest ih =>
    obtain ⟨exit, hr, hanswer, hfault, hlost, hcancelled⟩ := ih (by omega)
    have hretries : limit - (left + 1) + (answers log).length = limit - left +
        (answers log).length - 1 := by omega
    refine ⟨exit, by simpa [hretries] using hr, fun v => ?_, fun f' => ?_, by simpa using hlost,
      by simpa using hcancelled⟩
    · rw [hanswer v]
      cases hrest : answers log <;> simp [hrest]
    · rw [hfault f']
      cases hrest : answers log with
      | nil =>
        have hfinal : f = f' → f'.isRetryable = true := fun h => h ▸ retryable
        simpa [hrest, ← Fault.isRetryable_eq_false_iff] using hfinal
      | cons o rest => simp [hrest]

namespace RetryPolicy

/-- What a call under a policy keeps to. -/
structure Kept (p : RetryPolicy) (env : Surroundings σ α) (log : List (Event σ α)) : Prop where
  /-- There is an end to the attempts. -/
  attempts : (answers log).length ≤ p.limit + 1
  /-- There is one sign of life up to the next attempt, if there is a next one. -/
  between : ∀ before x after, log = before ++ x :: after → x.attempted?.isSome = true →
    answers after ≠ [] → beats (after.takeWhile (·.attempted?.isNone)) = [.ok ()]
  /-- There is no sign of life after the last attempt that may be made. -/
  afterLast : ∀ before x after, log = before ++ x :: after → x.attempted?.isSome = true →
    (answers before).length = p.limit → beats after = []
  /-- An attempt starts where a look left off, and no look up to it showed a cancellation. -/
  active : ∀ before x after, log = before ++ x :: after → ∀ start outcome,
    x = .attempt start outcome →
      true ∉ looks before ∧ before.getLast? = some (.look false) ∧ env.Clear start
  /-- An error that is for good is the last answer. -/
  final : ∀ before x after, log = before ++ x :: after → ∀ f, x.attempted? = some (.error f) →
    f.isRetryable = false → answers after = []

/-- A call keeps to its policy in any surroundings, and its record shows how it came to its result:
recording is all that is added. -/
theorem call_kept (p : RetryPolicy) (env : Surroundings σ α) (name : CallName) (s : σ) :
    ∃ (log : List (Event σ α)) (exit : Exit α),
      p.call env.recorded name (s, []) =
        ((p.call env name s).1, (p.call env name s).2, log) ∧
      p.Kept env log ∧ exit.Shown p.limit log ∧
      (p.call env name s).1 = exit.result name ((answers log).length - 1) ∧
      (∀ v, (p.call env name s).1 = .ok v ↔ (answers log).getLast? = some (.ok v)) ∧
      ((p.call env name s).1 = .error .cancelled →
        true ∈ looks log ∨ .error .cancelled ∈ beats log) := by
  obtain ⟨log, r, s', htrace, hrun, hrecord⟩ := leaves_trace env name p.limit p.limit s []
  obtain ⟨exit, hr, hshown⟩ := htrace.exists_exit (Nat.le_refl _)
  have hcall : p.call env name s = (r, s') := hrun
  rw [Nat.sub_self, Nat.zero_add] at hr
  rw [hcall]
  refine ⟨log, exit, hrecord, ?_, hshown, hr, fun v => ?_, fun hcancelled => ?_⟩
  · exact ⟨htrace.length_answers_le, htrace.beats_between, htrace.beats_after_last,
      htrace.clear_of_attempt, htrace.answers_after_fault⟩
  · rw [hr, Exit.result_eq_ok_iff, hshown.answer]
  · rw [hr, Exit.result_eq_cancelled_iff] at hcancelled
    exact hcancelled.imp hshown.cancelled.1 (hshown.lost .cancelled).1

/-- A source that cannot be reached at first and then refuses the query. -/
theorem call_kept_refused :
    let env : Surroundings (List (Except Fault Nat)) Nat :=
      { cancelled := fun script => (false, script)
        attempt := fun script => (script.headD (.ok 0), script.tail)
        heartbeat := fun script => (.ok (), script)
        note := fun _ script => script }
    let p : RetryPolicy := ⟨5, ⟨0⟩⟩
    let name : CallName := ⟨"prod", "list_databases"⟩
    let script := [.error (.unreachable "refused"), .error (.query "syntax"), .ok 7]
    (∃ log, p.Kept env log ∧ answers log = script.take 2 ∧ beats log = [.ok ()]) ∧
      (p.call env name script).1 = .error
        (.connection "prod" "list_databases failed after 1 retries: query failed: syntax") := by
  intro env p name script
  obtain ⟨log, exit, hrecord, hkept, hshown, hresult, -⟩ := p.call_kept env name script
  have hlog : (p.call env.recorded name (script, [])).2.2 = log := congrArg (·.2.2) hrecord
  have hanswers : answers log = script.take 2 := by
    rw [← hlog]
    rfl
  have hbeats : beats log = [.ok ()] := by
    rw [← hlog]
    rfl
  have hexit : exit = .fault (.query "syntax") := by
    refine (hshown.fault _).2 ⟨?_, .inl ⟨_, rfl⟩⟩
    rw [hanswers]
    rfl
  refine ⟨⟨log, hkept, hanswers, hbeats⟩, ?_⟩
  rw [hresult, hexit, hanswers]
  decide +kernel

end RetryPolicy

end FleetProfile.Connector
