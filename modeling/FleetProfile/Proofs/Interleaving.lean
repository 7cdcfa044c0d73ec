import FleetProfile.Process
import Mathlib.Algebra.BigOperators.Group.List.Basic
import Mathlib.Algebra.Group.Defs
import Mathlib.Data.List.Forall2

/-! Computations that run side by side on one state. What each step of each of them keeps is kept
however their steps are mixed, and what they add to a total adds up. -/
namespace FleetProfile.Process

variable {S α β γ M : Type}

/-! ### Runs -/

@[simp] theorem run_pure (a : α) (s : S) : (pure a : Process S α).run s = (a, s) := rfl

@[simp] theorem run_atom (act : S → α × S) (s : S) : (atom act).run s = act s := rfl

@[simp] theorem run_bind (p : Process S α) (f : α → Process S β) (s : S) :
    (p >>= f).run s = (f (p.run s).1).run (p.run s).2 := by
  induction p generalizing s with
  | done a => rfl
  | step act next ih => exact ih (act s).1 (act s).2

/-! ### Side by side -/

section

variable {δ δ' : Type} (first : S → Bool × S)

theorem both_done (a : α) (q : Process S β) :
    both first (done a) q = q >>= fun b => done (a, b) := rfl

theorem both_step_done (act : S → δ × S) (next : δ → Process S α) (b : β) :
    both first (step act next) (done b) = step act next >>= fun a => done (a, b) := rfl

theorem both_step_step (act : S → δ × S) (next : δ → Process S α) (act' : S → δ' × S)
    (next' : δ' → Process S β) :
    both first (step act next) (step act' next') = step (either first act act') (Sum.elim
      (fun b => both first (next b) (step act' next'))
      fun c => both first (step act next) (next' c)) := by
  rw [both, beside]
  congr 1
  funext x
  cases x <;> rfl

end

/-! ### What steps keep and add -/

variable [AddCommMonoid M]

/-- Every step of a computation keeps an invariant and adds to a total, whatever comes between its
steps. What it added, together with `m` from before, is in the end what its result stands for. -/
def Adds (I : S → Prop) (total : S → M) (post : α → M → Prop) : M → Process S α → Prop
  | m, done a => post a m
  | m, step act next => ∀ s, I s → I (act s).2 ∧
      ∃ d, total (act s).2 = total s + d ∧ (next (act s).1).Adds I total post (m + d)

/-- Every step keeps an invariant and a total. -/
def Keeps (I : S → Prop) (total : S → M) (act : S → α × S) : Prop :=
  ∀ s, I s → I (act s).2 ∧ total (act s).2 = total s

variable {I : S → Prop} {total : S → M} {post : α → M → Prop} {p : Process S α} {m : M}

namespace Adds

theorem mono {post' : α → M → Prop} (h : p.Adds I total post m)
    (hpost : ∀ a n, post a n → post' a n) : p.Adds I total post' m := by
  induction p generalizing m with
  | done a => exact hpost a m h
  | step act next ih =>
    intro s hs
    obtain ⟨hI, d, htotal, hnext⟩ := h s hs
    exact ⟨hI, d, htotal, ih _ hnext⟩

/-- What was added before does not matter to the steps. -/
theorem frame (h : p.Adds I total post m) (m₀ : M) :
    p.Adds I total (fun a n => ∃ n', n = m₀ + n' ∧ post a n') (m₀ + m) := by
  induction p generalizing m with
  | done a => exact ⟨m, rfl, h⟩
  | step act next ih =>
    intro s hs
    obtain ⟨hI, d, htotal, hnext⟩ := h s hs
    refine ⟨hI, d, htotal, ?_⟩
    rw [add_assoc]
    exact ih _ hnext

theorem pure {a : α} (h : post a m) : (Pure.pure a : Process S α).Adds I total post m := h

theorem atom {act : S → α × S} (h : ∀ s, I s → I (act s).2 ∧
    ∃ d, total (act s).2 = total s + d ∧ post (act s).1 (m + d)) :
    (Process.atom act).Adds I total post m := h

theorem bind {f : α → Process S β} {post : β → M → Prop}
    (h : p.Adds I total (fun a n => (f a).Adds I total post n) m) :
    (p >>= f).Adds I total post m := by
  induction p generalizing m with
  | done a => exact h
  | step act next ih =>
    intro s hs
    obtain ⟨hI, d, htotal, hnext⟩ := h s hs
    exact ⟨hI, d, htotal, ih _ hnext⟩

/-- Two computations add what both add. -/
theorem both {first : S → Bool × S} (hfirst : Keeps I total first) {q : Process S β}
    {post' : β → M → Prop} {m' : M} (hp : p.Adds I total post m) (hq : q.Adds I total post' m') :
    (Process.both first p q).Adds I total
      (fun x n => ∃ n₁ n₂, n = n₁ + n₂ ∧ post x.1 n₁ ∧ post' x.2 n₂) (m + m') := by
  induction p generalizing m m' q with
  | done a =>
    rw [both_done]
    refine bind ((hq.frame m).mono fun b n hb => ?_)
    obtain ⟨n', hn, hb⟩ := hb
    exact ⟨m, n', hn, hp, hb⟩
  | step act next ih =>
    induction q generalizing m m' with
    | done b =>
      rw [both_step_done, add_comm]
      refine bind ((hp.frame m').mono fun a n ha => ?_)
      obtain ⟨n', hn, ha⟩ := ha
      exact ⟨n', m', hn.trans (add_comm _ _), ha, hq⟩
    | step act' next' ih' =>
      rw [both_step_step]
      intro s hs
      obtain ⟨hI, htotal⟩ := hfirst s hs
      unfold either
      cases hs₁ : first s with
      | mk isFirst s₁ =>
        rw [hs₁] at hI htotal
        cases isFirst with
        | true =>
          obtain ⟨hI₂, d, htotal₂, hnext⟩ := hp s₁ hI
          refine ⟨hI₂, d, htotal₂.trans (congrArg (· + d) htotal), ?_⟩
          rw [add_right_comm]
          exact ih _ hnext hq
        | false =>
          obtain ⟨hI₂, d, htotal₂, hnext⟩ := hq s₁ hI
          refine ⟨hI₂, d, htotal₂.trans (congrArg (· + d) htotal), ?_⟩
          rw [add_assoc]
          exact ih' _ hp hnext

/-- Computations that each add what their result stands for add the sum of that. -/
theorem all {first : S → Bool × S} (hfirst : Keeps I total first) {xs : List β}
    {p : β → Process S α} {P : β → α → Prop} {cost : α → M}
    (h : ∀ x ∈ xs, (p x).Adds I total (fun a n => n = cost a ∧ P x a) 0) :
    (Process.all first (xs.map p)).Adds I total
      (fun as n => n = (as.map cost).sum ∧ List.Forall₂ P xs as) 0 := by
  induction xs with
  | nil => exact ⟨rfl, .nil⟩
  | cons x xs ih =>
    obtain ⟨hx, hxs⟩ := List.forall_mem_cons.1 h
    rw [List.map_cons, Process.all]
    refine bind ?_
    have hboth := both hfirst hx (ih hxs)
    rw [add_zero] at hboth
    refine hboth.mono fun y n hy => ?_
    obtain ⟨n₁, n₂, rfl, ⟨rfl, hP⟩, rfl, hall⟩ := hy
    exact ⟨by rw [List.map_cons, List.sum_cons], .cons hP hall⟩

theorem run (h : p.Adds I total post m) {s : S} (hs : I s) :
    I (p.run s).2 ∧ ∃ d, total (p.run s).2 = total s + d ∧ post (p.run s).1 (m + d) := by
  induction p generalizing m s with
  | done a => exact ⟨hs, 0, (add_zero _).symm, (add_zero m).symm ▸ h⟩
  | step act next ih =>
    obtain ⟨hI, d, htotal, hnext⟩ := h s hs
    obtain ⟨hI', d', htotal', hpost⟩ := ih _ hnext hI
    refine ⟨hI', d + d', ?_, ?_⟩
    · exact htotal'.trans (by rw [htotal, add_assoc])
    · rwa [← add_assoc]

end Adds

/-! ### Steps that add nothing -/

/-- The steps of a computation keep an invariant and a total, and its results have a property. -/
def Steady (I : S → Prop) (total : S → M) (P : α → Prop) (p : Process S α) : Prop :=
  ∀ m, p.Adds I total (fun a n => n = m ∧ P a) m

variable {P : α → Prop}

namespace Steady

theorem mono {P' : α → Prop} (h : p.Steady I total P) (hP : ∀ a, P a → P' a) :
    p.Steady I total P' :=
  fun m => (h m).mono fun a _ ha => ⟨ha.1, hP a ha.2⟩

theorem pure {a : α} (h : P a) : (Pure.pure a : Process S α).Steady I total P :=
  fun _ => ⟨rfl, h⟩

theorem atom {act : S → α × S} (hact : Keeps I total act) (hP : ∀ s, I s → P (act s).1) :
    (Process.atom act).Steady I total P := by
  intro m s hs
  obtain ⟨hI, htotal⟩ := hact s hs
  exact ⟨hI, 0, htotal.trans (add_zero _).symm, add_zero m, hP s hs⟩

theorem of_keeps {act : S → α × S} (hact : Keeps I total act) :
    (Process.atom act).Steady I total fun _ => True :=
  atom hact fun _ _ => trivial

/-- What comes after such steps adds what it adds. -/
theorem bind_adds {f : α → Process S β} {post : β → M → Prop} (h : p.Steady I total P)
    (hf : ∀ a, P a → (f a).Adds I total post m) : (p >>= f).Adds I total post m := by
  refine Adds.bind ((h m).mono fun a n ha => ?_)
  rw [ha.1]
  exact hf a ha.2

theorem bind {f : α → Process S β} {Q : β → Prop} (h : p.Steady I total P)
    (hf : ∀ a, P a → (f a).Steady I total Q) : (p >>= f).Steady I total Q :=
  fun _ => h.bind_adds fun a ha => hf a ha _

theorem run (h : p.Steady I total P) {s : S} (hs : I s) :
    I (p.run s).2 ∧ total (p.run s).2 = total s ∧ P (p.run s).1 := by
  obtain ⟨hI, d, htotal, hd, hP⟩ := (h 0).run hs
  rw [zero_add] at hd
  subst hd
  exact ⟨hI, htotal.trans (add_zero _), hP⟩

end Steady

end FleetProfile.Process
