import FleetProfile.Lifetime
import FleetProfile.Proofs.WriteLog
import Mathlib.Algebra.BigOperators.Ring.Finset
import Mathlib.Data.List.SplitBy

/-! The lifetimes of statements, counted as batches come in: a report opens a new one if its
counters do not go on from those of the report before. -/
namespace FleetProfile
open Store (BatchWrite reportsIn)

namespace Lifetime

private theorem length_splitByLoop_append {α : Type} (r : α → α → Bool) (x : α) (l : List α) :
    ∀ (a : α) (g : List α) (gs : List (List α)),
      (List.splitBy.loop r (l ++ [x]) a g gs).length =
        (List.splitBy.loop r l a g gs).length + if (a :: l).getLast?.any (r · x) then 0 else 1 := by
  induction l with
  | nil =>
    intro a g gs
    cases hr : r a x <;> simp [List.splitBy.loop, hr]
  | cons b l ih =>
    intro a g gs
    rw [List.getLast?_cons_cons, List.cons_append]
    unfold List.splitBy.loop
    cases r a b with
    | true => exact ih b (a :: g) gs
    | false => exact ih b [] ((a :: g).reverse :: gs)

/-- One more element adds a part unless it goes with the last one before it. -/
theorem length_splitBy_append {α : Type} (r : α → α → Bool) (l : List α) (x : α) :
    ((l ++ [x]).splitBy r).length =
      (l.splitBy r).length + if l.getLast?.any (r · x) then 0 else 1 := by
  cases l with
  | nil => rfl
  | cons a l => exact length_splitByLoop_append r x l a [] []

/-- A snapshot that does not continue the last one begins a new lifetime, as does the first. -/
theorem length_split_append (history : List UsageRecord) (r : UsageRecord) :
    (split (history ++ [r])).length =
      (split history).length + if history.getLast?.any (continues · r) then 0 else 1 := by
  unfold split
  rw [List.length_map, List.length_map]
  exact length_splitBy_append continues history r

theorem length_splitBy_map {α β : Type} (f : α → β) (r : β → β → Bool) (l : List α) :
    ((l.map f).splitBy r).length = (l.splitBy fun a b => r (f a) (f b)).length := by
  induction l using List.reverseRecOn with
  | nil => rfl
  | append_singleton l x ih =>
    rw [List.map_append, List.map_singleton, length_splitBy_append, length_splitBy_append, ih,
      List.getLast?_map, Option.any_map]

theorem length_split_map {f : UsageRecord → UsageRecord}
    (hf : ∀ a b, continues (f a) (f b) = continues a b) (history : List UsageRecord) :
    (split (history.map f)).length = (split history).length := by
  unfold split
  rw [List.length_map, List.length_map, length_splitBy_map]
  simp only [hf]

theorem length_split_pos {history : List UsageRecord} (h : history ≠ []) :
    0 < (split history).length := by
  unfold split
  rw [List.length_map]
  exact List.length_pos_of_ne_nil (List.splitBy_ne_nil.2 h)

/-- Whether the counters of a record are below those of the last one before it. -/
def breaks (history : List UsageRecord) (r : UsageRecord) : Bool :=
  history.getLast?.any fun before => ¬ Counters.Continues before.counters r.counters

/-- Of the lifetimes after the first, a snapshot adds one if it breaks with the last. -/
theorem length_split_append_sub_one {history : List UsageRecord} {r : UsageRecord}
    (hhandle : ∀ before ∈ history, before.handle = r.handle) :
    (split (history ++ [r])).length - 1 =
      (split history).length - 1 + if breaks history r then 1 else 0 := by
  rw [length_split_append]
  unfold breaks
  cases hlast : history.getLast? with
  | none =>
    rw [List.getLast?_eq_none_iff] at hlast
    subst hlast
    rfl
  | some last =>
    have hmem := List.mem_of_getLast? hlast
    have hpos := length_split_pos (List.ne_nil_of_mem hmem)
    have hcontinues : continues last r = decide (Counters.Continues last.counters r.counters) := by
      simp [continues, hhandle last hmem]
    rw [Option.any_some, Option.any_some, hcontinues]
    by_cases hgoes : Counters.Continues last.counters r.counters
    · simp [hgoes]
    · simp only [hgoes, decide_false, Bool.false_eq_true, if_false, not_false_eq_true, decide_true,
        if_true]
      omega

end Lifetime

namespace Store
open Lifetime (split breaks)

theorem reportsIn_append (bs cs : List BatchWrite) (handle : String) :
    reportsIn (bs ++ cs) handle = reportsIn bs handle ++ reportsIn cs handle :=
  List.flatMap_append

theorem handle_of_mem_reportsIn {bs : List BatchWrite} {handle : String} {r : UsageRecord}
    (hr : r ∈ reportsIn bs handle) : r.handle = handle := by
  obtain ⟨b, -, hr⟩ := List.mem_flatMap.1 hr
  exact of_decide_eq_true (List.mem_filter.1 hr).2

/-- How a batch adds to the lifetimes of one statement, the first one not counted. -/
theorem length_split_reportsIn_append (bs : List BatchWrite) {b : BatchWrite}
    (hnodup : (b.rows.statements.map (·.handle)).Nodup) (handle : String) :
    (split (reportsIn (bs ++ [b]) handle)).length - 1 =
      (split (reportsIn bs handle)).length - 1 +
        (b.rows.statements.filter fun r => r.handle = handle).countP fun r =>
          breaks (reportsIn bs r.handle) r := by
  rw [reportsIn_append]
  have hone : reportsIn [b] handle = b.rows.statements.filter fun r => r.handle = handle :=
    List.flatMap_singleton _ _
  by_cases hreported : ∃ r ∈ b.rows.statements, r.handle = handle
  · obtain ⟨r, hr, rfl⟩ := hreported
    rw [hone, filter_key_eq_singleton hnodup hr, List.countP_singleton]
    exact Lifetime.length_split_append_sub_one fun _ hmem => handle_of_mem_reportsIn hmem
  · have hnone : (b.rows.statements.filter fun r => r.handle = handle) = [] := by
      refine List.filter_eq_nil_iff.2 fun r hr hhandle => hreported ⟨r, hr, ?_⟩
      exact of_decide_eq_true hhandle
    rw [hone, hnone, List.append_nil, List.countP_nil, Nat.add_zero]

theorem sum_countP_filter (keys : Finset String) (p : UsageRecord → Bool)
    (records : List UsageRecord) (hkeys : ∀ r ∈ records, r.handle ∈ keys) :
    (∑ handle ∈ keys, (records.filter fun r => r.handle = handle).countP p) = records.countP p := by
  induction records with
  | nil => simp
  | cons r records ih =>
    obtain ⟨hr, hrest⟩ := List.forall_mem_cons.1 hkeys
    have hcons (handle : String) : ((r :: records).filter fun r => r.handle = handle).countP p =
        (records.filter fun r => r.handle = handle).countP p +
          if r.handle = handle then (if p r then 1 else 0) else 0 := by
      by_cases hhandle : r.handle = handle <;> simp [hhandle, List.countP_cons]
    simp only [hcons, Finset.sum_add_distrib, ih hrest, Finset.sum_ite_eq, if_pos hr,
      List.countP_cons]

/-- Where batches count the records that break with what came before, they count the lifetimes. -/
theorem sum_length_split {bs : List BatchWrite} {keys : Finset String}
    (hnodup : ∀ b ∈ bs, (b.rows.statements.map (·.handle)).Nodup)
    (hkeys : ∀ b ∈ bs, ∀ r ∈ b.rows.statements, r.handle ∈ keys)
    (hcount : ∀ before b after, bs = before ++ b :: after →
      b.regressions = b.rows.statements.countP fun r => breaks (reportsIn before r.handle) r) :
    (∑ handle ∈ keys, ((split (reportsIn bs handle)).length - 1)) =
      (bs.map (·.regressions)).sum := by
  induction bs using List.reverseRecOn with
  | nil => simp [reportsIn, split]
  | append_singleton bs b ih =>
    have hlast : b ∈ bs ++ [b] := List.mem_append_right _ (List.mem_singleton_self b)
    have hbefore := ih (fun b' hb' => hnodup b' (List.mem_append_left _ hb'))
      (fun b' hb' => hkeys b' (List.mem_append_left _ hb'))
      (fun before b' after hbs => hcount before b' (after ++ [b]) (by rw [hbs]; simp))
    simp only [length_split_reportsIn_append bs (hnodup b hlast)]
    rw [Finset.sum_add_distrib, hbefore, sum_countP_filter keys _ _ (hkeys b hlast),
      ← hcount bs b [] rfl]
    simp

end Store

end FleetProfile
