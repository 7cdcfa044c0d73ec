import Mathlib.Data.List.Destutter
import Mathlib.Data.List.Nodup
import Mathlib.Tactic.Common

/-! Lists of rows with keys: looking a key up, and leaving out what adds nothing or repeats. -/
namespace FleetProfile

variable {α β κ : Type}

/-- Where no key occurs twice, a key stands for its element. -/
theorem filter_key_eq_singleton [DecidableEq κ] {key : α → κ} {xs : List α}
    (hnodup : (xs.map key).Nodup) {x : α} (hx : x ∈ xs) :
    (xs.filter fun y => key y = key x) = [x] := by
  refine List.perm_singleton.1 ((List.perm_ext_iff_of_nodup (hnodup.of_map.filter _)
    (List.nodup_singleton _)).2 fun y => ?_)
  simp only [List.mem_filter, decide_eq_true_eq, List.mem_singleton]
  constructor
  · rintro ⟨hy, hkey⟩
    exact List.inj_on_of_nodup_map hnodup hy hx hkey
  · rintro rfl
    exact ⟨hx, rfl⟩

/-- Where no key occurs twice and all keys stay, a map keeps a list up to order only as it is. -/
theorem mergeSort_map_eq_iff (key : α → κ) {f : α → α} {le : α → α → Bool} {xs : List α}
    (hkey : ∀ x, key (f x) = key x) (hnodup : (xs.map key).Nodup) :
    (xs.map f).mergeSort le = xs.mergeSort le ↔ ∀ x ∈ xs, f x = x := by
  constructor
  · intro h x hx
    have hperm : (xs.map f).Perm xs :=
      (List.mergeSort_perm _ le).symm.trans (h ▸ List.mergeSort_perm xs le)
    exact List.inj_on_of_nodup_map hnodup (hperm.subset (List.mem_map_of_mem hx)) hx (hkey x)
  · intro h
    rw [List.map_congr_left h, List.map_id']

/-- Lists with the same elements of a kind have the same ones of each kind within it. -/
theorem filter_eq_filter_of_imp {p q : α → Bool} {xs ys : List α} (h : xs.filter p = ys.filter p)
    (himp : ∀ x, q x = true → p x = true) : xs.filter q = ys.filter q := by
  have hwithin : ∀ zs : List α, (zs.filter p).filter q = zs.filter q := by
    intro zs
    rw [List.filter_filter]
    apply List.filter_congr
    intro x _
    cases hq : q x with
    | true => rw [himp x hq, Bool.true_and]
    | false => rw [Bool.false_and]
  rw [← hwithin xs, h, hwithin]

/-- Where what has a property is followed by what has it not, they part there. -/
theorem takeWhile_dropWhile_append {p : α → Bool} {xs ys : List α} (hxs : ∀ x ∈ xs, p x = true)
    (hys : ∀ y ∈ ys.head?, p y = false) :
    (xs ++ ys).takeWhile p = xs ∧ (xs ++ ys).dropWhile p = ys := by
  rw [List.takeWhile_append_of_pos hxs, List.dropWhile_append_of_pos hxs]
  cases ys with
  | nil => simp
  | cons y ys => simp [hys y rfl]

theorem filter_concat_of_neg {p : α → Bool} {xs : List α} {x : α} (h : p x = false) :
    (xs ++ [x]).filter p = xs.filter p := by
  rw [List.filter_append, List.filter_cons_of_neg (by simp [h]), List.filter_nil, List.append_nil]

theorem filterMap_eq_filterMap_of_filter {f : α → Option β} {p : α → Bool} {xs ys : List α}
    (h : xs.filter p = ys.filter p) (hnone : ∀ x, p x = false → f x = none) :
    xs.filterMap f = ys.filterMap f := by
  have hwithin : ∀ zs : List α, (zs.filter p).filterMap f = zs.filterMap f := by
    intro zs
    rw [List.filterMap_filter]
    apply List.filterMap_congr
    intro x _
    cases hp : p x with
    | true => rfl
    | false => exact (hnone x hp).symm
  rw [← hwithin xs, h, hwithin]

theorem flatMap_filter_eq {f : α → List β} {p : α → Bool} {xs : List α}
    (h : ∀ x ∈ xs, p x = false → f x = []) : (xs.filter p).flatMap f = xs.flatMap f := by
  induction xs with
  | nil => rfl
  | cons x xs ih =>
    obtain ⟨hx, hxs⟩ := List.forall_mem_cons.1 h
    cases hp : p x with
    | true => rw [List.filter_cons_of_pos hp, List.flatMap_cons, List.flatMap_cons, ih hxs]
    | false =>
      rw [List.filter_cons_of_neg (by simp [hp]), List.flatMap_cons, hx hp, List.nil_append, ih hxs]

/-- Where all that comes of an element has its property, filtering may be done before. -/
theorem filter_flatMap_of_forall {f : α → List β} {p : β → Bool} {q : α → Bool} {xs : List α}
    (h : ∀ x ∈ xs, ∀ y ∈ f x, p y = q x) : (xs.flatMap f).filter p = (xs.filter q).flatMap f := by
  induction xs with
  | nil => rfl
  | cons x xs ih =>
    obtain ⟨hx, hxs⟩ := List.forall_mem_cons.1 h
    rw [List.flatMap_cons, List.filter_append, ih hxs]
    cases hq : q x with
    | true =>
      have hall : (f x).filter p = f x := List.filter_eq_self.2 fun y hy => (hx y hy).trans hq
      rw [List.filter_cons_of_pos hq, List.flatMap_cons, hall]
    | false =>
      have hnone : (f x).filter p = [] :=
        List.filter_eq_nil_iff.2 fun y hy hp => by simp [hx y hy, hq] at hp
      rw [List.filter_cons_of_neg (by simp [hq]), hnone, List.nil_append]

theorem flatMap_replicate {n : α → Nat} {p : α → Prop} [DecidablePred p] {xs : List α}
    (h : ∀ x ∈ xs, n x = if p x then 1 else 0) :
    (xs.flatMap fun x => List.replicate (n x) x) = xs.filter fun x => p x := by
  induction xs with
  | nil => rfl
  | cons x xs ih =>
    obtain ⟨hx, hxs⟩ := List.forall_mem_cons.1 h
    rw [List.flatMap_cons, ih hxs, hx]
    by_cases hp : p x <;> simp [hp]

/-- Without its repetitions, a chain that may stay where it is only goes on. -/
theorem exists_destutter'_eq [DecidableEq α] {S : α → α → Prop} {a : α} {xs : List α}
    (h : (a :: xs).IsChain fun x y => y = x ∨ S x y) :
    ∃ ys, xs.destutter' (· ≠ ·) a = a :: ys ∧ (a :: ys).IsChain S := by
  induction xs generalizing a with
  | nil => exact ⟨[], rfl, List.isChain_singleton a⟩
  | cons b xs ih =>
    obtain ⟨hab, hxs⟩ := List.isChain_cons_cons.1 h
    obtain ⟨ys, hys, hchain⟩ := ih hxs
    by_cases hne : a ≠ b
    · have hstep : S a b := hab.resolve_left (Ne.symm hne)
      refine ⟨b :: ys, ?_, List.isChain_cons_cons.2 ⟨hstep, hchain⟩⟩
      rw [List.destutter'_cons_pos _ hne, hys]
    · obtain rfl : a = b := not_not.1 hne
      refine ⟨ys, ?_, hchain⟩
      rw [List.destutter'_cons_neg _ hne, hys]

theorem lookup_filterMap [BEq κ] [LawfulBEq κ] [DecidableEq κ] (f : κ → Option β) (xs : List κ)
    (k : κ) : (xs.filterMap fun x => (f x).map (x, ·)).lookup k = if k ∈ xs then f k else none := by
  induction xs with
  | nil => simp
  | cons x xs ih =>
    rw [List.filterMap_cons]
    cases hx : f x with
    | none =>
      simp only [Option.map_none, ih, List.mem_cons]
      by_cases hk : k = x
      · subst hk
        simp [hx]
      · simp [hk]
    | some y =>
      simp only [Option.map_some, List.lookup_cons, ih, List.mem_cons]
      by_cases hk : k = x
      · subst hk
        simp [hx]
      · rw [beq_false_of_ne hk]
        simp [hk]

/-- Texts that begin with as many letters are in the order of these, then of what follows. -/
theorem append_lt_append_iff {α : Type} [LT α] [Std.Irrefl (α := α) (· < ·)] {as bs xs ys : List α}
    (hlen : as.length = bs.length) :
    as ++ xs < bs ++ ys ↔ as < bs ∨ as = bs ∧ xs < ys := by
  induction as generalizing bs with
  | nil =>
    obtain rfl := List.length_eq_zero_iff.1 hlen.symm
    simp
  | cons a as ih =>
    cases bs with
    | nil => exact absurd hlen (by simp)
    | cons b bs =>
      rw [List.cons_append, List.cons_append, List.cons_lt_cons_iff, List.cons_lt_cons_iff,
        ih (Nat.succ.inj hlen), List.cons.injEq]
      tauto

end FleetProfile
