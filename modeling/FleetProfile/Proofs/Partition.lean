import FleetProfile.Lifetime
import Mathlib.Data.List.SplitBy

/-! The lifetimes of a history as a partition of it: the only one that cuts where a snapshot does
not go on from the one before, and nowhere else. Every way to cut a history into residencies of a
plan refines it. -/
namespace FleetProfile

namespace Counters

/-- One of the counters is lower than before. -/
def Drops (prior current : Counters) : Prop :=
  current.executionCount < prior.executionCount ∨
    current.totalWorkerTime < prior.totalWorkerTime ∨
    current.totalElapsedTime < prior.totalElapsedTime ∨ current.totalRows < prior.totalRows

instance (prior current : Counters) : Decidable (Drops prior current) :=
  inferInstanceAs (Decidable (_ ∨ _))

theorem drops_iff {prior current : Counters} : Drops prior current ↔ ¬ Continues prior current := by
  unfold Drops Continues
  omega

end Counters

namespace Lifetime

/-- One stay of a plan in the cache: snapshots of one statement whose counters never go down. -/
structure Residency (l : Lifetime) : Prop where
  ne_nil : l.snapshots ≠ []
  handle_eq : ∀ r ∈ l.snapshots, r.handle = l.handle
  counters : l.snapshots.IsChain fun prior current =>
    Counters.Continues prior.counters current.counters

/-- From the end of one lifetime to the start of the other the statement changes or a counter
drops. -/
def Parted (before after : Lifetime) : Prop :=
  ∃ last ∈ before.snapshots.getLast?, ∃ first ∈ after.snapshots.head?,
    last.handle ≠ first.handle ∨ Counters.Drops last.counters first.counters

/-- A history cut into residencies, with a reason for every cut. -/
structure Cuts (history : List UsageRecord) (ls : List Lifetime) : Prop where
  flatMap_eq : ls.flatMap (·.snapshots) = history
  residency : ∀ l ∈ ls, Residency l
  parted : ls.IsChain Parted

variable {history : List UsageRecord} {ls : List Lifetime} {l : Lifetime} {r : UsageRecord}

theorem continues_iff {prior current : UsageRecord} : continues prior current = true ↔
    prior.handle = current.handle ∧ Counters.Continues prior.counters current.counters := by
  simp [continues]

theorem continues_eq_false_iff {prior current : UsageRecord} : continues prior current = false ↔
    prior.handle ≠ current.handle ∨ Counters.Drops prior.counters current.counters := by
  rw [Counters.drops_iff, ← Bool.not_eq_true, continues_iff, not_and_or]

/-- A residency is named by its snapshots, and each of them continues the one before. -/
theorem Residency.ofSnapshots_eq (h : Residency l) : ofSnapshots l.snapshots = l := by
  obtain ⟨r, rest, hl⟩ := List.exists_cons_of_ne_nil h.ne_nil
  have hhandle := h.handle_eq r (hl ▸ List.mem_cons_self)
  obtain ⟨handle, snapshots⟩ := l
  simp only at hl hhandle
  simp [ofSnapshots, hl, hhandle]

theorem Residency.exists_first (h : Residency l) : ∃ first, l.snapshots.head? = some first :=
  ⟨_, List.head?_eq_some_head h.ne_nil⟩

theorem Residency.exists_latest (h : Residency l) : ∃ last, l.latest = some last :=
  ⟨_, List.getLast?_eq_some_getLast h.ne_nil⟩

theorem Residency.isChain (h : Residency l) :
    l.snapshots.IsChain fun prior current => continues prior current = true :=
  h.counters.imp_of_mem_imp fun prior current hprior hcurrent hcounters =>
    have hhandle := (h.handle_eq prior hprior).trans (h.handle_eq current hcurrent).symm
    continues_iff.2 ⟨hhandle, hcounters⟩

theorem split_eq_of_cuts (h : Cuts history ls) : split history = ls := by
  have hsplit : (ls.map (·.snapshots)).flatten.splitBy continues = ls.map (·.snapshots) := by
    refine List.splitBy_flatten ?_ ?_ ?_
    · intro hnil
      obtain ⟨l, hl, hempty⟩ := List.mem_map.1 hnil
      exact (h.residency l hl).ne_nil hempty
    · exact List.forall_mem_map.2 fun l hl => (h.residency l hl).isChain
    · refine (List.isChain_map _).2 (h.parted.imp ?_)
      rintro before after ⟨last, hlast, first, hfirst, hcut⟩
      refine ⟨List.ne_nil_of_mem (List.mem_of_getLast? hlast),
        List.ne_nil_of_mem (List.mem_of_head? hfirst), ?_⟩
      rw [List.getLast_of_mem_getLast? hlast, List.head_of_mem_head? hfirst]
      exact continues_eq_false_iff.2 hcut
  rw [split, ← h.flatMap_eq, List.flatMap_def, hsplit, List.map_map]
  exact (List.map_congr_left fun l hl => (h.residency l hl).ofSnapshots_eq).trans (List.map_id _)

/-! ### One snapshot after another -/

/-- One more snapshot goes on with the last lifetime or begins a new one. -/
def extend (ls : List Lifetime) (r : UsageRecord) : List Lifetime :=
  match ls.getLast? with
  | none => [⟨r.handle, [r]⟩]
  | some l =>
    if l.latest.any (continues · r) then ls.dropLast ++ [⟨l.handle, l.snapshots ++ [r]⟩]
    else ls ++ [⟨r.handle, [r]⟩]

theorem residency_singleton (r : UsageRecord) : Residency ⟨r.handle, [r]⟩ where
  ne_nil := List.cons_ne_nil r []
  handle_eq := by simp
  counters := List.isChain_singleton r

theorem Residency.append {last : UsageRecord} (h : Residency l) (hlast : l.latest = some last)
    (hgoes : continues last r = true) : Residency ⟨l.handle, l.snapshots ++ [r]⟩ := by
  obtain ⟨hhandle, hcounters⟩ := continues_iff.1 hgoes
  refine ⟨by simp, ?_, ?_⟩
  · have hr : r.handle = l.handle :=
      hhandle.symm.trans (h.handle_eq last (List.mem_of_getLast? hlast))
    simpa using fun r' hr' => hr'.elim (h.handle_eq r') (· ▸ hr)
  · refine List.isChain_append.2 ⟨h.counters, List.isChain_singleton r, ?_⟩
    intro prior hprior current hcurrent
    obtain rfl := Option.some.inj (hlast.symm.trans hprior)
    obtain rfl := Option.some.inj hcurrent
    exact hcounters

theorem Cuts.extend (h : Cuts history ls) (r : UsageRecord) :
    Cuts (history ++ [r]) (extend ls r) := by
  have hflat := h.flatMap_eq
  have hresidency := h.residency
  have hparted := h.parted
  rcases List.eq_nil_or_concat' ls with rfl | ⟨before, l, rfl⟩
  · refine ⟨?_, ?_, List.isChain_singleton _⟩
    · rw [← hflat]
      rfl
    · exact List.forall_mem_singleton.2 (residency_singleton r)
  · obtain ⟨hbefore, hl⟩ := List.forall_mem_append.1 hresidency
    have hl : Residency l := hl l (List.mem_singleton_self l)
    obtain ⟨last, hlast⟩ := hl.exists_latest
    have hextend : Lifetime.extend (before ++ [l]) r =
        if continues last r then before ++ [⟨l.handle, l.snapshots ++ [r]⟩]
        else before ++ [l] ++ [⟨r.handle, [r]⟩] := by
      simp [Lifetime.extend, hlast]
    rw [hextend]
    split_ifs with hgoes
    · refine ⟨?_, ?_, ?_⟩
      · rw [← hflat]
        simp
      · exact List.forall_mem_append.2
          ⟨hbefore, List.forall_mem_singleton.2 (hl.append hlast hgoes)⟩
      · obtain ⟨hchain, -, hend⟩ := List.isChain_append.1 hparted
        refine List.isChain_append.2 ⟨hchain, List.isChain_singleton _, ?_⟩
        intro prior hprior current hcurrent
        obtain rfl := Option.some.inj hcurrent
        obtain ⟨x, hx, first, hfirst, hcut⟩ := hend prior hprior l rfl
        refine ⟨x, hx, first, ?_, hcut⟩
        rw [List.head?_append, hfirst]
        rfl
    · refine ⟨?_, ?_, ?_⟩
      · rw [← hflat]
        simp
      · exact List.forall_mem_append.2
          ⟨hresidency, List.forall_mem_singleton.2 (residency_singleton r)⟩
      · refine List.isChain_append.2 ⟨hparted, List.isChain_singleton _, ?_⟩
        intro prior hprior current hcurrent
        obtain rfl : l = prior := by simpa using hprior
        obtain rfl := Option.some.inj hcurrent
        exact ⟨last, hlast, r, rfl, continues_eq_false_iff.1 (Bool.eq_false_iff.2 hgoes)⟩

theorem cuts_foldl (history : List UsageRecord) : Cuts history (history.foldl extend []) := by
  induction history using List.reverseRecOn with
  | nil => exact ⟨rfl, List.forall_mem_nil _, List.isChain_nil⟩
  | append_singleton history r ih =>
    rw [List.foldl_append]
    exact ih.extend r

/-- The lifetimes can be kept up snapshot by snapshot. -/
theorem split_eq_foldl (history : List UsageRecord) : split history = history.foldl extend [] :=
  split_eq_of_cuts (cuts_foldl history)

theorem split_eq_iff : split history = ls ↔ Cuts history ls := by
  constructor
  · rintro rfl
    rw [split_eq_foldl]
    exact cuts_foldl history
  · exact split_eq_of_cuts

/-! ### Finer cuts -/

theorem handle_eq_of_isChain {rest : List UsageRecord}
    (h : (r :: rest).IsChain fun prior current => continues prior current = true) :
    ∀ x ∈ r :: rest, x.handle = r.handle := by
  induction rest generalizing r with
  | nil => simp
  | cons next rest ih =>
    obtain ⟨hgoes, hrest⟩ := List.isChain_cons_cons.1 h
    have hnext : next.handle = r.handle := (continues_iff.1 hgoes).1.symm
    exact List.forall_mem_cons.2 ⟨rfl, fun x hx => (ih hrest x hx).trans hnext⟩

theorem residency_ofSnapshots {snapshots : List UsageRecord} (ne_nil : snapshots ≠ [])
    (h : snapshots.IsChain fun prior current => continues prior current = true) :
    Residency (ofSnapshots snapshots) := by
  obtain ⟨r, rest, rfl⟩ := List.exists_cons_of_ne_nil ne_nil
  exact ⟨ne_nil, handle_eq_of_isChain h, h.imp fun _ _ hgoes => (continues_iff.1 hgoes).2⟩

/-- Whether nothing calls for the cut between two lifetimes. -/
def goesOn (before after : Lifetime) : Bool :=
  before.latest.any fun last => after.snapshots.head?.any (continues last)

theorem goesOn_iff {before after : Lifetime} : goesOn before after = true ↔
    ∃ last ∈ before.latest, ∃ first ∈ after.snapshots.head?, continues last first = true := by
  simp [goesOn, Option.any_eq_true]

theorem isChain_flatMap {group : List Lifetime} (hresidency : ∀ l ∈ group, Residency l)
    (hgoes : group.IsChain fun before after => goesOn before after = true) :
    (group.flatMap (·.snapshots)).IsChain fun prior current =>
      continues prior current = true := by
  rw [List.flatMap_def, List.isChain_flatten, List.isChain_map]
  · refine ⟨List.forall_mem_map.2 fun l hl => (hresidency l hl).isChain, hgoes.imp ?_⟩
    intro before after h last hlast first hfirst
    obtain ⟨x, hx, y, hy, hxy⟩ := goesOn_iff.1 h
    obtain rfl := Option.some.inj (hx.symm.trans hlast)
    obtain rfl := Option.some.inj (hy.symm.trans hfirst)
    exact hxy
  · intro hnil
    obtain ⟨l, hl, hempty⟩ := List.mem_map.1 hnil
    exact (hresidency l hl).ne_nil hempty

theorem getLast?_flatMap {group : List Lifetime} (ne_nil : group ≠ [])
    (hresidency : ∀ l ∈ group, Residency l) :
    (group.flatMap (·.snapshots)).getLast? = (group.getLast ne_nil).latest := by
  have hlast := (hresidency _ (List.getLast_mem ne_nil)).ne_nil
  conv_lhs => rw [← List.dropLast_append_getLast ne_nil]
  rw [List.flatMap_append, List.flatMap_singleton, List.getLast?_append_of_ne_nil _ hlast]
  rfl

theorem head?_flatMap {group : List Lifetime} (ne_nil : group ≠ [])
    (hresidency : ∀ l ∈ group, Residency l) :
    (group.flatMap (·.snapshots)).head? = (group.head ne_nil).snapshots.head? := by
  have hfirst := (hresidency _ (List.head_mem ne_nil)).ne_nil
  conv_lhs => rw [← List.cons_head_tail ne_nil]
  rw [List.flatMap_cons, List.head?_append_of_ne_nil _ hfirst]

/-- Whatever residencies a history is cut into, groups of them make up the lifetimes. -/
theorem exists_groups (hflat : ls.flatMap (·.snapshots) = history)
    (hresidency : ∀ l ∈ ls, Residency l) :
    ∃ groups : List (List Lifetime), groups.flatten = ls ∧
      groups.map (·.flatMap (·.snapshots)) = (split history).map (·.snapshots) := by
  let groups := ls.splitBy goesOn
  have hflatten : groups.flatten = ls := List.flatten_splitBy goesOn ls
  have hmem : ∀ group ∈ groups, ∀ l ∈ group, Residency l := fun group hgroup l hl =>
    hresidency l (hflatten ▸ List.mem_flatten.2 ⟨group, hgroup, hl⟩)
  have hcuts : Cuts history
      (groups.map fun group => ofSnapshots (group.flatMap (·.snapshots))) := by
    refine ⟨?_, ?_, ?_⟩
    · rw [← hflat, ← hflatten, List.flatten_eq_flatMap, List.flatMap_assoc, List.flatMap_map]
      rfl
    · refine List.forall_mem_map.2 fun group hgroup => residency_ofSnapshots ?_ ?_
      · have ne_nil := List.ne_nil_of_mem_splitBy hgroup
        rw [← List.isSome_head?, head?_flatMap ne_nil (hmem group hgroup), List.isSome_head?]
        exact (hmem group hgroup _ (List.head_mem ne_nil)).ne_nil
      · exact isChain_flatMap (hmem group hgroup) (List.isChain_of_mem_splitBy hgroup)
    · refine (List.isChain_map _).2
        ((List.isChain_getLast_head_splitBy goesOn ls).imp_of_mem_imp ?_)
      rintro before after hbefore hafter ⟨hlast, hfirst, hcut⟩
      obtain ⟨last, hx⟩ := (hmem before hbefore _ (List.getLast_mem hlast)).exists_latest
      obtain ⟨first, hy⟩ := (hmem after hafter _ (List.head_mem hfirst)).exists_first
      refine ⟨last, (getLast?_flatMap hlast (hmem before hbefore)).trans hx, first,
        (head?_flatMap hfirst (hmem after hafter)).trans hy, continues_eq_false_iff.1 ?_⟩
      rw [Bool.eq_false_iff] at hcut ⊢
      exact fun hgoes => hcut (goesOn_iff.2 ⟨last, hx, first, hy, hgoes⟩)
  refine ⟨groups, hflatten, ?_⟩
  rw [split_eq_of_cuts hcuts, List.map_map]
  rfl

/-- The lifetimes are the one way to cut a history into residencies with a reason for every cut, and
any other way to cut it into residencies is finer. -/
theorem split_coarsest (history : List UsageRecord) :
    (∀ ls, split history = ls ↔ Cuts history ls) ∧
      ∀ ls, ls.flatMap (·.snapshots) = history → (∀ l ∈ ls, Residency l) →
        ∃ groups : List (List Lifetime), groups.flatten = ls ∧
          groups.map (·.flatMap (·.snapshots)) = (split history).map (·.snapshots) :=
  ⟨fun _ => split_eq_iff, fun _ => exists_groups⟩

/-- Three snapshots, the last one after an eviction, and the finest way to cut them. -/
theorem split_coarsest_evicted :
    let a : UsageRecord := ⟨"0x01", ⟨0, 0⟩, ⟨0, 0⟩, ⟨400, 4000, 5000, 7⟩, ⟨100, 0⟩⟩
    let b : UsageRecord := ⟨"0x01", ⟨0, 0⟩, ⟨90, 0⟩, ⟨500, 5000, 5000, 7⟩, ⟨200, 0⟩⟩
    let c : UsageRecord := ⟨"0x01", ⟨250, 0⟩, ⟨260, 0⟩, ⟨510, 90, 5100, 7⟩, ⟨300, 0⟩⟩
    split [a, b, c] = [⟨"0x01", [a, b]⟩, ⟨"0x01", [c]⟩] ∧
      ∃ groups : List (List Lifetime),
        groups.flatten = [⟨"0x01", [a]⟩, ⟨"0x01", [b]⟩, ⟨"0x01", [c]⟩] ∧
          groups.map (·.flatMap (·.snapshots)) = [[a, b], [c]] := by
  intro a b c
  obtain ⟨-, hfiner⟩ := split_coarsest [a, b, c]
  have hsplit : split [a, b, c] = [⟨"0x01", [a, b]⟩, ⟨"0x01", [c]⟩] := by decide
  refine ⟨hsplit, ?_⟩
  have hgroups := hfiner [⟨"0x01", [a]⟩, ⟨"0x01", [b]⟩, ⟨"0x01", [c]⟩] rfl (by
    simp only [List.forall_mem_cons, List.not_mem_nil, false_imp_iff, implies_true, and_true]
    exact ⟨residency_singleton a, residency_singleton b, residency_singleton c⟩)
  rwa [hsplit] at hgroups

end Lifetime
end FleetProfile
