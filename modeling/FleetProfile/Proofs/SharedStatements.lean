import FleetProfile.Proofs.Evictions

/-! Statements that several sources report. A history takes all snapshots of a statement together,
so it is cut where one source reports less than another did before. Where the counters of each
source only grow, it is cut nowhere else. -/
namespace FleetProfile
open Store (BatchWrite reportsIn)
open Lifetime (split continues length_splitBy_append length_splitBy_map)
open Time (Instant)

/-- Of two ways to cut a list, the one that keeps more neighbours together makes fewer parts. -/
theorem length_splitBy_le {α : Type} {p q : α → α → Bool} {l : List α}
    (h : l.IsChain fun a b => p a b = true → q a b = true) :
    (l.splitBy q).length ≤ (l.splitBy p).length := by
  induction l using List.reverseRecOn with
  | nil => exact Nat.le_refl _
  | append_singleton l x ih =>
    obtain ⟨hinit, -, hlast⟩ := List.isChain_append.1 h
    have hle := ih hinit
    rw [length_splitBy_append, length_splitBy_append]
    cases hend : l.getLast? with
    | none =>
      simp only [Option.any_none, Bool.false_eq_true, if_false]
      omega
    | some a =>
      have hgoes : p a x = true → q a x = true := hlast a hend x rfl
      simp only [Option.any_some]
      split_ifs with hq hp hp
      · exact hle
      · omega
      · exact absurd (hgoes hp) hq
      · omega

/-- Where equal neighbours go together and no value comes back, there is one part for a value. -/
theorem length_splitBy_le_card {α : Type} [DecidableEq α] {l : List α}
    (h : ((l.splitBy (· = ·)).map List.head?).Nodup) :
    (l.splitBy (· = ·)).length ≤ l.toFinset.card := by
  have hsubset : ((l.splitBy (· = ·)).map List.head?).toFinset ⊆ l.toFinset.image some := by
    intro first hfirst
    obtain ⟨part, hpart, rfl⟩ := List.mem_map.1 (List.mem_toFinset.1 hfirst)
    obtain ⟨a, rest, rfl⟩ := List.exists_cons_of_ne_nil (List.ne_nil_of_mem_splitBy hpart)
    have ha : a ∈ (l.splitBy (· = ·)).flatten :=
      List.mem_flatten.2 ⟨_, hpart, List.mem_cons_self⟩
    rw [List.flatten_splitBy] at ha
    exact Finset.mem_image_of_mem some (List.mem_toFinset.2 ha)
  have hcard := Finset.card_le_card hsubset
  rw [List.toFinset_card_of_nodup h, List.length_map] at hcard
  exact hcard.trans Finset.card_image_le

namespace Store

/-- The sources that reported a statement in succeeded runs, one after the other. -/
def reporters (s : Store) (handle : String) : List String :=
  (s.attribution.filter fun a => a.handle = handle ∧ s.Succeeded (a.pipeline, a.date)).map
    (·.source)

/-- The same sources, parted where one gives way to another. -/
def turns (s : Store) (handle : String) : List (List String) :=
  (s.reporters handle).splitBy (· = ·)

/-- The reports of a statement in batches, each with the source of its batch. -/
def sourcedReports (bs : List BatchWrite) (handle : String) : List (String × UsageRecord) :=
  bs.flatMap fun b => (b.rows.statements.filter fun r => r.handle = handle).map (b.source, ·)

theorem map_snd_sourcedReports (bs : List BatchWrite) (handle : String) :
    (sourcedReports bs handle).map Prod.snd = reportsIn bs handle := by
  rw [sourcedReports, List.map_flatMap]
  simp only [List.map_map]
  exact List.flatMap_congr fun b _ => List.map_id _

end Store

namespace History

variable {h : History} {handle : String}

/-- What a source reports of a statement in succeeded runs never goes down. -/
def GrowsBySource (h : History) (handle : String) : Prop :=
  h.succeededLoads.Pairwise fun a b => a.source = b.source →
    ∀ r ∈ a.rows.statements, ∀ r' ∈ b.rows.statements, r.handle = handle → r'.handle = handle →
      Counters.Continues r.counters r'.counters

instance (h : History) (handle : String) : Decidable (h.GrowsBySource handle) :=
  inferInstanceAs (Decidable (List.Pairwise _ _))

theorem succeededLoads_eq : h.succeededLoads =
    (h.written.filter fun b => h.store.Succeeded b.run.key).filter
      fun b => b.rows.table = .usage := by
  rw [List.filter_filter, succeededLoads]
  exact List.filter_congr fun b _ => Bool.decide_and _ _

/-- The attribution names the source of each report. -/
theorem Logged.reporters_eq (hlogged : h.Logged) (handle : String) :
    h.store.reporters handle = (Store.sourcedReports h.succeededLoads handle).map Prod.fst := by
  have hother : ∀ b ∈ h.written.filter fun b => h.store.Succeeded b.run.key,
      decide (b.rows.table = .usage) = false →
        ((b.rows.statements.filter fun r => r.handle = handle).map (b.source, ·)) = [] := by
    intro b _ htable
    rw [TableRows.statements_eq_nil (of_decide_eq_false htable), List.filter_nil, List.map_nil]
  have hsucceeded : h.store.attribution.filter (fun a => h.store.Succeeded (a.pipeline, a.date)) =
      (h.written.filter fun b => h.store.Succeeded b.run.key).flatMap BatchWrite.attributions := by
    rw [hlogged.attribution]
    exact filter_flatMap_of_forall fun b _ => List.forall_mem_map.2 fun r _ => rfl
  have hsplit : h.store.attribution.filter (fun a => a.handle = handle ∧
      h.store.Succeeded (a.pipeline, a.date)) =
      (h.store.attribution.filter fun a => h.store.Succeeded (a.pipeline, a.date)).filter
        fun a => a.handle = handle := by
    rw [List.filter_filter]
    exact List.filter_congr fun a _ => Bool.decide_and _ _
  rw [Store.reporters, hsplit, hsucceeded, succeededLoads_eq, Store.sourcedReports,
    flatMap_filter_eq hother, List.filter_flatMap, List.map_flatMap, List.map_flatMap]
  refine List.flatMap_congr fun b _ => ?_
  rw [BatchWrite.attributions, List.filter_map, List.map_map, List.map_map]
  rfl

theorem pairwise_sourcedReports (hc : h.Consistent) (grows : h.GrowsBySource handle) :
    (Store.sourcedReports h.succeededLoads handle).Pairwise fun x y =>
      x.1 = y.1 → continues x.2 y.2 = true := by
  rw [Store.sourcedReports, List.pairwise_flatMap]
  refine ⟨fun b hb => ?_, grows.imp fun {a b} hgrows => ?_⟩
  · -- One batch reports a statement once.
    have hnodup := (hc.checked.written b (mem_succeededLoads.1 hb).1).statements_nodup
    refine List.pairwise_map.2 (((List.pairwise_map.1 hnodup).sublist
      List.filter_sublist).imp_of_mem fun {r r'} hr hr' hne => ?_)
    have hhandle := of_decide_eq_true (List.mem_filter.1 hr).2
    have hhandle' := of_decide_eq_true (List.mem_filter.1 hr').2
    exact absurd (hhandle.trans hhandle'.symm) hne
  · simp only [List.mem_map, List.mem_filter, decide_eq_true_eq]
    rintro _ ⟨r, ⟨hr, hhandle⟩, rfl⟩ _ ⟨r', ⟨hr', hhandle'⟩, rfl⟩ hsource
    have hcontinues := hgrows hsource r hr r' hr' hhandle hhandle'
    simp only [continues, decide_eq_true_eq]
    exact ⟨hhandle.trans hhandle'.symm, hcontinues⟩

/-- The succeeded loads of a single pipeline are in order of their dates. -/
theorem Consistent.ordered_of_single (hc : h.Consistent) {pipeline : String}
    (single : ∀ r ∈ h.opened, r.pipeline = pipeline) :
    h.succeededLoads.Pairwise fun a b => a.run.date.toMicros ≤ b.run.date.toMicros := by
  refine (hc.ordered.sublist List.filter_sublist).imp_of_mem fun {a b} ha hb hle => hle ?_
  exact (hc.pipeline_of_written single (mem_succeededLoads.1 ha).1).trans
    (hc.pipeline_of_written single (mem_succeededLoads.1 hb).1).symm

/-- A history is cut at most where one source gives way to another. -/
theorem Consistent.length_lifetimes_le (hc : h.Consistent)
    (ordered : h.succeededLoads.Pairwise fun a b => a.run.date.toMicros ≤ b.run.date.toMicros)
    (grows : h.GrowsBySource handle) :
    (h.store.lifetimes handle).length ≤ (h.store.turns handle).length := by
  have hchain := (pairwise_sourcedReports hc grows).isChain
  have hle := length_splitBy_le (p := fun x y => decide (x.1 = y.1))
    (q := fun x y => continues x.2 y.2)
    (hchain.imp fun x y hcontinues hsource => hcontinues (of_decide_eq_true hsource))
  rw [hc.length_lifetimes ordered, ← Store.map_snd_sourcedReports, Store.turns,
    hc.logged.reporters_eq, length_splitBy_map, split, List.length_map, length_splitBy_map]
  exact hle

/-- Where the counters of each source only grow, a statement of a single pipeline has no more
lifetimes than its sources take turns; so if none reports it again after another did, it has no more
lifetimes than sources. -/
theorem length_lifetimes_le_turns (constraints : Constraints) (calls : List Call)
    (hcalls : ∀ c ∈ calls, c.Timely ∧ c.ByLoad) (pipeline handle : String)
    (single : ∀ r ∈ (after constraints calls).opened, r.pipeline = pipeline)
    (grows : (after constraints calls).GrowsBySource handle) :
    let s := (after constraints calls).store
    (s.lifetimes handle).length ≤ (s.turns handle).length ∧
      (((s.turns handle).map List.head?).Nodup →
        (s.lifetimes handle).length ≤ (s.reporters handle).toFinset.card) := by
  intro s
  have hc : (after constraints calls).Consistent := consistent_after constraints hcalls
  have hturns := hc.length_lifetimes_le (hc.ordered_of_single single) grows
  exact ⟨hturns, fun hnodup => hturns.trans (length_splitBy_le_card hnodup)⟩

/-- A run in which one source reports one statement, and which then succeeds. -/
def sourceRun (source : String) (date : Instant) (count : Int) : List Call :=
  let run : Run := ⟨"nightly", date, "1.0"⟩
  [.openRun ⟨run.pipeline, run.version, "test:1", date, ⟨0, 0⟩⟩,
    .transition run .pending .running none date,
    .load 100 (fun _ => false) source
      ⟨.usage [⟨"A", ⟨0, 0⟩, ⟨0, 0⟩, ⟨count, count, count, count⟩, date⟩], 0⟩ run date,
    .transition run .running .succeeded none date]

theorem timely_sourceRun {date : Instant} (fits : date.fitsNanos = true) (source : String)
    (count : Int) : ∀ c ∈ sourceRun source date count, c.Timely ∧ c.ByLoad := by
  simp [sourceRun, Call.Timely, Call.ByLoad, fits]

/-- A source that takes over from another leaves its statement with two lifetimes. -/
theorem length_lifetimes_le_turns_moved :
    let calls := sourceRun "east" ⟨1714521600, 0⟩ 900 ++ sourceRun "east" ⟨1714525200, 0⟩ 901 ++
      sourceRun "west" ⟨1714528800, 0⟩ 3 ++ sourceRun "west" ⟨1714532400, 0⟩ 4
    ((after {} calls).store.lifetimes "A").length ≤ 2 := by
  intro calls
  have hcalls : ∀ c ∈ calls, c.Timely ∧ c.ByLoad := by
    refine List.forall_mem_append.2 ⟨List.forall_mem_append.2 ⟨List.forall_mem_append.2 ⟨?_, ?_⟩,
      ?_⟩, ?_⟩ <;> exact timely_sourceRun (by decide) _ _
  obtain ⟨-, hcard⟩ := length_lifetimes_le_turns {} calls hcalls "nightly" "A" (by decide +kernel)
    (by decide +kernel)
  exact (hcard (by decide +kernel)).trans (by decide +kernel)

/-- Two sources that report in turn, and whose counters only grow, leave three lifetimes. -/
theorem lifetimes_of_alternating_sources :
    let calls := sourceRun "east" ⟨1714521600, 0⟩ 900 ++ sourceRun "west" ⟨1714525200, 0⟩ 3 ++
      sourceRun "east" ⟨1714528800, 0⟩ 901 ++ sourceRun "west" ⟨1714532400, 0⟩ 4
    let h := after {} calls
    (∀ c ∈ calls, c.Timely ∧ c.ByLoad) ∧ (∀ r ∈ h.opened, r.pipeline = "nightly") ∧
      h.GrowsBySource "A" ∧ (h.store.reporters "A").toFinset.card = 2 ∧
      (h.store.lifetimes "A").length = 3 := by
  intro calls h
  have hcalls : ∀ c ∈ calls, c.Timely ∧ c.ByLoad := by
    refine List.forall_mem_append.2 ⟨List.forall_mem_append.2 ⟨List.forall_mem_append.2 ⟨?_, ?_⟩,
      ?_⟩, ?_⟩ <;> exact timely_sourceRun (by decide) _ _
  have single : ∀ r ∈ h.opened, r.pipeline = "nightly" := by decide +kernel
  have hc : h.Consistent := consistent_after {} hcalls
  refine ⟨hcalls, single, by decide +kernel, by decide +kernel, ?_⟩
  rw [hc.length_lifetimes (hc.ordered_of_single single)]
  decide +kernel

end History

end FleetProfile
