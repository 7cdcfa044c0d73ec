import FleetProfile.Config.Validation
import FleetProfile.Proofs.Chain
import Mathlib.Data.List.Nodup

/-! What a configuration that passed its checks has. -/
namespace FleetProfile.Config

/-- Checks go on where one does not refuse. -/
theorem refuse_if_eq_ok {p : Prop} [Decidable p] {detail : String}
    {rest : Except Error Unit} :
    (if p then refuse detail >>= fun _ => rest else rest) = .ok () ↔ ¬ p ∧ rest = .ok () := by
  by_cases hp : p <;> simp [hp, refuse, bind_eq_ok]

theorem nodup_of_checkSources {seen : List String} {sources : List SourceConfig}
    (h : checkSources seen sources = .ok ()) :
    (sources.map (·.name)).Nodup ∧ ∀ x ∈ sources, x.name ∉ seen := by
  induction sources generalizing seen with
  | nil => exact ⟨.nil, by simp⟩
  | cons x sources ih =>
    simp only [checkSources, bind_eq_ok, refuse_if_eq_ok] at h
    obtain ⟨_, -, hx, _, -, hrest⟩ := h
    obtain ⟨hnodup, hnew⟩ := ih hrest
    refine ⟨List.nodup_cons.2 ⟨fun hmem => ?_, hnodup⟩, List.forall_mem_cons.2 ⟨hx, ?_⟩⟩
    · obtain ⟨y, hy, hname⟩ := List.mem_map.1 hmem
      exact hnew y hy (hname ▸ List.mem_cons_self)
    · exact fun y hy hmem => hnew y hy (List.mem_cons_of_mem _ hmem)

/-- A configuration that is valid names every source once. -/
theorem nodup_of_validate {c : Config} (h : c.validate = .ok ()) :
    (c.sources.map (·.name)).Nodup := by
  simp only [validate, bind_eq_ok, refuse_if_eq_ok] at h
  obtain ⟨_, -, -, -, -, -, -, hsources⟩ := h
  exact (nodup_of_checkSources hsources).1

theorem sources_ne_nil_of_validate {c : Config} (h : c.validate = .ok ()) : c.sources ≠ [] := by
  simp only [validate, bind_eq_ok, refuse_if_eq_ok] at h
  obtain ⟨_, -, -, -, -, -, hne, -⟩ := h
  exact hne

end FleetProfile.Config
