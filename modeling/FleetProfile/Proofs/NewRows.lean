import FleetProfile.Connector.Export
import FleetProfile.Proofs.AcceptedRows
import FleetProfile.Proofs.Instant

/-! The rows that a read of new statements leaves out. Two readers look for the time in a row: the
connector in a fixed order of columns, the normalizer in the column of the dialect. -/
namespace FleetProfile
open Source (Context Kind RawRow)
open Source.RawRow (requiredTimestamp requiredTimestamp_eq_ok)
open Time (Instant Layout.strict? Layout.parse?)

/-- A text that carries its own offset strictly is read as such in any layout. -/
theorem Time.Layout.parse?_of_strict {text : List Char} {t : Instant}
    (h : strict? (Text.trim text) = some t) (offset : Int) :
    parse? text offset = some t.canonical := by
  unfold parse?
  simp only [h]
  rfl

theorem Time.Instant.canonical_lt_of_lt {t t' : Instant} (h : t < t') : t.canonical < t' := by
  have hseconds := t.canonical_seconds
  have hnanos := t.canonical_nanos_le
  change _ < _ ∨ _ at h
  change _ < _ ∨ _
  omega

namespace Connector.Export

variable {kind : Kind} {ctx : Context} {row : RawRow} {since : Instant}

theorem mayBeNew_eq_false :
    mayBeNew since row = false ↔ ∃ t, lastRun? row = some t ∧ t < since := by
  unfold mayBeNew
  cases lastRun? row with
  | none => simp
  | some t =>
    simp only [decide_eq_false_iff_not, Option.some.injEq, exists_eq_left']
    exact not_not

/-- A row with a text in the first of the columns is judged by it. -/
theorem lastRun?_of_first {text : String}
    (h : RawRow.get? row "last_execution_time" = some (.string text)) :
    lastRun? row = Layout.strict? (Text.trim text.toList) := by
  simp only [lastRun?, lastRunColumns, List.findSome?_cons, h, Option.bind_some, Json.asString?,
    Option.bind_eq_bind]

/-- A row without one is judged by the other column. -/
theorem lastRun?_of_second {text : String}
    (hfirst : ∀ text, RawRow.get? row "last_execution_time" ≠ some (.string text))
    (h : RawRow.get? row "LAST_START_TIME" = some (.string text)) :
    lastRun? row = Layout.strict? (Text.trim text.toList) := by
  have hnone : (RawRow.get? row "last_execution_time").bind Json.asString? = none := by
    cases hv : RawRow.get? row "last_execution_time" with
    | none => rfl
    | some v =>
      cases v with
      | string text => exact absurd hv (hfirst text)
      | _ => rfl
  simp only [lastRun?, lastRunColumns, List.findSome?_cons, hnone, h, Option.bind_some,
    Json.asString?, Option.bind_eq_bind]

/-- An earlier time stands in a column that is none of the dialect, but that the connector looks at
first. -/
def Overshadowed (kind : Kind) (since : Instant) (row : RawRow) : Prop :=
  kind = .snowflake ∧ ∃ text t, RawRow.get? row "last_execution_time" = some (.string text) ∧
    Layout.strict? (Text.trim text.toList) = some t ∧ t < since

/-- Where both readers look at the same text, they agree up to the microsecond. -/
theorem lt_of_lastRun? {text : String} {t : Instant} {offset : Int}
    (hcolumn : Source.RawRow.get? row kind.lastRunColumn = some (.string text))
    (hstrict : Layout.strict? (Text.trim text.toList) = some t) (hlt : t < since)
    {read : Instant} (hread : requiredTimestamp row kind.lastRunColumn offset = .ok read) :
    read < since := by
  obtain ⟨text', htext', hparse⟩ := requiredTimestamp_eq_ok.1 hread
  rw [hcolumn, Option.some.injEq, Json.string.injEq] at htext'
  subst htext'
  rw [Time.Layout.parse?_of_strict hstrict, Option.some.injEq] at hparse
  rw [← hparse]
  exact Time.Instant.canonical_lt_of_lt hlt

/-- A row that is left out and taken by the normalizer is older, or its time is overshadowed. -/
theorem lt_or_overshadowed (hleft : mayBeNew since row = false) {r : UsageRecord}
    (hr : Source.Dialect.usage kind ctx row = .ok r) :
    r.lastExecutionTime < since ∨ Overshadowed kind since row := by
  obtain ⟨t, hlast, hlt⟩ := mayBeNew_eq_false.1 hleft
  obtain ⟨offset, hread⟩ := (Source.Dialect.reads_of_usage hr).lastRun
  obtain ⟨text, htext, -⟩ := requiredTimestamp_eq_ok.1 hread
  by_cases hfirst : ∃ text, RawRow.get? row "last_execution_time" = some (.string text)
  · obtain ⟨first, hfirst⟩ := hfirst
    rw [lastRun?_of_first hfirst] at hlast
    cases kind with
    | snowflake => exact .inr ⟨rfl, first, t, hfirst, hlast, hlt⟩
    | sqlServer => exact .inl (lt_of_lastRun? hfirst hlast hlt hread)
    | synapse => exact .inl (lt_of_lastRun? hfirst hlast hlt hread)
  · have hnone : ∀ text, RawRow.get? row "last_execution_time" ≠ some (.string text) :=
      fun text htext => hfirst ⟨text, htext⟩
    cases kind with
    | snowflake =>
      rw [lastRun?_of_second hnone htext] at hlast
      exact .inl (lt_of_lastRun? htext hlast hlt hread)
    | sqlServer => exact absurd htext (hnone text)
    | synapse => exact absurd htext (hnone text)

/-- Overshadowed rows are left out, whatever the column of the dialect says. -/
theorem mayBeNew_of_overshadowed (h : Overshadowed kind since row) :
    mayBeNew since row = false := by
  obtain ⟨-, text, t, htext, hstrict, hlt⟩ := h
  apply mayBeNew_eq_false.2
  refine ⟨t, ?_, hlt⟩
  rw [lastRun?_of_first htext, hstrict]

theorem not_mem_newRows {rows : List RawRow} (hrow : row ∈ rows) :
    row ∉ newRows (some since) rows ↔ mayBeNew since row = false := by
  unfold newRows
  rw [List.mem_filter, not_and, Bool.not_eq_true]
  exact ⟨fun h => h hrow, fun h _ => h⟩

/-- Of the rows of a file, a read of what is new since a time leaves out none that the normalizer
takes as new, but for those whose time is overshadowed; and these it leaves out always. -/
theorem left_out_of_statements (tree : Files.Tree) (base : List String) (root : Files.Path)
    (source : String) (since : Instant) (kind : Kind) (ctx : Context) {rows : List RawRow}
    (hrows : statements tree base root source none = .ok rows) :
    ∃ kept, statements tree base root source (some since) = .ok kept ∧ kept.Sublist rows ∧
      ∀ row ∈ rows,
        (row ∉ kept → ∀ r, Source.Dialect.usage kind ctx row = .ok r →
          r.lastExecutionTime < since ∨ Overshadowed kind since row) ∧
        (Overshadowed kind since row → row ∉ kept) := by
  obtain ⟨all, hread, hall⟩ := map_eq_ok.1 hrows
  have hsame : all = rows := hall
  subst hsame
  refine ⟨newRows (some since) all, ?_, List.filter_sublist, ?_⟩
  · exact map_eq_ok.2 ⟨all, hread, rfl⟩
  intro row hrow
  rw [not_mem_newRows hrow]
  exact ⟨fun hleft r hr => lt_or_overshadowed hleft hr, mayBeNew_of_overshadowed⟩

/-- The one row of a file is left out, with reason. -/
theorem left_out_of_statements_old :
    let tree : Files.Tree := [(["dumps", "east", "query_stats.json"],
      .ofText "[\x7b\"last_execution_time\": \"2024-05-01T00:00:00Z\"\x7d]")]
    let since : Instant := ⟨1714608000, 0⟩
    ∃ row, statements tree [] "dumps" "east" none = .ok [row] ∧
      statements tree [] "dumps" "east" (some since) = .ok [] ∧
      ∀ ctx r, Source.Dialect.usage .sqlServer ctx row = .ok r → r.lastExecutionTime < since := by
  intro tree since
  have hone : (statements tree [] "dumps" "east" none).map List.length = .ok 1 := by
    decide +kernel
  have hnone : (statements tree [] "dumps" "east" (some since)).map List.length = .ok 0 := by
    decide +kernel
  obtain ⟨rows, hrows, hlength⟩ := map_eq_ok.1 hone
  obtain ⟨row, rfl⟩ := List.length_eq_one_iff.1 hlength
  obtain ⟨new, hnew, hlength⟩ := map_eq_ok.1 hnone
  obtain rfl := List.length_eq_zero_iff.1 hlength
  refine ⟨row, hrows, hnew, fun ctx r hr => ?_⟩
  obtain ⟨kept, hkept, -, hleft⟩ :=
    left_out_of_statements tree [] "dumps" "east" since .sqlServer ctx hrows
  obtain rfl : [] = kept := Except.ok.inj (hnew.symm.trans hkept)
  rcases (hleft row List.mem_cons_self).1 List.not_mem_nil r hr with hlt | ⟨hkind, -⟩
  · exact hlt
  · exact absurd hkind (by decide)

/-- A statement that ran after the time is left out for a column that its dialect does not have. -/
theorem newRows_overshadowed :
    let row : RawRow := [("EXECUTION_COUNT", .int 1),
      ("FIRST_START_TIME", .string "2024-05-01T00:00:00Z"),
      ("LAST_START_TIME", .string "2024-05-03T00:00:00Z"), ("QUERY_HASH", .string "a1"),
      ("ROWS_PRODUCED", .int 4), ("TOTAL_ELAPSED_TIME", .int 3), ("TOTAL_EXECUTION_TIME", .int 2),
      ("last_execution_time", .string "2024-05-01T00:00:00Z")]
    let since : Instant := ⟨1714608000, 0⟩
    row ∉ newRows (some since) [row] ∧
      ∃ r, Source.Dialect.usage .snowflake (.new ⟨1714700000, 0⟩ 0) row = .ok r ∧
        ¬ r.lastExecutionTime < since := by
  intro row since
  constructor
  · rw [not_mem_newRows List.mem_cons_self]
    decide +kernel
  · have hlast : (Source.Dialect.usage .snowflake (.new ⟨1714700000, 0⟩ 0) row).map
        (·.lastExecutionTime) = .ok ⟨1714694400, 0⟩ := by decide +kernel
    obtain ⟨r, hr, hlast⟩ := map_eq_ok.1 hlast
    refine ⟨r, hr, ?_⟩
    rw [hlast]
    decide

end Connector.Export

end FleetProfile
