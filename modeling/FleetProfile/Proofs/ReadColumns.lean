import FleetProfile.Source.Dialect

/-! What the readers of a row depend on: the values of the columns that they name. Rows that agree
on the columns of a dialect are the same to it, whatever else they hold. -/
namespace FleetProfile.Source
open RawRow

/-- Two rows have the same values in some columns. -/
def RawRow.AgreeOn (p : String → Prop) (row row' : RawRow) : Prop :=
  ∀ column, p column → get? row' column = get? row column

/-- The columns that a dialect names, for one of the two tables that sources fill. -/
def Kind.columns : Kind → Table → List String
  | .snowflake, .usage => ["QUERY_HASH", "TOTAL_EXECUTION_TIME", "TOTAL_ELAPSED_TIME",
      "FIRST_START_TIME", "LAST_START_TIME", "EXECUTION_COUNT", "ROWS_PRODUCED"]
  | .snowflake, _ => ["DATABASE_ID", "DATABASE_NAME", "CREATED"]
  | _, .usage => ["sql_handle", "creation_time", "last_execution_time", "execution_count",
      "total_worker_time", "total_elapsed_time", "total_rows"]
  | _, _ => ["database_id", "name", "collation_name", "create_date"]

namespace RawRow.AgreeOn

variable {p : String → Prop} {row row' : RawRow} {column : String} (h : AgreeOn p row row')
  (hcolumn : p column)

include h hcolumn

theorem required_eq : required row' column = required row column := by
  rw [required, required, h column hcolumn]

theorem requiredText_eq : requiredText row' column = requiredText row column := by
  rw [requiredText, requiredText, h.required_eq hcolumn]

theorem optionalText_eq : optionalText row' column = optionalText row column := by
  rw [optionalText, optionalText, h column hcolumn]

theorem requiredInt64_eq : requiredInt64 row' column = requiredInt64 row column := by
  rw [requiredInt64, requiredInt64, h.required_eq hcolumn]

theorem requiredInt32_eq : requiredInt32 row' column = requiredInt32 row column := by
  rw [requiredInt32, requiredInt32, h.requiredInt64_eq hcolumn]

theorem requiredCounter_eq : requiredCounter row' column = requiredCounter row column := by
  rw [requiredCounter, requiredCounter, h.requiredInt64_eq hcolumn]

theorem requiredTimestamp_eq (offset : Int) :
    requiredTimestamp row' column offset = requiredTimestamp row column offset := by
  rw [requiredTimestamp, requiredTimestamp, h.required_eq hcolumn]

end RawRow.AgreeOn

namespace Dialect

variable {kind : Kind} {ctx : Context} {row row' : RawRow}

theorem inventory_eq_of_agreeOn {table : Table} (htable : table ≠ .usage)
    (h : AgreeOn (· ∈ kind.columns table) row row') :
    inventory kind ctx row' = inventory kind ctx row := by
  cases table with
  | usage => exact absurd rfl htable
  | inventory | metadata =>
    cases kind with
    | sqlServer | synapse | snowflake =>
      simp (disch := decide) only [inventory, catalogue, h.requiredInt32_eq, h.requiredText_eq,
        h.optionalText_eq, h.requiredTimestamp_eq]

theorem usage_eq_of_agreeOn (h : AgreeOn (· ∈ kind.columns .usage) row row') :
    usage kind ctx row' = usage kind ctx row := by
  cases kind with
  | sqlServer | synapse | snowflake =>
    simp (disch := decide) only [usage, statistics, sqlServerHandle, synapseHandle,
      snowflakeHandle, h.required_eq, h.requiredText_eq, h.requiredTimestamp_eq,
      h.requiredCounter_eq]

/-- A dialect makes the same of rows that agree on the columns that it names. -/
theorem normalize_eq_of_agreeOn {table : Table} (h : AgreeOn (· ∈ kind.columns table) row row') :
    normalize kind ctx table row' = normalize kind ctx table row := by
  cases table with
  | usage => exact congrArg (Except.map Record.usage) (usage_eq_of_agreeOn h)
  | inventory | metadata =>
    exact congrArg (Except.map Record.inventory) (inventory_eq_of_agreeOn (by decide) h)

end Dialect

end FleetProfile.Source
