import FleetProfile.Connector.Export
import FleetProfile.Proofs.Chain
import FleetProfile.Proofs.Lists
import FleetProfile.Proofs.ReadColumns

/-! Names of columns whatever the case of their letters. As long as no two names of a row differ in
case only, a look-up does not depend on how they are spelled or in which order they come, and what
a dialect does not name is not looked at. -/
namespace FleetProfile

theorem Text.eqIgnoreAsciiCase_iff {a b : String} :
    eqIgnoreAsciiCase a b = true ↔ foldAscii a = foldAscii b :=
  beq_iff_eq

/-! ### Members in the order of their keys -/

namespace Json.Members

theorem perm_insert {members : Members} {key : String} (value : Json)
    (h : key ∉ members.map Prod.fst) : (members.insert key value).Perm ((key, value) :: members) := by
  induction members with
  | nil => exact .refl _
  | cons m rest ih =>
    rw [List.map_cons, List.mem_cons, not_or] at h
    obtain ⟨hne, hrest⟩ := h
    simp only [insert, beq_iff_eq, if_neg hne]
    split
    · exact .refl _
    · exact ((ih hrest).cons m).trans (.swap _ _ _)

/-- Putting members in order keeps them all, if each has a key of its own. -/
theorem perm_sorted {members : Members} (h : (members.map Prod.fst).Nodup) :
    members.sorted.Perm members := by
  have hfold : ∀ acc : Members, ((members ++ acc).map Prod.fst).Nodup →
      (members.foldl (fun acc m => acc.insert m.1 m.2) acc).Perm (members ++ acc) := by
    clear h
    induction members with
    | nil => exact fun acc _ => .refl _
    | cons m rest ih =>
      intro acc hnodup
      have hmiddle : ((m :: rest ++ acc).map Prod.fst).Perm ((rest ++ m :: acc).map Prod.fst) :=
        List.perm_middle.symm.map _
      have hnodup' := hmiddle.nodup_iff.1 hnodup
      have hnew : m.1 ∉ acc.map Prod.fst := by
        rw [List.map_append, List.map_cons] at hnodup'
        exact (List.nodup_cons.1 (List.nodup_append.1 hnodup').2.1).1
      have hinsert := perm_insert m.2 hnew
      have hkeys : ((rest ++ acc.insert m.1 m.2).map Prod.fst).Nodup :=
        ((hinsert.append_left rest).map Prod.fst).nodup_iff.2 hnodup'
      exact (ih _ hkeys).trans ((hinsert.append_left rest).trans List.perm_middle)
  have hall := hfold [] (by rwa [List.append_nil])
  rwa [List.append_nil] at hall

end Json.Members

namespace Source.RawRow

variable {row row' : RawRow} {column : String} {rename : String → String}

/-! ### Look-ups -/

/-- No two columns have names that differ in the case of their letters only. -/
def Distinct (row : RawRow) : Prop :=
  (row.map fun m => Text.foldAscii m.1).Nodup

theorem exists_of_lookup {v : Json} (h : lookup row column = some v) :
    ∃ m ∈ row, Text.eqIgnoreAsciiCase m.1 column = true ∧ m.2 = v := by
  unfold lookup Json.Members.get? at h
  split at h
  · next v' hexact =>
    obtain ⟨m, hm, hv⟩ := Option.map_eq_some_iff.1 hexact
    have hname : m.1 = column := by simpa using List.find?_some hm
    refine ⟨m, List.mem_of_find?_eq_some hm, ?_, hv.trans (Option.some.inj h)⟩
    rw [hname, Text.eqIgnoreAsciiCase_iff]
  · obtain ⟨m, hm, hv⟩ := Option.map_eq_some_iff.1 h
    have hname := List.find?_some hm
    exact ⟨m, List.mem_of_find?_eq_some hm, hname, hv⟩

theorem exists_lookup {m : String × Json} (hm : m ∈ row)
    (hname : Text.eqIgnoreAsciiCase m.1 column = true) : ∃ v, lookup row column = some v := by
  unfold lookup
  split
  · exact ⟨_, rfl⟩
  · rw [← Option.isSome_iff_exists, Option.isSome_map, List.find?_isSome]
    exact ⟨m, hm, hname⟩

/-- A look-up finds the one column of the name, however that is spelled. -/
theorem lookup_eq_some_iff (hdistinct : Distinct row) {v : Json} :
    lookup row column = some v ↔
      ∃ m ∈ row, Text.eqIgnoreAsciiCase m.1 column = true ∧ m.2 = v := by
  refine ⟨exists_of_lookup, ?_⟩
  rintro ⟨m, hm, hname, rfl⟩
  obtain ⟨v, hv⟩ := exists_lookup hm hname
  obtain ⟨m', hm', hname', rfl⟩ := exists_of_lookup hv
  rw [Text.eqIgnoreAsciiCase_iff] at hname hname'
  have hsame : m' = m := List.inj_on_of_nodup_map hdistinct hm' hm (hname'.trans hname.symm)
  rw [hv, hsame]

/-! ### Renamed columns -/

/-- The row with its columns under other names, in the order of these. -/
def renamed (rename : String → String) (row : RawRow) : RawRow :=
  Json.Members.sorted (row.map fun m => (rename m.1, m.2))

/-- The names of a row change in the case of their letters only. -/
def Recases (rename : String → String) (row : RawRow) : Prop :=
  ∀ m ∈ row, Text.eqIgnoreAsciiCase m.1 (rename m.1) = true

theorem foldAscii_renamed (h : Recases rename row) :
    ((row.map fun m => (rename m.1, m.2)).map fun m => Text.foldAscii m.1) =
      row.map fun m => Text.foldAscii m.1 := by
  rw [List.map_map]
  refine List.map_congr_left fun m hm => ?_
  exact (Text.eqIgnoreAsciiCase_iff.1 (h m hm)).symm

theorem perm_renamed (hdistinct : Distinct row) (h : Recases rename row) :
    (renamed rename row).Perm (row.map fun m => (rename m.1, m.2)) := by
  refine Json.Members.perm_sorted (List.Nodup.of_map Text.foldAscii ?_)
  rw [List.map_map]
  exact (foldAscii_renamed h).symm ▸ hdistinct

theorem distinct_renamed (hdistinct : Distinct row) (h : Recases rename row) :
    Distinct (renamed rename row) := by
  rw [Distinct, ((perm_renamed hdistinct h).map _).nodup_iff, foldAscii_renamed h]
  exact hdistinct

/-- A row answers alike under names that differ in case only, although they come in another
order. -/
theorem lookup_renamed (hdistinct : Distinct row) (h : Recases rename row) (column : String) :
    lookup (renamed rename row) column = lookup row column := by
  ext v
  rw [lookup_eq_some_iff hdistinct, lookup_eq_some_iff (distinct_renamed hdistinct h)]
  simp only [(perm_renamed hdistinct h).mem_iff, List.mem_map, exists_exists_and_eq_and]
  refine exists_congr fun m => and_congr_right fun hm => and_congr_left' ?_
  have hname := Text.eqIgnoreAsciiCase_iff.1 (h m hm)
  rw [Text.eqIgnoreAsciiCase_iff, Text.eqIgnoreAsciiCase_iff, hname]

theorem get?_renamed (hdistinct : Distinct row) (h : Recases rename row) (column : String) :
    get? (renamed rename row) column = get? row column := by
  rw [get?, get?, lookup_renamed hdistinct h]

/-! ### Columns that nobody asks for -/

/-- A look-up goes through the columns of its name only. -/
theorem lookup_filter {p : String × Json → Bool}
    (hp : ∀ m, Text.eqIgnoreAsciiCase m.1 column = true → p m = true) :
    lookup (row.filter p) column = lookup row column := by
  have hexact : ∀ m : String × Json, (m.1 == column) = true → p m = true := by
    intro m hm
    refine hp m ?_
    rw [beq_iff_eq.1 hm, Text.eqIgnoreAsciiCase_iff]
  have hfind : ∀ q : String × Json → Bool, (∀ m, q m = true → p m = true) →
      (row.filter p).find? q = row.find? q := by
    intro q hq
    rw [List.find?_filter]
    congr 1
    funext m
    cases hm : q m with
    | false => simp
    | true => simp [hq m hm]
  rw [lookup, lookup, Json.Members.get?, Json.Members.get?, hfind _ hexact, hfind _ hp]

end Source.RawRow

/-! ### Dialects -/

namespace Source

open RawRow
open Connector

/-- Whether a dialect names a column, in either case. -/
def Kind.names (kind : Kind) (table : Table) (m : String × Json) : Bool :=
  (kind.columns table).any fun column => Text.eqIgnoreAsciiCase m.1 column

namespace Dialect

variable {kind : Kind} {ctx : Context} {table : Table} {row row' : RawRow}

theorem normalize_filter :
    normalize kind ctx table (row.filter (kind.names table)) = normalize kind ctx table row := by
  refine normalize_eq_of_agreeOn fun column hcolumn => ?_
  rw [get?, get?, lookup_filter]
  intro m hm
  exact List.any_eq_true.2 ⟨column, hcolumn, hm⟩

end Dialect

end Source

theorem Connector.Export.mayBeNew_congr {row row' : Source.RawRow} (since : Time.Instant)
    (h : ∀ column, Source.RawRow.get? row' column = Source.RawRow.get? row column) :
    mayBeNew since row' = mayBeNew since row := by
  simp only [mayBeNew, lastRun?, h]

namespace Source.Dialect

open RawRow
open Connector

/-- Rows are read alike under names of columns that differ in case only: the same record or the
same rejection comes out, and the same rows are new. Columns that the dialect does not name make no
difference. -/
theorem normalize_renamed (kind : Kind) (ctx : Context) (table : Table) :
    (∀ row rename, Distinct row → Recases rename row →
      normalize kind ctx table (renamed rename row) = normalize kind ctx table row ∧
        ∀ since, Export.mayBeNew since (renamed rename row) = Export.mayBeNew since row) ∧
    ∀ row row' : RawRow, row'.filter (kind.names table) = row.filter (kind.names table) →
      normalize kind ctx table row' = normalize kind ctx table row := by
  refine ⟨fun row rename hdistinct h => ⟨?_, fun since => ?_⟩, fun row row' h => ?_⟩
  · exact normalize_eq_of_agreeOn fun column _ => get?_renamed hdistinct h column
  · exact Export.mayBeNew_congr since (get?_renamed hdistinct h)
  · calc
      normalize kind ctx table row' = normalize kind ctx table (row'.filter (kind.names table)) :=
        normalize_filter.symm
      _ = normalize kind ctx table (row.filter (kind.names table)) := by rw [h]
      _ = normalize kind ctx table row := normalize_filter

/-- A database whose columns come in small letters, once with a column more. -/
theorem normalize_renamed_upper :
    let upper (name : String) : String := String.ofList (name.toList.map Char.toUpper)
    let row : RawRow := [("Created", .string "2021-09-14 03:22:10.512 -0700"),
      ("database_id", .int 12), ("database_name", .string "ANALYTICS")]
    let ctx : Context := ⟨⟨1717243200, 0⟩, 0⟩
    Distinct row ∧ Recases upper row ∧ ∃ r, normalize .snowflake ctx .inventory row = .ok r ∧
      normalize .snowflake ctx .inventory (renamed upper row) = .ok r ∧
      normalize .snowflake ctx .inventory (row ++ [("owner", .string "SYS")]) = .ok r := by
  intro upper row ctx
  obtain ⟨hcase, hunnamed⟩ := normalize_renamed .snowflake ctx .inventory
  have hdistinct : Distinct row := by
    unfold Distinct
    decide
  have hrecases : Recases upper row := by
    unfold Recases
    decide
  have hok : (normalize .snowflake ctx .inventory row).isOk = true := by decide +kernel
  obtain ⟨r, hr⟩ := isOk_iff.1 hok
  have howner : Kind.snowflake.names .inventory ("owner", .string "SYS") = false := by
    decide +kernel
  refine ⟨hdistinct, hrecases, r, hr, ?_, ?_⟩
  · exact (hcase row upper hdistinct hrecases).1.trans hr
  · exact (hunnamed row _ (filter_concat_of_neg howner)).trans hr

end Source.Dialect

end FleetProfile
