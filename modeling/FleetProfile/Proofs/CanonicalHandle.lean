import FleetProfile.Proofs.AcceptedRows
import FleetProfile.Proofs.HandleForms
import FleetProfile.Proofs.ReadColumns

/-! Statement handles in their canonical form: every encoding of a binary handle is read as the same
text, and what was read once is read as itself. -/
namespace FleetProfile.Source

open Bytes (hexText readHex? readHex?_hexText)
open RawRow

/-! ### Columns -/

namespace RawRow

variable {row : RawRow} {column : String} {e : Rejection}

theorem requiredText_of_get? {column s : String} (hget : get? row column = some (.string s)) :
    requiredText row column = .ok s := by
  simp only [requiredText, required_eq_ok.2 hget, bind, Except.bind]

/-! A reader that rejects a row names the column that it reads. -/

theorem field_of_required (h : required row column = .error e) : e.field = column := by
  unfold required at h
  cases hget : get? row column with
  | none =>
    rw [hget] at h
    exact (Except.error.inj h) ▸ rfl
  | some v => simp [hget] at h

theorem field_of_requiredTimestamp {offset : Int}
    (h : requiredTimestamp row column offset = .error e) : e.field = column := by
  unfold requiredTimestamp at h
  obtain h | ⟨v, -, h⟩ := bind_eq_error.1 h
  · exact field_of_required h
  · split at h
    · split at h
      · simp at h
      · exact (Except.error.inj h) ▸ rfl
    · exact (Except.error.inj h) ▸ rfl

theorem field_of_requiredInt64 (h : requiredInt64 row column = .error e) : e.field = column := by
  unfold requiredInt64 at h
  obtain h | ⟨v, -, h⟩ := bind_eq_error.1 h
  · exact field_of_required h
  · split at h
    · simp at h
    · exact (Except.error.inj h) ▸ rfl

theorem field_of_requiredCounter (h : requiredCounter row column = .error e) :
    e.field = column := by
  unfold requiredCounter at h
  obtain h | ⟨n, -, h⟩ := bind_eq_error.1 h
  · exact field_of_requiredInt64 h
  · split_ifs at h
    exact (Except.error.inj h) ▸ rfl

end RawRow

/-! ### Rows -/

namespace Dialect

variable {kind : Kind} {ctx : Context} {row row' : RawRow} {b : List UInt8} {v : Json}

/-- The handle of a row. -/
def handle : Kind → RawRow → Except Rejection String
  | .sqlServer => sqlServerHandle
  | .synapse => synapseHandle
  | .snowflake => snowflakeHandle

theorem handle_of_usage {r : UsageRecord} (h : usage kind ctx row = .ok r) :
    handle kind row = .ok r.handle := by
  cases kind with
  | sqlServer | synapse =>
    simp only [usage, statistics, bind_eq_ok, Except.ok.injEq] at h
    obtain ⟨handle, hhandle, _, -, _, -, _, -, _, -, _, -, _, -, rfl⟩ := h
    exact hhandle
  | snowflake =>
    simp only [usage, bind_eq_ok, Except.ok.injEq] at h
    obtain ⟨handle, hhandle, _, -, _, -, _, -, _, -, _, -, _, -, _, -, _, -, rfl⟩ := h
    exact hhandle

theorem sqlServerHandle_of_ofBinary {handle : String} (hget : get? row "sql_handle" = some v)
    (hv : Handle.ofBinary v "sql_handle" = .ok (some handle)) :
    sqlServerHandle row = .ok handle := by
  simp only [sqlServerHandle, required_eq_ok.2 hget, bind, Except.bind, hv]

theorem synapseHandle_of_get? (hget : get? row "sql_handle" = some v) :
    synapseHandle row = Handle.ofBase64 v "sql_handle" := by
  simp only [synapseHandle, required_eq_ok.2 hget, bind, Except.bind]

/-- However the bytes are exported, the handle is their canonical text. -/
theorem handle_of_exports (hb : b ≠ []) (hv : Exports b kind v)
    (hget : get? row kind.handleColumn = some v) : handle kind row = .ok (Handle.ofBytes b) := by
  cases kind with
  | sqlServer =>
    refine sqlServerHandle_of_ofBinary hget ?_
    cases hv with
    | bytes => exact Handle.ofBinary_bytes hb
    | literal _ hlead hmark hdigits htrail =>
      exact Handle.ofBinary_literal hb hlead hdigits htrail hmark
    | digits hlead hdigits htrail => exact Handle.ofBinary_digits hb hlead hdigits htrail
  | synapse =>
    refine (synapseHandle_of_get? hget).trans ?_
    cases hv with
    | bytes => exact Handle.ofBase64_bytes hb
    | literal _ hlead hmark hdigits htrail =>
      exact Handle.ofBase64_literal hb hlead hdigits htrail hmark
    | base64 hlead hplain htrail => exact Handle.ofBase64_text hb hlead hplain htrail
  | snowflake =>
    cases hv with
    | bytes binary => exact absurd rfl binary
    | literal binary => exact absurd rfl binary

theorem exports_ofBytes (binary : kind ≠ .snowflake) (b : List UInt8) :
    Exports b kind (.string (Handle.ofBytes b)) := by
  have hliteral := @Exports.literal b kind binary [] (hexText b) [] 'x' (List.forall_mem_nil _)
    (.inl rfl) (readHex?_hexText b) (List.forall_mem_nil _)
  rwa [List.nil_append, List.append_nil] at hliteral

/-- A SQL Server handle is the canonical text of some bytes, or a text taken as it is. -/
theorem sqlServerHandle_eq_ok {t : String} (h : sqlServerHandle row = .ok t) :
    (∃ b, b ≠ [] ∧ t = Handle.ofBytes b) ∨
      Text.trimmed t = t ∧ Handle.ofBinary (.string t) "sql_handle" = .ok none := by
  simp only [sqlServerHandle, bind_eq_ok, required_eq_ok] at h
  obtain ⟨v, hget, binary?, hv, h⟩ := h
  cases binary? with
  | some handle =>
    obtain rfl := Except.ok.inj h
    exact .inl (Handle.exists_of_ofBinary hv)
  | none =>
    obtain ⟨s, rfl⟩ := Handle.exists_of_ofBinary_none hv
    simp only [requiredText, required_eq_ok.2 hget, bind, Except.bind, Except.map,
      Except.ok.injEq] at h
    subst h
    exact .inr ⟨Text.trimmed_trimmed s, (Handle.ofBinary_trimmed s).trans hv⟩

theorem snowflakeHandle_eq_ok {t : String} (h : snowflakeHandle row = .ok t) :
    Text.trimmed t = t ∧ t ≠ "" := by
  simp only [snowflakeHandle, bind_eq_ok] at h
  obtain ⟨s, -, h⟩ := h
  split_ifs at h with hempty
  obtain rfl := Except.ok.inj h
  exact ⟨Text.trimmed_trimmed s, hempty⟩

theorem sqlServerHandle_of_trimmed {t : String}
    (hget : get? row "sql_handle" = some (.string t)) (htrimmed : Text.trimmed t = t)
    (hverbatim : Handle.ofBinary (.string t) "sql_handle" = .ok none) :
    sqlServerHandle row = .ok t := by
  simp only [sqlServerHandle, required_eq_ok.2 hget, requiredText_of_get? hget, hverbatim, bind,
    Except.bind, Except.map, htrimmed]

theorem snowflakeHandle_of_trimmed {t : String}
    (hget : get? row "QUERY_HASH" = some (.string t)) (htrimmed : Text.trimmed t = t)
    (hne : t ≠ "") : snowflakeHandle row = .ok t := by
  simp only [snowflakeHandle, requiredText_of_get? hget, bind, Except.bind, htrimmed, if_neg hne]

/-- What was read as a handle is read as itself. -/
theorem handle_eq_self {t : String} (h : handle kind row = .ok t)
    (hget : get? row' kind.handleColumn = some (.string t)) : handle kind row' = .ok t := by
  cases kind with
  | sqlServer =>
    obtain ⟨b, hb, rfl⟩ | ⟨htrimmed, hverbatim⟩ := sqlServerHandle_eq_ok h
    · exact handle_of_exports hb (exports_ofBytes (by decide) b) hget
    · exact sqlServerHandle_of_trimmed hget htrimmed hverbatim
  | synapse =>
    obtain ⟨v, -, hv⟩ := bind_eq_ok.1 h
    obtain ⟨b, hb, rfl⟩ := Handle.exists_of_ofBase64 hv
    exact handle_of_exports hb (exports_ofBytes (by decide) b) hget
  | snowflake =>
    obtain ⟨htrimmed, hne⟩ := snowflakeHandle_eq_ok h
    exact snowflakeHandle_of_trimmed hget htrimmed hne

/-- Two rows that agree on all columns but the one of the handle. -/
def AgreeElsewhere (kind : Kind) (row row' : RawRow) : Prop :=
  ∀ column, Text.eqIgnoreAsciiCase column kind.handleColumn = false →
    get? row' column = get? row column

theorem agreeElsewhere_cons (v v' : Json) (rest : RawRow) :
    AgreeElsewhere kind ((kind.handleColumn, v) :: rest) ((kind.handleColumn, v') :: rest) := by
  intro column hcolumn
  have hfold : Text.eqIgnoreAsciiCase kind.handleColumn column = false := by
    rw [Text.eqIgnoreAsciiCase, beq_eq_false_iff_ne] at hcolumn ⊢
    exact Ne.symm hcolumn
  have hne : (kind.handleColumn == column) = false := by
    rw [beq_eq_false_iff_ne]
    rintro rfl
    simp [Text.eqIgnoreAsciiCase] at hfold
  simp only [get?, lookup, Json.Members.get?, List.find?_cons, hne, hfold]

/-- Where the handles agree, the records do. -/
theorem usage_congr (hhandle : handle kind row' = handle kind row)
    (h : AgreeElsewhere kind row row') : usage kind ctx row' = usage kind ctx row := by
  have hagree : AgreeOn (Text.eqIgnoreAsciiCase · kind.handleColumn = false) row row' := h
  cases kind with
  | sqlServer | synapse | snowflake =>
    simp only [handle] at hhandle
    simp (disch := decide) only [usage, statistics, hhandle, hagree.requiredTimestamp_eq,
      hagree.requiredCounter_eq]

/-! ### Rejections -/

theorem field_of_statistics {handle : String} {extractTs : Time.Instant} {offset : Int}
    {e : Rejection} (h : statistics row handle extractTs offset = .error e) :
    e.field ∈ ["creation_time", "last_execution_time", "execution_count", "total_worker_time",
      "total_elapsed_time", "total_rows"] := by
  simp only [statistics, bind_eq_error, reduceCtorEq, and_false, exists_false, or_false] at h
  rcases h with h | ⟨_, -, h | ⟨_, -, h | ⟨_, -, h | ⟨_, -, h | ⟨_, -, h⟩⟩⟩⟩⟩
  · simp [field_of_requiredTimestamp h]
  · simp [field_of_requiredTimestamp h]
  · simp [field_of_requiredCounter h]
  · simp [field_of_requiredCounter h]
  · simp [field_of_requiredCounter h]
  · simp [field_of_requiredCounter h]

/-- A row whose handle can be read is not rejected for its handle. -/
theorem field_of_usage {t : String} {e : Rejection} (hhandle : handle kind row = .ok t)
    (binary : kind ≠ .snowflake) (h : usage kind ctx row = .error e) :
    e.field ≠ kind.handleColumn := by
  have hother : ∀ field ∈ ["creation_time", "last_execution_time", "execution_count",
      "total_worker_time", "total_elapsed_time", "total_rows"], field ≠ "sql_handle" := by decide
  cases kind with
  | sqlServer | synapse =>
    obtain h | ⟨_, -, h⟩ := bind_eq_error.1 h
    · exact absurd (hhandle.symm.trans h) (by simp)
    · exact hother _ (field_of_statistics h)
  | snowflake => exact absurd rfl binary

/-- Every encoding of a binary handle is read as one text, which belongs to its bytes alone, and a
handle that was read once is read as itself. -/
theorem canonical_handle (kind : Kind) (ctx : Context) :
    (∀ b v row, b ≠ [] → Exports b kind v → get? row kind.handleColumn = some v →
      handle kind row = .ok (Handle.ofBytes b) ∧
        (∀ r, usage kind ctx row = .ok r → r.handle = Handle.ofBytes b) ∧
        ∀ e, usage kind ctx row = .error e → e.field ≠ kind.handleColumn) ∧
    (∀ b, ∃ digits, Handle.ofBytes b = String.ofList ('0' :: 'x' :: digits) ∧
      readHex? digits = some b ∧ ∀ c ∈ digits, c.isLower = false) ∧
    (∀ b b', Handle.ofBytes b = Handle.ofBytes b' → b = b') ∧
    ∀ row r, usage kind ctx row = .ok r →
      ∀ row', get? row' kind.handleColumn = some (.string r.handle) →
        handle kind row' = .ok r.handle ∧
          (AgreeElsewhere kind row row' → usage kind ctx row' = .ok r) := by
  refine ⟨fun b v row hb hv hget => ?_,
    fun b => ⟨_, rfl, readHex?_hexText b, Bytes.isLower_hexText b⟩,
    fun b b' => Handle.ofBytes_injective, fun row r hr row' hget => ?_⟩
  · have hhandle := handle_of_exports hb hv hget
    refine ⟨hhandle, fun r hr => ?_, fun e he => field_of_usage hhandle hv.ne_snowflake he⟩
    exact Except.ok.inj ((handle_of_usage hr).symm.trans hhandle)
  · have hhandle := handle_of_usage hr
    have hagain := handle_eq_self hhandle hget
    exact ⟨hagain, fun h => (usage_congr (hagain.trans hhandle.symm) h).trans hr⟩

theorem canonical_handle_base64 :
    let row (handle : String) : RawRow := [("sql_handle", .string handle),
      ("creation_time", .string "2024-05-30 10:00:00"),
      ("last_execution_time", .string "2024-05-30 10:00:00"), ("execution_count", .int 1),
      ("total_worker_time", .int 2), ("total_elapsed_time", .int 3), ("total_rows", .int 4)]
    let ctx : Context := ⟨⟨1717243200, 0⟩, 0⟩
    ∃ r, usage .synapse ctx (row " AgAAAA==\n") = .ok r ∧ r.handle = "0x02000000" ∧
      usage .synapse ctx (row "0x02000000") = .ok r := by
  intro row ctx
  obtain ⟨hexports, -, -, hself⟩ := canonical_handle .synapse ctx
  have hv : Exports [2, 0, 0, 0] .synapse (.string " AgAAAA==\n") :=
    @Exports.base64 [2, 0, 0, 0] [' '] ['\n'] (List.all_eq_true.1 rfl) (by decide)
      (List.all_eq_true.1 rfl)
  have hok : (usage .synapse ctx (row " AgAAAA==\n")).map (·.counters.totalRows) = .ok 4 := by
    decide +kernel
  obtain ⟨r, hr, -⟩ := map_eq_ok.1 hok
  obtain ⟨-, hhandle, -⟩ := hexports _ _ (row " AgAAAA==\n") (by decide) hv rfl
  have hcanonical : r.handle = "0x02000000" := hhandle r hr
  have hget : get? (row "0x02000000") Kind.synapse.handleColumn = some (.string r.handle) := by
    rw [hcanonical]
    rfl
  exact ⟨r, hr, hcanonical, (hself _ r hr _ hget).2 (agreeElsewhere_cons _ _ _)⟩

end Dialect

end FleetProfile.Source
