import FleetProfile.Proofs.Calendar
import FleetProfile.Proofs.Instant
import FleetProfile.Proofs.PaddedNumbers
import FleetProfile.Query.Cell

/-! Timestamps and dates in the cells of a query. A count of units is shown as the instant it
stands for, and a count of days as the date, wherever the calendar reaches. Nanoseconds before
1970 are cut towards 1970, one microsecond late. -/
namespace FleetProfile

namespace Time.Instant

/-- The instant that is a number of nanoseconds after 1970. -/
def ofNanos (n : Int) : Instant :=
  ⟨n / 1000000000, (n % 1000000000).toNat⟩

theorem ofNanos_nanos_lt (n : Int) : (ofNanos n).nanos < 1000000000 := by
  unfold ofNanos
  simp only
  omega

theorem toMicros_ofNanos (n : Int) : (ofNanos n).toMicros = n / 1000 := by
  unfold ofNanos toMicros
  simp only
  omega

/-- The text of a column shows no more of an instant than its count of microseconds. -/
theorem sqlText_ofMicros_toMicros {t : Instant} (h : t.nanos < 1000000000) :
    (ofMicros t.toMicros).sqlText = t.sqlText := by
  have hseconds := seconds_ofMicros_toMicros h
  have hnanos : (ofMicros t.toMicros).nanos = t.nanos - t.nanos % 1000 := by
    unfold ofMicros toMicros
    simp only
    omega
  have hleap : (ofMicros t.toMicros).isLeap = t.isLeap := by
    unfold isLeap
    rw [hnanos, decide_eq_decide]
    omega
  have hfraction : (ofMicros t.toMicros).fraction / 1000 = t.fraction / 1000 := by
    unfold fraction
    rw [hnanos]
    omega
  simp only [sqlText, clockText, date, secondOfMinute, secondOfDay, hseconds, hleap, hfraction]

/-- The text of a column tells apart what differs in whole microseconds of a second. -/
theorem fraction_eq_of_sqlText {s t : Instant} (h : s.sqlText = t.sqlText) :
    s.fraction / 1000 = t.fraction / 1000 := by
  have hlength : ∀ u : Instant, (Text.zeroPad 6 (u.fraction / 1000)).length = 6 := by
    intro u
    have hlt : u.fraction < 1000000000 := Nat.mod_lt _ (by decide)
    exact Text.length_zeroPad (by decide) (by omega)
  have hfields := List.append_inj_right' (String.ofList_injective h) (by
    rw [List.length_cons, List.length_cons, hlength, hlength])
  exact Text.zeroPad_inj.1 (List.cons.inj hfields).2

end Time.Instant

namespace Query
open Time (Date Instant)

/-- The nanoseconds of a unit. -/
def TimeUnit.nanos : TimeUnit → Int
  | .second => 1000000000
  | .milli => 1000000
  | .micro => 1000
  | .nano => 1

/-- The instant that is a count of units after 1970. -/
def TimeUnit.instant (unit : TimeUnit) (count : Int) : Instant :=
  Instant.ofNanos (count * unit.nanos)

/-- The cell of an instant. -/
def instantCell (t : Instant) : Json :=
  if t.isCovered then .string t.sqlText else .null

/-- The cell of a date. -/
def dateCell (d : Date) : Json :=
  if Date.covers d.year then .string (String.ofList (Instant.dateText d)) else .null

/-! ### Timestamps -/

theorem timestampJson_eq (unit : TimeUnit) (count : Int) :
    timestampJson unit count = instantCell (.ofMicros (unit.toMicros count)) := by
  unfold timestampJson instantCell Instant.ofMicros?
  dsimp only
  split_ifs <;> rfl

theorem instantCell_ofMicros_toMicros {t : Instant} (h : t.nanos < 1000000000) :
    instantCell (.ofMicros t.toMicros) = instantCell t := by
  unfold instantCell
  rw [Instant.sqlText_ofMicros_toMicros h, Instant.isCovered, Instant.isCovered, Instant.date,
    Instant.date, Instant.seconds_ofMicros_toMicros h]

/-- No count at the ends of 64 bits or past them is in the calendar. -/
theorem instantCell_of_far {n : Int} (h : n ≤ Number.minInt64 ∨ Number.maxInt64 ≤ n) :
    instantCell (.ofMicros n) = .null := by
  simp only [Number.minInt64, Number.maxInt64] at h
  rw [instantCell, if_neg]
  rw [Instant.isCovered_iff, Instant.seconds_ofMicros]
  omega

theorem instantCell_saturated (n : Int) :
    instantCell (.ofMicros (saturated n)) = instantCell (.ofMicros n) := by
  by_cases hfits : Number.minInt64 ≤ n ∧ n ≤ Number.maxInt64
  · rw [saturated, Int.min_eq_left hfits.2, Int.max_eq_right hfits.1]
  · rw [instantCell_of_far (n := n) (by omega), instantCell_of_far]
    simp only [saturated, Number.minInt64, Number.maxInt64] at hfits ⊢
    omega

/-- A count of nanoseconds before 1970 that is not whole microseconds is cut to the later one. -/
theorem tdiv_thousand (n : Int) :
    n.tdiv 1000 = if n < 0 ∧ n % 1000 ≠ 0 then n / 1000 + 1 else n / 1000 := by
  rw [Int.tdiv_eq_ediv, Int.sign_eq_one_of_pos (by decide)]
  split_ifs <;> omega

/-- The cell that the instant of a count should have is that of its count of microseconds. -/
theorem instantCell_instant (unit : TimeUnit) (count : Int) :
    instantCell (unit.instant count) = instantCell (.ofMicros (count * unit.nanos / 1000)) := by
  rw [← Instant.toMicros_ofNanos]
  exact (instantCell_ofMicros_toMicros (Instant.ofNanos_nanos_lt _)).symm

/-- In every unit a count of whole microseconds, or after 1970, is the instant it stands for. -/
theorem timestampJson_exact {unit : TimeUnit} {count : Int}
    (h : ¬(unit = .nano ∧ count < 0 ∧ count % 1000 ≠ 0)) :
    timestampJson unit count = instantCell (unit.instant count) := by
  rw [timestampJson_eq, instantCell_instant]
  cases unit with
  | second =>
    have hmicros : count * 1000000 = count * TimeUnit.second.nanos / 1000 := by
      simp only [TimeUnit.nanos]
      omega
    rw [TimeUnit.toMicros, instantCell_saturated, hmicros]
  | milli =>
    have hmicros : count * 1000 = count * TimeUnit.milli.nanos / 1000 := by
      simp only [TimeUnit.nanos]
      omega
    rw [TimeUnit.toMicros, instantCell_saturated, hmicros]
  | micro =>
    have hmicros : count = count * TimeUnit.micro.nanos / 1000 := by
      simp only [TimeUnit.nanos]
      omega
    rw [TimeUnit.toMicros, ← hmicros]
  | nano =>
    have hcut : ¬(count < 0 ∧ count % 1000 ≠ 0) := fun hn => h ⟨rfl, hn⟩
    rw [TimeUnit.toMicros, tdiv_thousand, if_neg hcut, TimeUnit.nanos, Int.mul_one]

theorem timestampJson_cut {count : Int} (hbefore : count < 0) (hpart : count % 1000 ≠ 0) :
    timestampJson .nano count = instantCell (.ofMicros (count / 1000 + 1)) := by
  rw [timestampJson_eq, TimeUnit.toMicros, tdiv_thousand, if_pos ⟨hbefore, hpart⟩]

/-- The next microsecond has another cell, as far as 64 bits count it in nanoseconds. -/
theorem instantCell_succ_ne {n : Int} (h : -9223372036854776 ≤ n ∧ n < 9223372036854776) :
    instantCell (.ofMicros (n + 1)) ≠ instantCell (.ofMicros n) := by
  have hcovered : ∀ k : Int, -9223372036854776 ≤ k ∧ k ≤ 9223372036854776 →
      (Instant.ofMicros k).isCovered = true := by
    intro k hk
    rw [Instant.isCovered_iff, Instant.seconds_ofMicros]
    omega
  intro heq
  rw [instantCell, instantCell, if_pos (hcovered _ (by omega)),
    if_pos (hcovered _ (by omega))] at heq
  have hfraction := Instant.fraction_eq_of_sqlText (Json.string.inj heq)
  simp only [Instant.fraction, Instant.ofMicros] at hfraction
  omega

/-- Nanoseconds before 1970 that are not whole microseconds are all that is not shown exactly. -/
theorem timestampJson_eq_iff {unit : TimeUnit} {count : Int}
    (fits : Number.fitsInt64 count = true) :
    timestampJson unit count = instantCell (unit.instant count) ↔
      ¬(unit = .nano ∧ count < 0 ∧ count % 1000 ≠ 0) := by
  refine ⟨?_, timestampJson_exact⟩
  rintro heq ⟨rfl, hbefore, hpart⟩
  have hbounds : -9223372036854775808 ≤ count := by
    simp only [Number.fitsInt64, Bool.and_eq_true, decide_eq_true_eq] at fits
    exact fits.1
  rw [timestampJson_cut hbefore hpart, instantCell_instant, TimeUnit.nanos, Int.mul_one] at heq
  exact instantCell_succ_ne (by omega) heq

/-! ### Dates -/

theorem holds_int32_iff {n : Int} :
    IntType.int32.holds n = true ↔ -2147483648 ≤ n ∧ n ≤ 2147483647 := by
  have hleast : IntType.int32.least = -2147483648 := by decide
  have hgreatest : IntType.int32.greatest = 2147483647 := by decide
  rw [IntType.holds, hleast, hgreatest, Bool.and_eq_true, decide_eq_true_eq, decide_eq_true_eq]

/-- The number of a day runs over for the last days of 32 bits only. -/
theorem dayNumber_eq {days : Int} (h : IntType.int32.holds days = true) :
    dayNumber days = days + epochDay ∧ days ≤ 2146764484 ∨
      dayNumber days = days + epochDay - 4294967296 ∧ 2146764484 < days := by
  rw [holds_int32_iff] at h
  unfold dayNumber epochDay
  rw [Int.bmod_def]
  split_ifs <;> omega

theorem dateJson_exact {days : Int} (h : IntType.int32.holds days = true) :
    dateJson days = dateCell (.ofDays days) := by
  have hbounds := holds_int32_iff.mp h
  rcases dayNumber_eq h with ⟨hday, -⟩ | ⟨hday, hlast⟩
  · rw [dateJson, hday, Int.add_sub_cancel]
    rfl
  · have hbefore : ¬ Date.covers (Date.ofDays (dayNumber days - epochDay)).year = true := by
      rw [Date.covers_ofDays_iff]
      omega
    have hafter : ¬ Date.covers (Date.ofDays days).year = true := by
      rw [Date.covers_ofDays_iff]
      omega
    rw [dateJson, dateCell, if_neg hafter]
    exact if_neg hbefore

/-! ### Cells -/

/--
A timestamp of any unit and any count of 64 bits has the cell of the instant it stands for, but for
counts of nanoseconds before 1970 that are not whole microseconds; these have the cell of the next
whole microsecond. A date of any count of 32 bits has the cell of the date of its day, although the
number of that day runs over for the last ones.
-/
theorem temporal_cells {unit : TimeUnit} {count days : Int}
    (hcount : Number.fitsInt64 count = true) (hdays : IntType.int32.holds days = true) :
    ((Cell.timestamp unit count).toJson = instantCell (unit.instant count) ↔
      ¬(unit = .nano ∧ count < 0 ∧ count % 1000 ≠ 0)) ∧
    (unit = .nano → count < 0 → count % 1000 ≠ 0 →
      (Cell.timestamp unit count).toJson = instantCell (.ofMicros (count / 1000 + 1))) ∧
    (∃ d : Date, d.isValid = true ∧ d.toDays = days ∧ (Cell.date days).toJson = dateCell d) ∧
    (dayNumber days = days + epochDay ↔ days ≤ 2146764484) := by
  refine ⟨timestampJson_eq_iff hcount, ?_, ?_, ?_⟩
  · rintro rfl hbefore hpart
    exact timestampJson_cut hbefore hpart
  · exact ⟨.ofDays days, Date.isValid_ofDays days, Date.toDays_ofDays days, dateJson_exact hdays⟩
  · have hday := dayNumber_eq hdays
    omega

theorem temporal_cells_at_limits :
    (Cell.timestamp .second 9223372036854775807).toJson = .null ∧
      (Cell.timestamp .nano (-1500)).toJson = .string "1969-12-31 23:59:59.999999" ∧
      (∃ d : Date, d.isValid = true ∧ d.toDays = 2147483647 ∧
        (Cell.date 2147483647).toJson = dateCell d) ∧
      dayNumber 2147483647 ≠ 2147483647 + epochDay := by
  obtain ⟨hexact, -, hdate, hnumber⟩ := @temporal_cells .second 9223372036854775807 2147483647
    (by decide) (by decide)
  obtain ⟨-, hcut, -⟩ := @temporal_cells .nano (-1500) 2147483647 (by decide) (by decide)
  refine ⟨?_, ?_, hdate, fun h => absurd (hnumber.mp h) (by decide)⟩
  · rw [hexact.2 (by decide)]
    rfl
  · rw [hcut rfl (by decide) (by decide)]
    rfl

/-- The first nanosecond before 1970 is shown as 1970. -/
theorem timestamp_nano_before_1970 :
    (Cell.timestamp .nano (-1)).toJson = .string "1970-01-01 00:00:00.000000" ∧
      instantCell (TimeUnit.nano.instant (-1)) = .string "1969-12-31 23:59:59.999999" :=
  ⟨rfl, rfl⟩

end Query
end FleetProfile
