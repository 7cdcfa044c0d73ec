import FleetProfile.Store.Basic
import Mathlib.Tactic.SplitIfs

/-! Instants counted in microseconds. A timestamp column holds a count, and an instant without a
fraction below the microsecond is the instant of its count. -/
namespace FleetProfile.Time.Instant

@[simp] theorem toMicros_ofMicros (n : Int) : (ofMicros n).toMicros = n := by
  unfold ofMicros toMicros
  simp only
  omega

theorem ofMicros_nanos_lt (n : Int) : (ofMicros n).nanos < 1000000000 := by
  unfold ofMicros
  simp only
  omega

theorem ofMicros_nanos_mod (n : Int) : (ofMicros n).nanos % 1000 = 0 := by
  unfold ofMicros
  simp only
  omega

theorem ofMicros_toMicros {t : Instant} (hl : t.nanos < 1000000000) (hw : t.nanos % 1000 = 0) :
    ofMicros t.toMicros = t := by
  obtain ⟨seconds, nanos⟩ := t
  simp only [ofMicros, toMicros, mk.injEq] at *
  omega

theorem seconds_ofMicros (n : Int) : (ofMicros n).seconds = n / 1000000 := rfl

theorem seconds_ofMicros_toMicros {t : Instant} (hl : t.nanos < 1000000000) :
    (ofMicros t.toMicros).seconds = t.seconds := by
  unfold ofMicros toMicros
  simp only
  omega

/-- Of two counts the earlier one is less, also where a leap second runs past its count. -/
theorem lt_toMicros_of_lt {n : Int} {t : Instant} (h : ofMicros n < t) (hw : t.nanos % 1000 = 0) :
    n < t.toMicros := by
  have hl := ofMicros_nanos_lt n
  have hm := ofMicros_nanos_mod n
  have hn := toMicros_ofMicros n
  rcases h with h | ⟨hs, hn'⟩ <;> unfold toMicros at hn ⊢ <;> omega

theorem ofMicros_lt_ofMicros {a b : Int} : ofMicros a < ofMicros b ↔ a < b := by
  have hb := ofMicros_nanos_mod b
  constructor
  · intro h
    have hlt := lt_toMicros_of_lt h hb
    rwa [toMicros_ofMicros] at hlt
  · intro h
    simp only [ofMicros]
    change _ < _ ∨ _
    simp only
    omega

theorem nextMicro_ofMicros (n : Int) : (ofMicros n).nextMicro = ofMicros (n + 1) := by
  unfold nextMicro ofMicros
  simp only
  split_ifs with h <;> simp only [mk.injEq] <;> omega

@[simp] theorem toMicros_canonical (t : Instant) : t.canonical.toMicros = t.toMicros := by
  unfold canonical
  split_ifs
  · unfold toMicros
    simp only
    omega
  · rfl

theorem canonical_nanos_mod {t : Instant} (h : t.fitsNanos) : t.canonical.nanos % 1000 = 0 := by
  unfold canonical
  rw [if_pos h]
  simp only
  omega

theorem canonical_nanos_le (t : Instant) : t.canonical.nanos ≤ t.nanos := by
  unfold canonical
  split_ifs
  · exact Nat.sub_le _ _
  · exact Nat.le_refl _

theorem toNanos_le {t : Instant} (fits : t.fitsNanos = true) : t.toNanos ≤ 9223372036854775807 := by
  simp only [fitsNanos, Bool.and_eq_true, decide_eq_true_eq] at fits
  exact fits.2

theorem toMicros_canonical_le {t : Instant} (fits : t.fitsNanos = true) :
    t.canonical.toMicros ≤ 9223372036854775 := by
  have hmost := toNanos_le fits
  rw [toMicros_canonical]
  unfold toNanos at hmost
  unfold toMicros
  omega

theorem canonical_seconds (t : Instant) : t.canonical.seconds = t.seconds := by
  unfold canonical
  split_ifs
  · rfl
  · rfl

/-- What a clock shows is canonically the instant of its count. -/
theorem ofMicros_toMicros_canonical {t : Instant} (fits : t.fitsNanos = true)
    (regular : t.isLeap = false) : ofMicros t.canonical.toMicros = t.canonical := by
  have hle := canonical_nanos_le t
  simp only [isLeap, decide_eq_false_iff_not] at regular
  exact ofMicros_toMicros (by omega) (canonical_nanos_mod fits)

/-- A clock shows the time: a leap second ends a minute. -/
def OnClock (t : Instant) : Prop := t.isLeap = true → t.seconds % 60 = 59

theorem onClock_ofMicros (n : Int) : (ofMicros n).OnClock := by
  intro hleap
  have hlt := ofMicros_nanos_lt n
  simp only [isLeap, decide_eq_true_eq] at hleap
  omega

theorem OnClock.canonical {t : Instant} (h : t.OnClock) : t.canonical.OnClock := by
  intro hleap
  have hle := canonical_nanos_le t
  rw [canonical_seconds]
  apply h
  simp only [isLeap, decide_eq_true_eq] at hleap ⊢
  omega

theorem canonical_eq_self {t : Instant} (h : t.nanos % 1000 = 0) : t.canonical = t := by
  unfold canonical
  split_ifs
  · rw [h, Nat.sub_zero]
  · rfl

@[simp] theorem canonical_canonical (t : Instant) : t.canonical.canonical = t.canonical := by
  by_cases h : t.fitsNanos
  · exact canonical_eq_self (canonical_nanos_mod h)
  · have hsame : t.canonical = t := by
      unfold canonical
      rw [if_neg h]
    rw [hsame, hsame]

end FleetProfile.Time.Instant

namespace FleetProfile.Store
open Time (Instant)

theorem stamp_eq_ok {t : Instant} {d : Int} :
    stamp t = .ok d ↔ isHoldable t = true ∧ t.toMicros = d := by
  unfold stamp
  split_ifs with h <;> simp [h]

/-- Days before the last era of 400 years in which a year has four digits are in such years. -/
theorem year_ofDays_le {n : Int} (h : n ≤ 2786859) : (Time.Date.ofDays n).year ≤ 9999 := by
  unfold Time.Date.ofDays
  simp only
  split_ifs <;> omega

/-- A column takes a time of such a year that is in no leap second. -/
theorem isHoldable_of_seconds_lt {t : Instant} (regular : t.isLeap = false)
    (h : t.seconds < 240784704000) : isHoldable t = true := by
  have hyear : t.date.year ≤ 9999 := by
    apply year_ofDays_le
    omega
  simp only [isHoldable, hyear, decide_true, Bool.true_and, decide_eq_true_eq]
  rw [Instant.secondOfMinute, regular]
  exact Nat.mod_lt _ (by decide)

/-- A column takes what a clock shows, as far as 64 bits count it in nanoseconds. -/
theorem isHoldable_canonical {t : Instant} (fits : t.fitsNanos = true)
    (regular : t.isLeap = false) : isHoldable t.canonical = true := by
  have hle := t.canonical_nanos_le
  have hmost := Instant.toNanos_le fits
  unfold Instant.toNanos at hmost
  apply isHoldable_of_seconds_lt
  · simp only [Instant.isLeap, decide_eq_false_iff_not] at regular ⊢
    omega
  · rw [Instant.canonical_seconds]
    omega

theorem isHoldable_ofMicros {n : Int} (h : n < 240784704000000000) :
    isHoldable (.ofMicros n) = true := by
  apply isHoldable_of_seconds_lt
  · have hlt := Instant.ofMicros_nanos_lt n
    simp only [Instant.isLeap, decide_eq_false_iff_not]
    omega
  · unfold Instant.ofMicros
    simp only
    omega

/-- A column takes no leap second that a clock shows. -/
theorem isLeap_of_held {t : Instant} (clock : t.OnClock) (held : isHoldable t = true) :
    t.isLeap = false := by
  cases h : t.isLeap with
  | false => rfl
  | true =>
    have hsecond := clock h
    simp only [isHoldable, Bool.and_eq_true, decide_eq_true_eq] at held
    have hlt := held.2
    rw [Instant.secondOfMinute, Instant.secondOfDay, if_pos h] at hlt
    omega

theorem nanos_lt_of_held {t : Instant} (clock : t.OnClock) (held : isHoldable t = true) :
    t.nanos < 1000000000 := by
  have hleap := isLeap_of_held clock held
  simp only [Instant.isLeap, decide_eq_false_iff_not] at hleap
  omega

/-- A column that takes an instant takes what it holds of it. -/
theorem isHoldable_ofMicros_toMicros {t : Instant} (clock : t.OnClock)
    (held : isHoldable t = true) : isHoldable (.ofMicros t.toMicros) = true := by
  have hleap := isLeap_of_held clock held
  have hnanos := nanos_lt_of_held clock held
  simp only [isHoldable, Bool.and_eq_true, decide_eq_true_eq] at held ⊢
  have hseconds := Instant.seconds_ofMicros_toMicros hnanos
  have hleap' : (Instant.ofMicros t.toMicros).isLeap = false := by
    have hlt := Instant.ofMicros_nanos_lt t.toMicros
    simp only [Instant.isLeap, decide_eq_false_iff_not]
    omega
  rw [Instant.date, Instant.secondOfMinute, Instant.secondOfDay, hseconds, hleap', ← hleap]
  exact held

end FleetProfile.Store
