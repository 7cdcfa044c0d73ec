import FleetProfile.Time.Instant
import Mathlib.Tactic.IntervalCases
import Mathlib.Tactic.SplitIfs

/-! Days and dates. Every day has one valid date and every valid date is that of one day: both
are laid out by the cycles of the calendar, in which years begin in March. -/
namespace FleetProfile.Time

/-- A day by its era of 400 years, the century in it, the span of four years, the year and the
day of the year. The last year of a span has a leap day, but for one century's end in four. -/
structure MarchDay where
  era : Int
  century : Int
  span : Int
  year : Int
  day : Int
  century_bounds : 0 ≤ century ∧ century ≤ 3
  span_bounds : 0 ≤ span ∧ span ≤ 24
  year_bounds : 0 ≤ year ∧ year ≤ 3
  day_bounds : 0 ≤ day ∧ (day ≤ 364 ∨ day = 365 ∧ year = 3 ∧ (span ≤ 23 ∨ century = 3))

namespace MarchDay

variable (m : MarchDay)

def yearOfEra : Int := 100 * m.century + 4 * m.span + m.year

def dayOfEra : Int := 36524 * m.century + 1461 * m.span + 365 * m.year + m.day

/-- Days from 1970-01-01. -/
def count : Int := m.era * 146097 + m.dayOfEra - 719468

/-- Months from March. -/
def month : Int := (5 * m.day + 2) / 153

def dayOfMonth : Int := m.day - (153 * m.month + 2) / 5 + 1

def date : Date :=
  ⟨m.yearOfEra + m.era * 400 + (if m.month < 10 then 0 else 1),
    (if m.month < 10 then m.month + 3 else m.month - 9).toNat, m.dayOfMonth.toNat⟩

theorem dayOfEra_bounds : 0 ≤ m.dayOfEra ∧ m.dayOfEra < 146097 := by
  have hc := m.century_bounds
  have hs := m.span_bounds
  have hy := m.year_bounds
  have hd := m.day_bounds
  unfold dayOfEra
  omega

theorem yearOfEra_bounds : 0 ≤ m.yearOfEra ∧ m.yearOfEra ≤ 399 := by
  have hc := m.century_bounds
  have hs := m.span_bounds
  have hy := m.year_bounds
  unfold yearOfEra
  omega

theorem month_bounds : 0 ≤ m.month ∧ m.month ≤ 11 := by
  have hd := m.day_bounds
  unfold month
  omega

theorem dayOfMonth_bounds : 1 ≤ m.dayOfMonth ∧ m.dayOfMonth ≤ 31 := by
  have hd := m.day_bounds
  unfold dayOfMonth month
  omega

/-! ### Years of an era -/

theorem dayOfEra_eq :
    m.dayOfEra = 365 * m.yearOfEra + m.yearOfEra / 4 - m.yearOfEra / 100 + m.day := by
  have hs := m.span_bounds
  have hy := m.year_bounds
  unfold dayOfEra yearOfEra
  omega

/-- The last day of an era would begin a fifth century. -/
theorem century_eq : m.dayOfEra / 36524 - m.dayOfEra / 146096 = m.century := by
  have hc := m.century_bounds
  have hs := m.span_bounds
  have hy := m.year_bounds
  have hd := m.day_bounds
  have he : m.dayOfEra = 36524 * m.century + 1461 * m.span + 365 * m.year + m.day := rfl
  by_cases hlast : m.dayOfEra = 146096
  · omega
  · have hbounds := m.dayOfEra_bounds
    have hzero : m.dayOfEra / 146096 = 0 := by omega
    have hwithin : 36524 * m.century ≤ m.dayOfEra ∧ m.dayOfEra < 36524 * m.century + 36524 := by
      omega
    omega

theorem yearOfEra_eq : (m.dayOfEra - m.dayOfEra / 1460 + m.dayOfEra / 36524 -
    m.dayOfEra / 146096) / 365 = m.yearOfEra := by
  have hcentury := m.century_eq
  have hc := m.century_bounds
  have hs := m.span_bounds
  have hy := m.year_bounds
  have hd := m.day_bounds
  have he : m.dayOfEra = 36524 * m.century + 1461 * m.span + 365 * m.year + m.day := rfl
  -- A leap day is counted once more by the spans of 1460 days.
  have hspans : m.dayOfEra / 1460 = 25 * m.century + m.span ∧ m.day ≤ 364 ∨
      m.dayOfEra / 1460 = 25 * m.century + m.span + 1 ∧ 1 ≤ m.day := by
    omega
  unfold yearOfEra
  omega

/-! ### The date of a day, and the day of a date -/

theorem ofDays_count : Date.ofDays m.count = m.date := by
  have hbounds := m.dayOfEra_bounds
  have hcount : m.count + 719468 = m.dayOfEra + 146097 * m.era := by
    unfold count
    omega
  have hera : (m.count + 719468) / 146097 = m.era := by omega
  have hday : (m.count + 719468) % 146097 = m.dayOfEra := by omega
  have hyear : m.dayOfEra - (365 * m.yearOfEra + m.yearOfEra / 4 - m.yearOfEra / 100) = m.day := by
    have hstart := m.dayOfEra_eq
    omega
  have hmonth : (5 * m.day + 2) / 153 = m.month := rfl
  have hdayOfMonth : m.day - (153 * m.month + 2) / 5 + 1 = m.dayOfMonth := rfl
  have hm := m.month_bounds
  unfold Date.ofDays date
  simp only [hera, hday, yearOfEra_eq, hyear, hmonth, hdayOfMonth, Date.mk.injEq, and_self,
    and_true]
  split_ifs <;> omega

theorem toDays_date : m.date.toDays = m.count := by
  obtain ⟨hm₀, hm₁⟩ := m.month_bounds
  obtain ⟨hd₀, -⟩ := m.dayOfMonth_bounds
  have hyears := m.yearOfEra_bounds
  have hmonth : (m.date.month + 9 : Int) % 12 = m.month := by
    unfold date
    simp only
    split_ifs <;> omega
  have hyear : (if m.date.month ≤ 2 then m.date.year - 1 else m.date.year) =
      m.yearOfEra + m.era * 400 := by
    unfold date
    simp only
    split_ifs <;> omega
  have hera : (m.yearOfEra + m.era * 400) / 400 = m.era := by omega
  have hrest : (m.yearOfEra + m.era * 400) % 400 = m.yearOfEra := by omega
  have hday : (153 * m.month + 2) / 5 + (m.date.day : Int) - 1 = m.day := by
    have hdef : m.dayOfMonth = m.day - (153 * m.month + 2) / 5 + 1 := rfl
    unfold date
    simp only
    omega
  have hof := m.dayOfEra_eq
  unfold Date.toDays count
  simp only [hyear, hmonth, hera, hrest, hday]
  omega

/-! ### Every day, and every valid date -/

theorem exists_count (n : Int) : ∃ m : MarchDay, m.count = n := by
  obtain ⟨era, e, hn, he⟩ : ∃ era e, n = era * 146097 + e - 719468 ∧ 0 ≤ e ∧ e < 146097 :=
    ⟨(n + 719468) / 146097, (n + 719468) % 146097, by omega, by omega⟩
  obtain ⟨century, f, hcentury, hef, hf⟩ : ∃ century f, (0 ≤ century ∧ century ≤ 3) ∧
      e = 36524 * century + f ∧ 0 ≤ f ∧ (f < 36524 ∨ f = 36524 ∧ century = 3) :=
    ⟨min (e / 36524) 3, e - 36524 * min (e / 36524) 3, by omega, by omega, by omega⟩
  obtain ⟨span, g, hspan, hfg, hg⟩ : ∃ span g, (0 ≤ span ∧ span ≤ 24) ∧
      f = 1461 * span + g ∧ 0 ≤ g ∧ g ≤ 1460 :=
    ⟨f / 1461, f % 1461, by omega, by omega, by omega⟩
  obtain ⟨year, day, hyear, hgday, hday⟩ : ∃ year day, (0 ≤ year ∧ year ≤ 3) ∧
      g = 365 * year + day ∧ 0 ≤ day ∧ (day ≤ 364 ∨ day = 365 ∧ year = 3) :=
    ⟨min (g / 365) 3, g - 365 * min (g / 365) 3, by omega, by omega, by omega⟩
  refine ⟨⟨era, century, span, year, day, hcentury, hspan, hyear, by omega⟩, ?_⟩
  simp only [count, dayOfEra]
  omega

/-- The year that begins in the middle of this one has a leap day where this one ends on it. -/
theorem isLeapYear_succ : Date.isLeapYear (m.yearOfEra + m.era * 400 + 1) = true ↔
    m.year = 3 ∧ (m.span ≤ 23 ∨ m.century = 3) := by
  have hc := m.century_bounds
  have hs := m.span_bounds
  have hy := m.year_bounds
  simp only [Date.isLeapYear, Bool.or_eq_true, Bool.and_eq_true, beq_iff_eq, bne_iff_ne, ne_eq]
  unfold yearOfEra
  omega

theorem month_date : (m.date.month : Int) = if m.month < 10 then m.month + 3 else m.month - 9 := by
  have hm := m.month_bounds
  unfold date
  simp only
  split_ifs <;> omega

theorem day_date : (m.date.day : Int) = m.dayOfMonth := by
  have hd := m.dayOfMonth_bounds
  unfold date
  simp only
  omega

theorem year_date : m.date.year = m.yearOfEra + m.era * 400 + if m.month < 10 then 0 else 1 :=
  rfl

theorem day_le_daysInMonth : m.date.day ≤ Date.daysInMonth m.date.year m.date.month := by
  have hmonth := m.month_date
  have hyear := m.year_date
  have hday : (m.date.day : Int) = m.day - (153 * m.month + 2) / 5 + 1 := m.day_date
  have hdef : m.month = (5 * m.day + 2) / 153 := rfl
  have hbounds := m.day_bounds
  unfold Date.daysInMonth
  split_ifs with hfebruary hleap hshort
  · omega
  · have hshort : m.day ≠ 365 := by
      intro hlast
      have hend : m.year = 3 ∧ (m.span ≤ 23 ∨ m.century = 3) := by omega
      rw [hyear, if_neg (by omega)] at hleap
      exact hleap (m.isLeapYear_succ.mpr hend)
    omega
  · omega
  · omega

theorem isValid_date : m.date.isValid = true := by
  have hmonth := m.month_date
  have hday := m.day_date
  have hm := m.month_bounds
  have hd := m.dayOfMonth_bounds
  simp only [Date.isValid, Bool.and_eq_true, decide_eq_true_eq]
  refine ⟨⟨⟨?_, ?_⟩, ?_⟩, m.day_le_daysInMonth⟩
  · split_ifs at hmonth <;> omega
  · split_ifs at hmonth <;> omega
  · omega

/-- The day of the year from March that a day of a month is. -/
theorem month_layout {y : Int} {month day : Nat} (hmonth : 1 ≤ month ∧ month ≤ 12)
    (hday : 1 ≤ day ∧ day ≤ Date.daysInMonth y month) {p n : Int}
    (hp : p = ((month : Int) + 9) % 12) (hn : n = (153 * p + 2) / 5 + day - 1) :
    (5 * n + 2) / 153 = p ∧ n ≤ 365 ∧ (n = 365 → month = 2 ∧ Date.isLeapYear y = true) := by
  obtain ⟨hmonth₀, hmonth₁⟩ := hmonth
  obtain ⟨hday₀, hday₁⟩ := hday
  unfold Date.daysInMonth at hday₁
  cases hleap : Date.isLeapYear y <;> rw [hleap] at hday₁ <;> interval_cases month <;>
    simp only [reduceIte, reduceCtorEq, Nat.reduceEqDiff, or_true, or_false, and_true, and_false,
      implies_true] at hday₁ hp ⊢ <;>
    omega

/-- A valid date is laid out by the year from March that it is in. -/
theorem exists_date {d : Date} (valid : d.isValid = true) : ∃ m : MarchDay, m.date = d := by
  obtain ⟨y, month, day⟩ := d
  simp only [Date.isValid, Bool.and_eq_true, decide_eq_true_eq] at valid
  obtain ⟨⟨⟨hmonth₀, hmonth₁⟩, hday₀⟩, hday₁⟩ := valid
  obtain ⟨p, hp⟩ : ∃ p : Int, p = ((month : Int) + 9) % 12 := ⟨_, rfl⟩
  obtain ⟨n, hn⟩ : ∃ n : Int, n = (153 * p + 2) / 5 + day - 1 := ⟨_, rfl⟩
  obtain ⟨z, hz⟩ : ∃ z : Int, z = if month ≤ 2 then y - 1 else y := ⟨_, rfl⟩
  obtain ⟨hnp, hn₁, hlast⟩ := month_layout ⟨hmonth₀, hmonth₁⟩ ⟨hday₀, hday₁⟩ hp hn
  have hleap : n = 365 → z % 400 % 4 = 3 ∧ (z % 400 % 100 / 4 ≤ 23 ∨ z % 400 / 100 = 3) := by
    intro hn'
    obtain ⟨hmonth, hy⟩ := hlast hn'
    rw [if_pos (by omega)] at hz
    simp only [Date.isLeapYear, Bool.or_eq_true, Bool.and_eq_true, beq_iff_eq, bne_iff_ne,
      ne_eq] at hy
    omega
  have hyear : 100 * (z % 400 / 100) + 4 * (z % 400 % 100 / 4) + z % 400 % 4 + z / 400 * 400 =
      z := by
    omega
  have hp' : p = if month ≤ 2 then (month : Int) + 9 else month - 3 := by
    split_ifs <;> omega
  refine ⟨⟨z / 400, z % 400 / 100, z % 400 % 100 / 4, z % 400 % 4, n, by omega, by omega, by omega,
    by omega⟩, ?_⟩
  simp only [date, dayOfMonth, MarchDay.month, yearOfEra, hnp, Date.mk.injEq, hyear]
  clear hyear hleap hlast hday₁
  split_ifs at hz hp' ⊢ <;> omega

/-- The days of a year end before the next year of the era begins. -/
theorem dayOfEra_lt_next {m : MarchDay} (h : m.yearOfEra < 399) : m.dayOfEra <
    365 * (m.yearOfEra + 1) + (m.yearOfEra + 1) / 4 - (m.yearOfEra + 1) / 100 := by
  have hc := m.century_bounds
  have hs := m.span_bounds
  have hy := m.year_bounds
  have hd := m.day_bounds
  unfold yearOfEra at h
  unfold dayOfEra yearOfEra
  omega

/-- A later year has later days. -/
theorem count_lt_count {a b : MarchDay}
    (h : a.yearOfEra + a.era * 400 < b.yearOfEra + b.era * 400) : a.count < b.count := by
  have hya := a.yearOfEra_bounds
  have hyb := b.yearOfEra_bounds
  have hda := a.dayOfEra_bounds
  have hdb := b.dayOfEra_bounds
  unfold count
  rcases (by omega : a.era < b.era ∨ a.era = b.era) with hera | hera
  · omega
  · have hnext := dayOfEra_lt_next (m := a) (by omega)
    have hstart := b.dayOfEra_eq
    have hday := b.day_bounds
    have hspans : (a.yearOfEra + 1) / 4 ≤ b.yearOfEra / 4 := by omega
    have hcenturies : b.yearOfEra / 100 - (a.yearOfEra + 1) / 100 ≤
        b.yearOfEra - (a.yearOfEra + 1) := by omega
    omega

theorem count_sub_count {a b : MarchDay}
    (h : a.yearOfEra + a.era * 400 = b.yearOfEra + b.era * 400) :
    a.count - b.count = a.day - b.day := by
  have hya := a.yearOfEra_bounds
  have hyb := b.yearOfEra_bounds
  have hera : a.era = b.era := by omega
  have hyear : a.yearOfEra = b.yearOfEra := by omega
  have ha := a.dayOfEra_eq
  have hb := b.dayOfEra_eq
  rw [hyear] at ha
  unfold count
  omega

end MarchDay

namespace Date

@[simp] theorem toDays_ofDays (n : Int) : (ofDays n).toDays = n := by
  obtain ⟨m, rfl⟩ := MarchDay.exists_count n
  rw [m.ofDays_count, m.toDays_date]

theorem isValid_ofDays (n : Int) : (ofDays n).isValid = true := by
  obtain ⟨m, rfl⟩ := MarchDay.exists_count n
  rw [m.ofDays_count]
  exact m.isValid_date

theorem ofDays_toDays {d : Date} (valid : d.isValid = true) : ofDays d.toDays = d := by
  obtain ⟨m, rfl⟩ := MarchDay.exists_date valid
  rw [m.toDays_date, m.ofDays_count]

/-- The date after. -/
def next (d : Date) : Date :=
  if d.day < daysInMonth d.year d.month then ⟨d.year, d.month, d.day + 1⟩
  else if d.month < 12 then ⟨d.year, d.month + 1, 1⟩
  else ⟨d.year + 1, 1, 1⟩

/-- March begins where February ends, with or without a leap day. -/
theorem toDays_march (y : Int) : toDays ⟨y, 3, 1⟩ = toDays ⟨y, 2, daysInMonth y 2⟩ + 1 := by
  obtain ⟨a, b, hy, hb⟩ : ∃ a b, y = 400 * a + b + 1 ∧ 0 ≤ b ∧ b ≤ 399 :=
    ⟨(y - 1) / 400, (y - 1) % 400, by omega, by omega⟩
  have hquot : (y - 1) / 400 = a := by omega
  have hrem : (y - 1) % 400 = b := by omega
  have hleap : isLeapYear y = true ↔ b % 4 = 3 ∧ (b % 100 ≠ 99 ∨ b = 399) := by
    simp only [isLeapYear, Bool.or_eq_true, Bool.and_eq_true, beq_iff_eq, bne_iff_ne, ne_eq]
    omega
  have hlast : (daysInMonth y 2 : Int) =
      if b % 4 = 3 ∧ (b % 100 ≠ 99 ∨ b = 399) then 29 else 28 := by
    simp only [daysInMonth, hleap, if_true]
    split_ifs <;> rfl
  have hnext : y / 400 = a ∧ y % 400 = b + 1 ∧ b ≤ 398 ∨
      y / 400 = a + 1 ∧ y % 400 = 0 ∧ b = 399 := by
    omega
  simp only [toDays, Nat.reduceLeDiff, reduceIte, hquot, hrem, hlast]
  rcases hnext with ⟨h₁, h₂, h₃⟩ | ⟨h₁, h₂, h₃⟩
  · simp only [h₁, h₂]
    split_ifs <;> omega
  · simp only [h₁, h₂]
    split_ifs <;> omega

/-- The days of the calendar are counted one by one. -/
theorem toDays_next {d : Date} (valid : d.isValid = true) : d.next.toDays = d.toDays + 1 := by
  obtain ⟨y, month, day⟩ := d
  simp only [isValid, Bool.and_eq_true, decide_eq_true_eq] at valid
  obtain ⟨⟨⟨hmonth₀, hmonth₁⟩, hday₀⟩, hday₁⟩ := valid
  simp only [next]
  by_cases hwithin : day < daysInMonth y month
  · rw [if_pos hwithin]
    simp only [toDays]
    omega
  · have hlast : day = daysInMonth y month := by omega
    rw [if_neg hwithin, hlast]
    by_cases hfebruary : month = 2
    · subst hfebruary
      exact toDays_march y
    · clear hday₀ hday₁ hwithin hlast
      interval_cases month <;>
        simp only [toDays, daysInMonth, Nat.reduceLeDiff, Nat.reduceLT, Nat.reduceAdd,
          Nat.reduceEqDiff, reduceIte, or_true, or_false, not_true_eq_false] at hfebruary ⊢ <;>
        omega

theorem isValid_yearEnd (y : Int) : isValid ⟨y, 12, 31⟩ = true := by
  simp [isValid, daysInMonth]

/-- The days up to a year's end are those of that year and the ones before. -/
theorem year_ofDays_le_iff {n y : Int} : (ofDays n).year ≤ y ↔ n ≤ toDays ⟨y, 12, 31⟩ := by
  obtain ⟨a, rfl⟩ := MarchDay.exists_count n
  obtain ⟨b, hb⟩ := MarchDay.exists_date (isValid_yearEnd y)
  have hmonth := b.month_date
  have hday : (b.date.day : Int) = b.day - (153 * b.month + 2) / 5 + 1 := b.day_date
  have hyear := b.year_date
  rw [hb] at hmonth hday hyear
  simp only at hmonth hday hyear
  rw [← hb, b.toDays_date, a.ofDays_count, a.year_date]
  have hbmonth := b.month_bounds
  have hbmonth' : b.month = 9 := by split_ifs at hmonth <;> omega
  have hbday : b.day = 305 := by omega
  rw [if_pos (by omega)] at hyear
  have hadef : a.month = (5 * a.day + 2) / 153 := rfl
  rcases lt_trichotomy (a.yearOfEra + a.era * 400) (b.yearOfEra + b.era * 400) with h | h | h
  · have hlt := MarchDay.count_lt_count h
    split_ifs <;> omega
  · have hsub := MarchDay.count_sub_count h
    split_ifs <;> omega
  · have hlt := MarchDay.count_lt_count h
    split_ifs <;> omega

/-- The days of the years that the program covers. -/
theorem covers_ofDays_iff {n : Int} :
    covers (ofDays n).year = true ↔ -96465292 ≤ n ∧ n ≤ 95026236 := by
  have hbefore := year_ofDays_le_iff (n := n) (y := minYear - 1)
  have hlast := year_ofDays_le_iff (n := n) (y := maxYear)
  have hbefore' : toDays ⟨minYear - 1, 12, 31⟩ = -96465293 := by decide
  have hlast' : toDays ⟨maxYear, 12, 31⟩ = 95026236 := by decide
  rw [hbefore'] at hbefore
  rw [hlast'] at hlast
  simp only [covers, Bool.and_eq_true, decide_eq_true_eq, hlast]
  omega

/-! ### The order of dates -/

theorem isValid_next {d : Date} (valid : d.isValid = true) : d.next.isValid = true := by
  obtain ⟨y, month, day⟩ := d
  have hfirst : ∀ y month, 1 ≤ daysInMonth y month := by
    intro y month
    unfold daysInMonth
    split_ifs <;> decide
  simp only [isValid, Bool.and_eq_true, decide_eq_true_eq] at valid
  obtain ⟨⟨⟨hmonth₀, hmonth₁⟩, hday₀⟩, hday₁⟩ := valid
  unfold next
  split_ifs with hday hmonth
  · simp only at hday
    simp only [isValid, Bool.and_eq_true, decide_eq_true_eq]
    omega
  · simp only at hmonth
    simp only [isValid, Bool.and_eq_true, decide_eq_true_eq]
    exact ⟨⟨⟨by omega, by omega⟩, Nat.le_refl 1⟩, hfirst _ _⟩
  · simp only [isValid, Bool.and_eq_true, decide_eq_true_eq]
    exact ⟨⟨⟨by omega, by omega⟩, Nat.le_refl 1⟩, hfirst _ _⟩

theorem ofDays_succ (n : Int) : ofDays (n + 1) = (ofDays n).next := by
  have valid := isValid_ofDays n
  rw [← ofDays_toDays (isValid_next valid), toDays_next valid, toDays_ofDays]

theorem ofDays_inj {m n : Int} : ofDays m = ofDays n ↔ m = n := by
  refine ⟨fun h => ?_, fun h => by rw [h]⟩
  rw [← toDays_ofDays m, h, toDays_ofDays]

/-- The order of dates: by year, then month, then day. -/
def Before (d e : Date) : Prop :=
  d.year < e.year ∨ d.year = e.year ∧ (d.month < e.month ∨ d.month = e.month ∧ d.day < e.day)

theorem before_next (d : Date) : d.Before d.next := by
  unfold next
  split_ifs with hday hmonth
  · exact .inr ⟨rfl, .inr ⟨rfl, Nat.lt_succ_self d.day⟩⟩
  · exact .inr ⟨rfl, .inl (Nat.lt_succ_self d.month)⟩
  · exact .inl (Int.lt_succ d.year)

theorem Before.trans {d e f : Date} (h : d.Before e) (h' : e.Before f) : d.Before f := by
  unfold Before at *
  omega

theorem before_ofDays {m n : Int} (h : m < n) : (ofDays m).Before (ofDays n) := by
  induction n, Int.add_one_le_iff.2 h using Int.leInduction with
  | base =>
    rw [ofDays_succ]
    exact before_next _
  | succ n hle ih =>
    rw [ofDays_succ]
    exact (ih (Int.add_one_le_iff.1 hle)).trans (before_next _)

/-- Days are counted in the order of their dates. -/
theorem before_ofDays_iff {m n : Int} : (ofDays m).Before (ofDays n) ↔ m < n := by
  refine ⟨fun h => ?_, before_ofDays⟩
  rcases lt_trichotomy m n with hlt | rfl | hgt
  · exact hlt
  · unfold Before at h
    omega
  · have h' := h.trans (before_ofDays hgt)
    unfold Before at h'
    omega

end Date

/-- The seconds of the days that the program covers. -/
theorem Instant.isCovered_iff {t : Instant} :
    t.isCovered = true ↔ -8334601228800 ≤ t.seconds ∧ t.seconds < 8210266876800 := by
  rw [isCovered, date, Date.covers_ofDays_iff]
  omega

end FleetProfile.Time
