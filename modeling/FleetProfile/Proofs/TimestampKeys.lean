import FleetProfile.Error
import FleetProfile.Proofs.Calendar
import FleetProfile.Proofs.TemporalCells
import FleetProfile.Proofs.WrittenTimes
import FleetProfile.Query.Temporal
import Mathlib.Order.Bounds.Defs

/-! Timestamps as keys. The canonical form of an instant floors it to the microsecond, and the text
of a timestamp column stands for it: the database reads it back, and texts are in the order of their
instants. -/
namespace FleetProfile

open Text (zeroPad)
open Time (Date Instant)

namespace Time

/-! ### Texts of one width -/

namespace Instant

theorem secondOfDay_lt (t : Instant) : t.secondOfDay < 86400 := by
  unfold secondOfDay
  omega

/-- The seconds of the years of four digits. -/
theorem year_bounds_iff {t : Instant} : (0 ≤ t.date.year ∧ t.date.year ≤ 9999) ↔
    -62167219200 ≤ t.seconds ∧ t.seconds < 253402300800 := by
  have hbefore := Date.year_ofDays_le_iff (n := t.seconds / 86400) (y := -1)
  have hlast := Date.year_ofDays_le_iff (n := t.seconds / 86400) (y := 9999)
  have hbefore' : Date.toDays ⟨-1, 12, 31⟩ = -719529 := by decide
  have hlast' : Date.toDays ⟨9999, 12, 31⟩ = 2932896 := by decide
  unfold date
  omega

/-- An instant whose text has the usual width: in no leap second, and in a year of four digits. -/
structure Plain (t : Instant) : Prop where
  nanos_lt : t.nanos < 1000000000
  year_bounds : 0 ≤ t.date.year ∧ t.date.year ≤ 9999

namespace Plain

variable {s t : Instant}

theorem clockText_eq (h : t.Plain) : t.clockText = zeroPad 2 (t.secondOfDay / 3600) ++
    ':' :: (zeroPad 2 (t.secondOfDay / 60 % 60) ++ ':' :: zeroPad 2 (t.secondOfDay % 60)) := by
  have hleap : t.isLeap = false := by
    have hlt := h.nanos_lt
    simp only [isLeap, decide_eq_false_iff_not]
    omega
  simp only [clockText, secondOfMinute, hleap, Bool.false_eq_true, if_false, Nat.add_zero,
    List.append_assoc, List.cons_append]

theorem toList_sqlText (h : t.Plain) : t.sqlText.toList =
    dateText t.date ++ ' ' :: (t.clockText ++ '.' :: zeroPad 6 (t.nanos / 1000)) := by
  have hfraction : t.fraction = t.nanos := Nat.mod_eq_of_lt h.nanos_lt
  simp only [sqlText, hfraction, String.toList_ofList, List.append_assoc, List.cons_append]

end Plain

end Instant

end Time

/-! ### Reading -/

namespace Query

/-- A number is read up to its end. -/
theorem readDigits_zeroPad {most width n : Nat} (hle : width ≤ most) (pos : 0 < width)
    (h : n < 10 ^ width) {rest : List Char} (hrest : ∀ c ∈ rest.head?, c.isDigit = false) :
    readDigits most (zeroPad width n ++ rest) = some (n, rest) := by
  have hlen := Text.length_zeroPad pos h
  have htake : ((zeroPad width n ++ rest).take most).takeWhile Char.isDigit = zeroPad width n := by
    rw [List.take_append, List.take_of_length_le (by omega)]
    refine (takeWhile_dropWhile_append Text.isDigit_zeroPad fun c hc => ?_).1
    rw [List.head?_take] at hc
    split_ifs at hc
    · exact absurd hc (by simp)
    · exact hrest c hc
  simp only [readDigits, htake, hlen]
  rw [if_neg (Text.zeroPad_ne_nil width n), List.drop_left' hlen, Text.digitsValue_zeroPad]

theorem readDigits_pair {n : Nat} (h : n < 100) {c : Char} (hc : c.isDigit = false)
    (rest : List Char) : readDigits 2 (zeroPad 2 n ++ c :: rest) = some (n, c :: rest) := by
  refine readDigits_zeroPad (Nat.le_refl 2) (by decide) h fun d hd => ?_
  rwa [← Option.some.inj hd]

/-- A date ends where the time of day begins. -/
theorem readDate_dateText {d : Date} (valid : d.isValid = true)
    (hyear : 0 ≤ d.year ∧ d.year ≤ 9999) {c : Char} (hc : c.isDigit = true) (rest : List Char) :
    readDate (Instant.dateText d ++ ' ' :: c :: rest) = some (d, ' ' :: c :: rest) := by
  obtain ⟨hmonth, hday⟩ := Date.lt_of_isValid valid
  obtain ⟨y, hy, heq, htext⟩ := Instant.exists_dateText hyear
  have hyears : ∀ after, readDigits (zeroPad 4 y ++ '-' :: after).length
      (zeroPad 4 y ++ '-' :: after) = some (y, '-' :: after) := by
    intro after
    refine readDigits_zeroPad ?_ (by decide : 0 < 4) hy fun e he => ?_
    · rw [List.length_append, Text.length_zeroPad (by decide) hy]
      omega
    · rw [← Option.some.inj he]
      decide
  have hmonths := readDigits_pair hmonth (by decide : '-'.isDigit = false)
    (zeroPad 2 d.day ++ ' ' :: c :: rest)
  have hdays := readDigits_pair hday (by decide : ' '.isDigit = false) (c :: rest)
  have hera : " (BC)".toList.isPrefixOf (' ' :: c :: rest) = false := by
    have hne : ('(' == c) = false := by
      rw [beq_eq_false_iff_ne]
      rintro rfl
      exact absurd hc (by decide)
    have hmark : " (BC)".toList = ' ' :: '(' :: "BC)".toList := by decide
    simp only [hmark, List.isPrefixOf, hne, Bool.false_and, Bool.and_false]
  have hdate : (⟨(y : Int), d.month, d.day⟩ : Date) = d := by rw [← heq]
  obtain ⟨c₀, ds, hds, hc₀⟩ := Text.exists_cons_zeroPad 4 y
  rw [htext]
  simp only [List.append_assoc, List.cons_append]
  rw [hds] at hyears ⊢
  simp only [List.cons_append] at hyears ⊢
  unfold readDate
  split
  next negative s hsign =>
    split at hsign
    · next heq =>
      rw [(List.cons.inj heq).1] at hc₀
      exact absurd hc₀ (by decide)
    · obtain ⟨rfl, rfl⟩ := Prod.mk.inj hsign
      simp only [hyears, bind, Option.bind_some, hmonths, hdays, hera, beq_self_eq_true,
        Bool.true_or, if_true, Bool.false_eq_true, if_false, hdate, valid]

theorem readClock_clockText {t : Instant} (h : t.Plain) :
    readClock (t.clockText ++ '.' :: zeroPad 6 (t.nanos / 1000)) =
      some (t.secondOfDay, t.nanos / 1000 * 1000, []) := by
  have hlt := h.nanos_lt
  have hday := t.secondOfDay_lt
  obtain ⟨n, hn⟩ : ∃ n, n = t.nanos / 1000 := ⟨_, rfl⟩
  have hlen : (zeroPad 6 n).length = 6 := Text.length_zeroPad (by decide) (by omega)
  have hpart : (zeroPad 6 n).takeWhile Char.isDigit = zeroPad 6 n :=
    List.takeWhile_eq_self_iff.2 Text.isDigit_zeroPad
  have hrest : (zeroPad 6 n).dropWhile Char.isDigit = [] :=
    List.dropWhile_eq_nil_iff.2 Text.isDigit_zeroPad
  have htake : (zeroPad 6 n).take 9 = zeroPad 6 n := List.take_of_length_le (by omega)
  have hpow : Number.powTen (9 - 6) = 1000 := by decide
  have hcolon : ':'.isDigit = false := by decide
  have hpoint : '.'.isDigit = false := by decide
  have hhours := fun rest => readDigits_pair (n := t.secondOfDay / 3600) (by omega) hcolon rest
  have hminutes := fun rest => readDigits_pair (n := t.secondOfDay / 60 % 60) (by omega) hcolon rest
  have hseconds := fun rest => readDigits_pair (n := t.secondOfDay % 60) (by omega) hpoint rest
  have hvalid : t.secondOfDay / 3600 < 24 ∧ t.secondOfDay / 60 % 60 < 60 ∧
      t.secondOfDay % 60 < 60 := by omega
  have htotal : t.secondOfDay / 3600 * 3600 + t.secondOfDay / 60 % 60 * 60 + t.secondOfDay % 60 =
      t.secondOfDay := by omega
  rw [← hn, h.clockText_eq]
  simp only [readClock, List.append_assoc, List.cons_append, bind, Option.bind_some, hhours,
    hminutes, hseconds, hpart, hrest, htake, hlen, hpow, Text.digitsValue_zeroPad, hvalid,
    and_self, if_true, htotal]

/-- The database reads the text of a column as the instant without what is below its
microsecond. -/
theorem nanosOfText?_sqlText {t : Instant} (h : t.Plain) :
    nanosOfText? t.sqlText.toList = some (t.toMicros * 1000) := by
  obtain ⟨c, ds, hds, hc⟩ := Text.exists_cons_zeroPad 2 (t.secondOfDay / 3600)
  obtain ⟨rest, hrest⟩ : ∃ rest, t.clockText ++ '.' :: zeroPad 6 (t.nanos / 1000) = c :: rest := by
    rw [h.clockText_eq, hds]
    exact ⟨_, rfl⟩
  have hdate := readDate_dateText (Date.isValid_ofDays (t.seconds / 86400))
    h.year_bounds hc rest
  have hclock := readClock_clockText h
  rw [hrest] at hclock
  have hzone : readZone (Text.trimStart []) = some 0 := rfl
  have hdays : t.date.toDays = t.seconds / 86400 := Date.toDays_ofDays _
  have htotal : (t.date.toDays * 86400 + (t.secondOfDay : Int) - 0) * 1000000000 +
      ((t.nanos / 1000 * 1000 : Nat) : Int) = t.toMicros * 1000 := by
    rw [hdays]
    unfold Instant.secondOfDay Instant.toMicros
    omega
  change readDate (Instant.dateText t.date ++ _) = some (t.date, _) at hdate
  rw [h.toList_sqlText, hrest]
  simp only [nanosOfText?, hdate, bind, Option.bind_some, beq_self_eq_true, Bool.true_or, if_true,
    hclock, hzone, htotal]

/-- A digit has no other case. -/
theorem lowerChar_of_isDigit {c : Char} (h : c.isDigit = true) : Text.lowerChar c = [c] := by
  have hall : ∀ n < 10, Text.lowerChar (Char.ofNat (48 + n)) = [Char.ofNat (48 + n)] := by
    decide +kernel
  obtain ⟨hvalue, hlt⟩ := Text.toNat_of_isDigit h
  have hdigit := hall _ hlt
  rwa [← hvalue, Char.ofNat_toNat] at hdigit

/-- What begins with a digit is none of the words for special times. -/
theorem special?_cons {c : Char} (h : c.isDigit = true) (rest : List Char) (most : Int) :
    special? (c :: rest) most = none := by
  obtain ⟨hvalue, hlt⟩ := Text.toNat_of_isDigit h
  have hsigma : (c.toNat == 0x3A3) = false := by
    rw [beq_eq_false_iff_ne]
    omega
  have hlower : Text.lower (String.ofList (c :: rest)) =
      String.ofList (c :: Text.lowerFrom [c] rest) := by
    rw [Text.lower, String.toList_ofList, Text.lowerFrom, hsigma]
    simp only [Bool.false_eq_true, if_false, lowerChar_of_isDigit h, List.singleton_append]
  have hne : ∀ word ∈ ["epoch", "infinity", "-infinity"],
      (Text.lower (String.ofList (c :: rest)) == word) = false := by
    intro word hword
    have hhead : ∃ d ds, word.toList = d :: ds ∧ d.isDigit = false := by
      simp only [List.mem_cons, List.not_mem_nil, or_false] at hword
      rcases hword with rfl | rfl | rfl <;> exact ⟨_, _, rfl, by decide⟩
    obtain ⟨d, ds, hd, hdigit⟩ := hhead
    rw [beq_eq_false_iff_ne, hlower]
    intro heq
    have hchars := congrArg String.toList heq
    rw [String.toList_ofList, hd] at hchars
    rw [(List.cons.inj hchars).1, hdigit] at h
    exact absurd h (by decide)
  rw [List.forall_mem_cons, List.forall_mem_cons, List.forall_mem_singleton] at hne
  simp only [special?, hne, Bool.false_eq_true, if_false]

/-- A key is read as the count of microseconds of its instant. -/
theorem countOfText?_sqlText {t : Instant} (h : t.Plain) :
    countOfText? .micro t.sqlText = some t.toMicros := by
  obtain ⟨y, -, -, hdate⟩ := Instant.exists_dateText h.year_bounds
  obtain ⟨c, ds, hds, hc⟩ := Text.exists_cons_zeroPad 4 y
  obtain ⟨rest, hrest⟩ : ∃ rest, t.sqlText.toList = c :: rest := by
    rw [h.toList_sqlText, hdate, hds]
    exact ⟨_, rfl⟩
  have hlast : ∀ d ∈ t.sqlText.toList.getLast?, Text.isBlank d = false := by
    intro d hd
    rw [h.toList_sqlText, ← List.cons_append, ← List.append_assoc, List.append_cons,
      List.getLast?_append_of_ne_nil _ (Text.zeroPad_ne_nil 6 _)] at hd
    exact Text.isBlank_of_isDigit (Text.isDigit_zeroPad d (List.mem_of_getLast? hd))
  have htrim : Text.trim t.sqlText.toList = t.sqlText.toList := by
    refine Text.trim_eq_self (fun d hd => ?_) hlast
    rw [hrest] at hd
    rw [← Option.some.inj hd]
    exact Text.isBlank_of_isDigit hc
  have hspecial : special? t.sqlText.toList Number.maxInt64 = none := by
    rw [hrest]
    exact special?_cons hc rest _
  have hmicros : t.toMicros * 1000 / 1000 = t.toMicros := by omega
  have hcount : isTimestampCount t.toMicros = true := by
    have hseconds := Instant.year_bounds_iff.1 h.year_bounds
    have hnanos := h.nanos_lt
    rw [isTimestampCount, Bool.and_eq_true, decide_eq_true_iff, decide_eq_true_iff]
    unfold Number.maxInt64 Instant.toMicros
    omega
  simp only [countOfText?, htrim, hspecial, nanosOfText?_sqlText h, reduceCtorEq, if_false, hmicros,
    hcount, if_true, ofMicros?, Bool.not_true, Bool.false_eq_true]

end Query

/-! ### Order -/

namespace Time

theorem Instant.dateText_append_lt_iff {d e : Date} (hd : d.isValid = true) (he : e.isValid = true)
    (hyear : 0 ≤ d.year ∧ d.year ≤ 9999) (hyear' : 0 ≤ e.year ∧ e.year ≤ 9999)
    {xs ys : List Char} :
    dateText d ++ xs < dateText e ++ ys ↔ d.Before e ∨ d = e ∧ xs < ys := by
  obtain ⟨hmonth, hday⟩ := Date.lt_of_isValid hd
  obtain ⟨hmonth', hday'⟩ := Date.lt_of_isValid he
  obtain ⟨y, hy, heq, htext⟩ := exists_dateText hyear
  obtain ⟨y', hy', heq', htext'⟩ := exists_dateText hyear'
  obtain ⟨year, month, day⟩ := d
  obtain ⟨year', month', day'⟩ := e
  simp only at heq heq' hmonth hday hmonth' hday'
  rw [htext, htext']
  simp only [List.append_assoc, List.cons_append]
  rw [Text.zeroPad_append_lt_iff (by decide : 0 < 4) hy hy', List.cons_lt_cons_self,
    Text.zeroPad_append_lt_iff (by decide : 0 < 2) hmonth hmonth', List.cons_lt_cons_self,
    Text.zeroPad_append_lt_iff (by decide : 0 < 2) hday hday']
  simp only [Date.Before, Date.mk.injEq, heq, heq', Nat.cast_lt, Nat.cast_inj]
  tauto

namespace Instant.Plain

variable {s t : Instant}

theorem clockText_append_lt_iff (hs : s.Plain) (ht : t.Plain) {xs ys : List Char} :
    s.clockText ++ xs < t.clockText ++ ys ↔
      s.secondOfDay < t.secondOfDay ∨ s.secondOfDay = t.secondOfDay ∧ xs < ys := by
  have hday := s.secondOfDay_lt
  have hday' := t.secondOfDay_lt
  rw [hs.clockText_eq, ht.clockText_eq]
  simp only [List.append_assoc, List.cons_append]
  rw [Text.zeroPad_append_lt_iff (by decide : 0 < 2) (by omega) (by omega), List.cons_lt_cons_self,
    Text.zeroPad_append_lt_iff (by decide : 0 < 2) (by omega) (by omega), List.cons_lt_cons_self,
    Text.zeroPad_append_lt_iff (by decide : 0 < 2) (by omega) (by omega)]
  by_cases hrest : xs < ys
  · simp only [hrest, and_true]
    omega
  · simp only [hrest, and_false, or_false]
    omega

/-- Texts are in the order of the microseconds that they show. -/
theorem sqlText_lt_iff (hs : s.Plain) (ht : t.Plain) :
    s.sqlText < t.sqlText ↔ s.toMicros < t.toMicros := by
  have hnanos := hs.nanos_lt
  have hnanos' := ht.nanos_lt
  have hdates := @dateText_append_lt_iff s.date t.date (Date.isValid_ofDays _)
    (Date.isValid_ofDays _) hs.year_bounds ht.year_bounds
  change s.sqlText.toList < t.sqlText.toList ↔ _
  rw [hs.toList_sqlText, ht.toList_sqlText, hdates, date, date, Date.before_ofDays_iff,
    Date.ofDays_inj, List.cons_lt_cons_self, hs.clockText_append_lt_iff ht, List.cons_lt_cons_self,
    Text.zeroPad_lt_iff (by decide : 0 < 6) (by omega) (by omega)]
  unfold secondOfDay toMicros
  omega

theorem sqlText_inj (hs : s.Plain) (ht : t.Plain) :
    s.sqlText = t.sqlText ↔ s.toMicros = t.toMicros := by
  have hlt := hs.sqlText_lt_iff ht
  have hgt := ht.sqlText_lt_iff hs
  constructor
  · intro h
    rw [h] at hlt hgt
    have hge := mt hlt.2 (String.lt_irrefl t.sqlText)
    have hle := mt hgt.2 (String.lt_irrefl t.sqlText)
    omega
  · intro h
    exact String.le_antisymm (String.not_lt.1 fun hlt' => absurd (hgt.1 hlt') (by omega))
      (String.not_lt.1 fun hlt' => absurd (hlt.1 hlt') (by omega))

end Instant.Plain

/-! ### Keys -/

namespace Instant

variable {s t : Instant}

theorem seconds_of_fitsNanos (fits : t.fitsNanos = true) (regular : t.isLeap = false) :
    -9223372037 ≤ t.seconds ∧ t.seconds ≤ 9223372036 := by
  simp only [isLeap, decide_eq_false_iff_not] at regular
  simp only [fitsNanos, Bool.and_eq_true, decide_eq_true_eq] at fits
  unfold toNanos at fits
  omega

/-- As far as 64 bits count nanoseconds, years have four digits. -/
theorem plain_canonical (fits : t.fitsNanos = true) (regular : t.isLeap = false) :
    t.canonical.Plain := by
  have hseconds := seconds_of_fitsNanos fits regular
  have hle := canonical_nanos_le t
  rw [← canonical_seconds] at hseconds
  simp only [isLeap, decide_eq_false_iff_not] at regular
  exact ⟨by omega, year_bounds_iff.2 (by omega)⟩

theorem fromMicros_toMicros_canonical (fits : t.fitsNanos = true) (regular : t.isLeap = false) :
    fromMicros t.canonical.toMicros = .ok t.canonical := by
  have hseconds := seconds_of_fitsNanos fits regular
  have hcovered : t.canonical.isCovered = true := by
    rw [isCovered_iff, canonical_seconds]
    omega
  have hsome : ofMicros? t.canonical.toMicros = some t.canonical := by
    unfold ofMicros?
    simp only [ofMicros_toMicros_canonical fits regular, hcovered, if_true]
  unfold fromMicros
  rw [hsome]

theorem canonical_eq_of_fitsNanos (fits : t.fitsNanos = true) :
    t.canonical = ⟨t.seconds, t.nanos - t.nanos % 1000⟩ := by
  rw [canonical, if_pos fits]

theorem le_iff : s ≤ t ↔ s.seconds < t.seconds ∨ s.seconds = t.seconds ∧ s.nanos ≤ t.nanos := by
  change ¬(_ ∨ _) ↔ _
  omega

theorem isGreatest_canonical (fits : t.fitsNanos = true) :
    IsGreatest {u : Instant | u.nanos % 1000 = 0 ∧ u ≤ t} t.canonical := by
  rw [canonical_eq_of_fitsNanos fits]
  refine ⟨⟨?_, le_iff.2 (.inr ⟨rfl, Nat.sub_le _ _⟩)⟩, ?_⟩
  · change (t.nanos - t.nanos % 1000) % 1000 = 0
    omega
  · rintro u ⟨hwhole, hu⟩
    rw [le_iff] at hu ⊢
    simp only
    omega

theorem canonical_le_canonical (fits : s.fitsNanos = true) (fits' : t.fitsNanos = true)
    (h : s ≤ t) : s.canonical ≤ t.canonical := by
  rw [canonical_eq_of_fitsNanos fits, canonical_eq_of_fitsNanos fits', le_iff]
  rw [le_iff] at h
  simp only
  omega

theorem sqlText_canonical (fits : t.fitsNanos = true) (regular : t.isLeap = false) :
    t.canonical.sqlText = t.sqlText := by
  rw [← ofMicros_toMicros_canonical fits regular, toMicros_canonical]
  simp only [isLeap, decide_eq_false_iff_not] at regular
  exact sqlText_ofMicros_toMicros (by omega)

/-- Canonical forms are floors to the microsecond, and the texts of columns stand for them. -/
theorem canonical_key (fits : s.fitsNanos = true) (regular : s.isLeap = false)
    (fits' : t.fitsNanos = true) (regular' : t.isLeap = false) :
    IsGreatest {u : Instant | u.nanos % 1000 = 0 ∧ u ≤ t} t.canonical ∧
    t.canonical.canonical = t.canonical ∧
    (s ≤ t → s.canonical ≤ t.canonical) ∧
    (∃ n, Query.countOfText? .micro t.canonical.sqlText = some n ∧
      Store.stamp t.canonical = .ok n ∧ fromMicros n = .ok t.canonical) ∧
    t.canonical.sqlText = t.sqlText ∧
    (s.sqlText = t.sqlText ↔ s.canonical = t.canonical) ∧
    (s.sqlText < t.sqlText ↔ s.canonical < t.canonical) := by
  have hs := plain_canonical fits regular
  have ht := plain_canonical fits' regular'
  have hstamp : Store.stamp t.canonical = .ok t.canonical.toMicros :=
    Store.stamp_eq_ok.2 ⟨Store.isHoldable_canonical fits' regular', rfl⟩
  have hcounts := @ofMicros_lt_ofMicros s.canonical.toMicros t.canonical.toMicros
  have hsame := ofMicros_toMicros_canonical fits regular
  have hsame' := ofMicros_toMicros_canonical fits' regular'
  rw [hsame, hsame'] at hcounts
  rw [← sqlText_canonical fits regular, ← sqlText_canonical fits' regular']
  refine ⟨isGreatest_canonical fits', canonical_canonical t, canonical_le_canonical fits fits',
    ⟨_, Query.countOfText?_sqlText ht, hstamp, fromMicros_toMicros_canonical fits' regular'⟩,
    rfl, ?_, ?_⟩
  · rw [hs.sqlText_inj ht]
    constructor
    · intro h
      rw [← hsame, ← hsame', h]
    · exact congrArg toMicros
  · rw [hs.sqlText_lt_iff ht, hcounts]

/-- Before 1970 as well: a microsecond less one nanosecond, and a second later. -/
theorem canonical_key_before :
    (⟨-1, 999999999⟩ : Instant).canonical = ⟨-1, 999999000⟩ ∧
    (⟨-2, 999999999⟩ : Instant).sqlText < (⟨-1, 999999999⟩ : Instant).sqlText := by
  have hkey := canonical_key (s := ⟨-2, 999999999⟩) (t := ⟨-1, 999999999⟩) (by decide) (by decide)
    (by decide) (by decide)
  obtain ⟨-, -, -, -, -, -, horder⟩ := hkey
  exact ⟨by decide, horder.2 (by decide)⟩

end Instant

end Time

end FleetProfile
