import FleetProfile.Proofs.PaddedNumbers
import FleetProfile.Time.Layout
import Mathlib.Tactic.SplitIfs

/-! Dates, times of day and offsets as timestamps write them, and how their readers take them. Each
reader takes its own text and leaves what follows, and a text of another form is not taken. -/
namespace FleetProfile.Time

open Text (zeroPad)
open Number (digitsValue powTen)

namespace Layout

/-! ### Fields -/

/-- A number is read up to its width, whatever follows it. -/
theorem digits_zeroPad {least width n : Nat} (hle : least ≤ width) (pos : 0 < width)
    (h : n < 10 ^ width) (rest : List Char) :
    digits least width (zeroPad width n ++ rest) = some (n, rest) := by
  have hlen := Text.length_zeroPad pos h
  have htake : ((zeroPad width n ++ rest).take width).takeWhile Char.isDigit = zeroPad width n := by
    rw [List.take_left' hlen, List.takeWhile_eq_self_iff]
    exact Text.isDigit_zeroPad
  simp only [digits, htake, hlen]
  rw [if_neg (Nat.not_lt.2 hle), List.drop_left' hlen, Text.digitsValue_zeroPad]

theorem digits_cons_of_not_isDigit {least most : Nat} (pos : 0 < least) {c : Char}
    (h : c.isDigit = false) (rest : List Char) : digits least most (c :: rest) = none := by
  cases most with
  | zero => simp [digits, pos]
  | succ most => simp [digits, h, pos]

theorem digits_pair {n : Nat} (h : n < 100) (rest : List Char) :
    digits 2 2 (zeroPad 2 n ++ rest) = some (n, rest) :=
  digits_zeroPad (by decide) (by decide) h rest

theorem digits_four {n : Nat} (h : n < 10000) (rest : List Char) :
    digits 4 4 (zeroPad 4 n ++ rest) = some (n, rest) :=
  digits_zeroPad (by decide) (by decide) h rest

theorem field_zeroPad {n : Nat} (h : n < 100) (rest : List Char) :
    field (zeroPad 2 n ++ rest) = some (n, rest) := by
  rw [field, Text.trimStart_zeroPad]
  exact digits_zeroPad (by decide) (by decide) h rest

theorem field_letter (rest : List Char) : field ('T' :: rest) = none := by
  rw [field, Text.trimStart, List.dropWhile_cons_of_neg (by decide)]
  exact digits_cons_of_not_isDigit (by decide) (by decide) rest

/-- A year of four digits. -/
theorem year_zeroPad {n : Nat} (h : n < 10000) (rest : List Char) :
    year (zeroPad 4 n ++ rest) = some ((n : Int), rest) := by
  have hdigits : digits 1 4 (zeroPad 4 n ++ rest) = some (n, rest) :=
    digits_zeroPad (by decide) (by decide) h rest
  obtain ⟨c, ds, hds, hc⟩ := Text.exists_cons_zeroPad 4 n
  rw [year, Text.trimStart_zeroPad]
  rw [hds, List.cons_append] at hdigits ⊢
  split
  · exact absurd hc (by simp_all)
  · exact absurd hc (by simp_all)
  · rw [hdigits]
    rfl

@[simp] theorem mark_cons (c : Char) (rest : List Char) : mark c (c :: rest) = some ((), rest) := by
  simp [mark]

/-- What may follow a fraction. -/
def Ends (rest : List Char) : Prop :=
  ∀ c ∈ rest.head?, c.isDigit = false ∧ c ≠ '.'

/-- A fraction of a second in so many digits. -/
def fractionText (width nanos : Nat) : List Char :=
  if width = 0 then [] else '.' :: zeroPad width (nanos / 10 ^ (9 - width))

theorem fraction_fractionText {width nanos : Nat} (hwidth : width ≤ 9) (hlt : nanos < 1000000000)
    (exact : nanos % 10 ^ (9 - width) = 0) {rest : List Char} (ends : Ends rest) :
    fraction (fractionText width nanos ++ rest) = some (nanos, rest) := by
  unfold fractionText
  split_ifs with hzero
  · subst hzero
    have hnanos : nanos = 0 := by omega
    rw [List.nil_append, hnanos]
    unfold fraction
    split
    · exact absurd rfl (ends _ rfl).2
    · rfl
  · have hfits : nanos / 10 ^ (9 - width) < 10 ^ width := by
      rw [Nat.div_lt_iff_lt_mul (Nat.pow_pos (by decide)), ← Nat.pow_add,
        Nat.add_sub_cancel' hwidth]
      exact hlt
    obtain ⟨m, hm⟩ : ∃ m, m = nanos / 10 ^ (9 - width) := ⟨_, rfl⟩
    rw [← hm] at hfits ⊢
    have hlen := Text.length_zeroPad (Nat.pos_of_ne_zero hzero) hfits
    have htake : ((zeroPad width m ++ rest).take 9).takeWhile Char.isDigit = zeroPad width m := by
      rw [List.take_append, List.take_of_length_le (by omega)]
      refine (takeWhile_dropWhile_append Text.isDigit_zeroPad ?_).1
      intro c hc
      rw [List.head?_take] at hc
      split_ifs at hc
      · exact absurd hc (by simp)
      · exact (ends c hc).1
    have hrest : rest.dropWhile Char.isDigit = rest :=
      (takeWhile_dropWhile_append (List.forall_mem_nil _) fun c hc => (ends c hc).1).2
    rw [List.cons_append, fraction]
    simp only [htake, hlen]
    rw [if_neg (Text.zeroPad_ne_nil width m), List.drop_left' hlen, hrest, Text.digitsValue_zeroPad,
      hm, powTen, Nat.pow_eq, Nat.div_mul_cancel (Nat.dvd_of_mod_eq_zero exact)]

end Layout

/-! ### Date and time -/

theorem Date.lt_of_isValid {d : Date} (valid : d.isValid = true) : d.month < 100 ∧ d.day < 100 := by
  simp only [isValid, Bool.and_eq_true, decide_eq_true_eq] at valid
  have hdays : daysInMonth d.year d.month ≤ 31 := by
    unfold daysInMonth
    split_ifs <;> decide
  omega

/-- A date of a year of four digits. -/
theorem Instant.exists_dateText {d : Date} (hyear : 0 ≤ d.year ∧ d.year ≤ 9999) :
    ∃ y : Nat, y < 10000 ∧ d.year = y ∧
      dateText d = zeroPad 4 y ++ '-' :: zeroPad 2 d.month ++ '-' :: zeroPad 2 d.day := by
  refine ⟨d.year.natAbs, by omega, by omega, ?_⟩
  rw [dateText, yearText, if_pos hyear]

/-- What a layout can show of a date and a time: a year of four digits, and a fraction of a number
of digits. -/
structure Civil.Writable (c : Civil) (width : Nat) : Prop where
  valid : c.isValid = true
  year_nonneg : 0 ≤ c.date.year
  year_le : c.date.year ≤ 9999
  nanos_lt : c.nanos < 1000000000
  width_le : width ≤ 9
  exact : c.nanos % 10 ^ (9 - width) = 0

/-- A time of day with its fraction. -/
def Civil.clockText (c : Civil) (width : Nat) : List Char :=
  zeroPad 2 c.hour ++ ':' :: zeroPad 2 c.minute ++ ':' :: zeroPad 2 c.second ++
    Layout.fractionText width c.nanos

namespace Civil.Writable

variable {c : Civil} {width : Nat} (h : c.Writable width)
include h

theorem bounds : c.date.month < 100 ∧ c.date.day < 100 ∧ c.hour < 100 ∧ c.minute < 100 ∧
    c.second < 100 := by
  have hvalid := h.valid
  simp only [isValid, Bool.and_eq_true, decide_eq_true_eq] at hvalid
  have hdate := Date.lt_of_isValid hvalid.1.1.1.2
  omega

theorem exists_dateText : ∃ y : Nat, y < 10000 ∧ c.date.year = y ∧
    Instant.dateText c.date =
      zeroPad 4 y ++ '-' :: zeroPad 2 c.date.month ++ '-' :: zeroPad 2 c.date.day :=
  Instant.exists_dateText ⟨h.year_nonneg, h.year_le⟩

end Civil.Writable

namespace Layout

variable {c : Civil} {width : Nat}

theorem strictCivil_write (h : c.Writable width) {between : Char}
    (hbetween : between = 't' ∨ between = 'T' ∨ between = ' ') {rest : List Char}
    (ends : Ends rest) :
    strictCivil (Instant.dateText c.date ++ between :: c.clockText width ++ rest) =
      some (c, rest) := by
  obtain ⟨hmonth, hday, hhour, hminute, hsecond⟩ := h.bounds
  obtain ⟨y, hy, hyear, htext⟩ := h.exists_dateText
  have hfraction := fraction_fractionText h.width_le h.nanos_lt h.exact ends
  have hmatch : (between == 't' || between == 'T' || between == ' ') = true := by
    rcases hbetween with rfl | rfl | rfl <;> rfl
  have hc : (⟨⟨(y : Int), c.date.month, c.date.day⟩, c.hour, c.minute, c.second, c.nanos⟩ : Civil) =
      c := by
    rw [← hyear]
  rw [htext]
  simp only [strictCivil, Civil.clockText, List.append_assoc, List.cons_append, bind,
    Option.bind_some, digits_four hy, mark_cons, digits_pair hmonth, digits_pair hday, hmatch,
    if_true, digits_pair hhour, digits_pair hminute, digits_pair hsecond, hfraction, hc]

/-- The strict layout has a time. -/
theorem strictCivil_dateText (h : c.Writable width) :
    strictCivil (Instant.dateText c.date) = none := by
  obtain ⟨hmonth, hday, -⟩ := h.bounds
  obtain ⟨y, hy, hyear, htext⟩ := h.exists_dateText
  have hlast := digits_pair hday []
  rw [List.append_nil] at hlast
  rw [htext]
  simp only [strictCivil, List.append_assoc, List.cons_append, bind, Option.bind_some,
    digits_four hy, mark_cons, digits_pair hmonth, hlast, Option.bind_none]

theorem date_dateText (h : c.Writable width) (rest : List Char) :
    date (Instant.dateText c.date ++ rest) = some (c.date, rest) := by
  obtain ⟨hmonth, hday, -⟩ := h.bounds
  obtain ⟨y, hy, hyear, htext⟩ := h.exists_dateText
  have hdate : (⟨(y : Int), c.date.month, c.date.day⟩ : Date) = c.date := by rw [← hyear]
  rw [htext]
  simp only [date, List.append_assoc, List.cons_append, bind, Option.bind_some,
    year_zeroPad hy, mark_cons, field_zeroPad hmonth, field_zeroPad hday, hdate]

def Gap.char : Gap → Char
  | .blanks => ' '
  | .letter => 'T'

theorem civil_write (h : c.Writable width) (gap : Gap) {rest : List Char} (ends : Ends rest) :
    civil gap (Instant.dateText c.date ++ gap.char :: c.clockText width ++ rest) =
      some (c, rest) := by
  obtain ⟨-, -, hhour, hminute, hsecond⟩ := h.bounds
  have hfraction := fraction_fractionText h.width_le h.nanos_lt h.exact ends
  have hgap : ∀ n r, gap.read (gap.char :: (zeroPad 2 n ++ r)) = some ((), zeroPad 2 n ++ r) := by
    intro n r
    cases gap with
    | blanks => exact congrArg (fun s => some ((), s)) (Text.trimStart_zeroPad 2 n r)
    | letter => exact mark_cons 'T' _
  rw [List.append_assoc]
  simp only [civil, Civil.clockText, bind, Option.bind_some, date_dateText h,
    List.append_assoc, List.cons_append, hgap, mark_cons, field_zeroPad hhour,
    field_zeroPad hminute, field_zeroPad hsecond, hfraction]

/-- A layout with blanks does not take the letter, and the one with the letter no blank. -/
theorem civil_other (h : c.Writable width) {gap other : Gap} (hne : gap ≠ other)
    (rest : List Char) : civil gap (Instant.dateText c.date ++ other.char :: rest) = none := by
  cases gap with
  | blanks =>
    cases other with
    | blanks => exact absurd rfl hne
    | letter =>
      have hgap : Gap.read .blanks ('T' :: rest) = some ((), 'T' :: rest) := rfl
      simp only [civil, bind, Option.bind_some, date_dateText h, Gap.char, hgap, field_letter,
        Option.bind_none]
  | letter =>
    cases other with
    | blanks =>
      have hgap : Gap.read .letter (' ' :: rest) = none := rfl
      simp only [civil, bind, Option.bind_some, date_dateText h, Gap.char, hgap,
        Option.bind_none]
    | letter => exact absurd rfl hne

theorem civil_dateText (h : c.Writable width) (gap : Gap) :
    civil gap (Instant.dateText c.date) = none := by
  have hdate := date_dateText h []
  rw [List.append_nil] at hdate
  cases gap <;> simp only [civil, bind, Option.bind_some, hdate] <;> rfl

end Layout

/-! ### Offsets -/

/-- An offset in whole minutes, of less than a day. -/
structure Zone where
  negative : Bool
  minutes : Nat
  lt_day : minutes < 1440

namespace Zone

def seconds (z : Zone) : Int :=
  if z.negative then -(z.minutes * 60) else z.minutes * 60

def sign (z : Zone) : Char :=
  if z.negative then '-' else '+'

/-- Hours and minutes after a sign, parted by a colon or not. -/
def text (z : Zone) (colon : Bool) : List Char :=
  z.sign :: zeroPad 2 (z.minutes / 60) ++
    ((if colon then [':'] else []) ++ zeroPad 2 (z.minutes % 60))

theorem isWithinDay_seconds (z : Zone) : Offset.isWithinDay z.seconds = true := by
  have hlt := z.lt_day
  have hbounds : -86400 < z.seconds ∧ z.seconds < 86400 := by
    unfold seconds
    split_ifs <;> omega
  simp [Offset.isWithinDay, hbounds]

end Zone

namespace Offset

theorem exists_pair_zeroPad {n : Nat} (h : n < 100) : ∃ a b, zeroPad 2 n = [a, b] ∧
    a.isDigit = true ∧ b.isDigit = true ∧ pairValue a b = n := by
  have hlen : (zeroPad 2 n).length = 2 := Text.length_zeroPad (by decide) h
  obtain ⟨a, b, hab⟩ := List.length_eq_two.1 hlen
  have hdigit : ∀ c ∈ zeroPad 2 n, c.isDigit = true := Text.isDigit_zeroPad
  have hvalue := Text.digitsValue_zeroPad 2 n
  rw [hab] at hdigit hvalue
  simp only [digitsValue, List.foldl_cons, List.foldl_nil, Number.digitValue] at hvalue
  refine ⟨a, b, hab, hdigit a (by simp), hdigit b (by simp), ?_⟩
  unfold pairValue
  omega

theorem readHours_zeroPad {n : Nat} (h : n < 100) (rest : List Char) :
    readHours (zeroPad 2 n ++ rest) = .ok (n, rest) := by
  obtain ⟨a, b, hab, ha, hb, hvalue⟩ := exists_pair_zeroPad h
  simp only [hab, List.cons_append, List.nil_append, readHours, takePair, bind, Except.bind, ha, hb,
    Bool.and_self, if_true, hvalue]

theorem readMinutes_zeroPad {n : Nat} (h : n < 60) (rest : List Char) :
    readMinutes (zeroPad 2 n ++ rest) = .ok (n, rest) := by
  obtain ⟨a, b, hab, ha, hb, hvalue⟩ := exists_pair_zeroPad (Nat.lt_trans h (by decide))
  simp only [hab, List.cons_append, List.nil_append, readMinutes, takePair, bind, Except.bind, ha,
    hb, Bool.and_self, if_true, hvalue, if_pos h]

theorem readSign_sign (z : Zone) (rest : List Char) :
    readSign (z.sign :: rest) = .ok (z.negative, rest) := by
  unfold Zone.sign
  cases z.negative <;> rfl

/-- An offset is read wherever what parts its hours and minutes is. -/
theorem read_text {between : List Char → Except OffsetFault (List Char)} (z : Zone) {colon : Bool}
    (hbetween : between ((if colon then [':'] else []) ++ zeroPad 2 (z.minutes % 60)) =
      .ok (zeroPad 2 (z.minutes % 60))) :
    read between (z.text colon) = .ok (z.seconds, []) := by
  have hlt := z.lt_day
  have hhours := readHours_zeroPad (n := z.minutes / 60) (by omega)
  have hminutes := readMinutes_zeroPad (n := z.minutes % 60) (by omega) []
  rw [List.append_nil] at hminutes
  have hseconds : (z.minutes / 60 : Nat) * 3600 + (z.minutes % 60 : Nat) * 60 =
      (z.minutes : Int) * 60 := by
    omega
  simp only [read, Zone.text, List.cons_append, bind, Except.bind, readSign_sign, hhours, hbetween,
    hminutes, hseconds, Zone.seconds]

theorem looseGap_text (n : Nat) (colon : Bool) :
    looseGap ((if colon then [':'] else []) ++ zeroPad 2 n) = .ok (zeroPad 2 n) := by
  obtain ⟨c, ds, hds, hc⟩ := Text.exists_cons_zeroPad 2 n
  have hne : c ≠ ':' := by
    rintro rfl
    exact absurd hc (by decide)
  have hstop : looseGap (zeroPad 2 n) = .ok (zeroPad 2 n) := by
    rw [looseGap, hds, List.dropWhile_cons_of_neg]
    simp [hne, Text.isBlank_of_isDigit hc]
  cases colon with
  | false => exact hstop
  | true => exact hstop

/-- The strict layout wants a colon. -/
theorem read_colon_text_false (z : Zone) : read colon (z.text false) = .error .invalid := by
  have hlt := z.lt_day
  have hhours := readHours_zeroPad (n := z.minutes / 60) (by omega)
  obtain ⟨c, ds, hds, hc⟩ := Text.exists_cons_zeroPad 2 (z.minutes % 60)
  have hne : (c == ':') = false := by
    rw [beq_eq_false_iff_ne]
    rintro rfl
    exact absurd hc (by decide)
  simp only [read, Zone.text, List.cons_append, bind, Except.bind, readSign_sign, hhours,
    Bool.false_eq_true, if_false, List.nil_append, hds, colon, hne]

end Offset

namespace Layout

theorem strictOffset_sign (z : Zone) (rest : List Char) :
    strictOffset (z.sign :: rest) = (Offset.read Offset.colon (z.sign :: rest)).toOption := by
  have hsign : (z.sign == 'Z' || z.sign == 'z') = false := by
    unfold Zone.sign
    cases z.negative <;> rfl
  simp only [strictOffset, hsign, Bool.false_eq_true, if_false]

theorem strictOffset_text (z : Zone) : strictOffset (z.text true) = some (z.seconds, []) := by
  have hread : Offset.read Offset.colon (z.text true) = .ok (z.seconds, []) :=
    Offset.read_text z rfl
  exact (strictOffset_sign z _).trans (congrArg Except.toOption hread)

theorem strictOffset_text_false (z : Zone) : strictOffset (z.text false) = none :=
  (strictOffset_sign z _).trans (congrArg Except.toOption (Offset.read_colon_text_false z))

theorem read_looseGap_text (z : Zone) (colon : Bool) :
    Offset.read Offset.looseGap (z.text colon) = .ok (z.seconds, []) :=
  Offset.read_text z (Offset.looseGap_text _ _)

end Layout

end FleetProfile.Time
