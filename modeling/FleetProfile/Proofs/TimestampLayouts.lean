import FleetProfile.Proofs.Calendar
import FleetProfile.Proofs.WrittenTimes

/-! Timestamps as they are written, and the instants that are read from them. Every layout is read
by the first attempt that takes it, and no attempt before that one takes it with another meaning. -/
namespace FleetProfile.Time

open Text (zeroPad)

/-! ### Instants -/

namespace Civil

/-- Nanoseconds since 1970 at a local time of an offset. -/
def nanosAt (c : Civil) (offset : Int) : Int :=
  (c.date.toDays * 86400 + (c.hour * 3600 + c.minute * 60 + c.second : Nat) - offset) * 1000000000 +
    c.nanos

/-- The instant of a local time, floored to the microsecond. A leap second is still in the second
that it follows. -/
def floored (c : Civil) (offset : Int) : Instant :=
  let micros := c.nanosAt offset / 1000
  if c.second = 60 then ⟨micros / 1000000 - 1, (micros % 1000000 * 1000 + 1000000000).toNat⟩
  else .ofMicros micros

/-- A local time near enough to 1970 is an instant, whose canonical form floors it. -/
theorem exists_toInstant? {c : Civil} {width : Nat} (h : c.Writable width) {offset : Int}
    (fits : Number.fitsInt64 (c.nanosAt offset) = true) :
    ∃ t, c.toInstant? offset = some t ∧ t.canonical = c.floored offset := by
  have hvalid := h.valid
  have hsecond : c.second ≤ 60 := by
    simp only [isValid, Bool.and_eq_true, decide_eq_true_eq] at hvalid
    exact hvalid.2
  have hnanos := h.nanos_lt
  obtain ⟨t, ht⟩ : ∃ t : Instant, t =
      ⟨c.date.toDays * 86400 +
        ((c.hour * 3600 + c.minute * 60 + (if c.second == 60 then 59 else c.second) : Nat) : Int) -
          offset,
        if c.second == 60 then c.nanos + 1000000000 else c.nanos⟩ := ⟨_, rfl⟩
  have htotal : t.toNanos = c.nanosAt offset := by
    simp only [ht, Instant.toNanos, nanosAt, beq_iff_eq]
    split_ifs <;> omega
  have hpart : t.nanos = if c.second = 60 then c.nanos + 1000000000 else c.nanos := by
    simp only [ht, beq_iff_eq]
  have hfits : t.fitsNanos = true := by
    rw [Instant.fitsNanos, htotal]
    exact fits
  have hcovered : t.isCovered = true := by
    simp only [Instant.fitsNanos, Bool.and_eq_true, decide_eq_true_eq] at hfits
    have hdef : t.toNanos = t.seconds * 1000000000 + t.nanos := rfl
    rw [Instant.isCovered_iff]
    split_ifs at hpart <;> omega
  refine ⟨t, ?_, ?_⟩
  · simp only [toInstant?, ← ht, hvalid, hcovered, Bool.and_self, if_true]
  · rw [Instant.canonical, if_pos hfits, floored, ← htotal]
    simp only [Instant.ofMicros, Instant.toNanos]
    split_ifs at hpart ⊢ <;> simp only [Instant.mk.injEq] <;> omega

end Civil

/-! ### Layouts -/

/-- What stands between date and time in an internet timestamp. -/
inductive Between where
  | upper
  | lower
  | blank
deriving DecidableEq, Repr

def Between.char : Between → Char
  | .upper => 'T'
  | .lower => 't'
  | .blank => ' '

theorem Between.char_eq (between : Between) :
    between.char = 't' ∨ between.char = 'T' ∨ between.char = ' ' := by
  cases between <;> simp [Between.char]

/-- The layouts, by what they show besides date and time. -/
inductive Form where
  /-- `2024-01-15T08:30:00Z`, the letters in either case. -/
  | utc (between : Between) (lower : Bool)
  /-- `2024-01-15T10:30:00+02:00`. -/
  | internet (between : Between) (zone : Zone)
  /-- `2024-01-15 10:30:00 +0200`, with a blank before the offset or none, and a colon or none. -/
  | spaced (zone : Zone) (blank colon : Bool)
  /-- `2024-01-15 10:30:00`. -/
  | naive (gap : Layout.Gap)
  /-- `2024-01-15`. -/
  | dateOnly

namespace Form

def text (form : Form) (c : Civil) (width : Nat) : List Char :=
  match form with
  | .utc between lower =>
    Instant.dateText c.date ++ between.char :: c.clockText width ++ [if lower then 'z' else 'Z']
  | .internet between zone =>
    Instant.dateText c.date ++ between.char :: c.clockText width ++ zone.text true
  | .spaced zone blank colon =>
    Instant.dateText c.date ++ ' ' :: c.clockText width ++
      ((if blank then [' '] else []) ++ zone.text colon)
  | .naive gap => Instant.dateText c.date ++ gap.char :: c.clockText width
  | .dateOnly => Instant.dateText c.date

/-- The offset that a text of the layout shows. -/
def offset? : Form → Option Int
  | .utc _ _ => some 0
  | .internet _ zone => some zone.seconds
  | .spaced zone _ _ => some zone.seconds
  | .naive _ => none
  | .dateOnly => none

end Form

namespace Layout

variable {c : Civil} {width : Nat}

theorem ends_nil : Ends [] := by
  intro c hc
  exact absurd hc (by simp)

theorem ends_text (z : Zone) (blank colon : Bool) :
    Ends ((if blank then [' '] else []) ++ z.text colon) := by
  intro c hc
  cases blank with
  | false =>
    have hsign : c = z.sign := (Option.some.inj hc).symm
    rw [hsign]
    unfold Zone.sign
    cases z.negative <;> decide
  | true =>
    rw [← Option.some.inj hc]
    decide

theorem ends_utc (lower : Bool) : Ends [if lower then 'z' else 'Z'] := by
  intro c hc
  rw [← Option.some.inj hc]
  cases lower <;> decide

theorem trimStart_text (z : Zone) (blank colon : Bool) :
    Text.trimStart ((if blank then [' '] else []) ++ z.text colon) = z.text colon := by
  have hsign : Text.isBlank z.sign = false := by
    unfold Zone.sign
    cases z.negative <;> decide
  have hstop : Text.trimStart (z.text colon) = z.text colon := by
    rw [Zone.text, List.cons_append, Text.trimStart, List.dropWhile_cons_of_neg (by simp [hsign])]
  cases blank with
  | false => exact hstop
  | true => exact hstop

/-- A strict text is the local time at its offset. -/
theorem strict?_eq {s : List Char} {offset : Int} {rest : List Char}
    (hcivil : strictCivil s = some (c, rest)) (hoffset : strictOffset rest = some (offset, []))
    (hday : Offset.isWithinDay offset = true) : strict? s = c.toInstant? offset := by
  simp [strict?, bind, hcivil, hoffset, hday]

theorem strict?_eq_none {s rest : List Char} (hcivil : strictCivil s = some (c, rest))
    (hoffset : strictOffset rest = none) : strict? s = none := by
  simp [strict?, bind, hcivil, hoffset]

theorem withOffset?_eq {gap : Gap} {s : List Char} {z : Zone} {colon : Bool}
    {rest : List Char} (hcivil : civil gap s = some (c, rest))
    (hrest : Text.trimStart rest = z.text colon) :
    withOffset? gap s = c.toInstant? z.seconds := by
  simp [withOffset?, bind, hcivil, hrest, read_looseGap_text, Except.toOption,
    z.isWithinDay_seconds]

/-- A layout with an offset does not take a text without one. -/
theorem withOffset?_eq_none {gap : Gap} {s : List Char}
    (h : civil gap s = none ∨ civil gap s = some (c, [])) : withOffset? gap s = none := by
  have hread : (Offset.read Offset.looseGap (Text.trimStart [])).toOption = none := rfl
  rcases h with h | h
  · simp [withOffset?, bind, h]
  · simp [withOffset?, bind, h, hread]

theorem local?_eq {gap : Gap} {s : List Char} (hcivil : civil gap s = some (c, []))
    (valid : c.isValid = true) : local? gap s = some c := by
  simp [local?, bind, hcivil, valid]

theorem local?_eq_none {gap : Gap} {s : List Char} (hcivil : civil gap s = none) :
    local? gap s = none := by
  simp [local?, bind, hcivil]

/-! ### Attempts -/

/-- What the layouts with an offset make of a text, in their order. -/
def zoned? (s : List Char) : Option Instant :=
  strict? s <|> withOffset? .blanks s <|> withOffset? .letter s

/-- What the layouts without an offset make of a text, in their order. -/
def naive? (s : List Char) : Option Civil :=
  local? .blanks s <|> local? .letter s <|> midnight? s

theorem parse?_of_zoned {text s : List Char} {t : Instant} (htrim : Text.trim text = s)
    (h : zoned? s = some t) (configured : Int) : parse? text configured = some t.canonical := by
  unfold zoned? at h
  simp only [parse?, htrim, h]

theorem parse?_of_naive {text s : List Char} (htrim : Text.trim text = s) (h : zoned? s = none)
    (hnaive : naive? s = some c) (configured : Int) :
    parse? text configured = (c.toInstant? configured).map Instant.canonical := by
  unfold zoned? at h
  unfold naive? at hnaive
  simp only [parse?, htrim, h, hnaive, Option.bind_some]

/-! ### Texts with an offset -/

theorem strict?_text_utc (h : c.Writable width) (between : Between) (lower : Bool) :
    strict? ((Form.utc between lower).text c width) = c.toInstant? 0 := by
  have hzone : strictOffset [if lower then 'z' else 'Z'] = some (0, []) := by
    cases lower <;> rfl
  exact strict?_eq (strictCivil_write h between.char_eq (ends_utc lower)) hzone (by decide)

theorem strict?_text_internet (h : c.Writable width) (between : Between) (zone : Zone) :
    strict? ((Form.internet between zone).text c width) = c.toInstant? zone.seconds :=
  strict?_eq (strictCivil_write h between.char_eq (ends_text zone false true))
    (strictOffset_text zone) zone.isWithinDay_seconds

/-- The strict layout takes it too where the colon is there and the blank is not. -/
theorem strict?_text_spaced (h : c.Writable width) (zone : Zone) (blank colon : Bool) :
    strict? ((Form.spaced zone blank colon).text c width) = none ∨
      strict? ((Form.spaced zone blank colon).text c width) = c.toInstant? zone.seconds := by
  have hcivil := strictCivil_write h Between.blank.char_eq (ends_text zone blank colon)
  cases blank with
  | true => exact .inl (strict?_eq_none hcivil rfl)
  | false =>
    cases colon with
    | false => exact .inl (strict?_eq_none hcivil (strictOffset_text_false zone))
    | true => exact .inr (strict?_eq hcivil (strictOffset_text zone) zone.isWithinDay_seconds)

theorem withOffset?_text_spaced (h : c.Writable width) (zone : Zone) (blank colon : Bool) :
    withOffset? .blanks ((Form.spaced zone blank colon).text c width) =
      c.toInstant? zone.seconds :=
  withOffset?_eq (civil_write h .blanks (ends_text zone blank colon))
    (trimStart_text zone blank colon)

/-- A text with an offset is the local time at that offset, in the first layout that takes it. -/
theorem zoned?_text (h : c.Writable width) {form : Form} {offset : Int}
    (hoffset : form.offset? = some offset) {t : Instant} (ht : c.toInstant? offset = some t) :
    zoned? (form.text c width) = some t := by
  cases form with
  | utc between lower =>
    obtain rfl := Option.some.inj hoffset
    rw [zoned?, strict?_text_utc h, ht]
    rfl
  | internet between zone =>
    obtain rfl := Option.some.inj hoffset
    rw [zoned?, strict?_text_internet h, ht]
    rfl
  | spaced zone blank colon =>
    obtain rfl := Option.some.inj hoffset
    rcases strict?_text_spaced h zone blank colon with hstrict | hstrict
    · rw [zoned?, hstrict, withOffset?_text_spaced h, ht]
      rfl
    · rw [zoned?, hstrict, ht]
      rfl
  | naive gap => exact absurd hoffset (by simp [Form.offset?])
  | dateOnly => exact absurd hoffset (by simp [Form.offset?])

/-! ### Texts without one -/

/-- No layout with an offset takes a text that ends with its time, or with its date. -/
theorem zoned?_eq_none {s : List Char} (hstrict : strict? s = none)
    (hcivil : ∀ gap, civil gap s = none ∨ civil gap s = some (c, [])) : zoned? s = none := by
  rw [zoned?, hstrict, withOffset?_eq_none (hcivil _), withOffset?_eq_none (hcivil _)]
  rfl

theorem civil_text_naive (h : c.Writable width) (gap : Gap) :
    civil gap ((Form.naive gap).text c width) = some (c, []) := by
  have hcivil := civil_write h gap ends_nil
  rw [List.append_nil] at hcivil
  exact hcivil

theorem civil_text_naive_other (h : c.Writable width) {gap other : Gap} (hne : gap ≠ other) :
    civil gap ((Form.naive other).text c width) = none :=
  civil_other h hne _

theorem zoned?_text_naive (h : c.Writable width) (gap : Gap) :
    zoned? ((Form.naive gap).text c width) = none := by
  have hbetween : gap.char = 't' ∨ gap.char = 'T' ∨ gap.char = ' ' := by
    cases gap <;> simp [Gap.char]
  have hstrict := strictCivil_write h hbetween ends_nil
  rw [List.append_nil] at hstrict
  refine zoned?_eq_none (c := c) (strict?_eq_none hstrict rfl) fun other => ?_
  by_cases heq : other = gap
  · exact .inr (heq ▸ civil_text_naive h other)
  · exact .inl (civil_text_naive_other h heq)

theorem naive?_text_naive (h : c.Writable width) (gap : Gap) :
    naive? ((Form.naive gap).text c width) = some c := by
  have hlocal := local?_eq (civil_text_naive h gap) h.valid
  cases gap with
  | blanks =>
    rw [naive?, hlocal]
    rfl
  | letter =>
    have hblanks : local? .blanks ((Form.naive .letter).text c width) = none :=
      local?_eq_none (civil_text_naive_other h (by decide))
    rw [naive?, hblanks, hlocal]
    rfl

theorem zoned?_text_dateOnly (h : c.Writable width) :
    zoned? (Form.dateOnly.text c width) = none := by
  have hstrict : strict? (Form.dateOnly.text c width) = none := by
    simp [strict?, bind, Form.text, strictCivil_dateText h]
  exact zoned?_eq_none (c := c) hstrict fun gap => .inl (civil_dateText h gap)

theorem naive?_text_dateOnly (h : c.Writable width)
    (midnight : c.hour = 0 ∧ c.minute = 0 ∧ c.second = 0 ∧ c.nanos = 0) :
    naive? (Form.dateOnly.text c width) = some c := by
  have hdate : date (Form.dateOnly.text c width) = some (c.date, []) := by
    have hdate := date_dateText h []
    rw [List.append_nil] at hdate
    exact hdate
  have hc : (⟨c.date, 0, 0, 0, 0⟩ : Civil) = c := by
    obtain ⟨d, hour, minute, second, nanos⟩ := c
    obtain ⟨rfl, rfl, rfl, rfl⟩ := midnight
    rfl
  have hmidnight : midnight? (Form.dateOnly.text c width) = some c := by
    simp [midnight?, bind, hdate, hc, h.valid]
  have hlocal : ∀ gap, local? gap (Form.dateOnly.text c width) = none :=
    fun gap => local?_eq_none (civil_dateText h gap)
  rw [naive?, hlocal, hlocal, hmidnight]
  rfl

end Layout

/-! ### Blanks around a text -/

theorem Civil.exists_clockText (c : Civil) (width : Nat) :
    ∃ s least n, c.clockText width = s ++ zeroPad least n := by
  unfold Civil.clockText Layout.fractionText
  split_ifs with h
  · exact ⟨_, 2, c.second, by rw [List.append_nil, List.append_cons]⟩
  · exact ⟨_, width, c.nanos / 10 ^ (9 - width), by rw [List.append_cons]⟩

theorem Zone.exists_text (z : Zone) (colon : Bool) :
    ∃ s, z.text colon = s ++ zeroPad 2 (z.minutes % 60) :=
  ⟨_, (List.append_assoc _ _ _).symm⟩

namespace Form

variable {c : Civil} {width : Nat}

/-- A text ends with digits or with the letter of Coordinated Universal Time. -/
theorem exists_text (form : Form) (c : Civil) (width : Nat) :
    (∃ s least n, form.text c width = s ++ zeroPad least n) ∨
      ∃ s, ∃ lower : Bool, form.text c width = s ++ [if lower then 'z' else 'Z'] := by
  cases form with
  | utc between lower => exact .inr ⟨_, lower, rfl⟩
  | internet between zone =>
    obtain ⟨s, hs⟩ := zone.exists_text true
    exact .inl ⟨_, 2, _, by rw [text, hs, ← List.append_assoc]⟩
  | spaced zone blank colon =>
    obtain ⟨s, hs⟩ := zone.exists_text colon
    exact .inl ⟨_, 2, _, by rw [text, hs, ← List.append_assoc, ← List.append_assoc]⟩
  | naive gap =>
    obtain ⟨s, least, n, hs⟩ := c.exists_clockText width
    exact .inl ⟨_, least, n, by rw [text, hs, ← List.cons_append, ← List.append_assoc]⟩
  | dateOnly =>
    exact .inl ⟨_, 2, c.date.day, by
      rw [text, Instant.dateText, List.append_cons]⟩

theorem isBlank_getLast? (form : Form) (c : Civil) (width : Nat) :
    ∀ d ∈ (form.text c width).getLast?, Text.isBlank d = false := by
  intro d hd
  obtain ⟨s, least, n, htext⟩ | ⟨s, lower, htext⟩ := form.exists_text c width
  · rw [htext, List.getLast?_append_of_ne_nil _ (Text.zeroPad_ne_nil least n)] at hd
    exact Text.isBlank_of_isDigit (Text.isDigit_zeroPad d (List.mem_of_getLast? hd))
  · rw [htext, List.getLast?_concat] at hd
    rw [← Option.some.inj hd]
    cases lower <;> decide

theorem exists_dateText_append (form : Form) (c : Civil) (width : Nat) :
    ∃ s, form.text c width = Instant.dateText c.date ++ s := by
  cases form with
  | dateOnly => exact ⟨[], (List.append_nil _).symm⟩
  | naive gap => exact ⟨_, rfl⟩
  | utc | internet | spaced => exact ⟨_, List.append_assoc _ _ _⟩

theorem trim_text (form : Form) (h : c.Writable width) {lead trail : List Char}
    (hlead : ∀ d ∈ lead, Text.isBlank d = true) (htrail : ∀ d ∈ trail, Text.isBlank d = true) :
    Text.trim (lead ++ form.text c width ++ trail) = form.text c width := by
  obtain ⟨y, -, -, hdate⟩ := h.exists_dateText
  obtain ⟨s, hs⟩ := form.exists_dateText_append c width
  obtain ⟨d, ds, hds, hd⟩ := Text.exists_cons_zeroPad 4 y
  have hcons : ∃ r, form.text c width = d :: r := by
    rw [hs, hdate, hds]
    exact ⟨_, rfl⟩
  obtain ⟨r, hr⟩ := hcons
  refine Text.trim_padded hlead htrail (by simp [hr]) ?_ (form.isBlank_getLast? c width)
  intro e he
  rw [hr] at he
  rw [← Option.some.inj he]
  exact Text.isBlank_of_isDigit hd

end Form

namespace Layout

/-- Every layout is read as the instant it shows, floored to the microsecond. A text with an offset
is read at it, whatever offset is configured, and one without is local to that one. -/
theorem parse?_text (form : Form) {c : Civil} {width : Nat} (h : c.Writable width)
    (hdate : form = .dateOnly → c.hour = 0 ∧ c.minute = 0 ∧ c.second = 0 ∧ c.nanos = 0)
    {lead trail : List Char} (hlead : ∀ d ∈ lead, Text.isBlank d = true)
    (htrail : ∀ d ∈ trail, Text.isBlank d = true) (configured : Int)
    (fits : Number.fitsInt64 (c.nanosAt (form.offset?.getD configured)) = true) :
    parse? (lead ++ form.text c width ++ trail) configured =
      some (c.floored (form.offset?.getD configured)) := by
  have htrim := form.trim_text h hlead htrail
  obtain ⟨t, ht, hcanonical⟩ := Civil.exists_toInstant? h fits
  rw [← hcanonical]
  cases hoffset : form.offset? with
  | some offset =>
    rw [hoffset] at ht
    exact parse?_of_zoned htrim (zoned?_text h hoffset ht) configured
  | none =>
    rw [hoffset] at ht
    have hnaive : zoned? (form.text c width) = none ∧ naive? (form.text c width) = some c := by
      cases form with
      | utc | internet | spaced => exact absurd hoffset (by simp [Form.offset?])
      | naive gap => exact ⟨zoned?_text_naive h gap, naive?_text_naive h gap⟩
      | dateOnly => exact ⟨zoned?_text_dateOnly h, naive?_text_dateOnly h (hdate rfl)⟩
    rw [parse?_of_naive htrim hnaive.1 hnaive.2 configured]
    exact congrArg (Option.map Instant.canonical) ht

theorem parse?_text_before_1970 :
    parse? " 1969-12-31 18:59:59.0000019 -0500".toList 3600 = some ⟨-1, 1000⟩ ∧
      parse? "1970-01-01T00:30:00.5".toList 3600 = some ⟨-1800, 500000000⟩ := by
  have hzoned : (⟨⟨1969, 12, 31⟩, 18, 59, 59, 1900⟩ : Civil).Writable 7 := by
    constructor <;> decide
  have hnaive : (⟨⟨1970, 1, 1⟩, 0, 30, 0, 500000000⟩ : Civil).Writable 1 := by
    constructor <;> decide
  have hblank : ∀ d ∈ [' '], Text.isBlank d = true := List.forall_mem_singleton.2 (by decide)
  have hnone := List.forall_mem_nil fun d => Text.isBlank d = true
  constructor
  · have htext : " 1969-12-31 18:59:59.0000019 -0500".toList =
        [' '] ++ (Form.spaced ⟨true, 300, by decide⟩ true false).text
          ⟨⟨1969, 12, 31⟩, 18, 59, 59, 1900⟩ 7 ++ [] := by decide +kernel
    rw [htext, parse?_text (.spaced ⟨true, 300, by decide⟩ true false) hzoned nofun hblank hnone
      3600 (by decide)]
    decide +kernel
  · have htext : "1970-01-01T00:30:00.5".toList =
        [] ++ (Form.naive .letter).text ⟨⟨1970, 1, 1⟩, 0, 30, 0, 500000000⟩ 1 ++ [] := by
      decide +kernel
    rw [htext, parse?_text (.naive .letter) hnaive nofun hnone hnone 3600 (by decide)]
    decide +kernel

end Layout
end FleetProfile.Time
