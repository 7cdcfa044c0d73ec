import FleetProfile.Proofs.AcceptedRows
import Mathlib.Data.List.TakeWhile
import Mathlib.Data.Nat.Digits.Defs

/-! Integers as sources send them, and what the columns that take an integer make of them. What 64
bits do not hold goes through a double, so that at both limits some integers become the limit. -/
namespace FleetProfile

/-! ### Large integers as doubles -/

namespace Number

/-- A size with its sign. -/
def signed (negative : Bool) (n : Nat) : Int :=
  if negative then -(n : Int) else n

theorem div_le_roundEven (num den : Nat) : num / den ≤ roundEven num den := by
  unfold roundEven
  dsimp only
  split_ifs <;> omega

namespace Binary

theorem inUnits_natCast (m e : Nat) : inUnits m 1 e = (m, 2 ^ e) := by
  simp [inUnits, powTwo]

theorem toInt?_finite (s : Bool) (m e : Nat) :
    (finite s m e).toInt? = some (signed s (m * 2 ^ e)) := by
  simp [toInt?, fraction, powTwo, signed, Nat.mod_one]

/-- Above the precision of a double an integer is rounded in units of a power of two. -/
theorem toInt?_ofRatio {m e : Nat} (hlow : 2 ^ (52 + e) ≤ m) (hhigh : m < 2 ^ (53 + e))
    (he : 0 < e) (s : Bool) :
    (ofRatio binary64 s m 1).toInt? = some (signed s (roundEven m (2 ^ e) * 2 ^ e)) ∨
      971 ≤ e ∧ (ofRatio binary64 s m 1).toInt? = none := by
  have hpos : m ≠ 0 := by
    have := Nat.two_pow_pos (52 + e)
    omega
  have hlog : m.log2 = 52 + e :=
    (Nat.log2_eq_iff hpos).2 ⟨hlow, by rwa [show 52 + e + 1 = 53 + e by omega]⟩
  have hunit : (m.log2 : Int) - (Nat.log2 1 : Nat) - (53 : Nat) = (e - 1 : Nat) := by
    rw [hlog, show Nat.log2 1 = 0 by decide]
    omega
  have hwide : ¬ m / 2 ^ (e - 1) < 2 ^ 53 := by
    rw [Nat.not_lt, Nat.le_div_iff_mul_le (Nat.two_pow_pos _), ← Nat.pow_add]
    rwa [show 53 + (e - 1) = 52 + e by omega]
  have hfit : max (((e - 1 : Nat) : Int) + 1) (-1074) = (e : Nat) := by omega
  unfold ofRatio
  rw [if_neg hpos]
  simp only [binary64, hunit, inUnits_natCast, powTwo, Nat.pow_eq]
  rw [if_neg hwide, hfit, inUnits_natCast]
  dsimp only
  by_cases hcarry : roundEven m (2 ^ e) = 2 ^ 53
  · have hvalue : 2 ^ 53 * 2 ^ e = 2 ^ 53 / 2 * 2 ^ (e + 1) := by
      rw [Nat.pow_succ]
      omega
    rw [if_pos hcarry, hcarry, hvalue, ← toInt?_finite]
    dsimp only
    split_ifs with hover
    · exact .inr ⟨by omega, rfl⟩
    · exact .inl rfl
  · rw [if_neg hcarry, ← toInt?_finite]
    dsimp only
    split_ifs with hover
    · exact .inr ⟨by omega, rfl⟩
    · exact .inl rfl

/-- Past the midpoint behind `2 ^ 63` an integer is rounded to more than that. -/
theorem lt_roundEven_mul {m e : Nat} (hlow : 2 ^ (52 + e) ≤ m) (he : 11 ≤ e)
    (hm : 2 ^ 63 + 1024 < m) : 2 ^ 63 < roundEven m (2 ^ e) * 2 ^ e := by
  rcases he.eq_or_lt with rfl | he
  · have hround : 2 ^ 52 < roundEven m (2 ^ 11) := by
      unfold roundEven
      dsimp only
      split_ifs <;> omega
    omega
  · have hquot : 2 ^ 52 ≤ m / 2 ^ e := by
      rwa [Nat.le_div_iff_mul_le (Nat.two_pow_pos _), ← Nat.pow_add]
    calc 2 ^ 63 < 2 ^ 52 * 2 ^ 12 := by decide
      _ ≤ roundEven m (2 ^ e) * 2 ^ e :=
        Nat.mul_le_mul (hquot.trans (div_le_roundEven _ _)) (Nat.pow_le_pow_right (by decide) he)

end Binary
end Number

namespace Source.RawRow
open Number (Binary binary64 signed minInt64 maxInt64 roundEven)

/-- An integer as it is read: itself if 64 bits hold it, the limit next to it if the double nearest
to it is that limit, and none otherwise. -/
def saturated? (n : Int) : Option Int :=
  if -2 ^ 63 ≤ n ∧ n < 2 ^ 63 then some n
  else if 2 ^ 63 ≤ n ∧ n ≤ 2 ^ 63 + 1024 then some (2 ^ 63 - 1)
  else if -2 ^ 63 - 1024 ≤ n ∧ n < -2 ^ 63 then some (-2 ^ 63)
  else none

theorem saturated?_of_far {m : Nat} (hm : 2 ^ 63 + 1024 < m) (s : Bool) :
    saturated? (signed s m) = none := by
  unfold saturated? signed
  cases s with
  | false =>
    simp only [Bool.false_eq_true, if_false]
    rw [if_neg (by omega), if_neg (by omega), if_neg (by omega)]
  | true =>
    simp only [if_true]
    rw [if_neg (by omega), if_neg (by omega), if_neg (by omega)]

theorem saturated?_of_near {m : Nat} (hlow : 2 ^ 63 ≤ m) (hhigh : m ≤ 2 ^ 63 + 1024) (s : Bool) :
    saturated? (signed s m) = some (if s then minInt64 else maxInt64) := by
  unfold saturated? signed
  cases s with
  | false =>
    simp only [Bool.false_eq_true, if_false]
    rw [if_neg (by omega), if_pos (by omega)]
    rfl
  | true =>
    -- `-2 ^ 63` itself is among the integers that 64 bits hold.
    simp only [if_true]
    split_ifs with hfits habove hbelow
    · rw [show m = 2 ^ 63 by omega]
      rfl
    · omega
    · rfl
    · omega

/-- Where 64 bits end, an integer is read as the limit that its double is, or not at all. -/
theorem integral?_ofRatio {m : Nat} (hm : 2 ^ 63 ≤ m) (s : Bool) :
    integral? (Binary.ofRatio binary64 s m 1) = saturated? (signed s m) := by
  unfold integral?
  by_cases hnear : m ≤ 2 ^ 63 + 1024
  · have hround : roundEven m (2 ^ 11) = 2 ^ 52 := by
      unfold roundEven
      dsimp only
      split_ifs <;> omega
    have hvalue : (Binary.ofRatio binary64 s m 1).toInt? = some (signed s (2 ^ 63)) := by
      rcases Binary.toInt?_ofRatio (e := 11) hm (by omega) (by decide) s with h | ⟨h, -⟩
      · rw [h, hround, ← Nat.pow_add]
      · exact absurd h (by decide)
    rw [hvalue, saturated?_of_near hm hnear]
    cases s <;> rfl
  · have hlog : 63 ≤ m.log2 := (Nat.le_log2 (by omega)).2 hm
    obtain ⟨e, he⟩ : ∃ e, m.log2 = 52 + e := ⟨m.log2 - 52, by omega⟩
    obtain ⟨hlow, hhigh⟩ := (Nat.log2_eq_iff (by omega)).1 he
    have hfar := Binary.lt_roundEven_mul hlow (by omega) (by omega)
    rw [Nat.add_right_comm] at hhigh
    rw [saturated?_of_far (by omega)]
    rcases Binary.toInt?_ofRatio hlow hhigh (by omega) s with h | ⟨-, h⟩
    · rw [h]
      refine if_neg ?_
      unfold signed minInt64 maxInt64
      split_ifs <;> omega
    · rw [h]

/-- The same for a decimal without a point, which may be longer than any double. -/
theorem integral?_ofDecimal {m : Nat} (hm : 2 ^ 63 ≤ m) (s : Bool) :
    integral? (Number.ofDecimal s m 0) = saturated? (signed s m) := by
  unfold Number.ofDecimal
  dsimp only
  rw [if_neg (by omega)]
  by_cases hlong : 400 < ((Nat.toDigits 10 m).length : Int) + 0
  · have hhuge : 10 ^ 20 ≤ m := by
      refine Nat.le_of_not_lt fun hlt => ?_
      have := Nat.toDigits_length 10 m 20 (by decide) hlt
      omega
    rw [if_pos hlong, saturated?_of_far (by omega)]
    rfl
  · have hscale : m * Number.powTen (Int.toNat 0) = m := Nat.mul_one m
    rw [if_neg hlong, if_pos le_rfl, hscale, integral?_ofRatio hm]

end Source.RawRow

/-! ### Numerals -/

theorem Text.isBlank_of_isDigit {c : Char} (hc : c.isDigit = true) : isBlank c = false := by
  simp only [Char.isDigit, Bool.and_eq_true, decide_eq_true_eq] at hc
  have hlow : 48 ≤ c.toNat := UInt32.le_iff_toNat_le.1 hc.1
  have hhigh : c.toNat ≤ 57 := UInt32.le_iff_toNat_le.1 hc.2
  simp [isBlank]
  omega

namespace Number

/-- A row of decimal digits, of any length, with or without a sign, and the integer it denotes. -/
inductive Numeral : List Char → Int → Prop
  | unsigned {ds : List Char} (ne_nil : ds ≠ []) (digits : ∀ c ∈ ds, c.isDigit = true) :
      Numeral ds (Nat.ofDigitChars 10 ds 0)
  | plus {ds : List Char} (ne_nil : ds ≠ []) (digits : ∀ c ∈ ds, c.isDigit = true) :
      Numeral ('+' :: ds) (Nat.ofDigitChars 10 ds 0)
  | minus {ds : List Char} (ne_nil : ds ≠ []) (digits : ∀ c ∈ ds, c.isDigit = true) :
      Numeral ('-' :: ds) (-(Nat.ofDigitChars 10 ds 0 : Int))

namespace Numeral

variable {body : List Char} {n : Int}

/-- What the readers make of the text: its sign, and its digits with their value. -/
theorem splitSign_eq (h : Numeral body n) :
    ∃ s c ds, splitSign body = (s, c :: ds) ∧ (∀ d ∈ c :: ds, d.isDigit = true) ∧
      n = signed s (digitsValue 0 (c :: ds)) := by
  cases h with
  | unsigned ne_nil digits =>
    obtain ⟨c, ds, rfl⟩ := List.exists_cons_of_ne_nil ne_nil
    have hc := digits c List.mem_cons_self
    have hsign (d : Char) (hd : d.isDigit = false) : c ≠ d := by
      rintro rfl
      exact absurd (hc.symm.trans hd) (by decide)
    refine ⟨false, c, ds, ?_, digits, rfl⟩
    rw [splitSign]
    · exact fun r hr => hsign '+' (by decide) (List.cons.inj hr).1
    · exact fun r hr => hsign '-' (by decide) (List.cons.inj hr).1
  | plus ne_nil digits =>
    obtain ⟨c, ds, rfl⟩ := List.exists_cons_of_ne_nil ne_nil
    exact ⟨false, c, ds, rfl, digits, rfl⟩
  | minus ne_nil digits =>
    obtain ⟨c, ds, rfl⟩ := List.exists_cons_of_ne_nil ne_nil
    exact ⟨true, c, ds, rfl, digits, rfl⟩

theorem readInt64?_eq (h : Numeral body n) :
    readInt64? body = if fitsInt64 n then some n else none := by
  obtain ⟨s, c, ds, hsplit, hdigits, rfl⟩ := h.splitSign_eq
  have hall : (c :: ds).all Char.isDigit = true := List.all_eq_true.2 hdigits
  simp only [readInt64?, hsplit, readNat?, ne_eq, reduceCtorEq, not_false_eq_true, hall, and_self,
    if_true]
  rfl

theorem isWord_cons {c w : Char} {ds ws : List Char} (hc : c.isDigit = true)
    (hw : w.isDigit = false) : isWord (String.ofList (w :: ws)) (c :: ds) = false := by
  have hlower : c.toLower = c := by
    simp only [Char.isDigit, Bool.and_eq_true, decide_eq_true_eq] at hc
    unfold Char.toLower
    grind
  rw [isWord, String.toList_ofList, List.map_cons, hlower, beq_eq_false_iff_ne]
  intro heq
  rw [(List.cons.inj heq).1] at hc
  exact absurd (hc.symm.trans hw) (by decide)

theorem readDouble?_eq (h : Numeral body n) :
    ∃ s m, n = signed s m ∧ readDouble? body = some (ofDecimal s m 0) := by
  obtain ⟨s, c, ds, hsplit, hdigits, rfl⟩ := h.splitSign_eq
  refine ⟨s, _, rfl, ?_⟩
  have hc : c.isDigit = true := hdigits c List.mem_cons_self
  have hinf : isWord "inf" (c :: ds) = false := isWord_cons hc (w := 'i') (by decide)
  have hinfinity : isWord "infinity" (c :: ds) = false := isWord_cons hc (w := 'i') (by decide)
  have hnan : isWord "nan" (c :: ds) = false := isWord_cons hc (w := 'n') (by decide)
  have htake : (c :: ds).takeWhile Char.isDigit = c :: ds := List.takeWhile_eq_self_iff.2 hdigits
  have hdrop : (c :: ds).dropWhile Char.isDigit = [] := List.dropWhile_eq_nil_iff.2 hdigits
  simp [readDouble?, hsplit, hinf, hinfinity, hnan, htake, hdrop, readExponent?]

theorem not_blank (h : Numeral body n) :
    body ≠ [] ∧ (∀ c ∈ body, Text.isBlank c = false) := by
  have hsign : Text.isBlank '+' = false ∧ Text.isBlank '-' = false := by decide
  cases h with
  | unsigned ne_nil digits => exact ⟨ne_nil, fun c hc => Text.isBlank_of_isDigit (digits c hc)⟩
  | plus ne_nil digits =>
    exact ⟨List.cons_ne_nil _ _,
      List.forall_mem_cons.2 ⟨hsign.1, fun c hc => Text.isBlank_of_isDigit (digits c hc)⟩⟩
  | minus ne_nil digits =>
    exact ⟨List.cons_ne_nil _ _,
      List.forall_mem_cons.2 ⟨hsign.2, fun c hc => Text.isBlank_of_isDigit (digits c hc)⟩⟩

end Numeral
end Number

/-! ### Columns -/

namespace Source
open Number (Binary binary64 signed minInt64 maxInt64 fitsInt64 Numeral)

/-- How a source sends an integer: as a number, or as a text with blanks around the numeral. -/
inductive Spells : Json → Int → Prop
  | number (n : Int) : Spells (.int n) n
  | text {lead body trail : List Char} {n : Int} (hlead : ∀ c ∈ lead, Text.isBlank c = true)
      (hbody : Numeral body n) (htrail : ∀ c ∈ trail, Text.isBlank c = true) :
      Spells (.string (String.ofList (lead ++ body ++ trail))) n

namespace RawRow

variable {row : RawRow} {column : String} {v : Json} {n : Int}

theorem saturated?_of_fits (h : fitsInt64 n = true) : saturated? n = some n := by
  obtain ⟨hlow, hhigh⟩ := fitsInt64_iff.1 h
  unfold minInt64 at hlow
  unfold maxInt64 at hhigh
  exact if_pos (by omega)

theorem le_of_not_fits {s : Bool} {m : Nat} (h : ¬ fitsInt64 (signed s m) = true) :
    2 ^ 63 ≤ m := by
  rw [fitsInt64_iff] at h
  unfold signed minInt64 maxInt64 at h
  split_ifs at h <;> omega

/-- A JSON number and a text of the same integer are read alike. -/
theorem integer?_of_spells (h : Spells v n) : integer? v = saturated? n := by
  cases h with
  | number =>
    simp only [integer?]
    split_ifs with hfits
    · rw [saturated?_of_fits hfits]
    · have hsigned : n = signed (decide (n < 0)) n.natAbs := by
        unfold signed
        split_ifs with hneg <;> simp at hneg <;> omega
      rw [hsigned] at hfits
      rw [Binary.ofInt, integral?_ofRatio (le_of_not_fits hfits), ← hsigned]
  | text hlead hbody htrail =>
    obtain ⟨hne, hblank⟩ := hbody.not_blank
    have htrim := Text.trim_padded_of_forall hlead htrail hne hblank
    simp only [integer?, String.toList_ofList, htrim, hbody.readInt64?_eq]
    split_ifs with hfits
    · rw [saturated?_of_fits hfits]
    · obtain ⟨s, m, rfl, hdouble⟩ := hbody.readDouble?_eq
      simp only [hdouble, Option.bind_some]
      exact integral?_ofDecimal (le_of_not_fits hfits) s

theorem requiredInt64_of_spells (hget : get? row column = some v) (hv : Spells v n) :
    requiredInt64 row column =
      if -2 ^ 63 ≤ n ∧ n < 2 ^ 63 then .ok n
      else if 2 ^ 63 ≤ n ∧ n ≤ 2 ^ 63 + 1024 then .ok (2 ^ 63 - 1)
      else if -2 ^ 63 - 1024 ≤ n ∧ n < -2 ^ 63 then .ok (-2 ^ 63)
      else .error ⟨column, s!"not an integer: {v.compact}"⟩ := by
  simp only [requiredInt64, required_eq_ok.2 hget, bind, Except.bind, integer?_of_spells hv,
    saturated?]
  split_ifs <;> rfl

theorem requiredInt32_of_spells (hget : get? row column = some v) (hv : Spells v n) :
    if -2 ^ 31 ≤ n ∧ n < 2 ^ 31 then requiredInt32 row column = .ok n
    else ∃ reason, requiredInt32 row column = .error ⟨column, reason⟩ := by
  simp only [requiredInt32, requiredInt64_of_spells hget hv, bind, Except.bind]
  by_cases hfits : -2 ^ 63 ≤ n ∧ n < 2 ^ 63
  · simp only [if_pos hfits]
    split_ifs with hn hread hread
    · rfl
    · omega
    · omega
    · exact ⟨_, rfl⟩
  · rw [if_neg (by omega)]
    split_ifs with habove hbelow
    · exact ⟨_, rfl⟩
    · exact ⟨_, rfl⟩
    · exact ⟨_, rfl⟩

theorem requiredCounter_of_spells (hget : get? row column = some v) (hv : Spells v n) :
    if 0 ≤ n ∧ n < 2 ^ 63 then requiredCounter row column = .ok n
    else if 2 ^ 63 ≤ n ∧ n ≤ 2 ^ 63 + 1024 then requiredCounter row column = .ok (2 ^ 63 - 1)
    else ∃ reason, requiredCounter row column = .error ⟨column, reason⟩ := by
  simp only [requiredCounter, requiredInt64_of_spells hget hv, bind, Except.bind]
  by_cases hfits : -2 ^ 63 ≤ n ∧ n < 2 ^ 63
  · simp only [if_pos hfits]
    by_cases hneg : n < 0
    · rw [if_neg (by omega), if_neg (by omega), if_pos hneg]
      exact ⟨_, rfl⟩
    · rw [if_pos (by omega), if_neg hneg]
  · rw [if_neg (by omega)]
    split_ifs with habove hbelow
    · rfl
    · exact ⟨_, rfl⟩
    · exact ⟨_, rfl⟩

/-- Every integer of 64 bits is read exactly. Of the others, those whose nearest double is a limit
of 64 bits are read as that limit, and the rest are rejected. -/
theorem integer_of_spells (hget : get? row column = some v) (hv : Spells v n) :
    (requiredInt64 row column =
      if -2 ^ 63 ≤ n ∧ n < 2 ^ 63 then .ok n
      else if 2 ^ 63 ≤ n ∧ n ≤ 2 ^ 63 + 1024 then .ok (2 ^ 63 - 1)
      else if -2 ^ 63 - 1024 ≤ n ∧ n < -2 ^ 63 then .ok (-2 ^ 63)
      else .error ⟨column, s!"not an integer: {v.compact}"⟩) ∧
    (if -2 ^ 31 ≤ n ∧ n < 2 ^ 31 then requiredInt32 row column = .ok n
      else ∃ reason, requiredInt32 row column = .error ⟨column, reason⟩) ∧
    (if 0 ≤ n ∧ n < 2 ^ 63 then requiredCounter row column = .ok n
      else if 2 ^ 63 ≤ n ∧ n ≤ 2 ^ 63 + 1024 then requiredCounter row column = .ok (2 ^ 63 - 1)
      else ∃ reason, requiredCounter row column = .error ⟨column, reason⟩) :=
  ⟨requiredInt64_of_spells hget hv, requiredInt32_of_spells hget hv,
    requiredCounter_of_spells hget hv⟩

theorem integer_of_spells_below_limit :
    Spells (.string "\t-09223372036854775809 ") (-2 ^ 63 - 1) ∧
      requiredInt64 [("total_rows", .string "\t-09223372036854775809 ")] "total_rows" =
        .ok (-2 ^ 63) ∧
      ∃ reason, requiredCounter [("total_rows", .string "\t-09223372036854775809 ")] "total_rows" =
        .error ⟨"total_rows", reason⟩ := by
  have hv : Spells (.string "\t-09223372036854775809 ") (-2 ^ 63 - 1) :=
    @Spells.text ['\t'] "-09223372036854775809".toList [' '] _ (List.all_eq_true.1 rfl)
      (.minus (by decide) (List.all_eq_true.1 rfl)) (List.all_eq_true.1 rfl)
  obtain ⟨hint, -, hcounter⟩ := integer_of_spells
    (show get? [("total_rows", .string "\t-09223372036854775809 ")] "total_rows" = _ from rfl) hv
  exact ⟨hv, hint, hcounter⟩

/-- One more than 64 bits hold: the counter that is read is not the one that was sent. -/
theorem counter_two_pow_63 :
    Spells (.int (2 ^ 63)) (2 ^ 63) ∧
      requiredCounter [("total_rows", .int (2 ^ 63))] "total_rows" = .ok (2 ^ 63 - 1) :=
  ⟨.number _, by decide +kernel⟩

end RawRow
end Source

end FleetProfile
