import FleetProfile.Proofs.Toml.Strings
import Mathlib.Data.Nat.Digits.Defs

/-! Values read back at the end of a line. Digits could also begin a date, a time of day or a float,
but none of their marks follows them there. -/
namespace FleetProfile.Toml
open Number (digitsValue maxInt64 fitsInt64)

theorem ne_of_isDigit {c d : Char} (hc : c.isDigit = true) (hd : d.isDigit = false) : c ≠ d := by
  rintro rfl
  exact absurd (hc.symm.trans hd) (by decide)

theorem isDigit_toDigits (n : Nat) : ∀ c ∈ Nat.toDigits 10 n, c.isDigit = true :=
  fun _ hc => Nat.isDigit_of_mem_toDigits (by decide) (by decide) hc

theorem exists_cons_toDigits (n : Nat) :
    ∃ c ds, Nat.toDigits 10 n = c :: ds ∧ c.isDigit = true := by
  obtain ⟨c, ds, hds⟩ := List.exists_cons_of_ne_nil (@Nat.toDigits_ne_nil n 10)
  exact ⟨c, ds, hds, isDigit_toDigits n c (hds ▸ List.mem_cons_self)⟩

/-- The digits of a number begin with a zero only if it is zero. -/
theorem exists_toDigits {n : Nat} (pos : 0 < n) :
    ∃ c ds, Nat.toDigits 10 n = c :: ds ∧ c ≠ '0' := by
  induction n using Nat.strongRecOn with
  | ind n ih =>
    rw [Nat.toDigits_eq_if (by decide)]
    split_ifs with hlt
    · have hdigit : ∀ n < 10, 0 < n → n.digitChar ≠ '0' := by decide
      exact ⟨n.digitChar, [], rfl, hdigit n hlt pos⟩
    · obtain ⟨c, ds, hds, hc⟩ := ih (n / 10) (by omega) (by omega)
      exact ⟨c, ds ++ [(n % 10).digitChar], by rw [hds, List.cons_append], hc⟩

theorem digitsValue_toDigits (n : Nat) : digitsValue 0 (Nat.toDigits 10 n) = n := by
  have h := @Nat.ofDigitChars_ten_toDigits n
  rwa [Nat.ofDigitChars_eq_foldl] at h

theorem readInt64?_toDigits {n : Nat} (fits : (n : Int) ≤ maxInt64) :
    Number.readInt64? (Nat.toDigits 10 n) = some (n : Int) := by
  have hall : (Nat.toDigits 10 n).all Char.isDigit = true :=
    List.all_eq_true.2 (isDigit_toDigits n)
  have hsplit : Number.splitSign (Nat.toDigits 10 n) = (false, Nat.toDigits 10 n) := by
    obtain ⟨c, ds, hds, hc⟩ := exists_cons_toDigits n
    rw [hds, Number.splitSign]
    · exact fun r h => ne_of_isDigit hc (by decide) (List.cons.inj h).1
    · exact fun r h => ne_of_isDigit hc (by decide) (List.cons.inj h).1
  have hfits : fitsInt64 (n : Int) = true := by
    unfold fitsInt64 Number.minInt64
    simp only [Bool.and_eq_true, decide_eq_true_eq]
    omega
  simp only [Number.readInt64?, hsplit, Number.readNat?, ne_eq, Nat.toDigits_ne_nil,
    not_false_eq_true, hall, and_self, if_true, digitsValue_toDigits, Bool.false_eq_true,
    if_false, hfits]

variable {ds rest : List Char}

/-! ### What does not read digits -/

theorem followed_eq_none {a b : Reader (List Char)} {s : List Char}
    (h : ∀ x r, a s = some (x, r) → b r = none) : followed a b s = none := by
  unfold followed
  cases ha : a s with
  | none => rfl
  | some found =>
    simp only [h _ _ ha]
    rfl

/-- A field takes some of the digits, and the line break still follows. -/
theorem rest_readField (hds : ∀ c ∈ ds, c.isDigit = true) {width least most : Nat}
    {x r : List Char} (h : readField width least most (ds ++ '\n' :: rest) = some (x, r)) :
    ∃ ds', r = ds' ++ '\n' :: rest ∧ ∀ c ∈ ds', c.isDigit = true := by
  unfold readField Number.readNat? at h
  by_cases hle : width ≤ ds.length
  · have hr : r = ds.drop width ++ '\n' :: rest := by
      rw [← List.drop_append_of_le_length hle]
      simp only at h
      split at h
      · split_ifs at h
        exact (congrArg Prod.snd (Option.some.inj h)).symm
      · exact absurd h (by simp)
    exact ⟨ds.drop width, hr, fun c hc => hds c (List.mem_of_mem_drop hc)⟩
  · -- The line break is among the characters that are taken.
    have hmem : '\n' ∈ (ds ++ '\n' :: rest).take width := by
      rw [List.take_append, List.take_of_length_le (by omega)]
      obtain ⟨k, hk⟩ : ∃ k, width - ds.length = k + 1 := ⟨width - ds.length - 1, by omega⟩
      rw [hk, List.take_succ_cons]
      exact List.mem_append_right _ List.mem_cons_self
    have hall : ((ds ++ '\n' :: rest).take width).all Char.isDigit = false :=
      List.all_eq_false.2 ⟨'\n', hmem, by decide⟩
    simp [hall] at h

theorem readMark_digits {ok : Char → Bool} (hds : ∀ c ∈ ds, c.isDigit = true)
    (digit : ∀ c, c.isDigit = true → ok c = false) (lineBreak : ok '\n' = false) :
    readMark ok (ds ++ '\n' :: rest) = none := by
  cases ds with
  | nil => simp only [List.nil_append, readMark, lineBreak, Bool.false_eq_true, if_false]
  | cons c ds =>
    simp only [List.cons_append, readMark, digit c (hds c List.mem_cons_self), Bool.false_eq_true,
      if_false]

/-- A field with a mark after it is not read, as after the digits comes the line break. -/
theorem followed_readField_readMark (hds : ∀ c ∈ ds, c.isDigit = true) {mark : Char}
    (hmark : mark.isDigit = false) (lineBreak : mark ≠ '\n') (width least most : Nat)
    (more : Reader (List Char)) :
    followed (readField width least most) (followed (readMark (· == mark)) more)
      (ds ++ '\n' :: rest) = none := by
  refine followed_eq_none fun x r hx => followed_eq_none fun y r' hy => ?_
  obtain ⟨ds', rfl, hds'⟩ := rest_readField hds hx
  have hnone : readMark (· == mark) (ds' ++ '\n' :: rest) = none :=
    readMark_digits hds' (fun c hc => beq_eq_false_iff_ne.2 (ne_of_isDigit hc hmark))
      (beq_eq_false_iff_ne.2 lineBreak.symm)
  exact absurd (hnone.symm.trans hy) (by simp)

theorem readMoment_digits (hds : ∀ c ∈ ds, c.isDigit = true) :
    readMoment (ds ++ '\n' :: rest) = none := by
  have hdate : readDate (ds ++ '\n' :: rest) = none := by
    unfold readDate
    rw [followed_readField_readMark hds (by decide) (by decide)]
  have hclock : readClock (ds ++ '\n' :: rest) = none :=
    followed_readField_readMark hds (by decide) (by decide) _ _ _ _
  have hfull : ∀ more, followed readDate more (ds ++ '\n' :: rest) = none := fun more =>
    followed_eq_none fun x r hx => absurd (hdate.symm.trans hx) (by simp)
  simp only [readMoment, hfull, hclock, Option.map_none]

/-! ### What reads them -/

theorem readDigits_append {acc : List Char} {fuel : Nat} (hds : ∀ c ∈ ds, c.isDigit = true)
    (hne : acc ≠ [] ∨ ds ≠ []) (hfuel : ds.length < fuel) :
    readDigits Char.isDigit fuel acc (ds ++ '\n' :: rest) =
      some (acc.reverse ++ ds, '\n' :: rest) := by
  induction ds generalizing acc fuel with
  | nil =>
    obtain ⟨fuel, rfl⟩ : ∃ f, fuel = f + 1 := ⟨fuel - 1, by omega⟩
    have hacc : acc ≠ [] := hne.resolve_right fun h => h rfl
    simp [readDigits, hacc]
  | cons c ds ih =>
    obtain ⟨fuel, rfl⟩ : ∃ f, fuel = f + 1 := ⟨fuel - 1, by omega⟩
    obtain ⟨hc, hds⟩ := List.forall_mem_cons.1 hds
    rw [List.length_cons] at hfuel
    have hstep : readDigits Char.isDigit (fuel + 1) acc (c :: ds ++ '\n' :: rest) =
        readDigits Char.isDigit fuel (c :: acc) (ds ++ '\n' :: rest) := by
      rw [List.cons_append, readDigits, if_pos hc]
      exact fun _ _ h => absurd h (ne_of_isDigit hc (by decide))
    rw [hstep, ih hds (.inl (by simp)) (by omega)]
    simp

theorem readSign_toDigits (n : Nat) :
    readSign (Nat.toDigits 10 n ++ rest) = ([], Nat.toDigits 10 n ++ rest) := by
  obtain ⟨c, ds, hds, hc⟩ := exists_cons_toDigits n
  rw [hds, List.cons_append, readSign]
  · exact fun r h => ne_of_isDigit hc (by decide) (List.cons.inj h).1
  · exact fun r h => ne_of_isDigit hc (by decide) (List.cons.inj h).1

theorem readDecimal_toDigits (n : Nat) :
    readDecimal (Nat.toDigits 10 n ++ '\n' :: rest) = some (Nat.toDigits 10 n, '\n' :: rest) := by
  rcases Nat.eq_zero_or_pos n with rfl | pos
  · rfl
  · have hdigits : digits Char.isDigit (Nat.toDigits 10 n ++ '\n' :: rest) =
        some (Nat.toDigits 10 n, '\n' :: rest) := by
      unfold digits
      rw [readDigits_append (isDigit_toDigits n) (.inr Nat.toDigits_ne_nil)]
      · rfl
      · rw [List.length_append]
        omega
    obtain ⟨c, ds, hds, hc⟩ := exists_toDigits pos
    simp only [readDecimal, readSign_toDigits]
    split
    · rename_i heq
      rw [hds, List.cons_append] at heq
      exact absurd (List.cons.inj heq).1 hc
    · rw [hdigits]
      rfl

theorem readSpecialFloat_toDigits (n : Nat) :
    readSpecialFloat (Nat.toDigits 10 n ++ rest) = none := by
  obtain ⟨c, ds, hds, hc⟩ := exists_cons_toDigits n
  have hword : ∀ d word, d.isDigit = false → (d :: word).isPrefixOf (c :: ds ++ rest) = false := by
    intro d word hd
    rw [List.cons_append, List.isPrefixOf, beq_eq_false_iff_ne.2 (ne_of_isDigit hc hd).symm,
      Bool.false_and]
  have hinf : "inf".toList.isPrefixOf (c :: ds ++ rest) = false := hword 'i' _ (by decide)
  have hnan : "nan".toList.isPrefixOf (c :: ds ++ rest) = false := hword 'n' _ (by decide)
  simp only [readSpecialFloat, readSign_toDigits]
  rw [hds, hinf, hnan]
  rfl

theorem readInteger_toDigits {n : Nat} (fits : (n : Int) ≤ maxInt64) :
    readInteger (Nat.toDigits 10 n ++ '\n' :: rest) = some (.integer n, '\n' :: rest) := by
  rcases Nat.eq_zero_or_pos n with rfl | pos
  · rfl
  · obtain ⟨c, ds, hds, hc⟩ := exists_toDigits pos
    have hdecimal : readDecimal (Nat.toDigits 10 n ++ '\n' :: rest) =
        some (Nat.toDigits 10 n, '\n' :: rest) := readDecimal_toDigits n
    have hvalue := readInt64?_toDigits fits
    rw [hds] at hvalue hdecimal ⊢
    rw [List.cons_append] at hdecimal ⊢
    rw [readInteger]
    · simp only [hdecimal, hvalue, Option.map_some]
    all_goals exact fun _ h => hc (List.cons.inj h).1

theorem readNumber_toDigits {n : Nat} (fits : (n : Int) ≤ maxInt64) :
    readNumber (Nat.toDigits 10 n ++ '\n' :: rest) = some (.integer n, '\n' :: rest) := by
  have hfloat : readFloat (Nat.toDigits 10 n ++ '\n' :: rest) = none := by
    simp only [readFloat, readDecimal_toDigits]
    rfl
  rw [readNumber, readMoment_digits (isDigit_toDigits n), hfloat, readSpecialFloat_toDigits,
    readInteger_toDigits fits]
  rfl

/-! ### Scalars -/

/-- The values that settings have: texts, truth values, and numbers without a sign. -/
inductive Scalar : Value → Prop
  | string (s : String) : Scalar (.string s)
  | boolean (b : Bool) : Scalar (.boolean b)
  | integer {n : Nat} (fits : (n : Int) ≤ maxInt64) : Scalar (.integer n)

theorem Form.exists_write (form : Form) (s : List Char) :
    ∃ c t, form.write s = c :: t ∧ (c = '"' ∨ c = apostrophe) := by
  cases form with
  | basic => exact ⟨_, _, rfl, .inl rfl⟩
  | literal => exact ⟨_, _, rfl, .inr rfl⟩
  | basicBlock => exact ⟨_, _, rfl, .inl rfl⟩
  | literalBlock => exact ⟨_, _, rfl, .inr rfl⟩

theorem valueText_integer (n : Nat) : valueText (.integer n) = Nat.toDigits 10 n := by
  rw [valueText]
  show (Nat.repr n).toList = _
  rw [Nat.repr_eq_ofList_toDigits, String.toList_ofList]

theorem readValue_string {fuel depth : Nat} {s : String} {c : Char} {t r : List Char}
    (hc : c = '"' ∨ c = apostrophe) (h : readString (c :: t) = some (s, r)) :
    readValue (fuel + 1) depth (c :: t) = some (.string s, r) := by
  have hquote : (c == '"' || c == apostrophe) = true := by
    rcases hc with rfl | rfl <;> rfl
  simp only [readValue, hquote, if_true, h, Option.map_some]

theorem readValue_digit {fuel depth : Nat} {c : Char} {t : List Char} (hc : c.isDigit = true) :
    readValue (fuel + 1) depth (c :: t) = readNumber (c :: t) := by
  have hne : ∀ d : Char, d.isDigit = false → (c == d) = false := fun d hd =>
    beq_eq_false_iff_ne.2 (ne_of_isDigit hc hd)
  simp only [readValue, hne '"' (by decide), hne apostrophe (by decide), hne '[' (by decide),
    hne '\x7b' (by decide), hne 't' (by decide), hne 'f' (by decide), Bool.or_self,
    Bool.false_eq_true, if_false]

/-- What stands at the end of a line is read back. -/
theorem readAnyValue_valueText {v : Value} (h : Scalar v) :
    readAnyValue (valueText v ++ '\n' :: rest) = some (v, '\n' :: rest) := by
  unfold readAnyValue
  cases h with
  | string s =>
    have hread : readString (stringText s ++ '\n' :: rest) = some (s, '\n' :: rest) := by
      refine readString_stringText s ?_
      rintro _ ⟨⟩
      decide
    obtain ⟨c, t, ht, hc⟩ := (Form.plainest s.toList).exists_write s.toList
    rw [stringText, ht] at hread
    rw [valueText, stringText, ht]
    exact readValue_string hc hread
  | boolean b => cases b <;> rfl
  | @integer n fits =>
    obtain ⟨c, ds, hds, hc⟩ := exists_cons_toDigits n
    have hnumber : readNumber (Nat.toDigits 10 n ++ '\n' :: rest) =
        some (.integer n, '\n' :: rest) := readNumber_toDigits fits
    rw [valueText_integer]
    rw [hds, List.cons_append] at hnumber ⊢
    rw [readValue_digit hc]
    exact hnumber

end FleetProfile.Toml
