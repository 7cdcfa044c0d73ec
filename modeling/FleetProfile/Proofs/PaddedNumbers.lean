import FleetProfile.Proofs.Integers
import FleetProfile.Proofs.Lists
import FleetProfile.Proofs.Toml.Values
import FleetProfile.Text.Column
import Mathlib.Tactic.Ring

/-! Numbers padded with zeros to a width, as dates and times of day are written. A number that fits
the width fills it, and its digits have its value. -/
namespace FleetProfile.Text

theorem isDigit_zeroPad {width n : Nat} : ∀ c ∈ zeroPad width n, c.isDigit = true := by
  intro c hc
  rcases List.mem_append.1 hc with hc | hc
  · rw [List.eq_of_mem_replicate hc]
    decide
  · exact Toml.isDigit_toDigits n c hc

theorem length_zeroPad {width n : Nat} (pos : 0 < width) (h : n < 10 ^ width) :
    (zeroPad width n).length = width := by
  have hle := (Nat.length_toDigits_le_iff (by decide) pos).2 h
  simp only [zeroPad, List.length_append, List.length_replicate]
  omega

theorem digitsValue_zeroPad (width n : Nat) : Number.digitsValue 0 (zeroPad width n) = n := by
  have hzeros : ∀ k, (List.replicate k '0').foldl
      (fun n c => 10 * n + Number.digitValue c) 0 = 0 := by
    intro k
    induction k with
    | zero => rfl
    | succ k ih => exact ih
  rw [Number.digitsValue, zeroPad, List.foldl_append, hzeros]
  exact Toml.digitsValue_toDigits n

theorem zeroPad_inj {width m n : Nat} : zeroPad width m = zeroPad width n ↔ m = n := by
  refine ⟨fun h => ?_, fun h => by rw [h]⟩
  have hvalue := congrArg (Number.digitsValue 0) h
  rwa [digitsValue_zeroPad, digitsValue_zeroPad] at hvalue

theorem zeroPad_ne_nil (width n : Nat) : zeroPad width n ≠ [] := by
  simp [zeroPad, Nat.toDigits_ne_nil]

theorem exists_cons_zeroPad (width n : Nat) :
    ∃ c ds, zeroPad width n = c :: ds ∧ c.isDigit = true := by
  obtain ⟨c, ds, hds⟩ := List.exists_cons_of_ne_nil (zeroPad_ne_nil width n)
  exact ⟨c, ds, hds, isDigit_zeroPad c (hds ▸ List.mem_cons_self)⟩

theorem trimStart_zeroPad (width n : Nat) (rest : List Char) :
    trimStart (zeroPad width n ++ rest) = zeroPad width n ++ rest := by
  obtain ⟨c, ds, hds, hc⟩ := exists_cons_zeroPad width n
  rw [hds, List.cons_append, trimStart, List.dropWhile_cons_of_neg]
  simp [isBlank_of_isDigit hc]

/-! ### Order -/

open Number (digitValue digitsValue)

theorem digitsValue_cons (c : Char) (ds : List Char) :
    digitsValue 0 (c :: ds) = digitValue c * 10 ^ ds.length + digitsValue 0 ds := by
  have hstart : ∀ start, digitsValue start ds = start * 10 ^ ds.length + digitsValue 0 ds := by
    induction ds with
    | nil => simp [digitsValue]
    | cons d ds ih =>
      intro start
      calc
        digitsValue start (d :: ds) = digitsValue (10 * start + digitValue d) ds := rfl
        _ = start * 10 ^ (ds.length + 1) +
            ((10 * 0 + digitValue d) * 10 ^ ds.length + digitsValue 0 ds) := by
          rw [ih]
          ring
        _ = start * 10 ^ (ds.length + 1) + digitsValue 0 (d :: ds) := by
          rw [← ih]
          rfl
  calc
    digitsValue 0 (c :: ds) = digitsValue (10 * 0 + digitValue c) ds := rfl
    _ = digitValue c * 10 ^ ds.length + digitsValue 0 ds := by
      rw [hstart, Nat.mul_zero, Nat.zero_add]

theorem toNat_of_isDigit {c : Char} (h : c.isDigit = true) :
    c.toNat = 48 + digitValue c ∧ digitValue c < 10 := by
  have hbounds : 48 ≤ c.toNat ∧ c.toNat ≤ 57 := by
    simpa [Char.isDigit, UInt32.le_iff_toNat_le] using h
  unfold digitValue
  omega

theorem digitsValue_lt {ds : List Char} (h : ∀ c ∈ ds, c.isDigit = true) :
    digitsValue 0 ds < 10 ^ ds.length := by
  induction ds with
  | nil => simp [digitsValue]
  | cons c ds ih =>
    rw [List.forall_mem_cons] at h
    have hc := (toNat_of_isDigit h.1).2
    have hle := Nat.mul_le_mul_right (10 ^ ds.length) (Nat.succ_le_of_lt hc)
    have hds := ih h.2
    rw [Nat.succ_mul] at hle
    rw [digitsValue_cons, List.length_cons, Nat.pow_succ]
    omega

theorem lt_iff_digitValue_lt {a b : Char} (ha : a.isDigit = true) (hb : b.isDigit = true) :
    a < b ↔ digitValue a < digitValue b := by
  have hvalue := (toNat_of_isDigit ha).1
  have hvalue' := (toNat_of_isDigit hb).1
  change a.toNat < b.toNat ↔ _
  omega

theorem eq_iff_digitValue_eq {a b : Char} (ha : a.isDigit = true) (hb : b.isDigit = true) :
    a = b ↔ digitValue a = digitValue b := by
  have hvalue := (toNat_of_isDigit ha).1
  have hvalue' := (toNat_of_isDigit hb).1
  rw [← Char.toNat_inj]
  omega

/-- Texts of as many digits are in the order of their values. -/
theorem lt_iff_digitsValue_lt {as bs : List Char} (hlen : as.length = bs.length)
    (ha : ∀ c ∈ as, c.isDigit = true) (hb : ∀ c ∈ bs, c.isDigit = true) :
    as < bs ↔ digitsValue 0 as < digitsValue 0 bs := by
  induction as generalizing bs with
  | nil =>
    obtain rfl := List.length_eq_zero_iff.1 hlen.symm
    simp
  | cons a as ih =>
    cases bs with
    | nil => exact absurd hlen (by simp)
    | cons b bs =>
      rw [List.forall_mem_cons] at ha hb
      have hlen' := Nat.succ.inj hlen
      have hlta := digitsValue_lt ha.2
      have hltb := digitsValue_lt hb.2
      rw [← hlen'] at hltb
      rw [List.cons_lt_cons_iff, lt_iff_digitValue_lt ha.1 hb.1, eq_iff_digitValue_eq ha.1 hb.1,
        ih hlen' ha.2 hb.2, digitsValue_cons, digitsValue_cons, ← hlen']
      -- The first digits decide unless they are the same: what follows counts for less than one.
      rcases lt_trichotomy (digitValue a) (digitValue b) with h | h | h
      · have hle := Nat.mul_le_mul_right (10 ^ as.length) (Nat.succ_le_of_lt h)
        rw [Nat.succ_mul] at hle
        omega
      · rw [h]
        omega
      · have hle := Nat.mul_le_mul_right (10 ^ as.length) (Nat.succ_le_of_lt h)
        rw [Nat.succ_mul] at hle
        omega

theorem zeroPad_lt_iff {width m n : Nat} (pos : 0 < width) (hm : m < 10 ^ width)
    (hn : n < 10 ^ width) : zeroPad width m < zeroPad width n ↔ m < n := by
  have hlen : (zeroPad width m).length = (zeroPad width n).length := by
    rw [length_zeroPad pos hm, length_zeroPad pos hn]
  rw [lt_iff_digitsValue_lt hlen isDigit_zeroPad isDigit_zeroPad, digitsValue_zeroPad,
    digitsValue_zeroPad]

/-- Texts that begin with numbers of one width are in the order of these, then of what follows. -/
theorem zeroPad_append_lt_iff {width m n : Nat} (pos : 0 < width) (hm : m < 10 ^ width)
    (hn : n < 10 ^ width) {xs ys : List Char} :
    zeroPad width m ++ xs < zeroPad width n ++ ys ↔ m < n ∨ m = n ∧ xs < ys := by
  have hlen : (zeroPad width m).length = (zeroPad width n).length := by
    rw [length_zeroPad pos hm, length_zeroPad pos hn]
  rw [append_lt_append_iff hlen, zeroPad_lt_iff pos hm hn, zeroPad_inj]

end FleetProfile.Text
