import FleetProfile.Bytes.Base64
import FleetProfile.Bytes.Hex
import Mathlib.Tactic.SplitIfs

/-! Bytes written in hexadecimal and in base64, read back. Hexadecimal is read in either letter
case, so only its capital form belongs to the bytes alone. -/
namespace FleetProfile.Bytes

/-! ### Hexadecimal -/

/-- The value of a hexadecimal digit, in either letter case. -/
def hexValue? (c : Char) : Option Nat :=
  if c.isDigit then some (c.toNat - 48)
  else if 'a' ≤ c ∧ c ≤ 'f' then some (c.toNat - 87)
  else if 'A' ≤ c ∧ c ≤ 'F' then some (c.toNat - 55)
  else none

/-- The bytes that a text of hexadecimal digits stands for, two digits to a byte. -/
def readHex? : List Char → Option (List UInt8)
  | [] => some []
  | [_] => none
  | c :: d :: rest => do
    let high ← hexValue? c
    let low ← hexValue? d
    let bytes ← readHex? rest
    some ((16 * high + low).toUInt8 :: bytes)

theorem hexValue?_hexDigit {n : Nat} (h : n < 16) : hexValue? (hexDigit n) = some n :=
  (by decide : ∀ n < 16, hexValue? (hexDigit n) = some n) n h

theorem lt_of_hexValue? {c : Char} {n : Nat} (h : hexValue? c = some n) : c.toNat < 128 := by
  unfold hexValue? at h
  split_ifs at h with hdigit hlower hupper
  · simp only [Char.isDigit, Bool.and_eq_true, decide_eq_true_eq] at hdigit
    have : c.toNat ≤ 57 := UInt32.le_iff_toNat_le.1 hdigit.2
    omega
  · have : c.toNat ≤ 102 := UInt32.le_iff_toNat_le.1 hlower.2
    omega
  · have : c.toNat ≤ 70 := UInt32.le_iff_toNat_le.1 hupper.2
    omega

/-- The digits are ASCII, so that what holds of each is a matter of 128 characters. -/
theorem exists_ofNat_of_hexValue? {c : Char} {n : Nat} (h : hexValue? c = some n) :
    ∃ k < 128, c = Char.ofNat k :=
  ⟨c.toNat, lt_of_hexValue? h, (Char.ofNat_toNat c).symm⟩

theorem toUpper_of_hexValue? {c : Char} {n : Nat} (h : hexValue? c = some n) :
    n < 16 ∧ c.toUpper = hexDigit n ∧ isHexDigit c = true := by
  have hall : ∀ k < 128, ∀ n ∈ hexValue? (Char.ofNat k), n < 16 ∧
      (Char.ofNat k).toUpper = hexDigit n ∧ isHexDigit (Char.ofNat k) = true := by decide
  obtain ⟨k, hk, rfl⟩ := exists_ofNat_of_hexValue? h
  exact hall k hk n h

theorem exists_hexValue? {c : Char} (h : isHexDigit c = true) : ∃ n, hexValue? c = some n := by
  unfold hexValue?
  simp only [isHexDigit, Bool.or_eq_true, Bool.and_eq_true, decide_eq_true_eq] at h
  split_ifs with hdigit hlower hupper
  · exact ⟨_, rfl⟩
  · exact ⟨_, rfl⟩
  · exact ⟨_, rfl⟩
  · exact (h.elim (·.elim hdigit hlower) hupper).elim

theorem readHex?_cons_cons {c d : Char} {ds : List Char} {b : List UInt8} :
    readHex? (c :: d :: ds) = some b ↔ ∃ high low bytes, hexValue? c = some high ∧
      hexValue? d = some low ∧ readHex? ds = some bytes ∧
      b = (16 * high + low).toUInt8 :: bytes := by
  simp only [readHex?, bind, Option.bind_eq_some_iff, Option.some.injEq]
  constructor
  · rintro ⟨high, hc, low, hd, bytes, hds, rfl⟩
    exact ⟨high, low, bytes, hc, hd, hds, rfl⟩
  · rintro ⟨high, low, bytes, hc, hd, hds, rfl⟩
    exact ⟨high, hc, low, hd, bytes, hds, rfl⟩

theorem hexText_cons (x : UInt8) (b : List UInt8) :
    hexText (x :: b) = hexDigit (x.toNat / 16) :: hexDigit (x.toNat % 16) :: hexText b := rfl

theorem readHex?_hexText (b : List UInt8) : readHex? (hexText b) = some b := by
  induction b with
  | nil => rfl
  | cons x b ih =>
    have hx := x.toNat_lt
    refine readHex?_cons_cons.2 ⟨x.toNat / 16, x.toNat % 16, b, hexValue?_hexDigit (by omega),
      hexValue?_hexDigit (by omega), ih, ?_⟩
    rw [Nat.div_add_mod]
    exact congrArg (· :: b) UInt8.ofNat_toNat.symm

/-- In capital letters the bytes have one hexadecimal text. -/
theorem map_toUpper_of_readHex? {ds : List Char} {b : List UInt8} (h : readHex? ds = some b) :
    ds.map Char.toUpper = hexText b := by
  induction ds using readHex?.induct generalizing b with
  | case1 =>
    obtain rfl := Option.some.inj h
    rfl
  | case2 => exact absurd h (by simp [readHex?])
  | case3 c d ds ih =>
    obtain ⟨high, low, bytes, hc, hd, hds, rfl⟩ := readHex?_cons_cons.1 h
    obtain ⟨hhigh, hc, -⟩ := toUpper_of_hexValue? hc
    obtain ⟨hlow, hd, -⟩ := toUpper_of_hexValue? hd
    have hbyte : ((16 * high + low).toUInt8).toNat = 16 * high + low :=
      Nat.mod_eq_of_lt (by omega)
    rw [List.map_cons, List.map_cons, ih hds, hc, hd, hexText_cons, hbyte,
      show (16 * high + low) / 16 = high by omega, show (16 * high + low) % 16 = low by omega]

theorem exists_readHex?_iff {ds : List Char} : (∃ b, readHex? ds = some b) ↔
    ds.length % 2 = 0 ∧ ∀ c ∈ ds, isHexDigit c = true := by
  induction ds using readHex?.induct with
  | case1 => simp [readHex?]
  | case2 c => simp [readHex?]
  | case3 c d ds ih =>
    have hlength : (c :: d :: ds).length % 2 = ds.length % 2 := Nat.add_mod_right _ 2
    rw [hlength, List.forall_mem_cons, List.forall_mem_cons]
    constructor
    · rintro ⟨b, hb⟩
      obtain ⟨high, low, bytes, hc, hd, hds, -⟩ := readHex?_cons_cons.1 hb
      obtain ⟨hlength, hdigits⟩ := ih.1 ⟨bytes, hds⟩
      exact ⟨hlength, (toUpper_of_hexValue? hc).2.2, (toUpper_of_hexValue? hd).2.2, hdigits⟩
    · rintro ⟨hlength, hc, hd, hdigits⟩
      obtain ⟨high, hc⟩ := exists_hexValue? hc
      obtain ⟨low, hd⟩ := exists_hexValue? hd
      obtain ⟨bytes, hbytes⟩ := ih.2 ⟨hlength, hdigits⟩
      exact ⟨_, readHex?_cons_cons.2 ⟨high, low, bytes, hc, hd, hbytes, rfl⟩⟩

theorem length_of_readHex? {ds : List Char} {b : List UInt8} (h : readHex? ds = some b) :
    ds.length = 2 * b.length := by
  induction ds using readHex?.induct generalizing b with
  | case1 =>
    obtain rfl := Option.some.inj h
    rfl
  | case2 => exact absurd h (by simp [readHex?])
  | case3 c d ds ih =>
    obtain ⟨high, low, bytes, -, -, hds, rfl⟩ := readHex?_cons_cons.1 h
    simp only [List.length_cons, ih hds]
    omega

theorem readHex?_eq_nil_iff {ds : List Char} : readHex? ds = some [] ↔ ds = [] := by
  constructor
  · intro h
    have hupper := map_toUpper_of_readHex? h
    exact List.map_eq_nil_iff.1 hupper
  · rintro rfl
    rfl

/-- What counts as hexadecimal is the text of some bytes. -/
theorem isHexText_iff {ds : List Char} :
    isHexText ds = true ↔ ∃ b, b ≠ [] ∧ readHex? ds = some b := by
  simp only [isHexText, Bool.and_eq_true, decide_eq_true_eq, beq_iff_eq, List.all_eq_true,
    and_assoc, ← exists_readHex?_iff]
  constructor
  · rintro ⟨hne, b, hb⟩
    refine ⟨b, ?_, hb⟩
    rintro rfl
    exact hne (readHex?_eq_nil_iff.1 hb)
  · rintro ⟨b, hne, hb⟩
    refine ⟨?_, b, hb⟩
    rintro rfl
    exact hne (Option.some.inj hb).symm

theorem hexText_injective {b b' : List UInt8} (h : hexText b = hexText b') : b = b' := by
  have hread := readHex?_hexText b
  rw [h, readHex?_hexText] at hread
  exact (Option.some.inj hread).symm

theorem isLower_hexText (b : List UInt8) : ∀ c ∈ hexText b, c.isLower = false := by
  have hdigit : ∀ n < 16, (hexDigit n).isLower = false := by decide
  intro c hc
  obtain ⟨x, -, hc⟩ := List.mem_flatMap.1 hc
  have hx := x.toNat_lt
  simp only [List.mem_cons, List.not_mem_nil, or_false] at hc
  rcases hc with rfl | rfl
  · exact hdigit _ (by omega)
  · exact hdigit _ (by omega)

/-! ### Base64 -/

namespace Base64

theorem value?_symbol {n : Nat} (h : n < 64) : value? (symbol n) = some n :=
  (by decide : ∀ n < 64, value? (symbol n) = some n) n h

theorem symbol_ne_pad {n : Nat} (h : n < 64) : symbol n ≠ pad :=
  (by decide : ∀ n < 64, symbol n ≠ pad) n h

theorem valueAt_symbol {n : Nat} (h : n < 64) (offset : Nat) :
    valueAt offset (symbol n) = .ok n := by
  rw [valueAt, value?_symbol h]

theorem tailValues_symbol {n : Nat} (h : n < 64) (offset index : Nat) (rest : List UInt8) :
    tailValues offset index (symbol n :: rest) =
      (tailValues offset (index + 1) rest).map (n :: ·) := by
  rw [tailValues, if_neg (symbol_ne_pad h), valueAt_symbol h]
  rfl

theorem decodeTail_two {m n : Nat} (hm : m < 64) (hn : n < 64) (h : n % 16 = 0) (offset : Nat) :
    decodeTail offset [symbol m, symbol n, pad, pad] = .ok ((quadBytes m n 0 0).take 1) := by
  have hvalues : tailValues offset 0 [symbol m, symbol n, pad, pad] = .ok [m, n] := by
    rw [tailValues_symbol hm, tailValues_symbol hn]
    rfl
  simp only [decodeTail, hvalues, bind, Except.bind]
  rw [if_neg (by simp), if_neg (by omega)]

theorem decodeTail_three {k m n : Nat} (hk : k < 64) (hm : m < 64) (hn : n < 64) (h : n % 4 = 0)
    (offset : Nat) : decodeTail offset [symbol k, symbol m, symbol n, pad] =
      .ok ((quadBytes k m n 0).take 2) := by
  have hvalues : tailValues offset 0 [symbol k, symbol m, symbol n, pad] = .ok [k, m, n] := by
    rw [tailValues_symbol hk, tailValues_symbol hm, tailValues_symbol hn]
    rfl
  simp only [decodeTail, hvalues, bind, Except.bind]
  rw [if_neg (by simp), if_neg (by omega)]

theorem decodeTail_four {j k m n : Nat} (hj : j < 64) (hk : k < 64) (hm : m < 64) (hn : n < 64)
    (offset : Nat) : decodeTail offset [symbol j, symbol k, symbol m, symbol n] =
      .ok (quadBytes j k m n) := by
  have hvalues : tailValues offset 0 [symbol j, symbol k, symbol m, symbol n] =
      .ok [j, k, m, n] := by
    rw [tailValues_symbol hj, tailValues_symbol hk, tailValues_symbol hm, tailValues_symbol hn]
    rfl
  simp only [decodeTail, hvalues, bind, Except.bind]

theorem length_encode (b : List UInt8) : (encode b).length % 4 = 0 := by
  induction b using encode.induct with
  | case1 => rfl
  | case2 => simp [encode]
  | case3 => simp [encode]
  | case4 x y z b ih =>
    simp only [encode, List.length_cons]
    omega

/-- Without padding every three bytes have four symbols. -/
theorem length_encode_of_unpadded {b : List UInt8} (h : pad ∉ encode b) :
    3 * (encode b).length = 4 * b.length := by
  induction b using encode.induct with
  | case1 => rfl
  | case2 => exact absurd (by simp [encode]) h
  | case3 => exact absurd (by simp [encode]) h
  | case4 x y z b ih =>
    simp only [encode, List.mem_cons, not_or] at h
    have hrest := ih h.2.2.2.2
    simp only [encode, List.length_cons]
    omega

/-- Four symbols that make up the number of three bytes stand for these. -/
theorem quadBytes_eq {j k m n : Nat} {x y z : UInt8}
    (h : ((j * 64 + k) * 64 + m) * 64 + n = (x.toNat * 256 + y.toNat) * 256 + z.toNat) :
    quadBytes j k m n = [x, y, z] := by
  have hx := x.toNat_lt
  have hy := y.toNat_lt
  have hz := z.toNat_lt
  have hfirst : ((x.toNat * 256 + y.toNat) * 256 + z.toNat) / 65536 = x.toNat := by omega
  have hsecond : ((x.toNat * 256 + y.toNat) * 256 + z.toNat) / 256 % 256 = y.toNat := by omega
  have hthird : ((x.toNat * 256 + y.toNat) * 256 + z.toNat) % 256 = z.toNat := by omega
  have hbyte (u : UInt8) : u.toNat.toUInt8 = u := UInt8.ofNat_toNat
  simp only [quadBytes, h, hfirst, hsecond, hthird, hbyte]

theorem decodeFrom_encode (b : List UInt8) (offset : Nat) :
    decodeFrom offset (encode b) = .ok b := by
  induction b using encode.induct generalizing offset with
  | case1 => rfl
  | case2 x =>
    have hx := x.toNat_lt
    simp only [encode, decodeFrom]
    rw [decodeTail_two (by omega) (by omega) (by omega),
      quadBytes_eq (x := x) (y := 0) (z := 0) (by simp; omega)]
    rfl
  | case3 x y =>
    have hx := x.toNat_lt
    have hy := y.toNat_lt
    simp only [encode, decodeFrom]
    rw [decodeTail_three (by omega) (by omega) (by omega) (by omega),
      quadBytes_eq (x := x) (y := y) (z := 0) (by simp; omega)]
    rfl
  | case4 x y z b ih =>
    have hx := x.toNat_lt
    have hy := y.toNat_lt
    have hz := z.toNat_lt
    simp only [encode]
    cases hb : encode b with
    | nil =>
      have hnil : b = [] := by
        have := ih 0
        rw [hb] at this
        exact (Except.ok.inj this).symm
      simp only [decodeFrom]
      rw [decodeTail_four (by omega) (by omega) (by omega) (by omega),
        quadBytes_eq (x := x) (y := y) (z := z) (by omega), hnil]
    | cons e rest =>
      simp only [decodeFrom]
      rw [valueAt_symbol (by omega), valueAt_symbol (by omega), valueAt_symbol (by omega),
        valueAt_symbol (by omega), ← hb, ih]
      simp only [bind, Except.bind]
      rw [quadBytes_eq (x := x) (y := y) (z := z) (by omega)]
      rfl

/-- The text of some bytes is read back as those bytes. -/
theorem decode_encode (b : List UInt8) : decode (encode b) = .ok b := by
  unfold decode
  cases hlast : (encode b).getLast? with
  | none =>
    rw [List.getLast?_eq_none_iff] at hlast
    have := decodeFrom_encode b 0
    rwa [hlast] at this
  | some last =>
    simp only
    rw [if_neg, decodeFrom_encode]
    rw [length_encode]
    exact fun h => absurd h.1 (by decide)

example : encode [77, 97, 110, 77] = [84, 87, 70, 117, 84, 81, 61, 61] := by decide

theorem mem_encode {b : List UInt8} {u : UInt8} (hu : u ∈ encode b) :
    u = pad ∨ ∃ n < 64, u = symbol n := by
  have hsymbol {n : Nat} (h : n < 64) : symbol n = pad ∨ ∃ m < 64, symbol n = symbol m :=
    .inr ⟨n, h, rfl⟩
  induction b using encode.induct with
  | case1 => exact absurd hu List.not_mem_nil
  | case2 x =>
    have hx := x.toNat_lt
    simp only [encode, List.mem_cons, List.not_mem_nil, or_false] at hu
    rcases hu with rfl | rfl | rfl | rfl
    · exact hsymbol (by omega)
    · exact hsymbol (by omega)
    · exact .inl rfl
    · exact .inl rfl
  | case3 x y =>
    have hx := x.toNat_lt
    have hy := y.toNat_lt
    simp only [encode, List.mem_cons, List.not_mem_nil, or_false] at hu
    rcases hu with rfl | rfl | rfl | rfl
    · exact hsymbol (by omega)
    · exact hsymbol (by omega)
    · exact hsymbol (by omega)
    · exact .inl rfl
  | case4 x y z b ih =>
    have hx := x.toNat_lt
    have hy := y.toNat_lt
    have hz := z.toNat_lt
    simp only [encode, List.mem_cons] at hu
    rcases hu with rfl | rfl | rfl | rfl | hu
    · exact hsymbol (by omega)
    · exact hsymbol (by omega)
    · exact hsymbol (by omega)
    · exact hsymbol (by omega)
    · exact ih hu

/-- The base64 text of some bytes. -/
def text (b : List UInt8) : List Char :=
  (encode b).map fun u => Char.ofNat u.toNat

/-- A property of the symbols and of the padding is one of all characters of a text. -/
theorem forall_mem_text {p : Char → Prop} (hpad : p '=')
    (hsymbol : ∀ n < 64, p (Char.ofNat (symbol n).toNat)) (b : List UInt8) : ∀ c ∈ text b, p c := by
  refine List.forall_mem_map.2 fun u hu => ?_
  rcases mem_encode hu with rfl | ⟨n, hn, rfl⟩
  · exact hpad
  · exact hsymbol n hn

theorem text_ne_nil {b : List UInt8} (hb : b ≠ []) : text b ≠ [] := by
  intro hempty
  have hdecode := decode_encode b
  rw [List.map_eq_nil_iff.1 hempty] at hdecode
  exact hb (Except.ok.inj hdecode).symm

end Base64

end FleetProfile.Bytes
