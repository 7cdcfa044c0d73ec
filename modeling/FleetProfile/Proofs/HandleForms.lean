import FleetProfile.Proofs.Chain
import FleetProfile.Proofs.Encodings
import FleetProfile.Source.Handle
import FleetProfile.Source.Kind

/-! The encodings of a binary handle. Those that a source may export are read as one text, which has
the bytes in hexadecimal with capital letters. -/
namespace FleetProfile.Source

open Bytes (readHex? isHexText_iff map_toUpper_of_readHex?)

/-- The column of the handle. -/
def Kind.handleColumn : Kind → String
  | .snowflake => "QUERY_HASH"
  | _ => "sql_handle"

/-- The values by which a source of a kind may export the bytes of a handle. -/
inductive Exports (b : List UInt8) : Kind → Json → Prop
  | bytes {kind : Kind} (binary : kind ≠ .snowflake) :
      Exports b kind (.array (b.map fun x => .int x.toNat))
  /-- A hexadecimal literal, its letters in any case, with blanks around it. -/
  | literal {kind : Kind} (binary : kind ≠ .snowflake) {lead digits trail : List Char} {mark : Char}
      (hlead : ∀ c ∈ lead, Text.isBlank c = true) (hmark : mark = 'x' ∨ mark = 'X')
      (hdigits : readHex? digits = some b) (htrail : ∀ c ∈ trail, Text.isBlank c = true) :
      Exports b kind (.string (String.ofList (lead ++ '0' :: mark :: digits ++ trail)))
  /-- The digits of a literal without its mark. -/
  | digits {lead digits trail : List Char} (hlead : ∀ c ∈ lead, Text.isBlank c = true)
      (hdigits : readHex? digits = some b) (htrail : ∀ c ∈ trail, Text.isBlank c = true) :
      Exports b .sqlServer (.string (String.ofList (lead ++ digits ++ trail)))
  /-- Base64, where it cannot be taken for a literal. -/
  | base64 {lead trail : List Char} (hlead : ∀ c ∈ lead, Text.isBlank c = true)
      (hplain : ¬ ['0', 'x'] <+: Bytes.Base64.text b ∧ ¬ ['0', 'X'] <+: Bytes.Base64.text b)
      (htrail : ∀ c ∈ trail, Text.isBlank c = true) :
      Exports b .synapse (.string (String.ofList (lead ++ Bytes.Base64.text b ++ trail)))

theorem Exports.ne_snowflake {b : List UInt8} {kind : Kind} {v : Json}
    (h : Exports b kind v) : kind ≠ .snowflake := by
  cases h with
  | bytes binary => exact binary
  | literal binary => exact binary
  | digits => decide
  | base64 => decide

namespace Handle

variable {b : List UInt8} {field : String}

theorem ofBytes_injective {b b' : List UInt8} (h : ofBytes b = ofBytes b') : b = b' := by
  have hlists := congrArg String.toList h
  simp only [ofBytes, String.toList_ofList, List.cons.injEq, true_and] at hlists
  exact Bytes.hexText_injective hlists

theorem mapM_byte? (b : List UInt8) :
    (b.map fun x => Json.int x.toNat).mapM byte? = some b := by
  induction b with
  | nil => rfl
  | cons x b ih =>
    have hx := x.toNat_lt
    have hbyte : byte? (.int x.toNat) = some x := by
      rw [byte?, if_pos (by omega)]
      exact congrArg some UInt8.ofNat_toNat
    rw [List.map_cons, List.mapM_cons, hbyte, ih]
    rfl

/-! ### Shapes of a text -/

theorem isBlank_of_isHexDigit {c : Char} (h : Bytes.isHexDigit c = true) :
    Text.isBlank c = false := by
  have hall : ∀ k < 128, Bytes.isHexDigit (Char.ofNat k) = true →
      Text.isBlank (Char.ofNat k) = false := by decide
  obtain ⟨n, hn⟩ := Bytes.exists_hexValue? h
  obtain ⟨k, hk, rfl⟩ := Bytes.exists_ofNat_of_hexValue? hn
  exact hall k hk h

theorem isHexDigit_of_readHex? {digits : List Char} (hdigits : readHex? digits = some b) :
    ∀ c ∈ digits, Bytes.isHexDigit c = true :=
  (Bytes.exists_readHex?_iff.1 ⟨b, hdigits⟩).2

theorem ne_nil_of_readHex? {digits : List Char} (hb : b ≠ []) (hdigits : readHex? digits = some b) :
    digits ≠ [] := by
  rintro rfl
  exact hb (Option.some.inj hdigits).symm

/-- No mark of a literal is among hexadecimal digits. -/
theorem literalDigits?_of_readHex? {digits : List Char} (hdigits : readHex? digits = some b) :
    literalDigits? digits = none := by
  have hall := isHexDigit_of_readHex? hdigits
  unfold literalDigits?
  split
  · exact absurd (hall 'x' (by simp)) (by decide)
  · exact absurd (hall 'X' (by simp)) (by decide)
  · rfl

theorem literalDigits?_mark {mark : Char} (hmark : mark = 'x' ∨ mark = 'X') (digits : List Char) :
    literalDigits? ('0' :: mark :: digits) = some digits := by
  rcases hmark with rfl | rfl
  · rfl
  · rfl

theorem literalDigits?_of_not_prefix {t : List Char} (h : ¬ ['0', 'x'] <+: t ∧ ¬ ['0', 'X'] <+: t) :
    literalDigits? t = none := by
  unfold literalDigits?
  split
  · exact absurd ⟨_, rfl⟩ h.1
  · exact absurd ⟨_, rfl⟩ h.2
  · rfl

theorem utf8_text (b : List UInt8) : utf8 (Bytes.Base64.text b) = Bytes.Base64.encode b := by
  have hbyte : ∀ u ∈ Bytes.Base64.encode b,
      String.utf8EncodeChar (Char.ofNat u.toNat) = [u] := by
    intro u hu
    rcases Bytes.Base64.mem_encode hu with rfl | ⟨n, hn, rfl⟩
    · decide
    · exact (by decide : ∀ n < 64, String.utf8EncodeChar
        (Char.ofNat (Bytes.Base64.symbol n).toNat) = [Bytes.Base64.symbol n]) n hn
  rw [utf8, Bytes.Base64.text, List.flatMap_map, List.flatMap_congr hbyte, List.flatMap_singleton']

/-! ### What is read -/

theorem ofBinary_of_readHex? {s : String} {digits : List Char} (hb : b ≠ [])
    (hs : (literalDigits? (Text.trim s.toList)).getD (Text.trim s.toList) = digits)
    (hdigits : readHex? digits = some b) :
    ofBinary (.string s) field = .ok (some (ofBytes b)) := by
  have hne : Text.trim s.toList ≠ [] := by
    intro hempty
    rw [hempty] at hs
    exact ne_nil_of_readHex? hb hdigits hs.symm
  simp only [ofBinary, if_neg hne, hs, if_pos (isHexText_iff.2 ⟨b, hb, hdigits⟩),
    map_toUpper_of_readHex? hdigits]
  rfl

/-- A text that begins as a literal is read as one. -/
theorem ofBase64_of_readHex? {s : String} {t digits : List Char} (hb : b ≠ [])
    (htrim : Text.trim s.toList = t) (hmark : literalDigits? t = some digits)
    (hdigits : readHex? digits = some b) : ofBase64 (.string s) field = .ok (ofBytes b) := by
  have hbinary : ofBinary (.string s) field = .ok (some (ofBytes b)) := by
    refine ofBinary_of_readHex? hb ?_ hdigits
    rw [htrim, hmark]
    rfl
  simp only [ofBase64, htrim, hmark, hbinary, bind, Except.bind]

/-- A text that begins as a literal is rejected if it is none. -/
theorem ofBase64_of_not_hex {s : String} {t digits : List Char} (htrim : Text.trim s.toList = t)
    (hmark : literalDigits? t = some digits) (hhex : Bytes.isHexText digits = false) :
    ofBase64 (.string s) field =
      .error ⟨field, s!"invalid hex handle: {String.ofList t}"⟩ := by
  have hne : t ≠ [] := by
    rintro rfl
    exact absurd hmark (by simp [literalDigits?])
  have hbinary : ofBinary (.string s) field = .ok none := by
    simp only [ofBinary, htrim, if_neg hne, hmark, Option.getD_some, hhex, Bool.false_eq_true,
      if_false]
  simp only [ofBase64, htrim, hmark, hbinary, bind, Except.bind]

/-- A handle that is taken for a binary one is the canonical text of some bytes. -/
theorem exists_of_ofBinary {v : Json} {t : String} (h : ofBinary v field = .ok (some t)) :
    ∃ b, b ≠ [] ∧ t = ofBytes b := by
  cases v with
  | string s =>
    simp only [ofBinary] at h
    split_ifs at h with hempty hhex
    · obtain ⟨b, hb, hdigits⟩ := isHexText_iff.1 hhex
      refine ⟨b, hb, ?_⟩
      rw [← Option.some.inj (Except.ok.inj h), map_toUpper_of_readHex? hdigits]
      rfl
    · exact absurd (Except.ok.inj h) (by simp)
  | array items =>
    simp only [ofBinary] at h
    split at h
    · exact ⟨_, List.cons_ne_nil _ _, (Option.some.inj (Except.ok.inj h)).symm⟩
    · exact absurd h (by simp)
  | _ => exact absurd h (by simp [ofBinary])

/-- The same for a reader that rejects what is not binary. -/
theorem exists_of_ofBinary_bind {v : Json} {t : String}
    {f : Option String → Except Rejection String} (hsome : ∀ handle, f (some handle) = .ok handle)
    (hnone : ∀ handle, f none ≠ .ok handle) (h : ofBinary v field >>= f = .ok t) :
    ∃ b, b ≠ [] ∧ t = ofBytes b := by
  obtain ⟨handle?, hread, h⟩ := bind_eq_ok.1 h
  cases handle? with
  | none => exact absurd h (hnone t)
  | some handle =>
    obtain rfl := Except.ok.inj ((hsome handle).symm.trans h)
    exact exists_of_ofBinary hread

theorem exists_of_ofBinary_none {v : Json} (h : ofBinary v field = .ok none) :
    ∃ s, v = .string s := by
  cases v with
  | string s => exact ⟨s, rfl⟩
  | array items =>
    simp only [ofBinary] at h
    split at h <;> simp at h
  | _ => simp [ofBinary] at h

theorem ofBinary_trimmed (s : String) :
    ofBinary (.string (Text.trimmed s)) field = ofBinary (.string s) field := by
  simp only [ofBinary, Text.trimmed, String.toList_ofList, Text.trim_trim]

theorem ofBinary_bytes (hb : b ≠ []) :
    ofBinary (.array (b.map fun x => .int x.toNat)) field = .ok (some (ofBytes b)) := by
  obtain ⟨x, rest, rfl⟩ := List.exists_cons_of_ne_nil hb
  simp only [ofBinary, mapM_byte?]

section Texts

variable {lead digits trail : List Char} {mark : Char} (hb : b ≠ [])
  (hlead : ∀ c ∈ lead, Text.isBlank c = true) (hdigits : readHex? digits = some b)
  (htrail : ∀ c ∈ trail, Text.isBlank c = true)

include hb hlead hdigits htrail

theorem trim_digits : Text.trim (lead ++ digits ++ trail) = digits :=
  Text.trim_padded_of_forall hlead htrail (ne_nil_of_readHex? hb hdigits) fun c hc =>
    isBlank_of_isHexDigit (isHexDigit_of_readHex? hdigits c hc)

theorem ofBinary_digits :
    ofBinary (.string (String.ofList (lead ++ digits ++ trail))) field =
      .ok (some (ofBytes b)) := by
  refine ofBinary_of_readHex? hb ?_ hdigits
  rw [String.toList_ofList, trim_digits hb hlead hdigits htrail,
    literalDigits?_of_readHex? hdigits]
  rfl

omit hb in
theorem trim_literal (hmark : mark = 'x' ∨ mark = 'X') :
    Text.trim (lead ++ '0' :: mark :: digits ++ trail) = '0' :: mark :: digits := by
  have hsign : Text.isBlank '0' = false ∧ Text.isBlank mark = false := by
    rcases hmark with rfl | rfl <;> decide
  refine Text.trim_padded_of_forall hlead htrail (List.cons_ne_nil _ _) ?_
  exact List.forall_mem_cons.2 ⟨hsign.1, List.forall_mem_cons.2 ⟨hsign.2, fun c hc =>
    isBlank_of_isHexDigit (isHexDigit_of_readHex? hdigits c hc)⟩⟩

theorem ofBinary_literal (hmark : mark = 'x' ∨ mark = 'X') :
    ofBinary (.string (String.ofList (lead ++ '0' :: mark :: digits ++ trail))) field =
      .ok (some (ofBytes b)) := by
  refine ofBinary_of_readHex? hb ?_ hdigits
  rw [String.toList_ofList, trim_literal hlead hdigits htrail hmark, literalDigits?_mark hmark]
  rfl

theorem ofBase64_literal (hmark : mark = 'x' ∨ mark = 'X') :
    ofBase64 (.string (String.ofList (lead ++ '0' :: mark :: digits ++ trail))) field =
      .ok (ofBytes b) :=
  ofBase64_of_readHex? hb
    ((congrArg Text.trim String.toList_ofList).trans (trim_literal hlead hdigits htrail hmark))
    (literalDigits?_mark hmark digits) hdigits

end Texts

theorem ofBase64_bytes (hb : b ≠ []) :
    ofBase64 (.array (b.map fun x => .int x.toNat)) field = .ok (ofBytes b) := by
  simp only [ofBase64, ofBinary_bytes hb]
  rfl

theorem trim_text {lead trail : List Char} (hb : b ≠ [])
    (hlead : ∀ c ∈ lead, Text.isBlank c = true) (htrail : ∀ c ∈ trail, Text.isBlank c = true) :
    Text.trim (lead ++ Bytes.Base64.text b ++ trail) = Bytes.Base64.text b :=
  Text.trim_padded_of_forall hlead htrail (Bytes.Base64.text_ne_nil hb)
    (Bytes.Base64.forall_mem_text (by decide) (by decide) b)

theorem ofBase64_text {lead trail : List Char} (hb : b ≠ [])
    (hlead : ∀ c ∈ lead, Text.isBlank c = true)
    (hplain : ¬ ['0', 'x'] <+: Bytes.Base64.text b ∧ ¬ ['0', 'X'] <+: Bytes.Base64.text b)
    (htrail : ∀ c ∈ trail, Text.isBlank c = true) :
    ofBase64 (.string (String.ofList (lead ++ Bytes.Base64.text b ++ trail))) field =
      .ok (ofBytes b) := by
  have htrim := trim_text hb hlead htrail
  obtain ⟨x, rest, rfl⟩ := List.exists_cons_of_ne_nil hb
  simp only [ofBase64, String.toList_ofList, htrim, literalDigits?_of_not_prefix hplain,
    utf8_text, Bytes.Base64.decode_encode]

theorem exists_of_ofBase64 {v : Json} {t : String} (h : ofBase64 v field = .ok t) :
    ∃ b, b ≠ [] ∧ t = ofBytes b := by
  cases v with
  | string s =>
    simp only [ofBase64] at h
    cases hliteral : literalDigits? (Text.trim s.toList) with
    | some digits =>
      simp only [hliteral] at h
      exact exists_of_ofBinary_bind (fun _ => rfl) (by simp) h
    | none =>
      simp only [hliteral] at h
      split at h
      · simp at h
      · simp at h
      · rename_i bytes hne _
        exact ⟨bytes, hne, (Except.ok.inj h).symm⟩
  | _ => exact exists_of_ofBinary_bind (fun _ => rfl) (by simp) h

end Handle

end FleetProfile.Source
