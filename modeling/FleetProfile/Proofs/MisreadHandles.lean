import FleetProfile.Proofs.CanonicalHandle

/-! Handles of a Synapse source that are not what they were written for. A base64 text may begin as
a hexadecimal literal and is taken for one then; all other values keep different bytes apart. -/
namespace FleetProfile.Source

open Bytes (readHex?)
open RawRow

/-- The values that spell the bytes of a handle: an array, a hexadecimal literal with its letters in
any case, and base64, the texts with blanks around them. -/
inductive SpellsBytes (b : List UInt8) : Json → Prop
  | bytes : SpellsBytes b (.array (b.map fun x => .int x.toNat))
  | literal {lead digits trail : List Char} {mark : Char}
      (hlead : ∀ c ∈ lead, Text.isBlank c = true) (hmark : mark = 'x' ∨ mark = 'X')
      (hdigits : readHex? digits = some b) (htrail : ∀ c ∈ trail, Text.isBlank c = true) :
      SpellsBytes b (.string (String.ofList (lead ++ '0' :: mark :: digits ++ trail)))
  | base64 {lead trail : List Char} (hlead : ∀ c ∈ lead, Text.isBlank c = true)
      (htrail : ∀ c ∈ trail, Text.isBlank c = true) :
      SpellsBytes b (.string (String.ofList (lead ++ Bytes.Base64.text b ++ trail)))

/-- A text that is the base64 of some bytes and begins as a literal; `digits` follow the mark. -/
inductive LooksLiteral (b : List UInt8) (digits : List Char) : Json → Prop
  | mk {s : String} {mark : Char} (hmark : mark = 'x' ∨ mark = 'X')
      (htrim : Text.trim s.toList = Bytes.Base64.text b)
      (htext : Bytes.Base64.text b = '0' :: mark :: digits) : LooksLiteral b digits (.string s)

variable {b b' c : List UInt8} {digits : List Char} {v v' : Json} {field t t' : String}
  {row row' : RawRow}

/-- What spells the bytes exports them, but for a base64 text that begins as a literal. -/
theorem SpellsBytes.exports_or_looksLiteral (hb : b ≠ []) (h : SpellsBytes b v) :
    Exports b .synapse v ∨ ∃ digits, LooksLiteral b digits v := by
  cases h with
  | bytes => exact .inl (.bytes (by decide))
  | literal hlead hmark hdigits htrail =>
    exact .inl (.literal (by decide) hlead hmark hdigits htrail)
  | base64 hlead htrail =>
    have htrim := (congrArg Text.trim String.toList_ofList).trans (Handle.trim_text hb hlead htrail)
    by_cases hx : ['0', 'x'] <+: Bytes.Base64.text b
    · obtain ⟨digits, htext⟩ := hx
      exact .inr ⟨digits, .mk (.inl rfl) htrim htext.symm⟩
    by_cases hX : ['0', 'X'] <+: Bytes.Base64.text b
    · obtain ⟨digits, htext⟩ := hX
      exact .inr ⟨digits, .mk (.inr rfl) htrim htext.symm⟩
    exact .inl (.base64 hlead ⟨hx, hX⟩ htrail)

namespace LooksLiteral

/-- There is no padding among hexadecimal digits. -/
theorem unpadded (h : LooksLiteral b digits v) (hdigits : readHex? digits = some c) :
    Bytes.Base64.pad ∉ Bytes.Base64.encode b := by
  obtain ⟨hmark, -, htext⟩ := h
  intro hpad
  have hmem : '=' ∈ Bytes.Base64.text b := List.mem_map.2 ⟨_, hpad, rfl⟩
  rw [htext, List.mem_cons, List.mem_cons] at hmem
  rcases hmem with h | h | h
  · exact absurd h (by decide)
  · rcases hmark with rfl | rfl <;> exact absurd h (by decide)
  · exact absurd (Handle.isHexDigit_of_readHex? hdigits _ h) (by decide)

/-- The bytes that are read are never those that were spelled: there are fewer of them. -/
theorem ne_of_readHex? (h : LooksLiteral b digits v) (hdigits : readHex? digits = some c) :
    c ≠ b := by
  have hencode := Bytes.Base64.length_encode_of_unpadded (h.unpadded hdigits)
  have hlength := Bytes.length_of_readHex? hdigits
  obtain ⟨-, -, htext⟩ := h
  have htotal := congrArg List.length htext
  simp only [Bytes.Base64.text, List.length_map, List.length_cons] at htotal
  rintro rfl
  omega

/-- If such a text is accepted, it is as the literal that it looks like. -/
theorem exists_readHex?_of_ofBase64 (h : LooksLiteral b digits v)
    (ht : Handle.ofBase64 v field = .ok t) :
    ∃ c, c ≠ [] ∧ readHex? digits = some c ∧ t = Handle.ofBytes c := by
  obtain ⟨hmark, htrim, htext⟩ := h
  have hmarked := htext ▸ Handle.literalDigits?_mark hmark digits
  cases hhex : Bytes.isHexText digits with
  | true =>
    obtain ⟨c, hc, hdigits⟩ := Bytes.isHexText_iff.1 hhex
    rw [Handle.ofBase64_of_readHex? hc htrim hmarked hdigits] at ht
    exact ⟨c, hc, hdigits, (Except.ok.inj ht).symm⟩
  | false =>
    rw [Handle.ofBase64_of_not_hex htrim hmarked hhex] at ht
    exact absurd ht (by simp)

end LooksLiteral

namespace Dialect

/-- Different bytes have different handles, unless one of the values is a base64 text that begins as
a literal; that one has the handle of other bytes, which its digits spell. -/
theorem synapseHandle_separates (hb : b ≠ []) (hb' : b' ≠ []) (hne : b ≠ b') (hv : SpellsBytes b v)
    (hv' : SpellsBytes b' v') (hget : get? row "sql_handle" = some v)
    (hget' : get? row' "sql_handle" = some v') (ht : synapseHandle row = .ok t)
    (ht' : synapseHandle row' = .ok t') :
    (t = t' → (∃ digits, LooksLiteral b digits v) ∨ ∃ digits, LooksLiteral b' digits v') ∧
      ∀ digits, LooksLiteral b digits v → ∃ c, readHex? digits = some c ∧ c ≠ b ∧
        t = Handle.ofBytes c ∧ ∀ row'' v'', Exports c .synapse v'' →
          get? row'' "sql_handle" = some v'' → synapseHandle row'' = .ok t := by
  refine ⟨fun heq => ?_, fun digits hlooks => ?_⟩
  · rcases hv.exports_or_looksLiteral hb with hexports | hlooks
    · rcases hv'.exports_or_looksLiteral hb' with hexports' | hlooks'
      · have hbytes := Except.ok.inj (ht.symm.trans (handle_of_exports hb hexports hget))
        have hbytes' := Except.ok.inj (ht'.symm.trans (handle_of_exports hb' hexports' hget'))
        exact absurd (Handle.ofBytes_injective (hbytes.symm.trans (heq.trans hbytes'))) hne
      · exact .inr hlooks'
    · exact .inl hlooks
  · rw [synapseHandle_of_get? hget] at ht
    obtain ⟨c, hc, hdigits, rfl⟩ := hlooks.exists_readHex?_of_ofBase64 ht
    exact ⟨c, hdigits, hlooks.ne_of_readHex? hdigits, rfl, fun row'' v'' hexports hget'' =>
      handle_of_exports hc hexports hget''⟩

/-- Three bytes in base64 and a single byte, which the base64 text spells as a literal. -/
theorem synapseHandle_conflates :
    SpellsBytes [0xD3, 0x10, 0x01] (.string "0xAB") ∧ SpellsBytes [0xAB] (.array [.int 0xAB]) ∧
      synapseHandle [("sql_handle", .string "0xAB")] = .ok "0xAB" ∧
      synapseHandle [("sql_handle", .array [.int 0xAB])] = .ok "0xAB" :=
  ⟨@SpellsBytes.base64 [0xD3, 0x10, 0x01] [] [] (List.forall_mem_nil _) (List.forall_mem_nil _),
    @SpellsBytes.bytes [0xAB], by decide +kernel, by decide +kernel⟩

/-- In the other encodings the same bytes are kept apart. -/
theorem synapseHandle_separates_arrays :
    "0xD31001" ≠ "0xAB" ∧
      synapseHandle [("sql_handle", .array [.int 0xD3, .int 0x10, .int 0x01])] = .ok "0xD31001" ∧
      synapseHandle [("sql_handle", .string "0xab")] = .ok "0xAB" := by
  have harray : synapseHandle [("sql_handle", .array [.int 0xD3, .int 0x10, .int 0x01])] =
      .ok "0xD31001" := by decide +kernel
  have hliteral : synapseHandle [("sql_handle", .string "0xab")] = .ok "0xAB" := by
    decide +kernel
  have hspells : SpellsBytes [0xAB] (.string "0xab") :=
    @SpellsBytes.literal [0xAB] [] ['a', 'b'] [] 'x' (List.forall_mem_nil _) (.inl rfl) rfl
      (List.forall_mem_nil _)
  refine ⟨fun heq => ?_, harray, hliteral⟩
  rcases (synapseHandle_separates (by decide) (by decide) (by decide)
    (@SpellsBytes.bytes [0xD3, 0x10, 0x01]) hspells rfl rfl harray hliteral).1 heq with h | h
  · obtain ⟨digits, h⟩ := h
    cases h
  · obtain ⟨digits, -, htrim, -⟩ := h
    exact absurd htrim (by decide)

end Dialect

end FleetProfile.Source
