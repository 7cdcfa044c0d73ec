import FleetProfile.Bytes.Base64
import FleetProfile.Bytes.Hex
import FleetProfile.Source.RawRow
/-!
Statement handles. A binary handle has one canonical text, `0x` and its bytes in hexadecimal with
capital letters, whatever encoding the source exported it in.
-/
namespace FleetProfile.Source.Handle

def ofBytes (bytes : List UInt8) : String :=
  String.ofList ('0' :: 'x' :: Bytes.hexText bytes)

/-- The mark of a hexadecimal literal, if a text carries it, and what follows. -/
def literalDigits? : List Char → Option (List Char)
  | '0' :: 'x' :: r => some r
  | '0' :: 'X' :: r => some r
  | _ => none

def byte? : Json → Option UInt8
  | .int n => if 0 ≤ n ∧ n < 256 then some n.toNat.toUInt8 else none
  | _ => none

/--
The canonical text of a handle given in hexadecimal or as an array of bytes; nothing for a text
that is not hexadecimal.
-/
def ofBinary (value : Json) (field : String) : Except Rejection (Option String) :=
  match value with
  | .string s =>
    let t := Text.trim s.toList
    if t = [] then .error ⟨field, "empty statement handle"⟩
    else
      let digits := (literalDigits? t).getD t
      if Bytes.isHexText digits then
        .ok (some (String.ofList ('0' :: 'x' :: digits.map Char.toUpper)))
      else .ok none
  | .array items =>
    match items.mapM byte? with
    | some (b :: bs) => .ok (some (ofBytes (b :: bs)))
    | _ => .error ⟨field, "statement handle is not a byte array"⟩
  | other => .error ⟨field, s!"unsupported statement handle: {other.compact}"⟩

/-- The bytes of a text in UTF-8. -/
def utf8 (s : List Char) : List UInt8 :=
  s.flatMap String.utf8EncodeChar

/--
The handle of a source that exports binary handles in base64: a byte array is bytes, a text that
begins as a hexadecimal literal must be one, and any other text is base64.
-/
def ofBase64 (value : Json) (field : String) : Except Rejection String :=
  match value with
  | .string s =>
    let t := Text.trim s.toList
    match literalDigits? t with
    | some _ => do
      match ← ofBinary value field with
      | some handle => .ok handle
      | none => .error ⟨field, s!"invalid hex handle: {String.ofList t}"⟩
    | none =>
      match Bytes.Base64.decode (utf8 t) with
      | .error fault => .error ⟨field, s!"invalid base64 handle: {fault.message}"⟩
      | .ok [] => .error ⟨field, "empty statement handle"⟩
      | .ok bytes => .ok (ofBytes bytes)
  | other => do
    match ← ofBinary other field with
    | some handle => .ok handle
    | none => .error ⟨field, "unsupported statement handle"⟩

end FleetProfile.Source.Handle
