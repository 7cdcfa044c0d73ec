import FleetProfile.Json.Parser
import FleetProfile.Number.Reading
import FleetProfile.Time.Calendar
import FleetProfile.Toml.Printer
import FleetProfile.Toml.Tree
/-!
Reading the lines of a document.

Every reader takes something off the front of a text and leaves the rest, or fails. `fuel` bounds
the steps of a reader and is never used up by a text that is shorter; `depth` bounds how deep
arrays and tables may stand in each other.
-/
namespace FleetProfile.Toml

abbrev Reader (α : Type) := List Char → Option (α × List Char)

/-- How many parts a dotted key may have, and how deep values may nest. -/
def depthLimit : Nat := 79

/-! ### Blanks, comments and line ends -/

def skipBlanks (s : List Char) : List Char :=
  s.dropWhile fun c => c == ' ' || c == '\t'

/-- Whether a character may stand for itself: no control but the tab. -/
def isPlain (c : Char) : Bool :=
  c == '\t' || (32 ≤ c.toNat && c.toNat != 127)

def afterBreak? : List Char → Option (List Char)
  | '\n' :: r => some r
  | '\r' :: '\n' :: r => some r
  | _ => none

def skipComment : List Char → List Char
  | '#' :: r => r.dropWhile isPlain
  | s => s

/-- What follows a line on which only blanks and a comment are left. -/
def afterLine? (s : List Char) : Option (List Char) :=
  match skipComment (skipBlanks s) with
  | [] => some []
  | s => afterBreak? s

def skipLines : Nat → List Char → List Char
  | 0, s => s
  | fuel + 1, s =>
    match afterBreak? (skipComment (skipBlanks s)) with
    | some r => skipLines fuel r
    | none => skipBlanks s

def skipSpace : List Char → List Char
  | '\r' :: '\n' :: r => skipSpace r
  | c :: r => if c == ' ' || c == '\t' || c == '\n' then skipSpace r else c :: r
  | [] => []

/-! ### Strings -/

def readCode (digits : Nat) : Reader Char := fun s =>
  match (s.take digits).mapM Json.hexValue? with
  | some ds =>
    let n := ds.foldl (fun n d => 16 * n + d) 0
    if ds.length = digits ∧ n.isValidChar then some (Char.ofNat n, s.drop digits) else none
  | none => none

/-- The character of an escape, after the backslash. -/
def readEscape : Reader Char
  | [] => none
  | c :: r =>
    match c with
    | 'b' => some ('\x08', r)
    | 't' => some ('\t', r)
    | 'n' => some ('\n', r)
    | 'f' => some ('\x0c', r)
    | 'r' => some ('\r', r)
    | '"' => some ('"', r)
    | '\\' => some ('\\', r)
    | 'u' => readCode 4 r
    | 'U' => readCode 8 r
    | _ => none

/-- The characters of a basic string after its quote; `acc` holds those read, last first. -/
def readBasic : Nat → List Char → Reader String
  | 0, _, _ => none
  | _ + 1, _, [] => none
  | fuel + 1, acc, c :: r =>
    if c == '"' then some (String.ofList acc.reverse, r)
    else if c == '\\' then
      match readEscape r with
      | some (d, r) => readBasic fuel (d :: acc) r
      | none => none
    else if isPlain c then readBasic fuel (c :: acc) r
    else none

def readLiteral : List Char → Reader String
  | _, [] => none
  | acc, c :: r =>
    if c == apostrophe then some (String.ofList acc.reverse, r)
    else if isPlain c then readLiteral (c :: acc) r
    else none

/-- What follows a line break that a backslash takes away, with the space after it. -/
def continuation? (s : List Char) : Option (List Char) :=
  (afterBreak? (skipBlanks s)).map skipSpace

/--
The characters of a block after its three quotes. Of up to five quotes in a row the last three end
it; fewer than three belong to the text.
-/
def readBlock (quote : Char) : Nat → List Char → Reader String
  | 0, _, _ => none
  | fuel + 1, acc, s =>
    let run := (s.takeWhile (· == quote)).length
    if 3 ≤ run then
      let own := min (run - 3) 2
      some (String.ofList (acc.reverse ++ List.replicate own quote), s.drop (own + 3))
    else if 0 < run then readBlock quote fuel (List.replicate run quote ++ acc) (s.drop run)
    else
      match s with
      | [] => none
      | c :: r =>
        match afterBreak? (c :: r) with
        | some r => readBlock quote fuel ('\n' :: acc) r
        | none =>
          if c == '\\' && quote == '"' then
            match continuation? r with
            | some r => readBlock quote fuel acc r
            | none =>
              match readEscape r with
              | some (d, r) => readBlock quote fuel (d :: acc) r
              | none => none
          else if isPlain c then readBlock quote fuel (c :: acc) r
          else none

/-- A block after its three quotes, without the line break that it may begin with. -/
def readBlockText (quote : Char) : Reader String := fun s =>
  let body := (afterBreak? s).getD s
  readBlock quote (body.length + 1) [] body

def readString : Reader String
  | '"' :: '"' :: '"' :: r => readBlockText '"' r
  | '"' :: r => readBasic (r.length + 1) [] r
  | '\x27' :: '\x27' :: '\x27' :: r => readBlockText apostrophe r
  | '\x27' :: r => readLiteral [] r
  | _ => none

/-! ### Keys -/

def readPart : Reader String
  | '"' :: r => readBasic (r.length + 1) [] r
  | '\x27' :: r => readLiteral [] r
  | s =>
    let part := s.takeWhile isBare
    if part = [] then none else some (String.ofList part, s.dropWhile isBare)

/-- A dotted key of at most `fuel` parts, and the blanks around them. -/
def readKey : Nat → Reader (List String)
  | 0, _ => none
  | fuel + 1, s =>
    match readPart (skipBlanks s) with
    | none => none
    | some (part, s) =>
      match skipBlanks s with
      | '.' :: r => (readKey fuel r).map fun (path, r) => (part :: path, r)
      | s => some ([part], s)

/-! ### Numbers and moments -/

/-- Digits with single underscores among them, and what follows. -/
def readDigits (ok : Char → Bool) : Nat → List Char → Reader (List Char)
  | 0, _, _ => none
  | fuel + 1, acc, s =>
    match s with
    | '_' :: c :: r =>
      if acc ≠ [] ∧ ok c then readDigits ok fuel (c :: acc) r
      else if acc = [] then none else some (acc.reverse, s)
    | c :: r =>
      if ok c then readDigits ok fuel (c :: acc) r
      else if acc = [] then none
      else some (acc.reverse, s)
    | [] => if acc = [] then none else some (acc.reverse, s)

def digits (ok : Char → Bool) : Reader (List Char) := fun s =>
  readDigits ok (s.length + 1) [] s

def readSign : List Char → List Char × List Char
  | '+' :: r => (['+'], r)
  | '-' :: r => (['-'], r)
  | r => ([], r)

/-- A sign and decimal digits, of which the first is a zero only if it is alone. -/
def readDecimal : Reader (List Char) := fun s =>
  let (sign, r) := readSign s
  match r with
  | '0' :: r => some (sign ++ ['0'], r)
  | r => (digits Char.isDigit r).map fun (ds, r) => (sign ++ ds, r)

def readBased (base : Nat) (ok : Char → Bool) : Reader Value := fun s =>
  match digits ok s with
  | none => none
  | some (ds, r) =>
    let n := ds.foldl (fun n c => base * n + (Json.hexValue? c).getD 0) 0
    if (n : Int) ≤ Number.maxInt64 then some (.integer n, r) else none

/-- An integer of 64 bits. -/
def readInteger : Reader Value
  | '0' :: 'x' :: r => readBased 16 (fun c => (Json.hexValue? c).isSome) r
  | '0' :: 'o' :: r => readBased 8 (fun c => '0' ≤ c && c ≤ '7') r
  | '0' :: 'b' :: r => readBased 2 (fun c => c == '0' || c == '1') r
  | s =>
    match readDecimal s with
    | none => none
    | some (ds, r) => (Number.readInt64? ds).map fun n => (.integer n, r)

def readFraction : Reader (List Char)
  | '.' :: r => (digits Char.isDigit r).map fun (ds, r) => ('.' :: ds, r)
  | _ => none

def readExponent : Reader (List Char)
  | c :: r =>
    if c == 'e' || c == 'E' then
      let (sign, r) := readSign r
      (digits Char.isDigit r).map fun (ds, r) => ('e' :: sign ++ ds, r)
    else none
  | [] => none

/-- What makes a number a float: a fraction, an exponent, or both. -/
def readFloatTail : Reader (List Char) := fun s =>
  match readFraction s with
  | some (part, r) =>
    match readExponent r with
    | some (power, r) => some (part ++ power, r)
    | none => some (part, r)
  | none => readExponent s

def readSpecialFloat : Reader Value := fun s =>
  let (sign, r) := readSign s
  if "inf".toList.isPrefixOf r then some (.float (.infinite (sign == ['-'])), r.drop 3)
  else if "nan".toList.isPrefixOf r then some (.float .nan, r.drop 3)
  else none

def readFloat : Reader Value := fun s =>
  match readDecimal s with
  | none => none
  | some (ds, r) =>
    match readFloatTail r with
    | none => none
    | some (tail, r) =>
      match Number.readDouble? (ds ++ tail) with
      | some (.infinite false) => none
      | some x => some (.float x, r)
      | none => none

def readField (width least most : Nat) : Reader (List Char) := fun s =>
  let ds := s.take width
  match Number.readNat? ds with
  | some n =>
    if ds.length = width ∧ least ≤ n ∧ n ≤ most then some (ds, s.drop width) else none
  | none => none

def readMark (ok : Char → Bool) : Reader (List Char)
  | c :: r => if ok c then some ([c], r) else none
  | [] => none

def followed (a b : Reader (List Char)) : Reader (List Char) := fun s =>
  match a s with
  | none => none
  | some (x, r) => (b r).map fun (y, r) => (x ++ y, r)

def optional (a : Reader (List Char)) : Reader (List Char) := fun s =>
  (a s).getD ([], s)

def readDate : Reader (List Char) := fun s =>
  match followed (readField 4 0 9999) (followed (readMark (· == '-'))
    (followed (readField 2 1 12) (followed (readMark (· == '-')) (readField 2 1 31)))) s with
  | none => none
  | some (text, r) =>
    let year := Number.digitsValue 0 (text.take 4)
    let month := Number.digitsValue 0 ((text.drop 5).take 2)
    let day := Number.digitsValue 0 (text.drop 8)
    if Time.Date.isValid ⟨year, month, day⟩ then some (text, r) else none

/-- A time of day, with any fraction of a second. -/
def readClock : Reader (List Char) :=
  followed (readField 2 0 23) (followed (readMark (· == ':')) (followed (readField 2 0 59)
    (followed (readMark (· == ':')) (followed (readField 2 0 60) (optional fun s =>
      match s with
      | '.' :: r =>
        let ds := r.takeWhile Char.isDigit
        if ds = [] then none else some ('.' :: ds, r.dropWhile Char.isDigit)
      | _ => none)))))

def readZone : Reader (List Char) := fun s =>
  match readMark (fun c => c == 'Z' || c == 'z') s with
  | some z => some z
  | none =>
    followed (readMark fun c => c == '+' || c == '-') (followed (readField 2 0 23)
      (followed (readMark (· == ':')) (readField 2 0 59))) s

/-- A date, a time of day, or both with an offset or without. -/
def readMoment : Reader Value := fun s =>
  let full := followed readDate (optional (followed
    (readMark fun c => c == 'T' || c == 't' || c == ' ')
    (followed readClock (optional readZone))))
  match full s with
  | some (text, r) => some (.moment (String.ofList text), r)
  | none => (readClock s).map fun (text, r) => (.moment (String.ofList text), r)

def readNumber : Reader Value := fun s =>
  readMoment s <|> readFloat s <|> readSpecialFloat s <|> readInteger s

/-! ### Values -/

def readWord (word : String) (value : Value) : Reader Value := fun s =>
  if word.toList.isPrefixOf s then some (value, s.drop word.length) else none

mutual

/-- A value nested at most `depth` deep. -/
def readValue : Nat → Nat → Reader Value
  | 0, _, _ => none
  | fuel + 1, depth, s =>
    match s with
    | [] => none
    | c :: r =>
      if c == '"' || c == apostrophe then (readString s).map fun (s, r) => (.string s, r)
      else if c == '[' then
        match depth with
        | 0 => none
        | depth + 1 => readItems fuel depth [] r
      else if c == '\x7b' then
        match depth with
        | 0 => none
        | depth + 1 =>
          match skipBlanks r with
          | '\x7d' :: r => some (.table [], r)
          | r => readEntries fuel depth [] r
      else if c == 't' then readWord "true" (.boolean true) s
      else if c == 'f' then readWord "false" (.boolean false) s
      else readNumber s

/-- The items of an array up to its end; `acc` holds those read, last first. -/
def readItems : Nat → Nat → List Value → Reader Value
  | 0, _, _, _ => none
  | fuel + 1, depth, acc, s =>
    match skipLines (s.length + 1) s with
    | ']' :: r => some (.array acc.reverse, r)
    | s =>
      match readValue fuel depth s with
      | none => none
      | some (v, r) =>
        match skipLines (r.length + 1) r with
        | ',' :: r => readItems fuel depth (v :: acc) r
        | ']' :: r => some (.array (v :: acc).reverse, r)
        | _ => none

def readEntries : Nat → Nat → List (List String × Value) → Reader Value
  | 0, _, _, _ => none
  | fuel + 1, depth, acc, s =>
    match readKey depthLimit s with
    | some (key, '=' :: r) =>
      match readValue fuel depth (skipBlanks r) with
      | none => none
      | some (v, r) =>
        match skipBlanks r with
        | ',' :: r => readEntries fuel depth ((key, v) :: acc) r
        | '\x7d' :: r => (inlineTable ((key, v) :: acc).reverse).map (·, r)
        | _ => none
    | _ => none

end

def readAnyValue : Reader Value := fun s =>
  readValue (2 * s.length + 2) depthLimit s

/-! ### Lines -/

/-- A header or an entry, up to what may follow it on its line. -/
def readLine : Reader Line
  | '[' :: '[' :: r =>
    match readKey depthLimit r with
    | some (path, ']' :: ']' :: r) => some (.element path, r)
    | _ => none
  | '[' :: r =>
    match readKey depthLimit r with
    | some (path, ']' :: r) => some (.table path, r)
    | _ => none
  | s =>
    match readKey depthLimit s with
    | some (key, '=' :: r) =>
      (readAnyValue (skipBlanks r)).map fun (v, r) => (.entry key v, r)
    | _ => none

def readLines : Nat → List Char → Option (List Line)
  | 0, _ => none
  | fuel + 1, s =>
    match skipBlanks s with
    | [] => some []
    | s =>
      match afterLine? s with
      | some r => readLines fuel r
      | none =>
        match readLine s with
        | none => none
        | some (line, r) =>
          match afterLine? r with
          | none => none
          | some r => (readLines fuel r).map (line :: ·)

/-- The lines of a document, which a byte order mark may begin. -/
def parseLines? (text : List Char) : Option (List Line) :=
  let text := match text with
    | '\ufeff' :: r => r
    | r => r
  readLines (text.length + 1) text

def parse? (text : List Char) : Option (List (String × Value)) :=
  (parseLines? text).bind assemble

end FleetProfile.Toml
