import FleetProfile.Query.Statement
import FleetProfile.Query.Token
/-!
Reading a query. Every reader takes something off the front of the tokens and leaves the rest.
-/
namespace FleetProfile.Query

abbrev Reader (α : Type) := List Token → Option (α × List Token)

def keyword (word : String) : Reader Unit
  | t :: r => if t.isKeyword word then some ((), r) else none
  | [] => none

def sign (text : String) : Reader Unit
  | t :: r => if t = .sign text then some ((), r) else none
  | [] => none

def reserved : List String :=
  ["select", "from", "where", "order", "by", "limit", "as", "and", "or", "not", "is", "null",
    "values", "union", "group", "having", "asc", "desc", "on", "join", "case", "when", "then",
    "else", "end", "in", "distinct", "with", "cast", "true", "false", "using", "all", "offset"]

def isReserved (word : String) : Bool :=
  reserved.contains (Text.lower word)

def identifier : Reader String
  | .word w :: r => if isReserved w then none else some (w, r)
  | .name n :: r => some (n, r)
  | _ => none

/-- Take any word as a name, as it may follow `AS`. -/
def anyName : Reader String
  | .word w :: r => some (w, r)
  | .name n :: r => some (n, r)
  | _ => none

/-- Names parted by commas, up to a closing bracket. -/
def names : Nat → Reader (List String)
  | 0, _ => none
  | fuel + 1, s =>
    match identifier s with
    | none => none
    | some (n, s) =>
      match s with
      | .sign "," :: r => (names fuel r).map fun (ns, r) => (n :: ns, r)
      | .sign ")" :: r => some ([n], r)
      | _ => none

/-! ### Types -/

def typeOfName? (name : String) : Option CellType :=
  match Text.lower name with
  | "boolean" | "bool" | "logical" => some .boolean
  | "tinyint" | "int1" => some (.integer ⟨true, 8⟩)
  | "smallint" | "int2" | "short" | "int16" => some (.integer ⟨true, 16⟩)
  | "integer" | "int4" | "int" | "signed" | "int32" => some (.integer ⟨true, 32⟩)
  | "bigint" | "int8" | "long" | "int64" => some (.integer ⟨true, 64⟩)
  | "hugeint" | "int128" => some (.integer ⟨true, 128⟩)
  | "utinyint" | "uint8" => some (.integer ⟨false, 8⟩)
  | "usmallint" | "uint16" => some (.integer ⟨false, 16⟩)
  | "uinteger" | "uint32" => some (.integer ⟨false, 32⟩)
  | "ubigint" | "uint64" => some (.integer ⟨false, 64⟩)
  | "decimal" | "numeric" | "dec" => some (.decimal 18 3)
  | "float" | "float4" | "real" => some .float
  | "double" | "float8" => some .double
  | "varchar" | "text" | "string" | "char" | "bpchar" => some .text
  | "date" => some .date
  | "timestamp" | "datetime" | "timestamp_us" => some (.timestamp .micro)
  | "timestamp_s" => some (.timestamp .second)
  | "timestamp_ms" => some (.timestamp .milli)
  | "timestamp_ns" => some (.timestamp .nano)
  | "blob" | "bytea" | "binary" | "varbinary" => some .blob
  | _ => none

def decimalSize : Reader CellType
  | .sign "(" :: .number w [] none :: .sign ")" :: r =>
    sized (Number.digitsValue 0 w) 0 r
  | .sign "(" :: .number w [] none :: .sign "," :: .number s [] none :: .sign ")" :: r =>
    sized (Number.digitsValue 0 w) (Number.digitsValue 0 s) r
  | r => some (.decimal 18 3, r)
where
  /-- A decimal type that exists. -/
  sized (width scale : Nat) (r : List Token) : Option (CellType × List Token) :=
    if 1 ≤ width ∧ width ≤ 38 ∧ scale ≤ width then some (.decimal width scale, r) else none

def cellType : Reader CellType
  | .word w :: r =>
    match typeOfName? w with
    | some (.decimal _ _) => decimalSize r
    | some .text =>
      match r with
      | .sign "(" :: .number _ [] none :: .sign ")" :: r => some (.text, r)
      | r => some (.text, r)
    | some t => some (t, r)
    | none => none
  | _ => none

/-! ### Literals -/

/-- The cell of a whole number: the smallest type from 32 bits on that holds it. -/
def wholeCell (n : Nat) : Cell :=
  if IntType.int32.holds n then .integer .int32 n
  else if IntType.int64.holds n then .integer .int64 n
  else if IntType.int128.holds n then .integer .int128 n
  else .double (Number.Binary.ofInt Number.binary64 n)

def wholeText (n : Nat) : String := toString n

/-- A number. One with an exponent is a floating-point number, one with a point a decimal. -/
def numberExpr (whole part : List Char) (exponent : Option Int) : Expr :=
  let digits := Number.digitsValue 0 (whole ++ part)
  match exponent with
  | some e =>
    let x := Number.ofDecimal false digits (e - part.length)
    .literal (.double x) (Number.Binary.text Number.binary64 x)
  | none =>
    if part = [] then .literal (wholeCell digits) (wholeText digits)
    else
      let width := max (whole ++ part).length 1
      if width ≤ 38 then
        .literal (.decimal width part.length digits) (decimalText part.length digits)
      else
        let x := Number.ofDecimal false digits (-(part.length : Int))
        .literal (.double x) (Number.Binary.text Number.binary64 x)

def textLiteral (s : String) : String :=
  let q := Token.textQuote
  String.ofList (q :: (s.toList.flatMap fun c => if c == q then [q, q] else [c]) ++ [q])

def booleanExpr (b : Bool) : Expr :=
  let word := if b then "t" else "f"
  .cast (.literal (.text word) (textLiteral word)) .boolean

/-! ### Expressions -/

def comparison? : Token → Option Operator
  | .sign "=" => some .equal
  | .sign "==" => some .equal
  | .sign "<>" => some .unequal
  | .sign "!=" => some .unequal
  | .sign "<" => some .less
  | .sign "<=" => some .lessEqual
  | .sign ">" => some .greater
  | .sign ">=" => some .greaterEqual
  | _ => none

def aggregateOfName? (name : String) : Option Aggregate :=
  match Text.lower name with
  | "count" => some .count
  | "sum" => some .sum
  | "min" => some .least
  | "max" => some .greatest
  | _ => none

mutual

/-- Expressions joined by `OR`. -/
def expr : Nat → Reader Expr
  | 0, _ => none
  | fuel + 1, s =>
    match conjunction fuel s with
    | none => none
    | some (a, s) =>
      match keyword "or" s with
      | some (_, r) => (expr fuel r).map fun (b, r) => (.binary .either a b, r)
      | none => some (a, s)

/-- Expressions joined by `AND`. -/
def conjunction : Nat → Reader Expr
  | 0, _ => none
  | fuel + 1, s =>
    match negation fuel s with
    | none => none
    | some (a, s) =>
      match keyword "and" s with
      | some (_, r) => (conjunction fuel r).map fun (b, r) => (.binary .both a b, r)
      | none => some (a, s)

/-- An expression after any number of `NOT`. -/
def negation : Nat → Reader Expr
  | 0, _ => none
  | fuel + 1, s =>
    match keyword "not" s with
    | some (_, r) => (negation fuel r).map fun (e, r) => (.inverse e, r)
    | none => compared fuel s

/-- A sum, or two compared, or one tested for null. -/
def compared : Nat → Reader Expr
  | 0, _ => none
  | fuel + 1, s =>
    match sum fuel s with
    | none => none
    | some (a, s) =>
      match s with
      | t :: r =>
        match comparison? t with
        | some op => (sum fuel r).map fun (b, r) => (.binary op a b, r)
        | none =>
          match keyword "is" s with
          | none => some (a, s)
          | some (_, r) =>
            match keyword "not" r with
            | some (_, r) => (keyword "null" r).map fun (_, r) => (.isNull a false, r)
            | none => (keyword "null" r).map fun (_, r) => (.isNull a true, r)
      | [] => some (a, [])

def sum : Nat → Reader Expr
  | 0, _ => none
  | fuel + 1, s =>
    match product fuel s with
    | none => none
    | some (a, s) => moreSum fuel a s

def moreSum : Nat → Expr → Reader Expr
  | 0, _, _ => none
  | fuel + 1, a, s =>
    match s with
    | .sign "+" :: r =>
      match product fuel r with
      | some (b, r) => moreSum fuel (.binary .plus a b) r
      | none => none
    | .sign "-" :: r =>
      match product fuel r with
      | some (b, r) => moreSum fuel (.binary .minus a b) r
      | none => none
    | s => some (a, s)

def product : Nat → Reader Expr
  | 0, _ => none
  | fuel + 1, s =>
    match factor fuel s with
    | none => none
    | some (a, .sign "*" :: r) => (product fuel r).map fun (b, r) => (.binary .times a b, r)
    | some (a, s) => some (a, s)

def factor : Nat → Reader Expr
  | 0, _ => none
  | fuel + 1, s =>
    match s with
    | .sign "-" :: r => (factor fuel r).map fun (e, r) => (.negated e, r)
    | .sign "+" :: r => factor fuel r
    | s =>
      match primary fuel s with
      | some (e, r) => casts fuel e r
      | none => none

def casts : Nat → Expr → Reader Expr
  | 0, _, _ => none
  | fuel + 1, e, s =>
    match s with
    | .sign "::" :: r =>
      match cellType r with
      | some (t, r) => casts fuel (.cast e t) r
      | none => none
    | s => some (e, s)

/-- A literal, a column, an aggregate, or an expression in brackets. -/
def primary : Nat → Reader Expr
  | 0, _ => none
  | fuel + 1, s =>
    match s with
    | .number w p e :: r => some (numberExpr w p e, r)
    | .text t :: r => some (.literal (.text t) (textLiteral t), r)
    | .sign "(" :: r =>
      match expr fuel r with
      | some (e, .sign ")" :: r) => some (e, r)
      | _ => none
    | .word w :: .sign "(" :: r =>
      if Text.eqIgnoreAsciiCase w "cast" then
        match expr fuel r with
        | some (e, r) =>
          match keyword "as" r with
          | some (_, r) =>
            match cellType r with
            | some (t, .sign ")" :: r) => some (.cast e t, r)
            | _ => none
          | none => none
        | none => none
      else
        match aggregateOfName? w with
        | none => none
        | some f =>
          match f, r with
          | .count, .sign "*" :: .sign ")" :: r => some (.countRows, r)
          | .count, .sign ")" :: r => some (.countRows, r)
          | f, r =>
            match expr fuel r with
            | some (e, .sign ")" :: r) => some (.aggregate f e, r)
            | _ => none
    | .word w :: .text t :: r =>
      (typeOfName? w).map fun type => (.cast (.literal (.text t) (textLiteral t)) type, r)
    | s =>
      match keyword "null" s with
      | some (_, r) => some (.literal .null "NULL", r)
      | none =>
        match keyword "true" s with
        | some (_, r) => some (booleanExpr true, r)
        | none =>
          match keyword "false" s with
          | some (_, r) => some (booleanExpr false, r)
          | none =>
            match identifier s with
            | some (t, .sign "." :: r) => (anyName r).map fun (n, r) => (.column (some t) n, r)
            | some (n, r) => some (.column none n, r)
            | none => none

end

/-! ### Selections -/

def exprs : Nat → Reader (List Expr)
  | 0, _ => none
  | fuel + 1, s =>
    match expr (16 * s.length + 16) s with
    | none => none
    | some (e, .sign "," :: r) => (exprs fuel r).map fun (es, r) => (e :: es, r)
    | some (e, r) => some ([e], r)

def givenName (s : List Token) : Option String × List Token :=
  match keyword "as" s with
  | some (_, r) =>
    match anyName r with
    | some (n, r) => (some n, r)
    | none => (none, s)
  | none =>
    match identifier s with
    | some (n, r) => (some n, r)
    | none => (none, s)

def itemList : Nat → Reader (List Item)
  | 0, _ => none
  | fuel + 1, s =>
    let first : Option (Item × List Token) := match s with
      | .sign "*" :: r => some (.all, r)
      | s => (expr (16 * s.length + 16) s).map fun (e, r) =>
        let (name, r) := givenName r
        (.expr e name, r)
    match first with
    | none => none
    | some (item, .sign "," :: r) => (itemList fuel r).map fun (is, r) => (item :: is, r)
    | some (item, r) => some ([item], r)

/-- Rows of values in brackets, parted by commas. -/
def valueRows : Nat → Reader (List (List Expr))
  | 0, _ => none
  | fuel + 1, s =>
    match s with
    | .sign "(" :: r =>
      match exprs r.length r with
      | some (row, .sign ")" :: .sign "," :: r) =>
        (valueRows fuel r).map fun (rows, r) => (row :: rows, r)
      | some (row, .sign ")" :: r) => some ([row], r)
      | _ => none
    | _ => none

/-- Whether rows with nothing in a key come first, if that is said. -/
def nullOrder (s : List Token) : Bool × List Token :=
  match s with
  | a :: b :: r =>
    if a.isKeyword "nulls" && b.isKeyword "first" then (true, r)
    else if a.isKeyword "nulls" && b.isKeyword "last" then (false, r)
    else (false, s)
  | s => (false, s)

def sortKeys : Nat → Reader (List SortKey)
  | 0, _ => none
  | fuel + 1, s =>
    match expr (16 * s.length + 16) s with
    | none => none
    | some (e, s) =>
      let (descending, s) := match keyword "desc" s with
        | some (_, r) => (true, r)
        | none => (false, ((keyword "asc" s).map (·.2)).getD s)
      let (nullsFirst, s) := nullOrder s
      let key : SortKey := ⟨e, descending, nullsFirst⟩
      match s with
      | .sign "," :: r => (sortKeys fuel r).map fun (ks, r) => (key :: ks, r)
      | r => some ([key], r)

def clause (words : List String) (read : Reader α) (s : List Token) :
    Option (Option α × List Token) :=
  let start := words.foldlM (fun s w => (keyword w s).map (·.2)) s
  match start with
  | none => some (none, s)
  | some r => (read r).map fun (a, r) => (some a, r)

def rowCount : Reader Nat
  | .number w [] none :: r => some (Number.digitsValue 0 w, r)
  | _ => none

mutual

def selection : Nat → Reader Selection
  | 0, _ => none
  | fuel + 1, s =>
    match keyword "values" s with
    | some (_, r) => (valueRows r.length r).map fun (rows, r) => (.values rows, r)
    | none =>
      match keyword "select" s with
      | none => none
      | some (_, s) =>
        match itemList (s.length + 1) s with
        | none => none
        | some (items, s) =>
          match rowSource fuel s with
          | none => none
          | some (source, s) => do
            let (condition, s) ← clause ["where"] (fun s => expr (16 * s.length + 16) s) s
            let (order, s) ← clause ["order", "by"] (fun s => sortKeys (s.length + 1) s) s
            let (limit, s) ← clause ["limit"] rowCount s
            some (.select items source condition (order.getD []) limit, s)

def rowSource : Nat → Reader RowSource
  | 0, _ => none
  | fuel + 1, s =>
    match keyword "from" s with
    | none => some (.unit, s)
    | some (_, .sign "(" :: r) =>
      match selection fuel r with
      | some (inner, .sign ")" :: r) =>
        let (name, r) := givenName r
        match name, r with
        | some _, .sign "(" :: r =>
          (names (r.length + 1) r).map fun (ns, r) => (.inner inner name ns, r)
        | name, r => some (.inner inner name [], r)
      | _ => none
    | some (_, r) =>
      match identifier r with
      | none => none
      | some (table, r) =>
        let (name, r) := givenName r
        some (.table table name, r)

end

/-- The selection that a whole query is; a semicolon may end it. -/
def Selection.parse? (text : String) : Option Selection :=
  match Token.scan text with
  | none => none
  | some tokens =>
    match selection (tokens.length + 1) tokens with
    | some (s, []) => some s
    | some (s, [.sign ";"]) => some s
    | _ => none

end FleetProfile.Query
