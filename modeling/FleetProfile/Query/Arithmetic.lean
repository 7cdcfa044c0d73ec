import FleetProfile.Query.Statement
/-!
Arithmetic on cells: the type of a result, exact for integers and decimals, rounded once for
floating-point numbers. A result that its type cannot hold is refused.
-/
namespace FleetProfile.Query

open Number (Binary binary32 binary64 powTen)

def IntType.digits (t : IntType) : Nat :=
  min 38 (toString t.greatest).length

def IntType.join (a b : IntType) : IntType :=
  if a.signed = b.signed then ⟨a.signed, max a.bits b.bits⟩
  else
    let (s, u) := if a.signed then (a, b) else (b, a)
    if u.bits < s.bits then s else ⟨true, min 128 (2 * u.bits)⟩

def CellType.join? : CellType → CellType → Option CellType
  | .integer a, .integer b => some (.integer (a.join b))
  | .integer a, .decimal w s | .decimal w s, .integer a =>
    some (.decimal (min 38 (max a.digits (w - s) + s)) s)
  | .decimal w s, .decimal v r =>
    some (.decimal (min 38 (max (w - s) (v - r) + max s r)) (max s r))
  | .float, .float => some .float
  | .float, .integer _ | .integer _, .float | .float, .decimal .. | .decimal .., .float =>
    some .float
  | .double, .integer _ | .integer _, .double | .double, .decimal .. | .decimal .., .double
  | .double, .float | .float, .double | .double, .double => some .double
  | a, b => if a = b then some a else none

def CellType.isNumber : CellType → Bool
  | .integer _ | .decimal .. | .float | .double => true
  | _ => false

/-- The type of a sum, a difference or a product. -/
def Operator.type? (op : Operator) (a b : CellType) : Option CellType :=
  if a.isNumber && b.isNumber then
    match a.join? b with
    | some (.decimal w s) =>
      if op = .times then
        match a, b with
        | .decimal u r, .decimal v t => some (.decimal (min 38 (u + v)) (r + t))
        | _, _ => some (.decimal 38 s)
      else some (.decimal (min 38 (w + 1)) s)
    | t => t
  else none

/-- A sum, a difference or a product of quotients. -/
def Operator.quotients (op : Operator) (x y : Int × Nat) : Int × Nat :=
  match op with
  | .plus => (x.1 * y.2 + y.1 * x.2, x.2 * y.2)
  | .minus => (x.1 * y.2 - y.1 * x.2, x.2 * y.2)
  | _ => (x.1 * y.1, x.2 * y.2)

/-- The cell of a type nearest to a quotient, if the type holds it. -/
def CellType.ofQuotient? (t : CellType) (x : Int × Nat) : Option Cell :=
  match t with
  | .integer t => if t.holds (x.1 / x.2) then some (.integer t (x.1 / x.2)) else none
  | .decimal w s =>
    let n := roundAway (x.1 * (powTen s : Int)) x.2
    if n.natAbs < powTen w then some (.decimal w s n) else none
  | .float => some (.float (quotient binary32 x.1 x.2))
  | .double => some (.double (quotient binary64 x.1 x.2))
  | _ => none

/-- A sum, a difference or a product of cells; of the null it is the null. -/
def Operator.combine? (op : Operator) (a b : Cell) : Option Cell :=
  match a.type?, b.type? with
  | none, _ | _, none => some .null
  | some s, some t => do
    let x ← a.asQuotient?
    let y ← b.asQuotient?
    (← op.type? s t).ofQuotient? (op.quotients x y)

def CellType.sum? : CellType → Option CellType
  | .integer _ | .boolean => some (.integer .int128)
  | .decimal _ s => some (.decimal 38 s)
  | .float | .double => some .double
  | _ => none

/-- The sum of cells, nulls left out; of none it is the null. -/
def sumCells? (cells : List Cell) : Option Cell :=
  match cells.filter (· ≠ .null) with
  | [] => some .null
  | first :: rest => do
    let t ← (← first.type?).sum?
    rest.foldlM (fun total c => do
      let x ← total.asQuotient?
      let y ← c.asQuotient?
      t.ofQuotient? (Operator.quotients .plus x y)) (← first.cast? t)

/-- The cell that no other one comes before in an order, nulls left out. -/
def extreme (before : Ordering) (cells : List Cell) : Cell :=
  (cells.filter (· ≠ .null)).foldl (fun best c =>
    if best = .null then c else if c.compare? best = some before then c else best) .null

end FleetProfile.Query
