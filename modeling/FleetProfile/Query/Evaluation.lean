import FleetProfile.Query.Arithmetic
import FleetProfile.Query.Reader
import FleetProfile.Query.Relation
/-!
The answer to a selection. Its columns and their types are settled before any row is looked at, so
a name that does not exist is an error also over an empty table.
-/
namespace FleetProfile

namespace Query

/-- What can be named: the columns of a table that may have a name itself. -/
structure Scope where
  table : Option String
  columns : List Column

/-- A computation that the database may refuse, for a reason. -/
abbrev Refusable (α : Type) := Except String α

def orRefuse (reason : String) : Option α → Refusable α
  | some a => .ok a
  | none => .error reason

namespace Scope

def position (scope : Scope) (table : Option String) (name : String) : Refusable Nat :=
  let known := match table, scope.table with
    | none, _ => true
    | some t, some own => Text.eqIgnoreAsciiCase t own
    | some _, none => false
  let found := scope.columns.findIdx? fun c => Text.eqIgnoreAsciiCase c.name name
  orRefuse s!"no column {name}" (if known then found else none)

end Scope

/-! ### Types -/

def Expr.isAggregate : Expr → Bool
  | .literal .. | .column .. => false
  | .negated e | .inverse e | .cast e _ | .isNull e _ => e.isAggregate
  | .binary _ a b => a.isAggregate || b.isAggregate
  | .countRows | .aggregate .. => true

/-- Whether an expression names a column outside of all aggregates. -/
def Expr.hasLooseColumn : Expr → Bool
  | .literal .. | .countRows | .aggregate .. => false
  | .column .. => true
  | .negated e | .inverse e | .cast e _ | .isNull e _ => e.hasLooseColumn
  | .binary _ a b => a.hasLooseColumn || b.hasLooseColumn

def CellType.isTruth (t : CellType) : Bool :=
  t == .boolean || t == .text || t.isNumber

/-- Whether two types can be compared. A text is read as what it is compared with. -/
def CellType.isComparable (a b : CellType) : Bool :=
  a == .text || b == .text || (a.join? b).isSome ||
    match a, b with
    | .timestamp _, .timestamp _ | .timestamp _, .date | .date, .timestamp _ => true
    | .boolean, b => b.isNumber
    | a, .boolean => a.isNumber
    | _, _ => false

/-- The type of an operation; the null goes with every type. -/
def Operator.check (op : Operator) : Option CellType → Option CellType → Refusable (Option CellType)
  | none, none | none, some _ | some _, none =>
    match op with
    | .plus | .minus | .times => .ok none
    | _ => .ok (some .boolean)
  | some a, some b =>
    match op with
    | .either | .both =>
      if a.isTruth && b.isTruth then .ok (some .boolean) else .error "no truth value"
    | .plus | .minus | .times => (orRefuse "no numbers" (op.type? a b)).map some
    | _ => if a.isComparable b then .ok (some .boolean) else .error "not comparable"

/-- The type of an expression; the null has none. -/
def Expr.check (scope : Scope) : Expr → Refusable (Option CellType)
  | .literal c _ => .ok c.type?
  | .column table name => do
    let n ← scope.position table name
    .ok (scope.columns[n]?.map (·.type))
  | .negated e => do
    match ← e.check scope with
    | some t => if t.isNumber then .ok (some t) else .error "no number"
    | none => .ok none
  | .inverse e => do
    match ← e.check scope with
    | some t => if t.isTruth then .ok (some .boolean) else .error "no truth value"
    | none => .ok (some .boolean)
  | .cast e t => do
    let _ ← e.check scope
    .ok (some t)
  | .isNull e _ => do
    let _ ← e.check scope
    .ok (some .boolean)
  | .binary op a b => do op.check (← a.check scope) (← b.check scope)
  | .countRows => .ok (some (.integer .int64))
  | .aggregate f e => do
    if e.isAggregate then .error "an aggregate of an aggregate"
    match f, ← e.check scope with
    | .count, _ => .ok (some (.integer .int64))
    | .sum, some t => (orRefuse "no sum" t.sum?).map some
    | .sum, none => .ok (some (.integer .int128))
    | _, t => .ok t

/-! ### Values -/

/-- A cell as a truth value; the null is neither. -/
def Cell.truth (c : Cell) : Refusable (Option Bool) :=
  match c.cast? .boolean with
  | some (.boolean b) => .ok (some b)
  | some _ => .ok none
  | none => .error "no truth value"

def Cell.ofTruth : Option Bool → Cell := .opt .boolean

/-- Two truth values, of which one may settle the outcome without the other. -/
def settle (decisive : Bool) : Option Bool → Option Bool → Option Bool
  | some a, some b => some (if a = decisive || b = decisive then decisive else !decisive)
  | some a, none | none, some a => if a = decisive then some decisive else none
  | none, none => none

/-- Whether the order of two cells is one that a comparison accepts. -/
def Operator.accepts (op : Operator) (o : Ordering) : Bool :=
  match op with
  | .equal => o.isEq
  | .unequal => o.isNe
  | .less => o.isLT
  | .lessEqual => o.isLE
  | .greater => o.isGT
  | .greaterEqual => o.isGE
  | _ => false

def Operator.value (op : Operator) (a b : Cell) : Refusable Cell :=
  match op with
  | .either => do .ok (.ofTruth (settle true (← a.truth) (← b.truth)))
  | .both => do .ok (.ofTruth (settle false (← a.truth) (← b.truth)))
  | .plus | .minus | .times => orRefuse "out of range" (op.combine? a b)
  | _ =>
    if a = .null ∨ b = .null then .ok .null
    else do
      let o ← orRefuse "not comparable" (a.compare? b)
      .ok (.boolean (op.accepts o))

def Aggregate.value (f : Aggregate) (cells : List Cell) : Refusable Cell :=
  match f with
  | .count => .ok (.count (cells.filter (· ≠ .null)).length)
  | .sum => orRefuse "out of range" (sumCells? cells)
  | .least => .ok (extreme .lt cells)
  | .greatest => .ok (extreme .gt cells)

def Cell.negated? : Cell → Option Cell
  | .null => some .null
  | .float x => some (.float x.negated)
  | .double x => some (.double x.negated)
  | c => do
    let x ← c.asQuotient?
    (← c.type?).ofQuotient? (-x.1, x.2)

def Expr.value (scope : Scope) (rows : List (List Cell)) (row : List Cell) :
    Expr → Refusable Cell
  | .literal c _ => .ok c
  | .column table name => do
    let n ← scope.position table name
    .ok (row[n]?.getD .null)
  | .negated e => do orRefuse "out of range" (← e.value scope rows row).negated?
  | .inverse e => do
    let b ← (← e.value scope rows row).truth
    .ok (.ofTruth (b.map not))
  | .cast e t => do orRefuse s!"no {t.name}" ((← e.value scope rows row).cast? t)
  | .isNull e expected => do
    let c ← e.value scope rows row
    .ok (.boolean (decide (c = .null) == expected))
  | .binary op a b => do op.value (← a.value scope rows row) (← b.value scope rows row)
  | .countRows => .ok (.count rows.length)
  | .aggregate f e => do f.value (← rows.mapM fun r => e.value scope rows r)

/-! ### Selections -/

/-- A column of a selection: its name, and the expression behind it. -/
structure Output where
  name : String
  expr : Expr

/-- The columns that an item stands for. An unnamed one keeps the name that its table gives it. -/
def Item.outputs (scope : Scope) : Item → Refusable (List Output)
  | .all =>
    if scope.columns.isEmpty then .error "no table"
    else .ok (scope.columns.map fun c => ⟨c.name, .column none c.name⟩)
  | .expr e (some name) => .ok [⟨name, e⟩]
  | .expr (.column table name) none => do
    let n ← scope.position table name
    .ok [⟨(scope.columns[n]?.map (·.name)).getD name, .column table name⟩]
  | .expr e none => .ok [⟨e.text, e⟩]

/-- The type of a column without one, which only the null is in. -/
def CellType.orDefault (t : Option CellType) : CellType :=
  t.getD (.integer .int32)

/-- What a key orders by: a column of the answer by its position or name, else an expression. -/
def SortKey.target (outputs : List Output) (k : SortKey) : Refusable Expr :=
  match k.expr with
  | .literal (.integer _ n) _ =>
    if 1 ≤ n then (orRefuse "no such position" outputs[n.toNat - 1]?).map (·.expr)
    else .error "no such position"
  | .column none name =>
    .ok (((outputs.find? fun o => Text.eqIgnoreAsciiCase o.name name).map (·.expr)).getD k.expr)
  | e => .ok e

/-- How two cells are ordered by a key; the null comes where the key puts it. -/
def SortKey.order (k : SortKey) (a b : Cell) : Ordering :=
  match decide (a = .null), decide (b = .null) with
  | true, true => .eq
  | true, false => if k.nullsFirst then .lt else .gt
  | false, true => if k.nullsFirst then .gt else .lt
  | false, false =>
    let o := (a.compare? b).getD .eq
    if k.descending then o.swap else o

/-- How two lists of cells are ordered by keys, the first key that tells them apart. -/
def sortOrder : List SortKey → List Cell → List Cell → Ordering
  | k :: ks, a :: as, b :: bs => (k.order a b).then (sortOrder ks as bs)
  | _, _, _ => .eq

def sortRows (keys : List SortKey) (rows : List (List Cell × List Cell)) : List (List Cell) :=
  (rows.mergeSort fun a b => (sortOrder keys a.2 b.2).isLE).map (·.1)

def Relation.restrict (scope : Scope) (rows : List (List Cell)) :
    Option Expr → Refusable (List (List Cell))
  | none => .ok rows
  | some e => do
    if e.isAggregate then .error "an aggregate in a condition"
    match ← e.check scope with
    | some t => if !t.isTruth then .error "no truth value"
    | none => pure ()
    rows.filterM fun row => do
      let b ← (← e.value scope rows row).truth
      .ok (b = some true)

/-- The columns and rows of a selection, from the relation that it draws from. -/
def Relation.select (scope : Scope) (rows : List (List Cell)) (items : List Item)
    (condition : Option Expr) (order : List SortKey) (limit : Option Nat) : Refusable Relation := do
  let outputs := (← items.mapM (Item.outputs scope)).flatten
  let targets ← order.mapM (SortKey.target outputs)
  let columns ← outputs.mapM fun o => do
    .ok (⟨o.name, .orDefault (← o.expr.check scope)⟩ : Column)
  let _ ← targets.mapM (Expr.check scope)
  let kept ← restrict scope rows condition
  let exprs := outputs.map (·.expr) ++ targets
  let row (r : List Cell) : Refusable (List Cell × List Cell) := do
    .ok (← outputs.mapM fun o => o.expr.value scope kept r,
      ← targets.mapM (Expr.value scope kept r))
  let computed ←
    if exprs.any Expr.isAggregate then
      if exprs.any Expr.hasLooseColumn then .error "a column beside an aggregate"
      else [[]].mapM row
    else kept.mapM row
  let sorted := sortRows order computed
  .ok ⟨columns, match limit with | some n => sorted.take n | none => sorted⟩

/-- The names of columns, of which the first ones may be given. -/
def renamed (given : List String) (columns : List Column) : Refusable (List Column) :=
  if columns.length < given.length then .error "more names than columns"
  else .ok ((columns.zipIdx).map fun (c, n) => { c with name := given.getD n c.name })

def valuesType (types : List (Option CellType)) : Refusable (Option CellType) :=
  types.foldlM (fun found t =>
    match found, t with
    | none, t => .ok t
    | found, none => .ok found
    | some a, some b => (orRefuse "no common type" (a.join? b)).map some) none

/-- Listed rows of values, which all have as many columns as the first one. -/
def valuesRelation (rows : List (List Expr)) : Refusable Relation := do
  let scope : Scope := ⟨none, []⟩
  let width := (rows.head?.map List.length).getD 0
  if rows.any (·.length ≠ width) then .error "rows of different lengths"
  let types ← rows.mapM (·.mapM (Expr.check scope))
  let columns ← (List.range width).mapM fun n => do
    .ok (⟨s!"col{n}", .orDefault (← valuesType (types.map fun r => (r[n]?).join))⟩ : Column)
  let cells ← rows.mapM fun row => (row.zip columns).mapM fun (e, c) => do
    if e.isAggregate then .error "an aggregate in a list of values"
    orRefuse "no common type" ((← e.value scope [] []).cast? c.type)
  .ok ⟨columns, cells⟩

mutual

def Selection.relation (tables : List (String × Relation)) : Selection → Refusable Relation
  | .values rows => valuesRelation rows
  | .select items source condition order limit => do
    let (scope, rows) ← source.scope tables
    Relation.select scope rows items condition order limit

def RowSource.scope (tables : List (String × Relation)) :
    RowSource → Refusable (Scope × List (List Cell))
  | .unit => .ok (⟨none, []⟩, [[]])
  | .table name given => do
    let found := tables.find? fun t => Text.eqIgnoreAsciiCase t.1 name
    let (_, r) ← orRefuse s!"no table {name}" found
    .ok (⟨some (given.getD name), r.columns⟩, r.rows)
  | .inner selection given names => do
    let r ← selection.relation tables
    .ok (⟨given, ← renamed names r.columns⟩, r.rows)

end

end Query

open Query

def Store.query (s : Store) (text : String) : Except Error Answer :=
  match Selection.parse? text with
  | none => .error (.database (.query "it is no selection"))
  | some selection =>
    match selection.relation s.tables with
    | .ok r => .ok r.answer
    | .error reason => .error (.database (.query reason))

end FleetProfile
