import FleetProfile.Query.Cast
/-!
Queries as trees: expressions, and selections from tables, lists of values and other selections.
-/
namespace FleetProfile.Query

inductive Aggregate where
  | count
  | sum
  | least
  | greatest
deriving DecidableEq, Repr

def Aggregate.name : Aggregate → String
  | .count => "count"
  | .sum => "sum"
  | .least => "min"
  | .greatest => "max"

inductive Operator where
  | either
  | both
  | equal
  | unequal
  | less
  | lessEqual
  | greater
  | greaterEqual
  | plus
  | minus
  | times
deriving DecidableEq, Repr

def Operator.text : Operator → String
  | .either => "OR"
  | .both => "AND"
  | .equal => "="
  | .unequal => "!="
  | .less => "<"
  | .lessEqual => "<="
  | .greater => ">"
  | .greaterEqual => ">="
  | .plus => "+"
  | .minus => "-"
  | .times => "*"

inductive Expr where
  /-- A cell, with the text that names its column. -/
  | literal (cell : Cell) (text : String)
  | column (table : Option String) (name : String)
  | negated (e : Expr)
  | inverse (e : Expr)
  | cast (e : Expr) (type : CellType)
  | isNull (e : Expr) (expected : Bool)
  | binary (op : Operator) (left right : Expr)
  | countRows
  | aggregate (f : Aggregate) (e : Expr)
deriving Repr, Inhabited

inductive Item where
  /-- All columns of the table. -/
  | all
  | expr (e : Expr) (given : Option String)
deriving Repr, Inhabited

structure SortKey where
  expr : Expr
  descending : Bool
  nullsFirst : Bool
deriving Repr

mutual

inductive Selection where
  | values (rows : List (List Expr))
  | select (items : List Item) (source : RowSource) (condition : Option Expr)
      (order : List SortKey) (limit : Option Nat)

inductive RowSource where
  /-- One row without columns. -/
  | unit
  | table (name : String) (given : Option String)
  | inner (selection : Selection) (given : Option String) (columns : List String)

end

def CellType.name : CellType → String
  | .boolean => "BOOLEAN"
  | .integer t =>
    let size := match t.bits with
      | 8 => "TINYINT"
      | 16 => "SMALLINT"
      | 32 => "INTEGER"
      | 64 => "BIGINT"
      | _ => "HUGEINT"
    if t.signed then size else "U" ++ size
  | .decimal width scale => s!"DECIMAL({width},{scale})"
  | .float => "FLOAT"
  | .double => "DOUBLE"
  | .text => "VARCHAR"
  | .date => "DATE"
  | .timestamp .second => "TIMESTAMP_S"
  | .timestamp .milli => "TIMESTAMP_MS"
  | .timestamp .micro => "TIMESTAMP"
  | .timestamp .nano => "TIMESTAMP_NS"
  | .blob => "BLOB"

/-- The text of an expression, which names its column where nothing else does. -/
def Expr.text : Expr → String
  | .literal _ text => text
  | .column _ name => name
  | .negated (.literal _ text) => "-" ++ text
  | .negated e => s!"-({e.text})"
  | .inverse e => s!"(NOT {e.text})"
  | .cast e type => s!"CAST({e.text} AS {type.name})"
  | .isNull e expected =>
    let state := if expected then "NULL" else "NOT NULL"
    s!"({e.text} IS {state})"
  | .binary op a b => s!"({a.text} {op.text} {b.text})"
  | .countRows => "count_star()"
  | .aggregate f e => s!"{f.name}({e.text})"

end FleetProfile.Query
