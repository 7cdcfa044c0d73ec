import FleetProfile.Proofs.Toml.Lines

/-! Tables put together from their lines: entries under keys of their own, and an array of tables
with a table inside each, one after the other. -/
namespace FleetProfile.Toml

variable {fields : List (String × Value)} {rest : List Line}

theorem ownEntries_entryLines (hrest : ownEntries rest = []) :
    ownEntries (entryLines fields ++ rest) = fields.map fun e => ([e.1], e.2) := by
  induction fields with
  | nil => exact hrest
  | cons e fields ih => exact congrArg (([e.1], e.2) :: ·) ih

theorem addTables_entryLines (entries : Node.Entries) :
    addTables entries (entryLines fields ++ rest) = addTables entries rest := by
  induction fields with
  | nil => rfl
  | cons e fields ih => exact ih

namespace Node

variable {entries : Entries} {key : String} {node : Node}

/-- Values under their keys. -/
def ofFields (fields : List (String × Value)) : Entries :=
  fields.map fun e => (e.1, .value e.2)

theorem find?_eq_none (new : key ∉ entries.map Prod.fst) : find? entries key = none := by
  rw [find?, Option.map_eq_none_iff, List.find?_eq_none]
  intro e he hkey
  exact new (beq_iff_eq.1 hkey ▸ List.mem_map_of_mem he)

theorem find?_concat (new : key ∉ entries.map Prod.fst) :
    find? (entries ++ [(key, node)]) key = some node := by
  have hnone := find?_eq_none new
  rw [find?, Option.map_eq_none_iff] at hnone
  rw [find?, List.find?_append, hnone, Option.none_or]
  simp

theorem replace_concat (new : key ∉ entries.map Prod.fst) (node' : Node) :
    replace (entries ++ [(key, node)]) key node' = entries ++ [(key, node')] := by
  have hsame : ∀ e ∈ entries, (if e.1 == key then (key, node') else e) = e := by
    intro e he
    rw [if_neg]
    exact fun hkey => new (beq_iff_eq.1 hkey ▸ List.mem_map_of_mem he)
  rw [replace, List.map_append, List.map_congr_left hsame, List.map_id', List.map_singleton,
    if_pos (beq_self_eq_true key)]

/-- Entries under new keys are added in their order. -/
theorem insertAll_ofFields
    (nodup : (entries.map Prod.fst ++ fields.map Prod.fst).Nodup) :
    insertAll entries (fields.map fun e => ([e.1], e.2)) = some (entries ++ ofFields fields) := by
  induction fields generalizing entries with
  | nil => exact congrArg some (List.append_nil _).symm
  | cons e fields ih =>
    have hnew : e.1 ∉ entries.map Prod.fst := by
      intro hmem
      exact (List.nodup_append.1 nodup).2.2 _ hmem _ List.mem_cons_self rfl
    have hadd : insert entries [e.1] e.2 = some (entries ++ [(e.1, .value e.2)]) := by
      rw [insert, add?, find?_eq_none hnew]
    have hrest : insertAll (entries ++ [(e.1, .value e.2)]) (fields.map fun e => ([e.1], e.2)) =
        some (entries ++ [(e.1, .value e.2)] ++ ofFields fields) := ih (by simpa using nodup)
    rw [List.map_cons, insertAll, List.foldlM_cons, hadd]
    rw [List.append_assoc] at hrest
    exact hrest

theorem insertAll_nil_ofFields (nodup : (fields.map Prod.fst).Nodup) :
    insertAll [] (fields.map fun e => ([e.1], e.2)) = some (ofFields fields) :=
  insertAll_ofFields nodup

/-! ### Back to values -/

theorem toEntries_append (a b : Entries) : toEntries (a ++ b) = toEntries a ++ toEntries b := by
  induction a with
  | nil => rfl
  | cons e a ih => rw [List.cons_append, toEntries, toEntries, ih, List.cons_append]

theorem toEntries_ofFields (fields : List (String × Value)) :
    toEntries (ofFields fields) = fields := by
  induction fields with
  | nil => rfl
  | cons e fields ih =>
    rw [ofFields, List.map_cons, toEntries, toValue]
    exact congrArg (e :: ·) ih

theorem toItems_eq_map (tables : List Entries) :
    toItems tables = tables.map fun t => .table (toEntries t) := by
  induction tables with
  | nil => rfl
  | cons t tables ih => rw [toItems, ih, List.map_cons]

end Node

/-! ### Arrays of tables -/

/-- An element of an array of tables: its own fields, and those of the table inside it. -/
structure Element where
  own : List (String × Value)
  inner : List (String × Value)

namespace Element

variable {key sub : String} {top : Node.Entries} {done : List Node.Entries} {e : Element}

/-- No key occurs twice. -/
structure Distinct (sub : String) (e : Element) : Prop where
  own : (e.own.map Prod.fst).Nodup
  inner : (e.inner.map Prod.fst).Nodup
  sub : sub ∉ e.own.map Prod.fst

def lines (key sub : String) (e : Element) : List Line :=
  .element [key] :: (entryLines e.own ++ .table [key, sub] :: entryLines e.inner)

def node (sub : String) (e : Element) : Node.Entries :=
  Node.ofFields e.own ++ [(sub, .table .header (Node.ofFields e.inner))]

def value (sub : String) (e : Element) : Value :=
  .table (e.own ++ [(sub, .table e.inner)])

theorem map_fst_ofFields (fields : List (String × Value)) :
    (Node.ofFields fields).map Prod.fst = fields.map Prod.fst := by
  rw [Node.ofFields, List.map_map]
  rfl

theorem toEntries_node : .table (Node.toEntries (e.node sub)) = e.value sub := by
  rw [node, Node.toEntries_append, Node.toEntries_ofFields, Node.toEntries, Node.toValue,
    Node.toEntries_ofFields, Node.toEntries, value]

/-- The table inside an element is opened in the last one of the array. -/
theorem update_openTable (new : key ∉ top.map Prod.fst) (distinct : e.Distinct sub) :
    Node.update (Node.openTable sub (e.inner.map fun f => ([f.1], f.2))) [key]
        (top ++ [(key, .elements (done ++ [Node.ofFields e.own]))]) =
      some (top ++ [(key, .elements (done ++ [e.node sub]))]) := by
  have hopen : Node.openTable sub (e.inner.map fun f => ([f.1], f.2)) (Node.ofFields e.own) =
      some (e.node sub) := by
    have hsub : sub ∉ (Node.ofFields e.own).map Prod.fst :=
      map_fst_ofFields e.own ▸ distinct.sub
    rw [Node.openTable, Node.find?_eq_none hsub, Node.insertAll_nil_ofFields distinct.inner]
    rfl
  rw [Node.update, Node.find?_concat new]
  simp only [List.getLast?_concat, Node.update, hopen, Option.map_some, List.dropLast_concat,
    Node.replace_concat new]

theorem addTables_lines {entries : Node.Entries} (new : key ∉ top.map Prod.fst)
    (distinct : e.Distinct sub)
    (hopen : Node.openElement key (e.own.map fun f => ([f.1], f.2)) entries =
      some (top ++ [(key, .elements (done ++ [Node.ofFields e.own]))]))
    {rest : List Line} (hrest : ownEntries rest = []) :
    addTables entries (e.lines key sub ++ rest) =
      addTables (top ++ [(key, .elements (done ++ [e.node sub]))]) rest := by
  have hown : ownEntries (entryLines e.own ++ .table [key, sub] :: (entryLines e.inner ++ rest)) =
      e.own.map fun f => ([f.1], f.2) := ownEntries_entryLines rfl
  have hinner : ownEntries (entryLines e.inner ++ rest) = e.inner.map fun f => ([f.1], f.2) :=
    ownEntries_entryLines hrest
  rw [lines, List.cons_append, List.append_assoc, List.cons_append, addTables]
  simp only [List.getLast?_singleton, List.dropLast_singleton, Node.update, hown, hopen]
  rw [Option.bind_eq_bind, Option.bind_some, addTables_entryLines, addTables]
  simp only [List.getLast?_cons_cons, List.getLast?_singleton, List.dropLast_cons_cons,
    List.dropLast_singleton, hinner, update_openTable new distinct]
  rw [Option.bind_eq_bind, Option.bind_some, addTables_entryLines]

/-- The first element makes the array. -/
theorem addTables_first (new : key ∉ top.map Prod.fst) (distinct : e.Distinct sub)
    {rest : List Line} (hrest : ownEntries rest = []) :
    addTables top (e.lines key sub ++ rest) =
      addTables (top ++ [(key, .elements [e.node sub])]) rest := by
  have hopen : Node.openElement key (e.own.map fun f => ([f.1], f.2)) top =
      some (top ++ [(key, .elements ([] ++ [Node.ofFields e.own]))]) := by
    rw [Node.openElement, Node.find?_eq_none new, Node.insertAll_nil_ofFields distinct.own]
    rfl
  exact addTables_lines new distinct hopen hrest

theorem addTables_next (new : key ∉ top.map Prod.fst) (distinct : e.Distinct sub)
    {rest : List Line} (hrest : ownEntries rest = []) :
    addTables (top ++ [(key, .elements done)]) (e.lines key sub ++ rest) =
      addTables (top ++ [(key, .elements (done ++ [e.node sub]))]) rest := by
  refine addTables_lines new distinct ?_ hrest
  rw [Node.openElement, Node.find?_concat new]
  simp only [Node.insertAll_nil_ofFields distinct.own, Option.map_some, Node.replace_concat new]

theorem written_lines (own : ∀ f ∈ e.own, Scalar f.2) (inner : ∀ f ∈ e.inner, Scalar f.2) :
    ∀ line ∈ e.lines key sub, Written line := by
  refine List.forall_mem_cons.2 ⟨.element (by simp) (by simp [depthLimit]), ?_⟩
  refine List.forall_mem_append.2 ⟨written_entryLines own, ?_⟩
  exact List.forall_mem_cons.2 ⟨.table (by simp) (by simp [depthLimit]), written_entryLines inner⟩

theorem ownEntries_flatMap (key sub : String) (elements : List Element) :
    ownEntries (elements.flatMap (lines key sub)) = [] := by
  cases elements with
  | nil => rfl
  | cons e elements => rfl

theorem addTables_flatMap (new : key ∉ top.map Prod.fst) {elements : List Element}
    (distinct : ∀ e ∈ elements, e.Distinct sub) :
    addTables (top ++ [(key, .elements done)]) (elements.flatMap (lines key sub)) =
      some (top ++ [(key, .elements (done ++ elements.map (node sub)))]) := by
  induction elements generalizing done with
  | nil => rw [List.flatMap_nil, addTables, List.map_nil, List.append_nil]
  | cons e elements ih =>
    obtain ⟨he, hrest⟩ := List.forall_mem_cons.1 distinct
    rw [List.flatMap_cons, addTables_next new he (ownEntries_flatMap key sub elements), ih hrest,
      List.map_cons, List.append_assoc, List.singleton_append]

end Element

/-- Fields and then an array of tables, each with a table inside, are put together as they are. -/
theorem assemble_elements {key sub : String} {top : List (String × Value)} {elements : List Element}
    (nodup : (top.map Prod.fst).Nodup) (new : key ∉ top.map Prod.fst) (ne : elements ≠ [])
    (distinct : ∀ e ∈ elements, e.Distinct sub) :
    assemble (entryLines top ++ elements.flatMap (Element.lines key sub)) =
      some (top ++ [(key, .array (elements.map (Element.value sub)))]) := by
  obtain ⟨e, elements, rfl⟩ := List.exists_cons_of_ne_nil ne
  obtain ⟨he, hrest⟩ := List.forall_mem_cons.1 distinct
  have hnew : key ∉ (Node.ofFields top).map Prod.fst := Element.map_fst_ofFields top ▸ new
  have hown : ownEntries (entryLines top ++ (e :: elements).flatMap (Element.lines key sub)) =
      top.map fun f => ([f.1], f.2) :=
    ownEntries_entryLines (Element.ownEntries_flatMap key sub (e :: elements))
  rw [assemble, hown, Node.insertAll_nil_ofFields nodup]
  simp only [Option.bind_eq_bind, Option.bind_some]
  rw [addTables_entryLines, List.flatMap_cons,
    Element.addTables_first hnew he (Element.ownEntries_flatMap key sub elements),
    Element.addTables_flatMap hnew hrest, Option.bind_some, Node.toEntries_append,
    Node.toEntries_ofFields, Node.toEntries, Node.toValue, Node.toItems_eq_map, Node.toEntries,
    List.singleton_append, ← List.map_cons, List.map_map]
  simp only [Function.comp_def, Element.toEntries_node]

end FleetProfile.Toml
