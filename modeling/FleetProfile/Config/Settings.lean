/-!
Settings of a connection: texts under names, in the order of the names, each name once.
-/
namespace FleetProfile

structure Settings where
  entries : List (String × String) := []
  ordered : entries.Pairwise (fun a b => a.1 < b.1) := by simp
deriving DecidableEq, Repr

namespace Settings

def empty : Settings := {}

instance : Inhabited Settings := ⟨empty⟩

/-- Put a text under a name, in the place of the one that was there. -/
def insertEntry (name text : String) : List (String × String) → List (String × String)
  | [] => [(name, text)]
  | e :: rest =>
    if name < e.1 then (name, text) :: e :: rest
    else if e.1 < name then e :: insertEntry name text rest
    else (name, text) :: rest

theorem mem_insertEntry {name text : String} {entries : List (String × String)}
    {e : String × String} (h : e ∈ insertEntry name text entries) :
    e = (name, text) ∨ e ∈ entries := by
  induction entries with
  | nil => simpa [insertEntry] using h
  | cons d rest ih =>
    simp only [insertEntry] at h
    split at h
    · simpa using h
    · split at h
      · simp only [List.mem_cons] at h ⊢
        rcases h with h | h
        · exact .inr (.inl h)
        · exact (ih h).imp id .inr
      · simp only [List.mem_cons] at h ⊢
        exact h.imp id .inr

theorem ordered_insertEntry (name text : String) {entries : List (String × String)}
    (h : entries.Pairwise (fun a b => a.1 < b.1)) :
    (insertEntry name text entries).Pairwise (fun a b => a.1 < b.1) := by
  induction entries with
  | nil => simp [insertEntry]
  | cons d rest ih =>
    have ⟨hd, hr⟩ := List.pairwise_cons.1 h
    simp only [insertEntry]
    split
    next lt =>
      refine List.pairwise_cons.2 ⟨?_, h⟩
      intro e he
      rcases List.mem_cons.1 he with rfl | he
      · exact lt
      · exact String.lt_trans lt (hd e he)
    next nlt =>
      split
      next gt =>
        refine List.pairwise_cons.2 ⟨?_, ih hr⟩
        intro e he
        rcases mem_insertEntry he with rfl | he
        · exact gt
        · exact hd e he
      next ngt =>
        refine List.pairwise_cons.2 ⟨?_, hr⟩
        intro e he
        have : name = d.1 := String.le_antisymm (String.not_lt.1 ngt) (String.not_lt.1 nlt)
        exact this ▸ hd e he

def insert (s : Settings) (name text : String) : Settings :=
  ⟨insertEntry name text s.entries, ordered_insertEntry name text s.ordered⟩

/-- Settings from names with texts; of two with one name the later one stays. -/
def ofList (entries : List (String × String)) : Settings :=
  entries.foldl (fun s e => s.insert e.1 e.2) empty

end Settings

end FleetProfile
