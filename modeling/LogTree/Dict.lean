/-! Finite maps from strings, kept as entries in rising order of their keys. -/
namespace LogTree

structure Dict (α : Type) where
  entries : List (String × α)
  sorted : entries.Pairwise (·.1 < ·.1)

namespace Dict
variable {α β : Type}

def empty : Dict α := ⟨[], .nil⟩

instance : Inhabited (Dict α) := ⟨empty⟩

/-- Puts an entry in its place; an entry of the same key gives way. -/
def insertEntry (key : String) (value : α) : List (String × α) → List (String × α)
  | [] => [(key, value)]
  | (k, v) :: rest =>
    if key < k then (key, value) :: (k, v) :: rest
    else if key = k then (key, value) :: rest
    else (k, v) :: insertEntry key value rest

theorem mem_insertEntry {key : String} {value : α} {x : String × α} {es : List (String × α)}
    (h : x ∈ insertEntry key value es) : x = (key, value) ∨ x ∈ es := by
  induction es with
  | nil => simpa [insertEntry] using h
  | cons e rest ih =>
    obtain ⟨k, v⟩ := e
    simp only [insertEntry] at h
    split at h
    · simpa using h
    · split at h
      · rcases List.mem_cons.1 h with h | h
        · exact .inl h
        · exact .inr (List.mem_cons_of_mem _ h)
      · rcases List.mem_cons.1 h with h | h
        · exact .inr (h ▸ List.mem_cons_self)
        · exact (ih h).imp id (List.mem_cons_of_mem _)

theorem sorted_insertEntry (key : String) (value : α) {es : List (String × α)}
    (h : es.Pairwise (·.1 < ·.1)) : (insertEntry key value es).Pairwise (·.1 < ·.1) := by
  induction es with
  | nil => simp [insertEntry]
  | cons e rest ih =>
    obtain ⟨k, v⟩ := e
    obtain ⟨above, tail⟩ := List.pairwise_cons.1 h
    simp only [insertEntry]
    split
    · rename_i less
      refine List.pairwise_cons.2 ⟨fun x hx => ?_, h⟩
      rcases List.mem_cons.1 hx with rfl | hx
      · exact less
      · exact String.lt_trans less (above x hx)
    · split
      · rename_i same
        exact List.pairwise_cons.2 ⟨fun x hx => same ▸ above x hx, tail⟩
      · rename_i notLess notSame
        refine List.pairwise_cons.2 ⟨fun x hx => ?_, ih tail⟩
        rcases mem_insertEntry hx with rfl | hx
        · exact Std.lt_of_le_of_ne notLess (Ne.symm notSame)
        · exact above x hx

def insert (d : Dict α) (key : String) (value : α) : Dict α :=
  ⟨insertEntry key value d.entries, sorted_insertEntry key value d.sorted⟩

/-- Of two entries with one key the later stays. -/
def ofList (es : List (String × α)) : Dict α := es.foldl (fun d e => d.insert e.1 e.2) empty

def get? (d : Dict α) (key : String) : Option α :=
  (d.entries.find? (·.1 == key)).map Prod.snd

def contains (d : Dict α) (key : String) : Bool := d.entries.any (·.1 == key)

theorem find?_insertEntry (key : String) (value : α) (es : List (String × α)) (k : String) :
    (insertEntry key value es).find? (·.1 == k) =
      if key = k then some (key, value) else es.find? (·.1 == k) := by
  induction es with
  | nil => by_cases same : key = k <;> simp [insertEntry, same]
  | cons e rest ih =>
    obtain ⟨l, v⟩ := e
    simp only [insertEntry]
    split
    · by_cases same : key = k <;> simp [same]
    · split
      · rename_i taken
        subst taken
        by_cases same : key = k <;> simp [same]
      · rename_i other
        by_cases same : l = k
        · subst same
          simp [other]
        · simp [same, ih]

theorem get?_insert (d : Dict α) (key : String) (value : α) (k : String) :
    (d.insert key value).get? k = if key = k then some value else d.get? k := by
  simp only [get?, insert, find?_insertEntry]
  split <;> rfl

theorem contains_eq_isSome (d : Dict α) (key : String) : d.contains key = (d.get? key).isSome := by
  rw [get?, Option.isSome_map, List.isSome_find?, contains]

def keys (d : Dict α) : List String := d.entries.map Prod.fst

def size (d : Dict α) : Nat := d.entries.length

def isEmpty (d : Dict α) : Bool := d.entries.isEmpty

def erase (d : Dict α) (key : String) : Dict α :=
  ⟨d.entries.filter (·.1 != key), d.sorted.sublist List.filter_sublist⟩

/-- Changes every value, keys as they are. -/
def mapValues (d : Dict α) (f : String → α → β) : Dict β :=
  ⟨d.entries.map fun e => (e.1, f e.1 e.2), List.pairwise_map.2 d.sorted⟩

end Dict
end LogTree
