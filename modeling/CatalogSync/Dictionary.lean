namespace CatalogSync

structure Dictionary (κ ν : Type) where
  entries : List (κ × ν)
  keys_nodup : (entries.map Prod.fst).Nodup
deriving DecidableEq, Repr

namespace Dictionary

variable {κ ν : Type}

def empty : Dictionary κ ν := ⟨[], List.nodup_nil⟩

instance : Inhabited (Dictionary κ ν) := ⟨empty⟩

instance : EmptyCollection (Dictionary κ ν) := ⟨empty⟩

def keys (d : Dictionary κ ν) : List κ := d.entries.map Prod.fst

def values (d : Dictionary κ ν) : List ν := d.entries.map Prod.snd

def isEmpty (d : Dictionary κ ν) : Bool := d.entries.isEmpty

variable [DecidableEq κ]

def find? (key : κ) : List (κ × ν) → Option ν
  | [] => none
  | (k, v) :: rest => if k = key then some v else find? key rest

-- Gives a key a value: in its place if it is there, and at the end otherwise.
def put (key : κ) (value : ν) : List (κ × ν) → List (κ × ν)
  | [] => [(key, value)]
  | (k, v) :: rest => if k = key then (k, value) :: rest else (k, v) :: put key value rest

-- Putting a key that is there keeps the keys, and otherwise adds one at the end.
theorem map_fst_put (key : κ) (value : ν) (entries : List (κ × ν)) :
    (put key value entries).map Prod.fst =
      if key ∈ entries.map Prod.fst then entries.map Prod.fst
      else entries.map Prod.fst ++ [key] := by
  induction entries with
  | nil => simp [put]
  | cons entry rest ih =>
    obtain ⟨k, v⟩ := entry
    by_cases h : k = key
    · simp [put, h]
    · have h' : ¬ key = k := fun e => h e.symm
      simp only [put, if_neg h, List.map_cons, ih, List.mem_cons, h', false_or]
      split <;> simp

theorem nodup_put (key : κ) (value : ν) (entries : List (κ × ν))
    (h : (entries.map Prod.fst).Nodup) : ((put key value entries).map Prod.fst).Nodup := by
  rw [map_fst_put]
  split
  · exact h
  · next hk => exact List.nodup_append.2 ⟨h, by simp, by grind⟩

def get? (d : Dictionary κ ν) (key : κ) : Option ν := find? key d.entries

def contains (d : Dictionary κ ν) (key : κ) : Bool := (d.get? key).isSome

def insert (d : Dictionary κ ν) (key : κ) (value : ν) : Dictionary κ ν :=
  ⟨put key value d.entries, nodup_put key value d.entries d.keys_nodup⟩

def erase (d : Dictionary κ ν) (key : κ) : Dictionary κ ν :=
  ⟨d.entries.filter fun entry => entry.1 ≠ key,
    d.keys_nodup.sublist (List.filter_sublist.map Prod.fst)⟩

def map {μ : Type} (f : κ → ν → μ) (d : Dictionary κ ν) : Dictionary κ μ :=
  ⟨d.entries.map fun entry => (entry.1, f entry.1 entry.2), by
    simpa [List.map_map, Function.comp_def] using d.keys_nodup⟩

-- The dictionary with the entries of a list put in one after the other.
def insertAll (d : Dictionary κ ν) (entries : List (κ × ν)) : Dictionary κ ν :=
  entries.foldl (fun d entry => d.insert entry.1 entry.2) d

-- The dictionary of a list of entries. Of two entries with one key, the first gives the place and
-- the last the value.
def ofList (entries : List (κ × ν)) : Dictionary κ ν := empty.insertAll entries

-- Whether two dictionaries give every key the same value, in whatever order.
def agrees [DecidableEq ν] (d e : Dictionary κ ν) : Bool :=
  d.entries.length == e.entries.length &&
    d.entries.all fun entry => decide (e.get? entry.1 = some entry.2)

end Dictionary

end CatalogSync
