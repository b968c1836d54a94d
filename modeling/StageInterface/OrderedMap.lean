/-!
# Maps in insertion order

A finite map that remembers the order in which its keys were first inserted.
Overwriting the value of a key leaves the key where it stands.

**Results.**
* `keys_insert`, `values_insert`: a new key goes to the end, a known one stays
  where it is.
* `get?_insert`: insertion changes the value of its own key only.
* `mem_entries_iff`: an entry is in the map exactly when its key looks it up.
-/

namespace StageInterface

universe u v

/-- A map whose entries stand in the order of first insertion. -/
structure OrderedMap (κ : Type u) (ν : Type v) where
  entries : List (κ × ν)
  nodup : (entries.map Prod.fst).Nodup
deriving DecidableEq

namespace OrderedMap

variable {κ : Type u} {ν : Type v}

def empty : OrderedMap κ ν := ⟨[], List.nodup_nil⟩

instance : Inhabited (OrderedMap κ ν) := ⟨empty⟩

/-- The keys, in order of first insertion. -/
def keys (m : OrderedMap κ ν) : List κ := m.entries.map Prod.fst

/-- The values, in the order of their keys. -/
def values (m : OrderedMap κ ν) : List ν := m.entries.map Prod.snd

def size (m : OrderedMap κ ν) : Nat := m.entries.length

def isEmpty (m : OrderedMap κ ν) : Bool := m.entries.isEmpty

@[simp] theorem keys_empty : (empty : OrderedMap κ ν).keys = [] := rfl

@[simp] theorem values_empty : (empty : OrderedMap κ ν).values = [] := rfl

@[simp] theorem length_keys (m : OrderedMap κ ν) : m.keys.length = m.size := by
  simp [keys, size]

@[simp] theorem length_values (m : OrderedMap κ ν) : m.values.length = m.size := by
  simp [values, size]

theorem nodup_keys (m : OrderedMap κ ν) : m.keys.Nodup := m.nodup

theorem ext {m n : OrderedMap κ ν} (h : m.entries = n.entries) : m = n := by
  cases m
  cases n
  cases h
  rfl

variable [DecidableEq κ]

def get? (m : OrderedMap κ ν) (k : κ) : Option ν :=
  (m.entries.find? (fun e => e.1 = k)).map Prod.snd

/-- The position of a key in the order of first insertion. -/
def indexOf? (m : OrderedMap κ ν) (k : κ) : Option Nat :=
  m.entries.findIdx? (fun e => e.1 = k)

def contains (m : OrderedMap κ ν) (k : κ) : Bool := (m.indexOf? k).isSome

/-- Overwrites the value of `k` where it stands, or puts the pair at the end. -/
def put (k : κ) (v : ν) : List (κ × ν) → List (κ × ν)
  | [] => [(k, v)]
  | e :: l => if e.1 = k then (k, v) :: l else e :: put k v l

/-- The keys after a `put`: the same, or one more at the end. -/
theorem map_fst_put (k : κ) (v : ν) (l : List (κ × ν)) :
    (put k v l).map Prod.fst =
      if k ∈ l.map Prod.fst then l.map Prod.fst else l.map Prod.fst ++ [k] := by
  induction l with
  | nil => simp [put]
  | cons e l ih =>
    by_cases h : e.1 = k
    · simp [put, h]
    · have hk : ¬ k = e.1 := fun hk => h hk.symm
      by_cases hl : k ∈ l.map Prod.fst
      · simp only [put, if_neg h, List.map_cons, ih, if_pos hl]
        rw [if_pos (List.mem_cons_of_mem _ hl)]
      · simp only [put, if_neg h, List.map_cons, ih, if_neg hl]
        rw [if_neg (by simpa [hk] using hl)]
        rfl

/-- The values after a `put`: the new one where its key stands, or one more at the end. -/
theorem map_snd_put (k : κ) (v : ν) (l : List (κ × ν)) :
    (put k v l).map Prod.snd =
      match l.findIdx? (fun e => e.1 = k) with
      | some i => (l.map Prod.snd).set i v
      | none => l.map Prod.snd ++ [v] := by
  induction l with
  | nil => rfl
  | cons e l ih =>
    by_cases h : e.1 = k
    · simp [put, h, List.findIdx?_cons]
    · rw [put, if_neg h, List.map_cons, ih, List.findIdx?_cons]
      cases List.findIdx? (fun e => e.1 = k) l <;> simp [h]

/-- Sets the value of a key.  A known key keeps its place. -/
def insert (m : OrderedMap κ ν) (k : κ) (v : ν) : OrderedMap κ ν where
  entries := put k v m.entries
  nodup := by
    rw [map_fst_put]
    split
    · exact m.nodup
    next h =>
      refine List.nodup_append.2 ⟨m.nodup, by simp, ?_⟩
      intro a ha b hb hab
      rw [List.mem_singleton] at hb
      exact h (hb ▸ hab ▸ ha)

/-- The map with the given entries, inserted from left to right. -/
def ofList (l : List (κ × ν)) : OrderedMap κ ν :=
  l.foldl (fun m e => m.insert e.1 e.2) empty

theorem keys_insert (m : OrderedMap κ ν) (k : κ) (v : ν) :
    (m.insert k v).keys = if k ∈ m.keys then m.keys else m.keys ++ [k] :=
  map_fst_put k v m.entries

/-- A known key has its value overwritten in place, the value of a new one goes to the end. -/
theorem values_insert (m : OrderedMap κ ν) (k : κ) (v : ν) :
    (m.insert k v).values =
      match m.indexOf? k with
      | some i => m.values.set i v
      | none => m.values ++ [v] :=
  map_snd_put k v m.entries

theorem indexOf?_lt {m : OrderedMap κ ν} {k : κ} {i : Nat} (h : m.indexOf? k = some i) :
    i < m.size :=
  (List.findIdx?_eq_some_iff_findIdx_eq.1 h).1

theorem contains_iff_mem_keys {m : OrderedMap κ ν} {k : κ} :
    m.contains k = true ↔ k ∈ m.keys := by
  simp [contains, indexOf?, keys, List.findIdx?_isSome]

theorem find?_put_self (k : κ) (v : ν) (l : List (κ × ν)) :
    (put k v l).find? (fun e => e.1 = k) = some (k, v) := by
  induction l with
  | nil => simp [put]
  | cons e l ih =>
    by_cases h : e.1 = k
    · simp [put, h]
    · simp [put, h, ih]

theorem find?_put_of_ne {k k' : κ} (v : ν) (l : List (κ × ν)) (hk : k' ≠ k) :
    (put k v l).find? (fun e => e.1 = k') = l.find? (fun e => e.1 = k') := by
  induction l with
  | nil => simp [put, Ne.symm hk]
  | cons e l ih =>
    by_cases h : e.1 = k
    · simp [put, h, Ne.symm hk]
    · by_cases h' : e.1 = k'
      · rw [put, if_neg h]
        simp [h']
      · simp [put, h, h', ih]

/-- Insertion sets the value of its own key and of no other. -/
theorem get?_insert (m : OrderedMap κ ν) (k k' : κ) (v : ν) :
    (m.insert k v).get? k' = if k' = k then some v else m.get? k' := by
  by_cases h : k' = k
  · subst h
    simp [get?, insert, find?_put_self]
  · simp [get?, insert, find?_put_of_ne v m.entries h, h]

@[simp] theorem get?_empty (k : κ) : (empty : OrderedMap κ ν).get? k = none := rfl

/-- An entry is in the map exactly when its key looks up its value. -/
theorem mem_entries_iff {m : OrderedMap κ ν} {k : κ} {v : ν} :
    (k, v) ∈ m.entries ↔ m.get? k = some v := by
  obtain ⟨l, hl⟩ := m
  simp only [get?, Option.map_eq_some_iff]
  induction l with
  | nil => simp
  | cons e l ih =>
    rw [List.map_cons, List.nodup_cons] at hl
    by_cases h : e.1 = k
    · have hk : ¬ (k, v) ∈ l := fun hm => hl.1 (h ▸ List.mem_map_of_mem (f := Prod.fst) hm)
      simp only [List.mem_cons, hk, or_false, List.find?_cons, h, decide_true]
      constructor
      · rintro rfl
        exact ⟨_, rfl, rfl⟩
      · rintro ⟨e', he, rfl⟩
        rw [Option.some.injEq] at he
        subst he
        rw [← h]
    · have he : ¬ (k, v) = e := fun he => h (he ▸ rfl)
      simp only [List.mem_cons, he, false_or, List.find?_cons, h, decide_false]
      exact ih hl.2

/-- Every value of the map is found under some key. -/
theorem mem_values_iff {m : OrderedMap κ ν} {v : ν} :
    v ∈ m.values ↔ ∃ k, m.get? k = some v := by
  simp [values, ← mem_entries_iff]

end OrderedMap
end StageInterface
