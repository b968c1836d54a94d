import Mathlib.Data.List.Induction
import Mathlib.Data.List.Nodup
import StageInterface.OrderedMap

/-!
# Maps after many insertions

What a map is after a list of insertions: its keys are those inserted, in the
order of their first insertions, and each has the value of its last insertion.

**Results.**
* `get?_insertAll`: the map as a function.
* `SameUnderEachKey.of_perm`: insertions of different keys in another order are
  the same under each key.
* `keys_ofList`: the order of the keys.
-/

namespace StageInterface

namespace OrderedMap

variable {κ ν : Type}
variable [DecidableEq κ]

/-- The map after the insertion of the given entries, from left to right. -/
def insertAll
    (m : OrderedMap κ ν)
    (l : List (κ × ν)) : OrderedMap κ ν :=
  l.foldl (fun m e => m.insert e.1 e.2) m

/-- The two lists have the same entries under each key, in the same order. -/
def SameUnderEachKey
    (l l' : List (κ × ν)) : Prop :=
  ∀ k, l.filter (fun e => e.1 = k) = l'.filter (fun e => e.1 = k)

/-- After many insertions a key has the value that was inserted last under it, and its old value if
there was none. -/
theorem get?_insertAll
    (m : OrderedMap κ ν)
    (l : List (κ × ν))
    (k : κ) :
    (m.insertAll l).get? k =
      ((l.filter (fun e => e.1 = k)).getLast?.map Prod.snd).or (m.get? k) := by
  induction l generalizing m with
  | nil => rfl
  | cons e l ih =>
      have hstep : (m.insertAll (e :: l)).get? k = ((m.insert e.1 e.2).insertAll l).get? k := rfl
      rw [hstep, ih, get?_insert]
      by_cases hk : e.1 = k
      · rw [if_pos hk.symm, List.filter_cons_of_pos (by simpa using hk), List.getLast?_cons]
        cases (l.filter (fun e => e.1 = k)).getLast? <;> rfl
      · rw [if_neg (Ne.symm hk), List.filter_cons_of_neg (by simpa using hk)]

theorem get?_insertAll_of_not_mem
    {m : OrderedMap κ ν}
    {l : List (κ × ν)}
    {k : κ}
    (h : ∀ e ∈ l, e.1 ≠ k) :
    (m.insertAll l).get? k = m.get? k := by
  have hnone : l.filter (fun e => e.1 = k) = [] :=
    List.filter_eq_nil_iff.2 (fun e he => by simpa using h e he)
  rw [get?_insertAll, hnone]
  rfl

/-- Insertions that are the same under each key make the same function. -/
theorem SameUnderEachKey.get?_eq
    {l l' : List (κ × ν)}
    (h : SameUnderEachKey l l')
    (m : OrderedMap κ ν)
    (k : κ) :
    (m.insertAll l).get? k = (m.insertAll l').get? k := by
  rw [get?_insertAll, get?_insertAll, h k]

theorem length_filter_key_le
    {l : List (κ × ν)}
    (hkeys : (l.map Prod.fst).Nodup)
    (k : κ) :
    (l.filter (fun e => e.1 = k)).length ≤ 1 := by
  have hcount : (l.map Prod.fst).count k = (l.filter (fun e => e.1 = k)).length := by
    rw [List.count, List.countP_map, List.countP_eq_length_filter]
    rfl
  rw [← hcount]
  exact List.nodup_iff_count_le_one.1 hkeys k

/-- Where keys are different, the order of the entries does not matter. -/
theorem SameUnderEachKey.of_perm
    {l l' : List (κ × ν)}
    (hperm : l.Perm l')
    (hkeys : (l.map Prod.fst).Nodup) :
    SameUnderEachKey l l' := by
  intro k
  have hfilter := hperm.filter (fun e => decide (e.1 = k))
  have hle := length_filter_key_le hkeys k
  -- One entry at most has the key, and a list of one entry has one order only.
  cases hcase : l.filter (fun e => e.1 = k) with
  | nil =>
      rw [hcase] at hfilter
      exact hfilter.nil_eq
  | cons e rest =>
      have hrest : rest = [] := by
        rw [hcase, List.length_cons] at hle
        exact List.eq_nil_of_length_eq_zero (by omega)
      rw [hcase, hrest] at hfilter
      rw [hrest]
      exact (List.perm_singleton.1 hfilter.symm).symm

/-- Keys stand in the order of their first insertions. -/
theorem keys_ofList
    (l : List (κ × ν)) :
    (ofList l).keys = (l.map Prod.fst).eraseDups := by
  induction l using List.reverseRecOn with
  | nil => rfl
  | append_singleton l e ih =>
      have hstep : ofList (l ++ [e]) = (ofList l).insert e.1 e.2 := List.foldl_append
      rw [hstep, keys_insert, ih, List.map_append, List.eraseDups_append]
      simp only [List.mem_eraseDups]
      by_cases hk : e.1 ∈ l.map Prod.fst
      · rw [if_pos hk]
        simp [List.removeAll, hk]
      · rw [if_neg hk]
        simp [List.removeAll, hk, List.eraseDups_cons]

/-- A key that stands at a position is found there. -/
theorem indexOf?_of_getElem?_keys
    {m : OrderedMap κ ν}
    {k : κ}
    {i : Nat}
    (h : m.keys[i]? = some k) :
    m.indexOf? k = some i := by
  obtain ⟨hi, hk⟩ := List.getElem?_eq_some_iff.1 h
  rw [indexOf?, List.findIdx?_eq_some_iff_getElem]
  refine ⟨by simpa [keys] using hi, by simpa [keys] using hk, ?_⟩
  intro j hj
  have hne := List.pairwise_iff_getElem.1 m.nodup_keys j i (by omega) hi hj
  rw [hk] at hne
  simpa [keys] using hne

/-- A map has only values that were inserted. -/
theorem mem_of_mem_values_ofList
    {l : List (κ × ν)}
    {v : ν}
    (hv : v ∈ (ofList l).values) :
    ∃ e ∈ l, e.2 = v := by
  obtain ⟨k, hk⟩ := mem_values_iff.1 hv
  have hlast : ((l.filter (fun e => e.1 = k)).getLast?.map Prod.snd).or none = some v :=
    (get?_insertAll empty l k).symm.trans hk
  rw [Option.or_none, Option.map_eq_some_iff] at hlast
  obtain ⟨e, he, hev⟩ := hlast
  exact ⟨e, (List.mem_filter.1 (List.mem_of_getLast? he)).1, hev⟩

end OrderedMap
end StageInterface
