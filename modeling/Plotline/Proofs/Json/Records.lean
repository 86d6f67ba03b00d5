import Mathlib.Data.List.Nodup
import Plotline.Json.Record
import Plotline.Value.Document

/-!
# Records in sorted documents

Sorting moves the members of an object, but as long as their keys differ each of them is found under
its key as before (`member?_sortMembers`). So the records, choices, lists and optional values of a
document are read from the sorted document as they were written, and what is inside of a group is
lower than the group.
-/

namespace Plotline.Json

/-! ## Members -/

section

variable {ms : List (String × Json)} {k : String} {j : Json}

theorem member?_nil (k : String) : member? [] k = none := rfl

theorem member?_cons (k l : String) (j : Json) (ms : List (String × Json)) :
    member? ((k, j) :: ms) l = if k = l then some j else member? ms l := by
  by_cases h : k = l <;> simp [member?, h]

theorem member?_insert (k l : String) (j : Json) (ms : List (String × Json)) :
    member? (insert k j ms) l = if k = l then some j else member? ms l := by
  induction ms with
  | nil => rw [insert, member?_cons]
  | cons m ms ih =>
    obtain ⟨k', v⟩ := m
    unfold insert
    by_cases hkey : k = k'
    · subst hkey
      rw [if_pos rfl, member?_cons, member?_cons]
      by_cases hl : k = l <;> simp [hl]
    · by_cases hless : k < k'
      · rw [if_neg hkey, if_pos hless, member?_cons]
      · rw [if_neg hkey, if_neg hless, member?_cons, member?_cons, ih]
        by_cases hl : k = l
        · subst hl
          simp [Ne.symm hkey]
        · simp [hl]

theorem member?_of_notMem (h : k ∉ ms.map Prod.fst) : member? ms k = none := by
  induction ms with
  | nil => rfl
  | cons m ms ih =>
    obtain ⟨k', v⟩ := m
    obtain ⟨hne, hrest⟩ := not_or.mp (List.mem_cons.not.mp h)
    rw [member?_cons, if_neg (Ne.symm hne), ih hrest]

theorem member?_foldl_insert (h : (ms.map Prod.fst).Nodup) (acc : List (String × Json)) :
    member? (ms.foldl (fun acc m => insert m.1 m.2 acc) acc) k =
      (member? ms k).or (member? acc k) := by
  induction ms generalizing acc with
  | nil => rfl
  | cons m ms ih =>
    obtain ⟨k', v⟩ := m
    obtain ⟨hnew, hrest⟩ := List.nodup_cons.mp h
    rw [List.foldl_cons, ih hrest, member?_insert, member?_cons]
    by_cases hk : k' = k
    · subst hk
      rw [member?_of_notMem hnew]
      simp
    · simp [hk]

/-- Members with different keys are found among the sorted ones. -/
theorem member?_sortMembers (h : (ms.map Prod.fst).Nodup) :
    member? (sortMembers ms) k = member? ms k := by
  rw [sortMembers, member?_foldl_insert h, member?_nil, Option.or_none]

theorem keys_sortedMembers (ms : List (String × Json)) :
    (sortedMembers ms).map Prod.fst = ms.map Prod.fst := by
  induction ms with
  | nil => rfl
  | cons m ms ih =>
    obtain ⟨k, j⟩ := m
    rw [sortedMembers, List.map_cons, List.map_cons, ih]

theorem member?_sortedMembers (ms : List (String × Json)) (k : String) :
    member? (sortedMembers ms) k = (member? ms k).map sorted := by
  induction ms with
  | nil => rfl
  | cons m ms ih =>
    obtain ⟨k', j⟩ := m
    rw [sortedMembers, member?_cons, member?_cons, ih]
    split <;> rfl

theorem member?_sorted (h : (ms.map Prod.fst).Nodup) :
    member? (sortMembers (sortedMembers ms)) k = (member? ms k).map sorted := by
  rw [member?_sortMembers (by rwa [keys_sortedMembers]), member?_sortedMembers]

/-! ## Height -/

theorem height_pos (j : Json) : 0 < j.height := by
  cases j <;> simp [height]

theorem mem_keys_insert {l : String} :
    l ∈ (insert k j ms).map Prod.fst ↔ l = k ∨ l ∈ ms.map Prod.fst := by
  induction ms with
  | nil => simp [insert]
  | cons m ms ih =>
    obtain ⟨k', v⟩ := m
    unfold insert
    split_ifs with hkey hless
    · subst hkey
      simp
    · simp
    · rw [List.map_cons, List.mem_cons, ih, List.map_cons, List.mem_cons, or_left_comm]

theorem heightMembers_insert (h : k ∉ ms.map Prod.fst) :
    heightMembers (insert k j ms) = max j.height (heightMembers ms) := by
  induction ms with
  | nil => rfl
  | cons m ms ih =>
    obtain ⟨k', v⟩ := m
    obtain ⟨hkey, hrest⟩ := not_or.mp (List.mem_cons.not.mp h)
    unfold insert
    rw [if_neg hkey]
    split_ifs with hless
    · simp only [heightMembers]
    · simp only [heightMembers, ih hrest]
      omega

theorem heightMembers_foldl_insert {acc : List (String × Json)} (h : (ms.map Prod.fst).Nodup)
    (hacc : ∀ k ∈ ms.map Prod.fst, k ∉ acc.map Prod.fst) :
    heightMembers (ms.foldl (fun acc m => insert m.1 m.2 acc) acc) =
      max (heightMembers ms) (heightMembers acc) := by
  induction ms generalizing acc with
  | nil => simp [heightMembers]
  | cons m ms ih =>
    obtain ⟨k', v⟩ := m
    obtain ⟨hnew, hrest⟩ := List.nodup_cons.mp h
    obtain ⟨hk', hacc'⟩ := List.forall_mem_cons.mp hacc
    have hnext : ∀ k ∈ ms.map Prod.fst, k ∉ (insert k' v acc).map Prod.fst := by
      intro k hk hmem
      rcases mem_keys_insert.mp hmem with rfl | hmem
      · exact hnew hk
      · exact hacc' k hk hmem
    rw [List.foldl_cons, ih hrest hnext, heightMembers_insert hk', heightMembers]
    omega

/-- The height of a sorted object, from its members as they were written. -/
theorem height_sorted_obj (h : (ms.map Prod.fst).Nodup) :
    (Json.obj ms).sorted.height = heightMembers (sortedMembers ms) + 1 := by
  have hkeys : ((sortedMembers ms).map Prod.fst).Nodup := by rwa [keys_sortedMembers]
  rw [sorted, height, sortMembers, heightMembers_foldl_insert hkeys (by simp)]
  simp [heightMembers]

/-- An item is lower than its list. -/
theorem height_lt_of_mem {items : List Json} (h : j ∈ items) :
    j.sorted.height < (Json.arr items).sorted.height := by
  rw [sorted, height]
  induction items with
  | nil => cases h
  | cons i items ih =>
    rw [sortedItems, heightItems]
    rcases List.mem_cons.mp h with rfl | h
    · omega
    · have hlt := ih h
      omega

end

/-! ## Records -/

namespace Record

variable {α : Type} {ms : List (String × Json)}

/-- The record that is read from a sorted object. -/
def ofSorted (ms : List (String × Json)) : Record := ⟨sortMembers (sortedMembers ms), true⟩

@[simp]
theorem get?_ofSorted (h : (ms.map Prod.fst).Nodup) (name : String) :
    (ofSorted ms).get? name = (member? ms name).map sorted := member?_sorted h

@[simp]
theorem required_ofSorted (h : (ms.map Prod.fst).Nodup) (name : String) (read : Json → Option α) :
    (ofSorted ms).required name read = (member? ms name).bind fun j => read j.sorted := by
  rw [required, get?_ofSorted h, Option.bind_map]
  rfl

@[simp]
theorem orElse_ofSorted (h : (ms.map Prod.fst).Nodup) (name : String) (read : Json → Option α)
    (absent : α) : (ofSorted ms).orElse name read absent =
      (member? ms name).elim (some absent) fun j => read j.sorted := by
  rw [orElse, get?_ofSorted h]
  cases member? ms name <;> rfl

end Record

@[simp]
theorem record?_sorted (ms : List (String × Json)) (names : List String) :
    (Json.obj ms).sorted.record? names = some (.ofSorted ms) := by
  rw [sorted]
  rfl

@[simp]
theorem object?_sorted (ms : List (String × Json)) :
    (Json.obj ms).sorted.object? = some (.ofSorted ms) := by
  rw [sorted]
  rfl

theorem sorted_single (name : String) (j : Json) :
    (Json.obj [(name, j)]).sorted = .obj [(name, j.sorted)] := by
  rw [sorted]
  rfl

@[simp]
theorem choice?_sorted (name : String) (j : Json) :
    (Json.obj [(name, j)]).sorted.choice? = some (name, some j.sorted) := by
  rw [sorted_single, choice?]

/-! ## Plain values, lists and optional values -/

@[simp]
theorem sorted_str (s : String) : (Json.str s).sorted = .str s := by rw [sorted]

@[simp]
theorem sorted_int (n : Int) : (Json.int n).sorted = .int n := by rw [sorted]

@[simp]
theorem sorted_float (x : Numeral.Double) : (Json.float x).sorted = .float x := by rw [sorted]

@[simp]
theorem sorted_null : Json.null.sorted = .null := by rw [sorted]

section

variable {α : Type} {read : Json → Option α} {write : α → Json}

theorem list?_sorted {as : List α} (h : ∀ a ∈ as, read (write a).sorted = some a) :
    list? read (Json.arr (as.map write)).sorted = some as := by
  rw [sorted, list?]
  induction as with
  | nil => rfl
  | cons a as ih =>
    obtain ⟨ha, has⟩ := List.forall_mem_cons.mp h
    rw [List.map_cons, sortedItems, List.mapM_cons, ha, ih has]
    rfl

theorem nullable?_sorted {o : Option α} (hnull : ∀ a, (write a).sorted ≠ .null)
    (h : ∀ a ∈ o, read (write a).sorted = some a) :
    nullable? read (documentOption write o).sorted = some o := by
  cases o with
  | none => rw [documentOption, sorted_null, nullable?]
  | some a =>
    rw [documentOption, nullable?, h a rfl, Option.map_some]
    exact hnull a

end

end Plotline.Json
