import Mathlib.Data.List.Induction
import Mathlib.Data.List.Nodup
import Mathlib.Data.List.Perm.Basic
import Apidoc.Ordered

/-!
Ordered maps whose keys are distinct: what they find does not depend on their order, and a map made
from a list has the keys of the list in the order in which they first occur.
-/
namespace Apidoc

theorem nodup_eraseDups {α : Type} [DecidableEq α] (xs : List α) : xs.eraseDups.Nodup := by
  induction xs using List.reverseRecOn with
  | nil => simp
  | append_singleton xs x ih =>
    rw [List.eraseDups_append, List.cons_removeAll]
    by_cases there : x ∈ xs
    · simpa [there] using ih
    · simp only [List.contains_eq_mem, there, decide_false, if_true,
        List.nil_removeAll, List.eraseDups_cons, List.filter_nil, List.eraseDups_nil]
      exact ih.append (by simp) (by simpa using there)

theorem eraseDups_of_nodup {α : Type} [DecidableEq α] {xs : List α} (distinct : xs.Nodup) :
    xs.eraseDups = xs := by
  induction xs using List.reverseRecOn with
  | nil => rfl
  | append_singleton xs x ih =>
    obtain ⟨front, -, apart⟩ := List.nodup_append.mp distinct
    have absent : x ∉ xs := fun there => apart x there x (by simp) rfl
    rw [List.eraseDups_append, ih front, List.cons_removeAll]
    simp [absent, List.eraseDups_cons]

/-- A value that occurred before makes no difference when repetitions are dropped. -/
theorem eraseDups_append_cons_of_mem {α : Type} [DecidableEq α] {xs : List α} {x : α}
    (there : x ∈ xs) (ys : List α) : (xs ++ x :: ys).eraseDups = (xs ++ ys).eraseDups := by
  rw [List.eraseDups_append, List.eraseDups_append, List.cons_removeAll]
  simp [there]

namespace Ordered

variable {κ ν : Type} [DecidableEq κ]

theorem mem_of_find?_eq_some {m : Ordered κ ν} {key : κ} {value : ν}
    (found : find? m key = some value) : (key, value) ∈ m := by
  induction m with
  | nil => cases found
  | cons entry rest ih =>
    simp only [find?] at found
    split at found
    · next same =>
      cases found
      subst same
      exact List.mem_cons_self
    · exact List.mem_cons_of_mem entry (ih found)

theorem find?_eq_none_iff {m : Ordered κ ν} {key : κ} : find? m key = none ↔ key ∉ keys m := by
  induction m with
  | nil => simp [find?, keys]
  | cons entry rest ih =>
    simp only [find?, keys, List.map_cons, List.mem_cons, not_or] at ih ⊢
    by_cases same : entry.1 = key
    · simp [same]
    · simp only [same, if_false, ih, Ne.symm same, not_false_eq_true, true_and]

theorem has_eq_true_iff {m : Ordered κ ν} {key : κ} : has m key = true ↔ key ∈ keys m := by
  rw [has, Option.isSome_iff_ne_none, Ne, find?_eq_none_iff, not_not]

omit [DecidableEq κ] in
theorem mem_keys_of_mem {m : Ordered κ ν} {key : κ} {value : ν} (there : (key, value) ∈ m) :
    key ∈ keys m :=
  List.mem_map.mpr ⟨(key, value), there, rfl⟩

omit [DecidableEq κ] in
theorem exists_of_mem_keys {m : Ordered κ ν} {key : κ} (there : key ∈ keys m) :
    ∃ value, (key, value) ∈ m := by
  obtain ⟨⟨_, value⟩, member, rfl⟩ := List.mem_map.mp there
  exact ⟨value, member⟩

theorem find?_of_mem {m : Ordered κ ν} {key : κ} {value : ν} (distinct : (keys m).Nodup)
    (there : (key, value) ∈ m) : find? m key = some value := by
  induction m with
  | nil => cases there
  | cons entry rest ih =>
    simp only [keys, List.map_cons, List.nodup_cons] at distinct
    rcases List.mem_cons.mp there with rfl | later
    · simp [find?]
    · have other : entry.1 ≠ key := by
        rintro rfl
        exact distinct.1 (mem_keys_of_mem later)
      simp only [find?, other, if_false]
      exact ih distinct.2 later

theorem find?_eq_some_iff {m : Ordered κ ν} (distinct : (keys m).Nodup) {key : κ} {value : ν} :
    find? m key = some value ↔ (key, value) ∈ m :=
  ⟨mem_of_find?_eq_some, find?_of_mem distinct⟩

theorem find?_perm {m other : Ordered κ ν} (distinct : (keys m).Nodup)
    (shuffled : m.Perm other) (key : κ) : find? m key = find? other key := by
  have distinct' : (keys other).Nodup := (shuffled.map Prod.fst).nodup_iff.mp distinct
  apply Option.ext
  intro value
  rw [find?_eq_some_iff distinct, find?_eq_some_iff distinct', shuffled.mem_iff]

theorem insert_of_not_mem {m : Ordered κ ν} {key : κ} (fresh : key ∉ keys m) (value : ν) :
    insert m key value = m ++ [(key, value)] := by
  induction m with
  | nil => rfl
  | cons entry rest ih =>
    simp only [keys, List.map_cons, List.mem_cons, not_or] at fresh
    simp only [insert, Ne.symm fresh.1, if_false, List.cons_append]
    rw [ih fresh.2]

theorem keys_merge {m : Ordered κ ν} (distinct : (keys m).Nodup) (other : Ordered κ ν) :
    keys (merge m other) = (keys m ++ keys other).eraseDups := by
  induction other generalizing m with
  | nil =>
    change keys m = (keys m ++ []).eraseDups
    rw [List.append_nil, eraseDups_of_nodup distinct]
  | cons entry rest ih =>
    change keys (merge (insert m entry.1 entry.2) rest) = (keys m ++ entry.1 :: keys rest).eraseDups
    by_cases there : entry.1 ∈ keys m
    · have same : keys (insert m entry.1 entry.2) = keys m := by rw [keys_insert, if_pos there]
      rw [ih (by rw [same]; exact distinct), same, eraseDups_append_cons_of_mem there]
    · have longer : keys (insert m entry.1 entry.2) = keys m ++ [entry.1] := by
        rw [keys_insert, if_neg there]
      have still : (keys m ++ [entry.1]).Nodup :=
        distinct.append (by simp) (by simpa using there)
      rw [ih (by rw [longer]; exact still), longer]
      simp

theorem nodup_keys_merge {m : Ordered κ ν} (distinct : (keys m).Nodup) (other : Ordered κ ν) :
    (keys (merge m other)).Nodup := by
  rw [keys_merge distinct]
  exact nodup_eraseDups _

/-- The map of a list has its keys once each, in the order in which they first occur. -/
theorem keys_ofList (entries : List (κ × ν)) : keys (ofList entries) = (keys entries).eraseDups :=
  keys_merge (m := []) List.nodup_nil entries

theorem nodup_keys_ofList (entries : List (κ × ν)) : (keys (ofList entries)).Nodup :=
  nodup_keys_merge (m := []) List.nodup_nil entries

theorem mem_insert {m : Ordered κ ν} {key : κ} {value : ν} {entry : κ × ν}
    (there : entry ∈ insert m key value) : entry ∈ m ∨ entry = (key, value) := by
  induction m with
  | nil => exact Or.inr (by simpa [insert] using there)
  | cons first rest ih =>
    simp only [insert] at there
    split at there
    · next same =>
      subst same
      rcases List.mem_cons.mp there with rfl | later
      · exact Or.inr rfl
      · exact Or.inl (List.mem_cons_of_mem first later)
    · rcases List.mem_cons.mp there with rfl | later
      · exact Or.inl List.mem_cons_self
      · exact (ih later).imp_left (List.mem_cons_of_mem first)

theorem mem_merge {m other : Ordered κ ν} {entry : κ × ν} (there : entry ∈ merge m other) :
    entry ∈ m ∨ entry ∈ other := by
  induction other generalizing m with
  | nil => exact Or.inl there
  | cons first rest ih =>
    rcases ih (m := insert m first.1 first.2) there with before | later
    · rcases mem_insert before with old | rfl
      · exact Or.inl old
      · exact Or.inr List.mem_cons_self
    · exact Or.inr (List.mem_cons_of_mem first later)

theorem mem_of_mem_ofList {entries : List (κ × ν)} {entry : κ × ν}
    (there : entry ∈ ofList entries) : entry ∈ entries := by
  rcases mem_merge there with none | listed
  · cases none
  · exact listed

theorem merge_of_nodup {m other : Ordered κ ν} (distinct : (keys (m ++ other)).Nodup) :
    merge m other = m ++ other := by
  induction other generalizing m with
  | nil => simp [merge]
  | cons entry rest ih =>
    have fresh : entry.1 ∉ keys m := by
      intro there
      simp only [keys, List.map_append, List.map_cons] at distinct there
      exact (List.nodup_append.mp distinct).2.2 entry.1 there entry.1 (by simp) rfl
    change merge (insert m entry.1 entry.2) rest = m ++ entry :: rest
    rw [insert_of_not_mem fresh, ih (by simpa [keys] using distinct)]
    simp

theorem ofList_of_nodup {entries : List (κ × ν)} (distinct : (keys entries).Nodup) :
    ofList entries = entries :=
  merge_of_nodup (m := []) distinct

theorem find?_merge_of_not_mem {other : Ordered κ ν} {key : κ} (absent : key ∉ keys other)
    (m : Ordered κ ν) : find? (merge m other) key = find? m key := by
  induction other generalizing m with
  | nil => rfl
  | cons entry rest ih =>
    simp only [keys, List.map_cons, List.mem_cons, not_or] at absent
    change find? (merge (insert m entry.1 entry.2) rest) key = find? m key
    rw [ih absent.2, find?_insert, if_neg (Ne.symm absent.1)]

/-- Of several values for one key the last stands. -/
theorem find?_ofList_last {after : List (κ × ν)} {key : κ} (absent : key ∉ keys after)
    (before : List (κ × ν)) (value : ν) :
    find? (ofList (before ++ (key, value) :: after)) key = some value := by
  have split : ofList (before ++ (key, value) :: after) =
      merge (insert (ofList before) key value) after := by
    rw [ofList, merge, List.foldl_append, List.foldl_cons]
    rfl
  rw [split, find?_merge_of_not_mem absent, find?_insert, if_pos rfl]

/-- The map of a list finds for a key the last value that the list gives it. -/
theorem find?_ofList (entries : List (κ × ν)) (key : κ) :
    find? (ofList entries) key = (entries.filter (·.1 = key)).getLast?.map (·.2) := by
  induction entries using List.reverseRecOn with
  | nil => rfl
  | append_singleton entries entry ih =>
    have step : ofList (entries ++ [entry]) = insert (ofList entries) entry.1 entry.2 := by
      rw [ofList, merge, List.foldl_append]
      rfl
    rw [step, find?_insert, List.filter_append, List.getLast?_append]
    by_cases same : entry.1 = key
    · simp [same]
    · simp [same, ih]

theorem nodup_keys_insert {m : Ordered κ ν} (distinct : (keys m).Nodup) (key : κ) (value : ν) :
    (keys (insert m key value)).Nodup := by
  rw [keys_insert]
  split
  · exact distinct
  · next fresh => exact distinct.append (by simp) (by simpa using fresh)

omit [DecidableEq κ] in
theorem nodup_keys_filter {m : Ordered κ ν} (distinct : (keys m).Nodup) (p : κ × ν → Bool) :
    (keys (m.filter p)).Nodup :=
  distinct.sublist (List.filter_sublist.map Prod.fst)

/-- What a map puts in counts more than what was there. -/
theorem find?_merge {other : Ordered κ ν} (distinct : (keys other).Nodup) (m : Ordered κ ν)
    (key : κ) : find? (merge m other) key = (find? other key).or (find? m key) := by
  induction other generalizing m with
  | nil => rfl
  | cons entry rest ih =>
    obtain ⟨absent, distinct⟩ := List.nodup_cons.mp distinct
    change find? (merge (insert m entry.1 entry.2) rest) key = _
    rw [ih distinct, find?_insert]
    by_cases same : entry.1 = key
    · subst same
      simp [find?, find?_eq_none_iff.mpr absent]
    · simp [find?, same]

theorem find?_filter {m : Ordered κ ν} (distinct : (keys m).Nodup) (p : κ × ν → Bool) (key : κ) :
    find? (m.filter p) key = (find? m key).filter fun value => p (key, value) := by
  induction m with
  | nil => rfl
  | cons entry rest ih =>
    obtain ⟨absent, distinct⟩ := List.nodup_cons.mp distinct
    by_cases same : entry.1 = key
    · subst same
      have gone : find? rest entry.1 = none := find?_eq_none_iff.mpr absent
      by_cases kept : p entry = true
      · simp [find?, kept, Option.filter_some]
      · simp [find?, kept, Option.filter_some, ih distinct, gone]
    · by_cases kept : p entry = true
      · simp [find?, kept, same, ih distinct]
      · simp [find?, kept, same, ih distinct]

end Ordered

end Apidoc
