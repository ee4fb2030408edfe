import AuthGate.Value
import Mathlib.Data.List.Nodup
import Mathlib.Tactic.Common

namespace AuthGate

lemma Value.same_str {v : Value} {s : String} : v.same (.str s) = true ↔ v = .str s := by
  cases v <;> simp [Value.same]

namespace Record

lemma mem_of_mem_replace {p : String × Value} {r : Record} {k : String} {v : Value}
    (h : p ∈ replace k v r) : p ∈ r ∨ p = (k, v) := by
  induction r with
  | nil => exact absurd h List.not_mem_nil
  | cons q r ih =>
    obtain ⟨k', w⟩ := q
    rw [replace] at h
    split_ifs at h with hk
    · rcases List.mem_cons.1 h with rfl | h
      · exact .inr (by rw [hk])
      · exact .inl (List.mem_cons_of_mem _ h)
    · rcases List.mem_cons.1 h with rfl | h
      · exact .inl List.mem_cons_self
      · exact (ih h).imp_left (List.mem_cons_of_mem _)

lemma insertIndex_perm (i : ℕ) (k : String) (v : Value) (r : Record) :
    (insertIndex i k v r).Perm ((k, v) :: r) := by
  induction r with
  | nil => exact .rfl
  | cons q r ih =>
    obtain ⟨k', w⟩ := q
    rw [insertIndex]
    split
    · split_ifs
      · exact (ih.cons _).trans (.swap _ _ _)
      · exact .rfl
    · exact .rfl

lemma mem_of_mem_set {p : String × Value} {r : Record} {k : String} {v : Value}
    (h : p ∈ set r k v) : p ∈ r ∨ p = (k, v) := by
  rw [set] at h
  split_ifs at h
  · exact mem_of_mem_replace h
  · split at h
    · exact (List.mem_cons.1 ((insertIndex_perm ..).mem_iff.1 h)).symm
    · exact (List.mem_append.1 h).imp_right List.mem_singleton.1

lemma mem_of_lookup {r : Record} {k : String} {v : Value} (h : r.lookup k = some v) :
    (k, v) ∈ r := by
  induction r with
  | nil => exact absurd h (by simp)
  | cons p r ih =>
    obtain ⟨k', w⟩ := p
    rw [List.lookup_cons] at h
    split at h
    · rename_i hk
      obtain rfl : k = k' := by simpa using hk
      obtain rfl : w = v := by simpa using h
      exact List.mem_cons_self
    · exact List.mem_cons_of_mem _ (ih h)

lemma get_cons (k' : String) (v : Value) (r : Record) (k : String) :
    get ((k', v) :: r) k = if k = k' then v else get r k := by
  rw [get, List.lookup_cons]
  by_cases h : k = k'
  · rw [if_pos h, beq_iff_eq.2 h]
    rfl
  · rw [if_neg h, beq_eq_false_iff_ne.2 h]
    rfl

lemma has_eq_false {r : Record} {k : String} : r.has k = false ↔ k ∉ r.keys := by
  rw [has, keys, Option.isSome_eq_false_iff, Option.isNone_iff_eq_none]
  induction r with
  | nil => simp
  | cons p r ih =>
    rw [List.lookup_cons, List.map_cons, List.mem_cons, not_or]
    split
    · rename_i h
      simp [beq_iff_eq.1 h]
    · rename_i h
      rw [ih]
      simp [beq_eq_false_iff_ne.1 h]

lemma set_new {r : Record} {k : String} (hk : k ∉ r.keys) (hi : arrayIndex? k = none) (v : Value) :
    r.set k v = r ++ [(k, v)] := by
  rw [set, has_eq_false.2 hk, hi]
  rfl

lemma merge_new {r s : Record} (hi : ∀ k ∈ s.keys, arrayIndex? k = none)
    (hd : (r.keys ++ s.keys).Nodup) : merge r s = r ++ s := by
  induction s generalizing r with
  | nil => simp [merge]
  | cons p s ih =>
    obtain ⟨k, v⟩ := p
    simp only [keys, List.map_cons, List.mem_cons, forall_eq_or_imp] at hi hd
    have hk : k ∉ r.keys := fun h => List.disjoint_of_nodup_append hd h List.mem_cons_self
    have hih := ih (r := r ++ [(k, v)]) hi.2 (by simpa [keys] using hd)
    rw [merge, List.foldl_cons, set_new hk hi.1]
    simpa [merge] using hih

lemma ofList_new {s : Record} (hi : ∀ k ∈ s.keys, arrayIndex? k = none) (hd : s.keys.Nodup) :
    ofList s = s :=
  merge_new (r := []) hi hd

lemma ofList_of_sublist {s : Record} {names : List String} (hs : s.keys.Sublist names)
    (hi : ∀ k ∈ names, arrayIndex? k = none) (hd : names.Nodup) : ofList s = s :=
  ofList_new (fun k hk => hi k (hs.subset hk)) (hd.sublist hs)

lemma mem_keys {p : String × Value} {r : Record} (h : p ∈ r) : p.1 ∈ r.keys :=
  List.mem_map_of_mem h

lemma keys_replace (k : String) (v : Value) (r : Record) : (replace k v r).keys = r.keys := by
  induction r with
  | nil => rfl
  | cons q r ih =>
    obtain ⟨k', w⟩ := q
    rw [replace]
    split_ifs
    · rfl
    · exact congrArg (k' :: ·) ih

lemma mem_replace {p : String × Value} {r : Record} {k : String} {v : Value} (hk : k ∈ r.keys)
    (hd : r.keys.Nodup) : p ∈ replace k v r ↔ p = (k, v) ∨ p ∈ r ∧ p.1 ≠ k := by
  induction r with
  | nil => exact absurd hk List.not_mem_nil
  | cons q r ih =>
    obtain ⟨k', w⟩ := q
    obtain ⟨hnew, hd⟩ := List.nodup_cons.1 hd
    rw [replace]
    split_ifs with h
    · subst h
      -- The key does not come again, so the rest has none of its fields.
      have hne : p ∈ r → p.1 ≠ k' := by
        rintro hp rfl
        exact hnew (mem_keys (p := p) hp)
      simp only [List.mem_cons]
      constructor
      · rintro (rfl | hp)
        · exact .inl rfl
        · exact .inr ⟨.inr hp, hne hp⟩
      · rintro (rfl | ⟨rfl | hp, hne⟩)
        · exact .inl rfl
        · exact absurd rfl hne
        · exact .inr hp
    · rw [List.mem_cons, List.mem_cons, ih ((List.mem_cons.1 hk).resolve_left (Ne.symm h)) hd]
      constructor
      · rintro (rfl | hp | hp)
        · exact .inr ⟨.inl rfl, h⟩
        · exact .inl hp
        · exact .inr ⟨.inr hp.1, hp.2⟩
      · rintro (hp | ⟨rfl | hp, hne⟩)
        · exact .inr (.inl hp)
        · exact .inl rfl
        · exact .inr (.inr ⟨hp, hne⟩)

lemma has_eq_true {r : Record} {k : String} : r.has k = true ↔ k ∈ r.keys := by
  rw [← not_iff_not, Bool.not_eq_true, has_eq_false]

lemma set_perm {r : Record} {k : String} (hk : k ∉ r.keys) (v : Value) :
    (r.set k v).Perm ((k, v) :: r) := by
  rw [set, has_eq_false.2 hk, if_neg Bool.false_ne_true]
  split
  · exact insertIndex_perm ..
  · exact List.perm_append_singleton ..

lemma mem_set {p : String × Value} {r : Record} {k : String} (hd : r.keys.Nodup) (v : Value) :
    p ∈ r.set k v ↔ p = (k, v) ∨ p ∈ r ∧ p.1 ≠ k := by
  by_cases hk : k ∈ r.keys
  · rw [set, if_pos (has_eq_true.2 hk), mem_replace hk hd]
  · have hne : p ∈ r → p.1 ≠ k := by
      rintro hp rfl
      exact hk (mem_keys hp)
    rw [(set_perm hk v).mem_iff, List.mem_cons]
    exact or_congr_right ⟨fun hp => ⟨hp, hne hp⟩, And.left⟩

lemma mem_keys_set {r : Record} {k k' : String} {v : Value} :
    k' ∈ (r.set k v).keys ↔ k' = k ∨ k' ∈ r.keys := by
  by_cases h : k ∈ r.keys
  · rw [set, if_pos (has_eq_true.2 h), keys_replace]
    constructor
    · exact .inr
    · rintro (rfl | hk)
      · exact h
      · exact hk
  · exact ((set_perm h v).map Prod.fst).mem_iff.trans List.mem_cons

lemma mem_keys_assign {r : Record} {k k' : String} {v : Value} :
    k' ∈ (r.assign k v).keys ↔ k' = k ∧ k ≠ "__proto__" ∨ k' ∈ r.keys := by
  rw [assign]
  split_ifs with h
  · simp [h]
  · rw [mem_keys_set]
    simp [h]

lemma nodup_keys_set {r : Record} {k : String} (hd : r.keys.Nodup) (v : Value) :
    (r.set k v).keys.Nodup := by
  by_cases hk : k ∈ r.keys
  · rwa [set, if_pos (has_eq_true.2 hk), keys_replace]
  · exact ((set_perm hk v).map Prod.fst).nodup_iff.2 (List.nodup_cons.2 ⟨hk, hd⟩)

lemma nodup_keys_merge {r : Record} (s : Record) (hr : r.keys.Nodup) : (merge r s).keys.Nodup := by
  induction s generalizing r with
  | nil => exact hr
  | cons q s ih => exact ih (nodup_keys_set hr q.2)

lemma of_mem_merge {p : String × Value} {r s : Record} (hr : r.keys.Nodup) (h : p ∈ merge r s) :
    p ∈ s ∨ p ∈ r ∧ p.1 ∉ s.keys := by
  induction s generalizing r with
  | nil => exact .inr ⟨h, List.not_mem_nil⟩
  | cons q s ih =>
    rcases ih (nodup_keys_set hr q.2) h with h | ⟨h, hs⟩
    · exact .inl (List.mem_cons_of_mem q h)
    · rcases (mem_set hr _).1 h with rfl | ⟨h, hne⟩
      · exact .inl List.mem_cons_self
      · exact .inr ⟨h, fun hk => (List.mem_cons.1 hk).elim hne hs⟩

lemma mem_of_mem_ofList {p : String × Value} {l : List (String × Value)} (h : p ∈ ofList l) :
    p ∈ l :=
  (of_mem_merge (r := []) List.nodup_nil h).resolve_right fun h => List.not_mem_nil h.1

lemma mem_merge {p : String × Value} {r s : Record} (hr : r.keys.Nodup) (hs : s.keys.Nodup) :
    p ∈ merge r s ↔ p ∈ s ∨ p ∈ r ∧ p.1 ∉ s.keys := by
  induction s generalizing r with
  | nil => simp [merge, keys]
  | cons q s ih =>
    obtain ⟨hnew, hs⟩ := List.nodup_cons.1 hs
    have hq : p = q → p.1 ∉ keys s := by
      rintro rfl
      exact hnew
    have hmerge : merge r (q :: s) = merge (r.set q.1 q.2) s := rfl
    have hkeys : keys (q :: s) = q.1 :: keys s := rfl
    rw [hmerge, ih (nodup_keys_set hr q.2) hs, mem_set hr, hkeys, List.mem_cons, List.mem_cons,
      not_or]
    tauto

lemma get_of_mem {r : Record} (hd : r.keys.Nodup) {k : String} {v : Value} (h : (k, v) ∈ r) :
    r.get k = v := by
  obtain ⟨w, hw⟩ := Option.isSome_iff_exists.1 (has_eq_true.2 (mem_keys h))
  have hv : (k, w) = (k, v) := List.inj_on_of_nodup_map hd (mem_of_lookup hw) h rfl
  rw [get, hw]
  exact (Prod.mk.inj hv).2

lemma get_eq_undefined {r : Record} {k : String} (h : k ∉ r.keys) : r.get k = .undefined := by
  rw [get, Option.isNone_iff_eq_none.1 (Option.isSome_eq_false_iff.1 (has_eq_false.2 h))]
  rfl

lemma get_merge {r s : Record} (hr : r.keys.Nodup) (hs : s.keys.Nodup) (k : String) :
    (merge r s).get k = if k ∈ s.keys then s.get k else r.get k := by
  have hd := nodup_keys_merge s hr
  split_ifs with hk
  · obtain ⟨p, hp, rfl⟩ := List.mem_map.1 hk
    rw [get_of_mem hs hp]
    exact get_of_mem hd ((mem_merge hr hs).2 (.inl hp))
  · by_cases hkr : k ∈ r.keys
    · obtain ⟨p, hp, rfl⟩ := List.mem_map.1 hkr
      rw [get_of_mem hr hp]
      exact get_of_mem hd ((mem_merge hr hs).2 (.inr ⟨hp, hk⟩))
    · rw [get_eq_undefined hkr]
      apply get_eq_undefined
      intro hm
      obtain ⟨p, hp, rfl⟩ := List.mem_map.1 hm
      rcases of_mem_merge hr hp with hp | ⟨hp, -⟩
      · exact hk (mem_keys hp)
      · exact hkr (mem_keys hp)

lemma get_ofList {s : Record} (hs : s.keys.Nodup) (k : String) : (ofList s).get k = s.get k := by
  have hnil : (keys []).Nodup := List.nodup_nil
  have hmerge : ofList s = merge [] s := rfl
  rw [hmerge, get_merge hnil hs]
  split_ifs with hk
  · rfl
  · exact (get_eq_undefined hk).symm

def mapFields (f : String → Value → Value) (r : Record) : Record := r.map fun p => (p.1, f p.1 p.2)

variable (f : String → Value → Value)

lemma keys_mapFields (r : Record) : (mapFields f r).keys = r.keys := by
  rw [keys, mapFields, List.map_map]
  rfl

lemma replace_mapFields (k : String) (v : Value) (r : Record) :
    replace k (f k v) (mapFields f r) = mapFields f (replace k v r) := by
  induction r with
  | nil => rfl
  | cons q r ih =>
    obtain ⟨k', w⟩ := q
    rw [replace]
    split_ifs with h
    · subst h
      exact if_pos rfl
    · exact (if_neg h).trans (congrArg ((k', f k' w) :: ·) ih)

lemma insertIndex_mapFields (i : ℕ) (k : String) (v : Value) (r : Record) :
    insertIndex i k (f k v) (mapFields f r) = mapFields f (insertIndex i k v r) := by
  induction r with
  | nil => rfl
  | cons q r ih =>
    obtain ⟨k', w⟩ := q
    change insertIndex i k (f k v) ((k', f k' w) :: mapFields f r) = _
    rw [insertIndex, insertIndex]
    split
    · split_ifs
      · exact congrArg ((k', f k' w) :: ·) ih
      · rfl
    · rfl

lemma set_mapFields (r : Record) (k : String) (v : Value) :
    (mapFields f r).set k (f k v) = mapFields f (r.set k v) := by
  have hhas : (mapFields f r).has k = r.has k := by
    rw [Bool.eq_iff_iff, has_eq_true, has_eq_true, keys_mapFields]
  rw [set, set, hhas]
  split_ifs
  · exact replace_mapFields f k v r
  · split
    · exact insertIndex_mapFields f _ k v r
    · rw [mapFields, mapFields, List.map_append]
      rfl

lemma merge_mapFields (r s : Record) :
    merge (mapFields f r) (mapFields f s) = mapFields f (merge r s) := by
  induction s generalizing r with
  | nil => rfl
  | cons q s ih =>
    change merge ((mapFields f r).set q.1 (f q.1 q.2)) (mapFields f s) = _
    rw [set_mapFields, ih]
    rfl

end Record

end AuthGate
