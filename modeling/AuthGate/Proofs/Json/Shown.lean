import AuthGate.Json.Parser
import AuthGate.Proofs.Record

namespace AuthGate.Json

def Shown (v : Value) : Prop := v ≠ .undefined ∧ v ≠ .num .nan

def AllShown (r : Record) : Prop := ∀ p ∈ r, Shown p.2

lemma AllShown.set {r : Record} (h : AllShown r) {v : Value} (hv : Shown v) (k : String) :
    AllShown (r.set k v) := by
  intro p hp
  rcases Record.mem_of_mem_set hp with hp | rfl
  · exact h p hp
  · exact hv

lemma AllShown.absent {r : Record} (h : AllShown r) {k : String} :
    r.get k = .undefined ↔ r.has k = false := by
  rw [Record.get, Record.has]
  cases hl : r.lookup k with
  | none => simp
  | some v => simpa using (h _ (Record.mem_of_lookup hl)).1

lemma AllShown.number {r : Record} (h : AllShown r) {k : String} {n : Number}
    (hn : r.get k = .num n) : n ≠ .nan := by
  rintro rfl
  rw [Record.get] at hn
  cases hl : r.lookup k with
  | none => simp [hl] at hn
  | some v =>
    obtain rfl : v = .num .nan := by simpa [hl] using hn
    exact (h _ (Record.mem_of_lookup hl)).2 rfl

lemma ofRat_ne_nan (q : Rat) : Number.ofRat q ≠ .nan := by
  rw [Number.ofRat]
  dsimp only
  split_ifs <;> simp

lemma ofDecimal_ne_nan (s : Bool) (ds : List Char) (e : Int) : Number.ofDecimal s ds e ≠ .nan := by
  unfold Number.ofDecimal
  dsimp only
  split_ifs
  all_goals first
    | exact ofRat_ne_nan _
    | simp

lemma magnitude_ne_nan {s : Bool} {cs r : List Char} {n : Number}
    (h : magnitude s cs = some (n, r)) : n ≠ .nan := by
  rw [magnitude] at h
  dsimp only at h
  split_ifs at h
  · simp at h
  · simp only [Option.bind_eq_bind, Option.bind_eq_some_iff] at h
    obtain ⟨⟨frac, r'⟩, -, ⟨e, r''⟩, -, h⟩ := h
    obtain ⟨rfl, -⟩ := Prod.mk.inj (Option.some.inj h)
    exact ofDecimal_ne_nan _ _ _

lemma numeral_ne_nan {cs r : List Char} {n : Number} (h : numeral cs = some (n, r)) : n ≠ .nan := by
  unfold numeral at h
  split at h <;> exact magnitude_ne_nan h

lemma value_cases {fuel : ℕ} {cs r : List Char} {v : Value} (h : value fuel cs = some (v, r)) :
    v = .null ∨ (∃ b, v = .bool b) ∨ (∃ s, v = .str s) ∨ (∃ n, v = .num n ∧ n ≠ .nan) ∨
      (∃ l, v = .arr l) ∨ ∃ fields, v = .obj fields ∧
        (fields = [] ∨ ∃ fuel' cs' r', members fuel' [] cs' = some (fields, r')) := by
  cases fuel with
  | zero => simp [value] at h
  | succ fuel =>
    rw [value] at h
    split at h
    case h_1 => exact .inl (Prod.mk.inj (Option.some.inj h)).1.symm
    case h_2 => exact .inr (.inl ⟨true, (Prod.mk.inj (Option.some.inj h)).1.symm⟩)
    case h_3 => exact .inr (.inl ⟨false, (Prod.mk.inj (Option.some.inj h)).1.symm⟩)
    case h_4 =>
      obtain ⟨⟨s, r'⟩, -, he⟩ := Option.map_eq_some_iff.1 h
      exact .inr (.inr (.inl ⟨s, (Prod.mk.inj he).1.symm⟩))
    case h_5 =>
      refine .inr (.inr (.inr (.inr (.inl ?_))))
      split at h
      · exact ⟨[], (Prod.mk.inj (Option.some.inj h)).1.symm⟩
      · obtain ⟨⟨l, r'⟩, -, he⟩ := Option.map_eq_some_iff.1 h
        exact ⟨l, (Prod.mk.inj he).1.symm⟩
    case h_6 =>
      refine .inr (.inr (.inr (.inr (.inr ?_))))
      split at h
      · exact ⟨[], (Prod.mk.inj (Option.some.inj h)).1.symm, .inl rfl⟩
      · obtain ⟨⟨fields, r'⟩, hm, he⟩ := Option.map_eq_some_iff.1 h
        exact ⟨fields, (Prod.mk.inj he).1.symm, .inr ⟨_, _, _, hm⟩⟩
    case h_7 =>
      obtain ⟨⟨n, r'⟩, hn, he⟩ := Option.map_eq_some_iff.1 h
      exact .inr (.inr (.inr (.inl ⟨n, (Prod.mk.inj he).1.symm, numeral_ne_nan hn⟩)))

lemma value_shown {fuel : ℕ} {cs r : List Char} {v : Value} (h : value fuel cs = some (v, r)) :
    Shown v := by
  rcases value_cases h with rfl | ⟨b, rfl⟩ | ⟨s, rfl⟩ | ⟨n, rfl, hn⟩ | ⟨l, rfl⟩ | ⟨fields, rfl, -⟩
  case inr.inr.inr.inl => exact ⟨by simp, by simpa using hn⟩
  all_goals exact ⟨by simp, by simp⟩

lemma AllShown.members {fuel : ℕ} {seen fields : Record} {cs r : List Char}
    (hseen : AllShown seen) (h : members fuel seen cs = some (fields, r)) : AllShown fields := by
  induction fuel generalizing seen cs with
  | zero => simp [Json.members] at h
  | succ fuel ih =>
    rw [Json.members] at h
    split at h
    · split at h
      · split at h
        · split at h
          · rename_i hv
            have hset := hseen.set (value_shown hv)
            split at h
            · exact ih (hset _) h
            · obtain ⟨rfl, -⟩ := Prod.mk.inj (Option.some.inj h)
              exact hset _
            · cases h
          · cases h
        · cases h
      · cases h
    · cases h

lemma value_obj_shown {fuel : ℕ} {cs r : List Char} {fields : Record}
    (h : value fuel cs = some (.obj fields, r)) : AllShown fields := by
  obtain ⟨_, he, hfields⟩ : ∃ fields', Value.obj fields = .obj fields' ∧ (fields' = [] ∨
      ∃ fuel' cs' r', members fuel' [] cs' = some (fields', r')) := by
    simpa using value_cases h
  obtain rfl := Value.obj.inj he
  rcases hfields with rfl | ⟨fuel', cs', r', hm⟩
  · intro p hp
    exact absurd hp List.not_mem_nil
  · exact AllShown.members (fun p hp => absurd hp List.not_mem_nil) hm

theorem parse?_obj_shown {cs : List Char} {fields : Record} (h : parse? cs = some (.obj fields)) :
    AllShown fields := by
  rw [parse?] at h
  split at h
  · rename_i hv
    split_ifs at h
    obtain rfl := Option.some.inj h
    exact value_obj_shown hv
  · cases h

end AuthGate.Json
