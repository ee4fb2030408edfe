import AuthGate.Memory.Store
import AuthGate.Proofs.Program

namespace AuthGate.Memory

variable {s s' s'' : Memory} {j k : ℕ} {u : Value}

def record? (s : Memory) (k : ℕ) : Option RefreshRecord :=
  if k = 0 then none else s.records[k - 1]?

lemma numbered_getElem? (s : Memory) (i : ℕ) :
    s.numbered[i]? = (s.records[i]?).map fun r => (i + 1, r) := by
  simp only [numbered, List.getElem?_map, List.getElem?_zipIdx, Option.map_map]
  congr 1
  funext r
  simp [Nat.add_comm]

lemma mem_numbered {r : RefreshRecord} : (k, r) ∈ s.numbered ↔ s.record? k = some r := by
  rw [List.mem_iff_getElem?, record?]
  simp only [numbered_getElem?, Option.map_eq_some_iff, Prod.mk.injEq]
  constructor
  · rintro ⟨i, r', hi, rfl, rfl⟩
    simpa using hi
  · intro h
    split_ifs at h with hk
    exact ⟨k - 1, r, h, by omega, rfl⟩

lemma isLive_iff : s.isLive k u = true ↔
    ∃ r, s.record? k = some r ∧ r.live = true ∧ r.userId.same u = true := by
  simp only [isLive, List.any_eq_true, Prod.exists, mem_numbered, Bool.and_eq_true,
    decide_eq_true_eq]
  constructor
  · rintro ⟨i, r, hr, ⟨rfl, hl⟩, hu⟩
    exact ⟨r, hr, hl, hu⟩
  · rintro ⟨r, hr, hl, hu⟩
    exact ⟨k, r, hr, ⟨rfl, hl⟩, hu⟩

lemma record?_eq_none : s.record? k = none ↔ k = 0 ∨ s.records.length < k := by
  rw [record?]
  split_ifs with hk
  · simp [hk]
  · rw [List.getElem?_eq_none_iff]
    omega

lemma le_length_of_record? {r : RefreshRecord} (h : s.record? k = some r) :
    0 < k ∧ k ≤ s.records.length := by
  have hn : ¬ (k = 0 ∨ s.records.length < k) := fun hn => by simp [record?_eq_none.2 hn] at h
  omega

def RefreshRecord.kill (r : RefreshRecord) : RefreshRecord := { r with live := false }

lemma record?_revokeRecord : (s.revokeRecord j).record? k =
    (s.record? k).map fun r => if k = j then r.kill else r := by
  rw [record?, record?, revokeRecord]
  by_cases hk : k = 0
  · rw [if_pos hk, if_pos hk]
    rfl
  · rw [if_neg hk, if_neg hk, List.getElem?_map, numbered_getElem?, Option.map_map]
    congr 1
    funext r
    simp only [Function.comp_apply, Nat.sub_one_add_one hk]
    rfl

lemma record?_issueFor : (s.issueFor u).2.record? k =
    if k = s.records.length + 1 then some ⟨u, true⟩ else s.record? k := by
  simp only [record?, issueFor]
  split_ifs with hk hn hn
  · omega
  · rfl
  · simp [hn]
  · rw [List.getElem?_append]
    split_ifs with hl
    · rfl
    · rw [List.getElem?_eq_none (by simp; omega), List.getElem?_eq_none (by omega)]

lemma record?_revokeAll : (s.revokeAll u).2.record? k =
    (s.record? k).map fun r => if r.userId.same u then r.kill else r := by
  simp only [record?, revokeAll, List.getElem?_map]
  split_ifs with hk
  · rfl
  · rfl

/-- Later, records are still there and those that were dead are dead. -/
def Ages (s s' : Memory) : Prop :=
  ∀ k r, s.record? k = some r →
    ∃ r', s'.record? k = some r' ∧ r'.userId = r.userId ∧ (r'.live = true → r.live = true)

lemma Ages.refl (s : Memory) : Ages s s := fun _ r hr => ⟨r, hr, rfl, id⟩

lemma Ages.of_records (h : s'.records = s.records) : Ages s s' := by
  intro k r hr
  refine ⟨r, ?_, rfl, id⟩
  rw [← hr, record?, record?, h]

lemma Ages.trans (h : Ages s s') (h' : Ages s' s'') : Ages s s'' := by
  intro k r hr
  obtain ⟨r', hr', hu, hl⟩ := h k r hr
  obtain ⟨r'', hr'', hu', hl'⟩ := h' k r' hr'
  exact ⟨r'', hr'', hu'.trans hu, hl ∘ hl'⟩

lemma ages_revokeRecord (s : Memory) (j : ℕ) : Ages s (s.revokeRecord j) := by
  intro k r hr
  rw [record?_revokeRecord, hr]
  refine ⟨_, rfl, ?_, ?_⟩
  · split_ifs <;> rfl
  · split_ifs <;> simp [RefreshRecord.kill]

lemma ages_issueFor (s : Memory) (u : Value) : Ages s (s.issueFor u).2 := by
  intro k r hr
  have hk := le_length_of_record? hr
  rw [record?_issueFor, if_neg (by omega), hr]
  exact ⟨r, rfl, rfl, id⟩

lemma ages_revokeAll (s : Memory) (u : Value) : Ages s (s.revokeAll u).2 := by
  intro k r hr
  rw [record?_revokeAll, hr]
  refine ⟨_, rfl, ?_, ?_⟩
  · beta_reduce
    split_ifs <;> rfl
  · beta_reduce
    split_ifs <;> simp [RefreshRecord.kill]

lemma ages_perform (c : Call) (s : Memory) : Ages s (perform c s).2 := by
  cases c with
  | issue u => exact ages_issueFor s u
  | rotate k u =>
    rw [perform]
    split_ifs
    · exact (ages_revokeRecord s k).trans (ages_issueFor _ u)
    · exact Ages.refl s
  | revoke k u =>
    rw [perform]
    split_ifs
    · exact ages_revokeRecord s k
    · exact Ages.refl s
  | revokeAllFor u => exact ages_revokeAll s u
  | _ => exact Ages.refl s

lemma perform_journal (c : Call) (s : Memory) (l : List Call) :
    (perform c { s with journal := l }).1 = (perform c s).1 ∧
      (perform c { s with journal := l }).2.records = (perform c s).2.records := by
  cases c with
  | rotate k u =>
    simp only [perform]
    rw [show isLive { s with journal := l } k u = s.isLive k u from rfl]
    split_ifs <;> exact ⟨rfl, rfl⟩
  | revoke k u =>
    simp only [perform]
    rw [show isLive { s with journal := l } k (.str u) = s.isLive k (.str u) from rfl]
    split_ifs <;> exact ⟨rfl, rfl⟩
  | _ => exact ⟨rfl, rfl⟩

lemma stores_of_failure {c : Call} {f : Failure} (h : s.failureOf? c = some f) :
    (stores c s).result = .error f ∧ (stores c s).state.records = s.records := by
  have h : failureOf? { s with journal := c :: s.journal } c = some f := h
  rw [stores]
  simp only [h]
  exact ⟨trivial, trivial⟩

lemma stores_of_none {c : Call} (h : s.failureOf? c = none) :
    (stores c s).result = (perform c s).1 ∧
      (stores c s).state.records = (perform c s).2.records := by
  have h : failureOf? { s with journal := c :: s.journal } c = none := h
  rw [stores]
  simp only [h]
  exact perform_journal c s (c :: s.journal)

lemma failureOf?_eq_other {c : Call} {f : Failure} (h : s.failureOf? c = some f) :
    ∃ name text, f = .other name text := by
  rw [failureOf?] at h
  split at h
  · obtain rfl := Option.some.inj h
    exact ⟨_, _, rfl⟩
  · obtain ⟨text, -, rfl⟩ := Option.map_eq_some_iff.1 h
    exact ⟨_, _, rfl⟩
  · obtain rfl := Option.some.inj h
    exact ⟨_, _, rfl⟩

lemma stores_cases (c : Call) (s : Memory) :
    (∃ name text, (stores c s).result = .error (.other name text) ∧
        (stores c s).state.records = s.records) ∨
      (stores c s).result = (perform c s).1 ∧
        (stores c s).state.records = (perform c s).2.records := by
  cases hf : s.failureOf? c with
  | none => exact .inr (stores_of_none hf)
  | some f =>
    obtain ⟨name, text, rfl⟩ := failureOf?_eq_other hf
    exact .inl ⟨name, text, stores_of_failure hf⟩

lemma ages_stores (c : Call) (s : Memory) : Ages s (stores c s).state := by
  obtain ⟨-, -, -, h⟩ | ⟨-, h⟩ := stores_cases c s
  · exact Ages.of_records h
  · exact (ages_perform c s).trans (Ages.of_records h)

lemma ages_run {α : Type} (p : Program α) (s : Memory) : Ages s (p.run stores s).state :=
  Program.run_state Ages.refl Ages.trans ages_stores p s

structure Fixed (s s' : Memory) : Prop where
  users : s'.users = s.users
  grants : s'.grants = s.grants
  failures : s'.failures = s.failures

lemma Fixed.refl (s : Memory) : Fixed s s := ⟨rfl, rfl, rfl⟩

lemma Fixed.trans (h : Fixed s s') (h' : Fixed s' s'') : Fixed s s'' :=
  ⟨h'.users.trans h.users, h'.grants.trans h.grants, h'.failures.trans h.failures⟩

lemma Fixed.failureOf? (h : Fixed s s') (c : Call) : s'.failureOf? c = s.failureOf? c := by
  rw [Memory.failureOf?, Memory.failureOf?, h.failures]

lemma fixed_perform (c : Call) (s : Memory) : Fixed s (perform c s).2 := by
  cases c with
  | rotate k u =>
    rw [perform]
    split_ifs <;> exact ⟨rfl, rfl, rfl⟩
  | revoke k u =>
    rw [perform]
    split_ifs <;> exact ⟨rfl, rfl, rfl⟩
  | _ => exact ⟨rfl, rfl, rfl⟩

lemma fixed_stores (c : Call) (s : Memory) : Fixed s (stores c s).state := by
  have hstart : Fixed s { s with journal := c :: s.journal } := ⟨rfl, rfl, rfl⟩
  unfold stores
  dsimp only
  split
  · exact hstart
  · exact hstart.trans (fixed_perform c _)

lemma fixed_run {α : Type} (p : Program α) (s : Memory) : Fixed s (p.run stores s).state :=
  Program.run_state Fixed.refl Fixed.trans fixed_stores p s

lemma record?_congr (h : s'.records = s.records) (k : ℕ) : s'.record? k = s.record? k := by
  rw [record?, record?, h]

lemma isLive_congr (h : s'.records = s.records) (k : ℕ) (u : Value) :
    s'.isLive k u = s.isLive k u := by
  rw [isLive, isLive, numbered, numbered, h]

structure Rotated (s s' : Memory) (k : ℕ) (u : Value) : Prop where
  live : s.isLive k u = true
  used : s'.record? k = (s.record? k).map RefreshRecord.kill
  new : s'.record? (s.records.length + 1) = some ⟨u, true⟩
  others : ∀ j ≠ k, j ≠ s.records.length + 1 → s'.record? j = s.record? j

structure Cleared (s s' : Memory) (u : Value) : Prop where
  dead : ∀ k, s'.isLive k u = false
  others : ∀ k r, r.userId.same u = false → (s'.record? k = some r ↔ s.record? k = some r)

def liveCount (s : Memory) (u : Value) : ℕ :=
  (s.records.filter fun r => r.live && r.userId.same u).length

def Fails {α : Type} (r : Except Failure α) : Prop := ∃ name text, r = .error (.other name text)

lemma stores_lines (c : Call) (s : Memory) : (stores c s).lines = [] := by
  unfold stores
  dsimp only
  split <;> rfl

lemma findByEmail_records (email : Value) (s : Memory) :
    (stores (.findByEmail email) s).state.records = s.records := by
  obtain ⟨-, -, -, hs⟩ | ⟨-, hs⟩ := stores_cases (.findByEmail email) s
  · exact hs
  · exact hs

lemma findById_cases (id : String) (s : Memory) :
    (stores (.findById id) s).state.records = s.records ∧
      (Fails (stores (.findById id) s).result ∨
        (stores (.findById id) s).result = .ok (s.users.find? (·.id.same (.str id)))) := by
  obtain ⟨name, text, hr, hs⟩ | ⟨hr, hs⟩ := stores_cases (.findById id) s
  · exact ⟨hs, .inl ⟨name, text, hr⟩⟩
  · exact ⟨hs, .inr hr⟩

lemma rotated_issueFor (hl : s.isLive k u = true) :
    Rotated s ((s.revokeRecord k).issueFor u).2 k u := by
  obtain ⟨r, hr, -⟩ := isLive_iff.1 hl
  have hk := le_length_of_record? hr
  have hlen : (s.revokeRecord k).records.length = s.records.length := by
    simp [revokeRecord, numbered]
  refine ⟨hl, ?_, ?_, fun j hj hj' => ?_⟩
  · rw [record?_issueFor, hlen, if_neg (by omega), record?_revokeRecord]
    simp
  · rw [record?_issueFor, hlen, if_pos rfl]
  · rw [record?_issueFor, hlen, if_neg hj', record?_revokeRecord]
    simp [hj]

lemma Rotated.congr (h : Rotated s s' k u) (hs : s''.records = s'.records) : Rotated s s'' k u :=
  ⟨h.live, by rw [record?_congr hs, h.used], by rw [record?_congr hs, h.new],
    fun j hj hj' => by rw [record?_congr hs, h.others j hj hj']⟩

lemma Rotated.of_records (h : Rotated s s' k u) (hs : s.records = s''.records) :
    Rotated s'' s' k u :=
  ⟨by rw [← isLive_congr hs, h.live], by rw [← record?_congr hs, h.used], by rw [← hs, h.new],
    fun j hj hj' => by rw [← record?_congr hs, h.others j hj (by rwa [hs])]⟩

lemma cleared_revokeAll (s : Memory) (u : Value) : Cleared s (s.revokeAll u).2 u := by
  refine ⟨fun k => ?_, fun k r hr => ?_⟩
  · rw [← Bool.not_eq_true, isLive_iff]
    rintro ⟨r, hr, hl, hu⟩
    rw [record?_revokeAll, Option.map_eq_some_iff] at hr
    obtain ⟨r', -, rfl⟩ := hr
    by_cases hu' : r'.userId.same u = true
    · rw [if_pos hu'] at hl
      cases hl
    · rw [if_neg hu'] at hu
      exact hu' hu
  · rw [record?_revokeAll, Option.map_eq_some_iff]
    constructor
    · rintro ⟨r', hr', rfl⟩
      by_cases hu : r'.userId.same u = true
      · rw [if_pos hu] at hr
        exact absurd (hu.symm.trans hr) (by simp)
      · rw [if_neg hu, hr']
    · intro h
      exact ⟨r, h, if_neg (by simp [hr])⟩

lemma Cleared.congr (h : Cleared s s' u) (hs : s''.records = s'.records) : Cleared s s'' u :=
  ⟨fun k => by rw [isLive_congr hs, h.dead k], fun k r hr => by rw [record?_congr hs, h.others k r hr]⟩

lemma Cleared.of_records (h : Cleared s s' u) (hs : s.records = s''.records) : Cleared s'' s' u :=
  ⟨h.dead, fun k r hr => by rw [h.others k r hr, record?_congr hs]⟩

lemma liveCount_congr (hs : s'.records = s.records) (u : Value) : s'.liveCount u = s.liveCount u := by
  rw [liveCount, liveCount, hs]

lemma rotate_cases (k : ℕ) (u : Value) (s : Memory) :
    Fails (stores (.rotate k u) s).result ∧
        (stores (.rotate k u) s).state.records = s.records ∨
      (stores (.rotate k u) s).result = .ok none ∧ s.isLive k u = false ∧
        (stores (.rotate k u) s).state.records = s.records ∨
      (stores (.rotate k u) s).result = .ok (some (.ofNat (s.records.length + 1))) ∧
        Rotated s (stores (.rotate k u) s).state k u := by
  obtain ⟨name, text, hr, hs⟩ | ⟨hr, hs⟩ := stores_cases (.rotate k u) s
  · exact .inl ⟨⟨name, text, hr⟩, hs⟩
  · rw [perform] at hr hs
    split_ifs at hr hs with hl
    · have hlen : (s.revokeRecord k).records.length = s.records.length := by
        simp [revokeRecord, numbered]
      refine .inr (.inr ⟨?_, (rotated_issueFor hl).congr hs⟩)
      rw [hr, ← hlen]
      rfl
    · exact .inr (.inl ⟨hr, Bool.not_eq_true _ ▸ hl, hs⟩)

lemma revokeAllFor_cases (u : Value) (s : Memory) :
    Fails (stores (.revokeAllFor u) s).result ∧
        (stores (.revokeAllFor u) s).state.records = s.records ∨
      (stores (.revokeAllFor u) s).result = .ok (s.liveCount u) ∧
        Cleared s (stores (.revokeAllFor u) s).state u := by
  obtain ⟨name, text, hr, hs⟩ | ⟨hr, hs⟩ := stores_cases (.revokeAllFor u) s
  · exact .inl ⟨⟨name, text, hr⟩, hs⟩
  · exact .inr ⟨hr, (cleared_revokeAll s u).congr hs⟩

lemma revoke_cases (k : ℕ) (u : String) (s : Memory) :
    Fails (stores (.revoke k u) s).result ∧
        (stores (.revoke k u) s).state.records = s.records ∨
      (stores (.revoke k u) s).result = .ok false ∧
        (stores (.revoke k u) s).state.records = s.records ∨
      (stores (.revoke k u) s).result = .ok true ∧ s.isLive k (.str u) = true ∧
        (stores (.revoke k u) s).state.records = (s.revokeRecord k).records := by
  obtain ⟨name, text, hr, hs⟩ | ⟨hr, hs⟩ := stores_cases (.revoke k u) s
  · exact .inl ⟨⟨name, text, hr⟩, hs⟩
  · rw [perform] at hr hs
    split_ifs at hr hs with hl
    · exact .inr (.inr ⟨hr, hl, hs⟩)
    · exact .inr (.inl ⟨hr, hs⟩)

lemma mem_live : k ∈ s.live ↔ ∃ r, s.record? k = some r ∧ r.live = true := by
  simp only [live, List.mem_map, List.mem_filter, Prod.exists, mem_numbered]
  constructor
  · rintro ⟨k, r, ⟨hr, hl⟩, rfl⟩
    exact ⟨r, hr, hl⟩
  · rintro ⟨r, hr, hl⟩
    exact ⟨k, r, ⟨hr, hl⟩, rfl⟩

def Dead (s : Memory) (k : ℕ) : Prop := ∃ r, s.record? k = some r ∧ r.live = false

lemma Ages.dead (h : Ages s s') (hd : s.Dead k) : s'.Dead k := by
  obtain ⟨r, hr, hl⟩ := hd
  obtain ⟨r', hr', -, hl'⟩ := h k r hr
  exact ⟨r', hr', by simpa [hl] using hl'⟩

lemma Ages.dead_of_not_live (h : Ages s s') (hl : k ∈ s.live) (hn : k ∉ s'.live) : s'.Dead k := by
  obtain ⟨r, hr, -⟩ := mem_live.1 hl
  obtain ⟨r', hr', -⟩ := h k r hr
  exact ⟨r', hr', Bool.eq_false_iff.2 fun hl' => hn (mem_live.2 ⟨r', hr', hl'⟩)⟩

lemma Dead.not_live (h : s.Dead k) : k ∉ s.live := by
  obtain ⟨r, hr, hl⟩ := h
  intro hm
  obtain ⟨r', hr', hl'⟩ := mem_live.1 hm
  obtain rfl := Option.some.inj (hr.symm.trans hr')
  exact absurd hl' (by simp [hl])

lemma live_of_isLive {u : Value} (h : s.isLive k u = true) : k ∈ s.live := by
  obtain ⟨r, hr, hl, -⟩ := isLive_iff.1 h
  exact mem_live.2 ⟨r, hr, hl⟩

lemma Rotated.dead {u : Value} (h : Rotated s s' k u) : s'.Dead k := by
  obtain ⟨r, hr, -⟩ := isLive_iff.1 h.live
  exact ⟨r.kill, by rw [h.used, hr]; rfl, rfl⟩

lemma ages_of_startsWith {α β : Type} {p : Program α} {q : Program β} (h : p.StartsWith q)
    (s : Memory) : Ages (q.run stores s).state (p.run stores s).state := by
  obtain ⟨f, rfl⟩ := h
  rw [Program.run_follow]
  exact ages_run _ _

end AuthGate.Memory
