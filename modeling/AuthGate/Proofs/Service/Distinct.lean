import AuthGate.Proofs.Service.Authorization
import Mathlib.Data.List.Induction

/-! Lists of grants without repetition. Grants agree if they have the same mark; a list to which
each grant is added unless one agrees with it holds every mark once, and to be given something by
each role once is to be given the same names as by all roles. -/

namespace AuthGate

lemma Value.asMember_num (n : Number) :
    (num n).asMember = .num (if n = .negZero then .zero else n) := by
  cases n <;> rfl

lemma Value.same_iff {v w : Value} :
    v.same w = true ↔ v.isCompound = false ∧ v.asMember = w.asMember := by
  cases v <;> cases w <;> try simp only [asMember_num]
  case num.num m n =>
    cases m <;> cases n <;> simp [same, isCompound, Number.isZero, Number.zero]
    all_goals grind
  all_goals simp [same, isCompound, asMember]

lemma Value.isCompound_asMember (v : Value) : v.asMember.isCompound = v.isCompound := by
  cases v with
  | num n => cases n <;> rfl
  | _ => rfl

lemma Value.asMember_asMember (v : Value) : v.asMember.asMember = v.asMember := by
  cases v with
  | num n => cases n <;> rfl
  | _ => rfl

namespace Grant

variable {part : Grant → Value} {g h : Grant}

/-- What a grant has in common with those that it agrees with. -/
def mark (part : Grant → Value) (g : Grant) : Value ⊕ Option Place :=
  if (part g).isCompound then .inr g.place else .inl (part g).asMember

/-- Held in a place, if it takes one to tell the grant from others. -/
def Placed (part : Grant → Value) (g : Grant) : Prop :=
  (part g).isCompound = true → g.place.isSome = true

lemma agree_iff (hg : g.Placed part) : agree part g h = true ↔ mark part g = mark part h := by
  have hcompound : (part g).asMember = (part h).asMember →
      (part g).isCompound = (part h).isCompound := by
    intro he
    rw [← Value.isCompound_asMember, he, Value.isCompound_asMember]
  simp only [agree, mark, Bool.or_eq_true, Bool.and_eq_true, Value.same_iff, decide_eq_true_eq]
  cases hg' : (part g).isCompound <;> cases hh : (part h).isCompound
  · simp
  · simp only [hg', hh] at hcompound
    simpa using hcompound
  · simp
  · simp [hg hg']

end Grant

namespace Access

open Grant

variable {part : Grant → Value} {put : List Grant → Grant → List Grant} {found l : List Grant}

def Adds (part : Grant → Value) (put : List Grant → Grant → List Grant) : Prop :=
  ∀ found g, g.Placed part → (put found g).map (mark part) =
    found.map (mark part) ++ if found.any (Grant.agree part g) then [] else [mark part g]

lemma any_agree {g : Grant} (hg : g.Placed part) (found : List Grant) :
    found.any (Grant.agree part g) = true ↔ mark part g ∈ found.map (mark part) := by
  simp only [List.any_eq_true, agree_iff hg, List.mem_map]
  exact exists_congr fun h => and_congr_right fun _ => eq_comm

lemma adds_putName : Adds (·.name) putName := by
  intro found g hg
  rw [putName]
  split_ifs with h
  · exact (List.append_nil _).symm
  · simp

lemma adds_putRole : Adds (·.id) putRole := by
  intro found g hg
  rw [putRole]
  split_ifs with h
  · rw [List.append_nil, List.map_map]
    refine List.map_congr_left fun q _ => ?_
    simp only [Function.comp_apply]
    split_ifs with hq
    · exact (agree_iff hg).1 hq
    · rfl
  · simp

namespace Adds

variable (hput : Adds part put) (hl : ∀ g ∈ l, g.Placed part)

include hput hl

lemma mem_foldl (found : List Grant) {x : Value ⊕ Option Place} :
    x ∈ (l.foldl put found).map (mark part) ↔
      x ∈ found.map (mark part) ∨ x ∈ l.map (mark part) := by
  induction l generalizing found with
  | nil => simp
  | cons g l ih =>
    obtain ⟨hg, hl⟩ := List.forall_mem_cons.1 hl
    rw [List.foldl_cons, ih hl (put found g), hput found g hg, List.map_cons, List.mem_cons,
      List.mem_append]
    split_ifs with h
    · have hmem := (any_agree hg found).1 h
      grind
    · rw [List.mem_singleton]
      tauto

lemma nodup_foldl (found : List Grant) (hfound : (found.map (mark part)).Nodup) :
    ((l.foldl put found).map (mark part)).Nodup := by
  induction l generalizing found with
  | nil => exact hfound
  | cons g l ih =>
    obtain ⟨hg, hl⟩ := List.forall_mem_cons.1 hl
    refine ih hl _ ?_
    rw [hput found g hg]
    split_ifs with h
    · rwa [List.append_nil]
    · have hmem := mt (any_agree hg found).2 h
      exact List.nodup_append.2 ⟨hfound, List.nodup_singleton _, by grind⟩

end Adds

lemma foldl_putName_of_met (hl : ∀ g ∈ l, g.Placed (·.name))
    (hmet : ∀ g ∈ l, mark (·.name) g ∈ found.map (mark (·.name))) :
    l.foldl putName found = found := by
  induction l with
  | nil => rfl
  | cons g l ih =>
    obtain ⟨hg, hl⟩ := List.forall_mem_cons.1 hl
    obtain ⟨hmet, hrest⟩ := List.forall_mem_cons.1 hmet
    rw [List.foldl_cons, putName, if_pos ((any_agree hg found).2 hmet), ih hl hrest]

lemma flatMap_putRole {β : Type} {f : Grant → List β} {roles : List Grant} {r : Grant}
    (hr : r.Placed (·.id)) (hf : ∀ q ∈ roles, mark (·.id) r = mark (·.id) q → f r = f q) :
    (putRole roles r).flatMap f =
      roles.flatMap f ++ if roles.any (Grant.agree (·.id) r) then [] else f r := by
  rw [putRole]
  split_ifs with h
  · rw [List.append_nil, List.flatMap_map]
    refine List.flatMap_congr fun q hq => ?_
    split_ifs with ha
    · exact hf q hq ((agree_iff hr).1 ha)
    · rfl
  · simp

/-- To ask each role once is to ask them all, where roles that agree are given the same. -/
lemma foldl_putName_distinctRoles {f : Grant → List Grant} {roles : List Grant}
    (hroles : ∀ r ∈ roles, r.Placed (·.id))
    (hplaced : ∀ r ∈ roles, ∀ g ∈ f r, g.Placed (·.name))
    (hf : ∀ r ∈ roles, ∀ q ∈ roles, mark (·.id) r = mark (·.id) q → f r = f q) :
    ((distinctRoles roles).flatMap f).foldl putName [] = (roles.flatMap f).foldl putName [] := by
  -- The last role decides nothing about those before it, so the induction runs from the end.
  induction roles using List.reverseRecOn with
  | nil => rfl
  | append_singleton roles r ih =>
    have hr : r ∈ roles ++ [r] := List.mem_append_right _ List.mem_cons_self
    have hin {q : Grant} (hq : q ∈ roles) : q ∈ roles ++ [r] := List.mem_append_left _ hq
    have ih := ih (fun q hq => hroles q (hin hq)) (fun q hq => hplaced q (hin hq))
      fun q hq p hp => hf q (hin hq) p (hin hp)
    have hput : distinctRoles (roles ++ [r]) = putRole (distinctRoles roles) r := by
      rw [distinctRoles, List.foldl_append]
      rfl
    have hmarks := adds_putRole.mem_foldl (l := roles)
      (fun q hq => hroles q (hin hq)) [] (x := mark (·.id) r)
    rw [hput, flatMap_putRole (hroles r hr) fun q hq => hf r hr q (hin (mem_of_distinctRoles hq)),
      List.flatMap_append, List.foldl_append, List.foldl_append, ih, List.flatMap_singleton]
    split_ifs with h
    · -- What `r` is given was met with a role that agrees with it.
      obtain ⟨q, hq, hmark⟩ := List.mem_map.1 ((hmarks.1
        ((any_agree (hroles r hr) _).1 h)).resolve_left List.not_mem_nil)
      rw [hf r hr q (hin hq) hmark.symm, List.foldl_nil, foldl_putName_of_met (hplaced q (hin hq))]
      intro g hg
      refine (adds_putName.mem_foldl (fun p hp => ?_) []).2 (.inr (List.mem_map_of_mem
        (List.mem_flatMap.2 ⟨q, hq, hg⟩)))
      obtain ⟨q', hq', hp⟩ := List.mem_flatMap.1 hp
      exact hplaced q' (hin hq') p hp
    · rfl

lemma pairwise_distinctRoles {roles : List Grant} (hroles : ∀ r ∈ roles, r.Placed (·.id)) :
    (distinctRoles roles).Pairwise fun q r => q.agree (·.id) r = false := by
  have hnodup := adds_putRole.nodup_foldl hroles [] List.nodup_nil
  refine (List.pairwise_map.1 hnodup).imp_of_mem fun {q r} hq _ hne => ?_
  rw [Bool.eq_false_iff, ne_eq, agree_iff (hroles q (mem_of_distinctRoles hq))]
  exact hne

lemma exists_distinctRoles {roles : List Grant} (hroles : ∀ r ∈ roles, r.Placed (·.id))
    {r : Grant} (hr : r ∈ roles) : ∃ q ∈ distinctRoles roles, q.agree (·.id) r = true := by
  obtain ⟨q, hq, hmark⟩ := List.mem_map.1 ((adds_putRole.mem_foldl hroles []).2
    (.inr (List.mem_map_of_mem hr)))
  exact ⟨q, hq, (agree_iff (hroles q (mem_of_distinctRoles hq))).2 hmark⟩

lemma mem_distinctNames {grants : List Grant} (hplaced : ∀ g ∈ grants, g.Placed (·.name))
    (hname : ∀ g ∈ grants, ∀ h ∈ grants, mark (·.name) g = mark (·.name) h →
      g.name.asMember = h.name.asMember)
    {v : Value} : v ∈ distinctNames grants ↔ ∃ g ∈ grants, g.name.asMember = v := by
  refine ⟨mem_of_distinctNames, ?_⟩
  rintro ⟨g, hg, rfl⟩
  obtain ⟨q, hq, hmark⟩ := List.mem_map.1 ((adds_putName.mem_foldl hplaced []).2
    (.inr (List.mem_map_of_mem hg)))
  have hmem : q ∈ grants := by simpa using mem_of_foldl mem_of_putName hq
  exact List.mem_map.2 ⟨q, hq, hname q hmem g hg hmark⟩

lemma pairwise_distinctNames {grants : List Grant} (hplaced : ∀ g ∈ grants, g.Placed (·.name)) :
    (distinctNames grants).Pairwise fun v w => v.same w = false := by
  have hnodup := adds_putName.nodup_foldl hplaced [] List.nodup_nil
  refine List.pairwise_map.2 ((List.pairwise_map.1 hnodup).imp fun {g h} hne => ?_)
  rw [Bool.eq_false_iff]
  intro hsame
  obtain ⟨hc, hm⟩ := Value.same_iff.1 hsame
  rw [Value.asMember_asMember, Value.asMember_asMember] at hm
  have hc' : h.name.isCompound = false := by
    rw [← Value.isCompound_asMember, ← hm, hc]
  rw [Value.isCompound_asMember] at hc
  exact hne (by simp [mark, hc, hc', hm])

end Access

end AuthGate
