import AuthGate.Proofs.Program

/-! Programs side by side. Two programs that write the same lines and make the same calls, whatever
related answers they get, cannot be told apart over stores that give related answers. -/

namespace AuthGate.Program

variable {α β σ : Type}

inductive Parallel (A : (c : Call) → Except Failure c.Answer → Except Failure c.Answer → Prop)
    (P : Except Failure α → Except Failure α → Prop) : Program α → Program α → Prop
  | done {r r'} : P r r' → Parallel A P (done r) (done r')
  | write {l n n'} : Parallel A P n n' → Parallel A P (write l n) (write l n')
  | call {c n n'} : (∀ r r', A c r r' → Parallel A P (n r) (n' r')) →
      Parallel A P (call c n) (call c n')

variable {A : (c : Call) → Except Failure c.Answer → Except Failure c.Answer → Prop}

abbrev Steady (A : (c : Call) → Except Failure c.Answer → Except Failure c.Answer → Prop)
    (p : Program α) : Prop :=
  p.Parallel A Eq p

namespace Parallel

variable {P : Except Failure α → Except Failure α → Prop}
  {Q : Except Failure β → Except Failure β → Prop} {p p' : Program α}

lemma follow {f f' : Except Failure α → Program β} (h : p.Parallel A P p')
    (hf : ∀ r r', P r r' → (f r).Parallel A Q (f' r')) :
    (p.follow f).Parallel A Q (p'.follow f') := by
  induction h with
  | done h => exact hf _ _ h
  | write _ ih => exact .write ih
  | call _ ih => exact .call ih

lemma run {stores : Stores σ} {R : σ → σ → Prop}
    (hA : ∀ c s s', R s s' → A c (stores c s).result (stores c s').result)
    (hL : ∀ c s s', R s s' → (stores c s).lines = (stores c s').lines)
    (hR : ∀ c s s', R s s' → R (stores c s).state (stores c s').state)
    (h : p.Parallel A P p') {s s' : σ} (hs : R s s') :
    P (p.run stores s).result (p'.run stores s').result ∧
      (p.run stores s).lines = (p'.run stores s').lines ∧
      R (p.run stores s).state (p'.run stores s').state := by
  induction h generalizing s s' with
  | done h => exact ⟨h, rfl, hs⟩
  | write _ ih =>
    obtain ⟨hr, hl, hs⟩ := ih hs
    exact ⟨hr, congrArg (List.cons _) hl, hs⟩
  | @call c n n' _ ih =>
    obtain ⟨hr, hl, hs'⟩ := ih _ _ (hA c s s' hs) (hR c s s' hs)
    exact ⟨hr, congrArg₂ _ (hL c s s' hs) hl, hs'⟩

end Parallel

section

variable {p : Program α}

lemma steady_done (r : Except Failure α) : (done r).Steady A := .done rfl

lemma steady_ask {c : Call} (h : ∀ r r', A c r r' → r = r') : (ask c).Steady A :=
  .call fun r r' hr => .done (h r r' hr)

lemma Quiet.steady {P : Except Failure α → Prop} (h : p.Quiet P) : p.Steady A := by
  induction h with
  | done _ => exact steady_done _
  | write _ ih => exact .write ih

lemma steady_log (m : Moment) (e : Log.Entry) : (log m e).Steady A := (quiet_log m e).steady

namespace Steady

lemma follow {f : Except Failure α → Program β} (h : p.Steady A) (hf : ∀ r, (f r).Steady A) :
    (p.follow f).Steady A := by
  refine Parallel.follow h ?_
  rintro r _ rfl
  exact hf r

lemma bind {f : α → Program β} (h : p.Steady A) (hf : ∀ a, (f a).Steady A) :
    (p.bind f).Steady A := by
  rw [bind_eq_follow]
  apply h.follow
  intro r
  cases r with
  | ok a => exact hf a
  | error e => exact steady_done _

lemma attempt (h : p.Steady A) : p.attempt.Steady A := by
  rw [attempt_eq_follow]
  exact h.follow fun r => steady_done _

end Steady

lemma steady_bind_ask {c : Call} {f : c.Answer → Program β} (hf : ∀ a, (f a).Steady A)
    (h : ∀ r r', A c r r' → (done r).bind f = (done r').bind f) : ((ask c).bind f).Steady A := by
  refine .call fun r r' hr => ?_
  rw [← h r r' hr]
  exact (steady_done r).bind hf

lemma steady_attemptAll {ps : List (Except Failure (Program α))}
    (h : ∀ p, .ok p ∈ ps → p.Steady A) : (attemptAll ps).Steady A := by
  induction ps with
  | nil => exact steady_done _
  | cons x ps ih =>
    have ih := ih fun p hp => h p (List.mem_cons_of_mem _ hp)
    cases x with
    | error f => exact steady_done _
    | ok p =>
      exact (Steady.attempt (h p List.mem_cons_self)).bind fun r => ih.bind fun rs => steady_done _

lemma steady_all {ps : List (Except Failure (Program α))} (h : ∀ p, .ok p ∈ ps → p.Steady A) :
    (all ps).Steady A :=
  (steady_attemptAll h).bind fun _ => steady_done _

end

end AuthGate.Program
