import AuthGate.Service.Program
import Mathlib.Tactic.Common

namespace AuthGate.Program

variable {α β σ : Type} {stores : Stores σ}

@[simp] lemma bind_eq (p : Program α) (f : α → Program β) : p >>= f = p.bind f := rfl

@[simp] lemma bind_ok (a : α) (f : α → Program β) : (done (.ok a)).bind f = f a := rfl

@[simp] lemma bind_error (e : Failure) (f : α → Program β) :
    (done (.error e)).bind f = done (.error e) := rfl

@[simp] lemma bind_write (l : Log.Line) (n : Program α) (f : α → Program β) :
    (write l n).bind f = write l (n.bind f) := rfl

@[simp] lemma bind_call (c : Call) (n : Except Failure c.Answer → Program α) (f : α → Program β) :
    (call c n).bind f = call c fun r => (n r).bind f := rfl

@[simp] lemma run_done (r : Except Failure α) (s : σ) : (done r).run stores s = ⟨r, [], s⟩ := rfl

def follow : Program α → (Except Failure α → Program β) → Program β
  | done r, f => f r
  | write l n, f => write l (n.follow f)
  | call c n, f => call c fun r => (n r).follow f

lemma follow_done (p : Program α) : p.follow done = p := by
  induction p with
  | done r => rfl
  | write l n ih => rw [follow, ih]
  | call c n ih => simp only [follow, ih]

lemma follow_follow {γ : Type} (p : Program α) (f : Except Failure α → Program β)
    (g : Except Failure β → Program γ) :
    (p.follow f).follow g = p.follow fun r => (f r).follow g := by
  induction p with
  | done r => rfl
  | write l n ih => simp only [follow, ih]
  | call c n ih => simp only [follow, ih]

lemma bind_eq_follow (p : Program α) (f : α → Program β) :
    p.bind f = p.follow fun r => (done r).bind f := by
  induction p with
  | done r => rfl
  | write l n ih => rw [bind_write, ih, follow]
  | call c n ih => simp only [bind_call, ih, follow]

lemma attempt_eq_follow (p : Program α) : p.attempt = p.follow fun r => done (.ok r) := by
  induction p with
  | done r => rfl
  | write l n ih => rw [attempt, ih, follow]
  | call c n ih => simp only [attempt, ih, follow]

lemma run_follow (p : Program α) (f : Except Failure α → Program β) (s : σ) :
    (p.follow f).run stores s =
      let o := (f (p.run stores s).result).run stores (p.run stores s).state
      { o with lines := (p.run stores s).lines ++ o.lines } := by
  induction p generalizing s with
  | done r => rfl
  | write l n ih => simp only [follow, run, ih, List.cons_append]
  | call c n ih => simp only [follow, run, ih, List.append_assoc]

lemma run_bind (p : Program α) (f : α → Program β) (s : σ) : (p.bind f).run stores s =
    match (p.run stores s).result with
    | .ok a =>
      let o := (f a).run stores (p.run stores s).state
      { o with lines := (p.run stores s).lines ++ o.lines }
    | .error e => ⟨.error e, (p.run stores s).lines, (p.run stores s).state⟩ := by
  rw [bind_eq_follow, run_follow]
  cases (p.run stores s).result with
  | ok a => rfl
  | error e => simp only [bind_error, run_done, List.append_nil]

lemma result_bind_ne_ok {f : α → Program β} {b : β}
    (h : ∀ a s, ((f a).run stores s).result ≠ .ok b) (p : Program α) (s : σ) :
    ((p.bind f).run stores s).result ≠ .ok b := by
  rw [run_bind]
  cases (p.run stores s).result with
  | ok a => exact h a _
  | error e => simp

lemma run_state {R : σ → σ → Prop} (hrefl : ∀ s, R s s) (htrans : ∀ {a b c}, R a b → R b c → R a c)
    (hcall : ∀ c s, R s (stores c s).state) (p : Program α) (s : σ) :
    R s (p.run stores s).state := by
  induction p generalizing s with
  | done r => exact hrefl s
  | write l n ih => exact ih s
  | call c n ih => exact htrans (hcall c s) (ih _ _)

def StartsWith (p : Program α) (q : Program β) : Prop := ∃ f, p = q.follow f

namespace StartsWith

variable {p : Program α} {q : Program β}

lemma refl (q : Program β) : q.StartsWith q := ⟨done, q.follow_done.symm⟩

lemma follow {γ : Type} (h : p.StartsWith q) (f : Except Failure α → Program γ) :
    (p.follow f).StartsWith q := by
  obtain ⟨g, rfl⟩ := h
  exact ⟨_, follow_follow q g f⟩

lemma bind {γ : Type} (h : p.StartsWith q) (f : α → Program γ) : (p.bind f).StartsWith q := by
  rw [bind_eq_follow]
  exact h.follow _

lemma attempt (h : p.StartsWith q) : p.attempt.StartsWith q := by
  rw [attempt_eq_follow]
  exact h.follow _

end StartsWith

lemma run_ask (c : Call) (s : σ) : (ask c).run stores s = stores c s := by
  simp only [ask, run, List.append_nil]

lemma run_attempt (p : Program α) (s : σ) : p.attempt.run stores s =
    ⟨.ok (p.run stores s).result, (p.run stores s).lines, (p.run stores s).state⟩ := by
  rw [attempt_eq_follow, run_follow]
  simp only [run_done, List.append_nil]

lemma run_bind_ok {p : Program α} {s : σ} {a : α} (h : (p.run stores s).result = .ok a)
    (f : α → Program β) : (p.bind f).run stores s =
      let o := (f a).run stores (p.run stores s).state
      { o with lines := (p.run stores s).lines ++ o.lines } := by
  rw [run_bind, h]

lemma run_bind_error {p : Program α} {s : σ} {e : Failure} (h : (p.run stores s).result = .error e)
    (f : α → Program β) : (p.bind f).run stores s =
      ⟨.error e, (p.run stores s).lines, (p.run stores s).state⟩ := by
  rw [run_bind, h]

lemma result_bind_eq_ok {p : Program α} {f : α → Program β} {s : σ} {b : β} :
    ((p.bind f).run stores s).result = .ok b ↔ ∃ a, (p.run stores s).result = .ok a ∧
      ((f a).run stores (p.run stores s).state).result = .ok b := by
  rw [run_bind]
  cases (p.run stores s).result <;> simp

inductive Quiet (P : Except Failure α → Prop) : Program α → Prop
  | done {r} : P r → Quiet P (done r)
  | write {l n} : Quiet P n → Quiet P (write l n)

lemma quiet_log (m : Moment) (e : Log.Entry) : (log m e).Quiet fun _ => True := by
  rw [log]
  cases e.write m.wall with
  | ok l => exact .write (.done trivial)
  | error f => exact .done trivial

namespace Quiet

variable {P : Except Failure α → Prop} {Q : Except Failure β → Prop} {p : Program α}

lemma result (h : p.Quiet P) (s : σ) : P (p.run stores s).result := by
  induction h with
  | done h => exact h
  | write h ih => exact ih

lemma state (h : p.Quiet P) (s : σ) : (p.run stores s).state = s := by
  induction h with
  | done h => rfl
  | write h ih => exact ih

lemma result_eq {τ : Type} (h : p.Quiet P) (stores' : Stores τ) (s : σ) (s' : τ) :
    (p.run stores s).result = (p.run stores' s').result := by
  induction h with
  | done h => rfl
  | write h ih => exact ih

lemma follow {f : Except Failure α → Program β} (h : p.Quiet P) (hf : ∀ r, P r → (f r).Quiet Q) :
    (p.follow f).Quiet Q := by
  induction h with
  | done h => exact hf _ h
  | write h ih => exact .write ih

lemma bind {f : α → Program β} (h : p.Quiet P) (hok : ∀ a, P (.ok a) → (f a).Quiet Q)
    (herror : ∀ e, P (.error e) → Q (.error e)) : (p.bind f).Quiet Q := by
  rw [bind_eq_follow]
  refine h.follow fun r hr => ?_
  cases r with
  | ok a => exact hok a hr
  | error e => exact .done (herror e hr)

end Quiet

lemma state_bind_quiet {f : α → Program β} (hf : ∀ a, (f a).Quiet fun _ => True) (p : Program α)
    (s : σ) : ((p.bind f).run stores s).state = (p.run stores s).state := by
  rw [run_bind]
  cases (p.run stores s).result with
  | ok a => exact (hf a).state _
  | error e => rfl

/-- As long as the answers to its calls are of one kind, writes lines of one kind only and ends in a
result of one kind. -/
inductive Abides (A : (c : Call) → Except Failure c.Answer → Prop) (L : Log.Line → Prop)
    (P : Except Failure α → Prop) : Program α → Prop
  | done {r} : P r → Abides A L P (done r)
  | write {l n} : L l → Abides A L P n → Abides A L P (write l n)
  | call {c n} : (∀ r, A c r → Abides A L P (n r)) → Abides A L P (call c n)

namespace Abides

variable {A : (c : Call) → Except Failure c.Answer → Prop} {L : Log.Line → Prop}
  {P P' : Except Failure α → Prop} {Q : Except Failure β → Prop} {p : Program α}

lemma run (hA : ∀ c s, A c (stores c s).result) (hL : ∀ c s, ∀ l ∈ (stores c s).lines, L l)
    (h : p.Abides A L P) (s : σ) :
    P (p.run stores s).result ∧ ∀ l ∈ (p.run stores s).lines, L l := by
  induction h generalizing s with
  | done h => exact ⟨h, fun l hl => absurd hl List.not_mem_nil⟩
  | write hl _ ih =>
    refine ⟨(ih s).1, fun l hmem => ?_⟩
    rcases List.mem_cons.1 hmem with rfl | hmem
    · exact hl
    · exact (ih s).2 l hmem
  | @call c n _ ih =>
    have hrest := ih _ (hA c s) (stores c s).state
    refine ⟨hrest.1, fun l hmem => ?_⟩
    rcases List.mem_append.1 hmem with hmem | hmem
    · exact hL c s l hmem
    · exact hrest.2 l hmem

lemma follow {f : Except Failure α → Program β} (h : p.Abides A L P)
    (hf : ∀ r, P r → (f r).Abides A L Q) : (p.follow f).Abides A L Q := by
  induction h with
  | done h => exact hf _ h
  | write hl _ ih => exact .write hl ih
  | call _ ih => exact .call ih

lemma bind {f : α → Program β} (h : p.Abides A L P) (hok : ∀ a, P (.ok a) → (f a).Abides A L Q)
    (herror : ∀ e, P (.error e) → Q (.error e)) : (p.bind f).Abides A L Q := by
  rw [bind_eq_follow]
  refine h.follow fun r hr => ?_
  cases r with
  | ok a => exact hok a hr
  | error e => exact .done (herror e hr)

lemma attempt (h : p.Abides A L P) :
    p.attempt.Abides A L fun r => ∃ r', r = .ok r' ∧ P r' := by
  rw [attempt_eq_follow]
  exact h.follow fun r hr => .done ⟨r, rfl, hr⟩

lemma imp (h : p.Abides A L P) (hP : ∀ r, P r → P' r) : p.Abides A L P' := by
  rw [← follow_done p]
  exact h.follow fun r hr => .done (hP r hr)

lemma imp_lines {L' : Log.Line → Prop} (h : p.Abides A L P) (hL : ∀ l, L l → L' l) :
    p.Abides A L' P := by
  induction h with
  | done h => exact .done h
  | write hl _ ih => exact .write (hL _ hl) ih
  | call _ ih => exact .call ih

end Abides

lemma abides_ask {A : (c : Call) → Except Failure c.Answer → Prop} {L : Log.Line → Prop}
    (c : Call) : (ask c).Abides A L (A c) :=
  .call fun _ hr => .done hr

end AuthGate.Program
