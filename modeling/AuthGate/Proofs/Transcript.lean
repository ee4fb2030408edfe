import AuthGate.Proofs.Program

/-! Transcripts: what a run asks of its stores and what it is told, call by call. A program in parts
asks what its parts ask, in turn. -/

namespace AuthGate

def failureOf {α : Type} : Except Failure α → Option Failure
  | .ok _ => none
  | .error f => some f

structure Exchange where
  call : Call
  answer : Except Failure call.Answer
  lines : List Log.Line

def Exchange.failure? (e : Exchange) : Option Failure := failureOf e.answer

namespace Program

variable {α β σ : Type} {stores : Stores σ}

def exchange (stores : Stores σ) (c : Call) (s : σ) : Exchange :=
  ⟨c, (stores c s).result, (stores c s).lines⟩

def transcript (stores : Stores σ) : Program α → σ → List Exchange
  | done _, _ => []
  | write _ n, s => n.transcript stores s
  | call c n, s =>
    exchange stores c s :: (n (stores c s).result).transcript stores (stores c s).state

lemma transcript_follow (p : Program α) (f : Except Failure α → Program β) (s : σ) :
    (p.follow f).transcript stores s = p.transcript stores s ++
      (f (p.run stores s).result).transcript stores (p.run stores s).state := by
  induction p generalizing s with
  | done r => rfl
  | write l n ih => exact ih s
  | call c n ih => simp only [follow, transcript, run, ih, List.cons_append]

lemma result_attempt (p : Program α) (s : σ) :
    (p.attempt.run stores s).result = .ok (p.run stores s).result := by
  rw [run_attempt]

lemma state_attempt (p : Program α) (s : σ) :
    (p.attempt.run stores s).state = (p.run stores s).state := by
  rw [run_attempt]

lemma transcript_attempt (p : Program α) (s : σ) :
    p.attempt.transcript stores s = p.transcript stores s := by
  rw [attempt_eq_follow, transcript_follow]
  exact List.append_nil _

lemma transcript_bind_ok {p : Program α} {s : σ} {a : α} (h : (p.run stores s).result = .ok a)
    (f : α → Program β) : (p.bind f).transcript stores s =
      p.transcript stores s ++ (f a).transcript stores (p.run stores s).state := by
  rw [bind_eq_follow, transcript_follow, h]
  rfl

lemma transcript_bind_error {p : Program α} {s : σ} {e : Failure}
    (h : (p.run stores s).result = .error e) (f : α → Program β) :
    (p.bind f).transcript stores s = p.transcript stores s := by
  rw [bind_eq_follow, transcript_follow, h]
  exact List.append_nil _

lemma Quiet.transcript {P : Except Failure α → Prop} {p : Program α} (h : p.Quiet P) (s : σ) :
    p.transcript stores s = [] := by
  induction h with
  | done _ => rfl
  | write _ ih => exact ih

lemma transcript_bind_quiet {f : α → Program β} (hf : ∀ a, (f a).Quiet fun _ => True)
    (p : Program α) (s : σ) : (p.bind f).transcript stores s = p.transcript stores s := by
  cases h : (p.run stores s).result with
  | ok a => rw [transcript_bind_ok h, (hf a).transcript, List.append_nil]
  | error e => rw [transcript_bind_error h]

lemma transcript_attemptAll_cons (p : Program α) (ps : List (Except Failure (Program α))) (s : σ) :
    (attemptAll (.ok p :: ps)).transcript stores s = p.transcript stores s ++
      (attemptAll ps).transcript stores (p.run stores s).state := by
  rw [attemptAll, bind_eq, transcript_bind_ok (result_attempt p s), transcript_attempt,
    state_attempt, bind_eq]
  exact congrArg _ (transcript_bind_quiet (fun _ => .done trivial) _ _)

def after (stores : Stores σ) (cs : List Call) (s : σ) : σ :=
  cs.foldl (fun s c => (stores c s).state) s

lemma after_append (cs cs' : List Call) (s : σ) :
    after stores (cs ++ cs') s = after stores cs' (after stores cs s) :=
  List.foldl_append

lemma state_eq_after (p : Program α) (s : σ) :
    (p.run stores s).state = after stores ((p.transcript stores s).map Exchange.call) s := by
  induction p generalizing s with
  | done r => rfl
  | write l n ih => exact ih s
  | call c n ih => exact ih _ _

inductive Silent : Program α → Prop
  | done {r} : Silent (done r)
  | call {c n} : (∀ r, Silent (n r)) → Silent (call c n)

namespace Silent

variable {p : Program α}

lemma ask (c : Call) : (ask c).Silent := .call fun _ => .done

lemma follow {f : Except Failure α → Program β} (h : p.Silent) (hf : ∀ r, (f r).Silent) :
    (p.follow f).Silent := by
  induction h with
  | done => exact hf _
  | call _ ih => exact .call ih

lemma bind {f : α → Program β} (h : p.Silent) (hf : ∀ a, (f a).Silent) : (p.bind f).Silent := by
  rw [bind_eq_follow]
  refine h.follow fun r => ?_
  cases r with
  | ok a => exact hf a
  | error e => exact .done

lemma attempt (h : p.Silent) : p.attempt.Silent := by
  rw [attempt_eq_follow]
  exact h.follow fun _ => .done

lemma all {ps : List (Except Failure (Program α))} (h : ∀ p, .ok p ∈ ps → p.Silent) :
    (all ps).Silent := by
  refine bind ?_ fun _ => .done
  induction ps with
  | nil => exact .done
  | cons x ps ih =>
    cases x with
    | error f => exact .done
    | ok p => exact (h p List.mem_cons_self).attempt.bind fun _ =>
        (ih fun q hq => h q (List.mem_cons_of_mem _ hq)).bind fun _ => .done

lemma lines (h : p.Silent) (s : σ) :
    (p.run stores s).lines = (p.transcript stores s).flatMap Exchange.lines := by
  induction h generalizing s with
  | done => rfl
  | call _ ih => simp only [run, transcript, List.flatMap_cons, ih, exchange]

end Silent

end Program

end AuthGate
