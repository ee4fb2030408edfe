import AuthGate.Proofs.Database.Deployment
import AuthGate.Proofs.Token.Shown

namespace AuthGate

open Token (IsId)

namespace Database

variable {ρ : ℕ → Except Failure Rows} {t u : Value}

def Identified (r : Except Failure Rows) : Prop :=
  ∀ rows, r = .ok rows → ∀ row ∈ rows, IsId (row.field "id")

lemma firstId_of_isId {row : Value} (h : IsId (row.field "id")) (rows : Rows) :
    firstId (row :: rows) = .ok (row.field "id") ∧ (row.field "id").isNull = false := by
  have hnull : (row.field "id").isNull = false := by
    obtain ⟨s, hs⟩ | ⟨n, -, -, hn⟩ := h
    · rw [hs]
      rfl
    · rw [hn]
      rfl
  refine ⟨?_, hnull⟩
  cases row with
  | obj fields => rfl
  | _ =>
    obtain ⟨s, hs⟩ | ⟨n, -, -, hn⟩ := h
    · cases hs
    · cases hn

/-- The ends of a rotation, with what it sends: a new record, none, or a failure. -/
inductive Rotated (t u : Value) (ρ : ℕ → Except Failure Rows) :
    Except Failure (Option Value) → List Query → Prop
  | unopened {f} : ρ 0 = .error f → Rotated t u ρ (.error f) [.begin, .rollback]
  | unrevoked {r f} : ρ 0 = .ok r → ρ 1 = .error f →
      Rotated t u ρ (.error f) [.begin, revokeQuery t u, .rollback]
  | refused {r r'} : ρ 0 = .ok r → ρ 1 = .ok [] → ρ 2 = .ok r' →
      Rotated t u ρ (.ok none) [.begin, revokeQuery t u, .commit]
  | refusedInVain {r f} : ρ 0 = .ok r → ρ 1 = .ok [] → ρ 2 = .error f →
      Rotated t u ρ (.error f) [.begin, revokeQuery t u, .commit, .rollback]
  | unissued {r row rows f} : ρ 0 = .ok r → ρ 1 = .ok (row :: rows) →
      (ρ 2 = .error f ∨ ρ 2 = .ok []) →
      Rotated t u ρ (.error f) [.begin, revokeQuery t u, issueQuery u, .rollback]
  | renewed {r row rows row' rows' r'} : ρ 0 = .ok r → ρ 1 = .ok (row :: rows) →
      ρ 2 = .ok (row' :: rows') → ρ 3 = .ok r' →
      Rotated t u ρ (.ok (some (row'.field "id")))
        [.begin, revokeQuery t u, issueQuery u, .commit]
  | renewedInVain {r row rows row' rows' f} : ρ 0 = .ok r → ρ 1 = .ok (row :: rows) →
      ρ 2 = .ok (row' :: rows') → ρ 3 = .error f →
      Rotated t u ρ (.error f) [.begin, revokeQuery t u, issueQuery u, .commit, .rollback]

lemma rotated (t u : Value) (h : Identified (ρ 2)) :
    Rotated t u ρ ((rotation t u).enclosed.ends ρ) ((rotation t u).enclosed.sent ρ) := by
  rw [Work.enclosed, Work.ends, Work.sent]
  cases h0 : ρ 0 with
  | error f => exact .unopened h0
  | ok r =>
    simp only [rotation, Work.query, Work.closing, Work.ends, Work.sent]
    cases h1 : ρ 1 with
    | error f => exact .unrevoked h0 h1
    | ok rows =>
      cases rows with
      | nil =>
        simp only [List.isEmpty_nil, if_true, Work.closing, Work.ends, Work.sent]
        cases h2 : ρ 2 with
        | error f => exact .refusedInVain h0 h1 h2
        | ok r' => exact .refused h0 h1 h2
      | cons row rows =>
        simp only [List.isEmpty_cons, Bool.false_eq_true, if_false, Work.closing, Work.ends,
          Work.sent]
        cases h2 : ρ 2 with
        | error f => exact .unissued h0 h1 (.inl h2)
        | ok rows' =>
          cases rows' with
          | nil => exact .unissued h0 h1 (.inr h2)
          | cons row' rows' =>
            -- Only here is an id read from a row.
            obtain ⟨hid, hnull⟩ := firstId_of_isId (h _ h2 row' List.mem_cons_self) rows'
            simp only [hid, Except.map, hnull, Bool.false_eq_true, if_false, Work.closing,
              Work.ends, Work.sent]
            cases h3 : ρ 3 with
            | error f => exact .renewedInVain h0 h1 h2 h3
            | ok r' => exact .renewed h0 h1 h2 h3

namespace Rotated

variable {result : Except Failure (Option Value)} {sent : List Query} {v : Value}

lemma ends_none (h : Rotated t u ρ result sent) :
    result = .ok none ↔ (∃ r, ρ 0 = .ok r) ∧ ρ 1 = .ok [] ∧ ∃ r, ρ 2 = .ok r := by
  cases h with
  | refused h0 h1 h2 => simp [h0, h1, h2]
  | unissued h0 h1 => simp [h1]
  | _ => simp [*]

lemma ends_some (h : Rotated t u ρ result sent) : result = .ok (some v) ↔
    (∃ r, ρ 0 = .ok r) ∧ (∃ row rows, ρ 1 = .ok (row :: rows)) ∧
      (∃ row rows, ρ 2 = .ok (row :: rows) ∧ row.field "id" = v) ∧ ∃ r, ρ 3 = .ok r := by
  cases h with
  | renewed h0 h1 h2 h3 => simp [h0, h1, h2, h3]
  | unissued h0 h1 h2 =>
    refine iff_of_false nofun ?_
    rintro ⟨-, -, ⟨row, rows, h, -⟩, -⟩
    rcases h2 with h2 | h2
    · cases h.symm.trans h2
    · cases h.symm.trans h2
  | _ => simp [*]

lemma sent_some (h : Rotated t u ρ result sent) (hr : result = .ok (some v)) :
    sent = [.begin, revokeQuery t u, issueQuery u, .commit] := by
  cases h with
  | renewed => rfl
  | _ => cases hr

lemma issueQuery_notMem (t u : Value) :
    issueQuery u ∉ [.begin, revokeQuery t u, .commit, .rollback] := by
  have htext : (issueQuery .null).text ∉
      ["BEGIN", (revokeQuery .null .null).text, "COMMIT", "ROLLBACK"] := by decide
  intro h
  exact htext (List.mem_map_of_mem (f := Query.text) h)

lemma issues (h : Rotated t u ρ result sent) (hsent : issueQuery u ∈ sent) :
    [.begin, revokeQuery t u, issueQuery u] <+: sent ∧ (∃ r, ρ 0 = .ok r) ∧
      ∃ row rows, ρ 1 = .ok (row :: rows) := by
  have hnot := issueQuery_notMem t u
  cases h with
  | unissued h0 h1 => exact ⟨⟨_, rfl⟩, ⟨_, h0⟩, _, _, h1⟩
  | renewed h0 h1 => exact ⟨⟨_, rfl⟩, ⟨_, h0⟩, _, _, h1⟩
  | renewedInVain h0 h1 => exact ⟨⟨_, rfl⟩, ⟨_, h0⟩, _, _, h1⟩
  | _ => simp_all

end Rotated

variable {db : Database}

lemma rotate_eq_ok (h : db.Connects) (t u : Value) {o : Option Value} :
    (rotate t u db).result = .ok o ↔ (rotation t u).enclosed.ends db.reply = .ok o :=
  (transaction_of_connects h (rotation t u)).1 o

lemma rotate_eq_none (h : Identified (db.reply 2)) (t u : Value) :
    (rotate t u db).result = .ok none ↔ db.Connects ∧ (∃ r, db.reply 0 = .ok r) ∧
      db.reply 1 = .ok [] ∧ ∃ r, db.reply 2 = .ok r := by
  by_cases hc : db.Connects
  · rw [rotate_eq_ok hc, (rotated t u h).ends_none]
    exact (and_iff_right hc).symm
  · obtain ⟨⟨f, hf⟩, -⟩ := transaction_of_not_connects hc (rotation t u)
    rw [rotate, hf]
    exact iff_of_false nofun fun h => hc h.1

lemma rotate_eq_some (h : Identified (db.reply 2)) (t u : Value) {v : Value} :
    (rotate t u db).result = .ok (some v) ↔ db.Connects ∧ (∃ r, db.reply 0 = .ok r) ∧
      (∃ row rows, db.reply 1 = .ok (row :: rows)) ∧
      (∃ row rows, db.reply 2 = .ok (row :: rows) ∧ row.field "id" = v) ∧
      ∃ r, db.reply 3 = .ok r := by
  by_cases hc : db.Connects
  · rw [rotate_eq_ok hc, (rotated t u h).ends_some]
    exact (and_iff_right hc).symm
  · obtain ⟨⟨f, hf⟩, -⟩ := transaction_of_not_connects hc (rotation t u)
    rw [rotate, hf]
    exact iff_of_false nofun fun h => hc h.1

def renewal (t u : Value) : List Event :=
  [.connect, .clientQuery .begin, .clientQuery (revokeQuery t u), .clientQuery (issueQuery u),
    .clientQuery .commit, .release]

lemma rotate_trace (h : Identified (db.reply 2)) {t u v : Value}
    (hr : (rotate t u db).result = .ok (some v)) :
    (rotate t u db).state.trace = (db.making ++ renewal t u).reverse ++ db.trace := by
  have hc := ((rotate_eq_some h t u).1 hr).1
  have hsent := (rotated t u h).sent_some ((rotate_eq_ok hc t u).1 hr)
  rw [rotate, (transaction_of_connects hc (rotation t u)).2, dealings, hsent]
  simp [renewal]

end Database

namespace Deployment

open Database (Event)

variable {d : Deployment} {script : Script}

def Script.reply (s : Script) (k : ℕ) : Except Failure Rows := s.outcomes.getD k (.ok [])

def Script.Identified (s : Script) : Prop := ∀ k, Database.Identified (s.reply k)

lemma Script.Identified.ready (hid : script.Identified) (d : Deployment) (k : ℕ) :
    Database.Identified ((d.ready script).reply k) := hid k

lemma step_rotate (d : Deployment) (script : Script) (tokenId userId : Value) :
    (d.step script (.rotate tokenId userId)).1.result =
        ((Database.rotate tokenId userId (d.ready script)).result.map (·.getD .null)).map .value ∧
      (d.step script (.rotate tokenId userId)).1.trace =
        (Database.rotate tokenId userId (d.ready script)).state.trace.reverse := by
  obtain ⟨hresult, hstate⟩ :=
    Database.map_run (·.getD .null) (Database.rotate tokenId userId) (d.ready script)
  exact ⟨congrArg (Except.map Answer.value) hresult, congrArg (fun db => db.trace.reverse) hstate⟩

lemma ne_null_of_rotate (hid : script.Identified) {d : Deployment} {tokenId userId v : Value}
    (h : (Database.rotate tokenId userId (d.ready script)).result = .ok (some v)) : v ≠ .null := by
  have hsome := Database.rotate_eq_some (hid.ready d 2) tokenId userId (v := v)
  obtain ⟨-, -, -, ⟨row, rows, hrows, rfl⟩, -⟩ := hsome.1 h
  intro hnull
  have hne := (Database.firstId_of_isId (hid 2 _ hrows row List.mem_cons_self) rows).2
  rw [hnull] at hne
  cases hne

lemma rotate_null (hid : script.Identified) (d : Deployment) (tokenId userId : Value) :
    (d.step script (.rotate tokenId userId)).1.result = .ok (.value .null) ↔
      (d.ready script).Connects ∧ (∃ rows, script.reply 0 = .ok rows) ∧ script.reply 1 = .ok [] ∧
        ∃ rows, script.reply 2 = .ok rows := by
  have hnone := Database.rotate_eq_none (hid.ready d 2) tokenId userId
  rw [(step_rotate d script tokenId userId).1]
  refine Iff.trans ?_ hnone
  cases hr : (Database.rotate tokenId userId (d.ready script)).result with
  | error f => exact iff_of_false nofun nofun
  | ok o =>
    cases o with
    | none => exact iff_of_true rfl rfl
    | some v =>
      refine iff_of_false (fun h => ne_null_of_rotate hid hr ?_) nofun
      exact Answer.value.inj (Except.ok.inj h)

lemma rotate_value (hid : script.Identified) (d : Deployment) (tokenId userId : Value) {v : Value}
    (hv : v ≠ .null) :
    (d.step script (.rotate tokenId userId)).1.result = .ok (.value v) ↔
      (d.ready script).Connects ∧ (∃ rows, script.reply 0 = .ok rows) ∧
        (∃ row rows, script.reply 1 = .ok (row :: rows)) ∧
        (∃ row rows, script.reply 2 = .ok (row :: rows) ∧ row.field "id" = v) ∧
        ∃ rows, script.reply 3 = .ok rows := by
  have hsome := Database.rotate_eq_some (hid.ready d 2) tokenId userId (v := v)
  rw [(step_rotate d script tokenId userId).1]
  refine Iff.trans ?_ hsome
  cases hr : (Database.rotate tokenId userId (d.ready script)).result with
  | error f => exact iff_of_false nofun nofun
  | ok o =>
    cases o with
    | none =>
      refine iff_of_false (fun h => hv ?_) nofun
      exact (Answer.value.inj (Except.ok.inj h)).symm
    | some w =>
      constructor
      · intro h
        exact congrArg (fun v => Except.ok (some v)) (Answer.value.inj (Except.ok.inj h))
      · intro h
        exact congrArg (fun v => Except.ok (Answer.value v)) (Option.some.inj (Except.ok.inj h))

lemma rotate_asks (h : (d.ready script).Connects) (tokenId userId : Value) :
    (d.step script (.rotate tokenId userId)).1.trace =
      (d.ready script).making ++ [Event.connect] ++
        ((Database.rotation tokenId userId).enclosed.sent script.reply).map .clientQuery ++
          [.release] := by
  rw [(step_rotate d script tokenId userId).2, Database.rotate,
    (Database.transaction_of_connects h _).2, ready, List.append_nil, List.reverse_reverse]
  rfl

lemma rotate_asks_unconnected (h : ¬ (d.ready script).Connects) (tokenId userId : Value) :
    (∃ f, (d.step script (.rotate tokenId userId)).1.result = .error f) ∧
      (d.step script (.rotate tokenId userId)).1.trace ⊆
        (d.ready script).making ++ [Event.connect] := by
  obtain ⟨⟨f, hf⟩, events, hsub, htrace⟩ :=
    Database.transaction_of_not_connects h (Database.rotation tokenId userId)
  rw [(step_rotate d script tokenId userId).1, (step_rotate d script tokenId userId).2,
    Database.rotate, hf, htrace, ready, List.append_nil, List.reverse_reverse]
  exact ⟨⟨f, rfl⟩, hsub⟩

lemma of_mem_making {db : Database} {e : Event} (h : e ∈ db.making ++ [Event.connect]) :
    e ≠ .release ∧ (∀ q, e ≠ .query q) ∧ ∀ q, e ≠ .clientQuery q := by
  have hmaking : e = .onError ∨ e = .connect ∨ ∃ c, e = .newPool c := by
    rw [Database.making] at h
    split at h
    · obtain hnew | hrest := List.mem_cons.1 h
      · exact .inr (.inr ⟨_, hnew⟩)
      · exact (List.mem_cons.1 hrest).imp_right fun h => .inl (List.mem_singleton.1 h)
    · exact .inr (.inl (List.mem_singleton.1 h))
  obtain rfl | rfl | ⟨c, rfl⟩ := hmaking
  all_goals simp

lemma cases_of_mem_trace {tokenId userId : Value} {e : Event}
    (h : e ∈ (d.step script (.rotate tokenId userId)).1.trace) :
    e ∈ (d.ready script).making ++ [Event.connect] ∨ (d.ready script).Connects ∧ (e = .release ∨
      ∃ q ∈ (Database.rotation tokenId userId).enclosed.sent script.reply, e = .clientQuery q) := by
  by_cases hc : (d.ready script).Connects
  · rw [rotate_asks hc] at h
    obtain h | hrelease := List.mem_append.1 h
    · obtain hbefore | hsent := List.mem_append.1 h
      · exact .inl hbefore
      · obtain ⟨q, hq, rfl⟩ := List.mem_map.1 hsent
        exact .inr ⟨hc, .inr ⟨q, hq, rfl⟩⟩
    · exact .inr ⟨hc, .inl (List.mem_singleton.1 hrelease)⟩
  · exact .inl ((rotate_asks_unconnected hc tokenId userId).2 h)

structure Rotates (d : Deployment) (script : Script) (tokenId userId : Value)
    (report : Report) : Prop where
  refused : report.result = .ok (.value .null) ↔ (d.ready script).Connects ∧
    (∃ rows, script.reply 0 = .ok rows) ∧ script.reply 1 = .ok [] ∧
      ∃ rows, script.reply 2 = .ok rows
  renewed : ∀ v, v ≠ .null → (report.result = .ok (.value v) ↔ (d.ready script).Connects ∧
    (∃ rows, script.reply 0 = .ok rows) ∧ (∃ row rows, script.reply 1 = .ok (row :: rows)) ∧
      (∃ row rows, script.reply 2 = .ok (row :: rows) ∧ row.field "id" = v) ∧
        ∃ rows, script.reply 3 = .ok rows)
  value : ∀ answer, report.result = .ok answer → ∃ v, answer = .value v
  issued : .clientQuery (Database.issueQuery userId) ∈ report.trace →
    (∃ rows, script.reply 0 = .ok rows) ∧ (∃ row rows, script.reply 1 = .ok (row :: rows)) ∧
      [.connect, .clientQuery .begin, .clientQuery (Database.revokeQuery tokenId userId),
        .clientQuery (Database.issueQuery userId)] <:+: report.trace
  onClient : ∀ q, .query q ∉ report.trace
  released : (d.ready script).Connects →
    ∃ events, report.trace = events ++ [.release] ∧ .release ∉ events
  unconnected : ¬ (d.ready script).Connects → (∃ f, report.result = .error f) ∧
    .release ∉ report.trace ∧ ∀ q, .clientQuery q ∉ report.trace

lemma issued_of_rotate (hid : script.Identified) {d : Deployment} {tokenId userId : Value}
    (hissue : .clientQuery (Database.issueQuery userId) ∈
      (d.step script (.rotate tokenId userId)).1.trace) :
    (∃ rows, script.reply 0 = .ok rows) ∧ (∃ row rows, script.reply 1 = .ok (row :: rows)) ∧
      [.connect, .clientQuery .begin, .clientQuery (Database.revokeQuery tokenId userId),
        .clientQuery (Database.issueQuery userId)] <:+:
          (d.step script (.rotate tokenId userId)).1.trace := by
  obtain hbefore | ⟨hc, hrelease | ⟨q, hsent, hq⟩⟩ := cases_of_mem_trace hissue
  · exact absurd rfl ((of_mem_making hbefore).2.2 _)
  · cases hrelease
  · rw [← Event.clientQuery.inj hq] at hsent
    obtain ⟨⟨rest, hrest⟩, hbegun, hrevoked⟩ :=
      (Database.rotated tokenId userId (hid 2)).issues hsent
    refine ⟨hbegun, hrevoked, (d.ready script).making, rest.map .clientQuery ++ [.release], ?_⟩
    rw [rotate_asks hc, ← hrest]
    simp

lemma rotates (hid : script.Identified) (d : Deployment) (tokenId userId : Value) :
    d.Rotates script tokenId userId (d.step script (.rotate tokenId userId)).1 where
  refused := rotate_null hid d tokenId userId
  renewed _ hv := rotate_value hid d tokenId userId hv
  value answer h := by
    rw [(step_rotate d script tokenId userId).1] at h
    obtain ⟨v, -, hv⟩ := Except.map_eq_ok.1 h
    exact ⟨v, hv.symm⟩
  issued := issued_of_rotate hid
  onClient q hq := by
    obtain hbefore | ⟨-, hrelease | ⟨q', -, hq'⟩⟩ := cases_of_mem_trace hq
    · exact (of_mem_making hbefore).2.1 q rfl
    · cases hrelease
    · cases hq'
  released h := by
    rw [rotate_asks h]
    refine ⟨_, rfl, fun hmem => ?_⟩
    obtain hbefore | hsent := List.mem_append.1 hmem
    · exact (of_mem_making hbefore).1 rfl
    · obtain ⟨q, -, hq⟩ := List.mem_map.1 hsent
      cases hq
  unconnected h := by
    obtain ⟨herror, hsub⟩ := rotate_asks_unconnected h tokenId userId
    exact ⟨herror, fun hmem => (of_mem_making (hsub hmem)).1 rfl,
      fun q hmem => (of_mem_making (hsub hmem)).2.2 q rfl⟩

end Deployment

end AuthGate
