import AuthGate.Proofs.Except
import AuthGate.Proofs.Record
import AuthGate.Proofs.Request.Email
import AuthGate.Request.Body

namespace AuthGate

namespace Form

variable {form : List Field} {f : Field} {v : Value} {r : Record} {k : String} {p : Problem}

def Field.Fits (f : Field) (v : Value) : Prop :=
  ∃ s : String, v = .str s ∧ f.atLeast ≤ s.length ∧ s.length ≤ f.atMost ∧
    (f.isEmail = true → s.toList ∈ Email.expression.matches')

lemma Field.textProblems_eq_nil {s : String} : f.textProblems s = [] ↔ f.Fits (.str s) := by
  simp only [textProblems, Fits, ← Email.isAddress_iff, Value.str.injEq, exists_eq_left',
    List.append_eq_nil_iff, ite_eq_right_iff, List.cons_ne_nil, imp_false, Nat.not_lt,
    Bool.and_eq_true, Bool.not_eq_true', not_and, Bool.not_eq_false]
  rw [and_comm (a := s.length ≤ f.atMost), and_assoc]

lemma Field.problems_eq_nil : f.problems v = [] ↔ v = .undefined ∨ f.Fits v := by
  cases v with
  | undefined => simp [problems]
  | str s =>
    rw [problems, textProblems_eq_nil, or_iff_right]
    simp
  | _ => simp [problems, Fits]

inductive Offends (form : List Field) (r : Record) (k : String) : Prop where
  | missing (f : Field) (hf : f ∈ form) (hk : f.name = k) (h : r.get k = .undefined)
  | unknown (h : k ∈ r.keys) (hk : ∀ f ∈ form, f.name ≠ k)
  | wrong (f : Field) (hf : f ∈ form) (hk : f.name = k) (h : r.get k ≠ .undefined)
      (hfit : ¬ f.Fits (r.get k))

lemma isUndefined_iff : v.isUndefined = true ↔ v = .undefined := by
  cases v <;> simp [Value.isUndefined]

lemma mem_missing : (k, p) ∈ missing form r ↔
    p = .missing ∧ ∃ f ∈ form, f.name = k ∧ r.get k = .undefined := by
  rw [missing, List.mem_map]
  constructor
  · rintro ⟨f, hf, hp⟩
    obtain ⟨rfl, rfl⟩ := Prod.mk.inj hp
    obtain ⟨hf, h⟩ := List.mem_filter.1 hf
    exact ⟨rfl, f, hf, rfl, isUndefined_iff.1 h⟩
  · rintro ⟨rfl, f, hf, rfl, h⟩
    exact ⟨f, List.mem_filter.2 ⟨hf, isUndefined_iff.2 h⟩, rfl⟩

lemma mem_unknown : (k, p) ∈ unknown form r ↔
    p = .unknown ∧ k ∈ r.keys ∧ ∀ f ∈ form, f.name ≠ k := by
  have hknown (k : String) : (!form.any fun f => f.name = k) = true ↔ ∀ f ∈ form, f.name ≠ k := by
    simp
  rw [unknown, List.mem_map]
  constructor
  · rintro ⟨q, hq, hp⟩
    obtain ⟨rfl, rfl⟩ := Prod.mk.inj hp
    obtain ⟨hq, h⟩ := List.mem_filter.1 hq
    exact ⟨rfl, Record.mem_keys hq, (hknown _).1 h⟩
  · rintro ⟨rfl, hk, h⟩
    obtain ⟨q, hq, rfl⟩ := List.mem_map.1 hk
    exact ⟨q, List.mem_filter.2 ⟨hq, (hknown _).2 h⟩, rfl⟩

lemma mem_wrong : (k, p) ∈ wrong form r ↔
    ∃ f ∈ form, f.name = k ∧ p ∈ f.problems (r.get k) := by
  rw [wrong, List.mem_flatMap]
  constructor
  · rintro ⟨f, hf, hp⟩
    obtain ⟨q, hq, hp⟩ := List.mem_map.1 hp
    obtain ⟨rfl, rfl⟩ := Prod.mk.inj hp
    exact ⟨f, hf, rfl, hq⟩
  · rintro ⟨f, hf, rfl, hp⟩
    exact ⟨f, hf, List.mem_map_of_mem hp⟩

lemma offends_iff : Offends form r k ↔ ∃ p, (k, p) ∈ faults form r := by
  simp only [faults, List.mem_append, mem_missing, mem_unknown, mem_wrong]
  constructor
  · rintro (⟨f, hf, rfl, h⟩ | ⟨h, hk⟩ | ⟨f, hf, rfl, h, hfit⟩)
    · exact ⟨.missing, .inl (.inl ⟨rfl, f, hf, rfl, h⟩)⟩
    · exact ⟨.unknown, .inl (.inr ⟨rfl, h, hk⟩)⟩
    · have hne : f.problems (r.get f.name) ≠ [] := fun hnil =>
        (Field.problems_eq_nil.1 hnil).elim h hfit
      obtain ⟨p, hp⟩ := List.exists_mem_of_ne_nil _ hne
      exact ⟨p, .inr ⟨f, hf, rfl, hp⟩⟩
  · rintro ⟨p, (⟨-, f, hf, rfl, h⟩ | ⟨-, h, hk⟩) | ⟨f, hf, rfl, hp⟩⟩
    · exact .missing f hf rfl h
    · exact .unknown h hk
    · have hnil : ¬ f.problems (r.get f.name) = [] := List.ne_nil_of_mem hp
      rw [Field.problems_eq_nil, not_or] at hnil
      exact .wrong f hf rfl hnil.1 hnil.2

lemma faults_eq_nil : faults form r = [] ↔ ∀ k, ¬ Offends form r k := by
  simp only [offends_iff, List.eq_nil_iff_forall_not_mem, Prod.forall, not_exists]

lemma forall_not_offends : (∀ k, ¬ Offends form r k) ↔
    (∀ k, k ∈ r.keys ↔ ∃ f ∈ form, f.name = k) ∧ ∀ f ∈ form, f.Fits (r.get f.name) := by
  constructor
  · intro h
    have hfits : ∀ f ∈ form, r.get f.name ≠ .undefined ∧ f.Fits (r.get f.name) := by
      intro f hf
      by_cases hu : r.get f.name = .undefined
      · exact absurd (.missing f hf rfl hu) (h f.name)
      · by_contra hfit
        exact h f.name (.wrong f hf rfl hu fun hf => hfit ⟨hu, hf⟩)
    refine ⟨fun k => ⟨fun hk => ?_, ?_⟩, fun f hf => (hfits f hf).2⟩
    · by_contra hno
      exact h k (.unknown hk fun f hf hname => hno ⟨f, hf, hname⟩)
    · rintro ⟨f, hf, rfl⟩
      by_contra hk
      exact (hfits f hf).1 (Record.get_eq_undefined hk)
  · rintro ⟨hkeys, hfits⟩ k (⟨f, hf, rfl, h⟩ | ⟨h, hk⟩ | ⟨f, hf, rfl, -, hfit⟩)
    · obtain ⟨s, hs, -⟩ := hfits f hf
      rw [h] at hs
      cases hs
    · obtain ⟨f, hf, hname⟩ := (hkeys k).1 h
      exact hk f hf hname
    · exact hfit (hfits f hf)

lemma check_of_eq_nil (h : faults form r = []) : check form (.obj r) = .ok r :=
  if_pos (List.isEmpty_iff.2 h)

lemma check_of_ne_nil (h : faults form r ≠ []) :
    check form (.obj r) = .error (refuse (faults form r)) :=
  if_neg fun hnil => h (List.isEmpty_iff.1 hnil)

lemma check_eq_ok (hform : form ≠ []) {body : Value} : check form body = .ok r ↔ body = .obj r ∧
    (∀ k, k ∈ r.keys ↔ ∃ f ∈ form, f.name = k) ∧ ∀ f ∈ form, f.Fits (r.get f.name) := by
  rw [← forall_not_offends, ← faults_eq_nil]
  cases body with
  | obj fields =>
    rw [Value.obj.injEq]
    by_cases h : faults form fields = []
    · rw [check_of_eq_nil h, Except.ok.injEq]
      constructor
      · rintro rfl
        exact ⟨rfl, h⟩
      · exact And.left
    · rw [check_of_ne_nil h]
      constructor
      · intro hr
        cases hr
      · rintro ⟨rfl, hr⟩
        exact absurd hr h
  | date ms =>
    -- A date is looked at as an object without fields, so a field is missing.
    obtain ⟨f, rest, rfl⟩ := List.exists_cons_of_ne_nil hform
    have hmissing : Offends (f :: rest) [] f.name := .missing f List.mem_cons_self rfl rfl
    have hcheck : check (f :: rest) (.date ms) = .error (refuse (faults (f :: rest) [])) :=
      check_of_ne_nil fun hnil => faults_eq_nil.1 hnil f.name hmissing
    simp [hcheck]
  | _ => simp [check, fields?]

lemma check_cases (form : List Field) (body : Value) : (∃ r, check form body = .ok r) ∨
    ∃ details, check form body = .error (.validation "Validation error." details) := by
  rw [check]
  cases fields? body with
  | none => exact .inr ⟨_, rfl⟩
  | some r =>
    dsimp only
    split_ifs
    · exact .inl ⟨r, rfl⟩
    · exact .inr ⟨_, rfl⟩

lemma check_loginForm {body : Value} : check loginForm body = .ok r ↔ body = .obj r ∧
    (∀ k, k ∈ r.keys ↔ k = "email" ∨ k = "password") ∧
    (∃ email, r.get "email" = .str email ∧ email.length ≤ 320 ∧
      email.toList ∈ Email.expression.matches') ∧
    ∃ password, r.get "password" = .str password ∧ 1 ≤ password.length ∧
      password.length ≤ 1024 := by
  rw [check_eq_ok (by decide)]
  simp only [loginForm, List.mem_cons, List.not_mem_nil, or_false, exists_eq_or_imp,
    exists_eq_left, forall_eq_or_imp, forall_eq, Field.Fits, Nat.zero_le, true_and,
    Bool.false_eq_true, false_imp_iff, and_true, forall_const, eq_comm (a := "email"),
    eq_comm (a := "password")]

lemma check_refreshForm {body : Value} : check refreshForm body = .ok r ↔ body = .obj r ∧
    (∀ k, k ∈ r.keys ↔ k = "refresh_token") ∧
    ∃ token, r.get "refresh_token" = .str token ∧ 1 ≤ token.length ∧ token.length ≤ 8192 := by
  rw [check_eq_ok (by decide)]
  simp only [refreshForm, List.mem_singleton, exists_eq_left, forall_eq, Field.Fits,
    Bool.false_eq_true, false_imp_iff, and_true, eq_comm (a := "refresh_token")]

lemma ofBody_eq_ok {body : Value} {login : Login} : Login.ofBody body = .ok login ↔
    ∃ r, check loginForm body = .ok r ∧ r.get "email" = .str login.email ∧
      r.get "password" = .str login.password := by
  rw [Login.ofBody, Except.map_eq_ok]
  apply exists_congr
  intro r
  apply and_congr_right
  intro h
  obtain ⟨-, -, ⟨email, hemail, -⟩, password, hpassword, -⟩ := check_loginForm.1 h
  rw [hemail, hpassword]
  constructor
  · rintro rfl
    exact ⟨rfl, rfl⟩
  · rintro ⟨he, hp⟩
    obtain rfl := Value.str.inj he
    obtain rfl := Value.str.inj hp
    rfl

lemma presentedToken_eq_ok {body : Value} {token : String} : presentedToken body = .ok token ↔
    ∃ r, check refreshForm body = .ok r ∧ r.get "refresh_token" = .str token := by
  rw [presentedToken, Except.map_eq_ok]
  apply exists_congr
  intro r
  apply and_congr_right
  intro h
  obtain ⟨-, -, token', ht, -⟩ := check_refreshForm.1 h
  rw [ht, Value.str.injEq]
  rfl

theorem bodies_accepted (body : Value) :
    (∀ r, check loginForm body = .ok r ↔ body = .obj r ∧
      (∀ k, k ∈ r.keys ↔ k = "email" ∨ k = "password") ∧
      (∃ email, r.get "email" = .str email ∧ email.length ≤ 320 ∧
        email.toList ∈ Email.expression.matches') ∧
      ∃ password, r.get "password" = .str password ∧ 1 ≤ password.length ∧
        password.length ≤ 1024) ∧
    (∀ r, check refreshForm body = .ok r ↔ body = .obj r ∧
      (∀ k, k ∈ r.keys ↔ k = "refresh_token") ∧
      ∃ token, r.get "refresh_token" = .str token ∧ 1 ≤ token.length ∧ token.length ≤ 8192) ∧
    (∀ login, Login.ofBody body = .ok login ↔ ∃ r, check loginForm body = .ok r ∧
      r.get "email" = .str login.email ∧ r.get "password" = .str login.password) ∧
    (∀ token, presentedToken body = .ok token ↔ ∃ r, check refreshForm body = .ok r ∧
      r.get "refresh_token" = .str token) ∧
    ((∃ login, Login.ofBody body = .ok login) ∨
      ∃ details, Login.ofBody body = .error (.validation "Validation error." details)) ∧
    ((∃ token, presentedToken body = .ok token) ∨
      ∃ details, presentedToken body = .error (.validation "Validation error." details)) := by
  refine ⟨fun r => check_loginForm, fun r => check_refreshForm, fun login => ofBody_eq_ok,
    fun token => presentedToken_eq_ok, ?_, ?_⟩
  · obtain ⟨r, hr⟩ | ⟨details, hr⟩ := check_cases loginForm body
    · exact .inl ⟨_, by rw [Login.ofBody, hr]; rfl⟩
    · exact .inr ⟨details, by rw [Login.ofBody, hr]; rfl⟩
  · obtain ⟨r, hr⟩ | ⟨details, hr⟩ := check_cases refreshForm body
    · exact .inl ⟨_, by rw [presentedToken, hr]; rfl⟩
    · exact .inr ⟨details, by rw [presentedToken, hr]; rfl⟩

lemma mem_keys_details {l : List (String × Problem)} :
    k ∈ (details l).keys ↔ k ≠ "__proto__" ∧ ∃ p, (k, p) ∈ l := by
  have hfold (r : Record) : k ∈ (l.foldl (fun r p => r.assign p.1 (.str p.2.text)) r).keys ↔
      k ∈ r.keys ∨ k ≠ "__proto__" ∧ ∃ p, (k, p) ∈ l := by
    induction l generalizing r with
    | nil => simp
    | cons q l ih =>
      obtain ⟨k', p⟩ := q
      rw [List.foldl_cons, ih, Record.mem_keys_assign]
      simp only [List.mem_cons, Prod.mk.injEq, exists_or, exists_and_left, exists_eq, and_true]
      constructor
      · rintro ((⟨rfl, h⟩ | h) | ⟨hk, h⟩)
        · exact .inr ⟨h, .inl rfl⟩
        · exact .inl h
        · exact .inr ⟨hk, .inr h⟩
      · rintro (h | ⟨hk, rfl | h⟩)
        · exact .inl (.inr h)
        · exact .inl (.inl ⟨rfl, hk⟩)
        · exact .inr ⟨hk, h⟩
  rw [details, hfold]
  simp [Record.keys]

/-- The details of a refusal name what offends, and they name all of it but `__proto__`, which an
object cannot be given as a field by assignment. -/
def Names (form : List Field) (r : Record) (f : Failure) : Prop :=
  ∃ d : Record, f = .validation "Validation error." (.obj d) ∧ (∃ k, Offends form r k) ∧
    (∀ k, k ∈ d.keys ↔ Offends form r k ∧ k ≠ "__proto__") ∧
    (d = [] ↔ ∀ k, Offends form r k → k = "__proto__")

lemma names_of_check {f : Failure} (h : check form (.obj r) = .error f) : Names form r f := by
  have hfaults : faults form r ≠ [] := by
    intro hnil
    rw [check_of_eq_nil hnil] at h
    cases h
  rw [check_of_ne_nil hfaults] at h
  obtain rfl := Except.error.inj h
  have hkeys (k : String) : k ∈ (details (faults form r)).keys ↔
      Offends form r k ∧ k ≠ "__proto__" := by
    rw [mem_keys_details, offends_iff, and_comm]
  refine ⟨_, rfl, ?_, hkeys, ?_⟩
  · by_contra hnone
    exact hfaults (faults_eq_nil.2 (not_exists.1 hnone))
  · rw [← List.map_eq_nil_iff (f := Prod.fst), List.eq_nil_iff_forall_not_mem]
    apply forall_congr'
    intro k
    change k ∉ Record.keys _ ↔ _
    rw [hkeys, not_and, not_ne_iff]

theorem offenders_named (r : Record) :
    (∀ f, Login.ofBody (.obj r) = .error f → Names loginForm r f) ∧
      ∀ f, presentedToken (.obj r) = .error f → Names refreshForm r f :=
  ⟨fun _ h => names_of_check (Except.map_eq_error.1 h),
    fun _ h => names_of_check (Except.map_eq_error.1 h)⟩

def protoBody : Record :=
  [("email", .str "ada@example.com"), ("password", .str "test-password"),
    ("__proto__", .num (.finite 1))]

theorem offenders_named_proto :
    Login.ofBody (.obj protoBody) = .error (.validation "Validation error." (.obj [])) ∧
      Offends loginForm protoBody "__proto__" ∧
      Names loginForm protoBody (.validation "Validation error." (.obj [])) := by
  have hcheck : Login.ofBody (.obj protoBody) =
      .error (.validation "Validation error." (.obj [])) := by
    have hfaults : faults loginForm protoBody = [("__proto__", .unknown)] := by decide +kernel
    rw [Login.ofBody, check_of_ne_nil (by rw [hfaults]; simp), hfaults]
    rfl
  exact ⟨hcheck, .unknown (by decide) (by decide), (offenders_named protoBody).1 _ hcheck⟩

end Form

end AuthGate
