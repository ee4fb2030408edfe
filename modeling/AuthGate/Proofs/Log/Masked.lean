import AuthGate.Proofs.Log.Context

namespace AuthGate.Log

open Json (readBack readFields)

/-- The line is written of a record whose values are clean, but for the ids of the request and of
the user. -/
def Line.Masked (l : Line) : Prop :=
  ∃ (level : Value) (r : Record), l = Entry.written level (Json.printFields r) ∧
    ∀ p ∈ r, p.1 ∉ ["request_id", "user_id"] → Clean (readBack p.2)

namespace Entry

variable {wall : Number} {requestId userId code permission violation severity level message : Value}
  {l : Line}

lemma clean_undefined : Clean (readBack .undefined) := by
  rintro s ⟨⟩

lemma clean_of_mem_redactFields {r : Record} {p : String × Value} (hp : p ∈ redactFields r) :
    Clean (readBack p.2) := by
  cases hdefined : p.2.isUndefined with
  | false =>
    exact clean_redactFields r (p.1, readBack p.2)
      (Json.mem_readFields.2 ⟨p.2, hp, hdefined, rfl⟩)
  | true =>
    obtain ⟨k, v⟩ := p
    cases v with
    | undefined => exact clean_undefined
    | _ => cases hdefined

lemma clean_stamp {time : String} (ht : stamp wall = .ok time) : Clean (.str time) := by
  have hdate := clean_date wall
  rw [stamp] at ht
  split at ht
  · rename_i hiso
    obtain rfl := Except.ok.inj ht
    rwa [readBack, hiso] at hdate
  · cases ht

lemma masked_written {time level kind : String} {r : Record} (ht : stamp wall = .ok time)
    (hlevel : level ∈ [info, warn, error])
    (hkind : kind ∈ ["AUTHENTICATION", "AUTHORIZATION", "SECURITY_VIOLATION"])
    (h : ∀ p ∈ r, p.1 ∉ ["request_id", "user_id"] → Clean (readBack p.2)) :
    (written (.str level) (Json.printFields (opening time level kind requestId ++ r))).Masked := by
  have hfixed (s : String) (hs : s ∈ [info, warn, error, "AUTHENTICATION", "AUTHORIZATION",
      "SECURITY_VIOLATION"]) : Clean (.str s) := by
    simp only [List.mem_cons, List.not_mem_nil, or_false] at hs
    rcases hs with rfl | rfl | rfl | rfl | rfl | rfl <;>
      exact clean_of_notMem (by decide) (by decide)
  refine ⟨_, _, rfl, fun p hp hid => ?_⟩
  rcases List.mem_append.1 hp with hp | hp
  · simp only [opening, List.mem_cons, List.not_mem_nil, or_false] at hp
    rcases hp with rfl | rfl | rfl | rfl
    · exact clean_stamp ht
    · exact hfixed _ (by simp at hlevel ⊢; tauto)
    · exact hfixed _ (by simp at hkind ⊢; tauto)
    · exact absurd List.mem_cons_self hid
  · exact h p hp hid

lemma clean_bool (b : Bool) : Clean (readBack (.bool b)) := by
  rintro s ⟨⟩

lemma outcomeLevel_mem (b : Bool) : outcomeLevel (.bool b) ∈ [info, warn, error] := by
  cases b <;> simp [outcomeLevel, Value.truthy]

lemma masked_authentication {success : Bool} (reason : Option String)
    (hcode : Clean (readBack code)) (h : (authentication requestId userId (.bool success) code
      (.ofText? reason)).write wall = .ok l) : l.Masked := by
  have hfields (v : Value) (hv : Clean (readBack v)) : ∀ p ∈ [("user_id", userId),
      ("success", .bool success), ("code", code), ("reason", v)],
      p.1 ∉ ["request_id", "user_id"] → Clean (readBack p.2) := by
    simp [hcode, hv, clean_bool]
  obtain ⟨time, ht, h⟩ := Except.bind_eq_ok.1 h
  cases reason with
  | none =>
    obtain rfl := Except.ok.inj h
    exact masked_written ht (outcomeLevel_mem success) (by simp) (hfields _ clean_undefined)
  | some reason =>
    obtain rfl := Except.ok.inj h
    exact masked_written ht (outcomeLevel_mem success) (by simp)
      (hfields _ (clean_redactText reason))

lemma masked_authorization {granted : Bool} (hpermission : Clean (readBack permission))
    (h : (authorization requestId userId (.bool granted) permission).write wall = .ok l) :
    l.Masked := by
  obtain ⟨time, ht, h⟩ := Except.bind_eq_ok.1 h
  obtain rfl := Except.ok.inj h
  refine masked_written ht (outcomeLevel_mem granted) (by simp) ?_
  simp [hpermission, clean_bool]

lemma masked_security {r : Record} (hviolation : Clean (readBack violation))
    (hseverity : Clean (readBack severity))
    (h : (security requestId userId violation severity (.obj r)).write wall = .ok l) :
    l.Masked := by
  rw [write_security_obj] at h
  obtain ⟨time, ht, h⟩ := Except.bind_eq_ok.1 h
  obtain ⟨-, -, h⟩ := Except.bind_eq_ok.1 h
  obtain rfl := Except.ok.inj h
  have hcontext : Clean (readBack (.obj (redactFields r))) := clean_redact (.obj r)
  refine masked_written ht (by simp) (by simp) ?_
  simp [hviolation, hseverity, hcontext]

lemma masked_note {r : Record} (hlevel : Clean (readBack level))
    (hmessage : Clean (readBack message))
    (h : (note level message (.obj r)).write wall = .ok l) : l.Masked := by
  rw [write_note_obj] at h
  obtain ⟨time, ht, h⟩ := Except.bind_eq_ok.1 h
  obtain ⟨-, -, h⟩ := Except.bind_eq_ok.1 h
  obtain rfl := Except.ok.inj h
  refine ⟨_, _, rfl, fun p hp _ => ?_⟩
  rcases mem_noteFields hp with hp | ⟨hp, -⟩
  · exact clean_of_mem_redactFields hp
  · simp only [List.mem_cons, List.not_mem_nil, or_false] at hp
    rcases hp with rfl | rfl | rfl
    · exact clean_stamp ht
    · exact hlevel
    · exact hmessage

end Entry

end AuthGate.Log
