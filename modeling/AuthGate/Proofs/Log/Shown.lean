import AuthGate.Proofs.Log

namespace AuthGate

def Value.ofText? (t : Option String) : Value := (t.map .str).getD .undefined

@[simp] lemma Value.ofText?_none : ofText? none = .undefined := rfl

@[simp] lemma Value.ofText?_some (t : String) : ofText? (some t) = .str t := rfl

namespace Json

def Printable (v : Value) : Prop := v = .undefined ∨ Readable v

@[simp] lemma printable_undefined : Printable .undefined := .inl rfl

@[simp] lemma printable_str (s : String) : Printable (.str s) := .inr trivial

@[simp] lemma printable_bool (b : Bool) : Printable (.bool b) := .inr trivial

@[simp] lemma printable_ofText? (t : Option String) : Printable (.ofText? t) := by
  cases t with
  | none => exact printable_undefined
  | some t => exact printable_str t

lemma told_of_printable {v : Value} (h : Printable v) : told v = v := by
  rcases h with rfl | h
  · rfl
  · rw [told, h.isUndefined, if_neg Bool.false_ne_true, (readBack_eq v h).2]

lemma parse?_object {r : Record} (hi : ∀ k ∈ r.keys, arrayIndex? k = none) (hd : r.keys.Nodup)
    (h : ∀ p ∈ r, Printable p.2) :
    parse? (object (printFields r)) = some (.obj (readFields r)) := by
  have hdoubles : DoubleFields r := by
    rw [doubleFields_iff]
    intro p hp
    rcases h p hp with hv | hv
    · rw [hv]
      trivial
    · exact (readBack_eq p.2 hv).1
  rw [parse?_fields hdoubles,
    Record.ofList_of_sublist (keys_readFields_sublist r) hi hd]

end Json

namespace Log

def Line.Shows (l : Line) (fields : Record) : Prop :=
  ∃ r : Record, Json.parse? l.text.toList = some (.obj r) ∧ ∀ p ∈ fields, r.get p.1 = p.2

namespace Entry

variable {wall : Number} {time : String} {requestId userId : Option String}

lemma written_shows {r : Record} (level : Value) (hi : ∀ k ∈ r.keys, arrayIndex? k = none)
    (hd : r.keys.Nodup) (h : ∀ p ∈ r, Json.Printable p.2) :
    (written level (Json.printFields r)).Shows r := by
  refine ⟨Json.readFields r, ?_, fun p hp => ?_⟩
  · rw [written, String.toList_ofList]
    exact Json.parse?_object hi hd h
  · rw [Json.get_readFields hd, Record.get_of_mem hd hp, Json.told_of_printable (h p hp)]

def credentialFields (time : String) (requestId userId : Option String) (success : Bool)
    (code : Value) (reason : Option String) : Record :=
  opening time (outcomeLevel (.bool success)) "AUTHENTICATION" (.ofText? requestId) ++
    [("user_id", .ofText? userId), ("success", .bool success), ("code", code),
      ("reason", .ofText? (reason.map redactText))]

lemma write_credential_shows (ht : stamp wall = .ok time) (requestId userId : Option String)
    (success : Bool) {code : Value} (hcode : Json.Printable code) (reason : Option String) :
    ∃ l, (authentication (.ofText? requestId) (.ofText? userId) (.bool success) code
      (.ofText? reason)).write wall = .ok l ∧
        l.Shows (credentialFields time requestId userId success code reason) := by
  refine ⟨written (.str (outcomeLevel (.bool success)))
    (Json.printFields (credentialFields time requestId userId success code reason)), ?_, ?_⟩
  · rw [write, ht]
    cases reason <;> rfl
  · refine written_shows _ ?_ ?_ ?_
    · simp [Record.keys, credentialFields, opening]
      decide
    · simp [Record.keys, credentialFields, opening]
    · simp [credentialFields, opening, hcode]

def decisionFields (time : String) (requestId userId : Option String) (success : Bool)
    (permission : String) : Record :=
  opening time (outcomeLevel (.bool success)) "AUTHORIZATION" (.ofText? requestId) ++
    [("user_id", .ofText? userId), ("success", .bool success), ("permission", .str permission)]

lemma write_decision_shows (ht : stamp wall = .ok time) (requestId userId : Option String)
    (success : Bool) (permission : String) :
    ∃ l, (authorization (.ofText? requestId) (.ofText? userId) (.bool success)
      (.str permission)).write wall = .ok l ∧
        l.Shows (decisionFields time requestId userId success permission) := by
  refine ⟨written (.str (outcomeLevel (.bool success)))
    (Json.printFields (decisionFields time requestId userId success permission)), ?_, ?_⟩
  · rw [write, ht]
    rfl
  · refine written_shows _ ?_ ?_ ?_
    · simp [Record.keys, decisionFields, opening]
      decide
    · simp [Record.keys, decisionFields, opening]
    · simp [decisionFields, opening]

end Entry

end Log

end AuthGate
