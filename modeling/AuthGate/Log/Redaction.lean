import AuthGate.Text.LowerCase
import AuthGate.Value

/-!
Redaction of personal data. In text, addresses of the form `local@domain.tld` and ten-digit phone
numbers are replaced; in records, the values of fields with telling names are replaced whole.
-/

namespace AuthGate.Log

def isLetter (c : Char) : Bool := c.isAlpha

def isLocal (c : Char) : Bool :=
  c.isAlphanum || c = '.' || c = '_' || c = '%' || c = '+' || c = '-'

def isDomain (c : Char) : Bool := c.isAlphanum || c = '.' || c = '-'

def isWord (c : Char) : Bool := c.isAlphanum || c = '_'

def emailMark : List Char := "[EMAIL_REDACTED]".toList

def phoneMark : List Char := "[PHONE_REDACTED]".toList

/-- The end of the last top-level part: a dot, not the first character, and the letters after it, at
least two. Positions count from `i`. -/
def topEnd (i : Nat) : List Char → Option Nat
  | [] => none
  | c :: r =>
    match topEnd (i + 1) r with
    | some e => some e
    | none =>
      if c = '.' ∧ 0 < i then
        let n := (r.takeWhile isLetter).length
        if 2 ≤ n then some (i + 1 + n) else none
      else none

def domainLength? (s : List Char) : Option Nat := topEnd 0 (s.takeWhile isDomain)

def redactEmails : List Char → List Char
  | [] => []
  | c :: r =>
    if isLocal c then
      let run := c :: r.takeWhile isLocal
      match h : r.dropWhile isLocal with
      | [] => run
      | d :: s =>
        have : s.length < r.length := by
          have := (List.dropWhile_sublist isLocal (l := r)).length_le
          rw [h, List.length_cons] at this
          omega
        if d = '@' then
          match domainLength? s with
          | some n => emailMark ++ redactEmails (s.drop n)
          | none => run ++ '@' :: redactEmails s
        else run ++ d :: redactEmails s
    else c :: redactEmails r
termination_by s => s.length
decreasing_by all_goals simp only [List.length_cons, List.length_drop]; omega

def dropDigits? : Nat → List Char → Option (List Char)
  | 0, s => some s
  | n + 1, c :: s => if c.isDigit then dropDigits? n s else none
  | _ + 1, [] => none

def dropMark : List Char → List Char
  | '-' :: s => s
  | '.' :: s => s
  | s => s

def atBoundary : List Char → Bool
  | [] => true
  | c :: _ => !isWord c

def afterPhone? (s : List Char) : Option (List Char) :=
  ((dropDigits? 3 s).bind fun r => (dropDigits? 3 (dropMark r)).bind fun r =>
    dropDigits? 4 (dropMark r)).filter atBoundary

theorem dropDigits?_length {n : Nat} {s t : List Char} (h : dropDigits? n s = some t) :
    t.length + n = s.length := by
  induction n generalizing s with
  | zero => simp_all [dropDigits?]
  | succ n ih =>
    cases s with
    | nil => simp [dropDigits?] at h
    | cons c s =>
      simp only [dropDigits?] at h
      split at h
      · have := ih h
        simp only [List.length_cons]
        omega
      · simp at h

theorem dropMark_length_le (s : List Char) : (dropMark s).length ≤ s.length := by
  unfold dropMark
  split <;> simp

theorem afterPhone?_length_lt {s t : List Char} (h : afterPhone? s = some t) :
    t.length < s.length := by
  simp only [afterPhone?, Option.filter_eq_some_iff, Option.bind_eq_some_iff] at h
  obtain ⟨⟨r, hr, u, hu, ht⟩, -⟩ := h
  have := dropDigits?_length hr
  have := dropDigits?_length hu
  have := dropDigits?_length ht
  have := dropMark_length_le r
  have := dropMark_length_le u
  omega

/-- Here `inWord` says whether the character before the text is a letter, a digit or `_`. -/
def redactPhonesAfter (inWord : Bool) : List Char → List Char
  | [] => []
  | c :: r =>
    if inWord then c :: redactPhonesAfter (isWord c) r
    else match h : afterPhone? (c :: r) with
      | some s =>
        have := afterPhone?_length_lt h
        phoneMark ++ redactPhonesAfter true s
      | none => c :: redactPhonesAfter (isWord c) r
termination_by s => s.length
decreasing_by
  · exact Nat.lt_succ_self r.length
  · exact this
  · exact Nat.lt_succ_self r.length

def redactChars (s : List Char) : List Char := redactPhonesAfter false (redactEmails s)

def redactText (s : String) : String := .ofList (redactChars s.toList)

def personalFields : List String :=
  ["email", "first_name", "last_name", "full_name", "password", "password_hash", "phone",
    "phone_number", "address", "access_token", "refresh_token", "token", "authorization"]

def isPersonal (key : String) : Bool := personalFields.contains (Text.lower key)

mutual

def redact : Value → Value
  | .str s => .str (redactText s)
  | .arr items => .arr (redactItems items)
  | .obj fields => .obj (redactFields fields)
  | v => v

def redactItems : List Value → List Value
  | [] => []
  | v :: vs => redact v :: redactItems vs

def redactFields : List (String × Value) → List (String × Value)
  | [] => []
  | (k, v) :: r =>
    if k = "__proto__" then redactFields r
    else (k, if isPersonal k then .str "[PII_REDACTED]" else redact v) :: redactFields r

end

end AuthGate.Log
