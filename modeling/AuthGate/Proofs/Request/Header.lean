import AuthGate.Request.Header
import Mathlib.Data.List.Basic
import Mathlib.Tactic.Common

namespace AuthGate.Header

inductive Given where
  | text (s : String)
  | list (ss : List String)
  | nothing

namespace Given

def value : Given → Value
  | text s => .str s
  | list ss => .texts ss
  | nothing => .undefined

def text? : Given → Option String
  | text s => some s
  | list ss => some (",".intercalate ss)
  | nothing => none

end Given

def headersOf (headers : List (String × Given)) : Value :=
  .obj (headers.map fun h => (h.1, h.2.value))

/-- The first header of a name that is given at all; the name is in lower case. -/
def First (name : String) (headers : List (String × Given)) (g : Given) : Prop :=
  ∃ before key after, headers = before ++ (key, g) :: after ∧ Text.lower key = name ∧
    g ≠ .nothing ∧ ∀ h ∈ before, Text.lower h.1 = name → h.2 = .nothing

def Missing (name : String) (headers : List (String × Given)) : Prop :=
  ∀ h ∈ headers, Text.lower h.1 = name → h.2 = .nothing

variable {name : String} {headers : List (String × Given)} {g : Given}

lemma first_or_missing (name : String) (headers : List (String × Given)) :
    (∃ g, First name headers g) ∨ Missing name headers := by
  induction headers with
  | nil => exact .inr fun h hh => absurd hh List.not_mem_nil
  | cons h headers ih =>
    by_cases hname : Text.lower h.1 = name ∧ h.2 ≠ .nothing
    · exact .inl ⟨h.2, [], h.1, headers, rfl, hname.1, hname.2, by simp⟩
    · have hskip : Text.lower h.1 = name → h.2 = .nothing :=
        fun hlower => not_not.1 fun hne => hname ⟨hlower, hne⟩
      obtain ⟨g, before, key, after, rfl, hkey, hg, hbefore⟩ | hmissing := ih
      · exact .inl ⟨g, h :: before, key, after, rfl, hkey, hg,
          List.forall_mem_cons.2 ⟨hskip, hbefore⟩⟩
      · exact .inr (List.forall_mem_cons.2 ⟨hskip, hmissing⟩)

lemma isUndefined_value : g.value.isUndefined = true ↔ g = .nothing := by
  cases g <;> simp [Given.value, Value.texts, Value.isUndefined]

lemma lookup_skip {before : List (String × Given)} (hbefore : Missing name before)
    (after : Record) :
    lookup name ((before.map fun h => (h.1, h.2.value)) ++ after) = lookup name after := by
  induction before with
  | nil => rfl
  | cons h before ih =>
    obtain ⟨hskip, hrest⟩ := List.forall_mem_cons.1 hbefore
    rw [← ih hrest, lookup, lookup, List.map_cons, List.cons_append, List.find?_cons_of_neg]
    simp only [Bool.and_eq_true, decide_eq_true_eq, Bool.not_eq_true', not_and,
      Bool.not_eq_false]
    exact fun hlower => isUndefined_value.2 (hskip hlower)

lemma lookup_of_first (h : First name headers g) :
    lookup name (headers.map fun h => (h.1, h.2.value)) = g.value := by
  obtain ⟨before, key, after, rfl, rfl, hg, hbefore⟩ := h
  rw [List.map_append, lookup_skip hbefore, lookup, List.map_cons, List.find?_cons_of_pos]
  · rfl
  · simpa using mt isUndefined_value.1 hg

lemma lookup_of_missing (h : Missing name headers) :
    lookup name (headers.map fun h => (h.1, h.2.value)) = .undefined := by
  rw [← List.append_nil (headers.map _), lookup_skip h]
  rfl

def consText? : Option String → Option (List String) → Option (List String)
  | some t, some ts => some (t :: ts)
  | _, _ => none

lemma itemTexts?_texts (ss : List String) : Value.itemTexts? (ss.map .str) = some ss := by
  induction ss with
  | nil => rfl
  | cons s ss ih =>
    have hcons : Value.itemTexts? ((s :: ss).map .str) =
        consText? (some s) (Value.itemTexts? (ss.map .str)) := rfl
    rw [hcons, ih]
    rfl

lemma joined_value {s : String} (h : g.text? = some s) : joined g.value = .ok (.str s) := by
  cases g with
  | text t =>
    obtain rfl := Option.some.inj h
    rfl
  | list ss =>
    obtain rfl := Option.some.inj h
    simp only [Given.value, Value.texts, joined, Value.text, Value.text?, itemTexts?_texts,
      Option.map_some]
    rfl
  | nothing => cases h

lemma exists_text (h : First name headers g) : ∃ s, g.text? = some s := by
  obtain ⟨-, -, -, -, -, hg, -⟩ := h
  cases g with
  | nothing => exact absurd rfl hg
  | _ => exact ⟨_, rfl⟩

lemma find_headersOf (name : String) (headers : List (String × Given)) :
    find (headersOf headers) (.str name) =
      joined (lookup (Text.lower name) (headers.map fun h => (h.1, h.2.value))) := rfl

lemma find_of_first {s : String} (h : First (Text.lower name) headers g) (hs : g.text? = some s) :
    find (headersOf headers) (.str name) = .ok (.str s) := by
  rw [find_headersOf, lookup_of_first h, joined_value hs]

lemma find_of_missing (h : Missing (Text.lower name) headers) :
    find (headersOf headers) (.str name) = .ok .undefined := by
  rw [find_headersOf, lookup_of_missing h]
  rfl

lemma comma_mem_intercalate {ss : List String} (h : 2 ≤ ss.length) :
    ',' ∈ (",".intercalate ss).toList := by
  obtain _ | ⟨a, _ | ⟨b, ss⟩⟩ := ss
  · simp at h
  · simp at h
  · rw [String.toList_intercalate]
    simp

end AuthGate.Header
