import AuthGate.Proofs.Json.Numeral
import AuthGate.Proofs.Json.Quoted
import AuthGate.Proofs.Record

/-! What is printed is read back: as what the text shows of a value, and so as the value itself if it
is one that a text can hold, that is if no part of it is absent or a date, its numbers are finite and
its keys are in order. -/

namespace AuthGate.Json

def Opens (t : List Char) : Prop := ∃ c s, t = c :: s ∧ isBlank c = false ∧ c ≠ ']' ∧ c ≠ '\x7d'

/-- A text is read as a value, whatever follows that no numeral goes on with. -/
def Reads (t : List Char) (v : Value) : Prop :=
  Opens t ∧ ∀ fuel r, 2 * t.length ≤ fuel → EndsNumeral r → value fuel (t ++ r) = some (v, r)

def ReadsMember (m : String × List Char) (p : String × Value) : Prop := m.1 = p.1 ∧ Reads m.2 p.2

variable {t : List Char} {ts : List (List Char)} {v : Value} {vs : List Value}
  {ms : List (String × List Char)} {fields : Record}

lemma Opens.length_pos (h : Opens t) : 1 ≤ t.length := by
  obtain ⟨c, s, rfl, -⟩ := h
  simp

lemma endsNumeral_cons {c : Char} (h : c = ',' ∨ c = ']' ∨ c = '\x7d') (r : List Char) :
    EndsNumeral (c :: r) := by
  rintro d hd
  obtain rfl : c = d := by simpa using hd
  rcases h with rfl | rfl | rfl <;> decide

lemma skip_cons {c : Char} (h : isBlank c = false) (r : List Char) : skip (c :: r) = c :: r := by
  simp [skip, h]

lemma Opens.skip (h : Opens t) (r : List Char) : Json.skip (t ++ r) = t ++ r := by
  obtain ⟨c, s, rfl, hb, -⟩ := h
  exact skip_cons hb _

lemma separated_opens (hne : ts ≠ []) (h : ∀ t ∈ ts, Opens t) :
    Opens (separated ts) := by
  cases ts with
  | nil => exact absurd rfl hne
  | cons t ts =>
    obtain ⟨c, s, rfl, hc⟩ := h t List.mem_cons_self
    cases ts with
    | nil => exact ⟨c, s, rfl, hc⟩
    | cons u us => exact ⟨c, _, rfl, hc⟩

lemma Reads.parse? (h : Reads t v) : Json.parse? t = some v := by
  have hv := h.2 (2 * t.length + 2) [] (by omega) endsNumeral_nil
  rw [List.append_nil] at hv
  rw [Json.parse?, hv]
  rfl

lemma items_reads (h : List.Forall₂ Reads ts vs) (hne : ts ≠ []) {fuel : ℕ}
    (hf : 2 * (separated ts).length < fuel) (seen : List Value) (r : List Char) :
    items fuel seen (separated ts ++ ']' :: r) = some (seen.reverse ++ vs, r) := by
  induction h generalizing fuel seen with
  | nil => exact absurd rfl hne
  | @cons t v ts vs hread h ih =>
    cases fuel with
    | zero => omega
    | succ fuel =>
      cases h with
      | nil =>
        simp only [separated] at hf ⊢
        rw [items, hread.2 fuel _ (by omega) (endsNumeral_cons (by simp) r)]
        simp [skip_cons (c := ']') rfl]
      | @cons u w us ws hread' h =>
        have hih (hf : 2 * (separated (u :: us)).length < fuel) := ih (by simp) hf
        simp only [separated, List.length_append, List.length_cons, List.append_assoc,
          List.cons_append] at hf hih ⊢
        rw [items, hread.2 fuel _ (by omega) (endsNumeral_cons (by simp) _)]
        simp only [skip_cons (c := ',') rfl]
        rw [hih (by omega)]
        simp

lemma opens_of_reads (h : List.Forall₂ Reads ts vs) : ∀ t ∈ ts, Opens t := by
  induction h with
  | nil => exact List.forall_mem_nil _
  | cons hread _ ih => exact List.forall_mem_cons.2 ⟨hread.1, ih⟩

lemma reads_array (h : List.Forall₂ Reads ts vs) :
    Reads ('[' :: (separated ts ++ [']'])) (.arr vs) := by
  refine ⟨⟨'[', _, rfl, by decide⟩, fun fuel r hf _ => ?_⟩
  cases fuel with
  | zero => simp at hf
  | succ fuel =>
    simp only [List.length_cons, List.length_append, List.length_nil] at hf
    rw [List.cons_append, List.append_assoc, value, skip_cons (by rfl)]
    cases ts with
    | nil =>
      cases h
      simp [separated, skip, isBlank]
    | cons t ts =>
      have hopen := separated_opens (by simp) (opens_of_reads h)
      have hitems := items_reads h (by simp) (show 2 * (separated (t :: ts)).length < fuel by omega)
        [] r
      simp only [hopen.skip, List.singleton_append]
      obtain ⟨c, s, hc, -, hne, -⟩ := hopen
      rw [hc] at hitems ⊢
      simp only [List.cons_append] at hitems ⊢
      split
      · rename_i he
        exact absurd (List.cons.inj he).1 hne
      · rw [hitems]
        rfl

def memberText (m : String × List Char) : List Char := quote m.1.toList ++ ':' :: m.2

lemma object_eq (ms : List (String × List Char)) :
    object ms = '\x7b' :: (separated (ms.map memberText) ++ ['\x7d']) := rfl

def afterMember (fuel : ℕ) (seen : Record) (r : List Char) : Option (Record × List Char) :=
  match skip r with
  | ',' :: r' => members fuel seen r'
  | '\x7d' :: r' => some (seen, r')
  | _ => none

lemma members_member {m : String × List Char} {p : String × Value} {fuel : ℕ}
    (h : ReadsMember m p) (hf : 2 * (memberText m).length ≤ fuel) (seen : Record) {r : List Char}
    (hr : EndsNumeral r) :
    members (fuel + 1) seen (memberText m ++ r) = afterMember fuel (seen.set p.1 p.2) r := by
  obtain ⟨k, t⟩ := m
  obtain ⟨k', v⟩ := p
  obtain ⟨rfl, hread⟩ := h
  dsimp only at hread
  simp only [memberText, List.length_append, List.length_cons] at hf
  obtain ⟨u, hu, hk⟩ := string_quote k (show (quote k.toList).length ≤ fuel + 1 by omega)
    (':' :: t ++ r)
  rw [memberText, List.append_assoc, hu, members, skip_cons (by rfl)]
  simp only [hk, List.cons_append, skip_cons (c := ':') rfl]
  rw [hread.2 fuel r (by omega) hr]
  rfl

lemma members_reads (h : List.Forall₂ ReadsMember ms fields) (hne : ms ≠ []) {fuel : ℕ}
    (hf : 2 * (separated (ms.map memberText)).length < fuel) (seen : Record) (r : List Char) :
    members fuel seen (separated (ms.map memberText) ++ '\x7d' :: r) =
      some (Record.merge seen fields, r) := by
  induction h generalizing fuel seen with
  | nil => exact absurd rfl hne
  | @cons m p ms fields hread h ih =>
    cases fuel with
    | zero => omega
    | succ fuel =>
      cases h with
      | nil =>
        simp only [List.map_cons, List.map_nil, separated] at hf ⊢
        rw [members_member hread (by omega) seen (endsNumeral_cons (by simp) r)]
        simp [afterMember, skip_cons (c := '\x7d') rfl, Record.merge]
      | @cons n q ns more hread' h =>
        have hih (hf : 2 * (separated ((n :: ns).map memberText)).length < fuel) :=
          ih (by simp) hf (seen.set p.1 p.2)
        simp only [List.map_cons, separated, List.length_append, List.length_cons,
          List.append_assoc, List.cons_append] at hf hih ⊢
        rw [members_member hread (by omega) seen (endsNumeral_cons (by simp) _)]
        simp only [afterMember, skip_cons (c := ',') rfl]
        rw [hih (by omega)]
        simp [Record.merge]

lemma members_opens (hne : ms ≠ []) : Opens (separated (ms.map memberText)) := by
  apply separated_opens
  · simpa using hne
  · rintro _ hm
    obtain ⟨m, -, rfl⟩ := List.mem_map.1 hm
    exact ⟨'"', _, rfl, by decide⟩

lemma reads_object (h : List.Forall₂ ReadsMember ms fields) :
    Reads (object ms) (.obj (Record.ofList fields)) := by
  rw [object_eq]
  refine ⟨⟨'\x7b', _, rfl, by decide⟩, fun fuel r hf _ => ?_⟩
  cases fuel with
  | zero => simp at hf
  | succ fuel =>
    simp only [List.length_cons, List.length_append, List.length_nil] at hf
    rw [List.cons_append, List.append_assoc, value, skip_cons (by rfl)]
    cases ms with
    | nil =>
      cases h
      simp [separated, skip, isBlank, Record.ofList]
    | cons m ms =>
      have hopen := members_opens (List.cons_ne_nil m ms)
      have hmembers := members_reads h (by simp)
        (show 2 * (separated ((m :: ms).map memberText)).length < fuel by omega) [] r
      simp only [hopen.skip, List.singleton_append]
      obtain ⟨c, s, hc, -, -, hne⟩ := hopen
      rw [hc] at hmembers ⊢
      simp only [List.cons_append] at hmembers ⊢
      split
      · rename_i he
        exact absurd (List.cons.inj he).1 hne
      · rw [hmembers]
        rfl

lemma reads_word {w : List Char} {v : Value}
    (hw : ∀ fuel r, value (fuel + 1) (w ++ r) = some (v, r)) (ho : Opens w) : Reads w v := by
  refine ⟨ho, fun fuel r hf _ => ?_⟩
  cases fuel with
  | zero =>
    have := ho.length_pos
    omega
  | succ fuel => exact hw fuel r

lemma reads_null : Reads "null".toList .null := by
  refine reads_word (fun fuel r => ?_) ⟨'n', _, rfl, by decide⟩
  simp [value, skip, isBlank]

lemma reads_bool (b : Bool) : Reads (if b then "true".toList else "false".toList) (.bool b) := by
  cases b with
  | true =>
    refine reads_word (fun fuel r => ?_) ⟨'t', _, rfl, by decide⟩
    simp [value, skip, isBlank]
  | false =>
    refine reads_word (fun fuel r => ?_) ⟨'f', _, rfl, by decide⟩
    simp [value, skip, isBlank]

lemma reads_text {s : String} (ht : ∃ u, t = '"' :: u)
    (h : ∀ fuel r, t.length ≤ fuel + 1 →
      ∃ u, t ++ r = '"' :: u ∧ string fuel [] u = some (s, r)) : Reads t (.str s) := by
  obtain ⟨u, rfl⟩ := ht
  refine ⟨⟨'"', u, rfl, by decide⟩, fun fuel r hf _ => ?_⟩
  rw [List.length_cons] at hf
  cases fuel with
  | zero => omega
  | succ fuel =>
    obtain ⟨t, ht, hs⟩ := h fuel r (by rw [List.length_cons]; omega)
    rw [ht, value, skip_cons (by rfl)]
    simp [hs]

lemma reads_quote (s : String) : Reads (quote s.toList) (.str s) :=
  reads_text ⟨_, rfl⟩ fun _ r hf => string_quote s hf r

lemma reads_quoteUnits (us : List UInt16) :
    Reads (quoteUnits us) (.str (.ofList (Text.ofUnits us))) :=
  reads_text ⟨_, rfl⟩ fun _ r hf => string_quoteUnits us hf r

lemma value_digit {c : Char} (hc : c.isDigit = true ∨ c = '-') (fuel : ℕ) (r : List Char) :
    value (fuel + 1) (c :: r) = (numeral (c :: r)).map fun (n, r) => (.num n, r) := by
  have hne : isBlank c = false ∧ c ≠ 'n' ∧ c ≠ 't' ∧ c ≠ 'f' ∧ c ≠ '"' ∧ c ≠ '[' ∧ c ≠ '\x7b' := by
    rcases hc with hc | rfl
    · refine ⟨?_, ?_, ?_, ?_, ?_, ?_, ?_⟩
      · simp only [isBlank, Bool.or_eq_false_iff, decide_eq_false_iff_not]
        refine ⟨⟨⟨?_, ?_⟩, ?_⟩, ?_⟩ <;> (rintro rfl; exact absurd hc (by decide))
      all_goals rintro rfl; exact absurd hc (by decide)
    · decide
  obtain ⟨hb, hn, ht, hf, hq, hl, ho⟩ := hne
  rw [value, skip_cons hb]
  split
  all_goals first
    | (rename_i h; exact absurd (List.cons.inj h).1 (by assumption))
    | rfl

lemma chars_cons (q : ℚ) (h : Number.IsBinary q) :
    ∃ c s, (Number.finite q).chars = c :: s ∧ (c.isDigit = true ∨ c = '-') := by
  rw [Number.chars]
  rcases lt_trichotomy q 0 with hq | rfl | hq
  · exact ⟨'-', _, if_pos hq, .inr rfl⟩
  · exact ⟨'0', [], rfl, .inl rfl⟩
  · obtain ⟨v, hs, -⟩ := spells_magnitudeText h hq
    obtain ⟨c, s, hc, hd⟩ := hs.head []
    rw [List.append_nil] at hc
    exact ⟨c, s, by rw [if_neg hq.not_gt, hc], .inl hd⟩

lemma reads_chars {q : ℚ} (h : Number.IsBinary q) :
    Reads (Number.finite q).chars (.num (.finite q)) := by
  obtain ⟨c, s, hc, hd⟩ := chars_cons q h
  have hopen : isBlank c = false ∧ c ≠ ']' ∧ c ≠ '\x7d' := by
    rcases hd with hd | rfl
    · refine ⟨?_, ?_, ?_⟩
      · simp only [isBlank, Bool.or_eq_false_iff, decide_eq_false_iff_not]
        refine ⟨⟨⟨?_, ?_⟩, ?_⟩, ?_⟩ <;> (rintro rfl; exact absurd hd (by decide))
      all_goals rintro rfl; exact absurd hd (by decide)
    · decide
  refine ⟨⟨c, s, hc, hopen⟩, fun fuel r hf hr => ?_⟩
  cases fuel with
  | zero =>
    rw [hc] at hf
    simp at hf
  | succ fuel =>
    have hn := numeral_chars h hr
    rw [hc] at hn ⊢
    rw [List.cons_append] at hn ⊢
    rw [value_digit hd, hn]
    rfl

mutual

def Doubles : Value → Prop
  | .num (.finite q) => Number.IsBinary q
  | .arr items => DoubleItems items
  | .obj fields => DoubleFields fields
  | _ => True

def DoubleItems : List Value → Prop
  | [] => True
  | v :: vs => Doubles v ∧ DoubleItems vs

def DoubleFields : List (String × Value) → Prop
  | [] => True
  | (_, v) :: r => Doubles v ∧ DoubleFields r

end

/-- What the text of a number shows: no number that is not finite, and no sign of a zero. -/
def readNumber : Number → Value
  | .nan | .infinite _ => .null
  | .negZero => .num .zero
  | n => .num n

mutual

def readBack : Value → Value
  | .undefined => .null
  | .null => .null
  | .bool b => .bool b
  | .num n => readNumber n
  | .str s => .str s
  | .half u => .str (.ofList (Text.ofUnits [u]))
  | .date ms => ((Calendar.iso? ms).map .str).getD .null
  | .arr items => .arr (readItems items)
  | .obj fields => .obj (Record.ofList (readFields fields))

def readItems : List Value → List Value
  | [] => []
  | v :: vs => readBack v :: readItems vs

def readFields : List (String × Value) → List (String × Value)
  | [] => []
  | (k, v) :: r => if v.isUndefined then readFields r else (k, readBack v) :: readFields r

end

lemma reads_number {n : Number} (h : Doubles (.num n)) : Reads (number n) (readNumber n) := by
  cases n with
  | nan => exact reads_null
  | infinite => exact reads_null
  | negZero => exact reads_chars Number.isBinary_zero
  | finite q => exact reads_chars h

lemma reads_date (ms : Number) : Reads (print (.date ms)) (readBack (.date ms)) := by
  rw [print, print?, readBack]
  cases Calendar.iso? ms with
  | none => exact reads_null
  | some s => exact reads_quote s

lemma print?_eq_none : print? v = none ↔ v.isUndefined = true := by
  cases v <;> simp [print?, Value.isUndefined]

lemma printFields_cons (k : String) (v : Value) (r : Record) : printFields ((k, v) :: r) =
    if v.isUndefined then printFields r else (k, print v) :: printFields r := by
  rw [printFields, print]
  split
  · rename_i t ht
    rw [if_neg, ht]
    · rfl
    · rw [← print?_eq_none, ht]
      exact Option.some_ne_none t
  · rename_i hnone
    rw [if_pos (print?_eq_none.1 hnone)]

mutual

theorem reads_print : ∀ v, Doubles v → Reads (print v) (readBack v)
  | .undefined, _ => reads_null
  | .null, _ => reads_null
  | .bool b, _ => reads_bool b
  | .num _, h => reads_number h
  | .str s, _ => reads_quote s
  | .half u, _ => reads_quoteUnits [u]
  | .date ms, _ => reads_date ms
  | .arr items, h => reads_array (reads_printItems items h)
  | .obj fields, h => reads_object (reads_printFields fields h)

theorem reads_printItems : ∀ vs, DoubleItems vs → List.Forall₂ Reads (printItems vs) (readItems vs)
  | [], _ => .nil
  | v :: vs, h => .cons (reads_print v h.1) (reads_printItems vs h.2)

theorem reads_printFields : ∀ r, DoubleFields r →
    List.Forall₂ ReadsMember (printFields r) (readFields r)
  | [], _ => .nil
  | (k, v) :: r, h => by
    rw [printFields_cons, readFields]
    split_ifs
    · exact reads_printFields r h.2
    · exact .cons ⟨rfl, reads_print v h.1⟩ (reads_printFields r h.2)

end

theorem parse?_print_readBack (h : Doubles v) : parse? (print v) = some (readBack v) :=
  (reads_print v h).parse?

lemma doubleFields_iff : DoubleFields fields ↔ ∀ p ∈ fields, Doubles p.2 := by
  induction fields with
  | nil => simp [DoubleFields]
  | cons p r ih => rw [DoubleFields, ih, List.forall_mem_cons]

lemma mem_readFields {p : String × Value} : p ∈ readFields fields ↔
    ∃ v, (p.1, v) ∈ fields ∧ v.isUndefined = false ∧ p.2 = readBack v := by
  induction fields with
  | nil => simp [readFields]
  | cons q r ih =>
    obtain ⟨k, v⟩ := q
    obtain ⟨k', w⟩ := p
    rw [readFields]
    cases hv : v.isUndefined with
    | true =>
      rw [if_pos rfl, ih]
      refine exists_congr fun u => and_congr_left fun ⟨hu, _⟩ => ?_
      rw [List.mem_cons, or_iff_right]
      rintro ⟨⟩
      rw [hv] at hu
      cases hu
    | false =>
      rw [if_neg Bool.false_ne_true, List.mem_cons, ih]
      simp only [List.mem_cons, Prod.mk.injEq, or_and_right, exists_or]
      refine or_congr_left ⟨?_, ?_⟩
      · rintro ⟨rfl, rfl⟩
        exact ⟨v, ⟨rfl, rfl⟩, hv, rfl⟩
      · rintro ⟨_, ⟨rfl, rfl⟩, -, rfl⟩
        exact ⟨rfl, rfl⟩

lemma keys_readFields_sublist (r : Record) : (Record.keys (readFields r)).Sublist r.keys := by
  induction r with
  | nil => exact .slnil
  | cons p r ih =>
    obtain ⟨k, v⟩ := p
    rw [readFields]
    split_ifs
    · exact ih.cons k
    · exact ih.cons_cons k

lemma parse?_fields (h : DoubleFields fields) : parse? (object (printFields fields)) =
    some (.obj (Record.ofList (readFields fields))) :=
  (reads_object (reads_printFields fields h)).parse?

def told (v : Value) : Value := if v.isUndefined then .undefined else readBack v

lemma get_readFields {r : Record} (hd : r.keys.Nodup) (k : String) :
    Record.get (readFields r) k = told (r.get k) := by
  have hkeys := keys_readFields_sublist r
  by_cases hk : k ∈ r.keys
  · obtain ⟨⟨k, v⟩, hp, rfl⟩ := List.mem_map.1 hk
    rw [Record.get_of_mem hd hp, told]
    split_ifs with hv
    · apply Record.get_eq_undefined
      intro hread
      obtain ⟨q, hq, hkey⟩ := List.mem_map.1 hread
      obtain ⟨w, hw, hdefined, -⟩ := mem_readFields.1 hq
      obtain rfl : w = v := (Prod.mk.inj (List.inj_on_of_nodup_map hd hw hp hkey)).2
      rw [hv] at hdefined
      cases hdefined
    · apply Record.get_of_mem (hkeys.nodup hd)
      exact mem_readFields.2 ⟨v, hp, Bool.eq_false_iff.2 hv, rfl⟩
  · rw [Record.get_eq_undefined hk, Record.get_eq_undefined (mt (hkeys.subset ·) hk)]
    rfl

lemma field_readBack {r : Record} (hd : r.keys.Nodup) (k : String) :
    (readBack (.obj r)).field k = told (r.get k) := by
  rw [readBack, Value.field, Record.get_ofList ((keys_readFields_sublist r).nodup hd),
    get_readFields hd]

lemma readBack_of_print {w : Value} (hv : Doubles v) (hw : Doubles w) (h : print v = print w) :
    readBack v = readBack w := by
  apply Option.some.inj
  rw [← parse?_print_readBack hv, ← parse?_print_readBack hw, h]

mutual

def Readable : Value → Prop
  | .null | .bool _ | .str _ => True
  | .num (.finite q) => Number.IsBinary q
  | .arr items => ReadableItems items
  | .obj fields => ReadableFields fields ∧ Record.ofList fields = fields
  | _ => False

def ReadableItems : List Value → Prop
  | [] => True
  | v :: vs => Readable v ∧ ReadableItems vs

def ReadableFields : List (String × Value) → Prop
  | [] => True
  | (_, v) :: r => Readable v ∧ ReadableFields r

end

lemma Readable.isUndefined (h : Readable v) : v.isUndefined = false := by
  cases v with
  | undefined => cases h
  | _ => rfl

mutual

theorem readBack_eq : ∀ v, Readable v → Doubles v ∧ readBack v = v
  | .null, _ => ⟨trivial, rfl⟩
  | .bool _, _ => ⟨trivial, rfl⟩
  | .str _, _ => ⟨trivial, rfl⟩
  | .num (.finite _), h => ⟨h, rfl⟩
  | .arr items, h => (readItems_eq items h).imp_right (congrArg Value.arr)
  | .obj fields, h => (readFields_eq fields h.1).imp_right fun he => by rw [readBack, he, h.2]

theorem readItems_eq : ∀ vs, ReadableItems vs → DoubleItems vs ∧ readItems vs = vs
  | [], _ => ⟨trivial, rfl⟩
  | v :: vs, h => by
    obtain ⟨hv, hback⟩ := readBack_eq v h.1
    obtain ⟨hvs, hitems⟩ := readItems_eq vs h.2
    exact ⟨⟨hv, hvs⟩, by rw [readItems, hback, hitems]⟩

theorem readFields_eq : ∀ r, ReadableFields r → DoubleFields r ∧ readFields r = r
  | [], _ => ⟨trivial, rfl⟩
  | (k, v) :: r, h => by
    obtain ⟨hv, hback⟩ := readBack_eq v h.1
    obtain ⟨hr, hfields⟩ := readFields_eq r h.2
    refine ⟨⟨hv, hr⟩, ?_⟩
    rw [readFields, h.1.isUndefined, if_neg Bool.false_ne_true, hback, hfields]

end

lemma readableFields_iff {r : Record} : ReadableFields r ↔ ∀ p ∈ r, Readable p.2 := by
  induction r with
  | nil => simp [ReadableFields]
  | cons p r ih =>
    obtain ⟨k, v⟩ := p
    rw [ReadableFields, ih, List.forall_mem_cons]

lemma readable_obj {r : Record} (hi : ∀ k ∈ r.keys, arrayIndex? k = none) (hd : r.keys.Nodup)
    (h : ∀ p ∈ r, Readable p.2) : Readable (.obj r) :=
  ⟨readableFields_iff.2 h, Record.ofList_new hi hd⟩

theorem parse?_print (h : Readable v) : parse? (print v) = some v := by
  obtain ⟨hdoubles, hback⟩ := readBack_eq v h
  rw [parse?_print_readBack hdoubles, hback]

end AuthGate.Json
