import AuthGate.Proofs.Log.Context
import AuthGate.Proofs.Log.Redaction

namespace AuthGate.Log

open Json (DoubleFields readFields told)

variable {c : Record} {k : String} {v : Value}

lemma redact_eq_error : redact v = .str error ↔ v = .str error := by
  constructor
  · intro h
    cases v with
    | str s =>
      have hs : redactText s = error := Value.str.inj h
      rw [← hs, redactText_eq_self_of_unmarked (by rw [hs]; decide)]
    | _ => cases h
  · rintro rfl
    have hclean : ¬ ShowsAddress error.toList ∧ ¬ ShowsPhone error.toList :=
      ⟨not_showsAddress_of_notMem (by decide), by decide⟩
    exact congrArg Value.str (redactText_eq_self_iff.2 hclean)

lemma iso?_ne_error {ms : Number} : Calendar.iso? ms ≠ some error := by
  intro h
  obtain ⟨t, -, ht⟩ := Option.map_eq_some_iff.1 h
  have hmem : 'T' ∈ Calendar.iso t := by simp [Calendar.iso]
  rw [← String.toList_ofList (l := Calendar.iso t), ht] at hmem
  exact absurd hmem (by decide)

lemma told_eq_error : told v = .str error ↔ v = .str error := by
  constructor
  · intro h
    cases v with
    | str s => exact h
    | half u =>
      have hu : String.ofList [Text.unitChar u] = error := Value.str.inj h
      have hlength := congrArg String.length hu
      rw [String.length_ofList] at hlength
      have hone : 1 = error.length := hlength
      exact absurd hone (by decide)
    | date ms =>
      have hms : ((Calendar.iso? ms).map Value.str).getD .null = .str error := h
      cases hiso : Calendar.iso? ms with
      | none =>
        rw [hiso] at hms
        cases hms
      | some s =>
        rw [hiso] at hms
        obtain rfl : s = error := Value.str.inj hms
        exact absurd hiso iso?_ne_error
    | num n => cases n <;> cases h
    | _ => cases h
  · rintro rfl
    rfl

lemma get_redactFields (hk : k ≠ "__proto__") (hp : isPersonal k = false) (r : Record) :
    Record.get (redactFields r) k = redact (r.get k) := by
  induction r with
  | nil => rfl
  | cons p r ih =>
    obtain ⟨k', v⟩ := p
    rw [redactFields, Record.get_cons]
    by_cases hkey : k = k'
    · subst hkey
      rw [if_neg hk, Record.get_cons, if_pos rfl, if_pos rfl, hp, if_neg Bool.false_ne_true]
    · rw [if_neg hkey]
      split_ifs
      · exact ih
      · rw [Record.get_cons, if_neg hkey, ih]
      · rw [Record.get_cons, if_neg hkey, ih]

lemma mem_keys_redactFields (hk : k ≠ "__proto__") :
    k ∈ Record.keys (redactFields c) ↔ k ∈ c.keys := by
  rw [keys_redactFields, List.mem_filter, decide_eq_true_iff]
  exact and_iff_left hk

def heads (time level message : String) : List (String × String) :=
  [("timestamp", time), ("level", level), ("message", message)]

def headed (c : Record) (p : String × String) : Value :=
  if p.1 ∈ c.keys then redact (c.get p.1) else .str p.2

/-- The line can be read and starts as it was asked to, on the stream of its level. -/
def Line.Keeps (l : Line) (time level message : String) : Prop :=
  (∃ r : Record, Json.parse? l.text.toList = some (.obj r) ∧
    ∀ p ∈ heads time level message, r.get p.1 = .str p.2) ∧
  (l.stream = .err ↔ level = error)

/-- The line can be read and starts with what its context has under the names of the start, and with
what it was asked to where there is none; the stream is that of the level so found. -/
def Line.StartsOver (l : Line) (c : Record) (time level message : String) : Prop :=
  (∃ r : Record, Json.parse? l.text.toList = some (.obj r) ∧
    ∀ p ∈ heads time level message, r.get p.1 = told (headed c p)) ∧
  (l.stream = .err ↔ if "level" ∈ c.keys then c.get "level" = .str error else level = error)

namespace Entry

variable {wall : Number} {time level message : String} {l : Line}

lemma heads_name {p : String × String} (hp : p ∈ heads time level message) :
    p.1 ≠ "__proto__" ∧ isPersonal p.1 = false := by
  have hnames : ∀ k ∈ ["timestamp", "level", "message"],
      k ≠ "__proto__" ∧ isPersonal k = false := by decide +kernel
  exact hnames p.1 (List.mem_map_of_mem hp)

lemma nodup_noteFields (time : String) (c : Record) (level message : Value) :
    (Record.keys (noteFields time level message c)).Nodup :=
  Record.nodup_keys_merge _ (nodup_noteKeys ..)

lemma get_noteFields (hc : c.keys.Nodup) {p : String × String}
    (hp : p ∈ heads time level message) :
    Record.get (noteFields time (.str level) (.str message) c) p.1 = headed c p := by
  obtain ⟨hproto, hpersonal⟩ := heads_name hp
  have hbase := nodup_noteKeys (.str time) (.str level) (.str message)
  have hredacted : (Record.keys (redactFields c)).Nodup := by
    rw [keys_redactFields]
    exact hc.filter _
  have hgiven : Record.get [("timestamp", .str time), ("level", .str level),
      ("message", .str message)] p.1 = .str p.2 := by
    simp only [heads, List.mem_cons, List.not_mem_nil, or_false] at hp
    rcases hp with rfl | rfl | rfl <;> rfl
  rw [noteFields, Record.get_merge hbase hredacted, hgiven, get_redactFields hproto hpersonal,
    headed]
  simp only [mem_keys_redactFields hproto]

lemma headed_level_eq_error : headed c ("level", level) = .str error ↔
    if "level" ∈ c.keys then c.get "level" = .str error else level = error := by
  rw [headed]
  split_ifs
  · exact redact_eq_error
  · rw [Value.str.injEq]

lemma written_startsOver (time level message : String) (hc : c.keys.Nodup) (hd : DoubleFields c) :
    (written (Record.get (noteFields time (.str level) (.str message) c) "level")
      (Json.printFields (noteFields time (.str level) (.str message) c))).StartsOver c
        time level message := by
  have hnodup := nodup_noteFields time c (.str level) (.str message)
  have hdoubles : DoubleFields (noteFields time (.str level) (.str message) c) :=
    doubleFields_noteFields time trivial trivial hd
  constructor
  · refine ⟨_, parse?_written _ hdoubles, fun p hp => ?_⟩
    rw [← get_noteFields hc hp]
    exact Json.field_readBack hnodup p.1
  · have hlevel : ("level", level) ∈ heads time level message := by simp [heads]
    have hget := get_noteFields hc hlevel
    rw [← headed_level_eq_error, ← hget, ← Value.same_str, written, streamFor]
    split_ifs with h
    · exact iff_of_true rfl h
    · exact iff_of_false (by simp) h

lemma told_headed_of_agrees {p : String × String}
    (h : p.1 ∈ c.keys → told (redact (c.get p.1)) = .str p.2) : told (headed c p) = .str p.2 := by
  rw [headed]
  split_ifs with hk
  · exact h hk
  · rfl

lemma keeps_iff (h : l.StartsOver c time level message) : l.Keeps time level message ↔
    ∀ p ∈ heads time level message, p.1 ∈ c.keys → told (redact (c.get p.1)) = .str p.2 := by
  obtain ⟨⟨r, hr, hstart⟩, hstream⟩ := h
  constructor
  · rintro ⟨⟨r', hr', hkept⟩, -⟩ p hp hk
    obtain rfl : r = r' := Value.obj.inj (Option.some.inj (hr.symm.trans hr'))
    rw [← hkept p hp, hstart p hp, headed, if_pos hk]
  · intro hagrees
    have htold (p : String × String) (hp : p ∈ heads time level message) :=
      told_headed_of_agrees (hagrees p hp)
    refine ⟨⟨r, hr, fun p hp => (hstart p hp).trans (htold p hp)⟩, ?_⟩
    have hlevel := htold ("level", level) (by simp [heads])
    rw [hstream, ← headed_level_eq_error, ← told_eq_error, hlevel, Value.str.injEq]

/-- A note is written as one line unless something in its context cannot be, and then not at all.
Its time, its level and its message are those of the context where that has them, and its stream is
that of the level which is written. -/
theorem notes_start_over (hw : Calendar.iso? wall = some time) (level message : String)
    (hc : c.keys.Nodup) (hd : DoubleFields c) :
    (noteFault? c = none → ∃ l, (note (.str level) (.str message) (.obj c)).write wall = .ok l ∧
      l.StartsOver c time level message ∧
      (l.Keeps time level message ↔ ∀ p ∈ heads time level message, p.1 ∈ c.keys →
        told (redact (c.get p.1)) = .str p.2)) ∧
    (∀ f, noteFault? c = some f →
      (note (.str level) (.str message) (.obj c)).write wall = .error f) ∧
    ((∀ p ∈ c, Parentless p.2) → noteFault? c = none) := by
  have ht : stamp wall = .ok time := by rw [stamp, hw]
  refine ⟨fun hfault => ?_, fun f hfault => ?_, noteFault?_of_values⟩
  · rw [write_note_obj, ht, hfault]
    have hstart := written_startsOver time level message hc hd
    exact ⟨_, rfl, hstart, keeps_iff hstart⟩
  · rw [write_note_obj, ht, hfault]
    rfl

def lowering : Record := [("level", .str info)]

theorem notes_start_over_lowered : ∃ l,
    (note (.str error) (.str "m") (.obj lowering)).write .zero = .ok l ∧
      l.StartsOver lowering "1970-01-01T00:00:00.000Z" error "m" ∧
      ¬ l.Keeps "1970-01-01T00:00:00.000Z" error "m" ∧ l.stream = .out := by
  have hw : Calendar.iso? .zero = some "1970-01-01T00:00:00.000Z" := by decide +kernel
  have htext : Parentless (.str info) := by rintro r ⟨⟩
  have hlevel : "level" ∈ lowering.keys := by decide
  have hget : lowering.get "level" = .str info := rfl
  have hinfo : Value.str info ≠ .str error := by
    rw [ne_eq, Value.str.injEq]
    decide
  obtain ⟨hwritten, -, hsound⟩ :=
    notes_start_over (c := lowering) hw error "m" (by decide) ⟨trivial, trivial⟩
  obtain ⟨l, hl, hstart, hkeeps⟩ := hwritten (hsound (by simpa [lowering] using htext))
  refine ⟨l, hl, hstart, fun hkept => ?_, ?_⟩
  · have hsame := hkeeps.1 hkept ("level", error) (by simp [heads]) hlevel
    rw [hget, told_eq_error, redact_eq_error] at hsame
    exact hinfo hsame
  · have hstream : ¬ l.stream = .err := by
      rw [hstart.2, if_pos hlevel, hget]
      exact hinfo
    cases hs : l.stream with
    | out => rfl
    | err => exact absurd hs hstream

end Entry

end AuthGate.Log
