import AuthGate.Log.Entry
import AuthGate.Proofs.Except
import AuthGate.Proofs.Json.RoundTrip
import AuthGate.Service.Refusal

namespace AuthGate

namespace Json

lemma quote_inj {s t : String} {r r' : List Char} (h : quote s.toList ++ r = quote t.toList ++ r') :
    s = t ∧ r = r' := by
  have hs : (quote s.toList).length ≤ (quote s.toList).length + (quote t.toList).length + 1 := by
    omega
  have ht : (quote t.toList).length ≤ (quote s.toList).length + (quote t.toList).length + 1 := by
    omega
  obtain ⟨u, hu, hread⟩ := string_quote s hs r
  obtain ⟨u', hu', hread'⟩ := string_quote t ht r'
  obtain rfl : u = u' := by simpa [hu, hu'] using h
  simpa [hread] using hread'

def textMember (key value : String) : List Char := quote key.toList ++ ':' :: quote value.toList

lemma textMember_inj {k v k' v' : String} {r r' : List Char}
    (h : textMember k v ++ r = textMember k' v' ++ r') : k = k' ∧ v = v' ∧ r = r' := by
  simp only [textMember, List.append_assoc, List.cons_append] at h
  obtain ⟨hk, h⟩ := quote_inj h
  obtain ⟨hv, hr⟩ := quote_inj (List.cons.inj h).2
  exact ⟨hk, hv, hr⟩

lemma separated_cons (t : List Char) (ts : List (List Char)) :
    ∃ r, separated (t :: ts) = t ++ r := by
  cases ts with
  | nil => exact ⟨[], (List.append_nil t).symm⟩
  | cons u ts => exact ⟨_, rfl⟩

lemma object_texts (k₁ v₁ k₂ v₂ k₃ v₃ : String) (more : List (String × List Char)) :
    ∃ r, object ((k₁, quote v₁.toList) :: (k₂, quote v₂.toList) :: (k₃, quote v₃.toList) :: more) =
      '\x7b' :: (textMember k₁ v₁ ++ ',' ::
        (textMember k₂ v₂ ++ ',' :: (textMember k₃ v₃ ++ r))) := by
  obtain ⟨r, hr⟩ := separated_cons (textMember k₃ v₃)
    (more.map fun m => quote m.1.toList ++ ':' :: m.2)
  refine ⟨r ++ ['\x7d'], ?_⟩
  simp only [textMember] at hr ⊢
  simp only [object, List.map_cons, separated, hr, List.append_assoc, List.cons_append]

end Json

namespace Log

open Json

def Line.StartsWith (l : Line) (key value : String) : Prop :=
  ∃ time level r, l.text.toList = '\x7b' :: (textMember "timestamp" time ++ ',' ::
    (textMember "level" level ++ ',' :: (textMember key value ++ r)))

def Line.IsOf (kind : String) (l : Line) : Prop := l.StartsWith "log_type" kind

def Line.IsNote (message : String) (l : Line) : Prop := l.StartsWith "message" message

variable {l : Line} {wall : Number}

lemma Line.StartsWith.unique {k v k' v' : String} (h : l.StartsWith k v) (h' : l.StartsWith k' v') :
    k = k' ∧ v = v' := by
  obtain ⟨time, level, r, h⟩ := h
  obtain ⟨time', level', r', h'⟩ := h'
  obtain ⟨-, -, h⟩ := textMember_inj (List.cons.inj (h.symm.trans h')).2
  obtain ⟨-, -, h⟩ := textMember_inj (List.cons.inj h).2
  obtain ⟨hk, hv, -⟩ := textMember_inj (List.cons.inj h).2
  exact ⟨hk, hv⟩

lemma Line.IsNote.not_isOf {message : String} (h : l.IsNote message) (kind : String) :
    ¬ l.IsOf kind := by
  intro hkind
  exact absurd (hkind.unique h).1 (by decide)

namespace Entry

lemma exists_stamp (hw : (Calendar.iso? wall).isSome = true) : ∃ time, stamp wall = .ok time := by
  obtain ⟨time, ht⟩ := Option.isSome_iff_exists.1 hw
  exact ⟨time, by rw [stamp, ht]⟩

lemma written_startsWith (level : Value) (time lv k v : String) (fields : Record)
    (more : List (String × List Char)) : (written level (printFields
      (("timestamp", .str time) :: ("level", .str lv) :: (k, .str v) :: fields) ++ more)).StartsWith
        k v := by
  obtain ⟨r, hr⟩ := object_texts "timestamp" time "level" lv k v (printFields fields ++ more)
  refine ⟨time, lv, r, ?_⟩
  rw [written, String.toList_ofList, ← hr]
  simp [printFields, print?]

def kind? : Entry → Option String
  | request .. => some "API_REQUEST"
  | authentication .. => some "AUTHENTICATION"
  | authorization .. => some "AUTHORIZATION"
  | database .. => some "DATABASE_ERROR"
  | security .. => some "SECURITY_VIOLATION"
  | note .. => none

section

variable (level requestId : Value) (time lv kind : String) (fields : Record)

lemma isOf_written_append (more : List (String × List Char)) :
    (written level (printFields (opening time lv kind requestId ++ fields) ++ more)).IsOf kind :=
  written_startsWith level time lv "log_type" kind (("request_id", requestId) :: fields) more

lemma isOf_written :
    (written level (printFields (opening time lv kind requestId ++ fields))).IsOf kind := by
  simpa using isOf_written_append level requestId time lv kind fields []

end

lemma isOf_of_write {e : Entry} {k : String} (hk : e.kind? = some k) (h : e.write wall = .ok l) :
    l.IsOf k := by
  cases e with
  | note => cases hk
  | request =>
    obtain rfl := Option.some.inj hk
    obtain ⟨time, -, h⟩ := Except.bind_eq_ok.1 h
    obtain ⟨n, -, h⟩ := Except.bind_eq_ok.1 h
    obtain rfl := Except.ok.inj h
    exact isOf_written ..
  | authentication =>
    obtain rfl := Option.some.inj hk
    obtain ⟨time, -, h⟩ := Except.bind_eq_ok.1 h
    dsimp only at h
    split at h
    · obtain rfl := Except.ok.inj h
      exact isOf_written ..
    · obtain ⟨reason, -, h⟩ := Except.bind_eq_ok.1 h
      obtain rfl := Except.ok.inj h
      exact isOf_written ..
  | authorization =>
    obtain rfl := Option.some.inj hk
    obtain ⟨time, -, h⟩ := Except.bind_eq_ok.1 h
    obtain rfl := Except.ok.inj h
    exact isOf_written ..
  | database =>
    obtain rfl := Option.some.inj hk
    obtain ⟨query, -, h⟩ := Except.bind_eq_ok.1 h
    obtain ⟨time, -, h⟩ := Except.bind_eq_ok.1 h
    obtain rfl := Except.ok.inj h
    exact isOf_written_append ..
  | security =>
    obtain rfl := Option.some.inj hk
    obtain ⟨time, -, h⟩ := Except.bind_eq_ok.1 h
    split_ifs at h
    · cases h
    obtain ⟨-, -, h⟩ := Except.bind_eq_ok.1 h
    obtain rfl := Except.ok.inj h
    exact isOf_written ..

lemma fieldsFault?_of_sound {r : Record} (h : ∀ p ∈ r, fault? p.2 = none) :
    fieldsFault? r = none := by
  induction r with
  | nil => rfl
  | cons p r ih =>
    obtain ⟨k, v⟩ := p
    obtain ⟨hv, hr⟩ := List.forall_mem_cons.1 h
    rw [fieldsFault?, ih hr, hv]
    split_ifs
    · rfl
    · rfl

lemma write_note {time : String} (ht : stamp wall = .ok time) {context : Record}
    (hfault : noteFault? context = none) (level message : Value) :
    (note level message (.obj context)).write wall =
      .ok (written (Record.get (noteFields time level message context) "level")
        (printFields (noteFields time level message context))) := by
  rw [write, ht]
  simp only [Value.truthy, Value.entries, if_true, hfault]
  rfl

def unhandledContext (requestId name message stack : String) : Record :=
  [("request_id", .str requestId), ("error_name", .str name), ("error_message", .str message),
    ("stack", .str stack)]

section

variable (requestId name message stack : String)

lemma merge_unhandledContext (v w u : Value) :
    Record.merge [("timestamp", v), ("level", w), ("message", u)]
        (unhandledContext requestId name message stack) =
      ("timestamp", v) :: ("level", w) :: ("message", u) ::
        unhandledContext requestId name message stack := by
  apply Record.merge_new
  · simp [Record.keys, unhandledContext]
    decide
  · simp [Record.keys, unhandledContext]

lemma noteFault?_unhandledContext :
    noteFault? (unhandledContext requestId name message stack) = none := by
  rw [noteFault?, merge_unhandledContext]
  apply fieldsFault?_of_sound
  simp [unhandledContext, fault?]

lemma redactFields_unhandledContext : redactFields (unhandledContext requestId name message stack) =
    unhandledContext (redactText requestId) (redactText name) (redactText message)
      (redactText stack) := by
  have hid : isPersonal "request_id" = false := by decide +kernel
  have hname : isPersonal "error_name" = false := by decide +kernel
  have hmessage : isPersonal "error_message" = false := by decide +kernel
  have hstack : isPersonal "stack" = false := by decide +kernel
  simp [unhandledContext, redactFields, redact, hid, hname, hmessage, hstack]

lemma noteFields_unhandledContext (time : String) : ∃ rest,
    noteFields time (.str error) (.str "Unhandled error")
        (unhandledContext requestId name message stack) =
      ("timestamp", .str time) :: ("level", .str error) :: ("message", .str "Unhandled error") ::
        rest := by
  rw [noteFields, redactFields_unhandledContext, merge_unhandledContext]
  exact ⟨_, rfl⟩

end

lemma write_unhandled {time : String} (ht : stamp wall = .ok time) (requestId : String)
    (f : Failure) : ∃ l, (Failure.unhandled (.str requestId) f).write wall = .ok l ∧
      l.stream = .err ∧ l.IsNote "Unhandled error" := by
  obtain ⟨rest, hfields⟩ := noteFields_unhandledContext requestId f.name f.message f.stack time
  have hnote := write_note ht (noteFault?_unhandledContext requestId f.name f.message f.stack)
    (.str error) (.str "Unhandled error")
  rw [hfields] at hnote
  have hstart := written_startsWith (.str error) time error "message" "Unhandled error" rest []
  rw [List.append_nil] at hstart
  exact ⟨_, hnote, rfl, hstart⟩

lemma statusLevel_eq_error {n : ℕ} (hn : n ≤ 2 ^ 53) :
    statusLevel (.ofNat n) = error ↔ 500 ≤ n := by
  have h500 := Number.ofNat_eq (n := 500) (by norm_num)
  have h400 := Number.ofNat_eq (n := 400) (by norm_num)
  have hle (k : ℕ) : Number.le (.finite k) (.finite n) = true ↔ k ≤ n := by
    simp [Number.le, Number.lt, Number.toRat?]
  rw [statusLevel, Number.ofNat_eq hn, h500, h400]
  split_ifs with h h'
  · simpa using (hle 500).1 h
  · simpa [warn, error] using mt (hle 500).2 h
  · simpa [info, error] using mt (hle 500).2 h

end Entry

/-- A line can be read, and tells of a request: its id, who asked, for what, and the answer. -/
def Line.Tells (l : Line) (requestId : String) (userId : Option String) (method path : String)
    (status : ℕ) : Prop :=
  ∃ fields : Record, Json.parse? l.text.toList = some (.obj fields) ∧
    fields.get "request_id" = .str requestId ∧
    fields.get "user_id" = (userId.map .str).getD .undefined ∧
    fields.get "method" = .str method ∧ fields.get "path" = .str path ∧
    fields.get "status_code" = .ofNat status

namespace Entry

variable {requestId method path : String} {userId : Option String} {status : ℕ}

def requestFields (time level requestId : String) (userId : Option String) (method path : String)
    (status : ℕ) : Record :=
  opening time level "API_REQUEST" (.str requestId) ++
    (userId.toList.map fun u => ("user_id", Value.str u)) ++
    [("method", .str method), ("path", .str path), ("status_code", .ofNat status),
      ("latency_ms", .num .zero)]

lemma readable_requestFields (time level : String) (hs : status ≤ 2 ^ 53) :
    Json.Readable (.obj (requestFields time level requestId userId method path status)) := by
  have hstatus : Json.Readable (.ofNat status) := by
    rw [Value.ofNat, Number.ofNat_eq hs]
    exact Number.isBinary_natCast hs
  cases userId with
  | none =>
    refine ⟨⟨trivial, trivial, trivial, trivial, trivial, trivial, hstatus, Number.isBinary_zero,
      trivial⟩, Record.ofList_new ?_ ?_⟩
    · simp [Record.keys, requestFields, opening]
      decide
    · simp [Record.keys, requestFields, opening]
  | some u =>
    refine ⟨⟨trivial, trivial, trivial, trivial, trivial, trivial, trivial, hstatus,
      Number.isBinary_zero, trivial⟩, Record.ofList_new ?_ ?_⟩
    · simp [Record.keys, requestFields, opening]
      decide
    · simp [Record.keys, requestFields, opening]

lemma print_requestFields (time level : String) :
    Json.print (.obj (requestFields time level requestId userId method path status)) =
      Json.object (Json.printFields (opening time level "API_REQUEST" (.str requestId) ++
        [("user_id", (userId.map .str).getD .undefined), ("method", .str method),
          ("path", .str path), ("status_code", .ofNat status), ("latency_ms", .num .zero)])) := by
  cases userId with
  | none => simp [Json.print, Json.print?, Json.printFields, requestFields, opening]
  | some u => simp [Json.print, Json.print?, Json.printFields, requestFields, opening]

lemma write_request (requestId : String) (userId : Option String) (method path : String)
    {time : String} (ht : stamp wall = .ok time) (hs : status ≤ 2 ^ 53) :
    ∃ l, (request (.str requestId) ((userId.map .str).getD .undefined) (.str method) (.str path)
        (.ofNat status) (.num .zero)).write wall = .ok l ∧
      l.Tells requestId userId method path status ∧ (l.stream = .err ↔ 500 ≤ status) := by
  have hnumber : Value.number (.ofNat status) = .ok (.ofNat status) := rfl
  refine ⟨_, by rw [write, ht]; rfl, ?_, ?_⟩
  · refine ⟨requestFields time (statusLevel (.ofNat status)) requestId userId method path status,
      ?_, ?_⟩
    · rw [written, String.toList_ofList, ← print_requestFields]
      exact Json.parse?_print (readable_requestFields _ _ hs)
    · cases userId with
      | none => exact ⟨rfl, rfl, rfl, rfl, rfl⟩
      | some u => exact ⟨rfl, rfl, rfl, rfl, rfl⟩
  · rw [← statusLevel_eq_error hs, written, streamFor]
    simp [Value.same]

end Entry

end Log

end AuthGate
