import AuthGate.Proofs.Log.Address
import AuthGate.Proofs.Log.Phone
import AuthGate.Proofs.Log.Shown

namespace AuthGate.Log

open Json (readBack readItems readFields Doubles DoubleItems DoubleFields)

variable {v w : Value} {r : Record} {k : String}

mutual

/-- A value less what it holds under personal names. -/
def impersonal : Value → Value
  | .arr items => .arr (impersonalItems items)
  | .obj fields => .obj (impersonalFields fields)
  | v => v

def impersonalItems : List Value → List Value
  | [] => []
  | v :: vs => impersonal v :: impersonalItems vs

def impersonalFields : List (String × Value) → List (String × Value)
  | [] => []
  | (k, v) :: r => (k, if isPersonal k then .null else impersonal v) :: impersonalFields r

end

lemma isPersonal_proto : isPersonal "__proto__" = false := by decide +kernel

lemma impersonalFields_eq (r : Record) : impersonalFields r =
    Record.mapFields (fun k v => if isPersonal k then .null else impersonal v) r := by
  induction r with
  | nil => rfl
  | cons p r ih => exact congrArg (_ :: ·) ih

lemma keys_impersonalFields (r : Record) : Record.keys (impersonalFields r) = r.keys := by
  rw [impersonalFields_eq, Record.keys_mapFields]

mutual

lemma redact_impersonal : ∀ v, redact (impersonal v) = redact v
  | .arr items => congrArg Value.arr (redactItems_impersonal items)
  | .obj fields => congrArg Value.obj (redactFields_impersonal fields)
  | .undefined | .null | .bool _ | .num _ | .str _ | .half _ | .date _ => rfl

lemma redactItems_impersonal : ∀ vs, redactItems (impersonalItems vs) = redactItems vs
  | [] => rfl
  | v :: vs => congrArg₂ List.cons (redact_impersonal v) (redactItems_impersonal vs)

lemma redactFields_impersonal : ∀ r, redactFields (impersonalFields r) = redactFields r
  | [] => rfl
  | (k, v) :: r => by
    rw [impersonalFields, redactFields, redactFields, redactFields_impersonal r]
    split_ifs
    · rfl
    · rfl
    · rw [redact_impersonal v]

end

mutual

lemma ancestorFault?_impersonal : ∀ own v, ancestorFault? own (impersonal v) = ancestorFault? own v
  | own, .obj fields => by
    rw [impersonal, ancestorFault?, ancestorFault?, parentFault?_impersonal _ fields]
    exact congrArg (parentFault? · fields) (congrArg (· ++ own) (keys_impersonalFields fields))
  | _, .arr _ | _, .undefined | _, .null | _, .bool _ | _, .num _ | _, .str _ | _, .half _
  | _, .date _ => rfl

lemma parentFault?_impersonal : ∀ own r,
    parentFault? own (impersonalFields r) = parentFault? own r
  | _, [] => rfl
  | own, (k, v) :: r => by
    rw [impersonalFields, parentFault?, parentFault?, parentFault?_impersonal own r]
    split_ifs with hk hp
    · rw [hk, isPersonal_proto] at hp
      cases hp
    · exact ancestorFault?_impersonal own v
    · rfl

end

mutual

lemma fault?_impersonal : ∀ v, fault? (impersonal v) = fault? v
  | .arr items => itemsFault?_impersonal items
  | .obj fields => by
    rw [impersonal, fault?, fault?, parentFault?_impersonal, fieldsFault?_impersonal fields]
    exact congrArg (fun own => (parentFault? own fields).or (fieldsFault? fields))
      (keys_impersonalFields fields)
  | .undefined | .null | .bool _ | .num _ | .str _ | .half _ | .date _ => rfl

lemma itemsFault?_impersonal : ∀ vs, itemsFault? (impersonalItems vs) = itemsFault? vs
  | [] => rfl
  | v :: vs => by
    rw [impersonalItems, itemsFault?, itemsFault?, fault?_impersonal v, itemsFault?_impersonal vs]

lemma fieldsFault?_impersonal : ∀ r, fieldsFault? (impersonalFields r) = fieldsFault? r
  | [] => rfl
  | (k, v) :: r => by
    rw [impersonalFields, fieldsFault?, fieldsFault?, fieldsFault?_impersonal r]
    split_ifs with hk hp
    · rfl
    · exact absurd (.inr hp) hk
    · rw [fault?_impersonal v]

end

namespace Entry

-- The names that a note starts with are not personal, so its own fields stay as they are.
lemma noteFault?_impersonal (r : Record) : noteFault? (impersonalFields r) = noteFault? r := by
  rw [noteFault?, noteFault?, ← fieldsFault?_impersonal (Record.merge _ r), impersonalFields_eq r,
    impersonalFields_eq (Record.merge _ r), ← Record.merge_mapFields]
  have hnames : isPersonal "timestamp" = false ∧ isPersonal "level" = false ∧
      isPersonal "message" = false := by decide +kernel
  obtain ⟨htimestamp, hlevel, hmessage⟩ := hnames
  simp [Record.mapFields, htimestamp, hlevel, hmessage, impersonal]

def securityFields (time : String) (requestId userId violation severity : Value) (r : Record) :
    Record :=
  opening time error "SECURITY_VIOLATION" requestId ++
    [("user_id", userId), ("violation_type", violation), ("severity", severity),
      ("context", .obj (redactFields r))]

section

variable (wall : Number) (level message requestId userId violation severity : Value) (r : Record)

lemma write_note_obj : (note level message (.obj r)).write wall = do
    let time ← stamp wall
    faultless (noteFault? r)
    return written (Record.get (noteFields time level message r) "level")
      (Json.printFields (noteFields time level message r)) :=
  rfl

lemma write_security_obj :
    (security requestId userId violation severity (.obj r)).write wall = do
      let time ← stamp wall
      faultless (fault? (.obj r))
      return written (.str error)
        (Json.printFields (securityFields time requestId userId violation severity r)) :=
  rfl

lemma write_note_impersonal : (note level message (.obj (impersonalFields r))).write wall =
    (note level message (.obj r)).write wall := by
  simp only [write_note_obj, noteFields, noteFault?_impersonal, redactFields_impersonal]

lemma write_security_impersonal :
    (security requestId userId violation severity (.obj (impersonalFields r))).write wall =
      (security requestId userId violation severity (.obj r)).write wall := by
  have hfault : fault? (.obj (impersonalFields r)) = fault? (.obj r) := fault?_impersonal (.obj r)
  simp only [write_security_obj, securityFields, hfault, redactFields_impersonal]

end

end Entry

inductive Within (v : Value) : Value → Prop
  | self : Within v v
  | item {w : Value} {items : List Value} : w ∈ items → Within v w → Within v (.arr items)
  | field {p : String × Value} {fields : Record} : p ∈ fields → Within v p.2 →
      Within v (.obj fields)

def Clean (v : Value) : Prop :=
  ∀ s, Within (.str s) v → ¬ ShowsAddress s.toList ∧ ¬ ShowsPhone s.toList

lemma clean_str {s : String} :
    Clean (.str s) ↔ ¬ ShowsAddress s.toList ∧ ¬ ShowsPhone s.toList := by
  constructor
  · exact fun h => h s .self
  · rintro h _ ⟨⟩
    exact h

lemma clean_of_notMem {s : String} (hat : '@' ∉ s.toList) (hphone : ¬ ShowsPhone s.toList) :
    Clean (.str s) :=
  clean_str.2 ⟨not_showsAddress_of_notMem hat, hphone⟩

lemma clean_arr {vs : List Value} (h : ∀ v ∈ vs, Clean v) : Clean (.arr vs) := by
  rintro s (_ | ⟨hv, hs⟩)
  exact h _ hv s hs

lemma clean_obj (h : ∀ p ∈ r, Clean p.2) : Clean (.obj r) := by
  rintro s (_ | _ | ⟨hp, hs⟩)
  exact h _ hp s hs

lemma clean_redactText (s : String) : Clean (.str (redactText s)) :=
  clean_str.2 ⟨not_showsAddress_redactText s, not_showsPhone_redactText s⟩

lemma clean_readNumber (n : Number) : Clean (Json.readNumber n) := by
  cases n <;> rintro s ⟨⟩

lemma clean_date (ms : Number) : Clean (readBack (.date ms)) := by
  rw [readBack, Calendar.iso?]
  cases ht : Calendar.instant? ms with
  | none => rintro s ⟨⟩
  | some t =>
    apply clean_of_notMem
    · rw [String.toList_ofList]
      exact Calendar.at_notMem_iso t
    · rw [String.toList_ofList]
      exact not_showsPhone_iso (Calendar.natAbs_of_instant? ht)

lemma clean_char (c : Char) : Clean (.str (.ofList [c])) := by
  rw [clean_str, String.toList_ofList, showsAddress_cons, ShowsPhone, showsPhoneAfter_cons]
  simp [not_showsAddress_nil, showsPhoneAfter_nil, afterPhone?, dropDigits?]

mutual

lemma clean_redact : ∀ v, Clean (readBack (redact v))
  | .str s => clean_redactText s
  | .num n => clean_readNumber n
  | .half u => clean_char (Text.unitChar u)
  | .date ms => clean_date ms
  | .arr items => clean_arr (clean_redactItems items)
  | .obj fields => clean_obj fun p hp => clean_redactFields fields p (Record.mem_of_mem_ofList hp)
  | .undefined => by rintro s ⟨⟩
  | .null => by rintro s ⟨⟩
  | .bool _ => by rintro s ⟨⟩

lemma clean_redactItems : ∀ vs, ∀ v ∈ readItems (redactItems vs), Clean v
  | [] => List.forall_mem_nil _
  | v :: vs => List.forall_mem_cons.2 ⟨clean_redact v, clean_redactItems vs⟩

lemma clean_redactFields : ∀ r, ∀ p ∈ readFields (redactFields r), Clean p.2
  | [] => List.forall_mem_nil _
  | (k, v) :: r => by
    rw [redactFields]
    split_ifs
    · exact clean_redactFields r
    · rw [readFields]
      exact List.forall_mem_cons.2 ⟨clean_of_notMem (by decide) (by decide),
        clean_redactFields r⟩
    · rw [readFields]
      split_ifs
      · exact clean_redactFields r
      · exact List.forall_mem_cons.2 ⟨clean_redact v, clean_redactFields r⟩

end

mutual

lemma doubles_redact : ∀ v, Doubles v → Doubles (redact v)
  | .arr items, h => doubles_redactItems items h
  | .obj fields, h => doubles_redactFields fields h
  | .num _, h => h
  | .undefined, _ | .null, _ | .bool _, _ | .str _, _ | .half _, _ | .date _, _ => trivial

lemma doubles_redactItems : ∀ vs, DoubleItems vs → DoubleItems (redactItems vs)
  | [], _ => trivial
  | v :: vs, h => ⟨doubles_redact v h.1, doubles_redactItems vs h.2⟩

lemma doubles_redactFields : ∀ r, DoubleFields r → DoubleFields (redactFields r)
  | [], _ => trivial
  | (k, v) :: r, h => by
    rw [redactFields]
    split_ifs
    · exact doubles_redactFields r h.2
    · exact ⟨trivial, doubles_redactFields r h.2⟩
    · exact ⟨doubles_redact v h.1, doubles_redactFields r h.2⟩

end

lemma keys_redactFields (r : Record) :
    Record.keys (redactFields r) = r.keys.filter (· ≠ "__proto__") := by
  induction r with
  | nil => rfl
  | cons p r ih =>
    obtain ⟨k, v⟩ := p
    change _ = (k :: Record.keys r).filter _
    by_cases h : k = "__proto__"
    · rw [redactFields, if_pos h, List.filter_cons_of_neg (by simp [h]), ih]
    · rw [redactFields, if_neg h, List.filter_cons_of_pos (by simp [h]), ← ih]
      rfl

/-- The line can be read, and all that it shows is clean but what a note has without a context. If
no name comes twice, it shows the fields of the context as they are redacted. -/
def Line.ShowsNote (l : Line) (context : Record) : Prop :=
  ∃ r, Json.parse? l.text.toList = some (.obj r) ∧
    (∀ p ∈ r, Clean p.2 ∨ p.1 ∈ ["timestamp", "level", "message"] ∧ p.1 ∉ context.keys) ∧
    (context.keys.Nodup → ∀ p ∈ readFields (redactFields context), p ∈ r)

def Line.ShowsContext (l : Line) (context : Record) : Prop :=
  ∃ r, Json.parse? l.text.toList = some (.obj r) ∧
    Record.get r "context" = readBack (redact (.obj context)) ∧ Clean (Record.get r "context")

namespace Entry

lemma parse?_written (level : Value) (h : DoubleFields r) :
    Json.parse? (written level (Json.printFields r)).text.toList =
      some (.obj (Record.ofList (readFields r))) := by
  rw [written, String.toList_ofList]
  exact Json.parse?_fields h

variable {wall : Number} {time : String} {level message : Value} {l : Line}

lemma nodup_noteKeys (time level message : Value) : (Record.keys [("timestamp", time),
    ("level", level), ("message", message)]).Nodup := by
  change ["timestamp", "level", "message"].Nodup
  decide

lemma mem_noteFields {p : String × Value} (h : p ∈ noteFields time level message r) :
    p ∈ redactFields r ∨
      p ∈ [("timestamp", .str time), ("level", level), ("message", message)] ∧ p.1 ∉ r.keys := by
  rcases Record.of_mem_merge (nodup_noteKeys ..) h with h | ⟨h, hk⟩
  · exact .inl h
  · -- Redaction drops no name but `__proto__`, so a name of the context has been written over.
    refine .inr ⟨h, fun hr => hk ?_⟩
    have hnames : ∀ k ∈ ["timestamp", "level", "message"], k ≠ "__proto__" := by decide
    rw [keys_redactFields, List.mem_filter, decide_eq_true_iff]
    exact ⟨hr, hnames p.1 (Record.mem_keys h)⟩

lemma mem_ofList_noteFields (hr : r.keys.Nodup) {p : String × Value}
    (hp : p ∈ readFields (redactFields r)) :
    p ∈ Record.ofList (readFields (noteFields time level message r)) := by
  obtain ⟨v, hv, hdefined, hback⟩ := Json.mem_readFields.1 hp
  have hredacted : (Record.keys (redactFields r)).Nodup := by
    rw [keys_redactFields]
    exact hr.filter _
  have hbase := nodup_noteKeys (.str time) level message
  have hnote : (p.1, v) ∈ noteFields time level message r :=
    (Record.mem_merge hbase hredacted).2 (.inl hv)
  have hnodup : (Record.keys (noteFields time level message r)).Nodup :=
    Record.nodup_keys_merge (redactFields r) hbase
  have hkeys := (Json.keys_readFields_sublist _).nodup hnodup
  apply (Record.mem_merge (r := []) List.nodup_nil hkeys).2
  exact .inl (Json.mem_readFields.2 ⟨v, hnote, hdefined, hback⟩)

lemma doubleFields_noteFields (time : String) (hlevel : Doubles level) (hmessage : Doubles message)
    (hr : DoubleFields r) : DoubleFields (noteFields time level message r) := by
  rw [Json.doubleFields_iff]
  intro p hp
  rcases mem_noteFields hp with hp | ⟨hp, -⟩
  · exact Json.doubleFields_iff.1 (doubles_redactFields r hr) p hp
  · simp only [List.mem_cons, List.not_mem_nil, or_false] at hp
    rcases hp with rfl | rfl | rfl
    · trivial
    · exact hlevel
    · exact hmessage

lemma write_note_shows (h : (note level message (.obj r)).write wall = .ok l)
    (hlevel : Doubles level) (hmessage : Doubles message) (hr : DoubleFields r) : l.ShowsNote r := by
  rw [write_note_obj] at h
  obtain ⟨time, -, h⟩ := Except.bind_eq_ok.1 h
  obtain ⟨-, -, h⟩ := Except.bind_eq_ok.1 h
  obtain rfl := Except.ok.inj h
  have hdoubles := doubleFields_noteFields time hlevel hmessage hr
  refine ⟨_, parse?_written _ hdoubles, fun p hp => ?_, fun hr p => mem_ofList_noteFields hr⟩
  obtain ⟨v, hv, hdefined, hback⟩ := Json.mem_readFields.1 (Record.mem_of_mem_ofList hp)
  rcases mem_noteFields hv with hv | ⟨hv, hk⟩
  · exact .inl (clean_redactFields r p (Json.mem_readFields.2 ⟨v, hv, hdefined, hback⟩))
  · exact .inr ⟨Record.mem_keys hv, hk⟩

lemma write_security_shows {requestId userId violation severity : Value}
    (h : (security requestId userId violation severity (.obj r)).write wall = .ok l)
    (hvalues : ∀ v ∈ [requestId, userId, violation, severity], Doubles v) (hr : DoubleFields r) :
    l.ShowsContext r := by
  rw [write_security_obj] at h
  obtain ⟨time, -, h⟩ := Except.bind_eq_ok.1 h
  obtain ⟨-, -, h⟩ := Except.bind_eq_ok.1 h
  obtain rfl := Except.ok.inj h
  have hdoubles : DoubleFields (securityFields time requestId userId violation severity r) := by
    simp only [List.mem_cons, List.not_mem_nil, or_false, forall_eq_or_imp, forall_eq] at hvalues
    obtain ⟨hrequest, huser, hviolation, hseverity⟩ := hvalues
    exact ⟨trivial, trivial, trivial, hrequest, huser, hviolation, hseverity,
      doubles_redactFields r hr, trivial⟩
  have hkeys := Json.keys_readFields_sublist
    (securityFields time requestId userId violation severity r)
  have hnames : ["timestamp", "level", "log_type", "request_id", "user_id", "violation_type",
      "severity", "context"].Nodup := by decide
  have hindex : ∀ k ∈ ["timestamp", "level", "log_type", "request_id", "user_id",
      "violation_type", "severity", "context"], arrayIndex? k = none := by decide
  have hlist := Record.ofList_of_sublist hkeys hindex hnames
  have hcontext : Record.get (readFields
      (securityFields time requestId userId violation severity r)) "context" =
        readBack (redact (.obj r)) := by
    apply Record.get_of_mem (hkeys.nodup hnames)
    rw [redact]
    exact Json.mem_readFields.2 ⟨_, by simp [securityFields, opening], rfl, rfl⟩
  refine ⟨_, parse?_written _ hdoubles, ?_⟩
  rw [hlist, hcontext]
  exact ⟨rfl, clean_redact (.obj r)⟩

def Parentless (v : Value) : Prop := ∀ r, Within (.obj r) v → "__proto__" ∉ Record.keys r

lemma parentless_arr {vs : List Value} : Parentless (.arr vs) ↔ ∀ v ∈ vs, Parentless v := by
  constructor
  · exact fun h v hv r hr => h r (.item hv hr)
  · rintro h r (_ | ⟨hv, hr⟩)
    exact h _ hv r hr

lemma parentless_obj :
    Parentless (.obj r) ↔ "__proto__" ∉ r.keys ∧ ∀ p ∈ r, Parentless p.2 := by
  constructor
  · exact fun h => ⟨h r .self, fun p hp r' hr' => h r' (.field hp hr')⟩
  · rintro ⟨hr, h⟩ r' (_ | _ | ⟨hp, hr'⟩)
    · exact hr
    · exact h _ hp r' hr'

lemma parentFault?_eq_none {own : List String} (h : "__proto__" ∉ Record.keys r) :
    parentFault? own r = none := by
  induction r with
  | nil => rfl
  | cons p r ih =>
    obtain ⟨hne, hr⟩ := not_or.1 (mt List.mem_cons.2 h)
    rw [parentFault?, if_neg (Ne.symm hne), ih hr]

mutual

lemma fault?_eq_none : ∀ v, Parentless v → fault? v = none
  | .arr items, h => itemsFault?_eq_none items (parentless_arr.1 h)
  | .obj fields, h => by
    obtain ⟨hproto, hfields⟩ := parentless_obj.1 h
    rw [fault?, parentFault?_eq_none hproto, fieldsFault?_of_sound (sound_fields fields hfields)]
    rfl
  | .undefined, _ | .null, _ | .bool _, _ | .num _, _ | .str _, _ | .half _, _ | .date _, _ => rfl

lemma itemsFault?_eq_none : ∀ vs, (∀ v ∈ vs, Parentless v) → itemsFault? vs = none
  | [], _ => rfl
  | v :: vs, h => by
    obtain ⟨hv, hvs⟩ := List.forall_mem_cons.1 h
    rw [itemsFault?, fault?_eq_none v hv, itemsFault?_eq_none vs hvs]
    rfl

lemma sound_fields : ∀ r : Record, (∀ p ∈ r, Parentless p.2) → ∀ p ∈ r, fault? p.2 = none
  | [], _ => List.forall_mem_nil _
  | (_, v) :: r, h =>
    List.forall_mem_cons.2 ⟨fault?_eq_none v (List.forall_mem_cons.1 h).1,
      sound_fields r (List.forall_mem_cons.1 h).2⟩

end

lemma noteFault?_of_values (h : ∀ p ∈ r, Parentless p.2) : noteFault? r = none := by
  apply fieldsFault?_of_sound
  intro p hp
  rcases Record.of_mem_merge (nodup_noteKeys ..) hp with hp | ⟨hp, -⟩
  · exact fault?_eq_none p.2 (h p hp)
  · simp only [List.mem_cons, List.not_mem_nil, or_false] at hp
    rcases hp with rfl | rfl | rfl <;> rfl

lemma noteFault?_eq_none (h : Parentless (.obj r)) : noteFault? r = none :=
  noteFault?_of_values (parentless_obj.1 h).2

/-- Contexts that differ only under personal names give the same lines, and what a line shows of its
context is redacted at every depth. A context without parents can be written. -/
theorem contexts_redacted (wall : Number) (c : Record) :
    (∀ d, impersonalFields d = impersonalFields c →
      (∀ level message, (note level message (.obj d)).write wall =
        (note level message (.obj c)).write wall) ∧
      ∀ requestId userId violation severity,
        (security requestId userId violation severity (.obj d)).write wall =
          (security requestId userId violation severity (.obj c)).write wall) ∧
    (DoubleFields c →
      (∀ level message l, Doubles level → Doubles message →
        (note level message (.obj c)).write wall = .ok l → l.ShowsNote c) ∧
      ∀ requestId userId violation severity l,
        (∀ v ∈ [requestId, userId, violation, severity], Doubles v) →
          (security requestId userId violation severity (.obj c)).write wall = .ok l →
            l.ShowsContext c) ∧
    ((Calendar.iso? wall).isSome = true → Parentless (.obj c) →
      (∀ level message, ∃ l, (note level message (.obj c)).write wall = .ok l) ∧
      ∀ requestId userId violation severity, ∃ l,
        (security requestId userId violation severity (.obj c)).write wall = .ok l) := by
  refine ⟨fun d hd => ⟨fun level message => ?_, fun requestId userId violation severity => ?_⟩,
    fun hc => ⟨fun level message l hlevel hmessage h => write_note_shows h hlevel hmessage hc,
      fun requestId userId violation severity l hvalues h => write_security_shows h hvalues hc⟩,
    fun hwall hparents => ?_⟩
  · rw [← write_note_impersonal wall level message d, hd, write_note_impersonal]
  · rw [← write_security_impersonal wall requestId userId violation severity d, hd,
      write_security_impersonal]
  · obtain ⟨time, ht⟩ := exists_stamp hwall
    constructor
    · intro level message
      rw [write_note_obj, ht, noteFault?_eq_none hparents]
      exact ⟨_, rfl⟩
    · intro requestId userId violation severity
      rw [write_security_obj, ht, fault?_eq_none _ hparents]
      exact ⟨_, rfl⟩

def sampleContext (email : String) : Record :=
  [("Email", .str email), ("at", .date .zero),
    ("calls", .arr [.str "of ada@example.com from 555-123-4567", .obj [("token", .str email)],
      .num (.finite 2)])]

theorem contexts_redacted_sample :
    let ada := sampleContext "ada@example.com"
    let bob := sampleContext "bob@example.com"
    impersonalFields bob = impersonalFields ada ∧ DoubleFields ada ∧ Parentless (.obj ada) ∧
      (∃ l, (note (.str info) (.str "seen") (.obj bob)).write .zero = .ok l ∧ l.ShowsNote ada) ∧
      ∃ l, (security .undefined .undefined (.str "probe") (.str "LOW") (.obj bob)).write .zero =
        .ok l ∧ l.ShowsContext ada := by
  intro ada bob
  have hsame : impersonalFields bob = impersonalFields ada := by
    have hpersonal : isPersonal "Email" = true ∧ isPersonal "token" = true := by decide +kernel
    simp [ada, bob, sampleContext, impersonalFields, impersonal, impersonalItems, hpersonal]
  have hdoubles : DoubleFields ada :=
    ⟨trivial, trivial,
      ⟨trivial, ⟨trivial, trivial⟩, Number.isBinary_natCast (by norm_num), trivial⟩, trivial⟩
  have hparents : Parentless (.obj ada) := by
    have htext (s : String) : Parentless (.str s) := by rintro r ⟨⟩
    have hdate : Parentless (.date .zero) := by rintro r ⟨⟩
    have htwo : Parentless (.num (.finite 2)) := by rintro r ⟨⟩
    simp [ada, sampleContext, parentless_obj, parentless_arr, Record.keys, htext, hdate, htwo]
  obtain ⟨hlines, hshows, hwritten⟩ := contexts_redacted .zero ada
  obtain ⟨hnote, hsecurity⟩ := hlines bob hsame
  obtain ⟨hnoteShows, hsecurityShows⟩ := hshows hdoubles
  obtain ⟨hnoteWritten, hsecurityWritten⟩ := hwritten (by decide +kernel) hparents
  obtain ⟨l, hl⟩ := hnoteWritten (.str info) (.str "seen")
  obtain ⟨l', hl'⟩ := hsecurityWritten .undefined .undefined (.str "probe") (.str "LOW")
  refine ⟨hsame, hdoubles, hparents, ⟨l, (hnote _ _).trans hl, ?_⟩,
    l', (hsecurity _ _ _ _).trans hl', hsecurityShows _ _ _ _ l' (by simp [Doubles]) hl'⟩
  exact hnoteShows (.str info) (.str "seen") l trivial trivial hl

end Entry

end AuthGate.Log
