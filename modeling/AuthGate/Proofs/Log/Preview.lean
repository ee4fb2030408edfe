import AuthGate.Proofs.Log.Address
import AuthGate.Proofs.Log.Context

namespace AuthGate.Log

open Json (quoteUnits readFields Reads ReadsMember)

variable {s : List Char}

lemma StartsDomain.of_concat_dot (h : StartsDomain (s ++ ['.'])) : StartsDomain s := by
  obtain ⟨domain, top, rest, h, hne, hdomain, hlength, hletters⟩ := h
  rcases List.eq_nil_or_concat' rest with rfl | ⟨rest, c, rfl⟩
  · obtain rfl | ⟨top, c, rfl⟩ := List.eq_nil_or_concat' top
    · simp at hlength
    · have hdot : s ++ ['.'] = (domain ++ '.' :: top) ++ [c] := by simpa using h
      obtain rfl : '.' = c := List.singleton_inj.1 (List.append_inj' hdot rfl).2
      exact absurd (hletters '.' (by simp)) (by decide)
  · have hdot : s ++ ['.'] = (domain ++ '.' :: top ++ rest) ++ [c] := by simpa using h
    exact ⟨domain, top, rest, (List.append_inj' hdot rfl).1, hne, hdomain, hlength, hletters⟩

lemma showsAddress_concat_dot : ShowsAddress (s ++ ['.']) ↔ ShowsAddress s := by
  constructor
  · induction s with
    | nil => exact fun h => absurd h (not_showsAddress_of_notMem (by decide))
    | cons c s ih =>
      rw [List.cons_append, showsAddress_cons, showsAddress_cons]
      rintro (⟨hc, rest, hrest, hdomain⟩ | h)
      · cases s with
        | nil => exact absurd (List.cons.inj hrest).1 (by decide)
        | cons d s =>
          obtain ⟨rfl, rfl⟩ := List.cons.inj hrest
          exact .inl ⟨hc, s, rfl, hdomain.of_concat_dot⟩
      · exact .inr (ih h)
  · exact fun h => h.mono (List.prefix_append _ _).isInfix

lemma showsAddress_append_dots : ShowsAddress (s ++ "...".toList) ↔ ShowsAddress s := by
  have hdots : s ++ "...".toList = s ++ ['.'] ++ ['.'] ++ ['.'] := by
    simp only [List.append_assoc]
    congr 1
  rw [hdots, showsAddress_concat_dot, showsAddress_concat_dot, showsAddress_concat_dot]

lemma ofUnits_preview (s : String) : Text.ofUnits (preview s) = s.toList ∨ ∃ t, t <+: s.toList ∧
    (Text.ofUnits (preview s) = t ++ "...".toList ∨
      Text.ofUnits (preview s) = t ++ Text.replacementChar :: "...".toList) := by
  rw [preview]
  split_ifs
  · obtain ⟨t, ht, hcut | ⟨u, hu, hcut⟩⟩ := Text.take_units 200 s.toList
    · refine .inr ⟨t, ht, .inl ?_⟩
      rw [Text.units, hcut, Text.ofUnits_append, Text.ofUnits_units]
    · have hdot : (Text.units "...").head? = some 0x2E := by decide +kernel
      have hlow : Text.isHigh u = true → ∀ v ∈ (Text.units "...").head?, Text.isLow v = false := by
        rintro - v hv
        rw [hdot] at hv
        obtain rfl := Option.some.inj hv
        decide
      have hhalf : Text.isHalf u = true := by rw [Text.isHalf, hu, Bool.true_or]
      refine .inr ⟨t, ht, .inr ?_⟩
      rw [Text.units, hcut, List.append_assoc, Text.ofUnits_append, List.singleton_append,
        Text.ofUnits_cons hlow, Text.unitChar, if_pos hhalf, Text.ofUnits_units]
  · exact .inl (Text.ofUnits_units s)

lemma not_showsAddress_preview {s : String} (h : ¬ ShowsAddress s.toList) :
    ¬ ShowsAddress (Text.ofUnits (preview s)) := by
  rcases ofUnits_preview s with hs | ⟨t, ht, hs | hs⟩
  · rwa [hs]
  · rw [hs, showsAddress_append_dots]
    exact fun hshows => h (hshows.mono ht.isInfix)
  · rw [hs, showsAddress_append_cons (by decide) (by decide)]
    rintro (hshows | hshows)
    · exact h (hshows.mono ht.isInfix)
    · exact not_showsAddress_of_notMem (by decide) hshows

lemma infix_separated {t : List Char} {ts : List (List Char)} (h : t ∈ ts) :
    t <:+: Json.separated ts := by
  induction ts with
  | nil => cases h
  | cons u us ih =>
    cases us with
    | nil =>
      obtain rfl := List.mem_singleton.1 h
      exact List.infix_rfl
    | cons w ws =>
      rw [Json.separated]
      rcases List.mem_cons.1 h with rfl | h
      · exact (List.prefix_append _ _).isInfix
      · exact (ih h).trans ((List.suffix_cons _ _).trans (List.suffix_append _ _)).isInfix

lemma infix_object {m : String × List Char} {ms : List (String × List Char)} (h : m ∈ ms) :
    Json.memberText m <:+: Json.object ms := by
  have hm := infix_separated (List.mem_map_of_mem (f := Json.memberText) h)
  exact hm.trans ((List.prefix_append _ _).isInfix.trans (List.suffix_cons _ _).isInfix)

def Line.ShowsQuery (l : Line) (message query : String) : Prop :=
  ∃ r us, Json.parse? l.text.toList = some (.obj r) ∧
    Record.get r "error_message" = .str message ∧
    Record.get r "query_preview" = .str (.ofList (Text.ofUnits us)) ∧
    ¬ ShowsAddress (Text.ofUnits us) ∧
    Json.memberText ("query_preview", quoteUnits us) <:+: l.text.toList ∧
    ((Text.units (redactText query)).length ≤ 200 → us = Text.units (redactText query)) ∧
    (200 < (Text.units (redactText query)).length →
      us = (Text.units (redactText query)).take 200 ++ Text.units "...")

namespace Entry

def failureFields (time : String) (requestId : Value) (message : String) : Record :=
  opening time error "DATABASE_ERROR" requestId ++ [("error_message", .str message)]

variable (time : String) (requestId : Option String) (message query operation : String)

lemma doubles_failureFields :
    Json.DoubleFields (failureFields time (.ofText? requestId) message) := by
  cases requestId with
  | none => exact ⟨trivial, trivial, trivial, trivial, trivial, trivial⟩
  | some id => exact ⟨trivial, trivial, trivial, trivial, trivial, trivial⟩

def databaseLine : Line :=
  written (.str error) (Json.printFields (failureFields time (.ofText? requestId) message) ++
    ("query_preview", quoteUnits (preview (redactText query))) ::
      Json.printFields [("operation", .str operation)])

lemma write_database {wall : Number} (ht : stamp wall = .ok time) :
    (database (.ofText? requestId) (.str message) (.str query) (.str operation)).write wall =
      .ok (databaseLine time requestId message query operation) := by
  have hredacted : redacted (.str query) = .ok (redactText query) := rfl
  rw [write, hredacted, ht]
  rfl

lemma databaseLine_shows :
    (databaseLine time requestId message query operation).ShowsQuery message query := by
  let us := preview (redactText query)
  let shown : Record := readFields (failureFields time (.ofText? requestId) message) ++
    ("query_preview", .str (.ofList (Text.ofUnits us))) :: [("operation", .str operation)]
  have hreads : List.Forall₂ ReadsMember
      (Json.printFields (failureFields time (.ofText? requestId) message) ++
        ("query_preview", quoteUnits us) :: Json.printFields [("operation", .str operation)])
      shown := by
    apply List.rel_append
    · exact Json.reads_printFields _ (doubles_failureFields time requestId message)
    · exact .cons ⟨rfl, Json.reads_quoteUnits us⟩
        (Json.reads_printFields [("operation", .str operation)] ⟨trivial, trivial⟩)
  have hkeys : shown.keys.Sublist ["timestamp", "level", "log_type", "request_id", "error_message",
      "query_preview", "operation"] := by
    have h := Json.keys_readFields_sublist (failureFields time (.ofText? requestId) message)
    rw [Record.keys, List.map_append]
    exact h.append_right ["query_preview", "operation"]
  have hnames : ["timestamp", "level", "log_type", "request_id", "error_message",
      "query_preview", "operation"].Nodup := by decide
  have hindex : ∀ k ∈ ["timestamp", "level", "log_type", "request_id", "error_message",
      "query_preview", "operation"], arrayIndex? k = none := by decide
  have hlist := Record.ofList_of_sublist hkeys hindex hnames
  refine ⟨shown, us, ?_, ?_, ?_, not_showsAddress_preview (not_showsAddress_redactText query),
    ?_, ?_, ?_⟩
  · rw [databaseLine, written, String.toList_ofList, (Json.reads_object hreads).parse?, hlist]
  · apply Record.get_of_mem (hkeys.nodup hnames)
    refine List.mem_append_left _ (Json.mem_readFields.2 ⟨.str message, ?_, rfl, rfl⟩)
    exact List.mem_append_right _ List.mem_cons_self
  · apply Record.get_of_mem (hkeys.nodup hnames)
    exact List.mem_append_right _ List.mem_cons_self
  · rw [databaseLine, written, String.toList_ofList]
    exact infix_object (List.mem_append_right _ List.mem_cons_self)
  · intro hshort
    exact if_neg (Nat.not_lt.2 hshort)
  · intro hlong
    exact if_pos hlong

theorem queries_previewed {wall : Number} (hw : (Calendar.iso? wall).isSome = true)
    (requestId : Option String) (message query operation : String) :
    ∃ l, (database (.ofText? requestId) (.str message) (.str query) (.str operation)).write wall =
      .ok l ∧ l.ShowsQuery message query := by
  obtain ⟨time, ht⟩ := exists_stamp hw
  exact ⟨_, write_database time requestId message query operation ht,
    databaseLine_shows time requestId message query operation⟩

theorem queries_previewed_address : ShowsAddress "for ada@example.com".toList ∧
    ∃ l, (database .undefined (.str "for ada@example.com") (.str "q") (.str "SELECT")).write .zero =
      .ok l ∧ l.ShowsQuery "for ada@example.com" "q" := by
  refine ⟨⟨"for ".toList, "ada".toList, "example.com".toList, by decide, by decide,
    List.all_eq_true.1 (by decide), ⟨"example".toList, "com".toList, [], by decide, by decide,
      List.all_eq_true.1 (by decide), by decide, List.all_eq_true.1 (by decide)⟩⟩, ?_⟩
  exact queries_previewed (by decide +kernel) none "for ada@example.com" "q" "SELECT"

end Entry

end AuthGate.Log
