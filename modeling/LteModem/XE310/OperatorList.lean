import LteModem.XE310.Reports

/-!
# The list of operators

The answer to `AT+COPS=?`, and what `get_available_operators` makes of it. The fields of an entry are read with
respect to the quotes, the entry itself ends at the first `)`, be it in a name or not.
-/

open Strings

namespace LteModem.Replies

/-! ## The answer -/

/-- A text without quotes and line ends, and without blanks at its ends. -/
structure Name (s : Str) : Prop where
  length : s.length ≤ 63
  plain : ∀ c ∈ s, c ∉ ['"', '\r', '\n']
  head : ∀ c ∈ s.head?, c ∉ [' ', '\t']
  last : ∀ c ∈ s.getLast?, c ∉ [' ', '\t']

instance (s : Str) : Decidable (Name s) :=
  decidable_of_iff (s.length ≤ 63 ∧ (s.all fun c => c ∉ ['"', '\r', '\n']) = true ∧
      (s.head?.all fun c => c ∉ [' ', '\t']) = true ∧ (s.getLast?.all fun c => c ∉ [' ', '\t']) = true) <| by
    simp only [List.all_eq_true, Option.all_eq_true, decide_eq_true_eq]
    exact ⟨fun ⟨hl, hp, hh, ht⟩ => ⟨hl, hp, hh, ht⟩, fun h => ⟨h.length, h.plain, h.head, h.last⟩⟩

structure OperatorEntry where
  stat : Nat
  long_name : FixedString MODEM_MEDIUM_STR
  short_name : FixedString MODEM_MEDIUM_STR
  numeric : FixedString MODEM_SHORT_STR
  act : Nat
  names : Name long_name.view ∧ Name short_name.view
  digits : numeric.view ≠ [] ∧ ∀ c ∈ numeric.view, isDigit c = true
  technology : act < 128

def quoted (s : Str) : Str := '"' :: (s ++ ['"'])

namespace OperatorEntry

def fields (e : OperatorEntry) : Str :=
  decimal e.stat ++ ',' :: (quoted e.long_name.view ++ ',' :: (quoted e.short_name.view ++
    ',' :: (quoted e.numeric.view ++ ',' :: decimal e.act)))

/-- `(<stat>,"<long>","<short>","<numeric>",<act>)`. -/
def text (e : OperatorEntry) : Str := '(' :: (e.fields ++ [')'])

def operator (e : OperatorEntry) : Operator := ⟨e.long_name, e.short_name, e.numeric, .ofInt e.act⟩

end OperatorEntry

def listing : List OperatorEntry → Str
  | [] => []
  | [e] => e.text
  | e :: es => e.text ++ ',' :: listing es

def operatorsReport (es : List OperatorEntry) : Str := "+COPS: ".toList ++ listing es

/-- A name that the reader of the list takes as it is. -/
def Readable (s : Str) : Prop := ')' ∉ s ∧ '\x00' ∉ s

instance (s : Str) : Decidable (Readable s) := inferInstanceAs (Decidable (_ ∧ _))

/-! ## Fields -/

theorem operatorField_quoted {s : Str} (h : '"' ∉ s) (rest : Str) :
    operatorField (quoted s ++ ',' :: rest) = (quoted s, rest) := by
  have he : quoted s ++ ',' :: rest = '"' :: (s ++ '"' :: ',' :: rest) := by simp [quoted]
  rw [he, operatorField, takeWhile_until h, dropWhile_until h]
  simp [quoted]

theorem operatorField_bare {c : Char} (hc : c ≠ '"') (s : Str) :
    operatorField (c :: s) = ((c :: s).takeWhile (· ≠ ','), ((c :: s).dropWhile (· ≠ ',')).drop 1) := by
  unfold operatorField
  split
  · next h => exact absurd (List.cons.inj h).1 hc
  · rfl

theorem digit_head (n : Nat) : ∃ c t, decimal n = c :: t ∧ c ≠ '"' ∧ c ≠ ' ' := by
  obtain ⟨c, t, h, hc⟩ := head_decimal n
  refine ⟨c, t, h, ?_, ?_⟩ <;> (rintro rfl; simp [isDigit] at hc)

theorem operatorField_decimal (n : Nat) (rest : Str) :
    operatorField (decimal n ++ ',' :: rest) = (decimal n, rest) := by
  obtain ⟨c, t, h, hc, -⟩ := digit_head n
  have hn : ',' ∉ c :: t := h ▸ not_mem_decimal rfl
  rw [h, List.cons_append, operatorField_bare hc, ← List.cons_append, takeWhile_until hn, dropWhile_until hn]
  rfl

theorem operatorField_last (n : Nat) : operatorField (decimal n) = (decimal n, []) := by
  obtain ⟨c, t, h, hc, -⟩ := digit_head n
  have hp : ∀ d ∈ c :: t, decide (d ≠ ',') = true := by
    intro d hd
    simpa using ne_of_mem_of_not_mem hd (h ▸ not_mem_decimal rfl : ',' ∉ c :: t)
  rw [h, operatorField_bare hc, List.takeWhile_eq_self_iff.mpr hp, List.dropWhile_eq_nil_iff.mpr hp]
  rfl

theorem operatorFields_cons {s field rest : Str} (n : Nat) (hs : ∃ c t, s = c :: t ∧ c ≠ ' ')
    (hf : operatorField s = (field, rest)) : operatorFields (n + 1) s = trimmed 64 field :: operatorFields n rest := by
  obtain ⟨c, t, rfl, hc⟩ := hs
  have hd : (c :: t).dropWhile (· = ' ') = c :: t := List.dropWhile_cons_of_neg (by simpa using hc)
  rw [operatorFields, hd]
  simp [hf]

theorem trimmed_quoted {s : Str} (h : Name s) (hz : '\x00' ∉ s) : trimmed 64 (quoted s) = s := by
  have hs : strip blanksQuotes (['"'] ++ s ++ ['"']) = s := by
    refine strip_padded (by simp [blanksQuotes]) (by simp [blanksQuotes]) (fun c hc => ?_) fun c hc => ?_
    · have hb := h.head c hc
      have hq := h.plain c (List.mem_of_mem_head? hc)
      simp_all [blanksQuotes]
    · have hb := h.last c hc
      have hq := h.plain c (List.mem_of_getLast? hc)
      simp_all [blanksQuotes]
  have hl := h.length
  have he : quoted s = ['"'] ++ s ++ ['"'] := by simp [quoted]
  rw [trimmed, he, hs, List.take_of_length_le (by omega), cstr_eq_self_iff.mpr hz]

theorem trimmed_act {v : Nat} (h : v < 128) : trimmed 64 (decimal v) = decimal v := by
  have hl : (decimal v).length ≤ 3 := length_decimal_le (by decide) (by omega)
  have hs : strip blanksQuotes (decimal v) = decimal v := strip_decimal 0 v
  rw [trimmed, hs, List.take_of_length_le (by omega), cstr_decimal]

/-! ## Entries -/

theorem name_digits {s : Str} (hs : ∀ c ∈ s, isDigit c = true) (hl : s.length ≤ 63) : Name s := by
  have hb : ∀ c ∈ s, c ∉ [' ', '\t'] := digits_apart hs rfl
  exact ⟨hl, digits_apart hs rfl, fun c hc => hb c (List.mem_of_mem_head? hc),
    fun c hc => hb c (List.mem_of_getLast? hc)⟩

namespace OperatorEntry

theorem numeric_name (e : OperatorEntry) : Name e.numeric.view := by
  have hl : e.numeric.view.length ≤ 32 := e.numeric.fits
  exact name_digits e.digits.2 (by omega)

theorem operatorFields_fields (e : OperatorEntry) (hl : '\x00' ∉ e.long_name.view) (hs : '\x00' ∉ e.short_name.view) :
    ∃ stat, operatorFields 5 e.fields =
      [stat, e.long_name.view, e.short_name.view, e.numeric.view, decimal e.act] := by
  have hq {s : Str} (h : Name s) : '"' ∉ s := fun hm => by simpa using h.plain _ hm
  have hhead (s rest : Str) : ∃ c t, quoted s ++ ',' :: rest = c :: t ∧ c ≠ ' ' := ⟨'"', _, rfl, by decide⟩
  obtain ⟨c, t, hstat, -, hc⟩ := digit_head e.stat
  obtain ⟨d, u, hact, -, hd⟩ := digit_head e.act
  refine ⟨trimmed 64 (decimal e.stat), ?_⟩
  unfold fields
  rw [operatorFields_cons 4 ⟨c, _, by rw [hstat]; rfl, hc⟩ (operatorField_decimal e.stat _),
    operatorFields_cons 3 (hhead _ _) (operatorField_quoted (hq e.names.1) _),
    operatorFields_cons 2 (hhead _ _) (operatorField_quoted (hq e.names.2) _),
    operatorFields_cons 1 (hhead _ _) (operatorField_quoted (hq e.numeric_name) _),
    operatorFields_cons 0 ⟨d, u, hact, hd⟩ (operatorField_last e.act),
    trimmed_quoted e.names.1 hl, trimmed_quoted e.names.2 hs,
    trimmed_quoted e.numeric_name (not_mem_digits e.digits.2 rfl), trimmed_act e.technology, operatorFields]

theorem operatorOf_fields (e : OperatorEntry) (hl : '\x00' ∉ e.long_name.view) (hs : '\x00' ∉ e.short_name.view) :
    operatorOf e.fields = some e.operator := by
  obtain ⟨stat, h⟩ := e.operatorFields_fields hl hs
  have hv {n : Nat} (f : FixedString n) : FixedString.ofView n f.view = f :=
    FixedString.ext (List.take_of_length_le f.fits)
  have ha : atoi (decimal e.act) = e.act := atoi_decimal (by have := e.technology; omega)
  simp only [operatorOf, h, hv, ha, operator]

theorem no_paren (e : OperatorEntry) (hl : ')' ∉ e.long_name.view) (hs : ')' ∉ e.short_name.view) :
    ')' ∉ e.fields := by
  have hn : ')' ∉ e.numeric.view := not_mem_digits e.digits.2 rfl
  have hd (n : Nat) : ')' ∉ decimal n := not_mem_decimal rfl
  simp [fields, quoted, hl, hs, hn, hd]

end OperatorEntry

theorem operatorEntries_text (fuel : Nat) {lead inner : Str} (hl : '(' ∉ lead) (hi : ')' ∉ inner) (rest : Str) :
    operatorEntries (fuel + 1) (lead ++ '(' :: (inner ++ ')' :: rest)) = inner :: operatorEntries fuel rest := by
  simp only [operatorEntries, cut_append hl, cut_append hi]

theorem operatorEntries_none (fuel : Nat) {lead : Str} (hl : '(' ∉ lead) : operatorEntries fuel lead = [] := by
  cases fuel with
  | zero => rfl
  | succ fuel => simp only [operatorEntries, cut_none hl]

theorem operatorEntries_listing {es : List OperatorEntry} (h : ∀ e ∈ es, ')' ∉ e.fields) {fuel : Nat}
    (hf : es.length ≤ fuel) {lead : Str} (hl : '(' ∉ lead) :
    operatorEntries fuel (lead ++ listing es) = es.map (·.fields) := by
  induction es generalizing fuel lead with
  | nil => simpa [listing] using operatorEntries_none fuel hl
  | cons e es ih =>
    obtain ⟨fuel, rfl⟩ : ∃ k, fuel = k + 1 := ⟨fuel - 1, by simp at hf; omega⟩
    have he : ')' ∉ e.fields := h e (by simp)
    have hrest : ∀ e ∈ es, ')' ∉ e.fields := fun d hd => h d (List.mem_cons_of_mem e hd)
    have hlen : es.length ≤ fuel := by simpa using hf
    rcases es with _ | ⟨d, es⟩
    · have ht : lead ++ listing [e] = lead ++ '(' :: (e.fields ++ ')' :: []) := by simp [listing, OperatorEntry.text]
      rw [ht, operatorEntries_text fuel hl he, operatorEntries_none fuel (by simp)]
      rfl
    · have ht : lead ++ listing (e :: d :: es) =
          lead ++ '(' :: (e.fields ++ ')' :: ([','] ++ listing (d :: es))) := by
        simp [listing, OperatorEntry.text]
      rw [ht, operatorEntries_text fuel hl he, ih hrest hlen (by simp)]
      rfl

theorem length_listing (es : List OperatorEntry) : es.length ≤ (listing es).length := by
  fun_induction listing es with
  | case1 => simp
  | case2 e => simp [OperatorEntry.text]
  | case3 e es hne ih =>
    simp only [List.length_cons, List.length_append]
    omega

/-! ## What an operator is read from -/

theorem operatorField_subset (s : Str) : (operatorField s).1 ⊆ s ∧ (operatorField s).2 ⊆ s := by
  have htake {p : Char → Bool} (t : Str) : t.takeWhile p ⊆ t := (List.takeWhile_prefix p).subset
  have hdrop {p : Char → Bool} (t : Str) : t.dropWhile p ⊆ t := (List.dropWhile_suffix p).subset
  have hone (t : Str) : t.drop 1 ⊆ t := (List.drop_suffix 1 t).subset
  rcases s with _ | ⟨c, t⟩
  · simp [operatorField]
  · rcases eq_or_ne c '"' with rfl | hc
    · have hrest : t.dropWhile (· ≠ '"') ⊆ t := hdrop t
      have htail := List.Subset.trans (hone (t.dropWhile (· ≠ '"'))) hrest
      rw [operatorField]
      constructor
      · refine List.append_subset.mpr ⟨List.append_subset.mpr ⟨List.cons_subset_cons _ (htake t), ?_⟩, ?_⟩
        · exact List.Subset.trans (List.Subset.trans (List.take_prefix 1 _).subset hrest) (List.subset_cons_self _ t)
        · exact List.Subset.trans (List.Subset.trans (htake _) htail) (List.subset_cons_self _ t)
      · exact List.Subset.trans (List.Subset.trans (hone _) (hdrop _))
          (List.Subset.trans htail (List.subset_cons_self _ t))
    · rw [operatorField_bare hc]
      exact ⟨htake _, List.Subset.trans (hone _) (hdrop _)⟩

theorem mem_trimmed {n : Nat} {s : Str} {c : Char} (h : c ∈ trimmed n s) : c ∈ s ∧ c ≠ '\x00' := by
  have hstrip : strip blanksQuotes s ⊆ s :=
    List.Subset.trans (List.rdropWhile_prefix _ _).subset (List.dropWhile_suffix _).subset
  unfold trimmed cstr at h
  exact ⟨hstrip ((List.take_prefix _ _).subset ((List.takeWhile_prefix _).subset h)), by
    simpa using List.mem_takeWhile_imp h⟩

theorem mem_operatorFields {n : Nat} {s f : Str} (h : f ∈ operatorFields n s) {c : Char} (hc : c ∈ f) :
    c ∈ s ∧ c ≠ '\x00' := by
  induction n generalizing s with
  | zero => simp [operatorFields] at h
  | succ n ih =>
    have hb : s.dropWhile (· = ' ') ⊆ s := (List.dropWhile_suffix _).subset
    obtain ⟨hfield, hrest⟩ := operatorField_subset (s.dropWhile (· = ' '))
    rw [operatorFields] at h
    split at h
    · simp at h
    · rcases List.mem_cons.mp h with rfl | h
      · obtain ⟨hm, hz⟩ := mem_trimmed hc
        exact ⟨hb (hfield hm), hz⟩
      · obtain ⟨hm, hz⟩ := ih h
        exact ⟨hb (hrest hm), hz⟩

theorem mem_operatorOf {entry : Str} {op : Operator} (h : operatorOf entry = some op) {c : Char}
    (hc : c ∈ op.long_name.view ∨ c ∈ op.short_name.view) : c ∈ entry ∧ c ≠ '\x00' := by
  have hv {n : Nat} {s : Str} (h : c ∈ (FixedString.ofView n s).view) : c ∈ s := List.mem_of_mem_take h
  have hf {s : Str} (h : s ∈ operatorFields 5 entry) (hc : c ∈ s) : c ∈ entry ∧ c ≠ '\x00' := mem_operatorFields h hc
  unfold operatorOf at h
  split at h
  · next stat long short numeric he =>
    rw [he] at hf
    obtain rfl := Option.some.inj h
    rcases hc with hc | hc
    · exact hf (s := long) (by simp) (hv hc)
    · exact hf (s := short) (by simp) (hv hc)
  · next stat long short numeric act he =>
    rw [he] at hf
    obtain rfl := Option.some.inj h
    rcases hc with hc | hc
    · exact hf (s := long) (by simp) (hv hc)
    · exact hf (s := short) (by simp) (hv hc)
  · cases h

theorem paren_of_operatorEntries {fuel : Nat} {s entry : Str} (h : entry ∈ operatorEntries fuel s) : ')' ∉ entry := by
  induction fuel generalizing s with
  | zero => simp [operatorEntries] at h
  | succ fuel ih =>
    rw [operatorEntries] at h
    split at h
    · simp at h
    · split at h
      · simp at h
      · next hcut =>
        rcases List.mem_cons.mp h with rfl | h
        · exact not_mem_cut hcut
        · exact ih h

/-! ## The round trip -/

/-- The list is read back exactly when each name in it is free of `)` and NUL. -/
theorem available_operators_iff (es : List OperatorEntry) (h : es.length ≤ MAX_OPERATORS) (operators : List Operator) :
    get_available_operators ⟨.ok, operatorsReport es⟩ operators = (.ok, es.map (·.operator)) ↔
      ∀ e ∈ es, Readable e.long_name.view ∧ Readable e.short_name.view := by
  unfold get_available_operators
  rw [if_neg (by simp)]
  constructor
  · intro hr e he
    have hop : e.operator ∈ es.map (·.operator) := List.mem_map_of_mem he
    rw [← (Prod.mk.inj hr).2] at hop
    obtain ⟨entry, hentry, hof⟩ := List.mem_filterMap.mp (List.mem_of_mem_take hop)
    have hread {s : Str} (hs : ∀ c ∈ s, c ∈ entry ∧ c ≠ '\x00') : Readable s :=
      ⟨fun hm => paren_of_operatorEntries hentry (hs _ hm).1, fun hm => (hs _ hm).2 rfl⟩
    exact ⟨hread fun c hc => mem_operatorOf hof (.inl hc), hread fun c hc => mem_operatorOf hof (.inr hc)⟩
  · intro hr
    obtain ⟨lead, hlead, he⟩ : ∃ lead, '(' ∉ lead ∧ operatorsReport es = lead ++ listing es :=
      ⟨"+COPS: ".toList, by decide, rfl⟩
    have hlen : es.length ≤ (lead ++ listing es).length := by
      rw [List.length_append]
      exact (length_listing es).trans (Nat.le_add_left _ _)
    have hentries : operatorEntries (lead ++ listing es).length (lead ++ listing es) = es.map (·.fields) :=
      operatorEntries_listing (fun e he => e.no_paren (hr e he).1.1 (hr e he).2.1) hlen hlead
    have hof : (es.map (·.fields)).filterMap operatorOf = es.map (·.operator) := by
      rw [List.filterMap_map, ← List.filterMap_eq_map]
      exact List.filterMap_congr fun e he => e.operatorOf_fields (hr e he).1.2 (hr e he).2.2
    rw [he, hentries, hof, List.take_of_length_le (by simpa using h)]

/-! ### Two lists -/

def nos : FixedString MODEM_MEDIUM_STR := .ofView _ "NOS, SA".toList
def vodafone : FixedString MODEM_MEDIUM_STR := .ofView _ "Vodafone".toList
def vodafonePt : FixedString MODEM_MEDIUM_STR := .ofView _ "Vodafone (PT)".toList
def numeric26801 : FixedString MODEM_SHORT_STR := .ofView _ "26801".toList

theorem nos_name : Name nos.view := by decide
theorem vodafone_name : Name vodafone.view := by decide
theorem vodafonePt_name : Name vodafonePt.view := by decide
theorem numeric26801_digits : numeric26801.view ≠ [] ∧ ∀ c ∈ numeric26801.view, isDigit c = true :=
  ⟨by decide, List.all_eq_true.mp rfl⟩

/-- An entry for LTE Cat-M1. -/
def catM1 (stat : Nat) {long short : FixedString MODEM_MEDIUM_STR} (hl : Name long.view) (hs : Name short.view) :
    OperatorEntry :=
  ⟨stat, long, short, numeric26801, 7, ⟨hl, hs⟩, numeric26801_digits, by decide⟩

theorem available_operators_comma :
    get_available_operators
        ⟨.ok, "+COPS: (2,\"NOS, SA\",\"Vodafone\",\"26801\",7),(1,\"Vodafone\",\"Vodafone\",\"26801\",7)".toList⟩ [] =
      (.ok, [⟨nos, vodafone, numeric26801, .cat_m1⟩, ⟨vodafone, vodafone, numeric26801, .cat_m1⟩]) :=
  (available_operators_iff [catM1 2 nos_name vodafone_name, catM1 1 vodafone_name vodafone_name] (by decide) []).mpr
    (by decide)

/-- The entry `(2,"Vodafone (PT)","Vodafone","26801",7)` ends in the name, and the operator is lost. -/
theorem operator_lost :
    (get_available_operators ⟨.ok, operatorsReport [catM1 2 vodafonePt_name vodafone_name]⟩ []).2 = [] ∧
      get_available_operators ⟨.ok, operatorsReport [catM1 2 vodafonePt_name vodafone_name]⟩ [] ≠
        (.ok, [(catM1 2 vodafonePt_name vodafone_name).operator]) := by
  have h : get_available_operators ⟨.ok, operatorsReport [catM1 2 vodafonePt_name vodafone_name]⟩ [] = (.ok, []) := rfl
  rw [h]
  exact ⟨rfl, by simp⟩

end LteModem.Replies
