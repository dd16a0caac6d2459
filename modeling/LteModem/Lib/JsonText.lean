import LteModem.Lib.Json
import Mathlib.Algebra.GroupWithZero.Nat

/-!
# Texts of JSON values

Printers that put pieces of text together. `Spells` says of a piece when it is read as a value, and that it is
not read as this value otherwise, whatever follows it, so that the pieces compose. The printer of strings
escapes the quote, the backslash, the line feed and the carriage return and nothing else: what it prints is
read unless there is another control character. No shorter text is read as the value of a piece, so what a buffer
has cut is not.
-/

open Strings

namespace Json

def quoteChar (c : Char) : Str :=
  if c = '"' then ['\\', '"']
  else if c = '\\' then ['\\', '\\']
  else if c = '\n' then ['\\', 'n']
  else if c = '\r' then ['\\', 'r']
  else [c]

def quote (s : Str) : Str := '"' :: (s.flatMap quoteChar ++ ['"'])

def commas : List Str → Str
  | [] => []
  | [a] => a
  | a :: b :: l => a ++ ',' :: commas (b :: l)

/-! ## Names -/

def simpleChar (c : Char) : Bool := 0x20 ≤ c.toNat && c ≠ '"' && c ≠ '\\'

/-- A text that stands between quotes as it is. -/
structure Name where
  text : Str
  simple : text.all simpleChar = true

theorem Name.simple_of {s : String} {l : List Char} (h : s = String.ofList l) (hl : l.all simpleChar = true) :
    s.toList.all simpleChar = true := by
  rw [h, String.toList_ofList, hl]

def name (s : String) (h : s.toList.all simpleChar = true := by exact Name.simple_of rfl rfl) : Name := ⟨s.toList, h⟩

@[simp] theorem name_text (s : String) (h : s.toList.all simpleChar = true) : (name s h).text = s.toList := rfl

/-- `"%s"` -/
def verbatim (n : Name) : Str := '"' :: (n.text ++ ['"'])

/-- `{"%s":%s,"%s":%s}` -/
def object (fields : List (Name × Str)) : Str :=
  '{' :: (commas (fields.map fun f => '"' :: (f.1.text ++ '"' :: ':' :: f.2)) ++ ['}'])

def array (items : List Str) : Str := '[' :: (commas items ++ [']'])

/-! ## Strings -/

/-- The printer leaves no control character in it. -/
def plain (s : Str) : Bool := s.all fun c => 0x20 ≤ c.toNat || c = '\n' || c = '\r'

theorem plain_cons (c : Char) (s : Str) : plain (c :: s) = ((0x20 ≤ c.toNat || c = '\n' || c = '\r') && plain s) :=
  List.all_cons

theorem string_quoted (s t : Str) :
    string (s.flatMap quoteChar ++ t) = if plain s then (string t).map fun p => (s ++ p.1, p.2) else none := by
  induction s with
  | nil =>
    rw [plain, List.all_nil, if_pos rfl]
    exact Option.map_id'.symm
  | cons c s ih =>
    have escaped : ∀ e : Char, escape e = some c → (0x20 ≤ c.toNat || c = '\n' || c = '\r') = true →
        string ('\\' :: e :: (s.flatMap quoteChar ++ t)) =
          if plain (c :: s) then (string t).map fun p => (c :: s ++ p.1, p.2) else none := by
      intro e he hc
      rw [string_escape he, ih, plain_cons, hc, Bool.true_and]
      split
      · rw [Option.map_map]
        rfl
      · rfl
    rw [List.flatMap_cons, List.append_assoc, quoteChar]
    split
    · next h => exact escaped '"' (by rw [h]; rfl) (by rw [h]; rfl)
    split
    · next h => exact escaped '\\' (by rw [h]; rfl) (by rw [h]; rfl)
    split
    · next h => exact escaped 'n' (by rw [h]; rfl) (by rw [h]; rfl)
    split
    · next h => exact escaped 'r' (by rw [h]; rfl) (by rw [h]; rfl)
    · next hq hb hn hr =>
      rw [List.singleton_append]
      by_cases hc : 0x20 ≤ c.toNat
      · have hplain : plain (c :: s) = plain s := by simp [plain, hc]
        rw [string_plain hq hb hc, ih, hplain]
        split
        · rw [Option.map_map]
          rfl
        · rfl
      · have hplain : plain (c :: s) = false := by simp [plain, hc, hn, hr]
        rw [string_control (by omega), hplain]
        rfl

theorem Name.flatMap_quoteChar (n : Name) : n.text.flatMap quoteChar = n.text := by
  obtain ⟨s, h⟩ := n
  change s.flatMap quoteChar = s
  induction s with
  | nil => rfl
  | cons c s ih =>
    simp only [List.all_cons, simpleChar, Bool.and_eq_true, decide_eq_true_eq, ne_eq] at h
    obtain ⟨⟨⟨hc, hq⟩, hb⟩, hs⟩ := h
    have hn : c ≠ '\n' := by
      rintro rfl
      exact absurd hc (by decide)
    have hr : c ≠ '\r' := by
      rintro rfl
      exact absurd hc (by decide)
    rw [List.flatMap_cons, ih hs, quoteChar, if_neg hq, if_neg hb, if_neg hn, if_neg hr]
    rfl

theorem Name.plain (n : Name) : plain n.text = true := by
  refine List.all_eq_true.mpr fun c hc => ?_
  have := List.all_eq_true.mp n.simple c hc
  simp only [simpleChar, Bool.and_eq_true] at this
  rw [this.1.1]
  rfl

theorem string_name (n : Name) (t : Str) : string (n.text ++ '"' :: t) = some (n.text, t) := by
  have h := string_quoted n.text ('"' :: t)
  rw [n.flatMap_quoteChar, n.plain, if_pos rfl] at h
  rw [h]
  simp [string]

/-! ## Numbers -/

section Numbers

variable {s : Str}

theorem isNumberChar_of_isDigit {c : Char} (h : isDigit c = true) : isNumberChar c = true := by
  simp [isNumberChar, h]

theorem exponent_chars (h : exponent s = true) : ∀ c ∈ s, isNumberChar c = true := by
  rw [exponent.eq_def] at h
  split at h
  · exact nofun
  · next e s =>
    simp only [Bool.and_eq_true, Bool.or_eq_true, decide_eq_true_eq] at h
    refine List.forall_mem_cons.mpr ⟨by rcases h.1.1 with rfl | rfl <;> rfl, ?_⟩
    have hd := List.all_eq_true.mp h.2
    split at hd
    · exact List.forall_mem_cons.mpr ⟨rfl, fun c hc => isNumberChar_of_isDigit (hd c hc)⟩
    · exact List.forall_mem_cons.mpr ⟨rfl, fun c hc => isNumberChar_of_isDigit (hd c hc)⟩
    · exact fun c hc => isNumberChar_of_isDigit (hd c hc)

theorem forall_of_digits {P : Char → Prop} (hd : ∀ c, isDigit c = true → P c) (h : ∀ c ∈ s.dropWhile isDigit, P c) :
    ∀ c ∈ s, P c := by
  intro c hc
  rw [← List.takeWhile_append_dropWhile (p := isDigit) (l := s), List.mem_append] at hc
  exact hc.elim (fun hc => hd c (List.mem_takeWhile_imp hc)) (h c)

theorem fraction_chars (h : fraction s = true) : ∀ c ∈ s, isNumberChar c = true := by
  rw [fraction.eq_def] at h
  split at h
  · simp only [Bool.and_eq_true] at h
    exact List.forall_mem_cons.mpr
      ⟨rfl, forall_of_digits (fun _ => isNumberChar_of_isDigit) (exponent_chars h.2)⟩
  · exact exponent_chars h

theorem unsigned_chars (h : unsigned s = true) : ∀ c ∈ s, isNumberChar c = true := by
  rw [unsigned] at h
  split at h
  · cases h
  · cases h
  · exact forall_of_digits (fun _ => isNumberChar_of_isDigit) (fraction_chars h)

theorem isNumber_chars (h : isNumber s = true) : ∀ c ∈ s, isNumberChar c = true := by
  rw [isNumber.eq_def] at h
  split at h
  · exact List.forall_mem_cons.mpr ⟨rfl, unsigned_chars h⟩
  · exact unsigned_chars h

/-- A sign, an integer, the point and one digit. -/
def fixed (negative : Bool) (n : Nat) (d : Char) : Str := (if negative then ['-'] else []) ++ decimal n ++ ['.', d]

theorem isNumber_fixed (negative : Bool) (n : Nat) {d : Char} (hd : isDigit d = true) :
    isNumber (fixed negative n d) = true := by
  have hpoint : ∀ c ∈ ['.', d].head?, isDigit c = false := by
    rintro c ⟨⟩
    rfl
  have htake : (decimal n ++ ['.', d]).takeWhile isDigit = decimal n := by
    rw [List.takeWhile_append_of_pos fun c hc => isDigit_of_mem_decimal hc]
    exact List.append_nil _
  have hdrop : (decimal n ++ ['.', d]).dropWhile isDigit = ['.', d] :=
    dropWhile_append_all (fun c hc => isDigit_of_mem_decimal hc) _
  have hfraction : fraction ['.', d] = true := by simp [fraction, exponent, hd]
  have hunsigned : unsigned (decimal n ++ ['.', d]) = true := by
    have hn := unsigned_decimal n
    rw [unsigned, takeWhile_decimal, dropWhile_decimal] at hn
    rw [unsigned, htake, hdrop]
    split
    · next h0 => exact absurd h0 (decimal_ne_nil n)
    · next h0 =>
      rw [h0] at hn
      exact hn
    · exact hfraction
  cases negative with
  | true => exact hunsigned
  | false =>
    obtain ⟨c, t, ht, hc⟩ := head_decimal n
    rw [fixed, if_neg Bool.false_ne_true, List.nil_append, isNumber]
    · exact hunsigned
    · rintro u hu
      rw [ht] at hu
      cases hu
      cases hc

theorem unsigned_head (h : unsigned s = true) : ∃ c r, s = c :: r ∧ isDigit c = true := by
  rw [unsigned] at h
  rcases s with _ | ⟨c, r⟩
  · cases h
  · refine ⟨c, r, rfl, ?_⟩
    by_contra hc
    rw [List.takeWhile_cons_of_neg hc] at h
    cases h

theorem isBlank_of_isDigit {c : Char} (h : isDigit c = true) : isBlank c = false := by
  by_contra hb
  simp only [isBlank, Bool.or_eq_true, decide_eq_true_eq, Bool.not_eq_false] at hb
  rcases hb with ((rfl | rfl) | rfl) | rfl <;> cases h

theorem Number.head (n : Number) : ∃ c r, n.lexeme = c :: r ∧ (isDigit c = true ∨ c = '-') := by
  have h := n.valid
  rw [isNumber.eq_def] at h
  split at h
  · next r hr => exact ⟨'-', r, hr, .inr rfl⟩
  · obtain ⟨c, r, hr, hc⟩ := unsigned_head h
    exact ⟨c, r, hr, .inl hc⟩

theorem number_lexeme (n : Number) {rest : Str} (h : ∀ c ∈ rest.head?, isNumberChar c = false) :
    number (n.lexeme ++ rest) = some (.num n, rest) := by
  have hall : ∀ c ∈ n.lexeme, isNumberChar c = true := isNumber_chars n.valid
  have hrest : rest.takeWhile isNumberChar = [] ∧ rest.dropWhile isNumberChar = rest := by
    rcases rest with _ | ⟨c, r⟩
    · exact ⟨rfl, rfl⟩
    · have hc := h c rfl
      exact ⟨List.takeWhile_cons_of_neg (by simp [hc]), List.dropWhile_cons_of_neg (by simp [hc])⟩
  have htake : (n.lexeme ++ rest).takeWhile isNumberChar = n.lexeme := by
    rw [List.takeWhile_append_of_pos hall, hrest.1, List.append_nil]
  have hdrop : (n.lexeme ++ rest).dropWhile isNumberChar = rest := by
    rw [dropWhile_append_all hall, hrest.2]
  simp only [number, htake, hdrop, n.valid, dite_true]

end Numbers

/-! ## Pieces -/

/-- What may follow a value. -/
def Delimited (rest : Str) : Prop := ∀ c ∈ rest.head?, c = ',' ∨ c = ']' ∨ c = '}'

theorem Delimited.nil : Delimited [] := nofun

theorem Delimited.cons {c : Char} (h : c = ',' ∨ c = ']' ∨ c = '}') (r : Str) : Delimited (c :: r) := by
  rintro d ⟨⟩
  exact h

theorem Delimited.number {rest : Str} (h : Delimited rest) : ∀ c ∈ rest.head?, isNumberChar c = false := by
  intro c hc
  rcases h c hc with rfl | rfl | rfl <;> rfl

/-- No text shorter than `p` is read as `j`. -/
def Shortest (p : Str) (j : Json) : Prop := ∀ n s r, value n s = some (j, r) → p.length + r.length ≤ s.length

/-- The text `p` is read as `j` if it is `good`, and not as `j` otherwise. -/
structure Spells (p : Str) (j : Json) (good : Prop) : Prop where
  head : ∃ c s, p = c :: s ∧ isBlank c = false ∧ c ≠ ']'
  shortest : Shortest p j
  reads : good → ∀ n rest, p.length < n → Delimited rest → value n (p ++ rest) = some (j, rest)
  fails : ¬ good → ∀ n rest r, p.length < n → Delimited rest → value n (p ++ rest) ≠ some (j, r)

theorem Spells.of_reads {p : Str} {j : Json} (hh : ∃ c s, p = c :: s ∧ isBlank c = false ∧ c ≠ ']') (hs : Shortest p j)
    (h : ∀ n rest, p.length < n → Delimited rest → value n (p ++ rest) = some (j, rest)) : Spells p j True :=
  ⟨hh, hs, fun _ => h, fun hn => absurd trivial hn⟩

theorem Spells.of_iff {p : Str} {j : Json} {good other : Prop} (h : Spells p j good) (hiff : good ↔ other) :
    Spells p j other := propext hiff ▸ h

theorem skip_of {c : Char} (h : isBlank c = false) (s : Str) : skip (c :: s) = c :: s :=
  List.dropWhile_cons_of_neg (by simp [h])

theorem shortest_bool (b : Bool) : Shortest (if b then "true".toList else "false".toList) (.bool b) := by
  intro n s r h
  obtain ⟨m, c, t, ht, hs⟩ := value_inv h
  have hword := length_literal (starting_inv hs)
  have hlen : (if b then "true".toList else "false".toList).length =
      (if b then "rue".toList else "alse".toList).length + 1 := by cases b <;> rfl
  omega

theorem Spells.bool (b : Bool) : Spells (if b then "true".toList else "false".toList) (.bool b) True := by
  refine .of_reads (by cases b <;> exact ⟨_, _, rfl, rfl, by decide⟩) (shortest_bool b) fun n rest hn _ => ?_
  obtain ⟨n, rfl⟩ : ∃ k, n = k + 1 := ⟨n - 1, by omega⟩
  cases b <;> simp [value, skip_of, starting, literal, isBlank]

theorem shortest_num (m : Number) : Shortest m.lexeme (.num m) := by
  intro n s r h
  obtain ⟨k, c, t, ht, hs⟩ := value_inv h
  have hnumber := length_number (starting_inv hs)
  rw [List.length_cons] at hnumber
  omega

theorem Spells.num (m : Number) : Spells m.lexeme (.num m) True := by
  obtain ⟨c, s, hs, hc⟩ := m.head
  have hblank : isBlank c = false := by
    rcases hc with hc | rfl
    · exact isBlank_of_isDigit hc
    · rfl
  have hother : ∀ d : Char, isDigit d = false → d ≠ '-' → c ≠ d := by
    rintro d hd hm rfl
    rcases hc with hc | hc
    · rw [hd] at hc
      cases hc
    · exact hm hc
  refine .of_reads ⟨c, s, hs, hblank, hother ']' rfl (by decide)⟩ (shortest_num m) fun n rest hn hrest => ?_
  obtain ⟨n, rfl⟩ : ∃ k, n = k + 1 := ⟨n - 1, by omega⟩
  have hnumber := number_lexeme m hrest.number
  rw [hs, List.cons_append] at hnumber ⊢
  simp only [value, skip_of hblank, starting, hother '"' rfl (by decide), hother '[' rfl (by decide),
    hother '{' rfl (by decide), hother 'n' rfl (by decide), hother 't' rfl (by decide), hother 'f' rfl (by decide),
    if_false, hnumber]

theorem length_quoteChar (c : Char) : 1 ≤ (quoteChar c).length ∧ (quoteChar c).length ≤ 2 := by
  unfold quoteChar
  split_ifs <;> simp

theorem string_length {t s r : Str} (h : string t = some (s, r)) :
    (s.flatMap quoteChar).length + 1 + r.length ≤ t.length := by
  fun_induction string t generalizing s r with
  | case1 => cases h
  | case2 t =>
    cases h
    exact Nat.le_of_eq (Nat.add_comm 1 _)
  | case3 a b c d t ih =>
    simp only [Option.bind_eq_bind, Option.bind_eq_some_iff, Option.some.injEq, Prod.mk.injEq] at h
    obtain ⟨u, -, ⟨cs, s⟩, hs, rfl, rfl⟩ := h
    have := ih hs
    have := (length_quoteChar u).2
    simp only [List.flatMap_cons, List.length_append, List.length_cons]
    omega
  | case4 e t _ ih =>
    simp only [Option.bind_eq_bind, Option.bind_eq_some_iff, Option.some.injEq, Prod.mk.injEq] at h
    obtain ⟨u, -, ⟨cs, s⟩, hs, rfl, rfl⟩ := h
    have := ih hs
    have := (length_quoteChar u).2
    simp only [List.flatMap_cons, List.length_append, List.length_cons]
    omega
  | case5 c t _ _ _ hc => cases h
  | case6 c t hq _ _ hc ih =>
    simp only [Option.bind_eq_bind, Option.bind_eq_some_iff, Option.some.injEq, Prod.mk.injEq] at h
    obtain ⟨⟨cs, s⟩, hs, rfl, rfl⟩ := h
    have := ih hs
    rw [not_or] at hc
    have hn : c ≠ '\n' := by
      rintro rfl
      exact hc.2 (by decide)
    have hr : c ≠ '\r' := by
      rintro rfl
      exact hc.2 (by decide)
    rw [List.flatMap_cons, quoteChar, if_neg hq, if_neg hc.1, if_neg hn, if_neg hr]
    simp only [List.length_append, List.length_cons, List.length_nil]
    omega

theorem shortest_quote (s : Str) : Shortest (quote s) (.str s) := by
  intro n t r h
  obtain ⟨m, c, t', ht, hs⟩ := value_inv h
  have := string_length (starting_inv hs)
  simp only [quote, List.length_cons, List.length_append, List.length_nil]
  omega

theorem value_quote (n : Nat) (s : Str) : value (n + 1) ('"' :: s) = (string s).map fun p => (.str p.1, p.2) := by
  simp only [value, skip_of (c := '"') rfl, starting, if_true]

theorem quote_name (m : Name) : quote m.text = verbatim m := by
  rw [quote, m.flatMap_quoteChar, verbatim]

theorem Spells.verbatim (m : Name) : Spells (verbatim m) (.str m.text) True := by
  refine .of_reads ⟨_, _, rfl, rfl, by decide⟩ (quote_name m ▸ shortest_quote m.text) fun n rest hn _ => ?_
  obtain ⟨n, rfl⟩ : ∃ k, n = k + 1 := ⟨n - 1, by omega⟩
  rw [Json.verbatim, List.cons_append, List.append_assoc, value_quote]
  change ((string (m.text ++ '"' :: rest)).map _) = _
  rw [string_name]
  rfl

theorem Spells.quote (s : Str) : Spells (quote s) (.str s) (plain s = true) := by
  have hread : ∀ n rest, value (n + 1) (Json.quote s ++ rest) = if plain s then some (.str s, rest) else none := by
    intro n rest
    have h := string_quoted s ('"' :: rest)
    rw [Json.quote, List.cons_append, List.append_assoc, value_quote]
    change ((string (s.flatMap quoteChar ++ '"' :: rest)).map _) = _
    rw [h]
    split
    · simp [string]
    · rfl
  refine ⟨⟨_, _, rfl, rfl, by decide⟩, shortest_quote s, fun hg n rest hn _ => ?_, fun hg n rest r hn _ => ?_⟩
  all_goals
    obtain ⟨n, rfl⟩ : ∃ k, n = k + 1 := ⟨n - 1, by omega⟩
    rw [hread]
  · rw [if_pos hg]
  · rw [if_neg hg]
    exact (Option.some_ne_none _).symm

theorem mem_of_mem_quoteChar {c : Char} (h : '\x00' ∈ quoteChar c) : c = '\x00' := by
  have hc : quoteChar c = [c] := by
    rw [quoteChar] at h ⊢
    split_ifs at h ⊢ <;> first | rfl | exact absurd h (by decide)
  rw [hc] at h
  exact (List.mem_singleton.mp h).symm

theorem Spells.cstr (s : Str) : Spells (Strings.cstr (Json.quote s)) (.str s) (plain s = true) := by
  have hmem : ∀ s : Str, '\x00' ∉ s → '\x00' ∉ s.flatMap quoteChar := by
    intro s hs h
    obtain ⟨c, hc, hn⟩ := List.mem_flatMap.mp h
    exact hs (mem_of_mem_quoteChar hn ▸ hc)
  by_cases h0 : '\x00' ∈ s
  · obtain ⟨pre, post, rfl, hpre⟩ := List.eq_append_cons_of_mem h0
    have hcut : Strings.cstr (Json.quote (pre ++ '\x00' :: post)) = '"' :: pre.flatMap quoteChar := by
      have hn : '\x00' ∉ '"' :: pre.flatMap quoteChar := by simp [hmem pre hpre]
      rw [← takeWhile_until hn (post.flatMap quoteChar ++ ['"'])]
      simp [Strings.cstr, Json.quote, quoteChar]
    have hbad : plain (pre ++ '\x00' :: post) = false := by simp [plain]
    have hshort : Shortest ('"' :: pre.flatMap quoteChar) (.str (pre ++ '\x00' :: post)) := by
      intro n t r h
      refine Nat.le_trans (Nat.add_le_add_right ?_ _) (shortest_quote _ n t r h)
      rw [← hcut]
      exact List.IsPrefix.length_le (List.takeWhile_prefix _)
    rw [hcut]
    refine ⟨⟨_, _, rfl, rfl, by decide⟩, hshort, fun hg => ?_, fun _ n rest r hn hrest => ?_⟩
    · rw [hbad] at hg
      cases hg
    · obtain ⟨n, rfl⟩ : ∃ k, n = k + 1 := ⟨n - 1, by omega⟩
      rw [List.cons_append, value_quote, string_quoted]
      intro h
      obtain ⟨⟨x, r'⟩, hx, hj⟩ := Option.map_eq_some_iff.mp h
      split at hx
      swap
      · cases hx
      · obtain ⟨⟨y, r₂⟩, hy, hxy⟩ := Option.map_eq_some_iff.mp hx
        cases hxy
        -- what follows the string is a delimiter, and the string goes on with it
        rcases rest with _ | ⟨c, rest⟩
        · cases hy
        · have hc := hrest c rfl
          have hplain : c ≠ '"' ∧ c ≠ '\\' ∧ 0x20 ≤ c.toNat ∧ c ≠ '\x00' := by
            rcases hc with rfl | rfl | rfl <;> decide
          rw [string_plain hplain.1 hplain.2.1 hplain.2.2.1] at hy
          obtain ⟨⟨z, r₃⟩, -, hz⟩ := Option.map_eq_some_iff.mp hy
          cases hz
          have hstr : pre ++ c :: z = pre ++ '\x00' :: post := Json.str.inj (congrArg Prod.fst hj)
          exact hplain.2.2.2 (List.cons.inj (List.append_cancel_left hstr)).1
  · have hcstr : Strings.cstr (Json.quote s) = Json.quote s := by
      refine cstr_eq_self_iff.mpr ?_
      simp [Json.quote, hmem s h0]
    rw [hcstr]
    exact .quote s

/-! ## Lists of pieces -/

section Lists

variable {α β : Type} {item : Reader α} {close : Char} {print : β → Str} {val : β → α} {good : β → Prop}

theorem length_le_commas (l : List Str) : l.length ≤ (commas l).length + 1 := by
  induction l using commas.induct with
  | case1 | case2 => simp
  | case3 a b l ih =>
    simp only [commas, List.length_cons, List.length_append] at ih ⊢
    omega

theorem length_le_of_mem {l : List Str} {s : Str} (h : s ∈ l) : s.length ≤ (commas l).length := by
  induction l using commas.induct with
  | case1 => cases h
  | case2 a =>
    rw [List.mem_singleton.mp h]
    rfl
  | case3 a b l ih =>
    rw [commas, List.length_append, List.length_cons]
    rcases List.mem_cons.mp h with rfl | h
    · omega
    · have := ih h
      omega

/-- The text `p` of an item is read as `a` if it is `good`, and not as `a` otherwise. -/
structure Entry (item : Reader α) (p : Str) (a : α) (good : Prop) : Prop where
  reads : good → ∀ rest, Delimited rest → item (p ++ rest) = some (a, rest)
  fails : ¬ good → ∀ rest r, Delimited rest → item (p ++ rest) ≠ some (a, r)

theorem list_reads (hclose : close = ']' ∨ close = '}') {l : List β} {n : Nat} (hl : l ≠ []) (hn : l.length ≤ n)
    (h : ∀ b ∈ l, Entry item (print b) (val b) (good b)) (hg : ∀ b ∈ l, good b) (rest : Str) :
    list item close n (commas (l.map print) ++ close :: rest) = some (l.map val, rest) := by
  have hblank : isBlank close = false := by rcases hclose with rfl | rfl <;> rfl
  have hcomma : ¬ ',' = close := by rcases hclose with rfl | rfl <;> decide
  induction l generalizing n with
  | nil => exact absurd rfl hl
  | cons a l ih =>
    obtain ⟨n, rfl⟩ : ∃ k, n = k + 1 := ⟨n - 1, by rw [List.length_cons] at hn; omega⟩
    have ha := (h a List.mem_cons_self).reads (hg a List.mem_cons_self)
    rw [list]
    rcases l with _ | ⟨b, l⟩
    · rw [List.map_cons, List.map_nil, commas, ha (close :: rest) (.cons (.inr hclose) rest)]
      simp [skip_of hblank]
    · have ih := ih (List.cons_ne_nil b l) (Nat.le_of_succ_le_succ hn) (fun x hx => h x (List.mem_cons_of_mem _ hx))
        fun x hx => hg x (List.mem_cons_of_mem _ hx)
      rw [List.map_cons, List.map_cons, commas, List.append_assoc, List.cons_append, ha _ (.cons (.inl rfl) _)]
      rw [List.map_cons] at ih
      simp only [Option.bind_eq_bind, Option.bind_some, skip_of (c := ',') rfl, hcomma, if_false, if_true, ih]
      rfl

/-- What was read of a list: its last item and the end, or an item, a comma and the rest. -/
theorem list_inv {n : Nat} {s r : Str} {as : List α} (h : list item close n s = some (as, r)) :
    ∃ m a s', n = m + 1 ∧ item s = some (a, s') ∧
      (as = [a] ∧ skip s' = close :: r ∨
        ∃ bs s'', as = a :: bs ∧ skip s' = ',' :: s'' ∧ list item close m s'' = some (bs, r)) := by
  rcases n with _ | m
  · cases h
  obtain ⟨⟨a, s'⟩, ha, hrest⟩ := Option.bind_eq_some_iff.mp h
  refine ⟨m, a, s', rfl, ha, ?_⟩
  simp only at hrest
  split at hrest
  · cases hrest
  next c s'' hskip =>
  split at hrest
  · next hc =>
    obtain ⟨rfl, rfl⟩ := Prod.mk.inj (Option.some.inj hrest)
    exact .inl ⟨rfl, hc ▸ hskip⟩
  split at hrest
  · next hc =>
    obtain ⟨⟨bs, r'⟩, hbs, hrest⟩ := Option.bind_eq_some_iff.mp hrest
    obtain ⟨rfl, rfl⟩ := Prod.mk.inj (Option.some.inj hrest)
    exact .inr ⟨bs, s'', rfl, hc ▸ hskip, hbs⟩
  · cases hrest

theorem list_fails (hclose : close = ']' ∨ close = '}') {l : List β} {n : Nat}
    (h : ∀ b ∈ l, Entry item (print b) (val b) (good b)) (hg : ¬ ∀ b ∈ l, good b) (rest r : Str) :
    list item close n (commas (l.map print) ++ close :: rest) ≠ some (l.map val, r) := by
  have hcomma : ¬ ',' = close := by rcases hclose with rfl | rfl <;> decide
  induction l generalizing n with
  | nil => exact absurd nofun hg
  | cons a l ih =>
    rcases n with _ | n
    · exact nofun
    have ha := h a List.mem_cons_self
    by_cases hga : good a
    · have hgl : ¬ ∀ b ∈ l, good b := fun hgl => hg (List.forall_mem_cons.mpr ⟨hga, hgl⟩)
      rcases l with _ | ⟨b, l⟩
      · exact absurd nofun hgl
      · have ih := ih (n := n) (fun x hx => h x (List.mem_cons_of_mem _ hx)) hgl
        rw [List.map_cons, List.map_cons, commas, List.append_assoc, List.cons_append, list,
          ha.reads hga _ (.cons (.inl rfl) _)]
        rw [List.map_cons] at ih
        simp only [Option.bind_eq_bind, Option.bind_some, skip_of (c := ',') rfl, hcomma, if_false, if_true]
        intro hsome
        obtain ⟨⟨as, s⟩, has, he⟩ := Option.bind_eq_some_iff.mp hsome
        cases he
        exact ih has
    · -- the text behind the first item
      obtain ⟨t, ht, htext⟩ : ∃ t, Delimited t ∧ commas ((a :: l).map print) ++ close :: rest = print a ++ t := by
        rcases l with _ | ⟨b, l⟩
        · exact ⟨close :: rest, .cons (.inr hclose) rest, rfl⟩
        · refine ⟨',' :: (commas ((b :: l).map print) ++ close :: rest), .cons (.inl rfl) _, ?_⟩
          rw [List.map_cons, List.map_cons, commas, List.append_assoc, List.cons_append]
      rw [htext]
      intro hsome
      obtain ⟨m, x, s, -, hx, hrest⟩ := list_inv hsome
      obtain rfl : val a = x := by
        rcases hrest with ⟨hl, -⟩ | ⟨bs, s', hl, -⟩
        · exact (List.cons.inj hl).1
        · exact (List.cons.inj hl).1
      exact ha.fails hga t s ht hx

theorem list_shortest {l : List β}
    (h : ∀ b ∈ l, ∀ s r, item s = some (val b, r) → (print b).length + r.length ≤ s.length) {n : Nat} {s r : Str}
    (hs : list item close n s = some (l.map val, r)) : (commas (l.map print)).length + 1 + r.length ≤ s.length := by
  induction l generalizing n s with
  | nil =>
    obtain ⟨m, a, s', -, -, hrest⟩ := list_inv hs
    rcases hrest with ⟨hl, -⟩ | ⟨bs, s'', hl, -⟩
    · cases hl
    · cases hl
  | cons b l ih =>
    obtain ⟨m, a, s', -, ha, hrest⟩ := list_inv hs
    rcases hrest with ⟨hl, hskip⟩ | ⟨bs, s'', hl, hskip, hbs⟩
    · obtain ⟨rfl, hnil⟩ := List.cons.inj hl
      obtain rfl : l = [] := List.map_eq_nil_iff.mp hnil
      have hitem := h b List.mem_cons_self s s' ha
      have hlen := length_skip hskip
      simp only [List.map_cons, List.map_nil, commas]
      omega
    · obtain ⟨rfl, rfl⟩ := List.cons.inj hl
      have hitem := h b List.mem_cons_self s s' ha
      have hlen := length_skip hskip
      have hbehind := ih (fun x hx => h x (List.mem_cons_of_mem _ hx)) hbs
      rcases l with _ | ⟨d, l⟩
      · simp only [List.map_cons, List.map_nil, commas, List.length_nil] at hbehind ⊢
        omega
      · simp only [List.map_cons, commas, List.length_append, List.length_cons] at hbehind ⊢
        omega

theorem items_shortest {l : List β}
    (h : ∀ b ∈ l, ∀ s r, item s = some (val b, r) → (print b).length + r.length ≤ s.length) {n : Nat} {s r : Str}
    (hs : items item close n s = some (l.map val, r)) : (commas (l.map print)).length + 1 + r.length ≤ s.length := by
  rw [items] at hs
  split at hs
  · cases hs
  next c s' hskip =>
  have hlen := length_skip hskip
  split at hs
  · obtain ⟨hnil, rfl⟩ := Prod.mk.inj (Option.some.inj hs)
    obtain rfl : l = [] := List.map_eq_nil_iff.mp hnil.symm
    simp only [List.map_nil, commas, List.length_nil]
    omega
  · have := list_shortest h hs
    rw [List.length_cons] at this
    omega

end Lists

/-! ## Arrays and objects -/

/-- A value with its text, the strings that its printer escapes, and the numbers that it takes from elsewhere. -/
structure Item where
  text : Str
  json : Json
  texts : List Str
  numbers : List Str
  spells : Spells text json ((∀ s ∈ texts, plain s = true) ∧ ∀ s ∈ numbers, isNumber s = true)

/-- The strings have no control character that is not escaped, and the numbers are numbers. -/
def Item.good (i : Item) : Prop := (∀ s ∈ i.texts, plain s = true) ∧ ∀ s ∈ i.numbers, isNumber s = true

theorem fuel_of_commas {l : List Str} {n : Nat} (h : (commas l).length + 2 < n + 1) :
    l.length ≤ n ∧ ∀ s ∈ l, s.length < n := by
  have := length_le_commas l
  exact ⟨by omega, fun s hs => by
    have := length_le_of_mem hs
    omega⟩

theorem items_cons {α : Type} {item : Reader α} {close c : Char} (hc : isBlank c = false) (hne : c ≠ close) (n : Nat)
    (s : Str) : items item close n (c :: s) = list item close n (c :: s) := by
  simp only [items, skip_of hc, hne, if_false]

theorem head_commas {p s : Str} {c : Char} (hp : p = c :: s) (l : List Str) : ∃ t, commas (p :: l) = c :: t := by
  rcases l with _ | ⟨q, l⟩
  · exact ⟨s, by rw [commas, hp]⟩
  · exact ⟨_, by rw [commas, hp]; rfl⟩

theorem shortest_array (l : List Item) : Shortest (array (l.map (·.text))) (.arr (l.map (·.json))) := by
  intro n s r h
  obtain ⟨m, c, t, ht, hs⟩ := value_inv h
  have hitem : ∀ i ∈ l, ∀ s r, value m s = some (i.json, r) → i.text.length + r.length ≤ s.length :=
    fun i _ s r => i.spells.shortest m s r
  have hitems : (commas (l.map (·.text))).length + 1 + r.length ≤ t.length := items_shortest hitem (starting_inv hs)
  rw [array, List.length_cons, List.length_append, List.length_singleton]
  omega

theorem Spells.array (l : List Item) :
    Spells (array (l.map (·.text))) (.arr (l.map (·.json))) (∀ i ∈ l, i.good) := by
  have hvalue : ∀ n rest, value (n + 1) (Json.array (l.map (·.text)) ++ rest) =
      (items (value n) ']' n (commas (l.map (·.text)) ++ ']' :: rest)).map fun p => (.arr p.1, p.2) := by
    intro n rest
    simp [Json.array, value, skip_of, starting, isBlank]
  refine ⟨⟨_, _, rfl, rfl, by decide⟩, shortest_array l, fun hg n rest hn _ => ?_, fun hg n rest r hn _ => ?_⟩
  all_goals
    obtain ⟨n, rfl⟩ : ∃ k, n = k + 1 := ⟨n - 1, by omega⟩
    rw [Json.array, List.length_cons, List.length_append, List.length_singleton] at hn
    obtain ⟨hcount, hfuel⟩ := fuel_of_commas hn
    rw [List.length_map] at hcount
    have hentry : ∀ i ∈ l, Entry (value n) i.text i.json i.good := fun i hi =>
      have hlen := hfuel i.text (List.mem_map_of_mem hi)
      ⟨fun hg rest => i.spells.reads hg n rest hlen, fun hg rest r => i.spells.fails hg n rest r hlen⟩
    rw [hvalue]
  · rcases hl : l with _ | ⟨i, k⟩
    · simp [items, commas, skip_of, isBlank]
    · obtain ⟨c, s, hc, hb, hne⟩ := i.spells.head
      obtain ⟨t, ht⟩ := head_commas hc (k.map (·.text))
      have hread := list_reads (.inl rfl) (by rw [hl]; exact List.cons_ne_nil i k) hcount hentry hg rest
      rw [hl, List.map_cons, ht, List.cons_append] at hread
      rw [List.map_cons, ht, List.cons_append, items_cons hb hne, hread]
      rfl
  · rcases hl : l with _ | ⟨i, k⟩
    · rw [hl] at hg
      exact absurd (List.forall_mem_nil _) hg
    · obtain ⟨c, s, hc, hb, hne⟩ := i.spells.head
      obtain ⟨t, ht⟩ := head_commas hc (k.map (·.text))
      intro h
      obtain ⟨⟨x, r'⟩, hx, hj⟩ := Option.map_eq_some_iff.mp h
      cases hj
      refine list_fails (n := n) (.inl rfl) hentry hg rest r' ?_
      rw [List.map_cons, ht, List.cons_append, items_cons hb hne] at hx
      rw [hl, List.map_cons, ht, List.cons_append]
      exact hx

theorem field_name {value : Reader Json} (m : Name) (s : Str) :
    field value ('"' :: (m.text ++ '"' :: ':' :: s)) = (value s).map fun p => ((m.text, p.1), p.2) := by
  rw [field, skip_of rfl]
  simp only [string_name, Option.bind_eq_bind, Option.bind_some, skip_of (c := ':') rfl]
  rcases value s with _ | ⟨j, r⟩ <;> rfl

theorem length_field {value : Reader Json} {m : Name} {p s r : Str} {j : Json}
    (hp : ∀ s r, value s = some (j, r) → p.length + r.length ≤ s.length)
    (h : field value s = some ((m.text, j), r)) : ('"' :: (m.text ++ '"' :: ':' :: p)).length + r.length ≤ s.length := by
  rw [field] at h
  split at h
  · next s₁ h₁ =>
    obtain ⟨⟨k, s₂⟩, hk, h⟩ := Option.bind_eq_some_iff.mp h
    simp only at h
    split at h
    · next s₃ h₃ =>
      obtain ⟨⟨v, s₄⟩, hv, h⟩ := Option.bind_eq_some_iff.mp h
      cases h
      have hname := string_length hk
      rw [m.flatMap_quoteChar] at hname
      have := length_skip h₁
      have := length_skip h₃
      have := hp s₃ _ hv
      simp only [List.length_cons, List.length_append]
      omega
    · cases h
  · cases h

theorem shortest_object (l : List (Name × Item)) :
    Shortest (object (l.map fun f => (f.1, f.2.text))) (.obj (l.map fun f => (f.1.text, f.2.json))) := by
  intro n s r h
  obtain ⟨m, c, t, ht, hs⟩ := value_inv h
  have hfield : ∀ f ∈ l, ∀ s r, field (value m) s = some ((f.1.text, f.2.json), r) →
      ('"' :: (f.1.text ++ '"' :: ':' :: f.2.text)).length + r.length ≤ s.length :=
    fun f _ s r => length_field (f.2.spells.shortest m)
  have := items_shortest hfield (starting_inv hs)
  rw [object, List.map_map, List.length_cons, List.length_append, List.length_singleton]
  change (commas (l.map fun f => '"' :: (f.1.text ++ '"' :: ':' :: f.2.text))).length + 1 + 1 + r.length ≤ s.length
  omega

theorem Spells.object (l : List (Name × Item)) :
    Spells (object (l.map fun f => (f.1, f.2.text))) (.obj (l.map fun f => (f.1.text, f.2.json))) (∀ f ∈ l, f.2.good) := by
  have htext : ((l.map fun f => (f.1, f.2.text)).map fun f => '"' :: (f.1.text ++ '"' :: ':' :: f.2)) =
      l.map fun f => '"' :: (f.1.text ++ '"' :: ':' :: f.2.text) := by
    rw [List.map_map]
    rfl
  have hvalue : ∀ n rest, value (n + 1) (Json.object (l.map fun f => (f.1, f.2.text)) ++ rest) =
      (items (field (value n)) '}' n (commas (l.map fun f => '"' :: (f.1.text ++ '"' :: ':' :: f.2.text)) ++
        '}' :: rest)).map fun p => (.obj p.1, p.2) := by
    intro n rest
    rw [Json.object, htext]
    simp [value, skip_of, starting, isBlank]
  refine ⟨⟨_, _, rfl, rfl, by decide⟩, shortest_object l, fun hg n rest hn _ => ?_, fun hg n rest r hn _ => ?_⟩
  all_goals
    obtain ⟨n, rfl⟩ : ∃ k, n = k + 1 := ⟨n - 1, by omega⟩
    rw [Json.object, htext, List.length_cons, List.length_append, List.length_singleton] at hn
    obtain ⟨hcount, hfuel⟩ := fuel_of_commas hn
    rw [List.length_map] at hcount
    have hentry : ∀ f ∈ l, Entry (field (value n)) ('"' :: (f.1.text ++ '"' :: ':' :: f.2.text)) (f.1.text, f.2.json)
        f.2.good := by
      intro f hf
      have hlen := hfuel _ (List.mem_map_of_mem hf)
      simp only [List.length_cons, List.length_append] at hlen
      have hsplit : ∀ rest, '"' :: (f.1.text ++ '"' :: ':' :: f.2.text) ++ rest =
          '"' :: (f.1.text ++ '"' :: ':' :: (f.2.text ++ rest)) := by simp
      constructor
      · intro hg rest hrest
        rw [hsplit, field_name, f.2.spells.reads hg n rest (by omega) hrest]
        rfl
      · intro hg rest r hrest h
        rw [hsplit, field_name] at h
        obtain ⟨⟨j, r'⟩, hj, he⟩ := Option.map_eq_some_iff.mp h
        have hjson : j = f.2.json := (Prod.mk.inj (Prod.mk.inj he).1).2
        rw [hjson] at hj
        exact f.2.spells.fails hg n rest r' (by omega) hrest hj
    rw [hvalue]
  · rcases hl : l with _ | ⟨f, k⟩
    · simp [items, commas, skip_of, isBlank]
    · have hread := list_reads (.inr rfl) (by rw [hl]; exact List.cons_ne_nil f k) hcount hentry hg rest
      obtain ⟨t, ht⟩ := head_commas (c := '"') (s := f.1.text ++ '"' :: ':' :: f.2.text) rfl
        (k.map fun f => '"' :: (f.1.text ++ '"' :: ':' :: f.2.text))
      rw [hl, List.map_cons, ht, List.cons_append] at hread
      rw [List.map_cons, ht, List.cons_append, items_cons rfl (by decide), hread]
      rfl
  · rcases hl : l with _ | ⟨f, k⟩
    · rw [hl] at hg
      exact absurd (List.forall_mem_nil _) hg
    · intro h
      obtain ⟨⟨x, r'⟩, hx, hj⟩ := Option.map_eq_some_iff.mp h
      cases hj
      refine list_fails (n := n) (.inr rfl) hentry hg rest r' ?_
      obtain ⟨t, ht⟩ := head_commas (c := '"') (s := f.1.text ++ '"' :: ':' :: f.2.text) rfl
        (k.map fun f => '"' :: (f.1.text ++ '"' :: ':' :: f.2.text))
      rw [List.map_cons, ht, List.cons_append, items_cons rfl (by decide)] at hx
      rw [hl, List.map_cons, ht, List.cons_append]
      exact hx

/-! ## Whole texts -/

theorem Spells.parse_iff {p : Str} {j : Json} {good : Prop} (h : Spells p j good) : parse p = some j ↔ good := by
  have hp : p.length < p.length + 1 := Nat.lt_succ_self _
  constructor
  · intro hparse
    by_contra hg
    rw [parse] at hparse
    split at hparse
    · next k r hv =>
      split at hparse
      · cases hparse
        have := h.fails hg _ [] r hp .nil
        rw [List.append_nil] at this
        exact this hv
      · cases hparse
    · cases hparse
  · intro hg
    have := h.reads hg _ [] hp .nil
    rw [List.append_nil] at this
    rw [parse, this]
    rfl

theorem Spells.parse_shorter {p s : Str} {j : Json} {good : Prop} (h : Spells p j good) (hs : s.length < p.length) :
    parse s ≠ some j := by
  intro hparse
  rw [parse] at hparse
  split at hparse
  · next k r hv =>
    split at hparse
    · cases hparse
      have := h.shortest _ _ _ hv
      omega
    · cases hparse
  · cases hparse

theorem simple_of_length {t s r : Str} (h : string t = some (s, r)) (hl : t.length ≤ s.length + 1 + r.length) :
    s.all simpleChar = true := by
  have hplaces : ∀ s : Str, s.length ≤ (s.flatMap quoteChar).length := by
    intro s
    induction s with
    | nil => exact Nat.le_refl _
    | cons c s ih =>
      have := (length_quoteChar c).1
      rw [List.flatMap_cons, List.length_append, List.length_cons]
      omega
  fun_induction string t generalizing s r with
  | case1 => cases h
  | case2 t =>
    cases h
    rfl
  | case3 a b c d t ih =>
    simp only [Option.bind_eq_bind, Option.bind_eq_some_iff, Option.some.injEq, Prod.mk.injEq] at h
    obtain ⟨u, -, ⟨cs, s⟩, hs, rfl, rfl⟩ := h
    have := string_length hs
    have := hplaces cs
    simp only [List.length_cons] at hl
    omega
  | case4 e t _ ih =>
    simp only [Option.bind_eq_bind, Option.bind_eq_some_iff, Option.some.injEq, Prod.mk.injEq] at h
    obtain ⟨u, -, ⟨cs, s⟩, hs, rfl, rfl⟩ := h
    have := string_length hs
    have := hplaces cs
    simp only [List.length_cons] at hl
    omega
  | case5 c t _ _ _ hc => cases h
  | case6 c t hq _ _ hc ih =>
    simp only [Option.bind_eq_bind, Option.bind_eq_some_iff, Option.some.injEq, Prod.mk.injEq] at h
    obtain ⟨⟨cs, s⟩, hs, rfl, rfl⟩ := h
    rw [not_or] at hc
    have hchar : simpleChar c = true := by
      simp only [simpleChar, Bool.and_eq_true, decide_eq_true_eq]
      exact ⟨⟨by omega, hq⟩, hc.1⟩
    simp only [List.length_cons] at hl
    rw [List.all_cons, hchar, ih hs (by omega)]
    rfl

theorem parse_bare_iff (s : Str) :
    parse ('"' :: (Strings.cstr s ++ ['"'])) = some (.str s) ↔ s.all simpleChar = true := by
  constructor
  · intro h
    rw [parse, value_quote] at h
    split at h
    · next j r hv =>
      split at h
      · obtain ⟨⟨u, r'⟩, hs, hj⟩ := Option.map_eq_some_iff.mp hv
        have hj' : u = s := by
          cases h
          exact Json.str.inj (Prod.mk.inj hj).1
        rw [hj'] at hs
        have hcut : (Strings.cstr s).length ≤ s.length := (List.takeWhile_prefix _).length_le
        refine simple_of_length hs ?_
        rw [List.length_append, List.length_singleton]
        omega
      · cases h
    · cases h
  · intro h
    have hcut : Strings.cstr s = s := by
      refine cstr_eq_self_iff.mpr fun h0 => ?_
      exact absurd (List.all_eq_true.mp h '\x00' h0) (by decide)
    rw [hcut]
    exact (Spells.verbatim ⟨s, h⟩).parse_iff.mpr trivial

/-! ## Formats -/

/-- `"%s":%s,"%s":%s` -/
def members (l : List (Name × Item)) : Str := commas (l.map fun f => '"' :: (f.1.text ++ '"' :: ':' :: f.2.text))

/-- What `%f` prints of a value that is not finite. -/
def nonFinite : List Str := [['i', 'n', 'f'], ['-', 'i', 'n', 'f'], ['n', 'a', 'n'], ['-', 'n', 'a', 'n']]

theorem mem_nonFinite {p : Str} : p ∈ nonFinite ↔
    p = ['i', 'n', 'f'] ∨ p = ['-', 'i', 'n', 'f'] ∨ p = ['n', 'a', 'n'] ∨ p = ['-', 'n', 'a', 'n'] := by
  simp only [nonFinite, List.mem_cons, List.not_mem_nil, or_false]

theorem Spells.nonFinite {p : Str} (h : p ∈ nonFinite) : Spells p .null False := by
  rw [mem_nonFinite] at h
  have hhead : ∃ c s, p = c :: s ∧ isBlank c = false ∧ c ≠ ']' := by
    rcases h with rfl | rfl | rfl | rfl <;> exact ⟨_, _, rfl, rfl, by decide⟩
  have hshort : p.length ≤ 4 := by rcases h with rfl | rfl | rfl | rfl <;> decide
  refine ⟨hhead, fun n s r hs => ?_, False.elim, fun _ n rest r hn _ => ?_⟩
  · obtain ⟨m, c, t, ht, hs⟩ := value_inv hs
    have hword := length_literal (starting_inv hs)
    have hlen : "ull".toList.length = 3 := rfl
    omega
  · obtain ⟨n, rfl⟩ : ∃ k, n = k + 1 := ⟨n - 1, by omega⟩
    rcases h with rfl | rfl | rfl | rfl <;>
      simp [value, skip_of, starting, isBlank, literal, number, isNumberChar, isDigit, isNumber, unsigned]

namespace Item

/-- `%s` of `"true"` and `"false"` -/
def bool (b : Bool) : Item :=
  ⟨if b then "true".toList else "false".toList, .bool b, [], [], (Spells.bool b).of_iff (by simp)⟩

def num (m : Number) : Item := ⟨m.lexeme, .num m, [], [], (Spells.num m).of_iff (by simp)⟩

/-- `%u` -/
def nat (n : Nat) : Item := num (.ofNat n)

/-- `%d` -/
def int (v : Int) : Item := num (.ofInt v)

/-- `%f`, which has no number for a value that is not finite. `null` stands for it. -/
def float (s : Str) (h : isNumber s = true ∨ s ∈ nonFinite) : Item :=
  ⟨s, if hn : isNumber s = true then .num ⟨s, hn⟩ else .null, [], [s], by
    by_cases hn : isNumber s = true
    · rw [dif_pos hn]
      exact (Spells.num ⟨s, hn⟩).of_iff (by simp [hn])
    · rw [dif_neg hn]
      exact (Spells.nonFinite (h.resolve_left hn)).of_iff (by simp [hn])⟩

/-- `"%s"` -/
def name (m : Name) : Item := ⟨Json.verbatim m, .str m.text, [], [], (Spells.verbatim m).of_iff (by simp)⟩

def str (s : Str) : Item := ⟨quote s, .str s, [s], [], (Spells.quote s).of_iff (by simp)⟩

/-- `%s` of a string's `c_str()` -/
def cstr (s : Str) : Item := ⟨Strings.cstr (quote s), .str s, [s], [], (Spells.cstr s).of_iff (by simp)⟩

theorem forall_good {α : Type} (l : List α) (f : α → Item) :
    (∀ a ∈ l, (f a).good) ↔
      (∀ s ∈ l.flatMap fun a => (f a).texts, plain s = true) ∧
        ∀ s ∈ l.flatMap fun a => (f a).numbers, isNumber s = true := by
  simp only [List.mem_flatMap]
  constructor
  · intro h
    exact ⟨fun s ⟨a, ha, hs⟩ => (h a ha).1 s hs, fun s ⟨a, ha, hs⟩ => (h a ha).2 s hs⟩
  · intro h a ha
    exact ⟨fun s hs => h.1 s ⟨a, ha, hs⟩, fun s hs => h.2 s ⟨a, ha, hs⟩⟩

def arr (l : List Item) : Item :=
  ⟨array (l.map (·.text)), .arr (l.map (·.json)), l.flatMap (·.texts), l.flatMap (·.numbers),
    (Spells.array l).of_iff (forall_good l fun i => i)⟩

def obj (l : List (Name × Item)) : Item :=
  ⟨object (l.map fun f => (f.1, f.2.text)), .obj (l.map fun f => (f.1.text, f.2.json)), l.flatMap (·.2.texts),
    l.flatMap (·.2.numbers), (Spells.object l).of_iff (forall_good l (·.2))⟩

theorem nat_text (n : Nat) : (nat n).text = decimal n := rfl

theorem int_text (v : Int) : (int v).text = decimalInt v := by cases v <;> rfl

theorem obj_text (l : List (Name × Item)) : (obj l).text = '{' :: (members l ++ ['}']) := by
  change object _ = _
  rw [object, List.map_map]
  rfl

theorem parse_iff (i : Item) : parse i.text = some i.json ↔ i.good := i.spells.parse_iff

/-- Where one piece of the text goes through a buffer, the value is given back exactly when the buffer holds the whole
piece, and what is in the text is good. -/
theorem parse_buffer_iff (i : Item) (before behind : Str) {piece : Str} (hi : i.text = before ++ piece ++ behind)
    {n : Nat} (hn : 0 < n) : parse (before ++ snprintf n piece ++ behind) = some i.json ↔ i.good ∧ piece.length < n := by
  by_cases hfit : piece.length < n
  · rw [snprintf, List.take_of_length_le (by omega), ← hi, i.parse_iff]
    exact (and_iff_left hfit).symm
  · have hcut : (before ++ snprintf n piece ++ behind).length < i.text.length := by
      simp only [hi, snprintf, List.length_append, List.length_take]
      omega
    exact ⟨fun hparse => absurd hparse (i.spells.parse_shorter hcut), fun h => absurd h.2 hfit⟩

theorem parse_snprintf_iff (i : Item) {n : Nat} (hn : 0 < n) :
    parse (snprintf n i.text) = some i.json ↔ i.good ∧ i.text.length < n := by
  have h := i.parse_buffer_iff [] [] (List.append_nil i.text).symm hn
  rwa [List.append_nil] at h

end Item

/-! ## Lengths -/

theorem length_commas (a : Str) (l : List Str) :
    (commas (a :: l)).length + 1 = ((a :: l).map fun s => s.length + 1).sum := by
  induction l generalizing a with
  | nil => rfl
  | cons b l ih =>
    have := ih b
    rw [commas, List.length_append, List.length_cons, List.map_cons, List.sum_cons]
    omega

theorem length_object (f : Name × Str) (l : List (Name × Str)) :
    (object (f :: l)).length = ((f :: l).map fun f => f.1.text.length + f.2.length + 4).sum + 1 := by
  have := length_commas ('"' :: (f.1.text ++ '"' :: ':' :: f.2)) (l.map fun f => '"' :: (f.1.text ++ '"' :: ':' :: f.2))
  rw [← List.map_cons (f := fun f : Name × Str => '"' :: (f.1.text ++ '"' :: ':' :: f.2)), List.map_map] at this
  have hfield : (fun s : Str => s.length + 1) ∘ (fun f : Name × Str => '"' :: (f.1.text ++ '"' :: ':' :: f.2)) =
      fun f => f.1.text.length + f.2.length + 4 := by
    funext f
    simp only [Function.comp_apply, List.length_cons, List.length_append]
    omega
  rw [hfield] at this
  rw [object, List.length_cons, List.length_append, List.length_singleton, this]

/-- The field takes at most `w` characters, with its quotes, its colon and a comma. -/
def Takes (f : Name × Item) (w : Nat) : Prop := f.1.text.length + f.2.text.length + 4 ≤ w

theorem length_obj_le {f : Name × Item} {l : List (Name × Item)} {ws : List Nat}
    (h : List.Forall₂ Takes (f :: l) ws) : (Item.obj (f :: l)).text.length ≤ ws.sum + 1 := by
  have hsum : ∀ {l : List (Name × Item)} {ws : List Nat}, List.Forall₂ Takes l ws →
      ((l.map fun f => (f.1, f.2.text)).map fun f => f.1.text.length + f.2.length + 4).sum ≤ ws.sum := by
    intro l ws h
    induction h with
    | nil => exact Nat.le_refl _
    | cons hf _ ih => exact Nat.add_le_add hf ih
  have := hsum h
  change (object ((f :: l).map fun f => (f.1, f.2.text))).length ≤ _
  rw [List.map_cons] at this ⊢
  rw [length_object]
  omega

theorem length_name {s : String} {l : List Char} (h : s = String.ofList l) {hs : s.toList.all simpleChar = true} :
    (name s hs).text.length = l.length := by
  change s.toList.length = l.length
  rw [h, String.toList_ofList]

theorem length_quote_le (s : Str) : (quote s).length ≤ 2 * s.length + 2 := by
  have h : (s.flatMap quoteChar).length ≤ 2 * s.length := by
    induction s with
    | nil => exact Nat.le_refl _
    | cons c s ih =>
      have := (length_quoteChar c).2
      rw [List.flatMap_cons, List.length_append, List.length_cons]
      omega
  simp only [quote, List.length_cons, List.length_append, List.length_nil]
  omega

section Takes

variable {s : String} {l : List Char} {h : s.toList.all simpleChar = true} (hs : s = String.ofList l)

include hs

theorem takes_nat {n k : Nat} (hk : 0 < k) (hn : n < 10 ^ k) : Takes (name s h, .nat n) (l.length + k + 4) := by
  have := length_decimal_le hk hn
  rw [Takes, length_name hs, Item.nat_text]
  omega

theorem takes_int {v : Int} {k : Nat} (hk : 0 < k) (hv : v.natAbs < 10 ^ k) :
    Takes (name s h, .int v) (l.length + (k + 1) + 4) := by
  have hlen : (decimalInt v).length ≤ k + 1 := by
    have := length_decimal_le hk hv
    cases v with
    | ofNat n => exact Nat.le_succ_of_le this
    | negSucc n => exact Nat.succ_le_succ this
  rw [Takes, length_name hs, Item.int_text]
  omega

theorem takes_bool (b : Bool) : Takes (name s h, .bool b) (l.length + 5 + 4) := by
  have hlen : (Item.bool b).text.length ≤ 5 := by cases b <;> decide
  rw [Takes, length_name hs]
  simp only
  omega

theorem takes_name {m : Name} {k : Nat} (hm : m.text.length ≤ k) : Takes (name s h, .name m) (l.length + (k + 2) + 4) := by
  rw [Takes, length_name hs]
  simp only [Item.name, verbatim, List.length_cons, List.length_append, List.length_nil]
  omega

theorem takes_cstr {t : Str} {k : Nat} (ht : t.length ≤ k) :
    Takes (name s h, .cstr t) (l.length + (2 * k + 2) + 4) := by
  have hlen : (Strings.cstr (quote t)).length ≤ (quote t).length := List.IsPrefix.length_le (List.takeWhile_prefix _)
  have := length_quote_le t
  rw [Takes, length_name hs]
  simp only [Item.cstr]
  omega

end Takes

end Json
