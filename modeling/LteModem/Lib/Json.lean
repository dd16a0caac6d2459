import LteModem.Lib.Strings

/-!
# JSON

A reader of the whole grammar, but for the surrogates in `\u` escapes.
-/

open Strings

namespace Json

/-! ## Characters -/

def isBlank (c : Char) : Bool := c = ' ' || c = '\t' || c = '\n' || c = '\r'

def skip (s : Str) : Str := s.dropWhile isBlank

/-- What a character after a backslash stands for. -/
def escape : Char → Option Char
  | '"' => some '"'
  | '\\' => some '\\'
  | '/' => some '/'
  | 'b' => some '\x08'
  | 'f' => some '\x0c'
  | 'n' => some '\n'
  | 'r' => some '\r'
  | 't' => some '\t'
  | _ => none

def unicode (a b c d : Char) : Option Char := do
  let a ← hexVal a
  let b ← hexVal b
  let c ← hexVal c
  let d ← hexVal d
  some (Char.ofNat (((a * 16 + b) * 16 + c) * 16 + d))

/-- A value and what follows it. -/
abbrev Reader (α : Type) := Str → Option (α × Str)

/-- The rest of a string behind its opening quote. -/
def string : Reader Str
  | [] => none
  | '"' :: s => some ([], s)
  | '\\' :: 'u' :: a :: b :: c :: d :: s => do
    let c ← unicode a b c d
    let (cs, s) ← string s
    some (c :: cs, s)
  | '\\' :: c :: s => do
    let c ← escape c
    let (cs, s) ← string s
    some (c :: cs, s)
  | c :: s =>
    if c = '\\' ∨ c.toNat < 0x20 then none
    else do
      let (cs, s) ← string s
      some (c :: cs, s)

theorem string_escape {e c : Char} (h : escape e = some c) (s : Str) :
    string ('\\' :: e :: s) = (string s).map fun p => (c :: p.1, p.2) := by
  have hu : e ≠ 'u' := by
    rintro rfl
    cases h
  rw [string]
  · rw [h]
    rcases string s with _ | ⟨cs, r⟩ <;> rfl
  · rintro _ _ _ _ _ rfl
    exact absurd rfl hu

theorem string_plain {c : Char} (hq : c ≠ '"') (hb : c ≠ '\\') (hc : 0x20 ≤ c.toNat) (s : Str) :
    string (c :: s) = (string s).map fun p => (c :: p.1, p.2) := by
  rw [string]
  · rw [if_neg (by simp [hb]; omega)]
    rcases string s with _ | ⟨cs, r⟩ <;> rfl
  · exact hq
  · rintro _ _ _ _ _ rfl
    exact absurd rfl hb
  · rintro _ _ rfl
    exact absurd rfl hb

theorem string_control {c : Char} (hc : c.toNat < 0x20) (s : Str) : string (c :: s) = none := by
  have hq : c ≠ '"' := by
    rintro rfl
    exact absurd hc (by decide)
  have hb : c ≠ '\\' := by
    rintro rfl
    exact absurd hc (by decide)
  rw [string]
  · rw [if_pos (.inr hc)]
  · exact hq
  · rintro _ _ _ _ _ rfl
    exact absurd rfl hb
  · rintro _ _ rfl
    exact absurd rfl hb

/-! ## Numbers -/

def exponent : Str → Bool
  | [] => true
  | c :: s =>
    let digits := match s with
      | '+' :: s | '-' :: s => s
      | s => s
    (c = 'e' || c = 'E') && digits ≠ [] && digits.all isDigit

def fraction : Str → Bool
  | '.' :: s => s.takeWhile isDigit ≠ [] && exponent (s.dropWhile isDigit)
  | s => exponent s

def unsigned (s : Str) : Bool :=
  match s.takeWhile isDigit with
  | [] => false
  | '0' :: _ :: _ => false
  | _ => fraction (s.dropWhile isDigit)

def isNumber : Str → Bool
  | '-' :: s => unsigned s
  | s => unsigned s

def isNumberChar (c : Char) : Bool := isDigit c || c = '-' || c = '+' || c = '.' || c = 'e' || c = 'E'

/-- A number as it is written. -/
structure Number where
  lexeme : Str
  valid : isNumber lexeme = true

theorem decimal_head {n : Nat} (h : n ≠ 0) : ∃ d s, decimal n = d :: s ∧ d ≠ '0' := by
  induction n using Nat.strongRecOn with
  | _ n ih =>
    by_cases hn : n < 10
    · refine ⟨Nat.digitChar n, [], decimal_digit hn, fun h0 => h ?_⟩
      exact (digitChar_inj hn (by omega)).mp h0
    · obtain ⟨d, s, hs, hd⟩ := ih (n / 10) (by omega) (by omega)
      refine ⟨d, s ++ [Nat.digitChar (n % 10)], ?_, hd⟩
      rw [decimal, Nat.toDigits_of_base_le (by omega) (by omega), ← decimal, hs]
      rfl

theorem unsigned_decimal (n : Nat) : unsigned (decimal n) = true := by
  rw [unsigned, takeWhile_decimal, dropWhile_decimal]
  by_cases h : n = 0
  · subst h
    decide
  · obtain ⟨d, s, hs, hd⟩ := decimal_head h
    rw [hs]
    split
    · next h0 => cases h0
    · next h0 =>
      cases h0
      exact absurd rfl hd
    · rfl

def Number.ofNat (n : Nat) : Number := ⟨decimal n, by
  obtain ⟨c, s, hs, hc⟩ := head_decimal n
  rw [isNumber]
  · exact unsigned_decimal n
  · rintro t ht
    rw [ht] at hs
    cases hs
    cases hc⟩

def Number.ofInt : Int → Number
  | .ofNat n => .ofNat n
  | .negSucc n => ⟨decimalInt (.negSucc n), unsigned_decimal (n + 1)⟩

end Json

inductive Json where
  | null
  | bool (b : Bool)
  | num (n : Json.Number)
  | str (s : Str)
  | arr (items : List Json)
  | obj (fields : List (Str × Json))

namespace Json

/-! ## Reading -/

section Readers

variable {α : Type}

/-- One or more items with commas between them, up to `close`. -/
def list (item : Reader α) (close : Char) : Nat → Reader (List α)
  | 0, _ => none
  | n + 1, s => do
    let (a, s) ← item s
    match skip s with
    | [] => none
    | c :: s =>
      if c = close then some ([a], s)
      else if c = ',' then do
        let (as, s) ← list item close n s
        some (a :: as, s)
      else none

def items (item : Reader α) (close : Char) (n : Nat) : Reader (List α) := fun s =>
  match skip s with
  | [] => none
  | c :: s => if c = close then some ([], s) else list item close n (c :: s)

end Readers

def literal (word : Str) (j : Json) : Reader Json := fun s =>
  if word <+: s then some (j, s.drop word.length) else none

def number : Reader Json := fun s =>
  if h : isNumber (s.takeWhile isNumberChar) = true then some (.num ⟨_, h⟩, s.dropWhile isNumberChar) else none

def field (value : Reader Json) : Reader (Str × Json) := fun s =>
  match skip s with
  | '"' :: s => do
    let (k, s) ← string s
    match skip s with
    | ':' :: s => do
      let (v, s) ← value s
      some ((k, v), s)
    | _ => none
  | _ => none

/-- A value that begins with `c`. -/
def starting (value : Reader Json) (n : Nat) (c : Char) : Reader Json := fun s =>
  if c = '"' then (string s).map fun p => (.str p.1, p.2)
  else if c = '[' then (items value ']' n s).map fun p => (.arr p.1, p.2)
  else if c = '{' then (items (field value) '}' n s).map fun p => (.obj p.1, p.2)
  else if c = 'n' then literal "ull".toList .null s
  else if c = 't' then literal "rue".toList (.bool true) s
  else if c = 'f' then literal "alse".toList (.bool false) s
  else number (c :: s)

def value : Nat → Reader Json
  | 0, _ => none
  | n + 1, s =>
    match skip s with
    | [] => none
    | c :: s => starting (value n) n c s

/-- A text that is one value, and blanks. No value is deeper than its text is long. -/
def parse (s : Str) : Option Json :=
  match value (s.length + 1) s with
  | some (j, r) => if skip r = [] then some j else none
  | none => none

example : parse "\x7b\"a\" : [1, -2.5e3, true], \"b\\n\":\x7b\x7d\x7d".toList = some (.obj
    [(['a'], .arr [.num ⟨['1'], rfl⟩, .num ⟨"-2.5e3".toList, rfl⟩, .bool true]), (['b', '\n'], .obj [])]) := rfl

/-! ## What was read -/

theorem length_skip {s r : Str} {c : Char} (h : skip s = c :: r) : r.length + 1 ≤ s.length := by
  have hle : (skip s).length ≤ s.length := List.length_dropWhile_le ..
  rwa [h] at hle

theorem starting_inv {value : Reader Json} {n : Nat} {c : Char} {s r : Str} {j : Json}
    (h : starting value n c s = some (j, r)) :
    match j with
    | .str t => string s = some (t, r)
    | .arr l => items value ']' n s = some (l, r)
    | .obj l => items (field value) '}' n s = some (l, r)
    | .null => literal "ull".toList .null s = some (.null, r)
    | .bool b => literal (if b then "rue".toList else "alse".toList) (.bool b) s = some (.bool b, r)
    | .num m => number (c :: s) = some (.num m, r) := by
  have hliteral : ∀ {word : Str} {k : Json}, literal word k s = some (j, r) → j = k ∧ literal word k s = some (k, r) := by
    intro word k hl
    rw [literal] at hl ⊢
    split at hl
    · next hpre =>
      cases hl
      exact ⟨rfl, if_pos hpre⟩
    · cases hl
  rw [starting] at h
  split at h
  · obtain ⟨⟨t, r'⟩, ht, he⟩ := Option.map_eq_some_iff.mp h
    cases he
    exact ht
  split at h
  · obtain ⟨⟨l, r'⟩, hl, he⟩ := Option.map_eq_some_iff.mp h
    cases he
    exact hl
  split at h
  · obtain ⟨⟨l, r'⟩, hl, he⟩ := Option.map_eq_some_iff.mp h
    cases he
    exact hl
  split at h
  · obtain ⟨rfl, hl⟩ := hliteral h
    exact hl
  split at h
  · obtain ⟨rfl, hl⟩ := hliteral h
    exact hl
  split at h
  · obtain ⟨rfl, hl⟩ := hliteral h
    exact hl
  · have hn := h
    rw [number] at hn
    split at hn
    · cases hn
      exact h
    · cases hn

theorem value_inv {n : Nat} {s r : Str} {j : Json} (h : value n s = some (j, r)) :
    ∃ m c t, t.length + 1 ≤ s.length ∧ starting (value m) m c t = some (j, r) := by
  rcases n with _ | m
  · cases h
  rw [value] at h
  rcases hs : skip s with _ | ⟨c, t⟩
  · rw [hs] at h
    cases h
  · rw [hs] at h
    exact ⟨m, c, t, length_skip hs, h⟩

theorem length_literal {word s r : Str} {j k : Json} (h : literal word k s = some (j, r)) :
    word.length + r.length ≤ s.length := by
  rw [literal] at h
  split at h
  · next hpre =>
    cases h
    have := hpre.length_le
    rw [List.length_drop]
    omega
  · cases h

theorem length_number {m : Number} {s r : Str} (h : number s = some (.num m, r)) :
    m.lexeme.length + r.length = s.length := by
  rw [number] at h
  split at h
  · cases h
    rw [← List.length_append, List.takeWhile_append_dropWhile]
  · cases h

end Json
