import ContentFilters.Value.Basic

/-!
# Reading values

Reads a value in JavaScript object notation. White space is blank, tab, line feed and carriage
return; numerals with a point or an exponent are floating-point numbers and all others are whole
numbers of any size; the three words `NaN`, `Infinity` and `-Infinity` are read too. A field that
is given twice keeps its first place and its last value.

Every reading step returns what is left together with a proof that it is shorter, so the reader is
total without a bound on the depth.
-/
namespace ContentFilters.Value.Reader

/-- What one step reads from `s`, and the shorter text that is left. -/
structure Step (s : Text) (α : Type) where
  value : α
  rest : Text
  shorter : rest.length < s.length

/-- White space between the parts of a value. -/
def isSpace (c : Char) : Bool := c = ' ' || c = '\t' || c = '\n' || c = '\r'

def skip (s : Text) : Text := s.dropWhile isSpace

theorem skip_length (s : Text) : (skip s).length ≤ s.length :=
  (List.dropWhile_sublist isSpace).length_le

def hexValue? (c : Char) : Option Nat :=
  let n := c.toNat
  if 48 ≤ n && n ≤ 57 then some (n - 48)
  else if 65 ≤ n && n ≤ 70 then some (n - 55)
  else if 97 ≤ n && n ≤ 102 then some (n - 87)
  else none

def hexCode? (a b c d : Char) : Option Nat := do
  return (((← hexValue? a) * 16 + (← hexValue? b)) * 16 + (← hexValue? c)) * 16 + (← hexValue? d)

/-- The character that an escape letter stands for. -/
def escapedChar? : Char → Option Char
  | '"' => some '"'
  | '\\' => some '\\'
  | '/' => some '/'
  | 'b' => some (Char.ofNat 8)
  | 'f' => some (Char.ofNat 12)
  | 'n' => some '\n'
  | 'r' => some '\r'
  | 't' => some '\t'
  | _ => none

/-- The character that two escaped halves of a pair stand for. -/
def pairedChar? (high low : Nat) : Option Char :=
  if 0xD800 ≤ high && high < 0xDC00 && 0xDC00 ≤ low && low < 0xE000 then
    some (Char.ofNat (0x10000 + (high - 0xD800) * 0x400 + (low - 0xDC00)))
  else none

/-- A character of a string, with the number of characters that write it. -/
def charAt? : Text → Option (Char × Nat)
  | '\\' :: 'u' :: a :: b :: c :: d :: rest => do
    let high ← hexCode? a b c d
    let single : Char × Nat :=
      (if 0xD800 ≤ high && high < 0xE000 then Char.ofNat 0xFFFD else Char.ofNat high, 6)
    match rest with
    | '\\' :: 'u' :: e :: f :: g :: h :: _ =>
      match (hexCode? e f g h).bind (pairedChar? high) with
      | some paired => some (paired, 12)
      | none => some single
    | _ => some single
  | '\\' :: e :: _ => (escapedChar? e).map (·, 2)
  | c :: _ => if c.toNat < 0x20 || c = '\\' then none else some (c, 1)
  | [] => none

/-- The characters of a string up to its closing quote. -/
def readChars (s : Text) : Option (Step s Text) :=
  match s with
  | [] => none
  | c :: tail =>
    if c = '"' then some ⟨[], tail, Nat.lt_succ_self _⟩
    else
      match charAt? (c :: tail) with
      | none => none
      | some (d, width) =>
        have shorter : (tail.drop (width - 1)).length < (c :: tail).length := by
          rw [List.length_drop]
          exact Nat.lt_succ_of_le (Nat.sub_le _ _)
        (readChars (tail.drop (width - 1))).map fun more =>
          ⟨d :: more.value, more.rest, Nat.lt_trans more.shorter shorter⟩
termination_by s.length
decreasing_by exact shorter

def takeDigits (s : Text) : Text × Text := s.span Text.isDigit

def digitsValue (digits : Text) : Nat :=
  digits.foldl (fun n d => n * 10 + (d.toNat - 48)) 0

/-- The longest run of digits that is read as a whole number. -/
def maxDigits : Nat := 4300

/-- Reads a numeral; the text that is left comes second. -/
def numeral? (s : Text) : Option (Value × Text) := do
  let (negative, s) := match s with
    | '-' :: rest => (true, rest)
    | _ => (false, s)
  let (whole, rest) := takeDigits s
  if whole.isEmpty then failure
  -- a numeral does not start with a superfluous zero: what follows a zero is left
  let (whole, rest) :=
    if whole.head? = some '0' then (['0'], s.drop 1) else (whole, rest)
  let (fraction, rest) := match rest with
    | '.' :: more =>
      let (digits, after) := takeDigits more
      if digits.isEmpty then ([], rest) else (digits, after)
    | _ => ([], rest)
  let exponent? : Option (Int × Text) := match rest with
    | e :: more =>
      if e = 'e' || e = 'E' then
        let (minus, more) := match more with
          | '-' :: after => (true, after)
          | '+' :: after => (false, after)
          | _ => (false, more)
        let (digits, after) := takeDigits more
        if digits.isEmpty then none
        else some (if minus then -(digitsValue digits : Int) else digitsValue digits, after)
      else none
    | [] => none
  match fraction, exponent? with
  | [], none =>
    if whole.length > maxDigits then failure
    let n : Int := digitsValue whole
    return (.int (if negative then -n else n), rest)
  | _, _ =>
    let (power, rest) := exponent?.getD (0, rest)
    let power := max (-100000) (min 100000 power)
    let digits := digitsValue (whole ++ fraction)
    return (.real (.ofDecimal negative digits (power - fraction.length)), rest)

def keywords : List (Text × Value) :=
  [("null".toList, .null), ("true".toList, .bool true), ("false".toList, .bool false),
    ("NaN".toList, .real .nan), ("Infinity".toList, .real (.infinite false)),
    ("-Infinity".toList, .real (.infinite true))]

def readPlain (s : Text) : Option (Step s Value) := do
  let (value, rest) ←
    (keywords.findSome? fun (word, value) => (Text.after? word s).map (value, ·)) <|> numeral? s
  if h : rest.length < s.length then return ⟨value, rest, h⟩ else failure

mutual

def readValue (s : Text) : Option (Step s Value) :=
  match s with
  | '"' :: tail => do
    let chars ← readChars tail
    return ⟨.str (String.ofList chars.value), chars.rest, Nat.lt_succ_of_lt chars.shorter⟩
  | '[' :: tail =>
    have hskip := skip_length tail
    match h : skip tail with
    | ']' :: rest => some ⟨.list [], rest, by simp only [h, List.length_cons] at hskip ⊢; omega⟩
    | _ => do
      let items ← readItems (skip tail)
      return ⟨.list items.value, items.rest, by
        have := items.shorter; simp only [List.length_cons]; omega⟩
  | '\x7b' :: tail =>
    have hskip := skip_length tail
    match h : skip tail with
    | '\x7d' :: rest =>
      some ⟨.object [], rest, by simp only [h, List.length_cons] at hskip ⊢; omega⟩
    | _ => do
      let fields ← readFields [] (skip tail)
      return ⟨.object fields.value, fields.rest, by
        have := fields.shorter; simp only [List.length_cons]; omega⟩
  | other => readPlain other
termination_by (s.length, 0)
decreasing_by
  all_goals simp_wf; omega

/-- Reads the items of a list up to its closing bracket. -/
def readItems (s : Text) : Option (Step s (List Value)) := do
  let first ← readValue s
  have hskip := skip_length first.rest
  have := first.shorter
  match h : skip first.rest with
  | ']' :: rest => some ⟨[first.value], rest, by simp only [h, List.length_cons] at hskip; omega⟩
  | ',' :: rest =>
    have hrest := skip_length rest
    let more ← readItems (skip rest)
    return ⟨first.value :: more.value, more.rest, by
      have := more.shorter; simp only [h, List.length_cons] at hskip; omega⟩
  | _ => none
termination_by (s.length, 1)
decreasing_by
  · omega
  · simp only [h, List.length_cons] at hskip; omega

/-- Reads the fields of an object up to its closing brace; `known` holds those already read. -/
def readFields (known : List (String × Value)) (s : Text) :
    Option (Step s (List (String × Value))) :=
  match s with
  | '"' :: tail => do
    let key ← readChars tail
    have hk := key.shorter
    have hkey := skip_length key.rest
    match hc : skip key.rest with
    | ':' :: after =>
      have hafter := skip_length after
      have hlt : (skip after).length < tail.length := by
        simp only [hc, List.length_cons] at hkey; omega
      let item ← readValue (skip after)
      have hi := item.shorter
      have hskip := skip_length item.rest
      let fields := setField (String.ofList key.value) item.value known
      match h : skip item.rest with
      | '\x7d' :: rest => some ⟨fields, rest, by
          simp only [h, List.length_cons] at hskip ⊢; omega⟩
      | ',' :: rest =>
        have hrest := skip_length rest
        let more ← readFields fields (skip rest)
        return ⟨more.value, more.rest, by
          have := more.shorter; simp only [h, List.length_cons] at hskip ⊢; omega⟩
      | _ => none
    | _ => none
  | _ => none
termination_by (s.length, 1)
decreasing_by
  · simp_wf; omega
  · simp_wf; simp only [h, List.length_cons] at hskip; omega

end

/-- Reads a text that holds one value and nothing else. -/
def read? (s : Text) : Option Value := do
  let step ← readValue (skip s)
  if (skip step.rest).isEmpty then return step.value else failure

end ContentFilters.Value.Reader
