import ContentFilters.Text.Basic

/-!
# Patterns

A pattern describes texts that may stand at a place of a larger text. Besides the characters to be
read it can look at what stands before and after them, set parts aside by number, and ask for a part
again. Alternatives are tried in order, and a repetition takes as many rounds as it can, or as few
if it is patient; the first way that lets the rest of the pattern succeed is taken.

Matching is recursion on the pattern with what remains to be matched as a continuation. A repetition
goes on only while its rounds read something, so the characters left bound its rounds.
-/
namespace ContentFilters.Text

/-- A description of the texts that may stand at a place. -/
inductive Pattern where
  /-- Nothing is read. -/
  | nothing
  /-- One character with a property. -/
  | one (p : Char → Bool)
  | seq (first second : Pattern)
  | alt (first second : Pattern)
  /-- At least `least` rounds and at most `most` of them. -/
  | rounds (greedy : Bool) (least : Nat) (most : Option Nat) (round : Pattern)
  /-- What is read is set aside under a number. -/
  | part (n : Nat) (inner : Pattern)
  /-- The part with a number once more. -/
  | again (n : Nat)
  /-- Reads nothing, but the text that follows is wanted to match, or not to match. -/
  | ahead (wanted : Bool) (inner : Pattern)
  /-- Reads nothing; the character before the place, if there is one, has a property. -/
  | behind (p : Option Char → Bool)

structure Cursor where
  previous : Option Char
  rest : Text
  parts : List (Nat × Text)

def Cursor.pass (cursor : Cursor) (s rest : Text) : Cursor :=
  { cursor with previous := s.getLast?.or cursor.previous, rest := rest }

def Cursor.keep (cursor : Cursor) (n : Nat) (part : Text) : Cursor :=
  { cursor with parts := (n, part) :: cursor.parts }

/-- What remains to be matched after a pattern. -/
abbrev Continuation := Cursor → Option Cursor

namespace Pattern

/-- Repeats `round` and goes on with `after`. `budget` bounds the rounds. -/
def repeatRounds (round : Cursor → Continuation → Option Cursor) (greedy : Bool)
    (after : Continuation) : Nat → Nat → Option Nat → Cursor → Option Cursor
  | 0, _, _, cursor => after cursor
  | budget + 1, least, most, cursor =>
    let oneMore (_ : Unit) : Option Cursor :=
      if most == some 0 then none
      else round cursor fun next =>
        if least = 0 && next.rest.length == cursor.rest.length then none
        else repeatRounds round greedy after budget (least - 1) (most.map (· - 1)) next
    if least > 0 then oneMore ()
    else if greedy then (oneMore ()).or (after cursor)
    else (after cursor).or (oneMore ())

/-- Matches a pattern at a place and goes on with `after`. -/
def run : Pattern → Cursor → Continuation → Option Cursor
  | nothing, cursor, after => after cursor
  | one p, cursor, after =>
    match cursor.rest with
    | c :: rest => if p c then after { cursor with previous := some c, rest := rest } else none
    | [] => none
  | seq first second, cursor, after => run first cursor fun next => run second next after
  | alt first second, cursor, after =>
    match run first cursor after with
    | some found => some found
    | none => run second cursor after
  | rounds greedy least most round, cursor, after =>
    repeatRounds (run round) greedy after (cursor.rest.length + least + 1) least most cursor
  | part n inner, cursor, after =>
    run inner cursor fun next =>
      after (next.keep n (cursor.rest.take (cursor.rest.length - next.rest.length)))
  | again n, cursor, after =>
    match cursor.parts.lookup n with
    | none => none
    | some s =>
      match Text.after? s cursor.rest with
      | some rest => after (cursor.pass s rest)
      | none => none
  | ahead wanted inner, cursor, after =>
    match run inner cursor some with
    | some found => if wanted then after { cursor with parts := found.parts } else none
    | none => if wanted then none else after cursor
  | behind p, cursor, after => if p cursor.previous then after cursor else none

/-! ## Building patterns -/

def inOrder : List Pattern → Pattern
  | [] => nothing
  | [p] => p
  | p :: rest => seq p (inOrder rest)

/-- The first of some patterns that leads on. -/
def firstOf : List Pattern → Pattern
  | [] => ahead false nothing
  | [p] => p
  | p :: rest => alt p (firstOf rest)

def exactly (s : String) : Pattern := inOrder (s.toList.map fun c => one (· == c))

def oneOf (s : String) : Pattern :=
  let characters := s.toList
  one fun c => List.elem c characters

def noneOf (s : String) : Pattern :=
  let characters := s.toList
  one fun c => !List.elem c characters

def character : Pattern := one fun _ => true

def inLine : Pattern := noneOf "\n"

def blank : Pattern := one isBlank

/-- Any number of rounds, as many as can be. -/
def many (p : Pattern) : Pattern := rounds true 0 none p

def oneOrMore (p : Pattern) : Pattern := rounds true 1 none p

/-- Any number of rounds, as few as can be. -/
def few (p : Pattern) : Pattern := rounds false 0 none p

def oneOrFew (p : Pattern) : Pattern := rounds false 1 none p

/-- Between two numbers of rounds, as many as can be. -/
def between (least most : Nat) (p : Pattern) : Pattern := rounds true least (some most) p

def optional (p : Pattern) : Pattern := between 0 1 p

def spaces : Pattern := many (one (· = ' '))

/-- The text after the place does not match. -/
def notAhead (p : Pattern) : Pattern := ahead false p

def atEnd : Pattern := notAhead character

/-- The place is where the text ends, or where only a line feed follows. -/
def atLastLineEnd : Pattern := ahead true (inOrder [optional (one (· = '\n')), atEnd])

def atLineEnd : Pattern := notAhead inLine

def atStart : Pattern := behind Option.isNone

def atLineStart : Pattern := behind fun c => c == none || c == some '\n'

/-- The character before the place, if there is one, has not the property. -/
def notBehind (p : Char → Bool) : Pattern := behind fun c => !(c.map p).getD false

/-! ## Searching -/

structure Found where
  before : Text
  whole : Text
  after : Text
  parts : List (Nat × Text)

def Found.part? (found : Found) (n : Nat) : Option Text := found.parts.lookup n

/-- The part with a number; empty if it was not set aside. -/
def Found.part (found : Found) (n : Nat) : Text := (found.part? n).getD []

/-- The occurrence at the start of a text, with the character before it. -/
def matchAfter? (p : Pattern) (previous : Option Char) (s : Text) : Option Found :=
  (p.run ⟨previous, s, []⟩ some).map fun cursor =>
    ⟨[], s.take (s.length - cursor.rest.length), cursor.rest, cursor.parts⟩

def match? (p : Pattern) (s : Text) : Option Found := p.matchAfter? none s

def startsWith (p : Pattern) (s : Text) : Bool := (p.match? s).isSome

/-- The first occurrence of a pattern in a text, with the character before it. -/
def findAfter? (p : Pattern) (previous : Option Char) (s : Text) : Option Found :=
  match p.matchAfter? previous s, s with
  | some found, _ => some found
  | none, [] => none
  | none, c :: rest =>
    (findAfter? p (some c) rest).map fun found => { found with before := c :: found.before }

def find? (p : Pattern) (s : Text) : Option Found := p.findAfter? none s

/-- The occurrences of a pattern from left to right, without overlap. The text before each of them
begins where the one before it ended. The search ends at an occurrence that reads nothing. -/
def findAll (p : Pattern) (s : Text) : List Found := go s.length none s
where
  /-- Searches while `budget`, which the length of the text bounds, lasts. -/
  go : Nat → Option Char → Text → List Found
  | 0, _, _ => []
  | budget + 1, previous, s =>
    match p.findAfter? previous s with
    | none => []
    | some found =>
      if found.whole.isEmpty then []
      else found :: go budget found.whole.getLast? found.after

def replace (p : Pattern) (substitute : Found → Text) (s : Text) : Text :=
  let occurrences := p.findAll s
  let rest := (occurrences.getLast?.map (·.after)).getD s
  (occurrences.flatMap fun found => found.before ++ substitute found) ++ rest

end Pattern

end ContentFilters.Text
