import ContentFilters.Text.Basic
import ContentFilters.Text.CaseTable

/-!
# Lower case

The lower-case form of a text by the full Unicode rules. All characters but two are mapped one by
one: capital I with a dot above becomes two characters, and a capital sigma becomes the final sigma
where it ends a word and the ordinary small sigma elsewhere.
-/
namespace ContentFilters.Text

def inRanges (ranges : List (Nat × Nat)) (n : Nat) : Bool :=
  ranges.any fun r => r.1 ≤ n && n ≤ r.2

/-- Whether a character is a cased letter that is not ignored beside another one. -/
def isCased (c : Char) : Bool := inRanges CaseTable.casedRanges c.toNat

/-- Whether a character is ignored when the neighbours of a letter are looked at. -/
def isCaseIgnorable (c : Char) : Bool := inRanges CaseTable.ignorableRanges c.toNat

def lowerChar (c : Char) : Char :=
  if c.toNat < 0x80 then lowerAscii c
  else
    match CaseTable.lowerRuns.find? fun (first, last, step, _) =>
        first ≤ c.toNat && c.toNat ≤ last && (c.toNat - first) % step == 0 with
    | some (_, _, _, shift) => Char.ofNat ((c.toNat : Int) + shift).toNat
    | none => c

/-- Whether the nearest character that is not ignored exists and is cased. -/
def nextIsCased (s : Text) : Bool :=
  match s.dropWhile isCaseIgnorable with
  | [] => false
  | c :: _ => isCased c

/-- The lower-case form of a text, of which `before` holds the characters already passed, the
nearest first. -/
def lowerAfter (before : Text) : Text → Text
  | [] => []
  | c :: rest =>
    let here : Text :=
      if c = 'Σ' then (if nextIsCased before && !nextIsCased rest then ['ς'] else ['σ'])
      else if c.toNat = 0x130 then ['i', Char.ofNat 0x307]
      else [lowerChar c]
    here ++ lowerAfter (c :: before) rest

def lower (s : Text) : Text := lowerAfter [] s

theorem lower_eq_nil_iff {s : Text} : lower s = [] ↔ s = [] := by
  cases s with
  | nil => exact iff_of_true rfl rfl
  | cons c rest =>
    refine iff_of_false (fun h => ?_) (List.cons_ne_nil c rest)
    simp only [lower, lowerAfter, List.append_eq_nil_iff] at h
    split at h
    · split at h <;> cases h.1
    · split at h <;> cases h.1

def lowerString (s : String) : String := String.ofList (lower s.toList)

end ContentFilters.Text
