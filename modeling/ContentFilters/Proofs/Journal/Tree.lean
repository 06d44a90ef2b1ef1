import ContentFilters.Journal.Hierarchy

/-!
# The tree of loggers

What holds of any hierarchy that comes about by creating loggers and setting them up: every logger
below the root has a parent with a shorter name, so a climb comes to the root before its budget is
used up, and a lineage is the logger followed by the lineage of its parent. A new logger changes
parents only. It comes into the lineage of loggers below it, and into no other.
-/
namespace ContentFilters

theorem Text.length_of_cutAtLast? {d : Char} {s before after : Text}
    (h : cutAtLast? d s = some (before, after)) : before.length < s.length := by
  obtain ⟨⟨a, b⟩, hb, he⟩ := Option.map_eq_some_iff.mp h
  obtain ⟨rfl, rfl⟩ := Prod.mk.inj he
  simpa only [List.length_reverse] using length_of_cutAt? hb

namespace Journal.Hierarchy

/-! ## Names above a name -/

theorem length_lt_of_mem_namesAbove_go {s : Text} {above : String} (h : above ∈ namesAbove.go s) :
    above.length < s.length := by
  fun_induction namesAbove.go s with
  | case1 s hcut => exact absurd h List.not_mem_nil
  | case2 s after hcut => exact absurd h List.not_mem_nil
  | case3 s before after hcut hne ih =>
    have hlen := Text.length_of_cutAtLast? hcut
    rcases List.mem_cons.mp h with rfl | hlater
    · rwa [String.length_ofList]
    · have hshorter := ih hlater
      rw [List.length_dropLast] at hshorter
      omega

theorem length_lt_of_mem_namesAbove {above name : String} (h : above ∈ namesAbove name) :
    above.length < name.length := by
  rw [← String.length_toList]
  exact length_lt_of_mem_namesAbove_go h

/-! ## Looking loggers up -/

section Loggers

variable {h : Hierarchy} {name other : String}

theorem name_of_logger? {l : Logger} (hl : h.logger? name = some l) : l.name = name := by
  have hfound := List.find?_some hl
  exact eq_of_beq hfound

@[simp] theorem logger_name (h : Hierarchy) (name : String) : (h.logger name).name = name := by
  unfold logger
  cases hl : h.logger? name with
  | none => rfl
  | some l => exact name_of_logger? hl

theorem logger_of_absent (hname : h.logger? name = none) : h.logger name = { name := name } := by
  rw [logger, hname, Option.getD_none]

/-- A change that keeps names does not change which logger is found. -/
theorem logger?_map {f : Logger → Logger} (hf : ∀ l, (f l).name = l.name) (loggers : List Logger)
    (name : String) :
    logger? { loggers := loggers.map f } name = (logger? { loggers := loggers } name).map f := by
  simp only [logger?, List.find?_map, Function.comp_def, hf]

theorem logger?_update {f : Logger → Logger} (hf : ∀ l, (f l).name = l.name) :
    (h.update name f).logger? other =
      (h.logger? other).map fun l => if other = name then f l else l := by
  have hkeep : ∀ l : Logger, (if l.name == name then f l else l).name = l.name := by
    intro l
    split
    · exact hf l
    · rfl
  refine (logger?_map hkeep h.loggers other).trans ?_
  cases hl : h.logger? other with
  | none => rfl
  | some l => simp only [Option.map_some, name_of_logger? hl, beq_iff_eq]

/-- Changing a logger that exists changes it and no other. -/
theorem logger_update {f : Logger → Logger} (hf : ∀ l, (f l).name = l.name)
    (hname : (h.logger? name).isSome) :
    (h.update name f).logger other =
      if other = name then f (h.logger other) else h.logger other := by
  unfold logger
  rw [logger?_update hf]
  split
  · next heq =>
    obtain ⟨l, hl⟩ := Option.isSome_iff_exists.mp hname
    rw [heq, hl]
    rfl
  · rw [Option.map_id']

theorem update_update {f g : Logger → Logger} (hf : ∀ l, (f l).name = l.name) :
    (h.update name f).update name g = h.update name fun l => g (f l) := by
  unfold update
  rw [List.map_map]
  congr 1
  refine List.map_congr_left fun l _ => ?_
  by_cases hl : l.name = name
  · simp [hl, hf]
  · simp [hl]

/-- The parent of a new logger: the nearest existing logger above its name. -/
def nearest (h : Hierarchy) (name : String) : String :=
  ((namesAbove name).find? fun above => (h.logger? above).isSome).getD ""

theorem ensure_of_present (hname : (h.logger? name).isSome) : h.ensure name = h := by
  obtain ⟨l, hl⟩ := Option.isSome_iff_exists.mp hname
  rw [ensure, hl]

theorem logger?_ensure_of_absent (hname : h.logger? name = none) :
    (h.ensure name).logger? other =
      if other = name then some { name := name, parent := h.nearest name }
      else (h.logger? other).map fun l =>
        if relinks name l then { l with parent := name } else l := by
  have hkeep : ∀ l : Logger, (if relinks name l then { l with parent := name } else l).name =
      l.name := by
    intro l
    split <;> rfl
  have hold := logger?_map hkeep h.loggers other
  have hensure : (h.ensure name).loggers = (h.loggers.map fun l =>
      if relinks name l then { l with parent := name } else l) ++
      [{ name := name, parent := h.nearest name }] := by rw [ensure, hname, nearest]
  rw [logger?, hensure, List.find?_append]
  refine (congrArg (Option.or · _) hold).trans ?_
  split
  · next heq =>
    rw [heq, hname]
    simp
  · next hne =>
    simp [Ne.symm hne]

theorem isSome_logger?_ensure :
    ((h.ensure name).logger? other).isSome ↔ other = name ∨ (h.logger? other).isSome := by
  cases hname : h.logger? name with
  | some l =>
    have hpresent : (h.logger? name).isSome := by rw [hname, Option.isSome_some]
    rw [ensure_of_present hpresent]
    refine ⟨.inr, ?_⟩
    rintro (rfl | hother)
    · exact hpresent
    · exact hother
  | none =>
    rw [logger?_ensure_of_absent hname]
    split
    · next heq => exact iff_of_true rfl (.inl heq)
    · next hne => rw [Option.isSome_map, or_iff_right hne]

theorem logger_ensure_self (hname : h.logger? name = none) :
    (h.ensure name).logger name = { name := name, parent := h.nearest name } := by
  rw [logger, logger?_ensure_of_absent hname, if_pos rfl, Option.getD_some]

/-- Creating a logger changes parents only: that of the new logger, and those of some below it. -/
theorem logger_ensure (h : Hierarchy) (name other : String) :
    ∃ parent, (h.ensure name).logger other = { h.logger other with parent := parent } ∧
      (parent = (h.logger other).parent ∨ name ∈ namesAbove other ∧ parent = name ∨
        other = name ∧ h.logger? name = none ∧ parent = h.nearest name) := by
  cases hname : h.logger? name with
  | some l =>
    have hpresent : (h.logger? name).isSome := by rw [hname, Option.isSome_some]
    exact ⟨_, by rw [ensure_of_present hpresent], .inl rfl⟩
  | none =>
    by_cases hother : other = name
    · refine ⟨h.nearest name, ?_, .inr (.inr ⟨hother, rfl, rfl⟩)⟩
      rw [hother, logger_of_absent hname, logger_ensure_self hname]
    · unfold logger
      rw [logger?_ensure_of_absent hname, if_neg hother]
      cases hl : h.logger? other with
      | none => exact ⟨_, rfl, .inl rfl⟩
      | some l =>
        simp only [Option.map_some, Option.getD_some]
        split
        · next hrelinks =>
          obtain ⟨habove, -⟩ := Bool.and_eq_true_iff.mp hrelinks
          rw [name_of_logger? hl, List.contains_iff_mem] at habove
          exact ⟨_, rfl, .inr (.inl ⟨habove, rfl⟩)⟩
        · exact ⟨_, rfl, .inl rfl⟩

@[simp] theorem handlers_ensure (h : Hierarchy) (name other : String) :
    ((h.ensure name).logger other).handlers = (h.logger other).handlers := by
  obtain ⟨parent, hlogger, -⟩ := logger_ensure h name other
  rw [hlogger]

@[simp] theorem propagates_ensure (h : Hierarchy) (name other : String) :
    ((h.ensure name).logger other).propagates = (h.logger other).propagates := by
  obtain ⟨parent, hlogger, -⟩ := logger_ensure h name other
  rw [hlogger]

@[simp] theorem level_ensure (h : Hierarchy) (name other : String) :
    ((h.ensure name).logger other).level = (h.logger other).level := by
  obtain ⟨parent, hlogger, -⟩ := logger_ensure h name other
  rw [hlogger]

theorem parent_ensure (h : Hierarchy) (name other : String) :
    ((h.ensure name).logger other).parent = (h.logger other).parent ∨
      name ∈ namesAbove other ∧ ((h.ensure name).logger other).parent = name ∨
        other = name ∧ h.logger? name = none ∧
          ((h.ensure name).logger other).parent = h.nearest name := by
  obtain ⟨parent, hlogger, hcases⟩ := logger_ensure h name other
  rw [hlogger]
  exact hcases

/-- A new logger changes none with a shorter name. -/
theorem logger_ensure_of_length_lt (h : Hierarchy) (hlen : other.length < name.length) :
    (h.ensure name).logger other = h.logger other := by
  obtain ⟨parent, hlogger, hsame | ⟨habove, -⟩ | ⟨rfl, -⟩⟩ := logger_ensure h name other
  · rw [hlogger, hsame]
  · have hlonger := length_lt_of_mem_namesAbove habove
    omega
  · exact absurd hlen (Nat.lt_irrefl _)

end Loggers

/-! ## Climbing -/

section Lineage

variable {h : Hierarchy} {name : String}

def Rises (h : Hierarchy) : Prop :=
  ∀ name, name ≠ "" → (h.logger name).parent.length < name.length

theorem climb_root (h : Hierarchy) (budget : Nat) :
    lineage.climb h budget "" = [h.logger ""] := by
  cases budget with
  | zero => rfl
  | succ budget => rfl

/-- With enough budget, a climb does not depend on it. -/
theorem climb_eq_climb (hrises : Rises h) {budget budget' : Nat} (hbudget : name.length ≤ budget)
    (hbudget' : name.length ≤ budget') :
    lineage.climb h budget name = lineage.climb h budget' name := by
  induction budget generalizing name budget' with
  | zero =>
    have hroot : name = "" := String.length_eq_zero_iff.mp (Nat.le_zero.mp hbudget)
    rw [hroot, climb_root, climb_root]
  | succ budget ih =>
    by_cases hname : name = ""
    · rw [hname, climb_root, climb_root]
    · have hshorter := hrises name hname
      obtain ⟨rest, rfl⟩ := Nat.exists_eq_succ_of_ne_zero (show budget' ≠ 0 by omega)
      have hparent : lineage.climb h budget (h.logger name).parent =
          lineage.climb h rest (h.logger name).parent := ih (by omega) (by omega)
      simp only [lineage.climb, if_neg hname, hparent]

/-- The lineage of a logger is the logger and the lineage of its parent. -/
theorem lineage_of_ne (hrises : Rises h) (hname : name ≠ "") :
    h.lineage name = h.logger name :: h.lineage (h.logger name).parent := by
  have hshorter := hrises name hname
  obtain ⟨budget, hbudget⟩ := Nat.exists_eq_succ_of_ne_zero (Nat.ne_zero_of_lt hshorter)
  rw [lineage, hbudget, lineage.climb]
  simp only [if_neg hname]
  rw [lineage, climb_eq_climb hrises (by omega) (Nat.le_refl _)]

theorem lineage_root (h : Hierarchy) : h.lineage "" = [h.logger ""] := rfl

/-- Proof about the lineages of a hierarchy, from the root down. -/
theorem Rises.induction {motive : String → Prop} (hrises : Rises h) (root : motive "")
    (child : ∀ name, name ≠ "" → motive (h.logger name).parent → motive name) (name : String) :
    motive name := by
  by_cases hname : name = ""
  · rw [hname]
    exact root
  · have hshorter := hrises name hname
    exact child name hname (Rises.induction hrises root child (h.logger name).parent)
  termination_by name.length

/-- A lineage depends on the loggers with names that are not longer only. -/
theorem lineage_congr {h' : Hierarchy} (hrises : Rises h) (hrises' : Rises h')
    (hsame : ∀ other, other.length ≤ name.length → h.logger other = h'.logger other) :
    h.lineage name = h'.lineage name := by
  induction name using hrises.induction with
  | root =>
    rw [lineage_root, lineage_root, hsame "" (Nat.le_refl _)]
  | child name hname ih =>
    have hshorter := hrises name hname
    have hself := hsame name (Nat.le_refl _)
    rw [lineage_of_ne hrises hname, lineage_of_ne hrises' hname, ← hself,
      ih fun other hother => hsame other (by omega)]

theorem length_nearest_lt (h : Hierarchy) (hname : name ≠ "") :
    (h.nearest name).length < name.length := by
  unfold nearest
  cases hfind : (namesAbove name).find? fun above => (h.logger? above).isSome with
  | none => exact Nat.pos_of_ne_zero (mt String.length_eq_zero_iff.mp hname)
  | some above => exact length_lt_of_mem_namesAbove (List.mem_of_find?_eq_some hfind)

theorem Rises.ensure (hrises : Rises h) (name : String) : Rises (h.ensure name) := by
  intro other hother
  rcases parent_ensure h name other with hsame | ⟨habove, hparent⟩ | ⟨rfl, -, hparent⟩
  · rw [hsame]
    exact hrises other hother
  · rw [hparent]
    exact length_lt_of_mem_namesAbove habove
  · rw [hparent]
    exact length_nearest_lt h hother

/-- A new logger stands in no lineage of a logger with a shorter name. -/
theorem lineage_ensure {above : String} (hrises : Rises h) (hlen : above.length < name.length) :
    (h.ensure name).lineage above = h.lineage above :=
  lineage_congr (hrises.ensure name) hrises fun other hother =>
    logger_ensure_of_length_lt h (by omega)

theorem upTo_eq_self {loggers : List Logger} (hup : ∀ l ∈ loggers, l.propagates = true) :
    propagationPath.upTo loggers = loggers := by
  induction loggers with
  | nil => rfl
  | cons l rest ih =>
    obtain ⟨hl, hrest⟩ := List.forall_mem_cons.mp hup
    rw [propagationPath.upTo, if_pos hl, ih hrest]

end Lineage

/-! ## Names upwards -/

section NamesUp

variable {h h' : Hierarchy} {name other : String}

/-- The names of a logger and of those above it, up to the root. -/
def namesUp (h : Hierarchy) (name : String) : List String := (h.lineage name).map (·.name)

theorem namesUp_root (h : Hierarchy) : h.namesUp "" = [""] := by
  rw [namesUp, lineage_root, List.map_singleton, logger_name]

theorem namesUp_of_ne (hrises : Rises h) (hname : name ≠ "") :
    h.namesUp name = name :: h.namesUp (h.logger name).parent := by
  rw [namesUp, lineage_of_ne hrises hname, List.map_cons, logger_name, namesUp]

theorem lineage_eq (hrises : Rises h) (name : String) :
    h.lineage name = (h.namesUp name).map h.logger := by
  induction name using hrises.induction with
  | root => rw [namesUp_root, lineage_root, List.map_singleton]
  | child name hname ih =>
    rw [lineage_of_ne hrises hname, namesUp_of_ne hrises hname, List.map_cons, ih]

theorem self_mem_namesUp (hrises : Rises h) (name : String) : name ∈ h.namesUp name := by
  by_cases hname : name = ""
  · rw [hname, namesUp_root]
    exact List.mem_singleton_self _
  · rw [namesUp_of_ne hrises hname]
    exact List.mem_cons_self

/-- From a logger above, the way up is the rest of the way. -/
theorem namesUp_suffix (hrises : Rises h) (hother : other ∈ h.namesUp name) :
    h.namesUp other <:+ h.namesUp name := by
  induction name using hrises.induction with
  | root =>
    rw [namesUp_root] at hother
    obtain rfl := List.mem_singleton.mp hother
    exact List.suffix_refl _
  | child name hname ih =>
    rw [namesUp_of_ne hrises hname] at hother
    rcases List.mem_cons.mp hother with rfl | habove
    · exact List.suffix_refl _
    · rw [namesUp_of_ne hrises hname]
      exact (ih habove).trans (List.suffix_cons _ _)

theorem eq_or_length_lt_of_mem_namesUp (hrises : Rises h) (hother : other ∈ h.namesUp name) :
    other = name ∨ other.length < name.length := by
  induction name using hrises.induction with
  | root =>
    rw [namesUp_root] at hother
    exact .inl (List.mem_singleton.mp hother)
  | child name hname ih =>
    have hshorter := hrises name hname
    rw [namesUp_of_ne hrises hname] at hother
    rcases List.mem_cons.mp hother with rfl | habove
    · exact .inl rfl
    · rcases ih habove with rfl | hlt
      · exact .inr hshorter
      · exact .inr (Nat.lt_trans hlt hshorter)

/-- The way up depends on parents only. -/
theorem namesUp_congr (hrises : Rises h) (hrises' : Rises h')
    (hparent : ∀ other, (h'.logger other).parent = (h.logger other).parent) (name : String) :
    h'.namesUp name = h.namesUp name := by
  induction name using hrises.induction with
  | root => rw [namesUp_root, namesUp_root]
  | child name hname ih =>
    rw [namesUp_of_ne hrises hname, namesUp_of_ne hrises' hname, hparent, ih]

/-- A new logger comes into a way up with all that is above it, or not at all. -/
theorem namesUp_ensure (hrises : Rises h) (name other : String) :
    (h.ensure name).namesUp other = h.namesUp other ∨
      (h.ensure name).namesUp name <:+ (h.ensure name).namesUp other := by
  have hrises' := hrises.ensure name
  induction other using hrises'.induction with
  | root => exact .inl (by rw [namesUp_root, namesUp_root])
  | child other hother ih =>
    rcases parent_ensure h name other with hsame | ⟨-, hnew⟩ | ⟨rfl, -⟩
    · rw [namesUp_of_ne hrises' hother, namesUp_of_ne hrises hother]
      rw [hsame] at ih ⊢
      rcases ih with hrest | hrest
      · exact .inl (by rw [hrest])
      · exact .inr (hrest.trans (List.suffix_cons _ _))
    · rw [namesUp_of_ne hrises' hother, hnew]
      exact .inr (List.suffix_cons _ _)
    · exact .inr (List.suffix_refl _)

/-- Where all loggers propagate, every record goes all the way up. -/
theorem propagationPath_of_propagates (hrises : Rises h)
    (hup : ∀ name, (h.logger name).propagates = true) (name : String) :
    h.propagationPath name = h.lineage name := by
  refine upTo_eq_self fun l hl => ?_
  rw [lineage_eq hrises] at hl
  obtain ⟨other, -, rfl⟩ := List.mem_map.mp hl
  exact hup other

theorem reachedHandlers_of_propagates (hrises : Rises h)
    (hup : ∀ name, (h.logger name).propagates = true) (name : String) :
    h.reachedHandlers name = (h.namesUp name).flatMap fun other => (h.logger other).handlers := by
  rw [reachedHandlers, propagationPath_of_propagates hrises hup, lineage_eq hrises,
    List.flatMap_map]

end NamesUp

/-! ## Attainable hierarchies -/

/-- The hierarchies that come about when loggers are created and set up in any way: handlers, level
and flag of an existing logger may be anything at any time. -/
inductive Attainable : Hierarchy → Prop
  | initial : Attainable {}
  | create {h : Hierarchy} (name : String) : Attainable h → Attainable (h.ensure name)
  | configure {h : Hierarchy} (name : String) {f : Logger → Logger}
      (hf : ∀ l, (f l).name = l.name ∧ (f l).parent = l.parent) :
      Attainable h → Attainable (h.update name f)

section Attainable

variable {h : Hierarchy} {name other : String}

theorem parent_update {f : Logger → Logger}
    (hf : ∀ l, (f l).name = l.name ∧ (f l).parent = l.parent) :
    ((h.update name f).logger other).parent = (h.logger other).parent := by
  unfold logger
  rw [logger?_update fun l => (hf l).1]
  cases h.logger? other with
  | none => rfl
  | some l =>
    rw [Option.map_some, Option.getD_some, Option.getD_some]
    split
    · exact (hf l).2
    · rfl

theorem Rises.update (hrises : Rises h) (name : String) {f : Logger → Logger}
    (hf : ∀ l, (f l).name = l.name ∧ (f l).parent = l.parent) : Rises (h.update name f) := by
  intro other hother
  rw [parent_update hf]
  exact hrises other hother

theorem parent_initial (name : String) : (logger {} name).parent = "" := by
  by_cases hname : name = ""
  · rw [hname]
    rfl
  · rw [logger_of_absent (by simp [logger?, Ne.symm hname])]

theorem Attainable.rises (hh : Attainable h) : Rises h := by
  induction hh with
  | initial =>
    intro name hname
    rw [parent_initial, String.length_empty]
    exact Nat.pos_of_ne_zero (mt String.length_eq_zero_iff.mp hname)
  | create name _ ih => exact ih.ensure name
  | configure name hf _ ih => exact ih.update name hf

theorem Attainable.addHandler (hh : Attainable h) (name : String) (handler : Handler) :
    Attainable (h.addHandler name handler) := by
  unfold Hierarchy.addHandler
  exact hh.configure name fun _ => ⟨rfl, rfl⟩

theorem Attainable.setLevel (hh : Attainable h) (name : String) (level : Int) :
    Attainable (h.setLevel name level) := by
  unfold Hierarchy.setLevel
  exact hh.configure name fun _ => ⟨rfl, rfl⟩

theorem Attainable.setPropagates (hh : Attainable h) (name : String) (propagates : Bool) :
    Attainable (h.setPropagates name propagates) := by
  unfold Hierarchy.setPropagates
  exact hh.configure name fun _ => ⟨rfl, rfl⟩

end Attainable

end Journal.Hierarchy

end ContentFilters
