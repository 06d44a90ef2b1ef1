import ContentFilters.Proofs.Journal.Tree
import Mathlib.Data.List.Induction

/-!
# Requested loggers

Which handlers stand in the hierarchy after loggers have been requested, in any order, from one in
which no logger has a handler and all propagate. A request gives its logger the handler that writes
to standard output just if no logger at or above it had been requested by then. So the topmost
requested logger on a way up has the handler, and the records of a requested logger are never lost;
they are written once more by each logger on the way that was requested too early to see the
handlers that stand above it in the end.
-/
namespace ContentFilters.Journal.Hierarchy

structure Request where
  name : String
  settings : Except SettingsError Settings

/-- The hierarchy after requests, whether or not each could read the settings. -/
def requestAll (h : Hierarchy) (requests : List Request) : Hierarchy :=
  requests.foldl (fun h request => (h.request request.settings request.name).1) h

def requestedNames (requests : List Request) : List String :=
  requests.map fun request => storedName request.name

/-- None of the names in the history is that of the logger or of one above it, once it exists. -/
def NoneUpwards (h : Hierarchy) (history : List String) (name : String) : Prop :=
  ∀ other ∈ (h.ensure name).namesUp name, other ∉ history

instance (h : Hierarchy) (history : List String) (name : String) :
    Decidable (h.NoneUpwards history name) :=
  inferInstanceAs (Decidable (∀ other ∈ _, _))

/-- The logger was requested when neither it nor any logger then above it had been. -/
def RequestedFirst (start : Hierarchy) (requests : List Request) (name : String) : Prop :=
  ∃ k : Fin requests.length, storedName requests[k].name = name ∧
    (start.requestAll (requests.take k)).NoneUpwards (requestedNames (requests.take k)) name

instance (start : Hierarchy) (requests : List Request) (name : String) :
    Decidable (start.RequestedFirst requests name) :=
  inferInstanceAs (Decidable (∃ _ : Fin _, _))

/-- Some logger above this one has been requested. -/
def RequestedAbove (h : Hierarchy) (history : List String) (name : String) : Prop :=
  name ≠ "" ∧ ∃ other ∈ h.namesUp (h.logger name).parent, other ∈ history

instance (h : Hierarchy) (history : List String) (name : String) :
    Decidable (h.RequestedAbove history name) :=
  inferInstanceAs (Decidable (_ ∧ ∃ other ∈ _, _))

/-- The logger was requested when neither it nor any logger then above it had been, though in the
end one above it has been. -/
def requestedEarly (start : Hierarchy) (requests : List Request) (name : String) : Bool :=
  start.RequestedFirst requests name ∧
    (start.requestAll requests).RequestedAbove (requestedNames requests) name

/-! ## The order of requests -/

section Order

variable {start : Hierarchy} {requests : List Request} {request : Request} {name : String}

theorem requestAll_concat (start : Hierarchy) (requests : List Request) (request : Request) :
    start.requestAll (requests ++ [request]) =
      ((start.requestAll requests).request request.settings request.name).1 := by
  rw [requestAll, List.foldl_append]
  rfl

theorem requestedNames_concat (requests : List Request) (request : Request) :
    requestedNames (requests ++ [request]) =
      requestedNames requests ++ [storedName request.name] := by
  rw [requestedNames, List.map_append]
  rfl

theorem RequestedFirst.mem (hfirst : start.RequestedFirst requests name) :
    name ∈ requestedNames requests := by
  obtain ⟨k, rfl, -⟩ := hfirst
  exact List.mem_map.mpr ⟨requests[k], List.getElem_mem _, rfl⟩

theorem requestedFirst_concat :
    start.RequestedFirst (requests ++ [request]) name ↔
      start.RequestedFirst requests name ∨ storedName request.name = name ∧
        (start.requestAll requests).NoneUpwards (requestedNames requests) name := by
  constructor
  · rintro ⟨⟨k, hk⟩, hname, hnone⟩
    rw [List.length_append, List.length_singleton] at hk
    rcases Nat.lt_succ_iff_lt_or_eq.mp hk with hlt | rfl
    · refine .inl ⟨⟨k, hlt⟩, ?_, ?_⟩
      · simpa only [Fin.getElem_fin, List.getElem_append_left hlt] using hname
      · simpa only [List.take_append_of_le_length (Nat.le_of_lt hlt)] using hnone
    · refine .inr ⟨?_, ?_⟩
      · simpa using hname
      · simpa using hnone
  · rintro (⟨⟨k, hk⟩, hname, hnone⟩ | ⟨hname, hnone⟩)
    · refine ⟨⟨k, by simp only [List.length_append]; omega⟩, ?_, ?_⟩
      · simpa only [Fin.getElem_fin, List.getElem_append_left hk] using hname
      · simpa only [List.take_append_of_le_length (Nat.le_of_lt hk)] using hnone
    · refine ⟨⟨requests.length, by simp⟩, ?_, ?_⟩
      · simpa using hname
      · simpa using hnone

end Order

/-! ## One request -/

/-- A change that adds a handler to standard output, and may set the level. -/
def AddsOutput (f : Logger → Logger) : Prop :=
  ∀ l, ∃ level, f l = { l with handlers := l.handlers ++ [.fallback], level := level }

theorem AddsOutput.name {f : Logger → Logger} (hf : AddsOutput f) (l : Logger) :
    (f l).name = l.name := by
  obtain ⟨level, hl⟩ := hf l
  rw [hl]

/-- A logger with one more handler, for standard output, and the configured level if it had none. -/
def equipped (settings : Except SettingsError Settings) (l : Logger) : Logger :=
  { l with
    handlers := l.handlers ++ [.fallback]
    level := if l.level ≠ 0 then l.level
      else (settings.toOption.map (·.logLevel.weight)).getD 0 }

theorem level_addHandler {h : Hierarchy} {name : String} (hname : (h.logger? name).isSome)
    (handler : Handler) :
    ((h.addHandler name handler).logger name).level = (h.logger name).level := by
  have hlogger : (h.addHandler name handler).logger name =
      if name = name then { h.logger name with handlers := (h.logger name).handlers ++ [handler] }
      else h.logger name := logger_update (fun _ => rfl) hname
  rw [hlogger, if_pos rfl]

/-- A request that finds no handler equips the logger; any other creates the logger at most. -/
theorem request_cases (h : Hierarchy) (settings : Except SettingsError Settings) (name : String) :
    let n := storedName name
    let l := (h.ensure n).logger n
    (h.ensure n).hasHandlers n = true ∧ h.request settings name = (h.ensure n, .ok ()) ∨
      (h.ensure n).hasHandlers n = false ∧
        ∃ f, AddsOutput f ∧ f l = equipped settings l ∧
          h.request settings name = ((h.ensure n).update n f,
            if l.level ≠ 0 then .ok () else settings.map fun _ => ()) := by
  intro n l
  have hpresent : ((h.ensure n).logger? n).isSome := isSome_logger?_ensure.mpr (.inl rfl)
  cases hhas : (h.ensure n).hasHandlers n with
  | true => exact .inl ⟨rfl, by simp only [request, n, hhas, if_true]⟩
  | false =>
    have hstep : h.request settings name =
        let added := (h.ensure n).addHandler n .fallback
        if l.level ≠ 0 then (added, .ok ())
        else (settings.toOption.elim added fun s => added.setLevel n s.logLevel.weight,
          settings.map fun _ => ()) := by
      cases settings <;>
        simp only [request, n, l, hhas, Bool.false_eq_true, if_false, level_addHandler hpresent,
          Except.toOption, Except.map, Option.elim]
    refine .inr ⟨rfl, ?_⟩
    rw [hstep]
    by_cases hlevel : l.level = 0
    · cases settings with
      | error e =>
        refine ⟨_, fun l => ⟨l.level, rfl⟩, ?_, ?_⟩
        · simp [equipped, hlevel, Except.toOption]
        · simp [hlevel, Hierarchy.addHandler, Except.toOption]
      | ok s =>
        refine ⟨_, fun l => ⟨s.logLevel.weight, rfl⟩, ?_, ?_⟩
        · simp [equipped, hlevel, Except.toOption]
        · simp only [hlevel, ne_eq, not_true_eq_false, if_false]
          exact congrArg (·, _) (update_update fun l => rfl)
    · refine ⟨_, fun l => ⟨l.level, rfl⟩, ?_, by simp [hlevel, Hierarchy.addHandler]⟩
      simp [equipped, hlevel]

theorem isSome_logger?_request (h : Hierarchy) (settings : Except SettingsError Settings)
    (name other : String) :
    ((h.request settings name).1.logger? other).isSome =
      ((h.ensure (storedName name)).logger? other).isSome := by
  rcases request_cases h settings name with ⟨-, hresult⟩ | ⟨-, f, hf, -, hresult⟩
  · rw [hresult]
  · rw [hresult, logger?_update hf.name, Option.isSome_map]

/-- A request changes handlers and levels only, and of the requested logger only. -/
theorem logger_request (h : Hierarchy) (settings : Except SettingsError Settings)
    (name other : String) :
    let n := storedName name
    let l := (h.ensure n).logger other
    ∃ level, (h.request settings name).1.logger other =
      { l with
        handlers := l.handlers ++
          if other = n ∧ (h.ensure n).hasHandlers n = false then [.fallback] else []
        level := level } := by
  intro n l
  rcases request_cases h settings name with ⟨hhas, hresult⟩ | ⟨hhas, f, hf, -, hresult⟩
  · refine ⟨l.level, ?_⟩
    rw [hresult, if_neg (by simp [n, hhas]), List.append_nil]
  · have hpresent : ((h.ensure n).logger? n).isSome := isSome_logger?_ensure.mpr (.inl rfl)
    rw [hresult, logger_update hf.name hpresent]
    by_cases hother : other = n
    · obtain ⟨level, hl⟩ := hf l
      refine ⟨level, ?_⟩
      rw [if_pos hother, if_pos ⟨hother, hhas⟩, hl]
    · refine ⟨l.level, ?_⟩
      rw [if_neg hother, if_neg fun hnew => hother hnew.1, List.append_nil]

theorem Attainable.request {h : Hierarchy} (hh : Attainable h)
    (settings : Except SettingsError Settings) (name : String) :
    Attainable (h.request settings name).1 := by
  rcases request_cases h settings name with ⟨-, hrequest⟩ | ⟨-, f, hf, -, hrequest⟩
  · rw [hrequest]
    exact hh.create _
  · rw [hrequest]
    refine (hh.create _).configure _ fun l => ?_
    obtain ⟨level, hl⟩ := hf l
    rw [hl]
    exact ⟨rfl, rfl⟩

theorem parent_request (h : Hierarchy) (settings : Except SettingsError Settings)
    (name other : String) :
    ((h.request settings name).1.logger other).parent =
      ((h.ensure (storedName name)).logger other).parent := by
  obtain ⟨level, hlogger⟩ := logger_request h settings name other
  rw [hlogger]

theorem propagates_request (h : Hierarchy) (settings : Except SettingsError Settings)
    (name other : String) :
    ((h.request settings name).1.logger other).propagates = (h.logger other).propagates := by
  obtain ⟨level, hlogger⟩ := logger_request h settings name other
  rw [hlogger, propagates_ensure]

/-! ## What requests leave behind -/

/-- No logger has a handler, and all propagate. -/
def Bare (h : Hierarchy) : Prop :=
  ∀ name, (h.logger name).handlers = [] ∧ (h.logger name).propagates = true

theorem bare_initial : Bare {} := by
  intro name
  by_cases hname : name = ""
  · rw [hname]
    exact ⟨rfl, rfl⟩
  · rw [logger_of_absent (by simp [logger?, Ne.symm hname])]
    exact ⟨rfl, rfl⟩

theorem Bare.ensure {h : Hierarchy} (hbare : Bare h) (name : String) : Bare (h.ensure name) := by
  intro other
  rw [handlers_ensure, propagates_ensure]
  exact hbare other

/-- What holds after requests in a bare hierarchy: a logger has a handler if it was requested first,
and then the one to standard output, and on the way up from each requested logger there is one that
was. -/
structure Requested (start : Hierarchy) (requests : List Request) (h : Hierarchy) : Prop where
  after : start.requestAll requests = h
  rises : Rises h
  propagates : ∀ name, (h.logger name).propagates = true
  present : ∀ name ∈ requestedNames requests, (h.logger? name).isSome
  handlers : ∀ name, (h.logger name).handlers =
    if start.RequestedFirst requests name then [.fallback] else []
  covered : ∀ name ∈ requestedNames requests,
    ∃ top ∈ h.namesUp name, start.RequestedFirst requests top

namespace Requested

variable {start h : Hierarchy} {requests : List Request} {name other : String}

theorem initial (hrises : Rises start) (hbare : Bare start) : Requested start [] start where
  after := rfl
  rises := hrises
  propagates name := (hbare name).2
  present name hname := absurd hname List.not_mem_nil
  handlers name := by
    rw [if_neg (mt RequestedFirst.mem List.not_mem_nil)]
    exact (hbare name).1
  covered name hname := absurd hname List.not_mem_nil

section Step

variable (hr : Requested start requests h)
include hr

/-- On the way up from a logger, also from a new one, a requested logger is not alone: there is one
that was requested first. -/
theorem covered_ensure (hother : other ∈ (h.ensure name).namesUp name)
    (hrequested : other ∈ requestedNames requests) :
    ∃ top ∈ (h.ensure name).namesUp name, start.RequestedFirst requests top := by
  have hrises := hr.rises.ensure name
  have hsame : (h.ensure name).namesUp other = h.namesUp other := by
    rcases eq_or_length_lt_of_mem_namesUp hrises hother with rfl | hshorter
    · rw [ensure_of_present (hr.present other hrequested)]
    · rw [namesUp, lineage_ensure hr.rises hshorter, namesUp]
  obtain ⟨top, htop, hfirst⟩ := hr.covered other hrequested
  rw [← hsame] at htop
  exact ⟨top, (namesUp_suffix hrises hother).subset htop, hfirst⟩

/-- Whether no logger at or above one was requested can be seen by its handlers. -/
theorem hasHandlers_ensure_eq_false :
    (h.ensure name).hasHandlers name = false ↔ h.NoneUpwards (requestedNames requests) name := by
  have hup : ∀ other, ((h.ensure name).logger other).propagates = true := fun other => by
    rw [propagates_ensure, hr.propagates]
  rw [hasHandlers, Bool.not_eq_false', List.isEmpty_iff,
    reachedHandlers_of_propagates (hr.rises.ensure name) hup, List.flatMap_eq_nil_iff]
  simp only [handlers_ensure, hr.handlers]
  constructor
  · intro hnone other hother hrequested
    obtain ⟨top, htop, hfirst⟩ := hr.covered_ensure hother hrequested
    have hempty := hnone top htop
    rw [if_pos hfirst] at hempty
    cases hempty
  · intro hnone other hother
    rw [if_neg fun hfirst => hnone other hother hfirst.mem]

/-- A request leaves one that was requested first on the way up from its logger. -/
theorem covered_concat (request : Request) :
    ∃ top ∈ (h.ensure (storedName request.name)).namesUp (storedName request.name),
      start.RequestedFirst (requests ++ [request]) top := by
  by_cases hnone : h.NoneUpwards (requestedNames requests) (storedName request.name)
  · refine ⟨storedName request.name, self_mem_namesUp (hr.rises.ensure _) _, ?_⟩
    exact requestedFirst_concat.mpr (.inr ⟨rfl, hr.after ▸ hnone⟩)
  · simp only [NoneUpwards, not_forall, not_not] at hnone
    obtain ⟨other, hother, hrequested⟩ := hnone
    obtain ⟨top, htop, hfirst⟩ := hr.covered_ensure hother hrequested
    exact ⟨top, htop, requestedFirst_concat.mpr (.inl hfirst)⟩

/-- One more request. -/
theorem request (request : Request) :
    Requested start (requests ++ [request]) (h.request request.settings request.name).1 := by
  have hrises : Rises (h.request request.settings request.name).1 := by
    intro other hother
    rw [parent_request]
    exact hr.rises.ensure _ other hother
  refine ⟨?_, hrises, fun other => ?_, fun other hother => ?_, fun other => ?_,
    fun other hother => ?_⟩
  · rw [requestAll_concat, hr.after]
  · rw [propagates_request, hr.propagates]
  · rw [requestedNames_concat, List.mem_append, List.mem_singleton] at hother
    rw [isSome_logger?_request, isSome_logger?_ensure]
    exact hother.symm.imp_right (hr.present other)
  · obtain ⟨level, hlogger⟩ := logger_request h request.settings request.name other
    rw [hlogger, handlers_ensure, hr.handlers]
    by_cases hnew : other = storedName request.name ∧
        (h.ensure (storedName request.name)).hasHandlers (storedName request.name) = false
    · obtain ⟨rfl, hhas⟩ := hnew
      have hnone := hr.hasHandlers_ensure_eq_false.mp hhas
      have hunrequested : storedName request.name ∉ requestedNames requests :=
        hnone _ (self_mem_namesUp (hr.rises.ensure _) _)
      have hfirst : start.RequestedFirst (requests ++ [request]) (storedName request.name) :=
        requestedFirst_concat.mpr (.inr ⟨rfl, hr.after ▸ hnone⟩)
      rw [if_neg (mt RequestedFirst.mem hunrequested), if_pos ⟨rfl, hhas⟩, if_pos hfirst,
        List.nil_append]
    · have hiff : start.RequestedFirst (requests ++ [request]) other ↔
          start.RequestedFirst requests other := by
        rw [requestedFirst_concat, hr.after, or_iff_left]
        rintro ⟨rfl, hnone⟩
        exact hnew ⟨rfl, hr.hasHandlers_ensure_eq_false.mpr hnone⟩
      rw [if_neg hnew, List.append_nil, if_congr hiff rfl rfl]
  · rw [namesUp_congr (hr.rises.ensure _) hrises (parent_request h _ _)]
    obtain ⟨top, htop, hfirst⟩ := hr.covered_concat request
    rw [requestedNames_concat, List.mem_append, List.mem_singleton] at hother
    rcases namesUp_ensure hr.rises (storedName request.name) other with hsame | hsuffix
    · rcases hother with hold | rfl
      · obtain ⟨top, htop, hfirst⟩ := hr.covered other hold
        rw [hsame]
        exact ⟨top, htop, requestedFirst_concat.mpr (.inl hfirst)⟩
      · exact ⟨top, htop, hfirst⟩
    · exact ⟨top, hsuffix.subset htop, hfirst⟩

end Step

/-- Any requests in a bare hierarchy. -/
theorem requestAll (hrises : Rises start) (hbare : Bare start) (requests : List Request) :
    Requested start requests (start.requestAll requests) := by
  induction requests using List.reverseRecOn with
  | nil => exact initial hrises hbare
  | append_singleton before request ih =>
    rw [requestAll_concat]
    exact ih.request request

section Count

variable (hr : Requested start requests h)
include hr

theorem requestedEarly_iff :
    start.requestedEarly requests name = true ↔
      start.RequestedFirst requests name ∧ h.RequestedAbove (requestedNames requests) name := by
  rw [requestedEarly, hr.after, decide_eq_true_eq]

/-- A requested logger with no requested logger above it was requested first. -/
theorem requestedFirst_of_not_above (hname : name ∈ requestedNames requests)
    (habove : ¬ h.RequestedAbove (requestedNames requests) name) :
    start.RequestedFirst requests name := by
  obtain ⟨top, htop, hfirst⟩ := hr.covered name hname
  by_cases hne : name = ""
  · rw [hne, namesUp_root] at htop
    rwa [hne, ← List.mem_singleton.mp htop]
  · rw [namesUp_of_ne hr.rises hne] at htop
    rcases List.mem_cons.mp htop with rfl | hupper
    · exact hfirst
    · exact absurd ⟨hne, top, hupper, hfirst.mem⟩ habove

/-- On the way up there is one handler for the topmost requested logger, and one more for each
request that came too early. -/
theorem handlers_namesUp (name : String) :
    ((h.namesUp name).flatMap fun other => (h.logger other).handlers) = List.replicate
      ((if ∃ other ∈ h.namesUp name, other ∈ requestedNames requests then 1 else 0) +
        (h.namesUp name).countP (start.requestedEarly requests)) .fallback := by
  induction name using hr.rises.induction with
  | root =>
    have hnone : ¬ h.RequestedAbove (requestedNames requests) "" := fun habove => habove.1 rfl
    have hiff : start.RequestedFirst requests "" ↔ "" ∈ requestedNames requests :=
      ⟨RequestedFirst.mem, fun hroot => hr.requestedFirst_of_not_above hroot hnone⟩
    have hearly : start.requestedEarly requests "" = false :=
      Bool.eq_false_iff.mpr fun htrue => hnone (hr.requestedEarly_iff.mp htrue).2
    rw [namesUp_root, List.flatMap_singleton, hr.handlers, if_congr hiff rfl rfl]
    by_cases hroot : "" ∈ requestedNames requests <;> simp [hroot, hearly]
  | child name hne ih =>
    rw [namesUp_of_ne hr.rises hne, List.flatMap_cons, List.countP_cons, ih, hr.handlers]
    simp only [List.mem_cons, exists_eq_or_imp, hr.requestedEarly_iff]
    by_cases habove : ∃ other ∈ h.namesUp (h.logger name).parent, other ∈ requestedNames requests
    · have hrequested : h.RequestedAbove (requestedNames requests) name := ⟨hne, habove⟩
      by_cases hfirst : start.RequestedFirst requests name
      · simp only [habove, hrequested, hfirst, or_true, and_self, if_true, List.singleton_append,
          ← List.replicate_succ, Nat.add_assoc]
      · simp only [habove, hfirst, or_true, false_and, if_true, if_false, List.nil_append,
          Nat.add_zero]
    · have hnone : ¬ h.RequestedAbove (requestedNames requests) name := fun h' => habove h'.2
      have hiff : start.RequestedFirst requests name ↔ name ∈ requestedNames requests :=
        ⟨RequestedFirst.mem, fun hname => hr.requestedFirst_of_not_above hname hnone⟩
      by_cases hname : name ∈ requestedNames requests
      · simp only [habove, hnone, hiff, hname, true_or, and_false, if_true, if_false,
          List.singleton_append, ← List.replicate_succ, Nat.add_zero, Nat.zero_add,
          Nat.add_comm 1]
      · simp only [habove, hnone, hiff, hname, or_self, and_false, if_false, List.nil_append,
          Nat.add_zero]

end Count

end Requested

/-- A record of a requested logger is written by every handler on its way up. There is always one,
and one more for each logger on the way that was requested when none at or above it had been though
one above it was requested as well. So it is written once if no request came too early. -/
theorem log_requestAll {start : Hierarchy} (hstart : Attainable start) (hbare : Bare start)
    (requests : List Request) {name : String} (hname : name ∈ requestedNames requests) :
    let h := start.requestAll requests
    let early := (h.propagationPath name).countP fun l => start.requestedEarly requests l.name
    h.reachedHandlers name = List.replicate (1 + early) .fallback ∧
      (∀ level message, h.log name level message =
        if 0 < level ∧ h.effectiveLevel name ≤ level then
          List.replicate (1 + early) (writtenLine name level message) else []) ∧
      ((∀ other ∈ requestedNames requests, h.RequestedAbove (requestedNames requests) other →
          ¬ start.RequestedFirst requests other) → early = 0) := by
  intro h early
  have hr : Requested start requests h := Requested.requestAll hstart.rises hbare requests
  have hearly : early = (h.namesUp name).countP (start.requestedEarly requests) := by
    rw [namesUp, List.countP_map]
    exact congrArg (List.countP _) (propagationPath_of_propagates hr.rises hr.propagates name)
  have hreached : h.reachedHandlers name = List.replicate (1 + early) .fallback := by
    rw [reachedHandlers_of_propagates hr.rises hr.propagates, hr.handlers_namesUp, hearly,
      if_pos ⟨name, self_mem_namesUp hr.rises name, hname⟩]
  refine ⟨hreached, fun level message => ?_, fun hlate => ?_⟩
  · rw [log, recipients, hreached]
    by_cases hlevel : 0 < level ∧ h.effectiveLevel name ≤ level
    · have hzero : (0 : Int) ≤ level := Int.le_of_lt hlevel.1
      simp [isEnabled, hlevel, Handler.fallback, hzero]
    · simp [isEnabled, hlevel]
  · rw [hearly, List.countP_eq_zero]
    intro other _ htrue
    obtain ⟨hfirst, habove⟩ := hr.requestedEarly_iff.mp htrue
    exact hlate other hfirst.mem habove hfirst

/-- A logger that exists without having been requested. -/
def unrequested : Hierarchy := ensure {} "a.b"

theorem attainable_unrequested : Attainable unrequested := Attainable.initial.create "a.b"

theorem bare_unrequested : Bare unrequested := bare_initial.ensure "a.b"

def childFirst : List Request := [⟨"a.b.c", .ok {}⟩, ⟨"a", .ok {}⟩]

def childLast : List Request := [⟨"a", .ok {}⟩, ⟨"a.b.c", .ok {}⟩]

theorem log_requestAll_orders :
    (unrequested.requestAll childFirst).reachedHandlers "a.b.c" = [.fallback, .fallback] ∧
      (unrequested.requestAll childLast).log "a.b.c" 25 "x" = ["TIME Level 25 a.b.c: x\n"] := by
  constructor
  · obtain ⟨htwice, -, -⟩ := log_requestAll attainable_unrequested bare_unrequested childFirst
      (show "a.b.c" ∈ requestedNames childFirst by decide)
    have hearly : ((unrequested.requestAll childFirst).propagationPath "a.b.c").countP
        (fun l => unrequested.requestedEarly childFirst l.name) = 1 := by decide +kernel
    rw [htwice, hearly]
    rfl
  · obtain ⟨-, honce, hlate⟩ := log_requestAll attainable_unrequested bare_unrequested childLast
      (show "a.b.c" ∈ requestedNames childLast by decide)
    rw [honce, hlate (by decide +kernel), if_pos (by decide +kernel)]
    decide +kernel

/-- A child requested before a logger above it keeps its handler, and its records are written
twice. -/
theorem log_childFirst :
    ¬ ∀ (requests : List Request) (name : String), name ∈ requestedNames requests →
      ∀ level message, 0 < level → (requestAll {} requests).effectiveLevel name ≤ level →
        (requestAll {} requests).log name level message = [writtenLine name level message] := by
  intro honce
  have hlines : ((requestAll {} childFirst).log "a.b.c" 20 "x").length = 2 := by decide +kernel
  rw [honce childFirst "a.b.c" (by decide) 20 "x" (by decide) (by decide +kernel)] at hlines
  cases hlines

end ContentFilters.Journal.Hierarchy
