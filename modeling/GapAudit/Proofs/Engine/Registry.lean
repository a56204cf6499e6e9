import Mathlib
import GapAudit.Proofs.Engine.Aggregation
import GapAudit.Proofs.Text.Lines

/-!
# The register after any history of calls

A call that registers an analyzer is answered by the state of the register alone: it is accepted
exactly if the name is not blank and new. So the register holds the accepted calls in their order,
and its names are the first occurrences of the names that are not blank (`register_history`).
-/

namespace GapAudit

namespace Engine

variable {α : Type} [Arithmetic α]

section

variable {engine : Engine α} {analyzer : Analyzer α}

omit [Arithmetic α] in
lemma register_of_blank (hblank : Text.trim analyzer.name.toList = []) :
    engine.register analyzer = .error .blankName := by
  rw [register, if_pos ((Text.trim_eq_nil_iff _).mp hblank)]

omit [Arithmetic α] in
lemma register_of_known (hblank : Text.trim analyzer.name.toList ≠ [])
    (hknown : analyzer.name ∈ engine.names) :
    engine.register analyzer = .error (.duplicate analyzer.name) := by
  rw [register, if_neg (mt (Text.trim_eq_nil_iff _).mpr hblank),
    if_pos (List.contains_iff_mem.mpr hknown)]

omit [Arithmetic α] in
lemma register_of_new (hblank : Text.trim analyzer.name.toList ≠ [])
    (hnew : analyzer.name ∉ engine.names) :
    engine.register analyzer =
      .ok { engine with analyzers := engine.analyzers ++ [analyzer] } := by
  rw [register, if_neg (mt (Text.trim_eq_nil_iff _).mpr hblank),
    if_neg (mt List.contains_iff_mem.mp hnew)]

end

omit [Arithmetic α] in
/-- Analyzers whose names are distinct, new and not blank are all registered. -/
lemma registerAll_eq_ok (engine : Engine α) (analyzers : List (Analyzer α))
    (hnodup : (engine.names ++ analyzers.map (·.name)).Nodup)
    (hblank : ∀ analyzer ∈ analyzers, Text.trim analyzer.name.toList ≠ []) :
    engine.registerAll analyzers =
      .ok { engine with analyzers := engine.analyzers ++ analyzers } := by
  induction analyzers generalizing engine with
  | nil => rw [registerAll, List.append_nil]
  | cons analyzer rest ih =>
    obtain ⟨hfirst, hrest⟩ := List.forall_mem_cons.mp hblank
    have hnew : analyzer.name ∉ engine.names := fun hmem =>
      (List.nodup_append.mp hnodup).2.2 _ hmem _ List.mem_cons_self rfl
    rw [registerAll, register_of_new hfirst hnew]
    refine (ih _ ?_ hrest).trans ?_
    · simpa [names] using hnodup
    · simp

/-- The engine after a call that registers an analyzer. A refused call leaves it as it was. -/
def afterCall (engine : Engine α) (call : Analyzer α) : Engine α :=
  match engine.register call with
  | .ok next => next
  | .error _ => engine

/-- The engine after calls made one after the other, whatever the answers. -/
def afterCalls (engine : Engine α) (calls : List (Analyzer α)) : Engine α :=
  calls.foldl afterCall engine

/-- The calls that are accepted among calls made one after the other. -/
def accepted (engine : Engine α) : List (Analyzer α) → List (Analyzer α)
  | [] => []
  | call :: rest =>
    match engine.register call with
    | .ok next => call :: next.accepted rest
    | .error _ => engine.accepted rest

/-- How an engine answers a call: whether it accepts, what it then holds, and why it refuses. -/
structure AnswersCall (engine : Engine α) (call : Analyzer α) : Prop where
  accepts_iff : (∃ next, engine.register call = .ok next) ↔
    Text.trim call.name.toList ≠ [] ∧ call.name ∉ engine.names
  accepted : ∀ next, engine.register call = .ok next →
    next = { engine with analyzers := engine.analyzers ++ [call] } ∧ engine.afterCall call = next
  refused_blank : Text.trim call.name.toList = [] → engine.register call = .error .blankName
  refused_known : Text.trim call.name.toList ≠ [] → call.name ∈ engine.names →
    engine.register call = .error (.duplicate call.name)
  refused : ∀ e, engine.register call = .error e → engine.afterCall call = engine

omit [Arithmetic α] in
lemma answersCall (engine : Engine α) (call : Analyzer α) : engine.AnswersCall call where
  accepts_iff := by
    constructor
    · rintro ⟨next, hok⟩
      refine ⟨?_, (register_eq_ok hok).1⟩
      intro hblank
      rw [register_of_blank hblank] at hok
      cases hok
    · exact fun ⟨hblank, hnew⟩ => ⟨_, register_of_new hblank hnew⟩
  accepted next hok := ⟨(register_eq_ok hok).2, by rw [afterCall, hok]⟩
  refused_blank := register_of_blank
  refused_known := register_of_known
  refused e herror := by rw [afterCall, herror]

omit [Arithmetic α] in
lemma Reachable.afterCalls {engine : Engine α} (h : engine.Reachable)
    (calls : List (Analyzer α)) : (engine.afterCalls calls).Reachable := by
  induction calls generalizing engine with
  | nil => exact h
  | cons call rest ih =>
    have hstep : (engine.afterCall call).Reachable := by
      cases hcall : engine.register call with
      | ok next =>
        rw [((answersCall engine call).accepted next hcall).2]
        exact .register call h hcall
      | error e =>
        rw [(answersCall engine call).refused e hcall]
        exact h
    exact ih hstep

omit [Arithmetic α] in
/-- A history of calls adds the accepted ones in their order, and nothing else changes. -/
lemma afterCalls_eq (engine : Engine α) (calls : List (Analyzer α)) :
    engine.afterCalls calls =
      { engine with analyzers := engine.analyzers ++ engine.accepted calls } := by
  induction calls generalizing engine with
  | nil => simp [afterCalls, accepted]
  | cons call rest ih =>
    have hstep : engine.afterCalls (call :: rest) = (engine.afterCall call).afterCalls rest := rfl
    rw [hstep, ih, accepted]
    cases hcall : engine.register call with
    | ok next =>
      obtain ⟨rfl, hnext⟩ := (answersCall engine call).accepted next hcall
      simp [hnext]
    | error e => simp [(answersCall engine call).refused e hcall]

omit [Arithmetic α] in
lemma names_afterCall (engine : Engine α) (call : Analyzer α) :
    (engine.afterCall call).names =
      if Text.trim call.name.toList ≠ [] ∧ call.name ∉ engine.names then
        engine.names ++ [call.name]
      else engine.names := by
  have hanswers := answersCall engine call
  cases hcall : engine.register call with
  | ok next =>
    rw [if_pos (hanswers.accepts_iff.mp ⟨next, hcall⟩)]
    obtain ⟨rfl, hnext⟩ := hanswers.accepted next hcall
    simp [hnext, names]
  | error e =>
    have hrefused : ¬∃ next, engine.register call = .ok next := by
      rintro ⟨next, hok⟩
      rw [hcall] at hok
      cases hok
    rw [if_neg (mt hanswers.accepts_iff.mpr hrefused), hanswers.refused e hcall]

lemma eraseDups_concat (names : List String) (name : String) :
    (names ++ [name]).eraseDups =
      if name ∈ names.eraseDups then names.eraseDups else names.eraseDups ++ [name] := by
  rw [List.eraseDups_append, List.removeAll]
  by_cases hmem : name ∈ names
  · simp [hmem]
  · simp [hmem, List.eraseDups_cons]

/-- The names of calls that are not blank, each where it is first used. -/
def firstNames (calls : List (Analyzer α)) : List String :=
  ((calls.map (·.name)).filter fun name => Text.trim name.toList ≠ []).eraseDups

omit [Arithmetic α] in
/-- One more call adds its name if that is not blank and was not used before. -/
lemma firstNames_concat (calls : List (Analyzer α)) (call : Analyzer α) :
    firstNames (calls ++ [call]) =
      if Text.trim call.name.toList ≠ [] ∧ call.name ∉ firstNames calls then
        firstNames calls ++ [call.name]
      else firstNames calls := by
  have hfirst : firstNames (calls ++ [call]) =
      (((calls.map (·.name)).filter fun name => Text.trim name.toList ≠ []) ++
        [call.name].filter fun name => Text.trim name.toList ≠ []).eraseDups := by
    rw [firstNames, List.map_append, List.filter_append]
    rfl
  by_cases hblank : Text.trim call.name.toList = []
  · have hnone : ([call.name].filter fun name => Text.trim name.toList ≠ []) = [] := by
      simp [hblank]
    rw [hfirst, hnone, List.append_nil, if_neg fun h => h.1 hblank]
    rfl
  · have hone : ([call.name].filter fun name => Text.trim name.toList ≠ []) = [call.name] := by
      simp [hblank]
    have hconcat : firstNames (calls ++ [call]) =
        if call.name ∈ firstNames calls then firstNames calls
        else firstNames calls ++ [call.name] := by
      rw [hfirst, hone]
      exact eraseDups_concat _ _
    by_cases hused : call.name ∈ firstNames calls
    · rw [hconcat, if_pos hused, if_neg fun h => h.2 hused]
    · rw [hconcat, if_neg hused, if_pos ⟨hblank, hused⟩]

omit [Arithmetic α] in
lemma names_afterCalls {engine : Engine α} (hempty : engine.analyzers = [])
    (calls : List (Analyzer α)) : (engine.afterCalls calls).names = firstNames calls := by
  -- a call is answered by what was registered before it, so the last call is taken off
  induction calls using List.reverseRecOn with
  | nil => simp [afterCalls, names, hempty, firstNames]
  | append_singleton calls call ih =>
    have hlast : engine.afterCalls (calls ++ [call]) = (engine.afterCalls calls).afterCall call :=
      List.foldl_concat ..
    rw [hlast, names_afterCall, firstNames_concat, ih]

lemma analyze_eq_error_iff (engine : Engine α) (timestamp : Timestamp) (elapsed : String → Nat) :
    engine.analyze timestamp elapsed = .error .nothingRegistered ↔ engine.analyzers = [] := by
  constructor
  · intro herror
    by_contra hnonempty
    rw [analyze_eq_ofResults hnonempty] at herror
    cases herror
  · intro hempty
    rw [analyze, hempty, List.isEmpty_nil, if_pos rfl]

/-- What an engine is after a history of calls on an empty one. -/
structure HoldsAccepted (engine start : Engine α) (calls : List (Analyzer α)) : Prop where
  nodup : engine.names.Nodup
  not_blank : ∀ name ∈ engine.names, Text.trim name.toList ≠ []
  names_eq : engine.names = firstNames calls
  engine_eq : engine = { start with analyzers := start.accepted calls }
  nothing_iff : ∀ timestamp elapsed,
    engine.analyze timestamp elapsed = .error .nothingRegistered ↔ start.accepted calls = []

/-- After any calls on a new engine, the names that it holds are distinct and not blank, namely the
first occurrences of such names, and the next call is accepted exactly if its name is not blank and
new. -/
theorem register_history (projectPath : String) (calls : List (Analyzer α)) :
    let engine := (new projectPath).afterCalls calls
    engine.HoldsAccepted (new projectPath) calls ∧ ∀ call, engine.AnswersCall call := by
  intro engine
  have hnames : engine.names = firstNames calls := names_afterCalls rfl calls
  have hengine : engine = { new projectPath with analyzers := (new projectPath).accepted calls } :=
    afterCalls_eq (new projectPath) calls
  refine ⟨?_, engine.answersCall⟩
  constructor
  case nodup =>
    exact ((Reachable.empty projectPath .standard 80).afterCalls calls).nodup_names
  case not_blank =>
    intro name hname
    rw [hnames, firstNames, List.mem_eraseDups, List.mem_filter] at hname
    exact of_decide_eq_true hname.2
  case names_eq => exact hnames
  case engine_eq => exact hengine
  case nothing_iff =>
    intro timestamp elapsed
    rw [analyze_eq_error_iff, hengine]

/-- Blank names are refused before and after others, and so is a name that is there already. -/
example :
    ((new "/work/app" : Engine Float).afterCalls
      [⟨"\u00a0 ", .failed []⟩, ⟨"quality", .failed []⟩, ⟨"", .failed []⟩,
        ⟨"features", .failed []⟩, ⟨"quality", .failed []⟩]).names = ["quality", "features"] := by
  decide +kernel

end Engine

end GapAudit
