import Intcode.Console.Basic
import Intcode.Proofs.Host.Actions

/-!
# Observed consoles

An observed console is another console whose calls are written down with their results.  It answers
as the other does, whether that fails or not, so what was written down is what the other was given
and gave.
-/

namespace Intcode

namespace Console

inductive Call where
  | write (text : String) (result : Except HostError Unit)
  | readLine (result : Except HostError (Option String))

namespace Call

@[simp] def taken (text : String) : Call :=
  write text (.ok ())

@[simp] def error? : Call → Option HostError
  | write _ (.error error) | readLine (.error error) => some error
  | write _ (.ok ()) | readLine (.ok _) => none

@[simp] def text? : Call → Option String
  | write text _ => some text
  | readLine _ => none

@[simp] def shown? : Call → Option String
  | write text (.ok ()) => some text
  | write _ (.error _) | readLine _ => none

@[simp] def line? : Call → Option String
  | readLine (.ok line) => line
  | readLine (.error _) | write _ _ => none

def texts (calls : List Call) : List String :=
  calls.filterMap text?

def shown (calls : List Call) : List String :=
  calls.filterMap shown?

def lines (calls : List Call) : List String :=
  calls.filterMap line?

def errors (calls : List Call) : List HostError :=
  calls.filterMap error?

section Lists

variable (first second : List Call) (call : Call) (calls : List Call) (written : List String)

@[simp] theorem texts_nil : texts [] = [] :=
  rfl

@[simp] theorem shown_nil : shown [] = [] :=
  rfl

@[simp] theorem lines_nil : lines [] = [] :=
  rfl

@[simp] theorem errors_nil : errors [] = [] :=
  rfl

@[simp] theorem texts_append : texts (first ++ second) = texts first ++ texts second :=
  List.filterMap_append

@[simp] theorem shown_append : shown (first ++ second) = shown first ++ shown second :=
  List.filterMap_append

@[simp] theorem lines_append : lines (first ++ second) = lines first ++ lines second :=
  List.filterMap_append

@[simp] theorem errors_append : errors (first ++ second) = errors first ++ errors second :=
  List.filterMap_append

theorem filterMap_cons {α : Type} (part : Call → Option α) :
    (call :: calls).filterMap part = (part call).toList ++ calls.filterMap part := by
  rw [List.filterMap_cons]
  cases part call <;> rfl

@[simp] theorem texts_cons : texts (call :: calls) = call.text?.toList ++ texts calls :=
  filterMap_cons call calls text?

@[simp] theorem shown_cons : shown (call :: calls) = call.shown?.toList ++ shown calls :=
  filterMap_cons call calls shown?

@[simp] theorem lines_cons : lines (call :: calls) = call.line?.toList ++ lines calls :=
  filterMap_cons call calls line?

@[simp] theorem errors_cons : errors (call :: calls) = call.error?.toList ++ errors calls :=
  filterMap_cons call calls error?

@[simp] theorem texts_map_taken : texts (written.map taken) = written :=
  List.filterMap_map.trans List.filterMap_some

@[simp] theorem shown_map_taken : shown (written.map taken) = written :=
  List.filterMap_map.trans List.filterMap_some

@[simp] theorem lines_map_taken : lines (written.map taken) = [] := by
  induction written with
  | nil => rfl
  | cons text rest ih => exact ih

@[simp] theorem errors_map_taken : errors (written.map taken) = [] := by
  induction written with
  | nil => rfl
  | cons text rest ih => exact ih

end Lists

theorem error?_of_mem_taken
    {texts : List String} {call : Call} (mem : call ∈ texts.map taken) :
    call.error? = none := by
  obtain ⟨text, -, rfl⟩ := List.mem_map.1 mem
  rfl

theorem pairwise_behind_taken
    (texts : List String) {calls : List Call}
    (pairwise : calls.Pairwise fun earlier _ => earlier.error? = none) :
    (texts.map taken ++ calls).Pairwise fun earlier _ => earlier.error? = none := by
  refine List.pairwise_append.2 ⟨?_, pairwise, fun earlier mem _ _ => error?_of_mem_taken mem⟩
  exact List.pairwise_of_forall_mem_list fun earlier mem _ _ => error?_of_mem_taken mem

/-- A request for a line behind texts that were taken is among the calls after these. -/
theorem split_behind_taken
    {texts : List String} {calls before further : List Call}
    {result : Except HostError (Option String)}
    (split : texts.map taken ++ calls = before ++ .readLine result :: further) :
    ∃ between, before = texts.map taken ++ between ∧
      calls = between ++ .readLine result :: further := by
  induction texts generalizing before with
  | nil => exact ⟨before, rfl, split⟩
  | cons text rest ih =>
      cases before with
      | nil => cases split
      | cons call before =>
          obtain ⟨rfl, rest⟩ := List.cons.inj split
          obtain ⟨between, rfl, last⟩ := ih rest
          exact ⟨between, rfl, last⟩

theorem split_last_behind_taken
    {texts : List String} {call : Call} {before further : List Call}
    {result : Except HostError (Option String)}
    (split : texts.map taken ++ [call] = before ++ .readLine result :: further) :
    before = texts.map taken ∧ call = .readLine result := by
  obtain ⟨between, rfl, last⟩ := split_behind_taken split
  rcases List.singleton_eq_append_iff.1 last with ⟨rfl, same⟩ | ⟨-, impossible⟩
  · cases same
    exact ⟨List.append_nil _, rfl⟩
  · cases impossible

end Call

section Observed

variable {σ : Type}

/-- An action, with the call that it amounts to written down behind earlier ones. -/
def record {α : Type} (action : StateM σ α) (call : α → Call) : StateM (σ × List Call) α :=
  modifyGet fun (state, calls) =>
    let (value, next) := Id.run (action.run state)
    (value, next, calls ++ [call value])

def observed (console : Console (StateM σ)) : Console (StateM (σ × List Call)) where
  readLine := record console.readLine .readLine
  write text := record (console.write text) (.write text)

theorem run_record
    {α : Type} {action : StateM σ α} {state next : σ} {value : α}
    (performed : action.run state = (value, next)) (call : α → Call) (calls : List Call) :
    (record action call).run (state, calls) = (value, next, calls ++ [call value]) := by
  change (let (value, next) := Id.run (action.run state); (value, next, calls ++ [call value])) = _
  rw [performed]
  rfl

/-- All texts are taken, or those before one that is refused. -/
theorem writeAll_observed
    (console : Console (StateM σ)) (texts : List String) (state : σ) (calls : List Call) :
    (∃ next, (console.writeAll texts).run state = (.ok (), next) ∧
      (console.observed.writeAll texts).run (state, calls) =
        (.ok (), next, calls ++ texts.map .taken)) ∨
    ∃ before text further error next, texts = before ++ text :: further ∧
      (console.writeAll texts).run state = (.error error, next) ∧
      (console.observed.writeAll texts).run (state, calls) =
        (.error error, next, calls ++ (before.map .taken ++ [.write text (.error error)])) := by
  induction texts generalizing state calls with
  | nil =>
      refine .inl ⟨state, rfl, ?_⟩
      rw [List.map_nil, List.append_nil]
      rfl
  | cons text rest ih =>
      rcases wrote : (console.write text).run state with ⟨error | done, next⟩
      · have refused : (console.observed.write text).run (state, calls) =
            (.error error, next, calls ++ [.write text (.error error)]) :=
          run_record wrote _ calls
        refine .inr ⟨[], text, rest, error, next, rfl, ?_, ?_⟩
        · rw [writeAll, run_bind_of_run wrote]
          rfl
        · rw [writeAll, run_bind_of_run refused]
          rfl
      · have first : (console.observed.write text).run (state, calls) =
            (.ok (), next, calls ++ [.taken text]) :=
          run_record wrote _ calls
        rcases ih next (calls ++ [.taken text]) with
          ⟨final, all, observed⟩ | ⟨before, other, further, error, final, rfl, part, observed⟩
        · rw [List.append_assoc] at observed
          refine .inl ⟨final, ?_, ?_⟩
          · rw [writeAll, run_bind_of_run wrote]
            exact all
          · rw [writeAll, run_bind_of_run first]
            exact observed
        · rw [List.append_assoc] at observed
          refine .inr ⟨text :: before, other, further, error, final, rfl, ?_, ?_⟩
          · rw [writeAll, run_bind_of_run wrote]
            exact part
          · rw [writeAll, run_bind_of_run first]
            exact observed

end Observed

end Console

end Intcode
