import Intcode.FileSystem.Basic

/-!
# Actions on a state

What an action does to the state that it works on follows from what its parts do.  An action on one
kind of state can be carried over to another, and with it the operations of a file system and all
that is built from them.
-/

namespace Intcode

theorem run_bind_of_run
    {σ α β : Type} {action : StateM σ α} {further : α → StateM σ β} {state next : σ} {value : α}
    (performed : action.run state = (value, next)) :
    (action >>= further).run state = (further value).run next := by
  rw [StateT.run_bind, performed]
  rfl

/-! ## Moving a state -/

/-- Wherever an action starts, it ends in a state that is related to the first. -/
def Moves {σ α : Type} (related : σ → σ → Prop) (action : StateM σ α) : Prop :=
  ∀ state, related state (action.run state).2

namespace Moves

variable {σ α β : Type} {related : σ → σ → Prop}

theorem pure [Std.Refl related] (value : α) : Moves related (Pure.pure value : StateM σ α) :=
  fun state => Std.Refl.refl state

theorem bind [Trans related related related] {action : StateM σ α} {further : α → StateM σ β}
    (first : Moves related action) (second : ∀ value, Moves related (further value)) :
    Moves related (action >>= further) :=
  fun state => Trans.trans (first state) (second _ _)

end Moves

/-! ## Carrying actions over -/

/-- A way to carry actions over that respects doing nothing and doing one thing after another. -/
structure Carries {m n : Type → Type} [Monad m] [Monad n] (carry : (α : Type) → m α → n α) :
    Prop where
  pure {α : Type} (value : α) : carry _ (Pure.pure value) = Pure.pure value
  bind {α β : Type} (action : m α) (further : α → m β) :
    carry _ (action >>= further) = carry _ action >>= fun value => carry _ (further value)

namespace FileSystem

variable {m n : Type → Type} [Monad m] [Monad n] {carry : (α : Type) → m α → n α}

def through (carry : (α : Type) → m α → n α) (files : FileSystem m) : FileSystem n where
  read path := carry _ (files.read path)
  write path bytes := carry _ (files.write path bytes)
  makeDirectory path := carry _ (files.makeDirectory path)
  isDirectory path := carry _ (files.isDirectory path)

theorem readText_through (carries : Carries carry) (files : FileSystem m) (path : Path) :
    (files.through carry).readText path = carry _ (files.readText path) := by
  rw [readText, readText, carries.bind]
  simp only [carries.pure]
  rfl

theorem ensureDirectory_through (carries : Carries carry) (files : FileSystem m) (path : Path) :
    (files.through carry).ensureDirectory path = carry _ (files.ensureDirectory path) := by
  rw [ensureDirectory, ensureDirectory, carries.bind]
  congr 1
  funext made
  cases made with
  | ok done => exact (carries.pure _).symm
  | error error =>
      simp only [carries.bind]
      congr 1
      funext stands
      cases stands <;> exact (carries.pure _).symm

theorem makeAll_through (carries : Carries carry) (files : FileSystem m) (paths : List Path) :
    (files.through carry).makeAll paths = carry _ (files.makeAll paths) := by
  induction paths with
  | nil => exact (carries.pure _).symm
  | cons path outer ih =>
      rw [makeAll, makeAll, carries.bind, ensureDirectory_through carries]
      congr 1
      funext made
      split
      · rw [carries.bind, ih]
        congr 1
        funext held
        cases held with
        | ok done => rfl
        | error error => exact (carries.pure _).symm
      · exact (carries.pure _).symm

theorem makeDirectories_through (carries : Carries carry) (files : FileSystem m) (path : Path) :
    (files.through carry).makeDirectories path = carry _ (files.makeDirectories path) :=
  makeAll_through carries files path.ancestors

end FileSystem

end Intcode
