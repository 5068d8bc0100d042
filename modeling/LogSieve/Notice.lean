import LogSieve.Format.Template

/-!
# Notices

What this library has to say about its own work, malformed specifications above all, it says in
notices: a line for the reader, on a channel, at a level of talkativeness. Whether a notice is shown
is decided elsewhere (`Diagnostics`); an operation only returns the notices it gives, in order,
along with its value. So no operation can depend on who is listening.

`Reported` is that pair, and a lawful monad: the notices of two steps follow one another
(`notices_bind`), also when the first one fails (`run_bind`).
-/

namespace LogSieve

open Format (Subject Subjects TemplateFault)

/-! ## 1. Notices -/

/-- A line for the reader. A greater level is of less importance. -/
structure Notice where
  level : Int
  channel : Text
  /-- The line, with a field for each thing it names. -/
  template : Text
  fields : Subjects := []

namespace Notice

/-- The level of internal steps. -/
def debugLevel : Int := 3

/-- The level of news about where settings come from. -/
def configLevel : Int := 2

/-- The level of warnings. -/
def warningLevel : Int := -2

/-- The level of errors. -/
def errorLevel : Int := -3

/-- No notice is shown where the threshold is at this level or below. -/
def wall : Int := -4

/-- The line as it is written. A template without fields is taken as it stands. -/
def line (n : Notice) : Except TemplateFault Text :=
  if n.fields.isEmpty then .ok n.template else Format.fillTemplate n.fields n.template

/-- The channel of notices about nothing in particular. -/
def general : Text := "general"

/-- A warning. -/
def warning (template : Text) (channel : Text) (fields : Subjects) : Notice :=
  { level := warningLevel, channel, template := "warning: " ++ template, fields }

/-- An error, as it stands. -/
def error (line : Text) : Notice := { level := errorLevel, channel := "error", template := line }

end Notice

/-! ## 2. Values with the notices on the way to them -/

/-- A value with the notices given on the way to it, in order. -/
structure Reported (α : Type) where
  notices : List Notice
  value : α

namespace Reported

/-- Gives a notice. -/
def report (n : Notice) : Reported Unit := ⟨[n], ()⟩

instance : Monad Reported where
  pure a := ⟨[], a⟩
  bind r f := ⟨r.notices ++ (f r.value).notices, (f r.value).value⟩

@[simp] theorem notices_pure {α : Type} (a : α) : (pure a : Reported α).notices = [] := rfl

@[simp] theorem value_pure {α : Type} (a : α) : (pure a : Reported α).value = a := rfl

@[simp] theorem notices_bind {α β : Type} (r : Reported α) (f : α → Reported β) :
    (r >>= f).notices = r.notices ++ (f r.value).notices := rfl

@[simp] theorem value_bind {α β : Type} (r : Reported α) (f : α → Reported β) :
    (r >>= f).value = (f r.value).value := rfl

@[simp] theorem notices_report (n : Notice) : (report n).notices = [n] := rfl

@[simp] theorem notices_map {α β : Type} (f : α → β) (r : Reported α) :
    (f <$> r).notices = r.notices := by simp [Functor.map]

@[simp] theorem value_map {α β : Type} (f : α → β) (r : Reported α) :
    (f <$> r).value = f r.value := rfl

instance : LawfulMonad Reported :=
  LawfulMonad.mk' Reported (fun r => by cases r; simp [Functor.map])
    (fun a f => by simp [bind, pure])
    (fun r f g => by simp [bind, List.append_assoc])

/-- A step that cannot fail, among steps that can. -/
theorem run_lift {ε α : Type} (r : Reported α) :
    (liftM r : ExceptT ε Reported α).run = ⟨r.notices, .ok r.value⟩ := by
  show Reported.mk (r.notices ++ []) _ = _
  rw [List.append_nil]
  rfl

/-- A failure ends the steps; the notices that were given before it stay. -/
theorem run_bind {ε α β : Type} (x : ExceptT ε Reported α) (f : α → ExceptT ε Reported β) :
    (x >>= f).run =
      match x.run.value with
      | .ok a => ⟨x.run.notices ++ (f a).run.notices, (f a).run.value⟩
      | .error fault => ⟨x.run.notices, .error fault⟩ := by
  rw [ExceptT.run_bind]
  rcases x.run with ⟨notices, value⟩
  cases value with
  | ok a => rfl
  | error fault =>
    show Reported.mk (notices ++ []) _ = _
    rw [List.append_nil]
    rfl

/-- What steps come to, if each of them comes to something. -/
theorem value_run_bind {ε α β : Type} (x : ExceptT ε Reported α) (f : α → ExceptT ε Reported β) :
    (x >>= f).run.value = x.run.value >>= fun a => (f a).run.value := by
  rw [run_bind]
  cases x.run.value with
  | ok a => rfl
  | error fault => rfl

/-- Wrapping a failure gives no notice. -/
theorem run_adapt {ε ε' α : Type} (wrap : ε → ε') (x : ExceptT ε Reported α) :
    (x.adapt wrap).run = ⟨x.run.notices, x.run.value.mapError wrap⟩ :=
  congrArg (Reported.mk · _) (List.append_nil _)

/-- Two steps come to an answer when each of them does. -/
theorem value_run_bind_eq_ok_iff {ε α β : Type} (x : ExceptT ε Reported α)
    (f : α → ExceptT ε Reported β) (b : β) :
    (x >>= f).run.value = .ok b ↔ ∃ a, x.run.value = .ok a ∧ (f a).run.value = .ok b := by
  rw [run_bind]
  cases x.run.value with
  | ok a =>
    constructor
    · exact fun h => ⟨a, rfl, h⟩
    · rintro ⟨_, ha, h⟩
      cases ha
      exact h
  | error fault =>
    constructor
    · intro h
      cases h
    · rintro ⟨_, h, _⟩
      cases h

end Reported

end LogSieve
