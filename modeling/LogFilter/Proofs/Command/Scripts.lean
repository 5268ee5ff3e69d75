import LogFilter.Command.Run

/-!
# Writes before failures

What can fail in a run comes before what is written. So a run has written nothing if it fails, not
even a warning: its profile has not been loaded, or its command has not got what it is about
(`Invocation.atomic_perform`).
-/

namespace LogFilter

@[simp] theorem Console.writes_add (c : Console) (writes : List Write) :
    (c.add writes).writes = c.writes ++ writes := rfl

@[simp] theorem Console.colored_add (c : Console) (writes : List Write) :
    (c.add writes).colored = c.colored := rfl

@[simp] theorem Console.add_nil (c : Console) : c.add [] = c := by
  rw [Console.add, List.append_nil]

@[simp] theorem Console.add_add (c : Console) (first second : List Write) :
    (c.add first).add second = c.add (first ++ second) := by
  rw [Console.add, Console.add, Console.add, List.append_assoc]

namespace Script

variable {α β : Type} {x : Script α} {f : α → Script β}

/-! ## Steps -/

@[simp] theorem runOn_pure (a : α) (c : Console) : (pure a : Script α).runOn c = (.ok a, c) := rfl

@[simp] theorem runOn_bind (x : Script α) (f : α → Script β) (c : Console) :
    (x >>= f).runOn c =
      match x.runOn c with
      | (.ok a, next) => (f a).runOn next
      | (.error failure, next) => (.error failure, next) := by
  simp only [runOn, ExceptT.run_bind, StateT.run_bind]
  cases StateT.run (ExceptT.run x) c with
  | mk result next => cases result <;> rfl

@[simp] theorem runOn_map (g : α → β) (x : Script α) (c : Console) :
    (g <$> x).runOn c =
      match x.runOn c with
      | (.ok a, next) => (.ok (g a), next)
      | (.error failure, next) => (.error failure, next) := by
  rw [← bind_pure_comp, runOn_bind]
  rfl

@[simp] theorem runOn_attempt (x : Except Failure α) (c : Console) :
    (attempt x).runOn c = (x, c) := by
  cases x <;> rfl

@[simp] theorem runOn_write (channel : Channel) (text : Text) (c : Console) :
    (write channel text).runOn c = (.ok (), c.add [⟨channel, text⟩]) := rfl

@[simp] theorem runOn_setColor (mode : ColorMode) (c : Console) :
    (setColor mode).runOn c = (.ok (), { c with colored := mode.over c.colored }) := rfl

@[simp] theorem runOn_isColored (c : Console) : isColored.runOn c = (.ok c.colored, c) := rfl

/-- Each warning is a write of its own. -/
@[simp] theorem runOn_warn (p : Profile) (quiet : Bool) (clauses : List Clause) (c : Console) :
    (warn p quiet clauses).runOn c =
      (.ok (), c.add ((if quiet then [] else warnings p clauses).map
        fun w => ⟨.messages, w.report c.colored⟩)) := by
  have hlist : ∀ (list : List Warning) (c : Console),
      (forM list fun w => do write .messages (w.report (← isColored)) : Script Unit).runOn c =
        (.ok (), c.add (list.map fun w => ⟨.messages, w.report c.colored⟩)) := by
    intro list
    induction list with
    | nil => intro c; simp
    | cons w list ih => intro c; simp [ih]
  cases quiet with
  | true => simp [warn]
  | false => exact hlist _ c

/-! ## Order -/

/-- Writes nothing, whether it fails or not. -/
def Silent (x : Script α) : Prop :=
  ∀ c result next, x.runOn c = (result, next) → next.writes = c.writes

/-- Does not fail. -/
def Sure (x : Script α) : Prop := ∀ c, ∃ a next, x.runOn c = (.ok a, next)

/-- Has written nothing if it fails. -/
def Atomic (x : Script α) : Prop :=
  ∀ c failure next, x.runOn c = (.error failure, next) → next.writes = c.writes

theorem silent_pure {a : α} : (pure a : Script α).Silent := by
  rintro c result next ⟨⟩
  rfl

theorem silent_attempt {x : Except Failure α} : (attempt x).Silent := by
  intro c result next h
  rw [runOn_attempt] at h
  cases h
  rfl

theorem silent_setColor {mode : ColorMode} : (setColor mode).Silent := by
  rintro c result next ⟨⟩
  rfl

theorem sure_pure {a : α} : (pure a : Script α).Sure := fun c => ⟨a, c, rfl⟩

theorem sure_isColored : isColored.Sure := fun c => ⟨c.colored, c, rfl⟩

theorem sure_write {channel : Channel} {text : Text} : (write channel text).Sure :=
  fun _ => ⟨_, _, rfl⟩

theorem sure_warn {p : Profile} {quiet : Bool} {clauses : List Clause} :
    (warn p quiet clauses).Sure := fun _ => ⟨_, _, runOn_warn ..⟩

theorem Sure.bind (hx : x.Sure) (hf : ∀ a, (f a).Sure) : (x >>= f).Sure := by
  intro c
  obtain ⟨a, next, ha⟩ := hx c
  obtain ⟨b, last, hb⟩ := hf a next
  exact ⟨b, last, by simp only [runOn_bind, ha, hb]⟩

theorem Sure.atomic (hx : x.Sure) : x.Atomic := by
  intro c failure next hfailure
  obtain ⟨a, last, ha⟩ := hx c
  rw [ha] at hfailure
  cases hfailure

/-- Steps that write nothing may come before a script that has written nothing if it fails. -/
theorem Silent.atomic_bind (hx : x.Silent) (hf : ∀ a, (f a).Atomic) : (x >>= f).Atomic := by
  intro c failure last h
  rw [runOn_bind] at h
  cases hrun : x.runOn c with
  | mk result next =>
      have hnext : next.writes = c.writes := hx c result next hrun
      cases result with
      | error first =>
          simp only [hrun] at h
          cases h
          exact hnext
      | ok a =>
          simp only [hrun] at h
          exact (hf a next failure last h).trans hnext

/-- A step that writes may not, for a failure behind it does not take its text back. -/
example : ¬ (write .output "a" >>= fun _ => attempt (.error (.input .notFound)) :
    Script Unit).Atomic := by
  intro h
  have hnone := h ⟨[], false⟩ (.input .notFound) _ rfl
  cases hnone

end Script

open Script in
/-- The steps of a command that can fail are the first ones. -/
theorem Command.atomic_perform (s : Surroundings) (p : Profile) (format : OutputFormat)
    (quiet : Bool) (command : Command) : (command.perform s p format quiet).Atomic := by
  have hwrites {channel : Channel} {text : Text} {passed : Bool} :
      (do write channel text; return passed : Script Bool).Sure :=
    sure_write.bind fun _ => sure_pure
  cases command with
  | parse query => exact (sure_warn.bind fun _ => hwrites).atomic
  | stringify file =>
      exact silent_attempt.atomic_bind fun clauses => (sure_warn.bind fun _ => hwrites).atomic
  | server query => exact (sure_warn.bind fun _ => hwrites).atomic
  | validate query => exact (sure_warn.bind fun _ => sure_isColored.bind fun _ => hwrites).atomic
  | quote value number =>
      cases number with
      | false => exact silent_pure.atomic_bind fun scalar => hwrites.atomic
      | true => exact silent_attempt.atomic_bind fun scalar => hwrites.atomic
  | highlight query => exact (sure_warn.bind fun _ => sure_isColored.bind fun _ => hwrites).atomic

open Script in
/-- A run that fails has written nothing by then. -/
theorem Invocation.atomic_perform (s : Surroundings) (i : Invocation) : (i.perform s).Atomic :=
  silent_attempt.atomic_bind fun p => silent_setColor.atomic_bind fun _ =>
    i.command.atomic_perform s p (i.outputFormat p) i.quiet

/-- All that is written in a run that fails is what it reports. -/
theorem Invocation.run_of_failure {s : Surroundings} {i : Invocation} {failure : Failure}
    {next : Console} (h : (i.perform s).runOn ⟨[], s.wantsColor⟩ = (.error failure, next)) :
    i.run s = ⟨[⟨.messages, failure.report next.colored⟩], .failed failure⟩ := by
  have hnone : next.writes = [] := i.atomic_perform s _ failure next h
  rw [run, h]
  simp only [Console.writes_add, hnone, List.nil_append]

end LogFilter
