import SeedNavigator.Files.Host

/-! Running work on a machine that only answers: the result and the events so far, step by step. Work of a
command runs in the same way, with failures in the place of errors. -/
namespace SeedNavigator.Work

variable {ε δ α β : Type}

/-- Runs work after some events have been told. -/
def exec (work : ExceptT ε (StateT (List Event) Id) α) (told : List Event) :
    Except ε α × List Event :=
  (StateT.run (ExceptT.run work) told).run

/-- What work comes to, without the events. -/
def result (work : Work Id α) : Except (Stop Error) α :=
  (run work).run.1

theorem result_eq_exec (work : Work Id α) : result work = (exec work []).1 := rfl

@[simp] theorem exec_throw (error : ε) (told : List Event) :
    exec (throw error : ExceptT ε (StateT (List Event) Id) α) told = (.error error, told) := rfl

@[simp] theorem exec_tell (events told : List Event) :
    exec (tell events) told = (.ok (), told ++ events) := rfl

@[simp] theorem exec_ask (question : Id α) (told : List Event) :
    exec (ask question) told = (.ok question.run, told) := rfl

@[simp] theorem exec_fail (error : Error) (told : List Event) :
    exec (fail error : Work Id α) told = (.error (.failed error), told) := rfl

@[simp] theorem exec_conclude (result : Except (Stop Error) α) (told : List Event) :
    exec (conclude result) told = (result, told) := by
  cases result <;> rfl

@[simp] theorem exec_settle (result : Except Error α) (told : List Event) :
    exec (settle result) told = (result.mapError .failed, told) :=
  exec_conclude _ told

theorem exec_bind (work : ExceptT ε (StateT (List Event) Id) α)
    (next : α → ExceptT ε (StateT (List Event) Id) β) (told : List Event) :
    exec (work >>= next) told =
      match exec work told with
      | (.ok value, told) => exec (next value) told
      | (.error error, told) => (.error error, told) := by
  simp only [exec, ExceptT.run_bind, StateT.run_bind]
  generalize StateT.run (ExceptT.run work) told = result
  obtain ⟨value, told⟩ := result
  cases value <;> rfl

/-- Work that succeeds is done before what follows it. -/
theorem exec_bind_of_ok {work : ExceptT ε (StateT (List Event) Id) α} {told later : List Event} {value : α}
    (done : exec work told = (.ok value, later)) (next : α → ExceptT ε (StateT (List Event) Id) β) :
    exec (work >>= next) told = exec (next value) later := by
  rw [exec_bind, done]

/-- Nothing is done after a failure. -/
theorem exec_bind_of_error {work : ExceptT ε (StateT (List Event) Id) α} {told later : List Event}
    {error : ε} (failed : exec work told = (.error error, later))
    (next : α → ExceptT ε (StateT (List Event) Id) β) :
    exec (work >>= next) told = (.error error, later) := by
  rw [exec_bind, failed]

theorem exec_readText (host : Host Id) (path : String) (told : List Event) :
    exec (readText host path) told =
      (((host.readText path).run.mapError Error.unreadable).mapError .failed, told) := by
  rw [readText, exec_bind_of_ok (exec_ask _ told), exec_settle]

/-- Questions asked one after the other tell nothing. -/
theorem exec_mapM_of_pure {step : α → Work Id β} {answer : α → β}
    (silent : ∀ value told, exec (step value) told = (.ok (answer value), told))
    (values : List α) (told : List Event) :
    exec (values.mapM step) told = (.ok (values.map answer), told) := by
  induction values generalizing told with
  | nil => rfl
  | cons value rest ih =>
    rw [List.mapM_cons, exec_bind_of_ok (silent value told), exec_bind_of_ok (ih told)]
    rfl

/-! ### Breaking down -/

end SeedNavigator.Work
