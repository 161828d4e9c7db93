/-! Why work ends before it is done. It may fail with an error, which the work around it words or takes up; or
the program breaks down in it, and then nothing else is done. -/
namespace SeedNavigator

inductive Crash where
  /-- A text is cut within a character. -/
  | withinCharacter
  deriving DecidableEq, Repr

inductive Stop (ε : Type) where
  | failed (error : ε)
  | crashed (crash : Crash)
  deriving DecidableEq, Repr

/-- Only errors can be worded in another way. -/
def Stop.map {ε δ : Type} (word : ε → δ) : Stop ε → Stop δ
  | .failed error => .failed (word error)
  | .crashed crash => .crashed crash

@[simp] theorem mapError_ok {α ε δ : Type} (word : ε → δ) (value : α) :
    (Except.ok value : Except ε α).mapError word = .ok value := rfl

@[simp] theorem mapError_error {α ε δ : Type} (word : ε → δ) (error : ε) :
    (Except.error error : Except ε α).mapError word = .error (word error) := rfl

theorem mapError_eq_ok_iff {α ε δ : Type} {result : Except ε α} {word : ε → δ} {value : α} :
    result.mapError word = .ok value ↔ result = .ok value := by
  cases result <;> simp

theorem mapError_eq_crashed_iff {α ε : Type} {result : Except Crash α} {crash : Crash} :
    (result.mapError .crashed : Except (Stop ε) α) = .error (.crashed crash) ↔ result = .error crash := by
  cases result <;> simp

/-- Reads one value after the other and keeps what there is, unless the program breaks down over one of them. -/
def collect {α β : Type} (read : α → Except Crash (Option β)) (values : List α) : Except Crash (List β) :=
  (values.mapM read).map fun found => found.filterMap id

/-- What is kept of a value. -/
def kept {α β : Type} (read : α → Except Crash (Option β)) (value : α) : Option β :=
  (read value).toOption.join

section Collect

variable {α β : Type} {read : α → Except Crash (Option β)} {values : List α} {value : α} {found : β} {crash : Crash}

theorem kept_eq_some_iff : kept read value = some found ↔ read value = .ok (some found) := by
  rw [kept]
  cases read value with
  | error crash => simp [Except.toOption]
  | ok own => simp [Except.toOption]

theorem collect_cons (value : α) (rest : List α) : collect read (value :: rest) =
    (read value).bind fun own => (collect read rest).map (own.toList ++ ·) := by
  rw [collect, collect, List.mapM_cons]
  cases read value with
  | error crash => rfl
  | ok own =>
    cases rest.mapM read with
    | error crash => rfl
    | ok found => cases own <;> rfl

theorem collect_eq_error_iff : collect read values = .error crash ↔ ∃ value ∈ values, read value = .error crash := by
  induction values with
  | nil => simp [collect, pure, Except.pure, Except.map]
  | cons value rest ih =>
    simp only [collect_cons, List.mem_cons, exists_eq_or_imp, ← ih]
    cases read value with
    | error other =>
      -- There is one way to break down, so it does not matter over which value the program does first.
      cases other
      cases crash
      simp [Except.bind]
    | ok own => cases collect read rest <;> simp [Except.bind, Except.map]

theorem collect_of_ok (whole : ∀ value ∈ values, ∀ crash, read value ≠ .error crash) :
    collect read values = .ok (values.filterMap (kept read)) := by
  induction values with
  | nil => rfl
  | cons value rest ih =>
    have own := whole value List.mem_cons_self
    rw [collect_cons, ih fun other member => whole other (List.mem_cons_of_mem _ member), List.filterMap_cons]
    cases first : read value with
    | error crash => exact absurd first (own crash)
    | ok found => cases found <;> simp [kept, first, Except.toOption, Except.bind, Except.map]

end Collect

end SeedNavigator
