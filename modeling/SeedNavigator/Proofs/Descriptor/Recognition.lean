import SeedNavigator.Descriptor.Recognition
import SeedNavigator.Proofs.Descriptor.Objects

/-! How recognizing a source ends. The program breaks down over a literal in its tree if it gets to it: routes
are only looked for where no main descriptor has been found. Only the structural strategy fails without a tree. -/
namespace SeedNavigator

namespace Recognized

variable {main? : Except Crash (Option MainDescriptor)} {routes : Except Crash (List Route)} {crash : Crash}

theorem search_eq_error_iff : search main? routes = .error crash ↔
    main? = .error crash ∨ main? = .ok none ∧ routes = .error crash := by
  cases main? with
  | error other => simp [search, bind, Except.bind]
  | ok main =>
    cases main with
    | some main => simp [search, bind, Except.bind, pure, Except.pure]
    | none => cases routes <;> simp [search, bind, Except.bind, pure, Except.pure]

theorem ofRoutes_ne_routes_nil (routes : List Route) : ofRoutes routes ≠ .routes [] := by
  cases routes <;> simp [ofRoutes]

theorem of_ne_routes_nil (main : Option MainDescriptor) (routes : List Route) : of main routes ≠ .routes [] := by
  cases main with
  | some main => simp [of]
  | none => exact ofRoutes_ne_routes_nil routes

theorem search_ne_routes_nil : search main? routes ≠ .ok (.routes []) := by
  cases main? with
  | error crash => simp [search, bind, Except.bind]
  | ok main =>
    cases main with
    | some main => simp [search, bind, Except.bind, pure, Except.pure]
    | none =>
      cases routes with
      | error crash => simp [search, bind, Except.bind]
      | ok routes => simpa [search, bind, Except.bind, pure, Except.pure] using ofRoutes_ne_routes_nil routes

end Recognized

namespace Descriptor

open Script

/-- The program breaks down over a source under a strategy that looks at its tree. -/
inductive Breaks (parse : Parser) (strategy : Strategy) (source : String) : Prop
  | main {tree : Node} (asked : strategy ≠ .textual) (parsed : parse source = .ok tree)
      (breaks : Structural.BreaksMain tree)
  | routes {tree : Node} (asked : strategy ≠ .textual) (parsed : parse source = .ok tree)
      (baseless : Structural.main? tree = .ok none)
      (alone : strategy = .automatic → Textual.main? source = none) (breaks : Structural.BreaksRoutes tree)

variable {parse : Parser} {strategy : Strategy} {source message : String} {tree : Node} {crash : Crash}
  {error : Error}

theorem not_breaks_of_treeless (parsed : parse source = .error message) : ¬Breaks parse strategy source := by
  rintro (⟨-, other, -⟩ | ⟨-, other, -, -, -⟩)
  · simp [parsed] at other
  · simp [parsed] at other

theorem not_breaks_textual : ¬Breaks parse .textual source := by
  rintro (⟨asked, -, -⟩ | ⟨asked, -, -, -, -⟩) <;> exact asked rfl

theorem breaks_iff (asked : strategy ≠ .textual) (parsed : parse source = .ok tree) :
    Breaks parse strategy source ↔ Structural.BreaksMain tree ∨ (Structural.main? tree = .ok none ∧
      (strategy = .automatic → Textual.main? source = none)) ∧ Structural.BreaksRoutes tree := by
  constructor
  · rintro (⟨-, again, breaks⟩ | ⟨-, again, baseless, alone, breaks⟩)
    · obtain rfl := Except.ok.inj (parsed.symm.trans again)
      exact .inl breaks
    · obtain rfl := Except.ok.inj (parsed.symm.trans again)
      exact .inr ⟨⟨baseless, alone⟩, breaks⟩
  · rintro (breaks | ⟨⟨baseless, alone⟩, breaks⟩)
    · exact .main asked parsed breaks
    · exact .routes asked parsed baseless alone breaks

theorem structural_eq_error_iff : Structural.recognize tree = .error crash ↔
    Structural.BreaksMain tree ∨ Structural.main? tree = .ok none ∧ Structural.BreaksRoutes tree := by
  rw [Structural.recognize, Recognized.search_eq_error_iff, Structural.main?_eq_error_iff,
    Structural.routes_eq_error_iff]

theorem recognizeInBoth_eq_error_iff : recognizeInBoth tree source = .error crash ↔ Structural.BreaksMain tree ∨
    (Structural.main? tree = .ok none ∧ Textual.main? source = none) ∧ Structural.BreaksRoutes tree := by
  have main : Structural.main? tree = .error crash ↔ Structural.BreaksMain tree := Structural.main?_eq_error_iff
  have routes : Structural.routes tree = .error crash ↔ Structural.BreaksRoutes tree :=
    Structural.routes_eq_error_iff
  rw [recognizeInBoth, Recognized.search_eq_error_iff, ← main, ← routes]
  refine or_congr ?_ (and_congr ?_ ?_)
  · cases Structural.main? tree <;> simp [Except.map]
  · cases Structural.main? tree <;> simp [Except.map]
  · cases Structural.routes tree <;> simp [Except.map]

theorem recognize_eq_crashed_iff : recognize parse strategy source = .error (.crashed crash) ↔
    Breaks parse strategy source := by
  cases strategy with
  | textual => simp [recognize, not_breaks_textual]
  | structural =>
    cases parsed : parse source with
    | error message => simp [recognize, recognizeInTree, parsed, not_breaks_of_treeless parsed]
    | ok tree =>
      rw [breaks_iff (by simp) parsed]
      simp [recognize, recognizeInTree, parsed, mapError_eq_crashed_iff, structural_eq_error_iff]
  | automatic =>
    cases parsed : parse source with
    | error message =>
      simp [recognize, recognizeAutomatically, parsed, not_breaks_of_treeless parsed]
    | ok tree =>
      rw [breaks_iff (by simp) parsed]
      simp [recognize, recognizeAutomatically, parsed, mapError_eq_crashed_iff, recognizeInBoth_eq_error_iff]

/-- The other strategies have the text of the source to fall back on. -/
theorem recognize_eq_failed_iff : recognize parse strategy source = .error (.failed error) ↔
    strategy = .structural ∧ ∃ message, parse source = .error message ∧ error = .unparsable message := by
  have uncaught {result : Except Crash Recognized} :
      (result.mapError .crashed : Except (Stop Error) Recognized) ≠ .error (.failed error) := by
    cases result <;> simp
  cases strategy with
  | textual => simp [recognize]
  | automatic => simpa [recognize] using uncaught
  | structural =>
    cases parsed : parse source with
    | error message => simp [recognize, recognizeInTree, parsed, eq_comm]
    | ok tree => simpa [recognize, recognizeInTree, parsed] using uncaught

/-- Routes are only found where there are some. -/
theorem recognize_ne_routes_nil : recognize parse strategy source ≠ .ok (.routes []) := by
  have textual : Textual.recognize source ≠ .routes [] := Recognized.of_ne_routes_nil _ _
  have caught {result : Except Crash Recognized} (other : result ≠ .ok (.routes [])) :
      (result.mapError .crashed : Except (Stop Error) Recognized) ≠ .ok (.routes []) :=
    fun found => other (mapError_eq_ok_iff.mp found)
  cases strategy with
  | textual => simpa [recognize] using textual
  | structural =>
    rw [recognize]
    cases parse source with
    | error message => simp [recognizeInTree]
    | ok tree => exact caught Recognized.search_ne_routes_nil
  | automatic =>
    rw [recognize]
    cases parse source with
    | error message => exact caught (by simpa [recognizeAutomatically] using textual)
    | ok tree => exact caught Recognized.search_ne_routes_nil

end Descriptor

end SeedNavigator
