import SeedNavigator.Project.Navigation
import SeedNavigator.Proofs.Path.Document
import SeedNavigator.Proofs.Path.WholeSegments

/-! Switching from a document to its counterpart. The suffixes say which files belong together, and the
extension of a path says which way to switch; only where the two agree is the counterpart found. For a path
that is written with its suffix the extension is the one of the suffix, so it is enough to look at the
settings. -/
namespace SeedNavigator

open SeedNavigator.Text SeedNavigator.Path

/-- The suffix ends with a point and this extension. -/
structure Side.HasExtension (side : Side) (extension : List Char) : Prop where
  split : ∃ stem, side.suffix.toList = stem ++ '.' :: extension
  nonempty : extension ≠ []
  point : '.' ∉ extension
  slash : '/' ∉ side.suffix.toList

variable {side here there : Side} {source before below extension : List Char} {path : String}

/-- The last name of a path on a side is longer than the suffix. -/
theorem Side.Holds.exists_names (holds : side.Holds source before below)
    (nonempty : side.suffix.toList ≠ []) (slash : '/' ∉ side.suffix.toList) :
    ∃ outer name, name ≠ [] ∧ names source = outer ++ [name ++ side.suffix.toList] := by
  obtain ⟨inner, name, leads⟩ := holds.exists_leadsTo
  have nameLength := List.length_pos_iff.mpr leads.nonempty
  have suffixLength := List.length_pos_iff.mpr nonempty
  have busy : isIdle (name ++ side.suffix.toList) = false := by
    rw [Bool.eq_false_iff, ne_eq, isIdle_iff]
    rintro (empty | point)
    · simp [leads.nonempty] at empty
    · have total := congrArg List.length point
      simp only [List.length_append, Path.here, List.length_cons, List.length_nil] at total
      omega
  -- only the last piece carries the suffix, and no suffix makes it idle
  have file : names (below ++ side.suffix.toList) =
      inner.filter (fun segment => !isIdle segment) ++ [name ++ side.suffix.toList] := by
    rw [names, leads.pieces _ slash, List.filter_append]
    simp [busy]
  refine ⟨names (before ++ side.base.toList) ++ inner.filter (fun segment => !isIdle segment), name,
    leads.nonempty, ?_⟩
  rw [holds.path_eq, Side.place, names_append_slash, file, List.append_assoc]

namespace Mapper

variable {target : String}

/-- A path on a side that is written with the suffix has the extension of the suffix. -/
theorem extension?_of_mapped {source : String} (mapped : relocate here there path = .mapped source target)
    (ends : here.HasExtension extension) (written : here.suffix.toList <:+ path.toList) :
    extension? path.toList = some extension := by
  obtain ⟨normal, before, below, holds, -⟩ := relocate_eq_mapped_iff.mp mapped
  obtain ⟨front, written⟩ := written
  obtain ⟨stem, split⟩ := ends.split
  rw [← written, split]
  refine extension?_append (split ▸ ends.slash) ends.nonempty ends.point fun bare => ?_
  rw [bare, List.nil_append] at split
  -- a bare suffix at the end of the path would be the whole last name
  have more : ¬(front = [] ∨ front.getLast? = some '/') := by
    intro start
    have whole : IsProper here.suffix.toList := by
      refine ⟨by simp [split], by simp [split, Path.here, ends.nonempty], ends.slash, fun inside => ?_⟩
      have clean : '\\' ∉ source.toList :=
        normal ▸ notMem_backslash_render (resolved_normal (notMem_backslash_unifySeparators _)).proper
      rw [holds.path_eq] at clean
      exact clean (by simp [Side.place, inside])
    have ahead : here.suffix.toList ≠ up := by
      intro climb
      rw [split] at climb
      exact ends.point ((List.cons.inj climb).2 ▸ List.mem_singleton_self '.')
    obtain ⟨outer, last⟩ := exists_names_normalizeChars_append whole ahead start
    obtain ⟨others, name, nonempty, longer⟩ := holds.exists_names whole.nonempty ends.slash
    rw [written, ← normal, longer] at last
    have same := (List.append_inj' last rfl).2
    exact nonempty (List.append_left_eq_self.mp (List.singleton_inj.mp same))
  rcases List.eq_nil_or_concat front with empty | ⟨init, c, rfl⟩
  · exact absurd (.inl empty) more
  · exact ⟨init, c, by simp, fun slash => more (.inr (by simp [slash]))⟩

end Mapper

namespace Navigation

/-- How switching from a path on a side comes out, where the side is the one of documents of this kind. -/
structure Switches (kind : DocumentKind) (languages : List String) (side : Side) (path : String)
    (counterpart outcome : Mapping) : Prop where
  found : outcome = counterpart ↔ DocumentKind.ofPath path = kind
  otherwise : DocumentKind.ofPath path ≠ kind → outcome = .unchanged path
  suffix : ∀ extension, side.HasExtension extension → side.suffix.toList <:+ path.toList →
    (outcome = counterpart ↔ String.ofList (lower extension) ∈ languages)

theorem switches_of_mapped {kind : DocumentKind} {languages : List String} {outcome : Mapping}
    {source target : String} (mapped : Mapper.relocate here there path = .mapped source target)
    (chosen : outcome = if DocumentKind.ofPath path = kind then Mapper.relocate here there path
      else .unchanged path)
    (known : ∀ id, DocumentKind.ofLanguageChars id = kind ↔ String.ofList (lower id) ∈ languages) :
    Switches kind languages here path (Mapper.relocate here there path) outcome := by
  have found : outcome = Mapper.relocate here there path ↔ DocumentKind.ofPath path = kind := by
    rw [chosen, mapped]
    split <;> simp [*]
  refine ⟨found, fun other => by rw [chosen, if_neg other], fun extension ends written => ?_⟩
  rw [found, DocumentKind.ofPath_of_extension (Mapper.extension?_of_mapped mapped ends written), known]

/-- Of a path with one counterpart, switching by the extension finds it exactly if the extension is one of
the language of its side. A path that is written with a suffix has the extension of the suffix. -/
theorem mapping_by_extension (mapper : Mapper) (path : String) :
    ((mapper.toView path).target? ≠ none → (mapper.toController path).target? = none →
      Switches .controller ["typescript", "ts"] mapper.controllers path (mapper.toView path)
        (mapping mapper (.ofPath path) path)) ∧
    ((mapper.toController path).target? ≠ none → (mapper.toView path).target? = none →
      Switches .view ["html", "htm"] mapper.views path (mapper.toController path)
        (mapping mapper (.ofPath path) path)) := by
  constructor
  · intro some none
    obtain ⟨_, _, mapped⟩ := Mapper.target?_ne_none_iff.mp some
    refine switches_of_mapped mapped ?_ fun _ => DocumentKind.ofLanguageChars_eq_controller_iff
    cases DocumentKind.ofPath path with
    | controller => rfl
    | view => exact Mapper.target?_eq_none_iff.mp none
    | other => rfl
  · intro some none
    obtain ⟨_, _, mapped⟩ := Mapper.target?_ne_none_iff.mp some
    refine switches_of_mapped mapped ?_ fun _ => DocumentKind.ofLanguageChars_eq_view_iff
    cases DocumentKind.ofPath path with
    | controller => exact Mapper.target?_eq_none_iff.mp none
    | view => rfl
    | other => rfl

/-- Case and separators do not matter. -/
theorem users_switched_by_extension :
    mapping ⟨⟨"src/app/controllers", ".ctrl.TS"⟩, ⟨"src/app/views", ".tpl.html"⟩⟩
        (.ofPath "src\\app\\controllers\\users.ctrl.TS") "src\\app\\controllers\\users.ctrl.TS" =
      .mapped "src/app/controllers/users.ctrl.TS" "src/app/views/users.tpl.html" := by
  have switches := (mapping_by_extension
    ⟨⟨"src/app/controllers", ".ctrl.TS"⟩, ⟨"src/app/views", ".tpl.html"⟩⟩
    "src\\app\\controllers\\users.ctrl.TS").1 (by decide +kernel) (by decide +kernel)
  have extension : (Side.mk "src/app/controllers" ".ctrl.TS").HasExtension ['T', 'S'] :=
    ⟨⟨".ctrl".toList, rfl⟩, by decide, by decide, by decide⟩
  have found := (switches.suffix _ extension (by decide)).mpr (by decide +kernel)
  exact found.trans (by decide +kernel)

/-- Settings may name the files of another language. These are related to each other, but switching does
not know their extensions. -/
theorem not_forall_mapping_by_suffix : ¬∀ (project : Project) (mapper : Mapper) (path : String),
    project.config.validate = .ok () → project.mapper = .ok mapper →
    ((mapper.toView path).target? ≠ none → (mapper.toController path).target? = none →
      mapping mapper (.ofPath path) path = mapper.toView path) ∧
    ((mapper.toController path).target? ≠ none → (mapper.toView path).target? = none →
      mapping mapper (.ofPath path) path = mapper.toController path) := by
  intro always
  have switched := (always
    ⟨{ controllerSuffix := ".controller.js" },
      { root := ".", basePaths := some ⟨"src/app/controllers", "src/app/views"⟩ }⟩
    ⟨⟨"src/app/controllers", ".controller.js"⟩, ⟨"src/app/views", ".html"⟩⟩
    "src/app/controllers/users.controller.js" (by rfl) (by rfl)).1 (by decide +kernel) (by decide +kernel)
  exact absurd switched (by decide +kernel)

end Navigation

end SeedNavigator
