import SeedNavigator.Project.Templates
import SeedNavigator.Proofs.Path.Walk
import SeedNavigator.Proofs.Project.Scan

/-! The alias that a view uses for its controller, from the routes of the candidates to the lookup. Of the
keys of the controller the first that a route has decides, and of the routes with this key the first.
Routes are told apart by where their paths lead, not by how these are written. -/
namespace SeedNavigator.Templates

open SeedNavigator.Path (LeadAlike normalize_eq_normalize_iff)
open SeedNavigator.Aliases (firstAlias?)
open SeedNavigator.Script (Parser)

/-- The first of the routes whose path comes to this key. -/
structure First (routes : List Route) (key : String) (route : Route) : Prop where
  own : Path.normalize route.path = key
  first : ∃ before after, routes = before ++ route :: after ∧
    ∀ other ∈ before, Path.normalize other.path ≠ key

def Unclaimed (routes : List Route) (key : String) : Prop :=
  ∀ route ∈ routes, Path.normalize route.path ≠ key

/-- The alias by the first of the keys that a route has. -/
inductive Decides (routes : List Route) (fallback : String) : List String → String → Prop where
  | claimed {key : String} {route : Route} (first : First routes key route) (keys : List String) :
      Decides routes fallback (key :: keys) route.as
  | unclaimed {key as : String} {keys : List String} (none : Unclaimed routes key)
      (later : Decides routes fallback keys as) : Decides routes fallback (key :: keys) as
  | fallback : Decides routes fallback [] fallback

/-- The keys under which a controller is looked up, in this order: the way to it below the base, the same
behind a slash, and its bare name. A path that is no controller has none. -/
def keys (mapper : Mapper) (controller : String) : List String :=
  match mapper.routeKey? controller with
  | some key => [key, "/" ++ key, mapper.classKey controller]
  | none => []

/-- Two routes to one place under one alias. -/
structure SpelledAlike (route other : Route) : Prop where
  path : LeadAlike route.path other.path
  as : route.as = other.as

variable {routes others : List Route} {key fallback as : String} {config : Config} {root : String}
  {parse : Parser} {reads : List ReadCandidate} {project : Project}

theorem firstAlias?_eq_some_iff :
    firstAlias? routes key = some as ↔ ∃ route, First routes key route ∧ route.as = as := by
  rw [firstAlias?, Option.map_eq_some_iff]
  refine exists_congr fun route => and_congr_left fun _ => ?_
  rw [List.find?_eq_some_iff_append]
  constructor
  · rintro ⟨own, before, after, split, first⟩
    exact ⟨by simpa using own, before, after, split, by simpa using first⟩
  · rintro ⟨own, before, after, split, first⟩
    exact ⟨by simpa using own, before, after, split, by simpa using first⟩

theorem firstAlias?_eq_none_iff : firstAlias? routes key = none ↔ Unclaimed routes key := by
  simp [firstAlias?, Unclaimed]

theorem decides_iff {keys : List String} : Decides routes fallback keys as ↔
    (keys.findSome? (firstAlias? routes)).getD fallback = as := by
  constructor
  · intro decided
    induction decided with
    | claimed first keys => simp [firstAlias?_eq_some_iff.mpr ⟨_, first, rfl⟩]
    | unclaimed none _ ih => simpa [firstAlias?_eq_none_iff.mpr none] using ih
    | fallback => rfl
  · rintro rfl
    induction keys with
    | nil => exact .fallback
    | cons key keys ih =>
      rw [List.findSome?_cons]
      cases found : firstAlias? routes key with
      | none => exact .unclaimed (firstAlias?_eq_none_iff.mp found) ih
      | some as =>
        obtain ⟨route, first, rfl⟩ := firstAlias?_eq_some_iff.mp found
        exact .claimed first keys

theorem firstAlias?_congr (alike : List.Forall₂ SpelledAlike routes others) (key : String) :
    firstAlias? routes key = firstAlias? others key := by
  induction alike with
  | nil => rfl
  | @cons route other _ _ own _ ih =>
    have same := normalize_eq_normalize_iff.mpr own.path
    rw [firstAlias?, firstAlias?] at ih ⊢
    rw [List.find?_cons, List.find?_cons, same]
    cases decide (Path.normalize other.path = key) with
    | true => exact congrArg some own.as
    | false => exact ih

theorem aliasFor_eq (resolved : Environment.resolve parse config root reads = .ok project.environment)
    (mapper : Mapper) (controller : String) : aliasFor project mapper controller =
      ((keys mapper controller).findSome? (firstAlias? (reads.flatMap (·.routes parse config)))).getD
        project.config.fallbackAlias := by
  have table : project.environment.alias? = firstAlias? (reads.flatMap (·.routes parse config)) :=
    funext (Environment.learned_of_resolve resolved).aliases
  -- the three lookups in a row are one search through the keys
  rw [aliasFor, Mapper.routeAlias?, keys, table]
  cases mapper.routeKey? controller <;> rfl

theorem aliasFor_eq_iff (resolved : Environment.resolve parse config root reads = .ok project.environment)
    (mapper : Mapper) (controller as : String) : aliasFor project mapper controller = as ↔
      Decides (reads.flatMap (·.routes parse config)) project.config.fallbackAlias (keys mapper controller)
        as := by
  rw [decides_iff, aliasFor_eq resolved]

/-- The routes of the candidates decide the alias of every controller, in a scan of given texts as in one
on a machine. Spelling their paths in another way changes nothing. -/
theorem aliasFor_by_first_route (config : Config) (root : String) (project : Project) (mapper : Mapper)
    (controller : String) :
    (∀ parse reads, Environment.resolve parse config root reads = .ok project.environment →
      ∀ as, aliasFor project mapper controller = as ↔
        Decides (reads.flatMap (·.routes parse config)) project.config.fallbackAlias
          (keys mapper controller) as) ∧
    (∀ (host : Host Id) (told : List Event),
      (Work.run (Project.scan host config root)).run = (.ok project.environment, told) →
      ∃ candidates earlier,
        (Work.run (Project.candidates host root config.candidateGlob)).run =
          (.ok candidates, earlier) ∧
        ∀ as, aliasFor project mapper controller = as ↔
          Decides ((Project.reads host candidates).flatMap (·.routes host.parse config))
            project.config.fallbackAlias (keys mapper controller) as) ∧
    (∀ (parse : Parser) (reads others : List ReadCandidate) (other : Project),
      Environment.resolve parse config root reads = .ok project.environment →
      Environment.resolve parse config root others = .ok other.environment →
      other.config.fallbackAlias = project.config.fallbackAlias →
      List.Forall₂ SpelledAlike (reads.flatMap (·.routes parse config)) (others.flatMap (·.routes parse config)) →
      aliasFor other mapper controller = aliasFor project mapper controller) := by
  refine ⟨?_, ?_, ?_⟩
  · intro parse reads resolved as
    exact aliasFor_eq_iff resolved mapper controller as
  · intro host told scanned
    obtain ⟨candidates, earlier, listed, resolved⟩ := Project.resolve_of_scan scanned
    exact ⟨candidates, earlier, listed, aliasFor_eq_iff resolved mapper controller⟩
  · intro parse reads others other resolved otherResolved fallback alike
    rw [aliasFor_eq resolved, aliasFor_eq otherResolved, fallback, funext (firstAlias?_congr alike)]

/-- The key of a controller goes before the same key behind a slash, also where its route comes later and
is written in a roundabout way. -/
theorem alias_of_roundabout_route :
    ∃ env other, Environment.resolve Script.parser { strategy := .textual } "."
        [⟨⟨"a.ts", "a.ts", 90⟩, .ok "[\x7b path: \"/admin/users\", controllerAs: \"rooted\" \x7d]"⟩,
          ⟨⟨"b.ts", "b.ts", 90⟩, .ok "[\x7b path: \"./admin//x/../users/\", controllerAs: \"own\" \x7d]"⟩] =
        .ok env ∧
      Environment.resolve Script.parser { strategy := .textual } "."
        [⟨⟨"a.ts", "a.ts", 90⟩, .ok "[\x7b path: \"/admin/./users\", controllerAs: \"rooted\" \x7d]"⟩,
          ⟨⟨"b.ts", "b.ts", 90⟩, .ok "[\x7b path: \"admin/users\", controllerAs: \"own\" \x7d]"⟩] =
        .ok other ∧
      aliasFor ⟨{}, env⟩ ⟨⟨"src/app/controllers", ".controller.ts"⟩, ⟨"src/app/views", ".html"⟩⟩
        "src/app/controllers/admin/users.controller.ts" = "own" ∧
      aliasFor ⟨{}, other⟩ ⟨⟨"src/app/controllers", ".controller.ts"⟩, ⟨"src/app/views", ".html"⟩⟩
        "src/app/controllers/admin/users.controller.ts" = "own" := by
  obtain ⟨env, resolved⟩ : ∃ env, Environment.resolve Script.parser { strategy := .textual } "."
      [⟨⟨"a.ts", "a.ts", 90⟩, .ok "[\x7b path: \"/admin/users\", controllerAs: \"rooted\" \x7d]"⟩,
        ⟨⟨"b.ts", "b.ts", 90⟩, .ok "[\x7b path: \"./admin//x/../users/\", controllerAs: \"own\" \x7d]"⟩] = .ok env :=
    Environment.exists_resolve_textual rfl rfl
  obtain ⟨other, otherResolved⟩ : ∃ env, Environment.resolve Script.parser { strategy := .textual } "."
      [⟨⟨"a.ts", "a.ts", 90⟩, .ok "[\x7b path: \"/admin/./users\", controllerAs: \"rooted\" \x7d]"⟩,
        ⟨⟨"b.ts", "b.ts", 90⟩, .ok "[\x7b path: \"admin/users\", controllerAs: \"own\" \x7d]"⟩] = .ok env :=
    Environment.exists_resolve_textual rfl rfl
  obtain ⟨decided, -, respelled⟩ := aliasFor_by_first_route { strategy := .textual } "." ⟨{}, env⟩
    ⟨⟨"src/app/controllers", ".controller.ts"⟩, ⟨"src/app/views", ".html"⟩⟩
    "src/app/controllers/admin/users.controller.ts"
  have found : keys ⟨⟨"src/app/controllers", ".controller.ts"⟩, ⟨"src/app/views", ".html"⟩⟩
      "src/app/controllers/admin/users.controller.ts" = ["admin/users", "/admin/users", "users"] := by
    decide +kernel
  have first : First [⟨"/admin/users", "rooted"⟩, ⟨"./admin//x/../users/", "own"⟩] "admin/users"
      ⟨"./admin//x/../users/", "own"⟩ :=
    ⟨by decide, [⟨"/admin/users", "rooted"⟩], [], rfl, by decide⟩
  have own := (decided _ _ resolved "own").mpr (found ▸ .claimed first _)
  have alike : List.Forall₂ SpelledAlike
      [⟨"/admin/users", "rooted"⟩, ⟨"./admin//x/../users/", "own"⟩]
      [⟨"/admin/./users", "rooted"⟩, ⟨"admin/users", "own"⟩] :=
    .cons ⟨normalize_eq_normalize_iff.mp (by decide), rfl⟩
      (.cons ⟨normalize_eq_normalize_iff.mp (by decide), rfl⟩ .nil)
  exact ⟨env, other, resolved, otherResolved, own,
    (respelled _ _ _ ⟨{}, other⟩ resolved otherResolved rfl alike).trans own⟩

end SeedNavigator.Templates
