import HomeBus.Config.Basic
import HomeBus.Log.Directive

/-!
# Log filters

A filter is a list of directives. Those that can be decided without looking at running code, which
name no span and compare no field, are kept apart from those that name a span or a field; a
directive that only asks for fields to be there belongs to both. Each list holds the most specific
directives first, and a later directive replaces one that differs from it in nothing but the level.
-/

namespace HomeBus.Log

namespace Directive

/-- Whether a directive can be decided from where a log line stands in the program. -/
def isStatic (d : Directive) : Bool :=
  d.span.isNone && d.fields.all fun field => field.value.isNone

/-- Whether a directive looks at spans or fields. -/
def isDynamic (d : Directive) : Bool := d.span.isSome || d.fields ≠ []

/--
Orders directives, the most specific one first: one with a longer target, with a span or with more
fields. Among equally specific ones the order of the texts decides, the last one first.
-/
def order (a b : Directive) : Ordering :=
  let width := fun (text : String) => (Utf8.ofText text).length
  let specific := (compare (a.target.map width) (b.target.map width)).then <|
    (compare a.span.isSome b.span.isSome).then <| compare a.fields.length b.fields.length
  let texts := (optionOrder compare a.target b.target).then <|
    (optionOrder compare a.span b.span).then <| List.compareLex Field.order a.fields b.fields
  (specific.then texts).swap

end Directive

/-- Puts a directive at its place, over one that has its place already. -/
def insert (d : Directive) : List Directive → List Directive
  | [] => [d]
  | e :: rest =>
    match d.order e with
    | .lt => d :: e :: rest
    | .eq => d :: rest
    | .gt => e :: insert d rest

/-- The directives of a filter, by what is needed to decide them. -/
structure Filter where
  static : List Directive
  dynamic : List Directive

namespace Filter

/-- The filter of directives in the order in which they were given. -/
def ofDirectives (directives : List Directive) : Filter :=
  let dynamic := directives.filter Directive.isDynamic
  let static := directives.filter (fun d => !d.isDynamic) ++ dynamic.filter Directive.isStatic
  ⟨static.foldl (fun sorted d => insert d sorted) [],
    dynamic.foldl (fun sorted d => insert d sorted) []⟩

/-- Reads directives between commas; empty ones do not count. -/
def ofText (text : String) : Except DirectiveFault Filter := do
  let parts := (Text.splitAt ',' text.toList).filter (· ≠ [])
  let directives ← parts.mapM fun part => Directive.ofText (String.ofList part)
  return ofDirectives directives

/-- The directives between commas. -/
def text (f : Filter) : String := ",".intercalate ((f.static ++ f.dynamic).map Directive.text)

end Filter

/-- What the environment says about logging. -/
structure Environment where
  /-- The directives meant for this program alone. -/
  program : Option String
  /-- The directives meant for every program that shares the environment. -/
  shared : Option String

/-- The directives that hold: the program's own, else the shared ones, else the configured ones.
    Models the choice in `env_filter`. -/
def Environment.directives (environment : Environment) (settings : LoggingSettings) : String :=
  (environment.program <|> environment.shared).getD settings.level

/-- The filter that holds in an environment. Models `env_filter`. -/
def filterOf (environment : Environment) (settings : LoggingSettings) : Except Error Filter :=
  let directives := environment.directives settings
  match Filter.ofText directives with
  | .ok filter => .ok filter
  | .error fault => .error (.config (.logFilter directives fault))

end HomeBus.Log
