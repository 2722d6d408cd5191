import Proctor.Text.Blank

/-!
# What a Test asks for

The spec of a Test: its source, and what is placed beside it in the Pod that runs it.
-/

namespace Proctor

/-- The language of a test source. -/
inductive Language where
  /-- A Gherkin feature file. -/
  | feature
  /-- A Groovy script. -/
  | groovy
  /-- A test in XML. -/
  | xml
  /-- A test in YAML. -/
  | yaml
  deriving DecidableEq, Repr, Inhabited

namespace Language

/-- Every language. -/
def all : List Language := [.feature, .groovy, .xml, .yaml]

/-- The name of a language. -/
def wire : Language → String
  | .feature => "feature"
  | .groovy => "groovy"
  | .xml => "xml"
  | .yaml => "yaml"

theorem mem_all (l : Language) : l ∈ all := by cases l <;> decide

theorem wire_injective {l m : Language} (h : l.wire = m.wire) : l = m := by
  revert h; cases l <;> cases m <;> decide

end Language

/-- The test source. -/
structure Source where
  /-- The name of its file. -/
  name : String
  /-- Its text. -/
  content : String := ""
  /-- Its language. -/
  language : Language := .feature
  deriving DecidableEq, Repr, Inhabited

/-- Settings of the run: a file if they have a name, else a list of dependencies. -/
structure Settings where
  /-- The name of the file, as given. -/
  name : Option String := none
  /-- The text. -/
  content : String := ""
  deriving DecidableEq, Repr, Inhabited

/-- The name of the settings file, if one is given that is not blank. -/
def Settings.fileName? (s : Settings) : Option String := s.name.bind Text.nonblank?

/-- A further file beside the source. -/
structure Resource where
  /-- The name of the file. -/
  name : String
  /-- Its text. -/
  content : String := ""
  deriving DecidableEq, Repr, Inhabited

/-- What a Test asks for. -/
structure Spec where
  /-- The test source. -/
  source : Source
  /-- Settings of the run. -/
  settings : Option Settings := none
  /-- Entries for the environment, each `KEY=VALUE`. -/
  env : List String := []
  /-- Further files. -/
  resources : List Resource := []
  /-- The name of a Secret that the run may read. -/
  secret : Option String := none
  deriving DecidableEq, Repr, Inhabited

namespace Spec

/-- What a file of a Test is there for. -/
inductive Role where
  /-- It is the test itself. -/
  | source
  /-- It holds the settings. -/
  | settings
  /-- It was asked for beside the source. -/
  | resource
  deriving DecidableEq, Repr

/-- The word for a role. -/
def Role.name : Role → String
  | .source => "source"
  | .settings => "settings"
  | .resource => "resource"

/-- A file that is mounted into the Pod. -/
structure File where
  /-- What it is there for. -/
  role : Role
  /-- Its name. -/
  name : String
  /-- Its text. -/
  content : String
  deriving DecidableEq, Repr

/-- The settings file, if the settings name one. -/
def settingsFile (s : Spec) : List File :=
  match s.settings with
  | none => []
  | some settings =>
    match settings.fileName? with
    | none => []
    | some name => [⟨.settings, name, settings.content⟩]

/-- The files of a Test: source, settings and resources. -/
def files (s : Spec) : List File :=
  ⟨.source, s.source.name, s.source.content⟩ :: s.settingsFile ++
    s.resources.map fun r => ⟨.resource, r.name, r.content⟩

end Spec

end Proctor
