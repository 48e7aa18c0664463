/-!
# Alerts

An alert tells whoever asked for a change that a part of it was not done, and why. A call that
raises alerts still succeeds.

## Main definitions

* `AlertLevel`, `AlertCode` — how grave an alert is, and its cause.
* `Alert` — a level, a code and a text; one constructor function for each cause.
-/

namespace Polyhierarchy

/-- How grave an alert is. -/
inductive AlertLevel
  | success
  | warn
  | error
  deriving DecidableEq

namespace AlertLevel

/-- The levels with their names, in order. -/
def named : List (String × AlertLevel) := [("SUCCESS", success), ("WARN", warn), ("ERROR", error)]

/-- The name of a level. -/
def name : AlertLevel → String
  | success => "SUCCESS"
  | warn => "WARN"
  | error => "ERROR"

/-- The word that a shown alert begins with. -/
def title : AlertLevel → String
  | success => "Success"
  | warn => "Warn"
  | error => "Error"

end AlertLevel

/-- Why an alert is raised. -/
inductive AlertCode
  | invalidTopicName
  | duplicateTopicName
  | wouldCreateCycle
  | invalidUrl
  | parentsUnchanged
  | synonymRequired
  deriving DecidableEq

namespace AlertCode

/-- The name of a code. -/
def name : AlertCode → String
  | invalidTopicName => "invalid_topic_name"
  | duplicateTopicName => "duplicate_topic_name"
  | wouldCreateCycle => "would_create_cycle"
  | invalidUrl => "invalid_url"
  | parentsUnchanged => "parents_unchanged"
  | synonymRequired => "synonym_required"

/-- All codes, in order. -/
def all : List AlertCode :=
  [invalidTopicName, duplicateTopicName, wouldCreateCycle, invalidUrl, parentsUnchanged,
    synonymRequired]

/-- The codes with their names, in order. -/
def named : List (String × AlertCode) := all.map fun c => (c.name, c)

end AlertCode

/-- A message about a part of a change that was not done. -/
structure Alert where
  /-- How grave it is. -/
  level : AlertLevel
  /-- Its cause. -/
  code : AlertCode
  /-- Its text. -/
  text : String
  deriving DecidableEq

namespace Alert

/-- The alert as one line. -/
def line (a : Alert) : String := a.level.title ++ ": " ++ a.text

/-- A warning. -/
def warn (code : AlertCode) (text : String) : Alert := ⟨.warn, code, text⟩

/-- A text in double quotes, whatever it holds. -/
def inQuotes (s : String) : String := "\"" ++ s ++ "\""

/-- A topic was refused as a parent, since it lies below the topic that it would become a parent
of. -/
def cycle (topic ancestor : String) : Alert :=
  warn .wouldCreateCycle <|
    inQuotes ancestor ++ " is a descendant of " ++ inQuotes topic ++
      " and cannot be added as a parent topic"

/-- A name cannot be the name of a topic. -/
def invalidTopicName (name : String) : Alert :=
  warn .invalidTopicName (inQuotes name ++ " is not a valid name")

/-- Another topic of the repository has the name. -/
def duplicateTopicName (name : String) : Alert :=
  warn .duplicateTopicName ("A topic with the name " ++ inQuotes name ++ " already exists")

/-- A text is no URL that a link can have. -/
def invalidUrl (url : String) : Alert := warn .invalidUrl ("Invalid url: " ++ url)

/-- None of the parents asked for could be taken. -/
def parentsUnchanged (topic : String) : Alert :=
  warn .parentsUnchanged <|
    inQuotes topic ++ " must have at least one valid parent topic; parents were not changed"

/-- No valid synonym was left. -/
def synonymRequired (topic : String) : Alert :=
  warn .synonymRequired (inQuotes topic ++ " needs at least one synonym")

end Alert

end Polyhierarchy
