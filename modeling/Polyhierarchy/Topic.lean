import Polyhierarchy.Identifier
import Polyhierarchy.Time.Instant
import Polyhierarchy.Text.Case
/-!
# Topics and repositories

A topic has synonyms, which are names in some locale, and may have a time range. The name that it
is shown under is derived from both: a label of the time range, if it has one, and the synonym for
English, or the first synonym if there is none for English.

## Main definitions

* `Synonyms` — names with their locales, in order.
* `TimeLabel`, `TimeRange` — a time range and how it labels a name.
* `deriveName` — the name that synonyms and a time range give.
* `Topic` — the row of a topic; `Topic.withSynonyms`, `Topic.withTimeRange` keep its name derived.
* `Repository` — the row of a repository, which owns one hierarchy with one root.
-/

namespace Polyhierarchy

/-! ### Synonyms -/

/-- The locale that names are derived for. -/
def defaultLocale : String := "en"

/-- A name in a locale. -/
structure Synonym where
  /-- The locale. -/
  locale : String
  /-- The name. -/
  name : String
  deriving DecidableEq

/-- A name in the default locale. -/
def Synonym.ofName (name : String) : Synonym := ⟨defaultLocale, name⟩

/-- The synonyms of a topic, in order. -/
structure Synonyms where
  /-- The synonyms in order. -/
  toList : List Synonym
  deriving DecidableEq

namespace Synonyms

instance : EmptyCollection Synonyms := ⟨⟨[]⟩⟩

/-- One synonym in the default locale. -/
def ofName (name : String) : Synonyms := ⟨[.ofName name]⟩

/-- The names in order. -/
def names (s : Synonyms) : List String := s.toList.map (·.name)

/-- The name to show for a locale: the first in that locale, else the first of all. -/
def displayName? (s : Synonyms) (locale : String) : Option String :=
  ((s.toList.find? fun x => x.locale == locale) <|> s.toList.head?).map (·.name)

/-- Whether a name occurs, in any locale. -/
def containsName (s : Synonyms) (name : String) : Bool := s.toList.any fun x => x.name == name

/-- Appends a synonym unless its name occurs already. -/
def push (s : Synonyms) (x : Synonym) : Synonyms :=
  if s.containsName x.name then s else ⟨s.toList ++ [x]⟩

/-- Appends the synonyms of a list one by one, each unless its name occurs already. -/
def pushAll (s : Synonyms) (xs : List Synonym) : Synonyms := xs.foldl push s

end Synonyms

/-! ### Time ranges -/

/-- How a time range labels a name. -/
inductive TimeLabel
  | none
  | startYear
  | startYearMonth
  deriving DecidableEq

namespace TimeLabel

/-- The name of a kind of label. -/
def name : TimeLabel → String
  | none => "NONE"
  | startYear => "START_YEAR"
  | startYearMonth => "START_YEAR_MONTH"

instance : ToString TimeLabel := ⟨name⟩

/-- The kind of label with a given name, in any letter case; no name is no label. -/
def parse? (s : String) : Option TimeLabel :=
  let raised := Text.toUpper s.toList
  if raised = "NONE".toList ∨ raised = [] then some .none
  else if raised = "START_YEAR".toList then some .startYear
  else if raised = "START_YEAR_MONTH".toList then some .startYearMonth
  else Option.none

end TimeLabel

/-- The time that a topic is about. -/
structure TimeRange where
  /-- The beginning. -/
  startsAt : Instant
  /-- The end, if there is one. -/
  endsAt : Option Instant
  /-- How the range labels a name. -/
  label : TimeLabel
  deriving DecidableEq

/-- The text that a time range puts in front of a name. -/
def TimeRange.labelText? (r : TimeRange) : Option String :=
  match r.label with
  | .none => none
  | .startYear => some r.startsAt.yearText
  | .startYearMonth => some r.startsAt.monthText

/-- The name that synonyms and a time range give. -/
def deriveName (synonyms : Synonyms) (range : Option TimeRange) : String :=
  let base := (synonyms.displayName? defaultLocale).getD ""
  match range.bind TimeRange.labelText? with
  | some label => label ++ " " ++ base
  | none => base

/-! ### Rows -/

/-- The row of a topic. -/
structure Topic where
  /-- The identifier. -/
  id : TopicId
  /-- The repository that owns the topic. -/
  repository : RepositoryId
  /-- The name that the topic is shown under. -/
  name : String
  /-- The synonyms. -/
  synonyms : Synonyms
  /-- A description, if there is one. -/
  description : Option String
  /-- The time that the topic is about, if any. -/
  timeRange : Option TimeRange
  /-- Whether this is the root of its repository. -/
  isRoot : Bool
  /-- When the topic was created. -/
  createdAt : Instant
  deriving DecidableEq

namespace Topic

/-- A new topic that is no root, with its name derived. -/
def new (id : TopicId) (repository : RepositoryId) (synonyms : Synonyms)
    (description : Option String) (now : Instant) : Topic :=
  ⟨id, repository, deriveName synonyms none, synonyms, description, none, false, now⟩

/-- The name of the root topic of a new repository. -/
def rootName : String := "Everything"

/-- The root topic of a new repository. -/
def newRoot (id : TopicId) (repository : RepositoryId) (now : Instant) : Topic :=
  { new id repository (.ofName rootName) none now with isRoot := true }

/-- The topic with its name derived anew. -/
def refreshName (t : Topic) : Topic := { t with name := deriveName t.synonyms t.timeRange }

/-- The topic with other synonyms, and its name derived anew. -/
def withSynonyms (t : Topic) (synonyms : Synonyms) : Topic :=
  { t with synonyms := synonyms }.refreshName

/-- The topic with another time range, and its name derived anew. -/
def withTimeRange (t : Topic) (range : Option TimeRange) : Topic :=
  { t with timeRange := range }.refreshName

end Topic

/-- The row of a repository. -/
structure Repository where
  /-- The identifier. -/
  id : RepositoryId
  /-- The name. -/
  name : String
  /-- The root of its hierarchy. -/
  rootTopic : TopicId
  /-- When the repository was created. -/
  createdAt : Instant
  deriving DecidableEq

end Polyhierarchy
