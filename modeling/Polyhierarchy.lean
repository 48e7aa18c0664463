import Polyhierarchy.Http.Service
import Polyhierarchy.Sql.Connection
import Polyhierarchy.Sql.Transcript
import Polyhierarchy.Store.Adjacency
import Polyhierarchy.Store.Memory
import Polyhierarchy.Proofs.Paths
import Polyhierarchy.Proofs.Walk
import Polyhierarchy.Proofs.Evaluation
import Polyhierarchy.Proofs.Upkeep
import Polyhierarchy.Proofs.Coherence
import Polyhierarchy.Proofs.Lookups
import Polyhierarchy.Proofs.TopicChanges
import Polyhierarchy.Proofs.LinkChanges
import Polyhierarchy.Proofs.History
import Polyhierarchy.Proofs.Interleaving
import Polyhierarchy.Proofs.Locking
import Polyhierarchy.Proofs.LockedCalls
import Polyhierarchy.Proofs.Failures
import Polyhierarchy.Proofs.Names
import Polyhierarchy.Proofs.Searching
import Polyhierarchy.Proofs.TwoRuns
import Polyhierarchy.Proofs.Confinement
import Polyhierarchy.Proofs.ConfinedCalls
import Polyhierarchy.Proofs.Isolation
import Polyhierarchy.Proofs.PageKeys
import Polyhierarchy.Proofs.Line
import Polyhierarchy.Proofs.Leaders
import Polyhierarchy.Proofs.Batches
import Polyhierarchy.Proofs.BatchedLookups
import Polyhierarchy.Proofs.Moves
import Polyhierarchy.Proofs.Merging
import Polyhierarchy.Proofs.MemoWalk
import Polyhierarchy.Proofs.Guard
import Polyhierarchy.Proofs.SingleEdges
import Polyhierarchy.Proofs.Repair
import Polyhierarchy.Proofs.UpwardWalk
import Polyhierarchy.Proofs.Adjacency
import Polyhierarchy.Proofs.Questions
import Polyhierarchy.Proofs.Casing
import Polyhierarchy.Proofs.QueryWords
import Polyhierarchy.Proofs.VerbatimSearch
import Polyhierarchy.Proofs.Paging
import Polyhierarchy.Proofs.Numerals
import Polyhierarchy.Proofs.References
import Polyhierarchy.Proofs.Conjunction
import Polyhierarchy.Proofs.Pieces
import Polyhierarchy.Proofs.FormPairs
import Polyhierarchy.Proofs.DomainNames
import Polyhierarchy.Proofs.Addresses
import Polyhierarchy.Proofs.Hosts
import Polyhierarchy.Proofs.UrlParts
import Polyhierarchy.Proofs.WrittenUrls
import Polyhierarchy.Proofs.CanonicalForms
import Polyhierarchy.Proofs.FoundByUrl
import Polyhierarchy.Proofs.TitleRecords
import Polyhierarchy.Proofs.CachedTitles
import Polyhierarchy.Proofs.Filing
import Polyhierarchy.Proofs.NamedTopics
import Polyhierarchy.Proofs.Wildcards
import Polyhierarchy.Proofs.QueryGrammar
import Polyhierarchy.Proofs.FullText
import Polyhierarchy.Proofs.Renaming
import Polyhierarchy.Proofs.Referents
import Polyhierarchy.Proofs.NameWords
