import WebIdl.Definitions.Visit
import WebIdl.Main
import WebIdl.Node.Writer
import WebIdl.Proofs.AttributeIndex
import WebIdl.Proofs.Declarations
import WebIdl.Proofs.Entries
import WebIdl.Proofs.Lineage
import WebIdl.Proofs.Resolution
import WebIdl.Proofs.TableByTable
import WebIdl.Proofs.MergedUnits
import WebIdl.Proofs.KeptDeclarations
import WebIdl.Proofs.Stringifiers
import WebIdl.Proofs.DraftMembers
import WebIdl.Proofs.DraftNotes
import WebIdl.Proofs.PendingCalls
import WebIdl.Proofs.ConstructionRules
import WebIdl.Proofs.Produced
import WebIdl.Proofs.SummaryFields
import WebIdl.Proofs.EventHandlers
import WebIdl.Proofs.Ancestry
import WebIdl.Proofs.Origin
import WebIdl.Proofs.UnitOrder
import WebIdl.Proofs.Constructors
import WebIdl.Proofs.Traversal
import WebIdl.Proofs.Absorbing
import WebIdl.Proofs.NamedConstructors
import WebIdl.Proofs.InheritedAttributes
import WebIdl.Proofs.ConstructorNames
import WebIdl.Proofs.WellFormedTables
import WebIdl.Proofs.SoundMembers
import WebIdl.Proofs.SoundDefinitions
import WebIdl.Proofs.JsonStrings
import WebIdl.Proofs.JsonText
import WebIdl.Proofs.NodeText
import WebIdl.Proofs.RoundTrip
import WebIdl.Proofs.UnitsInTurn
import WebIdl.Proofs.NamedFiles
import WebIdl.Proofs.TypeGrammar
import WebIdl.Proofs.JsonGrammar
import WebIdl.Proofs.TextTaken
import WebIdl.Proofs.NumbersTaken
import WebIdl.Proofs.SkippedValues
import WebIdl.Proofs.FirstValue
import WebIdl.Proofs.HandleEvent
import WebIdl.Proofs.DerivedFields
import WebIdl.Proofs.StringifierMembers
import WebIdl.Proofs.BrokenOff
import WebIdl.Proofs.Overriding
import WebIdl.Proofs.Rearranged
import WebIdl.Proofs.Interleaving
import WebIdl.Proofs.AttributeGrammar
import WebIdl.Proofs.Regrouping
import WebIdl.Proofs.ConstructorMetadata
import WebIdl.Proofs.NestedTypes
import WebIdl.Proofs.Annotations
import WebIdl.Proofs.CanonicalText
import WebIdl.Proofs.Numerals
import WebIdl.Proofs.IntegerLiterals
import WebIdl.Proofs.RangeGrammar
import WebIdl.Proofs.ListedItems
import WebIdl.Proofs.CallOrder
import WebIdl.Proofs.EvenPicks
