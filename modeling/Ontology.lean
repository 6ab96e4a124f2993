import Ontology.Reading.Definition
import Ontology.Scenario.Runner
import Ontology.Proofs.Action.Reordering
import Ontology.Proofs.Action.ParameterIds
import Ontology.Proofs.Action.References
import Ontology.Proofs.Action.SpellingOut
import Ontology.Proofs.Inheritance.Requirements
import Ontology.Proofs.Session.Restrictions
import Ontology.Proofs.Registry.LastWrite
import Ontology.Proofs.Inheritance.Inclusion
import Ontology.Proofs.Action.Stability
import Ontology.Proofs.Inheritance.Closedness
import Ontology.Proofs.Session.Interfaces
import Ontology.Proofs.Action.StaticValues
import Ontology.Proofs.Action.Prefills
import Ontology.Proofs.Action.Requiredness
import Ontology.Proofs.Action.TargetRoles
import Ontology.Proofs.Action.EntityReferences
import Ontology.Proofs.Action.MirroredComparisons
import Ontology.Proofs.Action.GeneratedParameters
import Ontology.Proofs.Action.PropertyBindings
import Ontology.Proofs.Action.CanonicalForm
import Ontology.Proofs.Object.Repetitions
import Ontology.Proofs.Registry.References
import Ontology.Proofs.Session.Names
import Ontology.Proofs.Emission.Dumps
import Ontology.Proofs.Action.FixedValues
import Ontology.Proofs.Action.GivenTypes
import Ontology.Proofs.Action.ObjectReads
import Ontology.Proofs.Action.IntegerRanges
import Ontology.Proofs.Action.ValueBounds
import Ontology.Proofs.Action.LengthBounds
import Ontology.Proofs.Action.FormContents
import Ontology.Proofs.Session.RelaxedNames
import Ontology.Proofs.Inheritance.InlineProperties
import Ontology.Proofs.Scenario.PartialRegistration
import Ontology.Proofs.Action.Orderings
import Ontology.Proofs.Session.DefaultNames
import Ontology.Proofs.Inheritance.Walks
