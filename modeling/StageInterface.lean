import StageInterface.Config.Written
import StageInterface.Generation
import StageInterface.Lexeme.Inspected
import StageInterface.Vocabulary
import StageInterface.Proofs.BindingSizes
import StageInterface.Proofs.Block.Leaves
import StageInterface.Proofs.DefinitionOrder.Conflicts
import StageInterface.Proofs.GeometryDependence
import StageInterface.Proofs.Interleaving
import StageInterface.Proofs.Layout.PolicyOrder
import StageInterface.Proofs.Layout.Saturation
import StageInterface.Proofs.Layout.Silence
import StageInterface.Proofs.MemberCalls
import StageInterface.Proofs.Rendering.Decoding
import StageInterface.Proofs.Selection
import StageInterface.Proofs.ConflictWarnings
import StageInterface.Proofs.RegistrationOrder
import StageInterface.Proofs.BuiltinNames
import StageInterface.Proofs.Layout.ScopeDependence
import StageInterface.Proofs.Block.RegisteredStructures
import StageInterface.Proofs.AcceptedMembers
import StageInterface.Proofs.Layout.MemberPut
import StageInterface.Proofs.Rendering.SectionComments
import StageInterface.Proofs.Layout.Regularity
import StageInterface.Proofs.WrittenSettings
