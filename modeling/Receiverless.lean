import Receiverless.Layout.Source
import Receiverless.Tree.Equality
import Receiverless.Tree.Edit
import Receiverless.Draft.Shorthand
import Receiverless.Trace
import Receiverless.Pass.Run
import Receiverless.Json.Decode
import Receiverless.Settings.Load
import Receiverless.Proofs.PartOutlines
import Receiverless.Proofs.Restyling
import Receiverless.Proofs.CallClosure
import Receiverless.Proofs.PassRun
import Receiverless.Proofs.StaticCalls
import Receiverless.Proofs.SecondRun
import Receiverless.Proofs.Attribution
import Receiverless.Proofs.FieldReads
import Receiverless.Proofs.Blanking
import Receiverless.Proofs.ChangeReport
import Receiverless.Proofs.Layouts
import Receiverless.Proofs.PrintedChanges
import Receiverless.Proofs.DeclarationOrder
import Receiverless.Proofs.CallEdges
import Receiverless.Proofs.InnerMethods
import Receiverless.Proofs.Overrides
import Receiverless.Proofs.InnerCreation
import Receiverless.Proofs.LocalMethods
import Receiverless.Proofs.StaticKeyword
import Receiverless.Proofs.OperatorText
import Receiverless.Proofs.Margins
import Receiverless.Proofs.Brackets
import Receiverless.Proofs.LineEnds
import Receiverless.Proofs.JsonText
import Receiverless.Proofs.DraftScripts
import Receiverless.Proofs.ConstructorNames
import Receiverless.Proofs.SignatureTexts
