import Builtins.Proofs.Binary.Folding
import Builtins.Proofs.Binary.Lines
import Builtins.Proofs.Binary.Token
import Builtins.Proofs.Environment.Snapshot
import Builtins.Proofs.Function.Dispatch
import Builtins.Proofs.Function.Installation
import Builtins.Proofs.Run.Access
import Builtins.Proofs.Run.Independence
import Builtins.Proofs.Run.Loading
import Builtins.Proofs.Xml.ByteOrder
import Builtins.Proofs.Xml.Nesting
import Builtins.Proofs.Xml.Paged
import Builtins.Proofs.Xml.Queries
import Builtins.Proofs.Xml.Resolving
import Builtins.Proofs.Xml.UnifiedReading
import Builtins.Run
import Builtins.Summary
