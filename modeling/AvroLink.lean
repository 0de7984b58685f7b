import AvroLink.Cli.Run
import AvroLink.Main
import AvroLink.Proofs.Binding
import AvroLink.Proofs.Nodes
import AvroLink.Proofs.Output
import AvroLink.Proofs.ReadBack
import AvroLink.Proofs.Branches
import AvroLink.Proofs.Fixpoint
import AvroLink.Proofs.LeftOut
import AvroLink.Proofs.Replay
import AvroLink.Proofs.Limit
import AvroLink.Proofs.Renamed
import AvroLink.Proofs.Monotone
import AvroLink.Proofs.Written
import AvroLink.Proofs.Separate
import AvroLink.Proofs.Naming
import AvroLink.Proofs.Qualifier
import AvroLink.Proofs.Substitution
import AvroLink.Proofs.TypeWords
import AvroLink.Proofs.PascalCase
import AvroLink.Proofs.LiteralValue
import AvroLink.Proofs.DocComment
import AvroLink.Proofs.EnumMembers
import AvroLink.Proofs.NameGrammar
import AvroLink.Proofs.ErrorSpan
import AvroLink.Proofs.ShownRange
import AvroLink.Proofs.Arrival
import AvroLink.Proofs.Dependence
import AvroLink.Proofs.OpenRecords
import AvroLink.Proofs.RootSpelling
