import QueryTemplate.Main
import QueryTemplate.Proofs.BracePairs
import QueryTemplate.Proofs.Collections
import QueryTemplate.Proofs.CommandLine
import QueryTemplate.Proofs.Conservation
import QueryTemplate.Proofs.Containment
import QueryTemplate.Proofs.Escaping
import QueryTemplate.Proofs.Frame
import QueryTemplate.Proofs.Lines
import QueryTemplate.Proofs.Planning
import QueryTemplate.Proofs.QuotedTemplate
import QueryTemplate.Proofs.Saturation
import QueryTemplate.Proofs.Scanning
import QueryTemplate.Proofs.SkipToken
import QueryTemplate.Proofs.Spacing
