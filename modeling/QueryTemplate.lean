import QueryTemplate.Session
import QueryTemplate.Template.Encoding
import QueryTemplate.Template.Grammar
import QueryTemplate.Proofs.Derivation
import QueryTemplate.Proofs.Scan
import QueryTemplate.Proofs.Printing
import QueryTemplate.Proofs.Meaning
import QueryTemplate.Proofs.Decoding
import QueryTemplate.Proofs.Shape
import QueryTemplate.Proofs.Lookups
import QueryTemplate.Proofs.StoreRuns
import QueryTemplate.Proofs.Transparency
import QueryTemplate.Proofs.Arrivals
import QueryTemplate.Proofs.Validation
import QueryTemplate.Proofs.PartialReading
import QueryTemplate.Proofs.Layout
import QueryTemplate.Proofs.Concatenation
import QueryTemplate.Proofs.Accounting
import QueryTemplate.Proofs.Emission
import QueryTemplate.Proofs.Wildcards
import QueryTemplate.Proofs.Omission
import QueryTemplate.Proofs.Policies
import QueryTemplate.Proofs.Respelling
import QueryTemplate.Proofs.Decorations
import QueryTemplate.Proofs.Stars
import QueryTemplate.Proofs.RenderAccounts
import QueryTemplate.Proofs.Lookahead
import QueryTemplate.Proofs.Dangling
import QueryTemplate.Proofs.LastWrites
import QueryTemplate.Proofs.LetterCase
import QueryTemplate.Proofs.Verbatim
