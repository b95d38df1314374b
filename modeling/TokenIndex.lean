import TokenIndex.Main
import TokenIndex.Session
import TokenIndex.Proofs.Token
import TokenIndex.Proofs.Load.Directory
import TokenIndex.Proofs.Search
import TokenIndex.Proofs.Table.Equality
import TokenIndex.Proofs.Table.Views
import TokenIndex.Proofs.Reference.Outcome
import TokenIndex.Proofs.Session
import TokenIndex.Proofs.Settings
import TokenIndex.Proofs.Json.RoundTrip
import TokenIndex.Proofs.Percent
import TokenIndex.Proofs.Url
import TokenIndex.Proofs.Query
import TokenIndex.Exchange
import TokenIndex.Proofs.Arguments
import TokenIndex.Proofs.Client
import TokenIndex.Proofs.Answer
import TokenIndex.Proofs.Exchange.Basic
import TokenIndex.Proofs.Exchange.Lookup
import TokenIndex.Proofs.Exchange.Search
import TokenIndex.Proofs.Load.Source
import TokenIndex.Proofs.Literal.Digits
import TokenIndex.Proofs.Load.Outcome
import TokenIndex.Proofs.Label
import TokenIndex.Proofs.Escape
import TokenIndex.Proofs.Load.Path
import TokenIndex.Proofs.Shape.Valid
import TokenIndex.Proofs.Table.Scan
import TokenIndex.Proofs.Token.Canonical
import TokenIndex.Proofs.Literal.Offset
import TokenIndex.Proofs.Literal.LineEnds
import TokenIndex.Proofs.Load.Dispatch
import TokenIndex.Proofs.Load.LineEnds
import TokenIndex.Proofs.Text.Utf16
import TokenIndex.Proofs.DataFile
import TokenIndex.Proofs.Files
import TokenIndex.Proofs.Literal.JavaScript
import TokenIndex.Proofs.Load.Blame
import TokenIndex.Proofs.Shape.Defect
import TokenIndex.Proofs.DataFile.Listing
import TokenIndex.Proofs.Token.Decode
import TokenIndex.Proofs.Literal.Progress
