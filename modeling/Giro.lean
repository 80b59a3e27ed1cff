import Giro.CommandLine
import Giro.Http
import Giro.Ledger
import Giro.LogText
import Giro.Logging
import Giro.Main
import Giro.Proofs.Instruction.Pieces
import Giro.Proofs.Instruction.Writing
import Giro.Proofs.Binary64.Rounding
import Giro.Proofs.Amount
import Giro.Proofs.ExecutionDate
import Giro.Proofs.Settlement.Outcome
import Giro.Proofs.Settlement.Transfer
import Giro.Proofs.Settlement.Rules
import Giro.Proofs.Settlement.Forms
import Giro.Proofs.Settlement.Views
import Giro.Proofs.Settlement.Faults
import Giro.Proofs.Ledger.Accounting
import Giro.Proofs.Ledger.Independence
import Giro.Proofs.Settlement.Scheduling
import Giro.Proofs.Binary64.Nearest
import Giro.Proofs.Binary64.Value
import Giro.Proofs.Settlement.Exactness
import Giro.Proofs.Text.Number
import Giro.Proofs.Settlement.Record
import Giro.Proofs.Text.Lower
import Giro.Proofs.Instruction.Currency
import Giro.Proofs.Http.Currencies
import Giro.Proofs.Json.Depth
import Giro.Proofs.Payload.Shape
import Giro.Proofs.Payload.Sources
import Giro.Proofs.Json.Equality
import Giro.Proofs.Http.Agreement
import Giro.Proofs.Binary64.Order
import Giro.Proofs.Instruction.Faults
import Giro.Proofs.Settlement.Cover
import Giro.Proofs.Settlement.Funds
import Giro.Proofs.Instruction.Normal
import Giro.Proofs.Text.Spelling
import Giro.Proofs.Text.Upper
import Giro.Proofs.Ledger.Plain
import Giro.Proofs.Settlement.Spelling
import Giro.Proofs.Currency
import Giro.Proofs.Calendar
import Giro.Proofs.Settlement.Zones
import Giro.Proofs.Json.Syntax
import Giro.Proofs.Json.Marks
import Giro.Proofs.Text.Surrogate
import Giro.Proofs.Json.Reading
import Giro.Proofs.Json.Printing
import Giro.Proofs.CommandLine
