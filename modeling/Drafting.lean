import Drafting.Call
import Drafting.Command.Lexicon
import Drafting.Command.Parse
import Drafting.Command.Scan
import Drafting.Config
import Drafting.Decimal.Binary
import Drafting.Decimal.Format
import Drafting.Decimal.Shortest
import Drafting.Drawing
import Drafting.Fault
import Drafting.Files
import Drafting.Geometry
import Drafting.Machine
import Drafting.Proofs.Admission
import Drafting.Proofs.Colour
import Drafting.Proofs.Connection
import Drafting.Proofs.Depth
import Drafting.Proofs.Finite
import Drafting.Proofs.Frame
import Drafting.Proofs.Hatch
import Drafting.Proofs.Label
import Drafting.Proofs.Layers
import Drafting.Proofs.Leftovers
import Drafting.Proofs.Library
import Drafting.Proofs.Marks
import Drafting.Proofs.Numerals
import Drafting.Proofs.Radius
import Drafting.Proofs.Record
import Drafting.Proofs.Sent
import Drafting.Proofs.Sentences
import Drafting.Proofs.Settings
import Drafting.Proofs.Sign
import Drafting.Proofs.Tally
import Drafting.Proofs.Validation
import Drafting.Host.Basic
import Drafting.Host.Request
import Drafting.Link.Connect
import Drafting.Link.Draw
import Drafting.Main
import Drafting.Server.Handlers
import Drafting.Server.Launch
import Drafting.Server.Rpc
import Drafting.Server.Schema
import Drafting.Server.Tools
import Drafting.Service
import Drafting.Session
import Drafting.Station
import Drafting.Text.Case
import Drafting.Text.CaseData
import Drafting.Text.ClassData
import Drafting.Text.Classes
import Drafting.Text.RangeTable
import Drafting.Text.Utf8
import Drafting.Value.Basic
import Drafting.Value.Json
import Drafting.Value.Ops
import Drafting.Value.Text
