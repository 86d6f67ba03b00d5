import Plotline.Json.Printer
import Plotline.Text.Utf8
import Plotline.Main
import Plotline.Bytes.Sha256
import Plotline.Program.Listing
import Plotline.Program.Weight
import Plotline.Script.Document
import Plotline.Lowering.Script
import Plotline.Fitting.Program
import Plotline.Fitting.Reassembly
import Plotline.Fitting.Tier
import Plotline.Proofs.Fitting.Capacity
import Plotline.Proofs.Fitting.Reassembly
import Plotline.Proofs.Fitting.Sites
import Plotline.Proofs.Fitting.Exits
import Plotline.Proofs.Fitting.LoopVariables
import Plotline.Proofs.Fitting.Linkage
import Plotline.Proofs.Fitting.WholeBrackets
import Plotline.Proofs.Fitting.Refitting
import Plotline.Proofs.Fitting.Oversized
import Plotline.Proofs.Fitting.FlatUnits
import Plotline.Proofs.Fitting.Collisions
import Plotline.Proofs.Lowering.Calls
import Plotline.Proofs.Fitting.Resolution
import Plotline.Proofs.Delivery.Agreement
import Plotline.Proofs.Lowering.Acceptance
import Plotline.Proofs.Wire.Reading
import Plotline.Proofs.Lowering.Arithmetic
import Plotline.Proofs.Lowering.Conformance
import Plotline.Proofs.Lowering.Scopes
import Plotline.Proofs.Lowering.ConditionLoops
import Plotline.Proofs.Lowering.Temporaries
import Plotline.Proofs.Lowering.Colors
import Plotline.Proofs.Wire.BlockCount
import Plotline.Proofs.Wire.Overflow
import Plotline.Proofs.Wire.Slots
import Plotline.Proofs.Wire.RoundTrip
import Plotline.Proofs.Compile.ItemOrder
import Plotline.Proofs.Lowering.Particles
import Plotline.Proofs.Fitting.Careful
import Plotline.Proofs.Json.Numbers
import Plotline.Proofs.Json.RoundTrip
import Plotline.Proofs.Json.Records
import Plotline.Proofs.Script.RoundTrip
import Plotline.Proofs.Wire.GiveCommands
import Plotline.Proofs.Text.Lines
