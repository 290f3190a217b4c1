import Chip8.Text.Hex
import Chip8.Text.Printable
import Chip8.Text.Quoted
import Chip8.Decimal.Shortest
import Chip8.Setting
import Chip8.Error
import Chip8.ErrorReport
import Chip8.Width
import Chip8.Dialect
import Chip8.Fault
import Chip8.ByteData
import Chip8.Memory
import Chip8.Font
import Chip8.CallStack
import Chip8.Keypad
import Chip8.Bitmap
import Chip8.Resolution
import Chip8.Screen
import Chip8.Screen.Sprite
import Chip8.Screen.Scroll
import Chip8.RandomKey
import Chip8.Instruction
import Chip8.Instruction.Encoding
import Chip8.Instruction.Operation
import Chip8.Instruction.Mnemonic
import Chip8.Machine
import Chip8.Machine.Execute
import Chip8.Machine.Cycle
import Chip8.Machine.Access
import Chip8.Machine.Call
import Chip8.Machine.Report
import Chip8.Listing
import Chip8.Palette
import Chip8.Picture
import Chip8.Log
import Chip8.Session
import Chip8.Session.Call
import Chip8.Proofs.CallStack
import Chip8.Proofs.Control
import Chip8.Proofs.Step
import Chip8.Proofs.Faults
import Chip8.Proofs.Invariant
import Chip8.Proofs.RunMode
import Chip8.Proofs.Trace
import Chip8.Proofs.Devices
import Chip8.Proofs.Operands
import Chip8.Proofs.FlagRegisters
import Chip8.Proofs.Bounds
import Chip8.Proofs.Subroutine
import Chip8.Proofs.Drawing
import Chip8.Proofs.Redrawing
import Chip8.Proofs.Scrolling
import Chip8.Proofs.ActiveScreen
import Chip8.Proofs.Session.Ensures
import Chip8.Proofs.Session.Played
import Chip8.Proofs.Session.Invariant
import Chip8.Proofs.Dependence
import Chip8.Proofs.HiddenParts
import Chip8.Proofs.Timers
import Chip8.Proofs.RandomDraws
import Chip8.Proofs.DialectPoints
import Chip8.Proofs.Locality
import Chip8.Proofs.Encoding
import Chip8.Proofs.Patterns
import Chip8.Proofs.Frame
import Chip8.Proofs.Arithmetic
import Chip8.Proofs.Transfer
import Chip8.Proofs.Text.Hex
import Chip8.Proofs.Mnemonic
import Chip8.Proofs.Listing
import Chip8.Proofs.LoadedListing
import Chip8.Proofs.KeyWait
import Chip8.Proofs.Diagnosis
import Chip8.Proofs.Session.Batch
import Chip8.Proofs.Session.LastingFault
import Chip8.Proofs.Session.Alike
import Chip8.Proofs.Session.PowerCycle
import Chip8.Proofs.Session.Refusal
import Chip8.Proofs.Loading
import Chip8.Proofs.RangeChecks
import Chip8.Proofs.StackRefinement
import Chip8.Proofs.ScrolledDrawing
import Chip8.Proofs.ExecutedNumbers
import Chip8.Proofs.RegisterLine
import Chip8.Proofs.Pictures
import Chip8.Proofs.Session.Reporting
