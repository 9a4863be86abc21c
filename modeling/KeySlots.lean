import KeySlots.Command.Basic
import KeySlots.Key.Basic
import KeySlots.Outcome.Text
import KeySlots.Proofs.Definition.Failure
import KeySlots.Proofs.Session.Course
import KeySlots.Proofs.Slot.Store
import KeySlots.Proofs.Command.Plan
import KeySlots.Proofs.Record.Schema
import KeySlots.Proofs.Slot.Failure
import KeySlots.Proofs.Command.Course
import KeySlots.Proofs.Command.Run
import KeySlots.Proofs.Command.Calls
import KeySlots.Proofs.Command.Reach
import KeySlots.Proofs.Command.Add
import KeySlots.Proofs.Command.Outcome
import KeySlots.Proofs.Command.KeyOverride
import KeySlots.Proofs.Command.Retrieve
import KeySlots.Proofs.Text.Part
import KeySlots.Proofs.Json.Reader
import KeySlots.Proofs.Command.Fault
import KeySlots.Proofs.Command.Clear
import KeySlots.Proofs.Command.Ending
import KeySlots.Proofs.Command.Delete
import KeySlots.Proofs.Command.Repeat
import KeySlots.Proofs.Slot.Occupied
import KeySlots.Proofs.Session.Lockstep
import KeySlots.Proofs.Session.Mirrors
import KeySlots.Proofs.Command.Alike
import KeySlots.Proofs.Command.Fill
import KeySlots.Proofs.Command.Commute
import KeySlots.Proofs.Command.Occupancy
import KeySlots.Proofs.Command.Redefine
import KeySlots.Proofs.Command.Specialised
import KeySlots.Proofs.Entries
import KeySlots.Proofs.Record.Patched
import KeySlots.Proofs.Slot.Update
import KeySlots.Proofs.Slot.Table
import KeySlots.Proofs.Command.Selection
import KeySlots.Proofs.Command.Precheck
import KeySlots.Proofs.Command.Change
import KeySlots.Proofs.Slot.Compose
import KeySlots.Proofs.Definition.Join
import KeySlots.Proofs.Definition.Call
import KeySlots.Proofs.Numeral.Digits
import KeySlots.Proofs.Definition.TapDance
import KeySlots.Proofs.Key.Token
import KeySlots.Proofs.Definition.Spelling
import KeySlots.Proofs.Definition.Combo
import KeySlots.Proofs.Key.Spelling
import KeySlots.Proofs.Definition.OverrideObject
import KeySlots.Proofs.Json.Escape
import KeySlots.Proofs.Json.Printer
import KeySlots.Proofs.Outcome.Json
import KeySlots.Proofs.Record.Canonical
import KeySlots.Proofs.Definition.Compiled
import KeySlots.Proofs.Numeral.Spelling
import KeySlots.Proofs.Definition.Mask
import KeySlots.Proofs.Slot.Tidy
import KeySlots.Proofs.Slot.Vacancy
