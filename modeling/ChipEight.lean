import ChipEight.Machine.History
import ChipEight.Main
import ChipEight.Proofs.CallStack
import ChipEight.Proofs.Disassembly
import ChipEight.Proofs.Faults
import ChipEight.Proofs.HexListing
import ChipEight.Proofs.Inputs
import ChipEight.Proofs.KeyWait
import ChipEight.Proofs.Keys.Grammar
import ChipEight.Proofs.Keys.Script
import ChipEight.Proofs.Screen
import ChipEight.Proofs.Session
import ChipEight.Proofs.Standstill
import ChipEight.Proofs.Text.Numeral
import ChipEight.Proofs.Text.Pieces
import ChipEight.Proofs.Unobserved
import ChipEight.Proofs.Writes
import ChipEight.Proofs.Footprint
import ChipEight.Proofs.Timers
import ChipEight.Proofs.Chance
import ChipEight.Proofs.Narration
import ChipEight.Proofs.Listing
import ChipEight.Proofs.Drawing
import ChipEight.Proofs.Sprites
import ChipEight.Proofs.CommandLine
import ChipEight.Proofs.Flags
import ChipEight.Proofs.Transfers
import ChipEight.Proofs.Glyphs
import ChipEight.Proofs.Bytewise
import ChipEight.Proofs.Keys.Pressed
import ChipEight.Proofs.Rendering
