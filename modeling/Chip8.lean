import Chip8.CommandLine.FileTree
import Chip8.Host.Scripted
import Chip8.Machine.Run
import Chip8.Main
import Chip8.Proofs.Memory.Access
import Chip8.Proofs.Instruction.Decode
import Chip8.Proofs.Machine.Step
import Chip8.Proofs.Machine.Fault
import Chip8.Proofs.Memory.Lenient
import Chip8.Proofs.Machine.Lenient
import Chip8.Proofs.Host.Film
import Chip8.Proofs.Host.Lenient
import Chip8.Proofs.Host.Clock
import Chip8.Proofs.Host.Console
import Chip8.Proofs.Host.Schedule
import Chip8.Proofs.Machine.CallStack
import Chip8.Proofs.Machine.Glyph
import Chip8.Proofs.Host.Exit
import Chip8.Proofs.Host.Limit
import Chip8.Proofs.Machine.Confinement
import Chip8.Proofs.Machine.TwelveBits
import Chip8.Proofs.Machine.Peripheral
import Chip8.Proofs.Memory.LastWrite
import Chip8.Proofs.Machine.Interleaving
import Chip8.Proofs.Machine.Random
import Chip8.Proofs.Machine.Reset
import Chip8.Proofs.Screen.Sprite
import Chip8.Proofs.Screen.Superposition
import Chip8.Proofs.Memory.Bytewise
import Chip8.Proofs.Memory.Delivery
import Chip8.Proofs.Machine.Footprint
import Chip8.Proofs.Machine.Noninterference
import Chip8.Proofs.Machine.Flag
import Chip8.Proofs.Machine.Spill
import Chip8.Proofs.Machine.Wait
import Chip8.Proofs.Terminal.Hold
import Chip8.Proofs.Text.Hex
import Chip8.Proofs.Text.Lines
import Chip8.Proofs.Memory.Dump
import Chip8.Proofs.Machine.Dump
import Chip8.Terminal.Picture
import Chip8.Proofs.Terminal.Picture
import Chip8.Proofs.Memory.Journal
import Chip8.Proofs.Machine.Journal
import Chip8.Proofs.Checked.Basic
import Chip8.Proofs.Checked.Memory
import Chip8.Proofs.Checked.Screen
import Chip8.Proofs.Checked.Run
import Chip8.Proofs.Failure.Message
import Chip8.Proofs.Host.Pace
import Chip8.Proofs.Failure.Source
import Chip8.Proofs.Instruction.Text
import Chip8.Proofs.Machine.Account
import Chip8.Proofs.Machine.Run
import Chip8.Proofs.Terminal.Colour
