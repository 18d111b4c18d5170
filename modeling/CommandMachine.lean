import CommandMachine.Main
import CommandMachine.Proofs.Capacity
import CommandMachine.Proofs.Confinement
import CommandMachine.Proofs.Containment
import CommandMachine.Proofs.Decoding
import CommandMachine.Proofs.Host.Deadlock
import CommandMachine.Proofs.Macros
import CommandMachine.Proofs.Memory.Session
import CommandMachine.Proofs.Schedules
import CommandMachine.Proofs.Sweeping
import CommandMachine.Proofs.Faults
import CommandMachine.Proofs.Layout
import CommandMachine.Proofs.Host.Unknown
import CommandMachine.Proofs.Linking
import CommandMachine.Proofs.Bytes
import CommandMachine.Proofs.Causes
import CommandMachine.Proofs.Attempts
import CommandMachine.Proofs.StraightLine
import CommandMachine.Proofs.Budget
import CommandMachine.Proofs.Eviction
import CommandMachine.Proofs.Returns
import CommandMachine.Proofs.Sufficiency
import CommandMachine.Proofs.Memory.Filling
import CommandMachine.Proofs.Substitution
import CommandMachine.Proofs.Literals
import CommandMachine.Proofs.Stack.Repetition
import CommandMachine.Proofs.Stack.Window
import CommandMachine.Proofs.Integers
import CommandMachine.Proofs.Unset
import CommandMachine.Proofs.Host.Circles
import CommandMachine.Proofs.Period
import CommandMachine.Proofs.Unterminated
