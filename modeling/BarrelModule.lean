import BarrelModule.FileSystem.Listing
import BarrelModule.FileSystem.Operations
import BarrelModule.Main
import BarrelModule.Proofs.Build.Addition
import BarrelModule.Proofs.Build.Atomicity
import BarrelModule.Proofs.Build.Imports
import BarrelModule.Proofs.Build.Spelling
import BarrelModule.Proofs.Discovery.Exact
import BarrelModule.Proofs.FileSystem.Operations
import BarrelModule.Proofs.Path.Below
import BarrelModule.Proofs.Path.Climbing
import BarrelModule.Proofs.Build.Relocation
import BarrelModule.Proofs.Build.Directory
import BarrelModule.Proofs.Build.Repetition
import BarrelModule.Proofs.Barrel.Length
import BarrelModule.Proofs.Build.SelfImport
import BarrelModule.Proofs.Build.Output
import BarrelModule.Proofs.Barrel.Duplicates
import BarrelModule.Proofs.Build.Refusal
import BarrelModule.Proofs.Barrel.Decoding
import BarrelModule.Proofs.ImportName.Concatenation
import BarrelModule.Proofs.ImportName.Derivation
import BarrelModule.Proofs.ImportName.Identifier
import BarrelModule.Proofs.Text.Runs
import BarrelModule.Proofs.Text.Boundary
import BarrelModule.Proofs.Build.Subdirectory
import BarrelModule.Proofs.Build.Stages
import BarrelModule.Proofs.Program.Logging
import BarrelModule.Proofs.Program.Streams
import BarrelModule.Proofs.ImportName.Bytes
import BarrelModule.Proofs.Barrel.ClosedForm
import BarrelModule.Proofs.Barrel.Problems
import BarrelModule.Proofs.CodeWriter.Operations
import BarrelModule.Proofs.Build.Specifier
import BarrelModule.Proofs.Build.Naming
import BarrelModule.Proofs.Build.Distinctness
import BarrelModule.Proofs.Program.Account
import BarrelModule.Proofs.CommandLine.Request
