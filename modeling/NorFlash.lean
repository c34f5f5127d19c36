import NorFlash.Action
import NorFlash.Artifact
import NorFlash.Binary64
import NorFlash.Build
import NorFlash.Bytes
import NorFlash.CommandLine.Arguments
import NorFlash.CommandLine.Grammar
import NorFlash.CommandLine.Help
import NorFlash.CommandLine.Program
import NorFlash.Composer
import NorFlash.Configuration.Basic
import NorFlash.Configuration.Settings
import NorFlash.Failure
import NorFlash.Fields
import NorFlash.FileTree.Basic
import NorFlash.FileTree.Errno
import NorFlash.FileTree.Lookup
import NorFlash.Geometry
import NorFlash.Image
import NorFlash.ImageFile
import NorFlash.IntelHex.Document
import NorFlash.IntelHex.Memory
import NorFlash.IntelHex.Record
import NorFlash.Layout
import NorFlash.Log
import NorFlash.Main
import NorFlash.Path
import NorFlash.Persist
import NorFlash.Proofs.Action
import NorFlash.Proofs.Bytes
import NorFlash.Proofs.TrialLog
import NorFlash.Report
import NorFlash.Schema
import NorFlash.Shell.Arithmetic
import NorFlash.Shell.Builtin
import NorFlash.Shell.Command
import NorFlash.Shell.Expansion
import NorFlash.Shell.Getopts
import NorFlash.Shell.Pattern
import NorFlash.Shell.Process
import NorFlash.Shell.Program
import NorFlash.Shell.Run
import NorFlash.Shell.Script
import NorFlash.Shell.Token
import NorFlash.Shell.Tool.Echo
import NorFlash.Shell.Tool.Files
import NorFlash.Shell.Tool.Filter
import NorFlash.Shell.Tool.Format
import NorFlash.Shell.Tool.Mode
import NorFlash.Shell.Tool.Options
import NorFlash.Shell.Tool.Test
import NorFlash.Text.Base64
import NorFlash.Text.Digit
import NorFlash.Text.IntegerLiteral
import NorFlash.Text.Lowercase
import NorFlash.Text.Numeral
import NorFlash.Text.Portion
import NorFlash.Text.Printable
import NorFlash.Text.Quoted
import NorFlash.Text.Substitution
import NorFlash.Text.Utf8
import NorFlash.TrialLog
import NorFlash.Yaml.Atom
import NorFlash.Yaml.Builder
import NorFlash.Yaml.Document
import NorFlash.Yaml.Node.Basic
import NorFlash.Yaml.Node.Reader
import NorFlash.Yaml.Object
import NorFlash.Yaml.Scalar
import NorFlash.Yaml.Slot
import NorFlash.Yaml.Source
import NorFlash.Yaml.Tag
import NorFlash.Yaml.Timestamp
import NorFlash.Yaml.Token.Basic
import NorFlash.Yaml.Token.Block
import NorFlash.Yaml.Token.Flow
import NorFlash.Yaml.Token.Lexer
import NorFlash.Yaml.Token.Property
import NorFlash.Proofs.ImageFile
import NorFlash.Proofs.Composer
import NorFlash.Proofs.FileTree.Locate
import NorFlash.Proofs.Image
import NorFlash.Proofs.IntelHex.Document
import NorFlash.Proofs.Persist.Directories
import NorFlash.Proofs.Persist.Promise
import NorFlash.Proofs.ReadBack
import NorFlash.Proofs.Composer.Lifecycle
import NorFlash.Proofs.Fit
import NorFlash.Proofs.Artifact
import NorFlash.Proofs.CommandLine.Grammar
import NorFlash.Proofs.CommandLine.MakeImage
import NorFlash.Proofs.Acceptance
import NorFlash.Proofs.Configuration.Load
import NorFlash.Proofs.CommandLine.BuildImage
import NorFlash.Proofs.Build.Conversion
import NorFlash.Proofs.ImageFile.Answer
import NorFlash.Proofs.Image.Regions
import NorFlash.Proofs.Schema.Shape
import NorFlash.Proofs.Configuration.Document
import NorFlash.Proofs.Persist.Outcome
import NorFlash.Proofs.Composer.Steps
import NorFlash.Proofs.CommandLine.Promised
import NorFlash.Proofs.CommandLine.Expecting
import NorFlash.Proofs.CommandLine.ShowLayout
import NorFlash.Proofs.CommandLine.ReadImage
import NorFlash.Proofs.CommandLine.LookAtImage
import NorFlash.Proofs.CommandLine.ComposeImage
import NorFlash.Proofs.CommandLine.ExitCode
import NorFlash.Proofs.TrialLog.Boots
import NorFlash.Proofs.CommandLine.ByConfiguration
import NorFlash.Proofs.ImageFile.Records
import NorFlash.Proofs.CommandLine.DryRun
import NorFlash.Proofs.Geometry
import NorFlash.Proofs.CommandLine.Changes
import NorFlash.Proofs.CommandLine.Readers
import NorFlash.Proofs.Text.IntegerLiteral
import NorFlash.Proofs.CommandLine.Parts
import NorFlash.Proofs.CommandLine.Request
import NorFlash.Proofs.CommandLine.Written
import NorFlash.Proofs.Text.Substitution
import NorFlash.Proofs.Text.Reference
import NorFlash.Proofs.CommandLine.Names
import NorFlash.Proofs.Configuration.Expansion
import NorFlash.Proofs.IntelHex.Stored
import NorFlash.Proofs.ImageFile.Content
import NorFlash.Proofs.CommandLine.Override
import NorFlash.Proofs.Image.Erasing
import NorFlash.Proofs.Image.Inverse
import NorFlash.Proofs.Artifact.FromFile
import NorFlash.Proofs.CommandLine.Spelling
import NorFlash.Proofs.CommandLine.Abbreviations
