import AbiBindings.Abi.Decode
import AbiBindings.Abi.Document
import AbiBindings.Abi.Encode
import AbiBindings.Abi.Interface
import AbiBindings.Abi.Log
import AbiBindings.Abi.Token
import AbiBindings.Abi.Topic
import AbiBindings.Abi.Ty
import AbiBindings.Abi.TypeText
import AbiBindings.Bundled.AggregatorProxy
import AbiBindings.Bundled.ENSInterface
import AbiBindings.Bundled.Entry
import AbiBindings.Bundled.Flags
import AbiBindings.Bundled.FlagsInterface
import AbiBindings.Bundled.LinkToken
import AbiBindings.Bundled.MockV3Aggregator
import AbiBindings.Bundled.Registry
import AbiBindings.Bundled.RewardLib
import AbiBindings.Bytes.Basic
import AbiBindings.Bytes.Hex
import AbiBindings.Bytes.Rlp
import AbiBindings.Bytes.Utf8
import AbiBindings.Chain.Action
import AbiBindings.Chain.Basic
import AbiBindings.Chain.Script
import AbiBindings.CommandLine.Command
import AbiBindings.CommandLine.Options
import AbiBindings.CommandLine.Run
import AbiBindings.Config
import AbiBindings.Contract
import AbiBindings.Decimal.Shortest
import AbiBindings.Error
import AbiBindings.Files.Path
import AbiBindings.Files.Tree
import AbiBindings.Generate.Module
import AbiBindings.Generate.Names
import AbiBindings.Generate.Run
import AbiBindings.Generate.Text
import AbiBindings.Json.Basic
import AbiBindings.Json.Number
import AbiBindings.Json.Printer
import AbiBindings.Json.Reader
import AbiBindings.Json.Token
import AbiBindings.Keccak
import AbiBindings.Logging.Filter
import AbiBindings.Main
import AbiBindings.Metadata
import AbiBindings.Node
import AbiBindings.Outline.Basic
import AbiBindings.Outline.Document
import AbiBindings.Proofs.Stream.Channel
import AbiBindings.Rpc.Answers
import AbiBindings.Rpc.Basic
import AbiBindings.Rpc.Url
import AbiBindings.Rpc.Value
import AbiBindings.Settings.Basic
import AbiBindings.Settings.FromJson
import AbiBindings.Settings.Toml.Document
import AbiBindings.Settings.Toml.Scalar
import AbiBindings.Settings.Toml.Text
import AbiBindings.Settings.Toml.Value
import AbiBindings.Stream.Channel
import AbiBindings.Stream.Iterator
import AbiBindings.Stream.Link
import AbiBindings.Stream.Relay
import AbiBindings.Stream.Watch
import AbiBindings.Text.Case
import AbiBindings.Text.Classes
import AbiBindings.Text.Digits
import AbiBindings.Text.Letters
import AbiBindings.Text.Quoted
import AbiBindings.Text.Words
import AbiBindings.Typed.Binding
import AbiBindings.Typed.Shape
import AbiBindings.Wire.Abi
import AbiBindings.Wire.Basic
import AbiBindings.Wire.Chain
import AbiBindings.Wire.Typed
import AbiBindings.Proofs.Stream.Feed
import AbiBindings.Proofs.Stream.News
import AbiBindings.Proofs.Stream.Decoding
import AbiBindings.Proofs.Stream.Reading
import AbiBindings.Proofs.Stream.IteratorRuns
import AbiBindings.Proofs.Stream.Feeder
import AbiBindings.Proofs.Stream.Terminal
import AbiBindings.Proofs.Stream.Turns
import AbiBindings.Proofs.Stream.Delivery
import AbiBindings.Proofs.Stream.WatchRound
import AbiBindings.Proofs.Stream.Watching
import AbiBindings.Proofs.Stream.WatchDelivery
import AbiBindings.Proofs.Stream.Agreement
import AbiBindings.Proofs.Stream.Listening
import AbiBindings.Proofs.Stream.WatchRuns
import AbiBindings.Proofs.Stream.Requests
import AbiBindings.Proofs.Abi.Words
import AbiBindings.Proofs.Abi.Values
import AbiBindings.Proofs.Abi.RoundTrip
import AbiBindings.Proofs.Abi.Injective
import AbiBindings.Proofs.Stream.Refusal
import AbiBindings.Proofs.Stream.Relay
import AbiBindings.Proofs.Stream.Relaying
import AbiBindings.Proofs.Contract.Calls
import AbiBindings.Proofs.Json.RoundTrip
import AbiBindings.Proofs.Keccak
import AbiBindings.Proofs.Abi.Sizes
import AbiBindings.Proofs.Typed.Values
import AbiBindings.Proofs.Abi.Logs
import AbiBindings.Proofs.Typed.Bindings
import AbiBindings.Proofs.Bundled
import AbiBindings.Proofs.Contract.Lookup
import AbiBindings.Proofs.Contract.Occurrences
import AbiBindings.Proofs.Contract.Filters
import AbiBindings.Proofs.Contract.Transactions
import AbiBindings.Proofs.Contract.Deployments
import AbiBindings.Proofs.Typed.Narrow
import AbiBindings.Proofs.Bundled.Narrow
import AbiBindings.Proofs.Json.Normal
import AbiBindings.Proofs.Json.Numbers
import AbiBindings.Proofs.Decimal.Doubles
import AbiBindings.Proofs.Decimal.Shortest
import AbiBindings.Proofs.Json.Scaling
import AbiBindings.Proofs.Json.Literals
import AbiBindings.Proofs.Json.Rereading
import AbiBindings.Proofs.Abi.Documents
import AbiBindings.Proofs.Abi.TypeText
import AbiBindings.Proofs.Outline.Types
import AbiBindings.Proofs.Outline.Parameters
import AbiBindings.Proofs.Outline.Entries
import AbiBindings.Proofs.Outline.Interface
import AbiBindings.Proofs.Outline.Printed
import AbiBindings.Proofs.Outline.Signatures
import AbiBindings.Proofs.Generate.Names
import AbiBindings.Proofs.Generate.Definitions
import AbiBindings.Proofs.Generate.Targets
import AbiBindings.Proofs.Generate.Binding
import AbiBindings.Proofs.Generate.Regeneration
import AbiBindings.Proofs.Abi.Reading
import AbiBindings.Proofs.Abi.InPlace
import AbiBindings.Proofs.Abi.Topics
import AbiBindings.Proofs.Typed.Acceptance
import AbiBindings.Proofs.Bundled.Logs
import AbiBindings.Proofs.Contract.Outputs
import AbiBindings.Proofs.Generate.Hashed
import AbiBindings.Proofs.Outline.Checked
import AbiBindings.Proofs.Text.Words
import AbiBindings.Proofs.Generate.Arguments
import AbiBindings.Proofs.Generate.Identifiers
import AbiBindings.Proofs.Generate.Types
import AbiBindings.Proofs.Files.Tree
import AbiBindings.Proofs.Generate.Writing
import AbiBindings.Proofs.Text.Lower
import AbiBindings.Proofs.Bytes.Hex
import AbiBindings.Proofs.Generate.Code
import AbiBindings.Proofs.Node.Connection
import AbiBindings.Proofs.Settings.Overrides
import AbiBindings.Proofs.Settings.Sections
import AbiBindings.Proofs.Settings.Layers
import AbiBindings.Proofs.Text.Snake
import AbiBindings.Proofs.Stream.Unspent
import AbiBindings.Proofs.Stream.Rounds
import AbiBindings.Proofs.Stream.WatchRounds
