import SearchRequest.Main
import SearchRequest.Proofs.Outcome
import SearchRequest.Proofs.Value.Key
import SearchRequest.Proofs.Text.Surrogate
import SearchRequest.Proofs.Query.Escape
import SearchRequest.Proofs.Query.Grammar
import SearchRequest.Proofs.Query.Tree
import SearchRequest.Proofs.Query.Reader
import SearchRequest.Proofs.Query.Walk
import SearchRequest.Proofs.Query.Held
import SearchRequest.Proofs.Query.Members
import SearchRequest.Proofs.Json.Number
import SearchRequest.Proofs.Json.Render
import SearchRequest.Proofs.Json.Reader
import SearchRequest.Proofs.Json.Encode
import SearchRequest.Proofs.Json.Parts
import SearchRequest.Proofs.Query.Batch
import SearchRequest.Proofs.Query.Sequence
import SearchRequest.Proofs.Config.Entries
import SearchRequest.Proofs.Config.Item
import SearchRequest.Proofs.Config.Document
import SearchRequest.Proofs.Config.Grammar
import SearchRequest.Proofs.Config.Spelling
import SearchRequest.Proofs.Config.Expressible
import SearchRequest.Proofs.Config.Written
import SearchRequest.Proofs.Workspace
import SearchRequest.Proofs.Logger
import SearchRequest.Proofs.Output
import SearchRequest.Proofs.Output.Run
import SearchRequest.Proofs.Command.Execute
import SearchRequest.Proofs.Command.Run
import SearchRequest.Proofs.Config.Merge
import SearchRequest.Proofs.Config.Settings
import SearchRequest.Proofs.Config.Order
import SearchRequest.Proofs.Config.Dates
import SearchRequest.Proofs.Config.Plain
import SearchRequest.Proofs.Workspace.Detours
import SearchRequest.Proofs.LogFile
import SearchRequest.Proofs.Command.Ending
import SearchRequest.Proofs.Command.Leftovers
import SearchRequest.Proofs.Config.Layers
import SearchRequest.Proofs.Yaml.Keys
import SearchRequest.Proofs.Yaml.Rounds
import SearchRequest.Proofs.Config.OwnDefaults
import SearchRequest.Proofs.Config.Location
import SearchRequest.Proofs.Config.Block
import SearchRequest.Proofs.Config.Faults
import SearchRequest.Proofs.Logger.Run
import SearchRequest.Proofs.Logger.Threshold
import SearchRequest.Proofs.Logger.Place
import SearchRequest.Proofs.Logger.Stamp
import SearchRequest.Proofs.Logger.Record
