import CodeAtlas.CommandLine.Argument
import CodeAtlas.CommandLine.Execute
import CodeAtlas.CommandLine.Request
import CodeAtlas.Config.Basic
import CodeAtlas.Config.Decode
import CodeAtlas.Config.Load
import CodeAtlas.Decimal.Binary
import CodeAtlas.Decimal.Layout
import CodeAtlas.Decimal.Shortest
import CodeAtlas.Discovery.Glob
import CodeAtlas.Discovery.Ignore
import CodeAtlas.Discovery.IgnoreGlob
import CodeAtlas.Discovery.Resolve
import CodeAtlas.Enrichment.Basic
import CodeAtlas.Enrichment.Enricher
import CodeAtlas.Enrichment.Reply
import CodeAtlas.Extraction
import CodeAtlas.Fault
import CodeAtlas.FileTree
import CodeAtlas.Index.Builder
import CodeAtlas.Index.Entry
import CodeAtlas.Index.Flat
import CodeAtlas.Index.Similarity
import CodeAtlas.Item.Basic
import CodeAtlas.Item.Construct
import CodeAtlas.Item.Json
import CodeAtlas.Item.Timestamp
import CodeAtlas.Json.Printer
import CodeAtlas.Json.Reader
import CodeAtlas.Json.Record
import CodeAtlas.Json.Value
import CodeAtlas.Language
import CodeAtlas.Main
import CodeAtlas.Outline.Block
import CodeAtlas.Outline.Comment
import CodeAtlas.Outline.Go
import CodeAtlas.Outline.Heritage
import CodeAtlas.Outline.Java
import CodeAtlas.Outline.Python
import CodeAtlas.Outline.Scan
import CodeAtlas.Outline.TypeScript
import CodeAtlas.ParseFile
import CodeAtlas.Path
import CodeAtlas.Pattern
import CodeAtlas.Pipeline.Describing
import CodeAtlas.Pipeline.Embedding
import CodeAtlas.Pipeline.Fault
import CodeAtlas.Pipeline.Indexing
import CodeAtlas.Pipeline.Linking
import CodeAtlas.Pipeline.Parsing
import CodeAtlas.Pipeline.Progress
import CodeAtlas.Pipeline.Results
import CodeAtlas.Pipeline.Run
import CodeAtlas.Pipeline.Services
import CodeAtlas.Pipeline.Stage
import CodeAtlas.Pipeline.Standard
import CodeAtlas.Provider.Basic
import CodeAtlas.Provider.Configured
import CodeAtlas.Provider.Http
import CodeAtlas.Provider.Ollama
import CodeAtlas.Provider.OpenAi
import CodeAtlas.Provider.Script
import CodeAtlas.Provider.Url
import CodeAtlas.RuleBook
import CodeAtlas.Symbols.Basic
import CodeAtlas.Symbols.Dependencies
import CodeAtlas.Symbols.Graph
import CodeAtlas.Symbols.Supertypes
import CodeAtlas.SyntaxTree.Basic
import CodeAtlas.SyntaxTree.Construct
import CodeAtlas.SyntaxTree.Go
import CodeAtlas.SyntaxTree.Java
import CodeAtlas.SyntaxTree.Python
import CodeAtlas.SyntaxTree.TypeScript
import CodeAtlas.Text.Blank
import CodeAtlas.Text.Edges
import CodeAtlas.Text.Lines
import CodeAtlas.Text.Natural
import CodeAtlas.Text.Octets
import CodeAtlas.Text.Quoted
import CodeAtlas.Text.Uppercase
import CodeAtlas.Text.WordChar
import CodeAtlas.Toml.Reader
import CodeAtlas.Toml.Scalar
import CodeAtlas.Toml.Value
import CodeAtlas.Vectorizer
import CodeAtlas.Proofs.Pipeline.Frame
import CodeAtlas.Proofs.Pipeline.Batches
import CodeAtlas.Proofs.Pipeline.Layers
import CodeAtlas.Proofs.FileTree.Writing
import CodeAtlas.Proofs.Pipeline.Reachable
import CodeAtlas.Proofs.Path.FileName
import CodeAtlas.Proofs.Json.Legible
import CodeAtlas.Proofs.Index.Table
import CodeAtlas.Proofs.Pipeline.Saving
import CodeAtlas.Proofs.Pipeline.Preserved
import CodeAtlas.Proofs.Pipeline.StandardRun
import CodeAtlas.Proofs.Index.Building
import CodeAtlas.Proofs.Json.Scalars
import CodeAtlas.Proofs.Text.Split
import CodeAtlas.Proofs.Pipeline.Recording
import CodeAtlas.Proofs.Pipeline.EmbeddingCalls
import CodeAtlas.Proofs.Pipeline.EnrichmentCalls
import CodeAtlas.Proofs.Item.Attributes
import CodeAtlas.Proofs.Outline.Block
import CodeAtlas.Proofs.Outline.Covering
import CodeAtlas.Proofs.Outline.Groups
import CodeAtlas.Proofs.Outline.Nesting
import CodeAtlas.Proofs.Outline.Enclosing
import CodeAtlas.Proofs.Outline.Scopes
import CodeAtlas.Proofs.Json.Record
import CodeAtlas.Proofs.Text.Lines
import CodeAtlas.Proofs.Outline.Items
import CodeAtlas.Proofs.Decimal.Product
import CodeAtlas.Proofs.Json.Decimals
import CodeAtlas.Proofs.Decimal.Layout
import CodeAtlas.Proofs.Json.Singles
import CodeAtlas.Proofs.Index.Reloading
import CodeAtlas.Proofs.Float.Operations
import CodeAtlas.Proofs.Float.Packing
import CodeAtlas.Proofs.Float.Rounding
import CodeAtlas.Proofs.Float.Single
import CodeAtlas.Proofs.Index.Scaling
import CodeAtlas.Proofs.Symbols.Names
import CodeAtlas.Proofs.Symbols.Resolution
import CodeAtlas.Proofs.Index.History
import CodeAtlas.Proofs.Item.Ids
import CodeAtlas.Proofs.Outline.Taken
import CodeAtlas.Proofs.Outline.Steps
import CodeAtlas.Proofs.Outline.Order
import CodeAtlas.Proofs.Outline.Window
import CodeAtlas.Proofs.Outline.Joining
import CodeAtlas.Proofs.Symbols.Collisions
import CodeAtlas.Proofs.Json.Fields
import CodeAtlas.Proofs.Symbols.Assembly
import CodeAtlas.Proofs.Pipeline.Linking
import CodeAtlas.Proofs.Text.Octets
import CodeAtlas.Proofs.SyntaxTree.Sites
import CodeAtlas.Proofs.SyntaxTree.Walk
import CodeAtlas.Proofs.SyntaxTree.Ranges
import CodeAtlas.Proofs.SyntaxTree.Spans
import CodeAtlas.Proofs.SyntaxTree.Items
import CodeAtlas.Proofs.Float.Order
import CodeAtlas.Proofs.Index.Search
import CodeAtlas.Proofs.Vectorizer.Dimension
import CodeAtlas.Proofs.Path.Order
import CodeAtlas.Proofs.FileTree.Locating
import CodeAtlas.Proofs.Discovery.Resolve
import CodeAtlas.Proofs.Json.Integers
import CodeAtlas.Proofs.Enrichment.Reply
import CodeAtlas.Proofs.Item.Reading
import CodeAtlas.Proofs.Provider.Arrangement
import CodeAtlas.Proofs.Provider.Retries
import CodeAtlas.Proofs.Pipeline.Parsing
import CodeAtlas.Proofs.Pipeline.Progress
import CodeAtlas.Proofs.Language.Rules
import CodeAtlas.Proofs.Discovery.Supported
import CodeAtlas.Proofs.Outline.Braces
import CodeAtlas.Proofs.Outline.Parts
import CodeAtlas.Proofs.Path.Parent
import CodeAtlas.Proofs.FileTree.Changes
import CodeAtlas.Proofs.Pipeline.Output
import CodeAtlas.Proofs.Float.Nearest
import CodeAtlas.Proofs.Decimal.Nearest
import CodeAtlas.Proofs.Decimal.Doubles
import CodeAtlas.Proofs.Decimal.Restoring
import CodeAtlas.Proofs.Decimal.Shortest
import CodeAtlas.Proofs.Decimal.NearMisses
import CodeAtlas.Proofs.Decimal.Surviving
import CodeAtlas.Proofs.Symbols.Supertypes
